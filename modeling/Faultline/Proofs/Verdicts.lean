import Mathlib.Data.List.NodupEquivFin
import Faultline.Proofs.Evidence

/-! # What verdicts mean

A verdict goes by the methods of the recorded Thrift calls, in order. Whether a sequence occurs in
them is told in a single pass that never looks back: it takes each call that it can use, and misses
no sequence that a cleverer choice of calls would find (`le_met_iff`).
-/

namespace Faultline.Verification

/-! ## A single pass -/

/-- How much of a sequence has been met after a pass over the calls. A call that is expected next is
    met and any other is passed over, until all of the sequence has been met. -/
def met (expected : List String) : (sofar : Nat) → (calls : List String) → Nat
  | sofar, [] => sofar
  | sofar, call :: rest =>
    if sofar = expected.length then sofar
    else met expected (if expected[sofar]? = some call then sofar + 1 else sofar) rest

theorem le_met (expected : List String) (sofar : Nat) (calls : List String) :
    sofar ≤ met expected sofar calls := by
  induction calls generalizing sofar with
  | nil => exact Nat.le_refl sofar
  | cons call rest ih =>
      rw [met]
      split
      · exact Nat.le_refl sofar
      · refine Nat.le_trans ?_ (ih _)
        split <;> omega

theorem met_le {expected : List String} {sofar : Nat} (h : sofar ≤ expected.length)
    (calls : List String) : met expected sofar calls ≤ expected.length := by
  induction calls generalizing sofar with
  | nil => exact h
  | cons call rest ih =>
      rw [met]
      split
      · exact h
      · apply ih
        split <;> omega

/-- One call more: the next of the sequence has been met with it or not. -/
theorem met_cons (front back : List String) (b call : String) (rest : List String) :
    met (front ++ b :: back) front.length (call :: rest) =
      if b = call then met ((front ++ [b]) ++ back) (front ++ [b]).length rest
      else met (front ++ b :: back) front.length rest := by
  have unfinished : front.length ≠ (front ++ b :: back).length := by
    rw [List.length_append, List.length_cons]
    omega
  have next : (front ++ b :: back)[front.length]? = some b := by simp
  rw [met, if_neg unfinished]
  by_cases same : b = call
  · simp [same]
  · simp [same]

/-- The pass meets as much of what is left of a sequence as occurs in the calls at all. -/
theorem le_met_iff {front back calls : List String} {n : Nat} (h : n ≤ back.length) :
    front.length + n ≤ met (front ++ back) front.length calls ↔ (back.take n).Sublist calls := by
  induction calls generalizing front back n with
  | nil =>
      rw [met, List.sublist_nil, List.take_eq_nil_iff, ← List.length_eq_zero_iff]
      omega
  | cons call rest ih =>
      cases n with
      | zero => simpa using le_met ..
      | succ n =>
          cases back with
          | nil => cases h
          | cons b back =>
              rw [met_cons, List.take_succ_cons]
              by_cases same : b = call
              · -- Taking the call at once is never worse than waiting for a later one.
                subst same
                have onward := @ih (front ++ [b]) back n (Nat.le_of_succ_le_succ h)
                rw [List.length_append, List.length_singleton] at onward
                rw [if_pos rfl, List.cons_sublist_cons, ← onward, List.length_append,
                  List.length_singleton]
                omega
              · rw [if_neg same, ih h, List.take_succ_cons, List.cons_sublist_cons']
                simp [same]

theorem met_all_iff {expected calls : List String} :
    met expected 0 calls = expected.length ↔ expected.Sublist calls := by
  have most := met_le (Nat.zero_le expected.length) calls
  have reached := @le_met_iff [] expected calls expected.length (Nat.le_refl _)
  rw [List.take_length, List.nil_append, List.length_nil] at reached
  rw [← reached]
  omega

example : met ["a", "b", "a"] 0 ["a", "c", "a", "b", "b", "a"] = 3 := by decide

/-! ## Verdicts on records -/

/-- What is asked is so, going by these records. -/
def Verified (records : List Call.Record) (r : Request) : Prop :=
  (Verdict.ofRecords records r).verified = true

theorem verified_holds {records : List Call.Record} {r : Request} :
    Verified records r ↔ r.Holds (Call.methods records) := Verdict.verified_iff

theorem verified_count {records : List Call.Record} {method : String} {n : Number} :
    Verified records (.count method n) ↔ n.toNat? = some ((Call.methods records).count method) := by
  rw [verified_holds, Number.toNat?_eq_some]
  exact eq_comm

theorem verified_occurs {records : List Call.Record} {method : String} :
    Verified records (.occurs method) ↔ 1 ≤ (Call.methods records).count method := by
  rw [verified_holds]
  exact List.count_pos_iff.symm

/-- Downloads have no method. -/
theorem methods_filter (records : List Call.Record) :
    Call.methods (records.filter (·.method?.isSome)) = Call.methods records := by
  rw [Call.methods, Call.methods, List.filterMap_filter]
  congr 1
  funext r
  cases r.method? <;> rfl

/-- What the verdicts on records mean, by the methods of the Thrift calls among them. -/
structure Meaning (records : List Call.Record) (methods : List String) : Prop where
  actual : ∀ r, (Verdict.ofRecords records r).actual = methods
  exact : ∀ expected, Verified records (.sequence .exact expected) ↔ methods = expected
  /-- The expected methods stand at ascending places. -/
  contained : ∀ expected, Verified records (.sequence .contained expected) ↔
    ∃ place : Fin expected.length ↪o Fin methods.length,
      ∀ i, expected.get i = methods.get (place i)
  singlePass : ∀ expected, Verified records (.sequence .contained expected) ↔
    met expected 0 methods = expected.length
  count : ∀ method n, Verified records (.count method n) ↔ n.toNat? = some (methods.count method)
  occurs : ∀ method, Verified records (.occurs method) ↔ 1 ≤ methods.count method
  exact_contained : ∀ expected, Verified records (.sequence .exact expected) →
    Verified records (.sequence .contained expected)
  /-- The count that is told is the number of times a method can be met. -/
  repeated : ∀ r method, r.method? = some method →
    ∃ n, (Verdict.ofRecords records r).actualCount? = some (.ofNat n) ∧
      ∀ k, Verified records (.sequence .contained (List.replicate k method)) ↔ k ≤ n
  occurs_contained : ∀ method, Verified records (.occurs method) ↔
    Verified records (.sequence .contained [method])
  occurs_counted : ∀ method, Verified records (.occurs method) ↔
    ¬ Verified records (.count method (.ofNat 0))
  /-- Records with the same Thrift calls, whatever downloads are between them, have the same
      verdicts. -/
  downloads : ∀ others : List Call.Record,
    others.filter (·.method?.isSome) = records.filter (·.method?.isSome) →
    ∀ r, Verdict.ofRecords others r = Verdict.ofRecords records r

theorem verdict_meaning (records : List Call.Record) :
    Meaning records (Call.methods records) where
  actual := fun r => Verdict.actual_ofMethods (Call.methods records) r
  exact := fun expected => verified_holds
  contained := fun expected =>
    verified_holds.trans List.sublist_iff_exists_fin_orderEmbedding_get_eq
  singlePass := fun expected => verified_holds.trans met_all_iff.symm
  count := fun method n => verified_count
  occurs := fun method => verified_occurs
  exact_contained := by
    intro expected exact
    rw [verified_holds] at exact ⊢
    exact exact.symm ▸ List.Sublist.refl _
  repeated := by
    intro r method asked
    refine ⟨_, Verdict.actualCount?_ofMethods _ asked, fun k => ?_⟩
    rw [verified_holds]
    exact List.replicate_sublist_iff
  occurs_contained := by
    intro method
    rw [verified_holds, verified_holds]
    exact List.singleton_sublist.symm
  occurs_counted := by
    intro method
    have zero : (Number.ofNat 0).toNat? = some 0 := Number.toNat?_eq_some.mpr rfl
    rw [verified_occurs, verified_count, zero, Option.some.injEq]
    omega
  downloads := by
    intro others same r
    rw [Verdict.ofRecords, Verdict.ofRecords, ← methods_filter others, same, methods_filter]

end Faultline.Verification
