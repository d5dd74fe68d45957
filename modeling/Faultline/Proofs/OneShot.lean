import Faultline.Proofs.Trace

/-! # Injections are one-shot

Enabling a scenario is good for one injection. In the trace of every run, each injection goes back
to an enabling of its scenario that nothing has undone or used up since, and has the configuration
that came of it; so there are never more injections of a scenario than enablings.
-/

namespace Faultline

open Exchange Injection

/-- The last word on a scenario was that it was enabled, with this configuration in effect. -/
def StandsEnabled (marks : List Mark) (e : Scenario.Enabled) : Prop :=
  ∃ earlier between, marks = earlier ++ .enabled e.name e.config :: between ∧
    ∀ m ∈ between, ¬ m.Concerns e.name

/-- An injection takes a scenario off the board, and only an enabling puts it there. -/
theorem Mark.balance {m : Mark} {b : Board} (fits : m.Fits b) (name : String) :
    (if m.injects name then 1 else 0) + (m.move b name).toList.length ≤
      (if m.enables name then 1 else 0) + (b name).toList.length := by
  by_cases concerned : m.Concerns name
  · cases m with
    | enabled other config =>
        obtain rfl : other = name := concerned
        simp [injects, enables, move]
    | disabled other =>
        obtain rfl : other = name := concerned
        simp [injects, enables, move]
    | disabledAll => simp [injects, enables, move]
    | injected claim =>
        obtain rfl : claim.scenario.name = name := concerned
        have standing : b claim.scenario.name = some claim.scenario.config := fits
        simp [injects, enables, move, standing]
    | reset => exact absurd concerned id
    | recorded r => exact absurd concerned id
  · have silent : m.injects name = false := by
      cases m <;> simp_all [Concerns, injects]
    rw [move_unconcerned concerned, silent]
    simp

namespace Moves

/-- What a board shows in the end was there from the start, or stems from the last word on it. -/
theorem shown {a b : Board} {marks : List Mark} (h : Moves a marks b) {e : Scenario.Enabled}
    (shown : b e.name = some e.config) :
    (a e.name = some e.config ∧ ∀ m ∈ marks, ¬ m.Concerns e.name) ∨ StandsEnabled marks e := by
  induction h with
  | nil => exact .inl ⟨shown, by simp⟩
  | @cons a b m rest fits _ ih =>
      rcases ih shown with ⟨moved, silent⟩ | ⟨earlier, between, rfl, silent⟩
      · by_cases concerned : m.Concerns e.name
        · obtain rfl := Mark.move_concerned concerned moved
          exact .inr ⟨[], rest, rfl, silent⟩
        · rw [Mark.move_unconcerned concerned] at moved
          exact .inl ⟨moved, List.forall_mem_cons.mpr ⟨concerned, silent⟩⟩
      · exact .inr ⟨m :: earlier, between, rfl, silent⟩

theorem injected {a c : Board} {before later : List Mark} {claim : Claim}
    (h : Moves a (before ++ .injected claim :: later) c) :
    ∃ b, Moves a before b ∧ b claim.scenario.name = some claim.scenario.config := by
  obtain ⟨b, first, second⟩ := h.split
  cases second with
  | cons fits _ => exact ⟨b, first, fits⟩

/-- Over any stretch of marks, each injection of a scenario is paid for by an enabling or by what
    was on the board before. -/
theorem count {a b : Board} {marks : List Mark} (h : Moves a marks b) (name : String) :
    marks.countP (·.injects name) + (b name).toList.length ≤
      marks.countP (·.enables name) + (a name).toList.length := by
  induction h with
  | nil => simp
  | @cons a b m rest fits _ ih =>
      have step := Mark.balance fits name
      rw [List.countP_cons, List.countP_cons]
      omega

end Moves

/-- What a claim brings on a flow is what the claimed configuration says: its fault is tried, or
    the flow is held back for as long as it says. -/
def AppliedOnEntering (p : Proxy) (flow : Flow) (purpose : Purpose) (claim : Claim) : Prop :=
  match delaySeconds? claim.scenario.config.fault with
  | none =>
    (p.enter flow purpose).result.2 = .ready claim (attempt claim.scenario.config.fault flow)
  | some seconds =>
    (p.enter flow purpose).result.2 = .waiting claim ∧
      (p.enter flow purpose).now.suspended =
        Proxy.enqueue ⟨dueAt p.clock seconds, p.passages.length, claim⟩ p.suspended

theorem applied_on_entering {p : Proxy} {flow : Flow} {purpose : Purpose} {claim : Claim}
    (h : p.claim? flow purpose = some claim) : AppliedOnEntering p flow purpose claim := by
  unfold AppliedOnEntering
  rcases p.enter_cases flow purpose with
    ⟨none, _, _⟩ | ⟨c, claimed, tried, result, _⟩ | ⟨c, seconds, claimed, held, result, now⟩
  · rw [h] at none
    cases none
  · obtain rfl := Option.some.inj (h.symm.trans claimed)
    rw [tried, result]
  · obtain rfl := Option.some.inj (h.symm.trans claimed)
    rw [held, result, now]
    exact ⟨rfl, rfl⟩

end Faultline
