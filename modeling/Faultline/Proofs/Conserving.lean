import Mathlib.Algebra.Ring.Nat
import Faultline.Call.History

/-! # Records are accounted for

A history is used time and again: a record is appended, all records are forgotten, or a snapshot of
them is taken. Whatever was appended is held, or an answer has told that it was evicted or removed
(`records_conserved`).

Where records stand in a list that is changed in place, a list that was handed out could be the same
one. `InPlace` is a history with such lists. It answers as a history does, and each snapshot still
reads at the end as it did when it was taken (`InPlace.Represents.answers`).
-/

namespace Faultline.Call.History

/-! ## Uses and their answers -/

/-- What a history is used for. -/
inductive Use where
  | append (r : Record)
  | clear
  | snapshot
  deriving DecidableEq

def Use.isAppend : Use → Bool
  | append _ => true
  | clear | snapshot => false

/-- What a use is answered with. -/
inductive Answer (Snapshot : Type) where
  /-- How many records were evicted for the new one. -/
  | evicted (n : Nat)
  /-- How many records were forgotten. -/
  | removed (n : Nat)
  | taken (s : Snapshot)
  deriving DecidableEq

namespace Answer

variable {α β : Type}

def evictions : Answer α → Nat
  | evicted n => n
  | removed _ | taken _ => 0

def removals : Answer α → Nat
  | removed n => n
  | evicted _ | taken _ => 0

def map (f : α → β) : Answer α → Answer β
  | evicted n => evicted n
  | removed n => removed n
  | taken s => taken (f s)

end Answer

/-- What a use is answered with, and the history after it. -/
def use (h : History) : Use → Answer (List Record) × History
  | .append r => (.evicted h.overflow, h.append r)
  | .clear => (.removed h.size, h.clear)
  | .snapshot => (.taken h.records, h)

def after (h : History) : List Use → History
  | [] => h
  | u :: rest => (h.use u).2.after rest

def answers (h : History) : List Use → List (Answer (List Record))
  | [] => []
  | u :: rest => (h.use u).1 :: (h.use u).2.answers rest

variable (h : History)

theorem after_append (uses more : List Use) :
    h.after (uses ++ more) = (h.after uses).after more := by
  induction uses generalizing h with
  | nil => rfl
  | cons u rest ih => exact ih (h.use u).2

theorem answers_append (uses more : List Use) :
    h.answers (uses ++ more) = h.answers uses ++ (h.after uses).answers more := by
  induction uses generalizing h with
  | nil => rfl
  | cons u rest ih => exact congrArg ((h.use u).1 :: ·) (ih (h.use u).2)

/-! ## The account -/

theorem use_capacity (u : Use) : (h.use u).2.capacity = h.capacity := by
  cases u <;> rfl

theorem use_fits (fits : h.size ≤ h.capacity) (u : Use) : (h.use u).2.size ≤ h.capacity := by
  cases u with
  | append r =>
      have held := h.size_append r
      exact held ▸ Nat.min_le_right ..
  | clear => exact Nat.zero_le _
  | snapshot => exact fits

theorem use_evicted (u : Use) : (h.use u).2.evicted = h.evicted + (h.use u).1.evictions := by
  cases u <;> rfl

/-- The record that a use appends is held or drives out another one. -/
theorem use_balanced (u : Use) :
    (h.use u).2.size + (h.use u).2.evicted + (h.use u).1.removals =
      h.size + h.evicted + if u.isAppend then 1 else 0 := by
  cases u with
  | append r =>
      have held := h.size_append r
      have evicted : (h.append r).evicted = h.evicted + (h.size + 1 - h.capacity) := rfl
      show (h.append r).size + (h.append r).evicted + 0 = h.size + h.evicted + 1
      omega
  | clear =>
      show 0 + h.evicted + h.size = h.size + h.evicted + 0
      omega
  | snapshot => rfl

theorem after_capacity (uses : List Use) : (h.after uses).capacity = h.capacity := by
  induction uses generalizing h with
  | nil => rfl
  | cons u rest ih => exact (ih (h.use u).2).trans (h.use_capacity u)

theorem after_fits (fits : h.size ≤ h.capacity) (uses : List Use) :
    (h.after uses).size ≤ h.capacity := by
  induction uses generalizing h with
  | nil => exact fits
  | cons u rest ih =>
      have next := ih (h.use u).2
      rw [h.use_capacity u] at next
      exact next (h.use_fits fits u)

theorem after_evicted (uses : List Use) :
    (h.after uses).evicted = h.evicted + ((h.answers uses).map Answer.evictions).sum := by
  induction uses generalizing h with
  | nil => rfl
  | cons u rest ih =>
      have one := h.use_evicted u
      have next := ih (h.use u).2
      simp only [after, answers, List.map_cons, List.sum_cons]
      omega

theorem after_balanced (uses : List Use) :
    (h.after uses).size + (h.after uses).evicted + ((h.answers uses).map Answer.removals).sum =
      h.size + h.evicted + uses.countP Use.isAppend := by
  induction uses generalizing h with
  | nil => rfl
  | cons u rest ih =>
      have one := h.use_balanced u
      have next := ih (h.use u).2
      simp only [after, answers, List.map_cons, List.sum_cons, List.countP_cons]
      omega

/-! ## Records changed in place -/

/-- A history whose records are changed in place. Lists are known by their places in a memory. -/
structure InPlace where
  capacity : Nat
  memory : List (List Record)
  /-- The place of the list that the history holds. -/
  own : Nat
  evicted : Nat

namespace InPlace

def fresh (capacity : Nat) : InPlace := ⟨capacity, [[]], 0, 0⟩

def records (m : InPlace) : List Record := (m.memory[m.own]?).getD []

/-- Changes the list that the history holds, where it is. -/
def change (m : InPlace) (f : List Record → List Record) : InPlace :=
  { m with memory := m.memory.modify m.own f }

/-- Puts a list at a new place. -/
def allot (m : InPlace) (records : List Record) : InPlace :=
  { m with memory := m.memory ++ [records] }

def append (m : InPlace) (r : Record) : Answer Nat × InPlace :=
  let longer := m.change (· ++ [r])
  let size := longer.records.length
  if size ≤ m.capacity then (.evicted 0, longer)
  else
    (.evicted (size - m.capacity),
      { longer.change (·.drop (size - m.capacity)) with
        evicted := m.evicted + (size - m.capacity) })

/-- What a use is answered with, and the history after it. A snapshot is a list of its own, and its
    place is the answer. -/
def use (m : InPlace) : Use → Answer Nat × InPlace
  | .append r => m.append r
  | .clear => (.removed m.records.length, { m.allot [] with own := m.memory.length })
  | .snapshot => (.taken m.memory.length, m.allot m.records)

def after (m : InPlace) : List Use → InPlace
  | [] => m
  | u :: rest => (m.use u).2.after rest

def answers (m : InPlace) : List Use → List (Answer Nat)
  | [] => []
  | u :: rest => (m.use u).1 :: (m.use u).2.answers rest

/-- Some list stands at the place, and it is not the one that the history holds. -/
structure IsApart (m : InPlace) (place : Nat) : Prop where
  used : place < m.memory.length
  other : place ≠ m.own

/-- The history that is changed in place is `h`. -/
structure Represents (m : InPlace) (h : History) : Prop where
  capacity : m.capacity = h.capacity
  held : m.memory[m.own]? = some h.records
  evicted : m.evicted = h.evicted

variable {m : InPlace} {h : History} {place : Nat}

theorem allot_used (used : place < m.memory.length) (records : List Record) :
    (m.allot records).memory[place]? = m.memory[place]? :=
  List.getElem?_append_left used

theorem allot_new (m : InPlace) (records : List Record) :
    (m.allot records).memory[m.memory.length]? = some records :=
  List.getElem?_concat_length

theorem length_allot (m : InPlace) (records : List Record) :
    (m.allot records).memory.length = m.memory.length + 1 :=
  List.length_append

theorem length_change (m : InPlace) (f : List Record → List Record) :
    (m.change f).memory.length = m.memory.length :=
  List.length_modify ..

/-! ### What was handed out -/

namespace IsApart

theorem change (apart : m.IsApart place) (f : List Record → List Record) :
    (m.change f).memory[place]? = m.memory[place]? :=
  List.getElem?_modify_ne f m.memory apart.other.symm

theorem changed (apart : m.IsApart place) (f : List Record → List Record) :
    (m.change f).IsApart place :=
  ⟨m.length_change f ▸ apart.used, apart.other⟩

theorem use (apart : m.IsApart place) (u : Use) :
    (m.use u).2.memory[place]? = m.memory[place]? ∧ (m.use u).2.IsApart place := by
  have longer (records : List Record) : place < (m.allot records).memory.length := by
    rw [length_allot]
    exact Nat.lt_succ_of_lt apart.used
  cases u with
  | append r =>
      have pushed := apart.changed (· ++ [r])
      simp only [InPlace.use, append]
      split
      · exact ⟨apart.change _, pushed⟩
      · have cut := pushed.changed (·.drop ((m.change (· ++ [r])).records.length - m.capacity))
        exact ⟨(pushed.change _).trans (apart.change _), cut.used, cut.other⟩
  | clear => exact ⟨allot_used apart.used _, longer _, Nat.ne_of_lt apart.used⟩
  | snapshot => exact ⟨allot_used apart.used _, longer _, apart.other⟩

theorem after (apart : m.IsApart place) (uses : List Use) :
    (m.after uses).memory[place]? = m.memory[place]? := by
  induction uses generalizing m with
  | nil => rfl
  | cons u rest ih =>
      obtain ⟨same, still⟩ := apart.use u
      exact (ih still).trans same

end IsApart

/-! ### What the history holds -/

namespace Represents

theorem records (k : m.Represents h) : m.records = h.records := by
  rw [InPlace.records, k.held, Option.getD_some]

theorem used (k : m.Represents h) : m.own < m.memory.length :=
  (List.getElem?_eq_some_iff.mp k.held).1

theorem change (k : m.Represents h) (f : List Record → List Record) :
    (m.change f).Represents { h with records := f h.records } := by
  refine ⟨k.capacity, ?_, k.evicted⟩
  show (m.memory.modify m.own f)[m.own]? = some (f h.records)
  rw [List.getElem?_modify_eq, k.held]
  rfl

theorem append (k : m.Represents h) (r : Record) :
    (m.append r).1 = .evicted h.overflow ∧ (m.append r).2.Represents (h.append r) := by
  have longer := k.change (· ++ [r])
  have size : (m.change (· ++ [r])).records.length = h.records.length + 1 := by
    rw [longer.records, List.length_append, List.length_singleton]
  simp only [InPlace.append, size, k.capacity]
  split
  · rename_i free
    have none : h.overflow = 0 := Nat.sub_eq_zero_of_le free
    simpa only [none, History.append, List.drop_zero, Nat.add_zero, true_and] using longer
  · have shorter := longer.change (·.drop h.overflow)
    exact ⟨rfl, shorter.capacity, shorter.held, congrArg (· + h.overflow) k.evicted⟩

/-- When an answer is given, what it hands out is what the history shows. -/
theorem use (k : m.Represents h) (u : Use) :
    (m.use u).1.map ((m.use u).2.memory[·]?) = (h.use u).1.map some ∧
      (m.use u).2.Represents (h.use u).2 := by
  cases u with
  | append r =>
      obtain ⟨told, still⟩ := k.append r
      exact ⟨congrArg (Answer.map _) told, still⟩
  | clear =>
      have size : m.records.length = h.size := congrArg List.length k.records
      exact ⟨congrArg Answer.removed size, k.capacity, m.allot_new [], k.evicted⟩
  | snapshot =>
      have copied := (m.allot_new m.records).trans (congrArg some k.records)
      have held := (allot_used k.used m.records).trans k.held
      exact ⟨congrArg Answer.taken copied, k.capacity, held, k.evicted⟩

theorem after (k : m.Represents h) (uses : List Use) :
    (m.after uses).Represents (h.after uses) := by
  induction uses generalizing m h with
  | nil => exact k
  | cons u rest ih => exact ih (k.use u).2

/-- What is handed out is not the list that the history goes on with. -/
theorem taken (k : m.Represents h) {u : Use} (told : (m.use u).1 = .taken place) :
    (m.use u).2.IsApart place := by
  cases u with
  | append r => cases (k.append r).1.symm.trans told
  | clear => cases told
  | snapshot =>
      obtain rfl := Answer.taken.inj told
      exact ⟨m.length_allot m.records ▸ Nat.lt_succ_self _, Nat.ne_of_gt k.used⟩

/-- Read at the end of all uses, the snapshots that were handed out show what the history showed
    when they were taken. -/
theorem answers (k : m.Represents h) (uses : List Use) :
    (m.answers uses).map (Answer.map ((m.after uses).memory[·]?)) =
      (h.answers uses).map (Answer.map some) := by
  induction uses generalizing m h with
  | nil => rfl
  | cons u rest ih =>
      obtain ⟨told, still⟩ := k.use u
      -- Later uses change the history's own list, and what was handed out now is apart from it.
      have head : (m.use u).1.map (((m.use u).2.after rest).memory[·]?) =
          (m.use u).1.map ((m.use u).2.memory[·]?) := by
        cases answer : (m.use u).1 with
        | evicted | removed => rfl
        | taken place => exact congrArg Answer.taken ((k.taken answer).after rest)
      simp only [InPlace.answers, InPlace.after, History.answers, List.map_cons, head, told,
        ih still]

end Represents

theorem fresh_represents (capacity : Nat) : (fresh capacity).Represents ⟨capacity, [], 0⟩ :=
  ⟨rfl, rfl, rfl⟩

end InPlace

/-! ## All uses of a history -/

/-- What is true of a history that was fresh and has had some uses. -/
structure Accounted (capacity : Nat) (h : History) (uses : List Use) : Prop where
  fits : (h.after uses).size ≤ capacity
  /-- Each record that was appended is held, was evicted, or was removed by clearing. -/
  appended : uses.countP Use.isAppend =
    (h.after uses).size + (h.after uses).evicted + ((h.answers uses).map Answer.removals).sum
  evicted : (h.after uses).evicted = ((h.answers uses).map Answer.evictions).sum
  append : ∀ r, h.answers (uses ++ [.append r]) =
    h.answers uses ++ [.evicted (if (h.after uses).size < capacity then 0 else 1)]
  clear : h.answers (uses ++ [.clear]) = h.answers uses ++ [.removed (h.after uses).size] ∧
    (h.after (uses ++ [.clear])).size = 0 ∧
    (h.after (uses ++ [.clear])).evicted = (h.after uses).evicted
  snapshot : ∃ records, h.answers (uses ++ [.snapshot]) = h.answers uses ++ [.taken records] ∧
    records.length = (h.after uses).size ∧ h.after (uses ++ [.snapshot]) = h.after uses
  /-- Where records are changed in place, the history comes to the same, and every snapshot reads
      at the end as it did when it was taken. -/
  inPlace : ((InPlace.fresh capacity).after uses).Represents (h.after uses) ∧
    ((InPlace.fresh capacity).answers uses).map
        (Answer.map (((InPlace.fresh capacity).after uses).memory[·]?)) =
      (h.answers uses).map (Answer.map some)

theorem ofCapacity?_ofNat {capacity : Nat} (room : 1 ≤ capacity) :
    ofCapacity? (.ofNat capacity) = .ok ⟨capacity, [], 0⟩ := by
  have positive : (Number.ofNat capacity).isPositiveInteger = true :=
    Number.isPositiveInteger_iff.mpr ⟨capacity, room, rfl⟩
  have integer : (Number.ofNat capacity).toNat? = some capacity := Number.toNat?_eq_some.mpr rfl
  rw [ofCapacity?, if_pos positive, integer, Option.getD_some]

/-- However a fresh history is used, no record is lost without being counted, a full history evicts
    one record for each new one, and no snapshot changes once it is taken. -/
theorem records_conserved {capacity : Nat} (room : 1 ≤ capacity) :
    ∃ h, ofCapacity? (.ofNat capacity) = .ok h ∧ ∀ uses, Accounted capacity h uses := by
  let h : History := ⟨capacity, [], 0⟩
  refine ⟨h, ofCapacity?_ofNat room, ?_⟩
  intro uses
  have kept : (h.after uses).capacity = capacity := h.after_capacity uses
  have fits : (h.after uses).size ≤ capacity := h.after_fits (Nat.zero_le _) uses
  have balance : _ = 0 + 0 + uses.countP Use.isAppend := h.after_balanced uses
  have evicted : _ = 0 + ((h.answers uses).map Answer.evictions).sum := h.after_evicted uses
  have start := InPlace.fresh_represents capacity
  refine ⟨fits, ?_, ?_, ?_, ?_, ?_, start.after uses, start.answers uses⟩
  · rw [balance, Nat.zero_add]
  · rw [evicted, Nat.zero_add]
  · intro r
    have overflow := overflow_eq (kept.symm ▸ fits)
    rw [kept] at overflow
    rw [h.answers_append, ← overflow]
    rfl
  · rw [h.answers_append, h.after_append]
    exact ⟨rfl, rfl, rfl⟩
  · rw [h.answers_append, h.after_append]
    exact ⟨(h.after uses).records, rfl, rfl, rfl⟩

/-- Two snapshots are taken, and between them the oldest record makes room for another one and all
    are forgotten. -/
def renewed : List Use :=
  [.append (.download ⟨0⟩ "first"), .append (.download ⟨1⟩ "second"), .snapshot,
    .append (.download ⟨2⟩ "third"), .clear, .append (.download ⟨3⟩ "fourth"), .snapshot]

theorem records_conserved_with_room_for_two :
    1 ≤ 2 ∧ ∃ h, ofCapacity? (.ofNat 2) = .ok h ∧ Accounted 2 h renewed ∧
      h.answers renewed =
        [.evicted 0, .evicted 0, .taken [.download ⟨0⟩ "first", .download ⟨1⟩ "second"],
          .evicted 1, .removed 2, .evicted 0, .taken [.download ⟨3⟩ "fourth"]] ∧
      (InPlace.fresh 2).answers renewed =
        [.evicted 0, .evicted 0, .taken 1, .evicted 1, .removed 2, .evicted 0, .taken 3] := by
  have room : 1 ≤ 2 := by decide
  obtain ⟨h, fresh, accounted⟩ := records_conserved room
  obtain rfl : ⟨2, [], 0⟩ = h := Except.ok.inj ((ofCapacity?_ofNat room).symm.trans fresh)
  exact ⟨room, _, fresh, accounted renewed, by decide, by decide⟩

end Faultline.Call.History
