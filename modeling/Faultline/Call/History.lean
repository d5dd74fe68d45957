import Faultline.Call.Record

/-! # The call history

The most recent records, oldest first, never more than the capacity. What does not fit any more is
evicted and counted.
-/

namespace Faultline.Call

/-- A bounded history. -/
structure History where
  capacity : Nat
  records : List Record
  evicted : Nat
  deriving DecidableEq

namespace History

/-- How many records are kept if nothing else is asked for. -/
def defaultCapacity : Nat := 1000

/-- An empty history. The capacity must be a positive integer. -/
def ofCapacity? (capacity : Number) : Except Failure History :=
  if capacity.isPositiveInteger then .ok ⟨(capacity.toNat?).getD 0, [], 0⟩
  else .error (.capacity capacity)

def size (h : History) : Nat := h.records.length

def overflow (h : History) : Nat := h.records.length + 1 - h.capacity

/-- Adds a record at the end and drops from the front what is too much. -/
def append (h : History) (r : Record) : History :=
  { h with
    records := (h.records ++ [r]).drop h.overflow
    evicted := h.evicted + h.overflow }

/-- Forgets all records; the count of the evicted ones stays. -/
def clear (h : History) : History := { h with records := [] }

theorem size_append (h : History) (r : Record) : (h.append r).size = min (h.size + 1) h.capacity := by
  simp only [size, append, overflow, List.length_drop, List.length_append, List.length_singleton]
  omega

/-- A history that fits its capacity evicts nothing while there is room, and one record after
    that. -/
theorem overflow_eq {h : History} (fits : h.size ≤ h.capacity) :
    h.overflow = if h.size < h.capacity then 0 else 1 := by
  unfold size at fits ⊢
  unfold overflow
  split <;> omega

end History

end Faultline.Call
