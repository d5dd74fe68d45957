import Faultline.Instant
import Mathlib.Algebra.Ring.Nat

/-! # Reading instants back

The days are counted back from a date of the calendar (`Date.days_dateOf`), and the parts of a
written instant have known widths but for the year, which is all that is left in front of them. So
instants with a written form have different ones (`Instant.write_injective`).
-/

namespace Faultline.Instant

/-! ## Years of an era

An era has four hundred years, each from one March to the next, so its last day is a leap day that
occurs once in four hundred years.
-/

/-- The year of an era in which its `n`th day lies, as it is computed. -/
def yearOfEra (n : Nat) : Nat := (n - n / 1460 + n / 36524 - n / 146096) / 365

/-- The first day of a year of an era. -/
def firstDay (year : Nat) : Nat := 365 * year + year / 4 - year / 100

/-- The days before a month that is counted from March. -/
def daysBefore (month : Nat) : Nat := (153 * month + 2) / 5

/-- A day lies in the year that has as many days before it as `leap` leap days, of which `century`
    are left out, account for. -/
theorem year_of_leaps {n year leap century : Nat}
    (leaps : 1460 * leap ≤ n ∧ n < 1460 * leap + 1460)
    (centuries : 36524 * century ≤ n ∧ n < 36524 * century + 36524) (inside : century < 4)
    (years : 365 * year ≤ n - leap + century ∧ n - leap + century < 365 * year + 365) :
    year < 400 ∧ firstDay year ≤ n ∧ n ≤ firstDay year + 365 := by
  have same : year / 100 = century := by
    rcases century with _ | _ | _ | _ | _ <;> omega
  have low : year / 4 ≤ leap := by omega
  have high : leap ≤ year / 4 + 1 := by omega
  rw [firstDay, same]
  omega

/-- The year that is computed has begun by that day and is not over. -/
theorem firstDay_yearOfEra {n : Nat} (inside : n < 146097) :
    yearOfEra n < 400 ∧ firstDay (yearOfEra n) ≤ n ∧ n ≤ firstDay (yearOfEra n) + 365 := by
  by_cases last : n = 146096
  · subst last
    decide
  · have whole : n / 146096 = 0 := by omega
    have shorter : yearOfEra n = (n - n / 1460 + n / 36524) / 365 := by
      rw [yearOfEra, whole, Nat.sub_zero]
    rw [shorter]
    have leaps : 1460 * (n / 1460) ≤ n ∧ n < 1460 * (n / 1460) + 1460 := by omega
    have centuries : 36524 * (n / 36524) ≤ n ∧ n < 36524 * (n / 36524) + 36524 := by omega
    exact year_of_leaps leaps centuries (by omega) (by omega)

/-- The month that is computed has begun by that day of the year and is not over. -/
theorem daysBefore_month {day month : Nat} (inside : day ≤ 365)
    (computed : month = (5 * day + 2) / 153) :
    month < 12 ∧ daysBefore month ≤ day ∧ day < daysBefore month + 31 := by
  unfold daysBefore
  omega

/-! ## Dates -/

/-- The days from the first of January 1970 to a date. -/
def Date.days (d : Date) : Int :=
  let year := if d.month ≤ 2 then d.year - 1 else d.year
  let month := if d.month ≤ 2 then d.month + 9 else d.month - 3
  year / 400 * 146097 + firstDay (year % 400).toNat + daysBefore month + d.day - 719469

/-- The day that is `days` days after the first of January 1970 lies in the given year of an era,
    and in the given month of that year, counted from March, with `day` days of the month before
    it. -/
structure Lies (days era : Int) (year month day : Nat) : Prop where
  inEra : year < 400
  inYear : month < 12
  inMonth : day < 31
  counted : days = era * 146097 + firstDay year + daysBefore month + day - 719468
  dated : dateOf days = ⟨year + era * 400 + (if month < 10 then 0 else 1),
    if month < 10 then month + 3 else month - 9, day + 1⟩

theorem exists_lies (days : Int) : ∃ era year month day, Lies days era year month day := by
  obtain ⟨n, same⟩ : ∃ n, n = (Int.fmod (days + 719468) 146097).toNat := ⟨_, rfl⟩
  have era := Int.fdiv_eq_ediv_of_nonneg (days + 719468) (by decide : (0 : Int) ≤ 146097)
  have rest := Int.fmod_eq_emod_of_nonneg (days + 719468) (by decide : (0 : Int) ≤ 146097)
  obtain ⟨within, begun, going⟩ := firstDay_yearOfEra (n := n) (by omega)
  obtain ⟨d, inYear⟩ : ∃ d, d = n - firstDay (yearOfEra n) := ⟨_, rfl⟩
  obtain ⟨m, computed⟩ : ∃ m, m = (5 * d + 2) / 153 := ⟨_, rfl⟩
  obtain ⟨inside, started, ends⟩ := daysBefore_month (by omega) computed
  refine ⟨Int.fdiv (days + 719468) 146097, yearOfEra n, m, d - daysBefore m, ?_⟩
  refine ⟨within, inside, by omega, by omega, ?_⟩
  have written : dateOf days = ⟨yearOfEra n + Int.fdiv (days + 719468) 146097 * 400 +
      (if (if m < 10 then m + 3 else m - 9) ≤ 2 then 1 else 0),
      if m < 10 then m + 3 else m - 9, d - daysBefore m + 1⟩ := by
    subst computed inYear same
    rfl
  rw [written]
  congr 2
  -- January and February close the year that began in March.
  by_cases early : m < 10
  · have late : ¬ m + 3 ≤ 2 := by omega
    rw [if_pos early, if_neg late, if_pos early]
  · have late : m - 9 ≤ 2 := by omega
    rw [if_neg early, if_pos late, if_neg early]

/-- The days are counted back from the date that they make. -/
theorem Date.days_dateOf (days : Int) : (dateOf days).days = days := by
  obtain ⟨era, year, month, day, lies⟩ := exists_lies days
  have inEra := lies.inEra
  have counted := lies.counted
  rw [lies.dated]
  by_cases early : month < 10
  · have late : ¬ month + 3 ≤ 2 := by omega
    have century : ((year + era * 400 + 0) % 400).toNat = year := by omega
    simp only [Date.days, early, late, if_true, if_false, century, Nat.add_sub_cancel]
    omega
  · have late : month - 9 ≤ 2 := by
      have := lies.inYear
      omega
    have century : ((year + era * 400 + 1 - 1) % 400).toNat = year := by omega
    have counting : month - 9 + 9 = month := by omega
    simp only [Date.days, early, late, if_true, if_false, century, counting]
    omega

theorem dateOf_injective {a b : Int} (same : dateOf a = dateOf b) : a = b := by
  rw [← Date.days_dateOf a, same, Date.days_dateOf]

/-- A date whose parts have no more digits than are written. -/
structure Date.Fits (d : Date) : Prop where
  year : d.year.natAbs < 10 ^ 6
  month : d.month < 10 ^ 2
  day : d.day < 10 ^ 2

theorem dateOf_fits {days : Int} (near : days.natAbs ≤ 100000000) : (dateOf days).Fits := by
  obtain ⟨era, year, month, day, lies⟩ := exists_lies days
  have inEra := lies.inEra
  have inYear := lies.inYear
  have inMonth := lies.inMonth
  have counted := lies.counted
  have begun : firstDay year ≤ 146097 := by
    unfold firstDay
    omega
  have before : daysBefore month ≤ 365 := by
    unfold daysBefore
    omega
  rw [lies.dated]
  constructor
  · dsimp only
    split <;> omega
  · dsimp only
    split <;> omega
  · dsimp only
    omega

/-! ## Written parts -/

theorem length_padded (width n : Nat) : (padded width n).length = width := by
  induction width generalizing n with
  | zero => rfl
  | succ width ih => rw [padded, List.length_append, ih, List.length_singleton]

theorem digit_injective {m n : Nat} (hm : m < 10) (hn : n < 10)
    (same : Char.ofNat ('0'.toNat + m) = Char.ofNat ('0'.toNat + n)) : m = n := by
  have distinct : ∀ m < 10, ∀ n < 10,
      Char.ofNat ('0'.toNat + m) = Char.ofNat ('0'.toNat + n) → m = n := by
    decide
  exact distinct m hm n hn same

theorem padded_injective {width m n : Nat} (hm : m < 10 ^ width) (hn : n < 10 ^ width)
    (same : padded width m = padded width n) : m = n := by
  induction width generalizing m n with
  | zero => omega
  | succ width ih =>
      obtain ⟨front, last⟩ := List.append_inj' same rfl
      have tens := ih (m := m / 10) (n := n / 10) (by omega) (by omega) front
      have ones := digit_injective (m := m % 10) (n := n % 10) (by omega) (by omega)
        (List.cons.inj last).1
      omega

/-- A number of known width is read off the front of a text. -/
theorem padded_append {width m n : Nat} {r s : List Char} (hm : m < 10 ^ width)
    (hn : n < 10 ^ width) (same : padded width m ++ r = padded width n ++ s) : m = n ∧ r = s := by
  obtain ⟨front, rest⟩ := List.append_inj same (by rw [length_padded, length_padded])
  exact ⟨padded_injective hm hn front, rest⟩

/-- The years that are written with four digits. -/
def IsShort (y : Int) : Prop := 0 ≤ y ∧ y ≤ 9999

theorem yearText_short {y : Int} (short : IsShort y) : yearText y = padded 4 y.toNat := by
  unfold IsShort at short
  simp [yearText, short]

theorem yearText_long {y : Int} (long : ¬ IsShort y) :
    yearText y = (if y < 0 then '-' else '+') :: padded 6 y.natAbs := by
  unfold IsShort at long
  rw [yearText, ← Bool.decide_and, decide_eq_false long]
  rfl

theorem yearText_injective {y z : Int} (hy : y.natAbs < 10 ^ 6) (hz : z.natAbs < 10 ^ 6)
    (same : yearText y = yearText z) : y = z := by
  have alike := congrArg List.length same
  by_cases short : IsShort y
  · by_cases short' : IsShort z
    · rw [yearText_short short, yearText_short short'] at same
      unfold IsShort at short short'
      have digits := padded_injective (by omega) (by omega) same
      omega
    · simp [yearText_short short, yearText_long short', length_padded] at alike
  · by_cases short' : IsShort z
    · simp [yearText_long short, yearText_short short', length_padded] at alike
    · rw [yearText_long short, yearText_long short'] at same
      obtain ⟨sign, digits⟩ := List.cons.inj same
      have sized := padded_injective hy hz digits
      have signed : y < 0 ↔ z < 0 := by
        by_cases negative : y < 0 <;> by_cases negative' : z < 0 <;>
          simp [negative, negative'] at sign ⊢
      omega

/-! ## Written instants -/

def dateText (d : Date) : List Char :=
  yearText d.year ++ '-' :: (padded 2 d.month ++ '-' :: padded 2 d.day)

/-- The time of the day, `ms` milliseconds after its start. -/
def clockText (ms : Nat) : List Char :=
  padded 2 (ms / 3600000) ++ ':' :: (padded 2 (ms / 60000 % 60) ++
    ':' :: (padded 2 (ms / 1000 % 60) ++ '.' :: (padded 3 (ms % 1000) ++ ['Z'])))

theorem dateText_injective {d e : Date} (hd : d.Fits) (he : e.Fits)
    (same : dateText d = dateText e) : d = e := by
  obtain ⟨years, rest⟩ := List.append_inj' same (by simp [length_padded])
  obtain ⟨months, rest⟩ := padded_append hd.month he.month (List.cons.inj rest).2
  have year := yearText_injective hd.year he.year years
  have day := padded_injective hd.day he.day (List.cons.inj rest).2
  cases d
  cases e
  simp_all

theorem clockText_injective {m n : Nat} (hm : m < 86400000) (hn : n < 86400000)
    (same : clockText m = clockText n) : m = n := by
  obtain ⟨hours, rest⟩ := padded_append (by omega) (by omega) same
  obtain ⟨minutes, rest⟩ := padded_append (by omega) (by omega) (List.cons.inj rest).2
  obtain ⟨seconds, rest⟩ := padded_append (by omega) (by omega) (List.cons.inj rest).2
  obtain ⟨millis, _⟩ := padded_append (by omega) (by omega) (List.cons.inj rest).2
  omega

theorem write_eq (t : Instant) :
    t.write = dateText (dateOf (t.ms / 86400000)) ++
      'T' :: clockText (t.ms % 86400000).toNat := by
  rw [← Int.fdiv_eq_ediv_of_nonneg t.ms (by decide), ← Int.fmod_eq_emod_of_nonneg t.ms (by decide)]
  simp [write, dateText, clockText]

/-- Instants with a written form have different ones. -/
theorem write_injective {a b : Instant} (ha : a.inRange) (hb : b.inRange)
    (same : a.write = b.write) : a = b := by
  simp only [inRange, decide_eq_true_eq] at ha hb
  unfold limit at ha hb
  rw [write_eq, write_eq] at same
  obtain ⟨dates, clocks⟩ := List.append_inj' same (by simp [clockText, length_padded])
  have date := dateText_injective (dateOf_fits (by omega)) (dateOf_fits (by omega)) dates
  have day := dateOf_injective date
  have time := clockText_injective (by omega) (by omega) (List.cons.inj clocks).2
  have ms : a.ms = b.ms := by omega
  exact congrArg mk ms

example : (Instant.mk (-limit)).write = "-271821-04-20T00:00:00.000Z".toList := by
  decide +kernel

end Faultline.Instant
