import Mathlib.Algebra.Order.Group.Int
import Mathlib.Order.Bounds.Defs
import Mathlib.Tactic.IntervalCases
import Mathlib.Tactic.NormNum

/-!
# Dates and seconds

The Gregorian calendar as a count of days since the first of January of 1970
(`DetectBase.daysFromCivil`), with `timegm` for a time of the day in UTC on top of it
(`DetectBase.timegm`). Later dates have larger counts (`DetectBase.daysFromCivil_lt`), so that each
instant has one date in a zone with a fixed offset (`DetectBase.LocalDate.unique`), and the last
second of a date is known (`DetectBase.isGreatest_localDate`).
-/

namespace DetectBase

/-! ### Years and months -/

/-- The year has a day more. -/
def isLeap (y : ℤ) : Bool := y % 4 = 0 ∧ (y % 100 ≠ 0 ∨ y % 400 = 0)

/-- The days from the first of January of the year 1 to that of another one. -/
def daysBeforeYear (y : ℤ) : ℤ := 365 * (y - 1) + (y - 1) / 4 - (y - 1) / 100 + (y - 1) / 400

/-- The days from the first of January to the first of a month. -/
def daysBeforeMonth (y m : ℤ) : ℤ :=
  [0, 31, 59, 90, 120, 151, 181, 212, 243, 273, 304, 334].getD (m - 1).toNat 0 +
    if 2 < m ∧ isLeap y then 1 else 0

/-- The days of a month. -/
def daysInMonth (y m : ℤ) : ℤ :=
  [31, 28, 31, 30, 31, 30, 31, 31, 30, 31, 30, 31].getD (m - 1).toNat 0 +
    if m = 2 ∧ isLeap y then 1 else 0

/-- **The days since the first of January of 1970.** -/
def daysFromCivil (y m d : ℤ) : ℤ :=
  daysBeforeYear y - daysBeforeYear 1970 + daysBeforeMonth y m + (d - 1)

/-- There is such a date. -/
structure IsCivil (y m d : ℤ) : Prop where
  /-- The month is one of the year. -/
  month : 1 ≤ m ∧ m ≤ 12
  /-- The day is one of the month. -/
  day : 1 ≤ d ∧ d ≤ daysInMonth y m

theorem daysBeforeYear_add_one (y : ℤ) :
    daysBeforeYear (y + 1) = daysBeforeYear y + if isLeap y then 366 else 365 := by
  rw [daysBeforeYear, daysBeforeYear]
  cases hleap : isLeap y with
  | true =>
    rw [isLeap, decide_eq_true_eq] at hleap
    rw [if_pos rfl]
    omega
  | false =>
    rw [isLeap, decide_eq_false_iff_not] at hleap
    rw [if_neg Bool.noConfusion]
    omega

theorem daysBeforeYear_add_one_le {y y' : ℤ} (h : y < y') :
    daysBeforeYear (y + 1) ≤ daysBeforeYear y' := by
  obtain ⟨k, rfl⟩ := Int.le.dest (Int.add_one_le_of_lt h)
  clear h
  induction k with
  | zero => rw [Int.natCast_zero, Int.add_zero]
  | succ k ih =>
    have hstep := daysBeforeYear_add_one (y + 1 + k)
    rw [Int.natCast_add, ← Int.add_assoc, Int.natCast_one, hstep]
    split_ifs <;> omega

theorem daysInMonth_pos {y m : ℤ} (h : 1 ≤ m ∧ m ≤ 12) : 0 < daysInMonth y m := by
  obtain ⟨hlow, hhigh⟩ := h
  rw [daysInMonth]
  interval_cases m <;> cases isLeap y <;> decide

theorem daysBeforeMonth_add_one {y m : ℤ} (h : 1 ≤ m ∧ m < 12) :
    daysBeforeMonth y (m + 1) = daysBeforeMonth y m + daysInMonth y m := by
  obtain ⟨hlow, hhigh⟩ := h
  rw [daysBeforeMonth, daysBeforeMonth, daysInMonth]
  interval_cases m <;> cases isLeap y <;> rfl

theorem daysBeforeMonth_add_one_le {y m m' : ℤ} (h : 1 ≤ m) (hlt : m < m') (h' : m' ≤ 12) :
    daysBeforeMonth y (m + 1) ≤ daysBeforeMonth y m' := by
  obtain ⟨k, rfl⟩ := Int.le.dest (Int.add_one_le_of_lt hlt)
  clear hlt
  induction k with
  | zero => rw [Int.natCast_zero, Int.add_zero]
  | succ k ih =>
    have hstep := daysBeforeMonth_add_one (y := y) (m := m + 1 + k) (by omega)
    have hpos := daysInMonth_pos (y := y) (m := m + 1 + k) (by omega)
    have hle := ih (by omega)
    rw [Int.natCast_add, ← Int.add_assoc, Int.natCast_one, hstep]
    omega

/-- The months make up the year. -/
theorem daysBeforeMonth_add_daysInMonth_le {y m : ℤ} (h : 1 ≤ m ∧ m ≤ 12) :
    daysBeforeMonth y m + daysInMonth y m ≤ if isLeap y then 366 else 365 := by
  obtain ⟨hlow, hhigh⟩ := h
  rw [daysBeforeMonth, daysInMonth]
  interval_cases m <;> cases isLeap y <;> decide

theorem daysBeforeMonth_nonneg {y m : ℤ} (h : 1 ≤ m ∧ m ≤ 12) : 0 ≤ daysBeforeMonth y m := by
  obtain ⟨hlow, hhigh⟩ := h
  rw [daysBeforeMonth]
  interval_cases m <;> cases isLeap y <;> decide

/-! ### The order of the dates -/

/-- **Later dates have larger counts.** -/
theorem daysFromCivil_lt {y m d y' m' d' : ℤ} (h : IsCivil y m d) (h' : IsCivil y' m' d')
    (hlt : y < y' ∨ y = y' ∧ (m < m' ∨ m = m' ∧ d < d')) :
    daysFromCivil y m d < daysFromCivil y' m' d' := by
  obtain ⟨hmonth, hday⟩ := h
  obtain ⟨hmonth', hday'⟩ := h'
  rw [daysFromCivil, daysFromCivil]
  rcases hlt with hyear | ⟨rfl, hlt | ⟨rfl, hlt⟩⟩
  · have hyears := daysBeforeYear_add_one_le hyear
    have hmonths := daysBeforeMonth_add_daysInMonth_le (y := y) hmonth
    have hfirst := daysBeforeMonth_nonneg (y := y') hmonth'
    rw [daysBeforeYear_add_one] at hyears
    omega
  · have hmonths := daysBeforeMonth_add_one_le (y := y) hmonth.1 hlt hmonth'.2
    rw [daysBeforeMonth_add_one (by omega)] at hmonths
    omega
  · omega

/-- A count is that of one date. -/
theorem daysFromCivil_inj {y m d y' m' d' : ℤ} (h : IsCivil y m d) (h' : IsCivil y' m' d')
    (heq : daysFromCivil y m d = daysFromCivil y' m' d') : y = y' ∧ m = m' ∧ d = d' := by
  by_contra hne
  rcases lt_trichotomy y y' with hlt | rfl | hgt
  · exact absurd heq (ne_of_lt (daysFromCivil_lt h h' (.inl hlt)))
  · rcases lt_trichotomy m m' with hlt | rfl | hgt
    · exact absurd heq (ne_of_lt (daysFromCivil_lt h h' (.inr ⟨rfl, .inl hlt⟩)))
    · rcases lt_trichotomy d d' with hlt | rfl | hgt
      · exact absurd heq (ne_of_lt (daysFromCivil_lt h h' (.inr ⟨rfl, .inr ⟨rfl, hlt⟩⟩)))
      · exact hne ⟨rfl, rfl, rfl⟩
      · exact absurd heq (ne_of_gt (daysFromCivil_lt h' h (.inr ⟨rfl, .inr ⟨rfl, hgt⟩⟩)))
    · exact absurd heq (ne_of_gt (daysFromCivil_lt h' h (.inr ⟨rfl, .inl hgt⟩)))
  · exact absurd heq (ne_of_gt (daysFromCivil_lt h' h (.inl hgt)))

/-! ### Seconds -/

/-- The seconds of a day. -/
def secondsPerDay : ℤ := 86400

/-- **`timegm`**: the seconds since the first of January of 1970 to a time in UTC, with the members
of `struct tm`. A month that is none of the year is one of another year. -/
def timegm (tmYear tmMon tmMday tmHour tmMin tmSec : ℤ) : ℤ :=
  secondsPerDay * daysFromCivil (tmYear + 1900 + tmMon / 12) (tmMon % 12 + 1) tmMday +
    3600 * tmHour + 60 * tmMin + tmSec

/-- **The local date**: `localtime_r` gives the date `y`, `m`, `d` for the second `t` in a zone
whose clocks are `offset` seconds ahead of UTC. -/
structure LocalDate (offset t y m d : ℤ) : Prop where
  /-- There is such a date. -/
  civil : IsCivil y m d
  /-- The day has begun. -/
  begun : secondsPerDay * daysFromCivil y m d ≤ t + offset
  /-- The next day has not. -/
  lasts : t + offset < secondsPerDay * (daysFromCivil y m d + 1)

/-- A second has one local date. -/
theorem LocalDate.unique {offset t y m d y' m' d' : ℤ} (h : LocalDate offset t y m d)
    (h' : LocalDate offset t y' m' d') : y = y' ∧ m = m' ∧ d = d' := by
  refine daysFromCivil_inj h.civil h'.civil ?_
  have hbegun := h.begun
  have hlasts := h.lasts
  have hbegun' := h'.begun
  have hlasts' := h'.lasts
  rw [secondsPerDay] at hbegun hlasts hbegun' hlasts'
  omega

/-- **The last second of a local date** is that of its last second in UTC, as many seconds earlier
as the clocks are ahead. -/
theorem isGreatest_localDate {y m d : ℤ} (h : IsCivil y m d) (offset : ℤ) :
    IsGreatest {t | LocalDate offset t y m d}
      (timegm (y - 1900) (m - 1) d 23 59 59 - offset) := by
  obtain ⟨hlow, hhigh⟩ := h.month
  have hyear : y - 1900 + 1900 + (m - 1) / 12 = y := by omega
  have hmonth : (m - 1) % 12 + 1 = m := by omega
  rw [timegm, hyear, hmonth]
  constructor
  · refine ⟨h, ?_, ?_⟩ <;> rw [secondsPerDay] <;> omega
  · intro t ht
    have hlasts := ht.lasts
    rw [secondsPerDay] at hlasts ⊢
    omega

/-- The epoch. -/
example : timegm 70 0 1 0 0 0 = 0 := by decide

/-- The last second of February in a leap year. -/
example : timegm 124 1 29 23 59 59 = 1709251199 := by decide

end DetectBase
