import DetectBase.Abnormal.Schedule
import Mathlib.Data.List.TakeWhile
import Mathlib.Tactic.IntervalCases

/-!
# The daily time window

`IsWithinTimeRange` compares the minutes that have passed since the start time with the length of
the window. A difference that is not positive gets a day more, so that a window may run past
midnight; at the start minute itself the difference is zero, and the minutes that have passed become
a whole day. The window is the one that its start time and its range describe at every other minute
(`DetectBase.Abnormal.Schedule.isWithinTimeRange_iff`).
-/

namespace DetectBase.Abnormal

/-! ### Times of the day -/

/-- The minute of the day. -/
def Tm.minuteOfDay (tm : Tm) : ℤ := tm.tmHour * 60 + tm.tmMin

/-- What `localtime_r` says about the time of the day. -/
structure Tm.IsTimeOfDay (tm : Tm) : Prop where
  /-- The hour is one of 24. -/
  hour : 0 ≤ tm.tmHour ∧ tm.tmHour < 24
  /-- The minute is one of 60. -/
  min : 0 ≤ tm.tmMin ∧ tm.tmMin < 60

theorem Tm.IsTimeOfDay.minuteOfDay {tm : Tm} (h : tm.IsTimeOfDay) :
    0 ≤ tm.minuteOfDay ∧ tm.minuteOfDay < 1440 := by
  obtain ⟨hhour, hmin⟩ := h
  rw [Tm.minuteOfDay]
  omega

/-- A time of the day as the settings have it, `hh:mm`. -/
def clockText (hour min : ℕ) : String := padTwo hour ++ ":" ++ padTwo min

/-! ### Reading a start time -/

/-- Two digits are read as the number they are, up to whatever comes after them. -/
theorem scanTwo_padTwo {n : ℕ} (h : n < 60) (rest : List Char) :
    scanTwo ((padTwo n).toList ++ rest) = some ((n : ℤ), rest) := by
  interval_cases n <;> rfl

theorem isDigit_of_mem_padTwo {n : ℕ} {c : Char} (h : c ∈ (padTwo n).toList) :
    c.isDigit = true := by
  have hdigit : c ∈ (toString n).toList → c.isDigit = true := by
    rintro hc
    rw [Nat.toString_eq_repr, Nat.toList_repr] at hc
    exact Nat.isDigit_of_mem_toDigits (by decide) (by decide) hc
  rw [padTwo] at h
  split_ifs at h
  · rw [String.toList_append, List.mem_append] at h
    rcases h with hzero | hc
    · rw [List.mem_singleton.mp hzero]
      rfl
    · exact hdigit hc
  · exact hdigit h

theorem ne_zero_of_mem_padTwo {n : ℕ} {c : Char} (h : c ∈ (padTwo n).toList) : c ≠ '\x00' := by
  rintro rfl
  exact absurd (isDigit_of_mem_padTwo h) (by decide)

/-- **A start time is read as the hour and the minute it is made of.** -/
theorem scanTime_clockText {hour min : ℕ} (hhour : hour < 24) (hmin : min < 60) :
    scanTime (clockText hour min) = some ((hour : ℤ), (min : ℤ)) := by
  have hlist : (clockText hour min).toList =
      (padTwo hour).toList ++ ':' :: ((padTwo min).toList ++ []) := by
    simp [clockText]
  have htext : (clockText hour min).toList.takeWhile (· ≠ '\x00') =
      (clockText hour min).toList := by
    refine List.takeWhile_eq_self_iff.mpr fun c hc => ?_
    rw [decide_eq_true_eq]
    rw [hlist, List.append_nil] at hc
    rcases List.mem_append.mp hc with hc | hc
    · exact ne_zero_of_mem_padTwo hc
    · rcases List.mem_cons.mp hc with rfl | hc
      · decide
      · exact ne_zero_of_mem_padTwo hc
  rw [scanTime, htext, hlist, scanTwo_padTwo (by omega)]
  change (scanTwo ((padTwo min).toList ++ [])).bind _ = _
  rw [scanTwo_padTwo hmin]
  rfl

/-! ### The window -/

namespace Schedule

/-- The comparison, once the start time has been read. -/
theorem isWithinTimeRange_of_scanTime {startTime : String} {range hour min : ℤ} {tm : Tm}
    (hscan : scanTime startTime = some (hour, min)) (hrange : range < 1440) :
    isWithinTimeRange startTime range tm = true ↔
      (if tm.minuteOfDay - (hour * 60 + min) > 0 then tm.minuteOfDay - (hour * 60 + min)
        else tm.minuteOfDay - (hour * 60 + min) + 1440) ≤ range := by
  rw [isWithinTimeRange, if_neg (by omega), hscan]
  exact decide_eq_true_iff

/-- **The window is the one that is described at every minute but the start minute.** -/
theorem isWithinTimeRange_iff {hour min : ℕ} {range : ℤ} {tm : Tm} (hhour : hour < 24)
    (hmin : min < 60) (hrange : 0 ≤ range ∧ range < 1440) (htm : tm.IsTimeOfDay) :
    (isWithinTimeRange (clockText hour min) range tm = true ↔
        (tm.minuteOfDay - (hour * 60 + min)) % 1440 ≤ range) ↔
      tm.minuteOfDay ≠ hour * 60 + min := by
  obtain ⟨hle, hlt⟩ := htm.minuteOfDay
  rw [isWithinTimeRange_of_scanTime (scanTime_clockText hhour hmin) hrange.2]
  rcases lt_trichotomy tm.minuteOfDay (hour * 60 + min) with hbefore | heq | hafter
  · -- the window that began the day before
    rw [if_neg (by omega)]
    have hmod : (tm.minuteOfDay - (hour * 60 + min)) % 1440 =
        tm.minuteOfDay - (hour * 60 + min) + 1440 := by omega
    rw [hmod]
    exact iff_of_true Iff.rfl hbefore.ne
  · rw [if_neg (by omega), heq]
    refine iff_of_false ?_ (fun hne => hne rfl)
    intro hiff
    have hday := hiff.mpr (by omega)
    omega
  · rw [if_pos (by omega)]
    have hmod : (tm.minuteOfDay - (hour * 60 + min)) % 1440 =
        tm.minuteOfDay - (hour * 60 + min) := by omega
    rw [hmod]
    exact iff_of_true Iff.rfl hafter.ne'

/-- Nine o'clock. -/
def nine : Tm := ⟨126, 0, 5, 9, 0, ⟨1, by decide⟩⟩

/-- At ten, in a window of an hour and a half from nine. -/
theorem isWithinTimeRange_iff_ten :
    (isWithinTimeRange (clockText 9 0) 90 { nine with tmHour := 10 } = true ↔
        (Tm.minuteOfDay { nine with tmHour := 10 } - ((9 : ℕ) * 60 + (0 : ℕ))) % 1440 ≤ 90) ↔
      Tm.minuteOfDay { nine with tmHour := 10 } ≠ (9 : ℕ) * 60 + (0 : ℕ) :=
  isWithinTimeRange_iff (by decide) (by decide) (by decide) ⟨by decide, by decide⟩

/-- At nine, a window that starts at nine is not open. -/
theorem not_isWithinTimeRange_start : ¬ ∀ (hour min : ℕ) (range : ℤ) (tm : Tm), hour < 24 →
    min < 60 → 0 ≤ range ∧ range < 1440 → tm.IsTimeOfDay →
      (isWithinTimeRange (clockText hour min) range tm = true ↔
        (tm.minuteOfDay - (hour * 60 + min)) % 1440 ≤ range) := by
  intro hall
  have h := hall 9 0 60 nine (by decide) (by decide) (by decide) ⟨by decide, by decide⟩
  have hscan : scanTime (clockText 9 0) = some (9, 0) := scanTime_clockText (by decide) (by decide)
  rw [isWithinTimeRange_of_scanTime hscan (by decide)] at h
  revert h
  decide

end Schedule

end DetectBase.Abnormal
