import Mathlib.Algebra.Order.Floor.Ring
import Mathlib.Algebra.Order.Round
import Mathlib.Tactic.Linarith
import Mathlib.Tactic.Push

/-!
# Rounding to the nearest integer, halves away from zero

`std::round` on numbers of an ordered field. It stays within a half of what it rounds
(`DetectBase.abs_roundHalfAway_sub_le`), and whatever is closer to an integer than a half is rounded
to it (`DetectBase.roundHalfAway_eq`). The two halves of an integer, one moved down and one moved up
by less than a half, are rounded to integers that add up to it
(`DetectBase.roundHalfAway_half_sub`, `DetectBase.roundHalfAway_half_add`).
-/

namespace DetectBase

variable {K : Type*} [Field K] [LinearOrder K] [FloorRing K]

/-- **`std::round`**: the nearest integer, halves away from zero. -/
def roundHalfAway (x : K) : ℤ := if 0 ≤ x then ⌊x + 1 / 2⌋ else ⌈x - 1 / 2⌉

variable [IsStrictOrderedRing K]

theorem abs_roundHalfAway_sub_le (x : K) : |(roundHalfAway x : K) - x| ≤ 1 / 2 := by
  rw [roundHalfAway, abs_le]
  split_ifs
  · have hle := Int.floor_le (x + 1 / 2)
    have hlt := Int.lt_floor_add_one (x + 1 / 2)
    constructor <;> linarith
  · have hle := Int.le_ceil (x - 1 / 2)
    have hlt := Int.ceil_lt_add_one (x - 1 / 2)
    constructor <;> linarith

/-- **What is closer to an integer than a half is rounded to it.** -/
theorem roundHalfAway_eq {x : K} {n : ℤ} (h : |x - n| < 1 / 2) : roundHalfAway x = n := by
  have hround := abs_le.mp (abs_roundHalfAway_sub_le x)
  obtain ⟨hlow, hhigh⟩ := abs_lt.mp h
  have hlt : |((roundHalfAway x - n : ℤ) : K)| < 1 := by
    rw [Int.cast_sub, abs_lt]
    constructor <;> linarith [hround.1, hround.2]
  rw [← Int.cast_abs, ← Int.cast_one, Int.cast_lt] at hlt
  exact sub_eq_zero.mp (Int.abs_lt_one_iff.mp hlt)

@[simp] theorem roundHalfAway_intCast (n : ℤ) : roundHalfAway (n : K) = n :=
  roundHalfAway_eq (by rw [sub_self, abs_zero]; exact one_half_pos)

@[simp] theorem roundHalfAway_zero : roundHalfAway (0 : K) = 0 := by
  rw [← Int.cast_zero, roundHalfAway_intCast]

/-- Rounding does not go below an integer. -/
theorem le_roundHalfAway {x : K} {n : ℤ} (h : (n : K) ≤ x) : n ≤ roundHalfAway x := by
  have hround := abs_le.mp (abs_roundHalfAway_sub_le x)
  by_contra hlt
  have hle : ((roundHalfAway x + 1 : ℤ) : K) ≤ n := Int.cast_le.mpr (by omega)
  rw [Int.cast_add, Int.cast_one] at hle
  linarith [hround.1]

/-- Nor above one. -/
theorem roundHalfAway_le {x : K} {n : ℤ} (h : x ≤ n) : roundHalfAway x ≤ n := by
  have hround := abs_le.mp (abs_roundHalfAway_sub_le x)
  by_contra hlt
  have hle : ((n + 1 : ℤ) : K) ≤ roundHalfAway x := Int.cast_le.mpr (by omega)
  rw [Int.cast_add, Int.cast_one] at hle
  linarith [hround.2]

/-! ### Splitting an integer in two -/

omit [LinearOrder K] [FloorRing K] [IsStrictOrderedRing K] in
/-- An integer is twice its half, or one more. -/
theorem eq_two_mul_half (n : ℤ) :
    (n : K) = 2 * ((n / 2 : ℤ) : K) ∨ (n : K) = 2 * ((n / 2 : ℤ) : K) + 1 := by
  rcases Int.emod_two_eq_zero_or_one n with hmod | hmod
  · left
    rw [← Int.cast_two, ← Int.cast_mul]
    exact congrArg _ (by omega)
  · right
    rw [← Int.cast_two, ← Int.cast_mul, ← Int.cast_one, ← Int.cast_add]
    exact congrArg _ (by omega)

variable {ε : K}

/-- **The lower half of an integer**, moved down by less than a half, is its half rounded down. -/
theorem roundHalfAway_half_sub (hpos : 0 < ε) (hlt : ε < 1 / 2) (n : ℤ) :
    roundHalfAway ((n : K) / 2 - ε) = n / 2 := by
  refine roundHalfAway_eq (abs_lt.mpr ?_)
  rcases eq_two_mul_half (K := K) n with hn | hn
  · constructor <;> linarith
  · constructor <;> linarith

/-- **The upper half**, moved up by less than a half, is its half rounded up. -/
theorem roundHalfAway_half_add (hpos : 0 < ε) (hlt : ε < 1 / 2) (n : ℤ) :
    roundHalfAway ((n : K) / 2 + ε) = n - n / 2 := by
  refine roundHalfAway_eq (abs_lt.mpr ?_)
  rw [Int.cast_sub]
  rcases eq_two_mul_half (K := K) n with hn | hn
  · constructor <;> linarith
  · constructor <;> linarith

end DetectBase
