import Mathlib.Data.Nat.Log
import Mathlib.Data.Nat.Size
import Mathlib.Data.Rat.Defs
import Mathlib.Algebra.Order.Field.Rat
import Mathlib.Tactic.Linarith
import Mathlib.Tactic.Ring

/-!
# Binary floating-point numbers, as integers

Every finite number of a binary format is a whole multiple of its least positive one, so a
finite number is modelled by that multiple: an integer `units`, of which only the leading
`prec` bits may be nonzero. Equality of values is then equality of integers, and everything
below – rounding included – computes with natural numbers only.

`DetectBase.roundUnits` is rounding to nearest with ties to even. A magnitude that leaves the
format becomes an infinity (`DetectBase.Extended`); no operation modelled here yields a NaN,
and the sign of zero, which no comparison can see, is left out.

The one fact about rounding that the clients of this file need is
`DetectBase.roundUnits_of_representable`: a number of the format is not moved.
-/

namespace DetectBase

/-- A binary format: `prec` bits of significand, least positive value `2 ^ (-scale)`, and
finite magnitudes below `2 ^ width` units of that value. -/
structure Format where
  /-- The number of bits of the significand. -/
  prec : ℕ
  /-- The least positive value is `2 ^ (-scale)`. -/
  scale : ℕ
  /-- Every finite magnitude is below `2 ^ width` units. -/
  width : ℕ
  /-- A significand has at least one bit. -/
  prec_pos : 0 < prec

/-- The format of `double`. -/
def binary64 : Format := ⟨53, 1074, 2098, by decide⟩

/-- The format of `float`. -/
def binary32 : Format := ⟨24, 149, 277, by decide⟩

/-- **A magnitude of the format**: a significand of `prec` bits, shifted, and below the
overflow threshold. -/
def Format.Representable (f : Format) (n : ℕ) : Prop :=
  ∃ m k, m < 2 ^ f.prec ∧ n = m * 2 ^ k ∧ n < 2 ^ f.width

/-- **A finite number of the format**, given by how many units it is worth. -/
@[ext] structure BinaryFloat (f : Format) where
  /-- The value, in units of the least positive one. -/
  units : ℤ
  /-- Only the leading bits are used. -/
  rep : f.Representable units.natAbs

instance {f : Format} : DecidableEq (BinaryFloat f) := fun x y =>
  decidable_of_iff (x.units = y.units) ⟨fun h => BinaryFloat.ext h, fun h => h ▸ rfl⟩

/-- The rational number that a finite number of the format is. -/
def BinaryFloat.value {f : Format} (x : BinaryFloat f) : ℚ := (x.units : ℚ) / 2 ^ f.scale

/-- A number of the format, or one of the two infinities. -/
inductive Extended (f : Format) where
  /-- A finite number. -/
  | finite (x : BinaryFloat f) : Extended f
  /-- An infinity, negative when the flag is set. -/
  | infinite (neg : Bool) : Extended f
deriving DecidableEq

/-- A `double`. -/
abbrev Double := Extended binary64

/-- A `float`. -/
abbrev Single := Extended binary32

/-- The order of the numbers, with the infinities at its ends. -/
def Extended.lt {f : Format} : Extended f → Extended f → Bool
  | .finite x, .finite y => x.units < y.units
  | .finite _, .infinite neg => !neg
  | .infinite neg, .finite _ => neg
  | .infinite neg, .infinite neg' => neg && !neg'

instance {f : Format} : LT (Extended f) := ⟨fun x y => x.lt y = true⟩

instance {f : Format} (x y : Extended f) : Decidable (x < y) :=
  inferInstanceAs (Decidable (x.lt y = true))

/-- Zero. -/
def Extended.zero (f : Format) : Extended f := .finite ⟨0, 0, 0, by simp, by simp, by simp⟩

/-! ### Rounding to nearest, ties to even -/

/-- The quotient `n / d` rounded to the nearest integer, ties to the even one. -/
def roundEven (n d : ℕ) : ℕ :=
  if 2 * (n % d) < d then n / d
  else if d < 2 * (n % d) then n / d + 1
  else n / d + n / d % 2

/-- The exponent of the last place of a number of `n / d` units: how far its leading bits
stand above the significand. -/
def lastPlace (f : Format) (n d : ℕ) : ℕ := Nat.log2 (n / d) + 1 - f.prec

/-- **Rounding**: the multiple of the last place nearest to `n / d` units. -/
def roundUnits (f : Format) (n d : ℕ) : ℕ :=
  roundEven n (d * 2 ^ lastPlace f n d) * 2 ^ lastPlace f n d

theorem roundEven_le (n d : ℕ) : roundEven n d ≤ n / d + 1 := by
  have hlt : n / d % 2 < 2 := Nat.mod_lt _ (by decide)
  rw [roundEven]
  split_ifs <;> omega

theorem roundEven_of_dvd {n d : ℕ} (hd : 0 < d) (h : d ∣ n) : roundEven n d = n / d := by
  rw [roundEven, Nat.mod_eq_zero_of_dvd h, if_pos (by omega)]

theorem lt_two_pow_log2_succ (n : ℕ) : n < 2 ^ (Nat.log2 n + 1) := by
  rw [Nat.log2_eq_log_two]
  exact Nat.lt_pow_succ_log_self (by decide) n

/-- A rounded significand fills at most `prec` bits, or is the next power of two. -/
theorem roundEven_lastPlace_le (f : Format) (n d : ℕ) :
    roundEven n (d * 2 ^ lastPlace f n d) ≤ 2 ^ f.prec := by
  have hlt : n / d < 2 ^ (f.prec + lastPlace f n d) := by
    refine lt_of_lt_of_le (lt_two_pow_log2_succ _) (Nat.pow_le_pow_right (by decide) ?_)
    rw [lastPlace]
    omega
  have hq : n / (d * 2 ^ lastPlace f n d) < 2 ^ f.prec := by
    rw [← Nat.div_div_eq_div_mul]
    refine Nat.div_lt_of_lt_mul ?_
    rwa [← pow_add, Nat.add_comm]
  exact le_trans (roundEven_le _ _) hq

/-- Rounding stays in the format as long as it does not overflow. -/
theorem representable_roundUnits (f : Format) {n d : ℕ} (h : roundUnits f n d < 2 ^ f.width) :
    f.Representable (roundUnits f n d) := by
  have hprec := f.prec_pos
  rcases Nat.lt_or_ge (roundEven n (d * 2 ^ lastPlace f n d)) (2 ^ f.prec) with hlt | hge
  · exact ⟨_, _, hlt, rfl, h⟩
  · -- the carry out of the significand: one bit less, one place up
    have heq := le_antisymm (roundEven_lastPlace_le f n d) hge
    refine ⟨2 ^ (f.prec - 1), lastPlace f n d + 1, ?_, ?_, h⟩
    · exact Nat.pow_lt_pow_right (by decide) (by omega)
    · rw [roundUnits, heq, ← pow_add, ← pow_add]
      congr 1
      omega

/-- **Rounding does not move a number of the format.** -/
theorem roundUnits_of_representable {f : Format} {n : ℕ} (h : f.Representable n) :
    roundUnits f n 1 = n := by
  obtain ⟨m, k, hm, hn, -⟩ := h
  rcases Nat.eq_zero_or_pos n with h0 | hpos
  · rw [h0, roundUnits, roundEven_of_dvd (by positivity) (dvd_zero _)]
    simp
  · have hlog : Nat.log2 n < f.prec + k := by
      rw [Nat.log2_eq_log_two]
      refine Nat.log_lt_of_lt_pow (by omega) ?_
      rw [hn, pow_add]
      exact Nat.mul_lt_mul_of_pos_right hm (by positivity)
    have hk : lastPlace f n 1 ≤ k := by
      rw [lastPlace, Nat.div_one]
      omega
    have hdvd : 1 * 2 ^ lastPlace f n 1 ∣ n := by
      have hpow : 2 ^ lastPlace f n 1 ∣ m * 2 ^ k := Dvd.dvd.mul_left (pow_dvd_pow 2 hk) m
      rw [← hn] at hpow
      rwa [Nat.one_mul]
    rw [roundUnits, roundEven_of_dvd (by positivity) hdvd, Nat.one_mul]
    exact Nat.div_mul_cancel (by simpa using hdvd)

/-- **The nearest number of the format** to `n / d` units, with the given sign. -/
def nearest (f : Format) (neg : Bool) (n d : ℕ) : Extended f :=
  if h : roundUnits f n d < 2 ^ f.width then
    .finite ⟨if neg then -(roundUnits f n d : ℤ) else roundUnits f n d, by
      have hr := representable_roundUnits f h
      cases neg <;> simpa using hr⟩
  else .infinite neg

/-- The conversion of an integer to the format. -/
def ofInt (f : Format) (z : ℤ) : Extended f := nearest f (z < 0) (z.natAbs * 2 ^ f.scale) 1

/-- The conversion of `± m · 10 ^ e` to the format. -/
def ofDecimal (f : Format) (neg : Bool) (m : ℕ) (e : ℤ) : Extended f :=
  nearest f neg (m * 10 ^ e.toNat * 2 ^ f.scale) (10 ^ (-e).toNat)

/-- The conversion of a number of one format to another. -/
def Extended.convert {f : Format} (g : Format) : Extended f → Extended g
  | .finite x => nearest g (x.units < 0) (x.units.natAbs * 2 ^ g.scale) (2 ^ f.scale)
  | .infinite neg => .infinite neg

/-- A quotient is the same when both of its terms are multiplied. -/
theorem roundEven_mul_right (n d : ℕ) {c : ℕ} (hc : 0 < c) :
    roundEven (n * c) (d * c) = roundEven n d := by
  have h1 : 2 * (n % d * c) < d * c ↔ 2 * (n % d) < d := by
    rw [← Nat.mul_assoc]
    exact Nat.mul_lt_mul_right hc
  have h2 : d * c < 2 * (n % d * c) ↔ d < 2 * (n % d) := by
    rw [← Nat.mul_assoc]
    exact Nat.mul_lt_mul_right hc
  rw [roundEven, roundEven, Nat.mul_div_mul_right _ _ hc, Nat.mul_mod_mul_right]
  simp only [h1, h2]

theorem nearest_mul_right (f : Format) (neg : Bool) (n d : ℕ) {c : ℕ} (hc : 0 < c) :
    nearest f neg (n * c) (d * c) = nearest f neg n d := by
  have hplace : lastPlace f (n * c) (d * c) = lastPlace f n d := by
    rw [lastPlace, lastPlace, Nat.mul_div_mul_right _ _ hc]
  have hround : roundUnits f (n * c) (d * c) = roundUnits f n d := by
    rw [roundUnits, roundUnits, hplace, Nat.mul_right_comm, roundEven_mul_right _ _ hc]
  simp only [nearest, hround]

/-- **Zeros behind the digits** only move the exponent. -/
theorem ofDecimal_mul_pow (f : Format) (neg : Bool) (m j : ℕ) (e : ℤ) :
    ofDecimal f neg (m * 10 ^ j) (e - j) = ofDecimal f neg m e := by
  rw [ofDecimal, ofDecimal]
  -- Both sides are the quotient of `m * 10 ^ a` and `10 ^ b` with `a - b = e`.
  obtain ⟨c, hnum, hden⟩ : ∃ c, m * 10 ^ j * 10 ^ (e - j).toNat * 10 ^ c =
      m * 10 ^ e.toNat * 10 ^ j ∧ 10 ^ (-(e - j)).toNat * 10 ^ c = 10 ^ (-e).toNat * 10 ^ j := by
    refine ⟨j + e.toNat - (j + (e - j).toNat), ?_, ?_⟩
    · rw [Nat.mul_assoc m, Nat.mul_assoc m, Nat.mul_assoc m, ← pow_add, ← pow_add, ← pow_add]
      congr 2
      omega
    · rw [← pow_add, ← pow_add]
      congr 1
      omega
  have hpow : ∀ k : ℕ, 0 < 10 ^ k := fun k => by positivity
  rw [← nearest_mul_right f neg _ (10 ^ (-(e - j)).toNat) (hpow c),
    ← nearest_mul_right f neg _ (10 ^ (-e).toNat) (hpow j), Nat.mul_right_comm, hnum,
    Nat.mul_right_comm _ (2 ^ f.scale), hden]

/-- The sign is put on at the end. -/
theorem ofDecimal_neg {f : Format} {m : ℕ} {e : ℤ} {x y : BinaryFloat f}
    (hx : ofDecimal f false m e = .finite x) (hy : y.units = -x.units) :
    ofDecimal f true m e = .finite y := by
  rw [ofDecimal, nearest] at hx ⊢
  by_cases hlt : roundUnits f (m * 10 ^ e.toNat * 2 ^ f.scale) (10 ^ (-e).toNat) < 2 ^ f.width
  · rw [dif_pos hlt, Extended.finite.injEq] at hx ⊢
    refine BinaryFloat.ext ?_
    rw [hy, ← hx]
    rfl
  · rw [dif_neg hlt] at hx
    cases hx

/-- No digits but zeros. -/
theorem ofDecimal_zero (f : Format) (e : ℤ) : ofDecimal f false 0 e = .zero f := by
  have hround : roundUnits f (0 * 10 ^ e.toNat * 2 ^ f.scale) (10 ^ (-e).toNat) = 0 := by
    rw [Nat.zero_mul, Nat.zero_mul, roundUnits, roundEven_of_dvd (by positivity) (dvd_zero _),
      Nat.zero_div, Nat.zero_mul]
  rw [ofDecimal, nearest, dif_pos (by rw [hround]; positivity), Extended.zero,
    Extended.finite.injEq]
  refine BinaryFloat.ext ?_
  simp only [Bool.false_eq_true, if_false, hround]
  rfl

/-! ### Arithmetic -/

/-- Addition. Two opposite infinities, whose sum is no number, give zero. -/
def Extended.add {f : Format} : Extended f → Extended f → Extended f
  | .finite x, .finite y => nearest f (x.units + y.units < 0) (x.units + y.units).natAbs 1
  | .finite _, .infinite neg => .infinite neg
  | .infinite neg, .finite _ => .infinite neg
  | .infinite neg, .infinite neg' => if neg = neg' then .infinite neg else .zero f

/-- Multiplication. Zero times an infinity, which is no number, gives zero. -/
def Extended.mul {f : Format} : Extended f → Extended f → Extended f
  | .finite x, .finite y =>
    nearest f (x.units * y.units < 0) (x.units * y.units).natAbs (2 ^ f.scale)
  | .finite x, .infinite neg =>
    if x.units = 0 then .zero f else .infinite ((x.units < 0 : Bool) ^^ neg)
  | .infinite neg, .finite y =>
    if y.units = 0 then .zero f else .infinite ((y.units < 0 : Bool) ^^ neg)
  | .infinite neg, .infinite neg' => .infinite (neg ^^ neg')

/-- Division by two. -/
def Extended.half {f : Format} : Extended f → Extended f
  | .finite x => nearest f (x.units < 0) x.units.natAbs 2
  | .infinite neg => .infinite neg

/-- Division. A quotient that is no number, of two zeros or of two infinities, gives zero. -/
def Extended.div {f : Format} : Extended f → Extended f → Extended f
  | .finite x, .finite y =>
    if y.units = 0 then
      if x.units = 0 then .zero f else .infinite (x.units < 0)
    else nearest f ((x.units < 0 : Bool) ^^ (y.units < 0 : Bool))
      (x.units.natAbs * 2 ^ f.scale) y.units.natAbs
  | .finite _, .infinite _ => .zero f
  | .infinite neg, .finite y => .infinite (neg ^^ (y.units < 0 : Bool))
  | .infinite _, .infinite _ => .zero f

/-- The quotient of two integers, the divisor not zero. -/
def ofQuotient (f : Format) (a b : ℤ) : Extended f :=
  nearest f ((a < 0 : Bool) ^^ (b < 0 : Bool)) (a.natAbs * 2 ^ f.scale) b.natAbs

/-- The integer part, cut to the given range. -/
def Extended.truncate {f : Format} (lo hi : ℤ) : Extended f → ℤ
  | .finite x => max lo (min hi (x.units.tdiv (2 ^ f.scale)))
  | .infinite neg => if neg then lo else hi

/-- The nearest integer, halves away from zero, cut to the given range. -/
def Extended.roundAway {f : Format} (lo hi : ℤ) : Extended f → ℤ
  | .finite x => max lo (min hi ((2 * x.units + x.units.sign * 2 ^ f.scale).tdiv (2 * 2 ^ f.scale)))
  | .infinite neg => if neg then lo else hi

/-- Integers whose magnitude has few enough significant bits are converted exactly. -/
theorem ofInt_exact {f : Format} {z : ℤ} (h : f.Representable (z.natAbs * 2 ^ f.scale)) :
    ∃ x : BinaryFloat f, ofInt f z = .finite x ∧ x.value = z := by
  have hround := roundUnits_of_representable h
  have hlt : roundUnits f (z.natAbs * 2 ^ f.scale) 1 < 2 ^ f.width := by
    obtain ⟨_, _, -, -, hw⟩ := h
    rwa [hround]
  have hne : (2 : ℚ) ^ f.scale ≠ 0 := by positivity
  refine ⟨_, by rw [ofInt, nearest, dif_pos hlt], ?_⟩
  change ((if (z < 0 : Bool) then -(roundUnits f (z.natAbs * 2 ^ f.scale) 1 : ℤ)
      else roundUnits f (z.natAbs * 2 ^ f.scale) 1 : ℤ) : ℚ) / 2 ^ f.scale = z
  rw [hround, div_eq_iff hne]
  rcases lt_or_ge z 0 with hz | hz
  · have habs : ((z.natAbs : ℤ) : ℚ) = -(z : ℚ) := by
      rw [← Int.abs_eq_natAbs, abs_of_neg hz, Int.cast_neg]
    simp only [hz, decide_true, if_true]
    push_cast at habs ⊢
    rw [habs]
    ring
  · have habs : ((z.natAbs : ℤ) : ℚ) = (z : ℚ) := by
      rw [← Int.abs_eq_natAbs, abs_of_nonneg hz]
    simp only [not_lt.mpr hz, decide_false, Bool.false_eq_true, if_false]
    push_cast at habs ⊢
    rw [habs]

end DetectBase
