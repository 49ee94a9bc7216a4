import DetectBase.Foundations.BinaryFloat

/-!
# Floating-point arithmetic with values that are no numbers

How far rounding goes: not past a number of the format
(`DetectBase.le_roundUnits`, `DetectBase.roundUnits_le`), and not farther than half a unit in the
last place (`DetectBase.mul_roundUnits_le`).

`DetectBase.Ieee` has the numbers of a format, the two infinities, and the values that are no
numbers, which are not told apart, nor are the two zeros. An operation gives no number where IEEE
754 says so, and a comparison with no number is false. For small numbers that are not negative the
operations are those on their units (`DetectBase.Ieee.IsUnits`).
-/

namespace DetectBase

/-! ### How far rounding goes -/

section Rounding

variable {f : Format} {n d m : ℕ}

/-- Rounding goes to a nearest integer. -/
theorem roundEven_near (n : ℕ) {d : ℕ} (hd : 0 < d) :
    2 * n ≤ 2 * (roundEven n d * d) + d ∧ 2 * (roundEven n d * d) ≤ 2 * n + d := by
  have hdiv : n / d * d + n % d = n := Nat.div_add_mod' n d
  have hlt : n % d < d := Nat.mod_lt n hd
  rw [roundEven]
  split_ifs with hlow hhigh
  · omega
  · rw [Nat.add_one_mul (n / d) d]
    omega
  · rcases Nat.mod_two_eq_zero_or_one (n / d) with heven | hodd
    · rw [heven, Nat.add_zero]
      omega
    · rw [hodd, Nat.add_one_mul (n / d) d]
      omega

theorem div_le_roundEven (n d : ℕ) : n / d ≤ roundEven n d := by
  rw [roundEven]
  split_ifs <;> omega

/-- Rounding does not go past an integer above. -/
theorem roundEven_le_of_le (hd : 0 < d) (h : n ≤ m * d) : roundEven n d ≤ m := by
  rcases Nat.lt_or_ge (n / d) m with hlt | hge
  · exact (roundEven_le n d).trans hlt
  · have hn : n = m * d := le_antisymm h (((Nat.le_div_iff_mul_le hd).mp hge))
    rw [hn, roundEven_of_dvd hd (Dvd.intro_left m rfl), Nat.mul_div_cancel m hd]

/-- A last place above the first one is that of the leading bit. -/
theorem mul_pow_lastPlace_le (hprec : 0 < f.prec) (h : lastPlace f n d ≠ 0) :
    2 ^ (f.prec - 1) * 2 ^ lastPlace f n d ≤ n / d := by
  have hpos : n / d ≠ 0 := by
    intro hzero
    rw [lastPlace, hzero, Nat.log2_zero] at h
    omega
  refine le_trans (le_of_eq ?_) (Nat.log2_self_le hpos)
  rw [← pow_add]
  congr 1
  rw [lastPlace] at h ⊢
  omega

/-- **A number of the format and the last place**: it is a multiple of that, or below the leading
bit. -/
theorem dvd_or_lt (hm : f.Representable m) (k : ℕ) :
    2 ^ k ∣ m ∨ m < 2 ^ (f.prec - 1) * 2 ^ k := by
  obtain ⟨a, j, ha, rfl, -⟩ := hm
  have hprec := f.prec_pos
  rcases Nat.lt_or_ge j k with hlt | hge
  · right
    calc a * 2 ^ j < 2 ^ f.prec * 2 ^ j := Nat.mul_lt_mul_of_pos_right ha (by positivity)
      _ ≤ 2 ^ (f.prec - 1) * 2 ^ k := by
        rw [← pow_add, ← pow_add]
        exact Nat.pow_le_pow_right (by decide) (by omega)
  · exact .inl (Dvd.dvd.mul_left (pow_dvd_pow 2 hge) a)

/-- **Rounding does not go past a number below.** -/
theorem le_roundUnits (hd : 0 < d) (hm : f.Representable m) (h : m * d ≤ n) :
    m ≤ roundUnits f n d := by
  have hplace : 0 < d * 2 ^ lastPlace f n d := by positivity
  have hmultiple : ∀ b, b * (d * 2 ^ lastPlace f n d) ≤ n →
      b * 2 ^ lastPlace f n d ≤ roundUnits f n d := fun b hb =>
    Nat.mul_le_mul_right _ (((Nat.le_div_iff_mul_le hplace).mpr hb).trans (div_le_roundEven _ _))
  rcases dvd_or_lt hm (lastPlace f n d) with ⟨b, rfl⟩ | hlt
  · -- a multiple of the last place
    rw [Nat.mul_comm] at h ⊢
    refine hmultiple b ?_
    calc b * (d * 2 ^ lastPlace f n d) = d * (2 ^ lastPlace f n d * b) := by ring
      _ ≤ n := h
  · rcases Nat.eq_zero_or_pos (lastPlace f n d) with hzero | hpos
    · have := hmultiple m (by rw [hzero, pow_zero, Nat.mul_one]; exact h)
      rwa [hzero, pow_zero, Nat.mul_one] at this
    · -- the leading bit alone is above the number, and is not rounded away
      refine hlt.le.trans (hmultiple _ ?_)
      have hlead := Nat.mul_le_mul_right d (mul_pow_lastPlace_le f.prec_pos hpos.ne')
      calc 2 ^ (f.prec - 1) * (d * 2 ^ lastPlace f n d)
          = 2 ^ (f.prec - 1) * 2 ^ lastPlace f n d * d := by ring
        _ ≤ n / d * d := hlead
        _ ≤ n := Nat.div_mul_le_self n d

/-- **Rounding does not go past a number above.** -/
theorem roundUnits_le (hd : 0 < d) (hm : f.Representable m) (h : n ≤ m * d) :
    roundUnits f n d ≤ m := by
  have hplace : 0 < d * 2 ^ lastPlace f n d := by positivity
  rcases dvd_or_lt hm (lastPlace f n d) with ⟨b, rfl⟩ | hlt
  · rw [roundUnits, Nat.mul_comm (2 ^ _) b]
    refine Nat.mul_le_mul_right _ (roundEven_le_of_le hplace ?_)
    calc n ≤ 2 ^ lastPlace f n d * b * d := h
      _ = b * (d * 2 ^ lastPlace f n d) := by ring
  · rcases Nat.eq_zero_or_pos (lastPlace f n d) with hzero | hpos
    · rw [roundUnits, hzero, pow_zero, Nat.mul_one, Nat.mul_one]
      exact roundEven_le_of_le hd h
    · -- the number would be below the leading bit of the quotient
      have hlead := mul_pow_lastPlace_le f.prec_pos hpos.ne'
      have hdiv : n / d ≤ m := Nat.div_le_of_le_mul (by rwa [Nat.mul_comm])
      omega

/-- **A sum is rounded up by half a unit in the last place at most.** -/
theorem mul_roundUnits_le (f : Format) (n : ℕ) :
    2 ^ f.prec * roundUnits f n 1 ≤ (2 ^ f.prec + 1) * n := by
  have hpow : 2 ^ f.prec = 2 ^ (f.prec - 1) * 2 := by
    rw [← pow_succ, Nat.sub_add_cancel f.prec_pos]
  rcases Nat.eq_zero_or_pos (lastPlace f n 1) with hzero | hpos
  · -- every digit has a place
    have hexact : roundUnits f n 1 = n := by
      rw [roundUnits, hzero, pow_zero, Nat.mul_one, Nat.mul_one,
        roundEven_of_dvd Nat.one_pos (one_dvd n), Nat.div_one]
    rw [hexact]
    exact Nat.mul_le_mul_right n (Nat.le_succ _)
  · -- the last place is so many places below the leading bit, which is in the sum
    have hlead := mul_pow_lastPlace_le f.prec_pos hpos.ne'
    have hnear := (roundEven_near n (d := 1 * 2 ^ lastPlace f n 1) (by positivity)).2
    rw [Nat.div_one] at hlead
    rw [Nat.one_mul] at hnear
    rw [roundUnits, Nat.one_mul, hpow]
    calc 2 ^ (f.prec - 1) * 2 * (roundEven n (2 ^ lastPlace f n 1) * 2 ^ lastPlace f n 1)
        = 2 ^ (f.prec - 1) * (2 * (roundEven n (2 ^ lastPlace f n 1) * 2 ^ lastPlace f n 1)) := by
          ring
      _ ≤ 2 ^ (f.prec - 1) * (2 * n + 2 ^ lastPlace f n 1) := Nat.mul_le_mul_left _ hnear
      _ = 2 ^ (f.prec - 1) * 2 * n + 2 ^ (f.prec - 1) * 2 ^ lastPlace f n 1 := by ring
      _ ≤ 2 ^ (f.prec - 1) * 2 * n + n := Nat.add_le_add_left hlead _
      _ = (2 ^ (f.prec - 1) * 2 + 1) * n := by ring

theorem Format.Representable.lt (h : f.Representable n) : n < 2 ^ f.width := by
  obtain ⟨_, _, -, -, hlt⟩ := h
  exact hlt

/-- The number below half of a number, and the one above it. -/
theorem Format.Representable.half (h : f.Representable n) :
    f.Representable (n / 2) ∧ f.Representable ((n + 1) / 2) := by
  obtain ⟨a, j, ha, hn, hlt⟩ := h
  have hprec := f.prec_pos
  rcases j with _ | j
  · rw [pow_zero, Nat.mul_one] at hn
    exact ⟨⟨n / 2, 0, by omega, by simp, by omega⟩, ⟨(n + 1) / 2, 0, by omega, by simp, by omega⟩⟩
  · have hdouble : n = 2 * (a * 2 ^ j) := by
      rw [hn, pow_succ]
      ring
    exact ⟨⟨a, j, ha, by omega, by omega⟩, ⟨a, j, ha, by omega, by omega⟩⟩

/-- Half of a number is off by half a unit at most. -/
theorem roundUnits_half (h : f.Representable n) :
    n ≤ 2 * roundUnits f n 2 + 1 ∧ 2 * roundUnits f n 2 ≤ n + 1 := by
  obtain ⟨hbelow, habove⟩ := h.half
  have hle := le_roundUnits (n := n) (d := 2) Nat.two_pos hbelow (by omega)
  have hge := roundUnits_le (n := n) (d := 2) Nat.two_pos habove (by omega)
  omega

end Rounding

/-! ### Values that are no numbers -/

/-- A number of a format, or nothing for a value that is no number. -/
abbrev Ieee (f : Format) := Option (Extended f)

/-- The number with the other sign. -/
def Extended.neg {f : Format} : Extended f → Extended f
  | .finite x => .finite ⟨-x.units, by rw [Int.natAbs_neg]; exact x.rep⟩
  | .infinite neg => .infinite (!neg)

namespace Ieee

variable {f : Format}

/-- Addition. Two opposite infinities have no sum. -/
def add : Ieee f → Ieee f → Ieee f
  | some (.infinite neg), some (.infinite neg') =>
    if neg = neg' then some (.infinite neg) else none
  | some x, some y => some (x.add y)
  | _, _ => none

/-- Subtraction. -/
def sub (x y : Ieee f) : Ieee f := x.add (y.map Extended.neg)

/-- Multiplication. Zero and an infinity have no product. -/
def mul : Ieee f → Ieee f → Ieee f
  | some (.finite x), some (.infinite neg) =>
    if x.units = 0 then none else some (Extended.mul (.finite x) (.infinite neg))
  | some (.infinite neg), some (.finite y) =>
    if y.units = 0 then none else some (Extended.mul (.infinite neg) (.finite y))
  | some x, some y => some (x.mul y)
  | _, _ => none

/-- Division. Two zeros have no quotient, nor have two infinities. -/
def div : Ieee f → Ieee f → Ieee f
  | some (.infinite _), some (.infinite _) => none
  | some (.finite x), some (.finite y) =>
    if x.units = 0 ∧ y.units = 0 then none else some (Extended.div (.finite x) (.finite y))
  | some x, some y => some (x.div y)
  | _, _ => none

/-- Division by two. -/
def half (x : Ieee f) : Ieee f := x.map Extended.half

/-- The magnitude. -/
def abs : Ieee f → Ieee f
  | some x => some (if x < .zero f then x.neg else x)
  | none => none

/-- The first value is less than the second one. -/
def lt : Ieee f → Ieee f → Bool
  | some x, some y => x.lt y
  | _, _ => false

/-- The first value is not greater than the second one. -/
def le : Ieee f → Ieee f → Bool
  | some x, some y => !y.lt x
  | _, _ => false

/-- `std::min`, which gives its first argument back unless the second one is less. -/
def min (x y : Ieee f) : Ieee f := if y.lt x then y else x

/-- `std::max`, which gives its first argument back unless it is less than the second one. -/
def max (x y : Ieee f) : Ieee f := if x.lt y then y else x

/-- The conversion of an integer. -/
def ofInt (f : Format) (z : ℤ) : Ieee f := some (DetectBase.ofInt f z)

/-- The rational number that a finite number is. -/
def value? : Ieee f → Option ℚ
  | some (.finite x) => some x.value
  | _ => none

/-! ### Numbers that are not negative -/

/-- **The value is a finite number of so many units.** -/
def IsUnits (x : Ieee f) (n : ℕ) : Prop :=
  ∃ h : f.Representable ((n : ℤ).natAbs), x = some (.finite ⟨n, h⟩)

variable {x y lo hi : Ieee f} {a b m n : ℕ}

theorem IsUnits.representable (h : IsUnits x n) : f.Representable n := by
  obtain ⟨hrep, -⟩ := h
  rwa [Int.natAbs_natCast] at hrep

theorem IsUnits.value?_eq (h : IsUnits x n) : x.value? = some ((n : ℚ) / 2 ^ f.scale) := by
  obtain ⟨_, rfl⟩ := h
  rw [value?, BinaryFloat.value, Int.cast_natCast]

theorem isUnits_zero : IsUnits (f := f) (some (.zero f)) 0 :=
  ⟨⟨0, 0, by simp, by simp, by simp⟩, rfl⟩

/-- What is rounded without an overflow. -/
theorem isUnits_nearest {d : ℕ} (h : roundUnits f n d < 2 ^ f.width) :
    IsUnits (some (nearest f false n d)) (roundUnits f n d) := by
  refine ⟨by rw [Int.natAbs_natCast]; exact representable_roundUnits f h, ?_⟩
  rw [nearest, dif_pos h]
  rfl

theorem nearest_natCast (f : Format) (n d : ℕ) :
    nearest f ((n : ℤ) < 0 : Bool) (n : ℤ).natAbs d = nearest f false n d := by
  rw [decide_eq_false (by omega), Int.natAbs_natCast]

/-- **The sum** of two numbers, when there is a number above it. -/
theorem IsUnits.add (hx : IsUnits x a) (hy : IsUnits y b) (hm : f.Representable m)
    (hle : a + b ≤ m) : IsUnits (x.add y) (roundUnits f (a + b) 1) := by
  obtain ⟨_, rfl⟩ := hx
  obtain ⟨_, rfl⟩ := hy
  have hround := roundUnits_le (d := 1) Nat.one_pos hm (by omega : a + b ≤ m * 1)
  show IsUnits (some (nearest f ((a : ℤ) + b < 0 : Bool) ((a : ℤ) + b).natAbs 1)) _
  rw [← Int.natCast_add, nearest_natCast]
  exact isUnits_nearest (hround.trans_lt hm.lt)

/-- **The difference** of two numbers in order. -/
theorem IsUnits.sub (hx : IsUnits x a) (hy : IsUnits y b) (hle : a ≤ b) :
    IsUnits (y.sub x) (roundUnits f (b - a) 1) := by
  have hrep := hy.representable
  obtain ⟨_, rfl⟩ := hx
  obtain ⟨_, rfl⟩ := hy
  have hround := roundUnits_le (d := 1) Nat.one_pos hrep (by omega : b - a ≤ b * 1)
  have hdifference : (b : ℤ) + -a = (b - a : ℕ) := by omega
  show IsUnits (some (nearest f ((b : ℤ) + -a < 0 : Bool) ((b : ℤ) + -a).natAbs 1)) _
  rw [hdifference, nearest_natCast]
  exact isUnits_nearest (hround.trans_lt hrep.lt)

/-- **Half of a number.** -/
theorem IsUnits.half (hx : IsUnits x n) : IsUnits x.half (roundUnits f n 2) := by
  have hrep := hx.representable
  obtain ⟨_, rfl⟩ := hx
  have hround := roundUnits_le (d := 2) Nat.two_pos hrep (by omega : n ≤ n * 2)
  show IsUnits (some (nearest f ((n : ℤ) < 0 : Bool) (n : ℤ).natAbs 2)) _
  rw [nearest_natCast]
  exact isUnits_nearest (hround.trans_lt hrep.lt)

/-- **A value that has been clamped is a number between the limits**, whatever it was. -/
theorem IsUnits.clamp (hlo : IsUnits lo a) (hhi : IsUnits hi b) (hle : a ≤ b) (x : Ieee f) :
    ∃ n, a ≤ n ∧ n ≤ b ∧ IsUnits (lo.max (x.min hi)) n := by
  have hlo' := hlo
  have hhi' := hhi
  obtain ⟨_, rfl⟩ := hlo
  obtain ⟨_, rfl⟩ := hhi
  rw [min]
  by_cases hmin : lt (some (.finite ⟨b, by assumption⟩)) x = true
  · rw [if_pos hmin, max]
    split_ifs
    · exact ⟨b, hle, le_rfl, hhi'⟩
    · exact ⟨a, le_rfl, hle, hlo'⟩
  · rw [if_neg hmin, max]
    by_cases hmax : lt (some (.finite ⟨a, by assumption⟩)) x = true
    · rw [if_pos hmax]
      -- above the lower limit, and not above the upper one
      rcases x with _ | x | neg
      · cases hmax
      · simp only [lt, Extended.lt, decide_eq_true_eq] at hmin hmax
        obtain ⟨n, hn⟩ : ∃ n : ℕ, x.units = n := ⟨x.units.toNat, by omega⟩
        refine ⟨n, by omega, by omega, by rw [← hn]; exact x.rep, ?_⟩
        congr 2
        exact BinaryFloat.ext hn
      · rcases neg with _ | _
        · exact absurd rfl hmin
        · cases hmax
    · rw [if_neg hmax]
      exact ⟨a, le_rfl, hle, hlo'⟩

end Ieee

end DetectBase
