import DetectBase.Foundations.FixedWidth
import Mathlib.Data.Nat.Bitwise

/-!
# UUIDs

`UUIDGenerator.h`: identifiers in the form of random UUIDs, made of six draws of a generator and
written in hexadecimal digits. They name callbacks and events, and a gRPC message whose identifier
is not of this form is refused at either end.

What is made is of the form that is accepted (`DetectBase.UUID.isValidUUID_iff`), and says that it
is random (`DetectBase.UUID.generate_spec`). Of the 128 bits that are drawn 122 are in the text, so
that two identifiers are the same only if the draws agree in all of those
(`DetectBase.UUID.generate_eq_iff`).
-/

namespace DetectBase.UUID

/-! ### The model -/

/-- `std::hex` with `setfill('0')` and `setw`. -/
def hexPadded (width n : ℕ) : List Char :=
  List.replicate (width - (Nat.toDigits 16 n).length) '0' ++ Nat.toDigits 16 n

/-- The draws of a generator: `gen32`, four times `gen16`, `gen32`. -/
structure Draws where
  /-- `a`. -/
  a : BitVec 32
  /-- `b`. -/
  b : BitVec 16
  /-- What `c` is made of. -/
  c : BitVec 16
  /-- What `d` is made of. -/
  d : BitVec 16
  /-- `e`. -/
  e : BitVec 16
  /-- `f`. -/
  f : BitVec 32

/-- `c`, with the version. -/
def Draws.versioned (x : Draws) : BitVec 16 := (x.c &&& 0x0FFF) ||| 0x4000

/-- `d`, with the variant. -/
def Draws.varied (x : Draws) : BitVec 16 := (x.d &&& 0x3FFF) ||| 0x8000

/-- **`generate`**. -/
def generate (x : Draws) : String :=
  .ofList (hexPadded 8 x.a.toNat ++ ['-'] ++ hexPadded 4 x.b.toNat ++ ['-'] ++
    hexPadded 4 x.versioned.toNat ++ ['-'] ++ hexPadded 4 x.varied.toNat ++ ['-'] ++
    hexPadded 4 x.e.toNat ++ hexPadded 8 x.f.toNat)

/-- `[a-fA-F0-9]`. -/
def isHex (c : Char) : Bool :=
  ('a' ≤ c && c ≤ 'f') || ('A' ≤ c && c ≤ 'F') || ('0' ≤ c && c ≤ '9')

/-- `[a-fA-F0-9]{n}` at the front of a text: what is behind it. -/
def matchHex : ℕ → List Char → Option (List Char)
  | 0, t => some t
  | n + 1, c :: t => if isHex c = true then matchHex n t else none
  | _ + 1, [] => none

/-- A character at the front of a text: what is behind it. -/
def matchChar (c : Char) : List Char → Option (List Char)
  | c' :: t => if c' = c then some t else none
  | [] => none

/-- **`isValidUUID`**: the regular expression `[a-fA-F0-9]{8}-([a-fA-F0-9]{4}-){3}[a-fA-F0-9]{12}`
for the whole text. -/
def isValidUUID (uuid : String) : Bool :=
  ((matchHex 8 uuid.toList).bind (matchChar '-')
    |>.bind (matchHex 4) |>.bind (matchChar '-')
    |>.bind (matchHex 4) |>.bind (matchChar '-')
    |>.bind (matchHex 4) |>.bind (matchChar '-')
    |>.bind (matchHex 12)) == some []

/-! ### What is accepted -/

theorem matchHex_eq_some_iff {n : ℕ} {t rest : List Char} : matchHex n t = some rest ↔
    ∃ ds, ds.length = n ∧ (∀ c ∈ ds, isHex c = true) ∧ t = ds ++ rest := by
  induction n generalizing t with
  | zero =>
    constructor
    · rintro ⟨⟩
      exact ⟨[], rfl, nofun, rfl⟩
    · rintro ⟨ds, hlength, -, rfl⟩
      rw [List.length_eq_zero_iff.mp hlength]
      rfl
  | succ n ih =>
    rcases t with _ | ⟨c, t⟩
    · constructor
      · rintro ⟨⟩
      · rintro ⟨ds, hlength, -, ht⟩
        rw [List.nil_eq, List.append_eq_nil_iff] at ht
        rw [ht.1] at hlength
        cases hlength
    · rw [matchHex]
      constructor
      · intro h
        split_ifs at h with hc
        obtain ⟨ds, hlength, hds, rfl⟩ := ih.mp h
        exact ⟨c :: ds, by rw [List.length_cons, hlength],
          List.forall_mem_cons.mpr ⟨hc, hds⟩, rfl⟩
      · rintro ⟨ds, hlength, hds, ht⟩
        rcases ds with _ | ⟨d, ds⟩
        · cases hlength
        · rw [List.cons_append, List.cons.injEq] at ht
          obtain ⟨rfl, rfl⟩ := ht
          obtain ⟨hc, hds⟩ := List.forall_mem_cons.mp hds
          rw [if_pos hc]
          exact ih.mpr ⟨ds, Nat.succ.inj hlength, hds, rfl⟩

theorem matchChar_eq_some_iff {c : Char} {t rest : List Char} :
    matchChar c t = some rest ↔ t = c :: rest := by
  rcases t with _ | ⟨c', t⟩
  · exact ⟨nofun, nofun⟩
  · rw [matchChar]
    constructor
    · intro h
      split_ifs at h with hc
      rw [hc, Option.some.inj h]
    · intro h
      rw [List.cons.injEq] at h
      rw [if_pos h.1, h.2]

/-- A row of hexadecimal digits. -/
def IsGroup (n : ℕ) (ds : List Char) : Prop := ds.length = n ∧ ∀ c ∈ ds, isHex c = true

/-- What is accepted: five groups of hexadecimal digits, of 8, 4, 4, 4 and 12. -/
theorem isValidUUID_iff (uuid : String) : isValidUUID uuid = true ↔
    ∃ g₁ g₂ g₃ g₄ g₅, IsGroup 8 g₁ ∧ IsGroup 4 g₂ ∧ IsGroup 4 g₃ ∧ IsGroup 4 g₄ ∧ IsGroup 12 g₅ ∧
      uuid.toList = g₁ ++ '-' :: (g₂ ++ '-' :: (g₃ ++ '-' :: (g₄ ++ '-' :: g₅))) := by
  constructor
  · intro h
    rw [isValidUUID, beq_iff_eq] at h
    simp only [Option.bind_eq_some_iff, matchHex_eq_some_iff, matchChar_eq_some_iff] at h
    obtain ⟨_, ⟨_, ⟨_, ⟨_, ⟨_, ⟨_, ⟨_, ⟨_, ⟨g₁, h₁, hex₁, ht⟩, rfl⟩, g₂, h₂, hex₂, rfl⟩, rfl⟩, g₃,
      h₃, hex₃, rfl⟩, rfl⟩, g₄, h₄, hex₄, rfl⟩, rfl⟩, g₅, h₅, hex₅, rfl⟩ := h
    rw [List.append_nil] at ht
    exact ⟨g₁, g₂, g₃, g₄, g₅, ⟨h₁, hex₁⟩, ⟨h₂, hex₂⟩, ⟨h₃, hex₃⟩, ⟨h₄, hex₄⟩, ⟨h₅, hex₅⟩, ht⟩
  · rintro ⟨g₁, g₂, g₃, g₄, g₅, h₁, h₂, h₃, h₄, h₅, ht⟩
    rw [isValidUUID, beq_iff_eq]
    simp only [Option.bind_eq_some_iff, matchHex_eq_some_iff, matchChar_eq_some_iff]
    exact ⟨_, ⟨_, ⟨_, ⟨_, ⟨_, ⟨_, ⟨_, ⟨_, ⟨g₁, h₁.1, h₁.2, ht⟩, rfl⟩, g₂, h₂.1, h₂.2, rfl⟩, rfl⟩,
      g₃, h₃.1, h₃.2, rfl⟩, rfl⟩, g₄, h₄.1, h₄.2, rfl⟩, rfl⟩, g₅, h₅.1, h₅.2,
      (List.append_nil g₅).symm⟩

/-! ### What is made -/

/-- The hexadecimal digits of a number, the last so many of them. -/
def fixedHex : ℕ → ℕ → List Char
  | 0, _ => []
  | w + 1, n => fixedHex w (n / 16) ++ [Nat.digitChar (n % 16)]

theorem length_fixedHex (w n : ℕ) : (fixedHex w n).length = w := by
  induction w generalizing n with
  | zero => rfl
  | succ w ih => rw [fixedHex, List.length_append, ih, List.length_singleton]

theorem isHex_digitChar : ∀ d < 16, isHex (Nat.digitChar d) = true := by decide

theorem digitChar_inj {d d' : ℕ} (hd : d < 16) (hd' : d' < 16)
    (h : Nat.digitChar d = Nat.digitChar d') : d = d' := by
  have hall : ∀ d < 16, ∀ d' < 16, Nat.digitChar d = Nat.digitChar d' → d = d' := by decide
  exact hall d hd d' hd' h

theorem isGroup_fixedHex (w n : ℕ) : IsGroup w (fixedHex w n) := by
  refine ⟨length_fixedHex w n, ?_⟩
  induction w generalizing n with
  | zero => exact nofun
  | succ w ih =>
    rw [fixedHex]
    intro c hc
    rcases List.mem_append.mp hc with hc | hc
    · exact ih _ c hc
    · rw [List.mem_singleton.mp hc]
      exact isHex_digitChar _ (Nat.mod_lt n (by decide))

/-- The digits tell the number. -/
theorem fixedHex_inj {w n m : ℕ} (hn : n < 16 ^ w) (hm : m < 16 ^ w) :
    fixedHex w n = fixedHex w m ↔ n = m := by
  refine ⟨fun h => ?_, fun h => by rw [h]⟩
  induction w generalizing n m with
  | zero =>
    rw [Nat.pow_zero, Nat.lt_one_iff] at hn hm
    rw [hn, hm]
  | succ w ih =>
    rw [Nat.pow_succ] at hn hm
    rw [fixedHex, fixedHex] at h
    obtain ⟨hdiv, hlast⟩ := List.append_inj' h rfl
    have hquotient := ih (Nat.div_lt_of_lt_mul (by omega)) (Nat.div_lt_of_lt_mul (by omega)) hdiv
    have hdigit := digitChar_inj (Nat.mod_lt n (by decide)) (Nat.mod_lt m (by decide))
      (List.singleton_inj.mp hlast)
    omega

theorem fixedHex_zero (w : ℕ) : fixedHex w 0 = List.replicate w '0' := by
  induction w with
  | zero => rfl
  | succ w ih =>
    rw [fixedHex, Nat.zero_div, ih, List.replicate_succ']
    rfl

/-- Within the width nothing but zeros is added. -/
theorem hexPadded_eq {w n : ℕ} (hw : 0 < w) (h : n < 16 ^ w) : hexPadded w n = fixedHex w n := by
  rw [hexPadded]
  induction w generalizing n with
  | zero => exact absurd hw (Nat.lt_irrefl 0)
  | succ w ih =>
    rw [Nat.pow_succ] at h
    rcases Nat.lt_or_ge n 16 with hn | hn
    · rw [Nat.toDigits_of_lt_base hn, fixedHex, Nat.div_eq_of_lt hn, Nat.mod_eq_of_lt hn,
        fixedHex_zero]
      rfl
    · have hpos : 0 < w := by
        rcases w with - | w
        · rw [Nat.pow_zero] at h
          omega
        · exact Nat.succ_pos w
      rw [Nat.toDigits_of_base_le (by decide) hn, List.length_append, List.length_singleton,
        Nat.add_sub_add_right, ← List.append_assoc, ih hpos (Nat.div_lt_of_lt_mul (by omega)),
        fixedHex]

/-- The version takes the place of four bits. -/
theorem toNat_versioned (x : Draws) : x.versioned.toNat = 4 * 16 ^ 3 + x.c.toNat % 16 ^ 3 := by
  have hand : x.c.toNat &&& 0x0FFF = x.c.toNat % 2 ^ 12 := Nat.and_two_pow_sub_one_eq_mod _ 12
  have hlt : x.c.toNat % 2 ^ 12 < 2 ^ 12 := Nat.mod_lt _ (by decide)
  show (x.c.toNat &&& 0x0FFF) ||| 0x4000 = _
  rw [hand, Nat.or_comm]
  exact (Nat.two_pow_add_eq_or_of_lt hlt 4).symm

/-- The variant takes the place of two bits. -/
theorem toNat_varied (x : Draws) : x.varied.toNat = 2 * 2 ^ 14 + x.d.toNat % 2 ^ 14 := by
  have hand : x.d.toNat &&& 0x3FFF = x.d.toNat % 2 ^ 14 := Nat.and_two_pow_sub_one_eq_mod _ 14
  have hlt : x.d.toNat % 2 ^ 14 < 2 ^ 14 := Nat.mod_lt _ (by decide)
  show (x.d.toNat &&& 0x3FFF) ||| 0x8000 = _
  rw [hand, Nat.or_comm]
  exact (Nat.two_pow_add_eq_or_of_lt hlt 2).symm

/-- The groups of what is made. -/
theorem toList_generate (x : Draws) : (generate x).toList =
    fixedHex 8 x.a.toNat ++ '-' :: (fixedHex 4 x.b.toNat ++ '-' ::
      (fixedHex 4 x.versioned.toNat ++ '-' :: (fixedHex 4 x.varied.toNat ++ '-' ::
        (fixedHex 4 x.e.toNat ++ fixedHex 8 x.f.toNat)))) := by
  have h32 : ∀ y : BitVec 32, hexPadded 8 y.toNat = fixedHex 8 y.toNat := fun y =>
    hexPadded_eq (by decide) y.isLt
  have h16 : ∀ y : BitVec 16, hexPadded 4 y.toNat = fixedHex 4 y.toNat := fun y =>
    hexPadded_eq (by decide) y.isLt
  rw [generate, String.toList_ofList, h32, h32, h16, h16, h16, h16]
  simp only [List.append_assoc, List.cons_append, List.nil_append]

/-- The first digit of a number. -/
theorem fixedHex_cons {w d r : ℕ} (hd : d < 16) (hr : r < 16 ^ w) :
    fixedHex (w + 1) (d * 16 ^ w + r) = Nat.digitChar d :: fixedHex w r := by
  induction w generalizing r with
  | zero =>
    rw [Nat.pow_zero, Nat.lt_one_iff] at hr
    rw [hr, Nat.pow_zero, Nat.mul_one, Nat.add_zero]
    show fixedHex 0 (d / 16) ++ [Nat.digitChar (d % 16)] = _
    rw [Nat.mod_eq_of_lt hd]
    rfl
  | succ w ih =>
    rw [Nat.pow_succ] at hr
    have hsplit : d * 16 ^ (w + 1) + r = 16 * (d * 16 ^ w + r / 16) + r % 16 := by
      rw [Nat.pow_succ]
      have := Nat.div_add_mod r 16
      rw [Nat.mul_add, Nat.add_assoc, this, ← Nat.mul_assoc, Nat.mul_comm 16 (d * 16 ^ w)]
    have hdiv : (d * 16 ^ (w + 1) + r) / 16 = d * 16 ^ w + r / 16 := by omega
    have hmod : (d * 16 ^ (w + 1) + r) % 16 = r % 16 := by omega
    rw [fixedHex, hdiv, hmod, ih (Nat.div_lt_of_lt_mul (by omega)), fixedHex]
    rfl

theorem isValidUUID_generate (x : Draws) : isValidUUID (generate x) = true := by
  refine (isValidUUID_iff _).mpr ⟨_, _, _, _, _, isGroup_fixedHex 8 _, isGroup_fixedHex 4 _,
    isGroup_fixedHex 4 _, isGroup_fixedHex 4 _, ⟨?_, fun c hc => ?_⟩, toList_generate x⟩
  · rw [List.length_append, length_fixedHex, length_fixedHex]
  · rcases List.mem_append.mp hc with hc | hc
    · exact (isGroup_fixedHex 4 _).2 c hc
    · exact (isGroup_fixedHex 8 _).2 c hc

/-- **What is made is a UUID**, and says that it is random: the third group begins with the version
4, and the fourth one with the variant, which leaves two bits of its first digit. -/
theorem generate_spec (x : Draws) : isValidUUID (generate x) = true ∧
    ∃ g₁ g₂ g₃ v g₄ g₅, v < 4 ∧ g₁.length = 8 ∧ g₂.length = 4 ∧ g₃.length = 3 ∧
      (generate x).toList = g₁ ++ '-' :: (g₂ ++ '-' :: ('4' :: g₃ ++ '-' ::
        (Nat.digitChar (8 + v) :: g₄ ++ '-' :: g₅))) := by
  have hversion : fixedHex 4 x.versioned.toNat = '4' :: fixedHex 3 (x.c.toNat % 16 ^ 3) := by
    rw [toNat_versioned]
    exact fixedHex_cons (by decide) (Nat.mod_lt _ (by decide))
  have hvariant : fixedHex 4 x.varied.toNat =
      Nat.digitChar (8 + x.d.toNat % 2 ^ 14 / 16 ^ 3) :: fixedHex 3 (x.d.toNat % 16 ^ 3) := by
    have hnumber : x.varied.toNat =
        (8 + x.d.toNat % 2 ^ 14 / 16 ^ 3) * 16 ^ 3 + x.d.toNat % 16 ^ 3 := by
      rw [toNat_varied]
      omega
    rw [hnumber]
    exact fixedHex_cons (by omega) (Nat.mod_lt _ (by decide))
  have hlt : x.d.toNat % 2 ^ 14 / 16 ^ 3 < 4 := by omega
  refine ⟨isValidUUID_generate x, fixedHex 8 x.a.toNat, fixedHex 4 x.b.toNat,
    fixedHex 3 (x.c.toNat % 16 ^ 3), _, fixedHex 3 (x.d.toNat % 16 ^ 3),
    fixedHex 4 x.e.toNat ++ fixedHex 8 x.f.toNat, hlt, length_fixedHex 8 _, length_fixedHex 4 _,
    length_fixedHex 3 _, ?_⟩
  rw [toList_generate, hversion, hvariant]

/-- **When two draws make the same identifier**: when they agree in all bits but the six that the
version and the variant take the place of. -/
theorem generate_eq_iff (x y : Draws) : generate x = generate y ↔
    x.a = y.a ∧ x.b = y.b ∧ x.c.toNat % 2 ^ 12 = y.c.toNat % 2 ^ 12 ∧
      x.d.toNat % 2 ^ 14 = y.d.toNat % 2 ^ 14 ∧ x.e = y.e ∧ x.f = y.f := by
  have h32 : ∀ z : BitVec 32, z.toNat < 16 ^ 8 := fun z => z.isLt
  have h16 : ∀ z : BitVec 16, z.toNat < 16 ^ 4 := fun z => z.isLt
  have hgroup : ∀ w n m, (fixedHex w n).length = (fixedHex w m).length := fun w n m => by
    rw [length_fixedHex, length_fixedHex]
  rw [← String.toList_inj, toList_generate, toList_generate]
  constructor
  · intro h
    obtain ⟨h₁, h⟩ := List.append_inj h (hgroup ..)
    obtain ⟨h₂, h⟩ := List.append_inj (List.cons.inj h).2 (hgroup ..)
    obtain ⟨h₃, h⟩ := List.append_inj (List.cons.inj h).2 (hgroup ..)
    obtain ⟨h₄, h⟩ := List.append_inj (List.cons.inj h).2 (hgroup ..)
    obtain ⟨h₅, h₆⟩ := List.append_inj (List.cons.inj h).2 (hgroup ..)
    rw [fixedHex_inj (h32 _) (h32 _)] at h₁ h₆
    rw [fixedHex_inj (h16 _) (h16 _)] at h₂ h₃ h₄ h₅
    rw [toNat_versioned, toNat_versioned] at h₃
    rw [toNat_varied, toNat_varied] at h₄
    exact ⟨BitVec.eq_of_toNat_eq h₁, BitVec.eq_of_toNat_eq h₂, Nat.add_left_cancel h₃,
      Nat.add_left_cancel h₄, BitVec.eq_of_toNat_eq h₅, BitVec.eq_of_toNat_eq h₆⟩
  · rintro ⟨ha, hb, hc, hd, he, hf⟩
    have hversion : x.versioned.toNat = y.versioned.toNat := by
      rw [toNat_versioned, toNat_versioned]
      exact congrArg (4 * 16 ^ 3 + ·) hc
    have hvariant : x.varied.toNat = y.varied.toNat := by
      rw [toNat_varied, toNat_varied, hd]
    rw [ha, hb, hversion, hvariant, he, hf]

end DetectBase.UUID
