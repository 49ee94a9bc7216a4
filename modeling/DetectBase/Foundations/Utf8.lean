import Mathlib.Data.List.Basic
import Mathlib.Data.List.GetD

/-!
# Characters and their bytes

A text in UTF-8 is a row of characters of one to four bytes each. The first byte of a character is
told from the others by its two upper bits (`DetectBase.exists_utf8EncodeChar_eq_cons`), so that the
places between the characters are the places in front of such a byte
(`DetectBase.exists_eq_append_of_not_continues`), and there is one in every four bytes
(`DetectBase.exists_boundary`).
-/

namespace DetectBase

/-- The bytes of a text, which are those of `List.utf8Encode`. -/
def encodeUtf8 (cs : List Char) : List UInt8 := cs.flatMap String.utf8EncodeChar

/-- The byte continues a character. -/
def Continues (b : UInt8) : Prop := b &&& 0xC0 = 0x80
deriving Decidable

@[simp] theorem encodeUtf8_nil : encodeUtf8 [] = [] := rfl

theorem encodeUtf8_cons (c : Char) (cs : List Char) :
    encodeUtf8 (c :: cs) = String.utf8EncodeChar c ++ encodeUtf8 cs := List.flatMap_cons

theorem encodeUtf8_append (cs cs' : List Char) :
    encodeUtf8 (cs ++ cs') = encodeUtf8 cs ++ encodeUtf8 cs' := List.flatMap_append

/-! ### One character -/

theorem continues_ofNat (x : ℕ) : Continues (.ofNat (x % 64 + 0x80)) := by
  have hall : ∀ y < 64, Continues (.ofNat (y + 0x80)) := by decide
  exact hall (x % 64) (Nat.mod_lt x (by decide))

/-- The first byte of a character of one byte, and those of characters of two, three and four. -/
theorem not_continues_ofNat (x : ℕ) : (x ≤ 0x7F → ¬Continues (.ofNat x)) ∧
    ¬Continues (.ofNat (x % 32 + 0xC0)) ∧ ¬Continues (.ofNat (x % 16 + 0xE0)) ∧
    ¬Continues (.ofNat (x % 8 + 0xF0)) := by
  have h₁ : ∀ y < 128, ¬Continues (.ofNat y) := by decide
  have h₂ : ∀ y < 32, ¬Continues (.ofNat (y + 0xC0)) := by decide
  have h₃ : ∀ y < 16, ¬Continues (.ofNat (y + 0xE0)) := by decide
  have h₄ : ∀ y < 8, ¬Continues (.ofNat (y + 0xF0)) := by decide
  exact ⟨fun h => h₁ x (by omega), h₂ _ (Nat.mod_lt x (by decide)),
    h₃ _ (Nat.mod_lt x (by decide)), h₄ _ (Nat.mod_lt x (by decide))⟩

/-- **The bytes of a character**: a first one, and at most three that continue it. -/
theorem exists_utf8EncodeChar_eq_cons (c : Char) : ∃ b bs, String.utf8EncodeChar c = b :: bs ∧
    ¬Continues b ∧ (∀ b' ∈ bs, Continues b') ∧ bs.length ≤ 3 := by
  rw [String.utf8EncodeChar]
  split_ifs with h
  · exact ⟨_, _, rfl, (not_continues_ofNat _).1 h, List.forall_mem_nil _, Nat.zero_le _⟩
  · refine ⟨_, _, rfl, (not_continues_ofNat _).2.1, ?_, by simp⟩
    exact List.forall_mem_cons.mpr ⟨continues_ofNat _, List.forall_mem_nil _⟩
  · refine ⟨_, _, rfl, (not_continues_ofNat _).2.2.1, ?_, by simp⟩
    exact List.forall_mem_cons.mpr ⟨continues_ofNat _,
      List.forall_mem_cons.mpr ⟨continues_ofNat _, List.forall_mem_nil _⟩⟩
  · refine ⟨_, _, rfl, (not_continues_ofNat _).2.2.2, ?_, by simp⟩
    exact List.forall_mem_cons.mpr ⟨continues_ofNat _, List.forall_mem_cons.mpr
      ⟨continues_ofNat _, List.forall_mem_cons.mpr ⟨continues_ofNat _, List.forall_mem_nil _⟩⟩⟩

theorem encodeUtf8_eq_nil_iff {cs : List Char} : encodeUtf8 cs = [] ↔ cs = [] := by
  constructor
  · intro h
    rcases cs with - | ⟨c, cs⟩
    · rfl
    · obtain ⟨b, bs, hc, -⟩ := exists_utf8EncodeChar_eq_cons c
      rw [encodeUtf8_cons, hc] at h
      cases h
  · rintro rfl
    rfl

/-! ### Between the characters -/

/-- The first byte of a text does not continue a character. -/
theorem not_continues_head {cs : List Char} (h : cs ≠ []) :
    ¬Continues ((encodeUtf8 cs).getD 0 0) := by
  rcases cs with - | ⟨c, cs⟩
  · exact absurd rfl h
  · obtain ⟨b, bs, hc, hb, -, -⟩ := exists_utf8EncodeChar_eq_cons c
    rw [encodeUtf8_cons, hc]
    exact hb

/-- **In front of a byte that does not continue a character**, there is a place between two
characters. -/
theorem exists_eq_append_of_not_continues {cs : List Char} {k : ℕ}
    (hk : k < (encodeUtf8 cs).length) (h : ¬Continues ((encodeUtf8 cs).getD k 0)) :
    ∃ pre post, cs = pre ++ post ∧ (encodeUtf8 pre).length = k := by
  induction cs generalizing k with
  | nil => exact absurd hk (Nat.not_lt_zero k)
  | cons c cs ih =>
    obtain ⟨b, bs, hc, -, hbs, -⟩ := exists_utf8EncodeChar_eq_cons c
    rw [encodeUtf8_cons, hc] at hk h
    rcases Nat.eq_zero_or_pos k with rfl | hpos
    · exact ⟨[], c :: cs, rfl, rfl⟩
    rcases Nat.lt_or_ge k (b :: bs).length with hlt | hge
    · -- the byte would continue `c`
      obtain ⟨j, rfl⟩ := Nat.exists_eq_add_one.mpr hpos
      have hj : j < bs.length := Nat.lt_of_succ_lt_succ hlt
      rw [List.getD_append _ _ _ _ hlt, List.getD_cons_succ, List.getD_eq_getElem _ _ hj] at h
      exact absurd (hbs _ (List.getElem_mem hj)) h
    · rw [List.getD_append_right _ _ _ _ hge] at h
      rw [List.length_append] at hk
      obtain ⟨pre, post, rfl, hlen⟩ := ih (by omega) h
      refine ⟨c :: pre, post, rfl, ?_⟩
      rw [encodeUtf8_cons, hc, List.length_append, hlen]
      omega

/-- **There is a place between two characters in every four bytes.** -/
theorem exists_boundary {cs : List Char} {n : ℕ} (hn : 4 ≤ n) (hlen : n < (encodeUtf8 cs).length) :
    ∃ k, 0 < k ∧ k ≤ n ∧ ¬Continues ((encodeUtf8 cs).getD k 0) := by
  rcases cs with - | ⟨c, cs⟩
  · exact absurd hlen (Nat.not_lt_zero n)
  · obtain ⟨b, bs, hc, -, -, hbs⟩ := exists_utf8EncodeChar_eq_cons c
    rw [encodeUtf8_cons, hc] at hlen ⊢
    -- the first character ends there, and there is another one
    refine ⟨(b :: bs).length, Nat.succ_pos _, by rw [List.length_cons]; omega, ?_⟩
    rw [List.getD_append_right _ _ _ _ (Nat.le_refl _), Nat.sub_self]
    refine not_continues_head ?_
    rintro rfl
    rw [encodeUtf8_nil, List.append_nil, List.length_cons] at hlen
    omega

end DetectBase
