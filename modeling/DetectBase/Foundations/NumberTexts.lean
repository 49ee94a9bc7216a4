import DetectBase.Foundations.FixedWidth
import Mathlib.Algebra.Order.Field.Rat
import Mathlib.Data.Rat.Cast.Defs
import Mathlib.Tactic.Ring

/-!
# Numbers in texts

Readers for a row of digits, for an integer, and for a number with a point in it. They read what is
written for a number (`DetectBase.readInt_toString`, `DetectBase.readDecimal_neg`,
`DetectBase.readDecimal_pos`), and take no other characters than digits, the point and a sign.
-/

namespace DetectBase

/-- A row of digits. -/
def readNat (t : List Char) : Option ℕ :=
  if t ≠ [] ∧ t.all Char.isDigit then
    some (t.foldl (fun n d => 10 * n + (d.toNat - '0'.toNat)) 0)
  else none

/-- An integer. -/
def readInt : List Char → Option ℤ
  | '-' :: t => (readNat t).map fun n => -(n : ℤ)
  | t => (readNat t).map fun n => (n : ℤ)

/-- A number with a point in it. -/
def readFixedPoint (t : List Char) : Option ℚ :=
  match readNat (t.takeWhile (· ≠ '.')), readNat ((t.dropWhile (· ≠ '.')).drop 1) with
  | some n, some m => some (n + m / 10 ^ ((t.dropWhile (· ≠ '.')).drop 1).length)
  | _, _ => none

/-- A number with a point in it, and a sign. -/
def readDecimal : List Char → Option ℚ
  | '-' :: t => (readFixedPoint t).map fun q => -q
  | t => readFixedPoint t

/-! ### What is written is read -/

theorem readNat_of {t : List Char} (hne : t ≠ []) (hdigit : ∀ c ∈ t, c.isDigit = true) :
    readNat t = some (t.foldl (fun n d => 10 * n + (d.toNat - '0'.toNat)) 0) := by
  rw [readNat, if_pos ⟨hne, List.all_eq_true.mpr hdigit⟩]

theorem isDigit_of_mem_toString {n : ℕ} {c : Char} (h : c ∈ (toString n).toList) :
    c.isDigit = true := by
  rw [Nat.toString_eq_repr, Nat.toList_repr] at h
  exact Nat.isDigit_of_mem_toDigits (by decide) (by decide) h

theorem toList_toString_ne_nil (n : ℕ) : (toString n).toList ≠ [] := by
  rw [Nat.toString_eq_repr, Nat.toList_repr]
  exact Nat.toDigits_ne_nil

theorem readNat_toString (n : ℕ) : readNat (toString n).toList = some n := by
  rw [readNat_of (toList_toString_ne_nil n) fun c hc => isDigit_of_mem_toString hc,
    Nat.toString_eq_repr, Nat.toList_repr, ← Nat.ofDigitChars_eq_foldl,
    Nat.ofDigitChars_ten_toDigits]

theorem readNat_fixedDigits {w n : ℕ} (hw : 0 < w) (h : n < 10 ^ w) :
    readNat (fixedDigits w n) = some n := by
  have hne : fixedDigits w n ≠ [] := by
    rw [← List.length_pos_iff, length_fixedDigits]
    exact hw
  rw [readNat_of hne fun c hc => isDigit_of_mem_fixedDigits hc, foldl_fixedDigits h]

/-- Without a sign in front of it an integer is a row of digits. -/
theorem readInt_of {t : List Char} (h : ∀ c ∈ t, c.isDigit = true) :
    readInt t = (readNat t).map fun n => (n : ℤ) := by
  rcases t with _ | ⟨c, t⟩
  · rfl
  · rw [readInt]
    rintro t' ⟨⟩
    have := h '-' List.mem_cons_self
    revert this
    decide

/-- **The text of an integer.** -/
theorem readInt_toString (z : ℤ) : readInt (toString z).toList = some z := by
  rcases z with n | n
  · show readInt (toString n).toList = _
    rw [readInt_of fun c hc => isDigit_of_mem_toString hc, readNat_toString]
    rfl
  · have htext : (toString (Int.negSucc n)).toList = '-' :: (toString (n + 1)).toList := by
      show ("-" ++ toString (n + 1)).toList = _
      rw [String.toList_append]
      rfl
    rw [htext, readInt, readNat_toString]
    rfl

/-- **The text of a number with digits behind its point.** -/
theorem readFixedPoint_eq (n : ℕ) {w m : ℕ} (hw : 0 < w) (h : m < 10 ^ w) :
    readFixedPoint ((toString n).toList ++ '.' :: fixedDigits w m) =
      some ((n : ℚ) + m / 10 ^ w) := by
  have hdigits : ∀ c ∈ (toString n).toList, (decide (c ≠ '.')) = true := by
    intro c hc
    refine decide_eq_true ?_
    rintro rfl
    have := isDigit_of_mem_toString hc
    revert this
    decide
  rw [readFixedPoint, List.takeWhile_append_of_pos hdigits, List.dropWhile_append_of_pos hdigits,
    List.takeWhile_cons_of_neg (by decide), List.dropWhile_cons_of_neg (by decide),
    List.append_nil, List.drop_succ_cons, List.drop_zero, readNat_toString,
    readNat_fixedDigits hw h, length_fixedDigits]

theorem readDecimal_pos (n : ℕ) {w m : ℕ} (hw : 0 < w) (h : m < 10 ^ w) :
    readDecimal ((toString n).toList ++ '.' :: fixedDigits w m) = some ((n : ℚ) + m / 10 ^ w) := by
  rw [← readFixedPoint_eq n hw h, readDecimal]
  intro t ht
  rcases hlist : (toString n).toList with _ | ⟨c, cs⟩
  · exact toList_toString_ne_nil n hlist
  · have hc : c.isDigit = true := isDigit_of_mem_toString (hlist ▸ List.mem_cons_self)
    rw [hlist, List.cons_append, List.cons.injEq] at ht
    rw [ht.1] at hc
    revert hc
    decide

theorem readDecimal_neg (n : ℕ) {w m : ℕ} (hw : 0 < w) (h : m < 10 ^ w) :
    readDecimal ('-' :: ((toString n).toList ++ '.' :: fixedDigits w m)) =
      some (-((n : ℚ) + m / 10 ^ w)) := by
  rw [readDecimal, readFixedPoint_eq n hw h]
  rfl

end DetectBase
