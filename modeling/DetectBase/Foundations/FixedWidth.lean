import Mathlib.Data.List.Lex
import Mathlib.Data.String.Basic
import Mathlib.Tactic.IntervalCases

/-!
# Numbers of a fixed width

The decimal digits of a number, with zeros in front of them up to a width
(`DetectBase.fixedDigits`). Within the width the order of the texts is the order of the numbers
(`DetectBase.fixedDigits_lt`), and the number can be read again (`DetectBase.foldl_fixedDigits`).
-/

namespace DetectBase

/-- **The digits of a number**, the last so many of them. -/
def fixedDigits : ℕ → ℕ → List Char
  | 0, _ => []
  | w + 1, n => fixedDigits w (n / 10) ++ [Nat.digitChar (n % 10)]

@[simp] theorem length_fixedDigits (w n : ℕ) : (fixedDigits w n).length = w := by
  induction w generalizing n with
  | zero => rfl
  | succ w ih => rw [fixedDigits, List.length_append, ih, List.length_singleton]

/-! ### One digit -/

theorem digitChar_lt {a b : ℕ} (hab : a < b) (hb : b < 10) : Nat.digitChar a < Nat.digitChar b := by
  have ha : a < 10 := Nat.lt_trans hab hb
  interval_cases b <;> interval_cases a <;> decide

theorem toNat_digitChar {d : ℕ} (hd : d < 10) : (Nat.digitChar d).toNat - '0'.toNat = d := by
  interval_cases d <;> rfl

theorem isDigit_digitChar {d : ℕ} (hd : d < 10) : (Nat.digitChar d).isDigit = true := by
  interval_cases d <;> rfl

/-! ### The order of the texts -/

/-- Two texts of one length with a character behind each of them. -/
theorem concat_lt_concat {l l' : List Char} {c c' : Char} (hlen : l.length = l'.length)
    (h : l < l' ∨ l = l' ∧ c < c') : l ++ [c] < l' ++ [c'] := by
  induction l generalizing l' with
  | nil =>
    obtain rfl := List.eq_nil_of_length_eq_zero hlen.symm
    rcases h with h | ⟨-, h⟩
    · exact absurd h (lt_irrefl _)
    · exact List.Lex.rel h
  | cons a l ih =>
    obtain ⟨a', l', rfl⟩ := List.exists_cons_of_length_eq_add_one hlen.symm
    have hlen' : l.length = l'.length := Nat.succ.inj hlen
    rcases h with h | ⟨heq, h⟩
    · rcases h with - | h | h
      · exact List.Lex.rel h
      · exact List.Lex.cons (ih hlen' (.inl h))
    · obtain ⟨rfl, rfl⟩ := List.cons.inj heq
      exact List.Lex.cons (ih rfl (.inr ⟨rfl, h⟩))

/-- **The order of the texts is the order of the numbers.** -/
theorem fixedDigits_lt {w a b : ℕ} (hab : a < b) (hb : b < 10 ^ w) :
    fixedDigits w a < fixedDigits w b := by
  induction w generalizing a b with
  | zero =>
    rw [Nat.pow_zero] at hb
    omega
  | succ w ih =>
    rw [Nat.pow_succ] at hb
    refine concat_lt_concat (by rw [length_fixedDigits, length_fixedDigits]) ?_
    rcases Nat.lt_or_ge (a / 10) (b / 10) with hlt | hge
    · exact .inl (ih hlt (by omega))
    · have heq : a / 10 = b / 10 := by omega
      exact .inr ⟨by rw [heq], digitChar_lt (by omega) (Nat.mod_lt b (by decide))⟩

/-! ### Reading the number again -/

theorem isDigit_of_mem_fixedDigits {w n : ℕ} {c : Char} (h : c ∈ fixedDigits w n) :
    c.isDigit = true := by
  induction w generalizing n with
  | zero => cases h
  | succ w ih =>
    rcases List.mem_append.mp h with h | h
    · exact ih h
    · rw [List.mem_singleton.mp h]
      exact isDigit_digitChar (Nat.mod_lt n (by decide))

/-- **The number that the digits are of.** -/
theorem foldl_fixedDigits {w n : ℕ} (h : n < 10 ^ w) :
    (fixedDigits w n).foldl (fun m d => 10 * m + (d.toNat - '0'.toNat)) 0 = n := by
  induction w generalizing n with
  | zero =>
    rw [Nat.pow_zero] at h
    exact (Nat.lt_one_iff.mp h).symm
  | succ w ih =>
    rw [Nat.pow_succ] at h
    rw [fixedDigits, List.foldl_append, ih (by omega), List.foldl_cons, List.foldl_nil,
      toNat_digitChar (Nat.mod_lt n (by decide))]
    omega

theorem fixedDigits_zero (w : ℕ) : fixedDigits w 0 = List.replicate w '0' := by
  induction w with
  | zero => rfl
  | succ w ih =>
    rw [fixedDigits, Nat.zero_div, ih, List.replicate_succ']
    rfl

/-- The digits of a number with zeros in front of them. -/
theorem replicate_append_toDigits {w n : ℕ} (hw : 0 < w) (h : n < 10 ^ w) :
    List.replicate (w - (Nat.toDigits 10 n).length) '0' ++ Nat.toDigits 10 n =
      fixedDigits w n := by
  induction w generalizing n with
  | zero => exact absurd hw (Nat.lt_irrefl 0)
  | succ w ih =>
    rw [Nat.pow_succ] at h
    rcases Nat.lt_or_ge n 10 with hn | hn
    · rw [Nat.toDigits_of_lt_base hn, fixedDigits, Nat.div_eq_of_lt hn, Nat.mod_eq_of_lt hn,
        fixedDigits_zero]
      rfl
    · have hpos : 0 < w := by
        rcases w with - | w
        · rw [Nat.pow_zero] at h
          omega
        · exact Nat.succ_pos w
      rw [Nat.toDigits_of_base_le (by decide) hn, fixedDigits, ← ih hpos (by omega),
        List.length_append, List.length_singleton, Nat.add_sub_add_right, List.append_assoc]

end DetectBase
