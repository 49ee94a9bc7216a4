import Mathlib.Algebra.Group.Nat.Defs
import Mathlib.Data.Nat.Digits.Lemmas
import Mathlib.Tactic.Ring

/-!
# Decimal digits, the first one first

A natural number as the list of its decimal digits in the order in which they are written, and the
number that a list of digits is read as. Lists that are joined join the numbers
(`DetectBase.decimalValue_append`), and the digits of a number stand for it
(`DetectBase.decimalValue_decimal`).
-/

namespace DetectBase

/-- The characters of some digits. -/
def digitChars (ds : List ℕ) : List Char := ds.map Nat.digitChar

/-- The number that some digits stand for. -/
def decimalValue (ds : List ℕ) : ℕ := ds.foldl (fun a d => 10 * a + d) 0

theorem foldl_digits (ds : List ℕ) (a : ℕ) :
    ds.foldl (fun a d => 10 * a + d) a = a * 10 ^ ds.length + decimalValue ds := by
  induction ds generalizing a with
  | nil => simp [decimalValue]
  | cons d ds ih =>
    rw [decimalValue, List.foldl_cons, List.foldl_cons, ih, ih (10 * 0 + d), List.length_cons,
      pow_succ]
    ring

theorem decimalValue_append (ds es : List ℕ) :
    decimalValue (ds ++ es) = decimalValue ds * 10 ^ es.length + decimalValue es := by
  rw [decimalValue, List.foldl_append, foldl_digits]
  rfl

/-- The digits of a number, the first one first. -/
def decimal (n : ℕ) : List ℕ := (Nat.digits 10 n).reverse

theorem decimalValue_decimal (n : ℕ) : decimalValue (decimal n) = n := by
  rw [decimalValue, decimal, List.foldl_reverse]
  conv_rhs => rw [← Nat.ofDigits_digits 10 n, Nat.ofDigits_eq_foldr]
  exact congrArg (fun f => List.foldr f 0 (Nat.digits 10 n))
    (funext fun d => funext fun a => Nat.add_comm _ _)

theorem lt_of_mem_decimal {n d : ℕ} (h : d ∈ decimal n) : d < 10 :=
  Nat.digits_lt_base (by decide) (List.mem_reverse.mp h)

/-- The first digit is not zero. -/
theorem exists_decimal {n : ℕ} (hn : n ≠ 0) : ∃ d ds, decimal n = d :: ds ∧ d ≠ 0 := by
  rcases hdecimal : decimal n with _ | ⟨d, ds⟩
  · rw [decimal, List.reverse_eq_nil_iff, Nat.digits_eq_nil_iff_eq_zero] at hdecimal
    exact absurd hdecimal hn
  · refine ⟨d, ds, rfl, ?_⟩
    have hdigits : Nat.digits 10 n = ds.reverse ++ [d] := by
      rw [← List.reverse_reverse (Nat.digits 10 n), ← decimal, hdecimal, List.reverse_cons]
    have hlast := Nat.getLast_digit_ne_zero 10 hn
    simpa [hdigits] using hlast

theorem decimal_of_lt {n : ℕ} (hn : n ≠ 0) (h : n < 10) : decimal n = [n] := by
  rw [decimal, Nat.digits_of_lt 10 n hn h, List.reverse_singleton]

/-- The last digit, and those before it. -/
theorem decimal_div {n : ℕ} (hn : n ≠ 0) : decimal n = decimal (n / 10) ++ [n % 10] := by
  rw [decimal, Nat.digits_def' (by decide) (Nat.pos_of_ne_zero hn), List.reverse_cons]
  rfl

theorem digitChars_append (ds es : List ℕ) :
    digitChars (ds ++ es) = digitChars ds ++ digitChars es := List.map_append

theorem digitChars_replicate (j : ℕ) : digitChars (List.replicate j 0) = List.replicate j '0' :=
  List.map_replicate

theorem decimalValue_replicate (j : ℕ) : decimalValue (List.replicate j 0) = 0 := by
  induction j with
  | zero => rfl
  | succ j ih => simpa [decimalValue, List.replicate_succ] using ih

/-- The digits before the point go on behind it. -/
theorem foldl_decimalValue (ds es : List ℕ) :
    es.foldl (fun a d => 10 * a + d) (decimalValue ds) = decimalValue (ds ++ es) :=
  List.foldl_append.symm

end DetectBase
