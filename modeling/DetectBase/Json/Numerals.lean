import DetectBase.Foundations.Decimal
import DetectBase.Json.Text

/-!
# The numbers in a JSON text

`dump_integer` and `dump_float` of the vendored JSON library, with the layout of `to_chars`, and
what the lexer makes of what they write: one token, with the number that was written
(`DetectBase.Lexer.run_dumpInteger`, `DetectBase.Lexer.run_toChars`).

`dump_integer` fills its buffer from the end, two digits in a turn, from a place that it counts
beforehand; that place is where the first digit comes to stand
(`DetectBase.Serializer.length_dumpInteger`). The digits of a `double` come from the library's
`grisu2`, of which nothing is used but that they stand for the number they were made from.
-/

namespace DetectBase

namespace Serializer

/-! ### Integers -/

/-- `count_digits`, which counts four digits in a turn. -/
def countDigits (x : ℕ) : ℕ :=
  if x < 10 then 1
  else if x < 100 then 2
  else if x < 1000 then 3
  else if x < 10000 then 4
  else countDigits (x / 10000) + 4
termination_by x
decreasing_by omega

/-- The loop of `dump_integer`, which fills the buffer from its end, two digits in a turn. -/
def writeDigits (absValue : ℕ) (buffer : List Char) : List Char :=
  if 100 ≤ absValue then
    writeDigits (absValue / 100)
      (Nat.digitChar (absValue % 100 / 10) :: Nat.digitChar (absValue % 100 % 10) :: buffer)
  else if 10 ≤ absValue then
    Nat.digitChar (absValue / 10) :: Nat.digitChar (absValue % 10) :: buffer
  else Nat.digitChar absValue :: buffer
termination_by absValue
decreasing_by omega

/-- `n_chars`, the place in the buffer where the loop starts to write. -/
def nChars (x : ℤ) : ℕ := (if x < 0 then 1 else 0) + countDigits x.natAbs

/-- **`dump_integer`**. -/
def dumpInteger (x : ℤ) : List Char :=
  if x = 0 then ['0']
  else (if x < 0 then ['-'] else []) ++ writeDigits x.natAbs []

/-! ### Floating-point numbers -/

/-- The digits of `grisu2`, the first one first, and its decimal exponent. -/
abbrev Grisu2 := BinaryFloat binary64 → List ℕ × ℤ

/-- The absolute value, `-value` where the sign bit is set. -/
def magnitude (x : BinaryFloat binary64) : BinaryFloat binary64 :=
  ⟨(x.units.natAbs : ℤ), by rw [Int.natAbs_natCast]; exact x.rep⟩

/-- **`append_exponent`**: a sign, and two digits or three. -/
def appendExponent (e : ℤ) : List Char :=
  let k := e.natAbs
  (if e < 0 then '-' else '+') ::
    if k < 10 then ['0', Nat.digitChar k]
    else if k < 100 then digitChars [k / 10, k % 10]
    else digitChars [k / 100, k % 100 / 10, k % 100 % 10]

/-- `kMaxExp`, which is `digits10` of a `double`; `kMinExp` is `-4`. -/
def kMaxExp : ℤ := 15

/-- **`format_buffer`**: `n` is where the decimal point stands, counted from the first digit. -/
def formatBuffer (digits : List ℕ) (decimalExponent : ℤ) : List Char :=
  let k : ℤ := digits.length
  let n := k + decimalExponent
  if k ≤ n ∧ n ≤ kMaxExp then
    digitChars digits ++ List.replicate (n - k).toNat '0' ++ ['.', '0']
  else if 0 < n ∧ n ≤ kMaxExp then
    digitChars (digits.take n.toNat) ++ '.' :: digitChars (digits.drop n.toNat)
  else if -4 < n ∧ n ≤ 0 then
    '0' :: '.' :: List.replicate (-n).toNat '0' ++ digitChars digits
  else if k = 1 then
    digitChars digits ++ 'e' :: appendExponent (n - 1)
  else
    digitChars (digits.take 1) ++ '.' :: digitChars (digits.drop 1) ++
      'e' :: appendExponent (n - 1)

/-- **`to_chars`**. -/
def toChars (grisu2 : Grisu2) (x : BinaryFloat binary64) : List Char :=
  (if x.units < 0 then ['-'] else []) ++
    if x.units = 0 then ['0', '.', '0']
    else formatBuffer (grisu2 (magnitude x)).1 (grisu2 (magnitude x)).2

/-- **`dump_float`**. -/
def dumpFloat (grisu2 : Grisu2) : Double → List Char
  | .finite x => toChars grisu2 x
  | .infinite _ => ['n', 'u', 'l', 'l']

/-! ### What is in the buffer -/

/-- **The buffer gets the digits of the number.** -/
theorem writeDigits_eq {n : ℕ} (hn : n ≠ 0) (buffer : List Char) :
    writeDigits n buffer = digitChars (decimal n) ++ buffer := by
  induction n using Nat.strong_induction_on generalizing buffer with
  | _ n ih =>
    rw [writeDigits]
    split_ifs with h100 h10
    · rw [ih (n / 100) (by omega) (by omega), decimal_div hn, decimal_div (n := n / 10) (by omega),
        Nat.div_div_eq_div_mul, digitChars, digitChars, List.map_append, List.map_append,
        List.append_assoc, List.append_assoc]
      have h1 : n % 100 / 10 = n / 10 % 10 := by omega
      have h2 : n % 100 % 10 = n % 10 := by omega
      rw [h1, h2]
      rfl
    · rw [decimal_div hn, decimal_of_lt (n := n / 10) (by omega) (by omega)]
      rfl
    · rw [decimal_of_lt hn (by omega)]
      rfl

/-- **The loop fills the buffer to its first place**: `count_digits` tells how many digits there
are. -/
theorem length_decimal {n : ℕ} (hn : n ≠ 0) : (decimal n).length = countDigits n := by
  induction n using Nat.strong_induction_on with
  | _ n ih =>
    rw [countDigits]
    split_ifs with h1 h2 h3 h4
    · rw [decimal_of_lt hn h1]
      rfl
    · rw [decimal_div hn, decimal_of_lt (n := n / 10) (by omega) (by omega)]
      rfl
    · rw [decimal_div hn, decimal_div (n := n / 10) (by omega),
        decimal_of_lt (n := n / 10 / 10) (by omega) (by omega)]
      rfl
    · rw [decimal_div hn, decimal_div (n := n / 10) (by omega),
        decimal_div (n := n / 10 / 10) (by omega),
        decimal_of_lt (n := n / 10 / 10 / 10) (by omega) (by omega)]
      rfl
    · have hdiv : n / 10 / 10 / 10 / 10 = n / 10000 := by omega
      rw [decimal_div hn, decimal_div (n := n / 10) (by omega),
        decimal_div (n := n / 10 / 10) (by omega), decimal_div (n := n / 10 / 10 / 10) (by omega),
        hdiv, List.length_append, List.length_append, List.length_append, List.length_append,
        ih (n / 10000) (by omega) (by omega)]
      rfl

/-- The buffer of an integer has as many characters as `n_chars` says. -/
theorem length_dumpInteger {x : ℤ} (hx : x ≠ 0) : (dumpInteger x).length = nChars x := by
  have habs : x.natAbs ≠ 0 := Int.natAbs_ne_zero.mpr hx
  rw [dumpInteger, if_neg hx, nChars, writeDigits_eq habs, ← length_decimal habs]
  split_ifs <;> simp [digitChars, Nat.add_comm]

end Serializer

namespace Lexer

open Serializer

/-! ### What the lexer makes of the digits -/

/-- What follows a number ends it: the end of the text, or what `dump` writes behind a value. -/
def Closes (rest : List Char) : Prop :=
  ∀ c cs, rest = c :: cs → c = ',' ∨ c = ']' ∨ c = '\x7d' ∨ c = '\n'

theorem digit?_digitChar {d : ℕ} (h : d < 10) : digit? (Nat.digitChar d) = some d := by
  revert d
  decide

/-- Where a number may end. -/
def NumberState.Final : NumberState → Prop
  | .zero | .any1 | .decimal2 | .any2 => True
  | .minus | .decimal1 | .exponent | .sign => False

theorem stepNumber_of_closes {x : Number} {state : NumberState} (hstate : NumberState.Final state)
    {c : Char} (hc : c = ',' ∨ c = ']' ∨ c = '\x7d' ∨ c = '\n') :
    stepNumber x c state = finish x c := by
  rcases state <;> first | exact hstate.elim | (rcases hc with rfl | rfl | rfl | rfl <;> rfl)

/-- The tokens that a character completes, and those of what follows. -/
theorem run_cons (st : Lexer) (c : Char) (cs : List Char) :
    st.run (c :: cs) = (step c st).1 ++ (step c st).2.elim [] fun st' => st'.run cs := by
  rw [run]
  rcases step c st with ⟨ts, _ | st'⟩
  · exact (List.append_nil ts).symm
  · rfl

/-- **The end of a number.** -/
theorem run_number (x : Number) (state : NumberState) (hstate : NumberState.Final state)
    {rest : List Char} (hrest : Closes rest) :
    (number state x).run rest = x.token :: start.run rest := by
  rcases rest with _ | ⟨c, cs⟩
  · rcases state <;> first | exact hstate.elim | rfl
  · have hstep : step c (number state x) = finish x c :=
      stepNumber_of_closes hstate (hrest c cs rfl)
    rw [run_cons, run_cons, hstep, finish, step]
    rcases begin c with ⟨ts, _ | st⟩ <;> rfl

/-- The digits before the point. -/
theorem run_any1 (ds : List ℕ) (hds : ∀ d ∈ ds, d < 10) (x : Number) (rest : List Char) :
    (number .any1 x).run (digitChars ds ++ rest) =
      (number .any1 { x with digits := ds.foldl (fun a d => 10 * a + d) x.digits }).run rest := by
  induction ds generalizing x with
  | nil => rfl
  | cons d ds ih =>
    obtain ⟨hd, hds⟩ := List.forall_mem_cons.mp hds
    have hstep : step (Nat.digitChar d) (number .any1 x) =
        ([], some (.number .any1 (x.push d))) := by
      rw [step, stepNumber, digit?_digitChar hd]
    show (number .any1 x).run (Nat.digitChar d :: (digitChars ds ++ rest)) = _
    rw [run, hstep]
    exact ih hds (x.push d)

/-- The digits behind the point. -/
theorem run_decimal2 (ds : List ℕ) (hds : ∀ d ∈ ds, d < 10) (x : Number) (rest : List Char) :
    (number .decimal2 x).run (digitChars ds ++ rest) =
      (number .decimal2 { x with
        digits := ds.foldl (fun a d => 10 * a + d) x.digits
        fraction := x.fraction + ds.length }).run rest := by
  induction ds generalizing x with
  | nil => rfl
  | cons d ds ih =>
    obtain ⟨hd, hds⟩ := List.forall_mem_cons.mp hds
    have hstep : step (Nat.digitChar d) (number .decimal2 x) =
        ([], some (.number .decimal2 (x.pushFraction d))) := by
      rw [step, stepNumber, digit?_digitChar hd]
    show (number .decimal2 x).run (Nat.digitChar d :: (digitChars ds ++ rest)) = _
    rw [run, hstep, List.length_cons, Nat.add_comm ds.length, ← Nat.add_assoc]
    exact ih hds (x.pushFraction d)

/-- The digits of the exponent. -/
theorem run_any2 (ds : List ℕ) (hds : ∀ d ∈ ds, d < 10) (x : Number) (rest : List Char) :
    (number .any2 x).run (digitChars ds ++ rest) =
      (number .any2 { x with exp := ds.foldl (fun a d => 10 * a + d) x.exp }).run rest := by
  induction ds generalizing x with
  | nil => rfl
  | cons d ds ih =>
    obtain ⟨hd, hds⟩ := List.forall_mem_cons.mp hds
    have hstep : step (Nat.digitChar d) (number .any2 x) =
        ([], some (.number .any2 (x.pushExp d))) := by
      rw [step, stepNumber, digit?_digitChar hd]
    show (number .any2 x).run (Nat.digitChar d :: (digitChars ds ++ rest)) = _
    rw [run, hstep]
    exact ih hds (x.pushExp d)

/-- The sign of a number. -/
def signChars (neg : Bool) : List Char := if neg then ['-'] else []

/-- **A number that does not begin with a zero.** -/
theorem run_digits (ds : List ℕ) (hds : ∀ d ∈ ds, d < 10) (hne : ds ≠ [])
    (hhead : ds.head hne ≠ 0) (neg : Bool) (rest : List Char) :
    start.run (signChars neg ++ (digitChars ds ++ rest)) =
      (number .any1 ⟨neg, decimalValue ds, 0, false, 0, false⟩).run rest := by
  rcases ds with _ | ⟨d, ds⟩
  · exact absurd rfl hne
  · obtain ⟨hd, hds⟩ := List.forall_mem_cons.mp hds
    have hd0 : d ≠ 0 := hhead
    have hbegin : start.run (signChars neg ++ (Nat.digitChar d :: (digitChars ds ++ rest))) =
        (number .any1 ⟨neg, d, 0, false, 0, false⟩).run (digitChars ds ++ rest) := by
      rcases neg with _ | _
      · interval_cases d <;> first | exact absurd rfl hd0 | rfl
      · interval_cases d <;> first | exact absurd rfl hd0 | rfl
    refine hbegin.trans ((run_any1 ds hds _ rest).trans ?_)
    rw [decimalValue, List.foldl_cons, Nat.mul_zero, Nat.zero_add]

/-- A number that begins with a zero. -/
theorem run_zero (neg : Bool) (rest : List Char) :
    start.run (signChars neg ++ '0' :: rest) =
      (number .zero ⟨neg, 0, 0, false, 0, false⟩).run rest := by
  rcases neg with _ | _ <;> rfl

/-- **An integer is one token**, as long as it has its 64 bits. -/
theorem run_dumpInteger {n : ℤ} (hlow : -2 ^ 63 ≤ n) (hhigh : n < 2 ^ 64) {rest : List Char}
    (hrest : Closes rest) : start.run (dumpInteger n ++ rest) = .integer n :: start.run rest := by
  rw [dumpInteger]
  split_ifs with h0 hneg
  · rw [h0]
    exact run_number _ .zero trivial hrest
  · have habs : n.natAbs ≠ 0 := Int.natAbs_ne_zero.mpr h0
    obtain ⟨d, ds, hdecimal, hd⟩ := exists_decimal habs
    have hrun := run_digits (decimal n.natAbs) (fun _ => lt_of_mem_decimal)
      (by simp [hdecimal]) (by simpa [hdecimal] using hd) true rest
    rw [writeDigits_eq habs, List.append_nil, List.append_assoc]
    refine hrun.trans ((run_number _ .any1 trivial hrest).trans ?_)
    have htoken : Number.token ⟨true, n.natAbs, 0, false, 0, false⟩ = .integer n := by
      have hle : n.natAbs ≤ 2 ^ 63 := by omega
      simp only [Number.token, Bool.false_eq_true, if_false, if_true, if_pos hle]
      congr 1
      omega
    rw [decimalValue_decimal, htoken]
  · have habs : n.natAbs ≠ 0 := Int.natAbs_ne_zero.mpr h0
    obtain ⟨d, ds, hdecimal, hd⟩ := exists_decimal habs
    have hrun := run_digits (decimal n.natAbs) (fun _ => lt_of_mem_decimal)
      (by simp [hdecimal]) (by simpa [hdecimal] using hd) false rest
    rw [writeDigits_eq habs, List.append_nil, List.append_assoc]
    refine hrun.trans ((run_number _ .any1 trivial hrest).trans ?_)
    have htoken : Number.token ⟨false, n.natAbs, 0, false, 0, false⟩ = .integer n := by
      have hlt : n.natAbs < 2 ^ 64 := by omega
      simp only [Number.token, Bool.false_eq_true, if_false, if_pos hlt]
      congr 1
      omega
    rw [decimalValue_decimal, htoken]

/-! ### What the lexer makes of a floating-point number -/

/-- The point, and the digits behind it. -/
theorem run_point (ds : List ℕ) (hds : ∀ d ∈ ds, d < 10) (hne : ds ≠ []) {state : NumberState}
    (hstate : state = .zero ∨ state = .any1) (x : Number) (rest : List Char) :
    (number state x).run ('.' :: (digitChars ds ++ rest)) =
      (number .decimal2 { x with
        digits := ds.foldl (fun a d => 10 * a + d) x.digits
        fraction := x.fraction + ds.length
        isFloat := true }).run rest := by
  rcases ds with _ | ⟨d, ds⟩
  · exact absurd rfl hne
  · obtain ⟨hd, hds⟩ := List.forall_mem_cons.mp hds
    have hpoint : (number state x).run ('.' :: (Nat.digitChar d :: (digitChars ds ++ rest))) =
        (number .decimal1 { x with isFloat := true }).run
          (Nat.digitChar d :: (digitChars ds ++ rest)) := by
      rcases hstate with rfl | rfl <;> rfl
    have hstep : step (Nat.digitChar d) (number .decimal1 { x with isFloat := true }) =
        ([], some (.number .decimal2 (({ x with isFloat := true } : Number).pushFraction d))) := by
      rw [step, stepNumber, digit?_digitChar hd]
    refine hpoint.trans ?_
    rw [run, hstep, List.length_cons, Nat.add_comm ds.length, ← Nat.add_assoc]
    exact run_decimal2 ds hds _ rest

/-- The digits of an exponent. -/
theorem exists_appendExponent {e : ℤ} (he : e.natAbs < 1000) :
    ∃ ds, appendExponent e = (if e < 0 then '-' else '+') :: digitChars ds ∧ ds ≠ [] ∧
      (∀ d ∈ ds, d < 10) ∧ decimalValue ds = e.natAbs := by
  rw [appendExponent]
  rcases Nat.lt_or_ge e.natAbs 10 with h10 | h10
  · refine ⟨[0, e.natAbs], ?_, by simp, ?_, ?_⟩
    · simp only [if_pos h10]
      rfl
    · simpa using h10
    · simp [decimalValue]
  · rcases Nat.lt_or_ge e.natAbs 100 with h100 | h100
    · refine ⟨[e.natAbs / 10, e.natAbs % 10], ?_, by simp, ?_, ?_⟩
      · simp only [if_neg (not_lt.mpr h10), if_pos h100]
      · simp only [List.mem_cons, List.not_mem_nil, or_false]
        rintro d (rfl | rfl) <;> omega
      · simp only [decimalValue, List.foldl_cons, List.foldl_nil]
        omega
    · refine ⟨[e.natAbs / 100, e.natAbs % 100 / 10, e.natAbs % 100 % 10], ?_, by simp, ?_, ?_⟩
      · simp only [if_neg (not_lt.mpr h10), if_neg (not_lt.mpr h100)]
      · simp only [List.mem_cons, List.not_mem_nil, or_false]
        rintro d (rfl | rfl | rfl) <;> omega
      · simp only [decimalValue, List.foldl_cons, List.foldl_nil]
        omega

/-- The exponent. -/
theorem run_appendExponent {e : ℤ} (he : e.natAbs < 1000) (x : Number) (hexp : x.exp = 0)
    (hneg : x.expNeg = false) {state : NumberState}
    (hstate : state = .any1 ∨ state = .decimal2 ∧ x.isFloat = true) (rest : List Char) :
    (number state x).run ('e' :: (appendExponent e ++ rest)) =
      (number .any2 { x with expNeg := e < 0, exp := e.natAbs, isFloat := true }).run rest := by
  obtain ⟨ds, happend, hne, hds, hvalue⟩ := exists_appendExponent he
  rcases ds with _ | ⟨d, ds⟩
  · exact absurd rfl hne
  · obtain ⟨hd, hds⟩ := List.forall_mem_cons.mp hds
    rw [happend]
    have hmark : ∀ cs, (number state x).run ('e' :: cs) =
        (number .exponent { x with isFloat := true }).run cs := by
      rintro cs
      rcases hstate with rfl | ⟨rfl, hfloat⟩
      · rfl
      · rw [show ({ x with isFloat := true } : Number) = x by rw [← hfloat]]
        rfl
    have hsign : ∀ cs, (number .exponent { x with isFloat := true }).run
        ((if e < 0 then '-' else '+') :: cs) =
          (number .sign { x with expNeg := e < 0, isFloat := true }).run cs := by
      intro cs
      by_cases he0 : e < 0
      · simp only [decide_true, he0]
        rfl
      · simp only [he0, decide_false, ← hneg]
        rfl
    have hstep : step (Nat.digitChar d) (number .sign { x with expNeg := e < 0, isFloat := true }) =
        ([], some (.number .any2
          (({ x with expNeg := e < 0, isFloat := true } : Number).pushExp d))) := by
      rw [step, stepNumber, digit?_digitChar hd]
    refine (hmark _).trans ((hsign _).trans ?_)
    show (number .sign _).run (Nat.digitChar d :: (digitChars ds ++ rest)) = _
    rw [run, hstep]
    refine (run_any2 ds hds _ rest).trans ?_
    rw [decimalValue, List.foldl_cons] at hvalue
    rw [← hvalue]
    show (number .any2 { x with
      expNeg := e < 0, exp := ds.foldl _ (10 * x.exp + d), isFloat := true }).run rest = _
    rw [hexp]

/-- The exponent that a number was read with. -/
theorem signed_natAbs (e : ℤ) :
    (if decide (e < 0) = true then -(e.natAbs : ℤ) else e.natAbs) = e := by
  split_ifs with h <;> simp only [decide_eq_true_eq] at h <;> omega

/-- The token of a number that has a point or an exponent. -/
theorem token_eq_float {x : Number} {digits : ℕ} {e : ℤ} (hfloat : x.isFloat = true)
    (hdigits : x.digits = digits)
    (hexp : (if x.expNeg = true then -(x.exp : ℤ) else x.exp) - x.fraction = e) :
    x.token = .float (ofDecimal binary64 x.neg digits e) := by
  rw [Number.token, if_pos hfloat, Number.toDouble, hdigits, hexp]

/-- **The layouts of a number all stand for its digits and its exponent.** -/
theorem run_formatBuffer {ds : List ℕ} {e : ℤ} (hds : ∀ d ∈ ds, d < 10) (hne : ds ≠ [])
    (hhead : ds.head hne ≠ 0) (hexp : (ds.length + e - 1).natAbs < 1000) (neg : Bool)
    {rest : List Char} (hrest : Closes rest) :
    start.run (signChars neg ++ (formatBuffer ds e ++ rest)) =
      .float (ofDecimal binary64 neg (decimalValue ds) e) :: start.run rest := by
  have hpos : 0 < ds.length := List.length_pos_iff.mpr hne
  rw [formatBuffer]
  split_ifs with h1 h2 h3 h4
  · -- digits[000].0
    obtain ⟨j, rfl⟩ : ∃ j : ℕ, e = j := ⟨e.toNat, by omega⟩
    have hzeros : ((ds.length : ℤ) + j - ds.length).toNat = j := by omega
    rw [hzeros, ← digitChars_replicate, ← digitChars_append, List.append_assoc]
    refine (run_digits (ds ++ List.replicate j 0) ?_ (by simp [hne]) ?_ neg _).trans ?_
    · intro d hd
      rcases List.mem_append.mp hd with hd | hd
      · exact hds d hd
      · rw [List.eq_of_mem_replicate hd]
        decide
    · rwa [List.head_append_of_ne_nil hne]
    · refine (run_point [0] (by simp) (by simp) (Or.inr rfl) _ rest).trans ?_
      rw [run_number _ .decimal2 trivial hrest]
      rw [← ofDecimal_mul_pow binary64 neg (decimalValue ds) (j + 1) j]
      refine congrArg (· :: start.run rest) (token_eq_float rfl ?_ ?_)
      · show 10 * decimalValue (ds ++ List.replicate j 0) + 0 = _
        rw [decimalValue_append, decimalValue_replicate, List.length_replicate, pow_succ]
        ring
      · show ((0 : ℕ) : ℤ) - (0 + 1 : ℕ) = _
        push_cast
        ring
  · -- dig.its
    obtain ⟨n, hn⟩ : ∃ n : ℕ, (ds.length : ℤ) + e = n := ⟨(ds.length + e).toNat, by omega⟩
    rw [hn, Int.toNat_natCast, List.append_assoc]
    have htake : ds.take n ≠ [] := by
      rw [← List.length_pos_iff, List.length_take]
      omega
    refine (run_digits (ds.take n) (fun d hd => hds d (List.mem_of_mem_take hd)) htake ?_ neg
      _).trans ?_
    · rwa [List.head_take]
    · refine (run_point (ds.drop n) (fun d hd => hds d (List.mem_of_mem_drop hd)) ?_
        (Or.inr rfl) _ rest).trans ?_
      · rw [← List.length_pos_iff, List.length_drop]
        omega
      · rw [run_number _ .decimal2 trivial hrest]
        refine congrArg (· :: start.run rest) (token_eq_float rfl ?_ ?_)
        · rw [foldl_decimalValue, List.take_append_drop]
        · show ((0 : ℕ) : ℤ) - (0 + (ds.drop n).length : ℕ) = _
          rw [List.length_drop]
          omega
  · -- 0.[000]digits
    obtain ⟨j, hj⟩ : ∃ j : ℕ, -(ds.length + e : ℤ) = j := ⟨(-(ds.length + e)).toNat, by omega⟩
    rw [hj, Int.toNat_natCast, ← digitChars_replicate]
    show start.run (signChars neg ++ '0' :: '.' ::
      ((digitChars (List.replicate j 0) ++ digitChars ds) ++ rest)) = _
    rw [← digitChars_append, run_zero]
    refine (run_point (List.replicate j 0 ++ ds) ?_ (by simp [hne]) (Or.inl rfl) _ rest).trans
      ?_
    · intro d hd
      rcases List.mem_append.mp hd with hd | hd
      · rw [List.eq_of_mem_replicate hd]
        decide
      · exact hds d hd
    · rw [run_number _ .decimal2 trivial hrest]
      refine congrArg (· :: start.run rest) (token_eq_float rfl ?_ ?_)
      · show decimalValue (List.replicate j 0 ++ ds) = _
        rw [decimalValue_append, decimalValue_replicate, Nat.zero_mul, Nat.zero_add]
      · show ((0 : ℕ) : ℤ) - (0 + (List.replicate j 0 ++ ds).length : ℕ) = _
        rw [List.length_append, List.length_replicate]
        omega
  · -- dE+123
    rw [List.append_assoc]
    refine (run_digits ds hds hne hhead neg _).trans ?_
    refine (run_appendExponent hexp _ rfl rfl (Or.inl rfl) rest).trans ?_
    rw [run_number _ .any2 trivial hrest]
    refine congrArg (· :: start.run rest) (token_eq_float rfl rfl ?_)
    rw [signed_natAbs]
    show _ - ((0 : ℕ) : ℤ) = _
    omega
  · -- d.igitsE+123
    rw [List.append_assoc, List.append_assoc]
    have htake : ds.take 1 ≠ [] := by
      rw [← List.length_pos_iff, List.length_take]
      omega
    refine (run_digits (ds.take 1) (fun d hd => hds d (List.mem_of_mem_take hd)) htake ?_ neg
      _).trans ?_
    · rwa [List.head_take]
    · refine (run_point (ds.drop 1) (fun d hd => hds d (List.mem_of_mem_drop hd)) ?_
        (Or.inr rfl) _ _).trans ?_
      · rw [← List.length_pos_iff, List.length_drop]
        omega
      · refine (run_appendExponent hexp _ rfl rfl (Or.inr ⟨rfl, rfl⟩) rest).trans ?_
        rw [run_number _ .any2 trivial hrest]
        refine congrArg (· :: start.run rest) (token_eq_float rfl ?_ ?_)
        · rw [foldl_decimalValue, List.take_append_drop]
        · rw [signed_natAbs]
          show _ - ((0 + (ds.drop 1).length : ℕ) : ℤ) = _
          rw [List.length_drop]
          omega

/-- **What `grisu2` promises**: digits and an exponent that stand for the number. -/
structure Shortest (digits : List ℕ) (decimalExponent : ℤ) (x : BinaryFloat binary64) : Prop where
  /-- They are digits. -/
  lt_ten : ∀ d ∈ digits, d < 10
  /-- The first of them is not zero. -/
  head : ∃ d ds, digits = d :: ds ∧ d ≠ 0
  /-- The exponent has three digits at most. -/
  exponent : (digits.length + decimalExponent - 1).natAbs < 1000
  /-- The number nearest to them is the one they were made from. -/
  value : ofDecimal binary64 false (decimalValue digits) decimalExponent = .finite x

/-- **A floating-point number is one token.** -/
theorem run_toChars {grisu2 : Grisu2} {x : BinaryFloat binary64}
    (hgrisu2 : x.units ≠ 0 →
      Shortest (grisu2 (magnitude x)).1 (grisu2 (magnitude x)).2 (magnitude x))
    {rest : List Char} (hrest : Closes rest) :
    start.run (toChars grisu2 x ++ rest) = .float (.finite x) :: start.run rest := by
  rw [toChars, List.append_assoc]
  by_cases h0 : x.units = 0
  · rw [if_pos h0, h0, if_neg (lt_irrefl _)]
    refine (run_zero false ('.' :: (digitChars [0] ++ rest))).trans ?_
    refine (run_point [0] (by simp) (by simp) (Or.inl rfl) _ rest).trans ?_
    rw [run_number _ .decimal2 trivial hrest]
    have hzero : ofDecimal binary64 false 0 (-1) = .finite x := by
      rw [ofDecimal_zero, Extended.zero, Extended.finite.injEq]
      exact BinaryFloat.ext h0.symm
    rw [← hzero]
    exact congrArg (· :: start.run rest) (token_eq_float rfl rfl rfl)
  · rw [if_neg h0]
    obtain ⟨hlt, ⟨d, ds, hdigits, hd⟩, hexp, hvalue⟩ := hgrisu2 h0
    have hne : (grisu2 (magnitude x)).1 ≠ [] := by simp [hdigits]
    have hhead : (grisu2 (magnitude x)).1.head hne ≠ 0 := by simpa [hdigits] using hd
    by_cases hneg : x.units < 0
    · rw [if_pos hneg]
      refine (run_formatBuffer hlt hne hhead hexp true hrest).trans ?_
      rw [ofDecimal_neg hvalue]
      show x.units = -(x.units.natAbs : ℤ)
      omega
    · rw [if_neg hneg]
      refine (run_formatBuffer hlt hne hhead hexp false hrest).trans ?_
      have hself : magnitude x = x := BinaryFloat.ext (by
        show (x.units.natAbs : ℤ) = x.units
        omega)
      rw [hvalue, hself]

end Lexer

end DetectBase
