import DetectBase.Json.Value

/-!
# Reading JSON text

The lexer and the parser of the vendored JSON library (`lexer::scan`, `parser::sax_parse_internal`
with the DOM builder on top), for the two ways in which the service calls them:

* `DetectBase.parse` – `json::parse(s, nullptr, false)`, which wants the whole text to be one
  value and answers "discarded" otherwise;
* `DetectBase.parseStream` – `std::istream >> json`, which stops after the first value and does
  not look at what follows.

Both machines are written as automata, one character and one token at a time. A number has no
closing character of its own: the character after it ends it and is then read again
(`unget`), which is why `DetectBase.Lexer.step` may answer with the token of the number together
with whatever that character starts. A NUL character outside a string is the end of the input,
as it is for the library.

Text is a sequence of Unicode scalar values here, so the library's checks for ill-formed UTF-8
have nothing to do.
-/

namespace DetectBase

/-! ### Tokens -/

/-- The tokens of the lexer. -/
inductive Token where
  /-- An opening bracket. -/
  | beginArray : Token
  /-- A closing bracket. -/
  | endArray : Token
  /-- An opening brace. -/
  | beginObject : Token
  /-- A closing brace. -/
  | endObject : Token
  /-- A colon. -/
  | nameSeparator : Token
  /-- A comma. -/
  | valueSeparator : Token
  /-- The literal `null`. -/
  | literalNull : Token
  /-- One of the literals `true` and `false`. -/
  | literalBool (b : Bool) : Token
  /-- A number that fits an integer type. -/
  | integer (n : ℤ) : Token
  /-- A number with a fraction or an exponent, or one that overflows the integer types. -/
  | float (x : Double) : Token
  /-- A string. -/
  | string (s : String) : Token
  /-- The end of the text. -/
  | endOfInput : Token
  /-- The lexer gave up. -/
  | parseError : Token

/-! ### Numbers -/

/-- A number being scanned: its sign, its digits so far, how many of them stand after the
decimal point, its exponent, and whether a point or an exponent has been seen. -/
structure Number where
  /-- A minus sign was read. -/
  neg : Bool
  /-- The digits, read as one integer. -/
  digits : ℕ
  /-- How many digits stand after the point. -/
  fraction : ℕ
  /-- A minus sign was read in the exponent. -/
  expNeg : Bool
  /-- The exponent. -/
  exp : ℕ
  /-- The number is a `value_float` by its form. -/
  isFloat : Bool

namespace Number

/-- One more digit before the point. -/
def push (x : Number) (d : ℕ) : Number := { x with digits := 10 * x.digits + d }

/-- One more digit after the point. -/
def pushFraction (x : Number) (d : ℕ) : Number :=
  { x with digits := 10 * x.digits + d, fraction := x.fraction + 1 }

/-- One more digit of the exponent. -/
def pushExp (x : Number) (d : ℕ) : Number := { x with exp := 10 * x.exp + d }

/-- The number read as a `double` (`strtod`). -/
def toDouble (x : Number) : Double :=
  ofDecimal binary64 x.neg x.digits
    ((if x.expNeg then -(x.exp : ℤ) else x.exp) - x.fraction)

/-- The token of a finished number: an integer if its form and its size allow it. -/
def token (x : Number) : Token :=
  if x.isFloat then .float x.toDouble
  else if x.neg then
    if x.digits ≤ 2 ^ 63 then .integer (-x.digits) else .float x.toDouble
  else if x.digits < 2 ^ 64 then .integer x.digits else .float x.toDouble

end Number

/-! ### The lexer -/

/-- Where `scan_number` stands, named as its labels are. -/
inductive NumberState where
  /-- After a leading minus sign. -/
  | minus : NumberState
  /-- After a leading zero. -/
  | zero : NumberState
  /-- After a digit before the point. -/
  | any1 : NumberState
  /-- After the point. -/
  | decimal1 : NumberState
  /-- After a digit behind the point. -/
  | decimal2 : NumberState
  /-- After the exponent mark. -/
  | exponent : NumberState
  /-- After the sign of the exponent. -/
  | sign : NumberState
  /-- After a digit of the exponent. -/
  | any2 : NumberState

/-- The states of the lexer. A string's characters are kept in reverse. -/
inductive Lexer where
  /-- Between two tokens. -/
  | start : Lexer
  /-- Inside a literal, with its next character and those after it. -/
  | literal (next : Char) (rest : List Char) (t : Token) : Lexer
  /-- Inside a string. -/
  | string (buf : List Char) : Lexer
  /-- After a backslash in a string. -/
  | escape (buf : List Char) : Lexer
  /-- Reading the four digits of an escaped code point, `left` of them to come; `high` is the
  surrogate before it, if there was one. -/
  | codepoint (buf : List Char) (high : Option ℕ) (acc left : ℕ) : Lexer
  /-- After a high surrogate, which a backslash has to follow. -/
  | surrogate (buf : List Char) (high : ℕ) : Lexer
  /-- After that backslash, which the letter `u` has to follow. -/
  | surrogateEscape (buf : List Char) (high : ℕ) : Lexer
  /-- Inside a number. -/
  | number (state : NumberState) (x : Number) : Lexer

namespace Lexer

/-- What one character does: the tokens it completes, and the state it leads to unless it ends
the scan. -/
abbrev Out := List Token × Option Lexer

/-- The lexer gives up. -/
def fail : Out := ([.parseError], none)

/-- A token is complete and the next one may begin. -/
def yield (t : Token) : Out := ([t], some .start)

/-- The value of a decimal digit. -/
def digit? (c : Char) : Option ℕ :=
  if '0' ≤ c ∧ c ≤ '9' then some (c.toNat - '0'.toNat) else none

/-- The value of a hexadecimal digit. -/
def hexDigit? (c : Char) : Option ℕ :=
  if '0' ≤ c ∧ c ≤ '9' then some (c.toNat - '0'.toNat)
  else if 'A' ≤ c ∧ c ≤ 'F' then some (c.toNat - 'A'.toNat + 10)
  else if 'a' ≤ c ∧ c ≤ 'f' then some (c.toNat - 'a'.toNat + 10)
  else none

/-- The first character of a token (`scan`). -/
def begin (c : Char) : Out :=
  if c = ' ' ∨ c = '\t' ∨ c = '\n' ∨ c = '\r' then ([], some .start)
  else if c = '[' then yield .beginArray
  else if c = ']' then yield .endArray
  else if c = '\x7b' then yield .beginObject
  else if c = '\x7d' then yield .endObject
  else if c = ':' then yield .nameSeparator
  else if c = ',' then yield .valueSeparator
  else if c = 't' then ([], some (.literal 'r' ['u', 'e'] (.literalBool true)))
  else if c = 'f' then ([], some (.literal 'a' ['l', 's', 'e'] (.literalBool false)))
  else if c = 'n' then ([], some (.literal 'u' ['l', 'l'] .literalNull))
  else if c = '"' then ([], some (.string []))
  else if c = '-' then ([], some (.number .minus ⟨true, 0, 0, false, 0, false⟩))
  else if c = '0' then ([], some (.number .zero ⟨false, 0, 0, false, 0, false⟩))
  else match digit? c with
    | some d => ([], some (.number .any1 ⟨false, d, 0, false, 0, false⟩))
    -- the library takes a null byte for the end of the text
    | none => if c = '\x00' then ([.endOfInput], none) else fail

/-- A number ends before the character `c`, which is then read again. -/
def finish (x : Number) (c : Char) : Out :=
  let (ts, st) := begin c
  (x.token :: ts, st)

/-- One character of a number (`scan_number`). -/
def stepNumber (x : Number) (c : Char) : NumberState → Out
  | .minus =>
    if c = '0' then ([], some (.number .zero x))
    else match digit? c with
      | some d => ([], some (.number .any1 (x.push d)))
      | none => fail
  | .zero =>
    if c = '.' then ([], some (.number .decimal1 { x with isFloat := true }))
    else if c = 'e' ∨ c = 'E' then ([], some (.number .exponent { x with isFloat := true }))
    else finish x c
  | .any1 =>
    match digit? c with
    | some d => ([], some (.number .any1 (x.push d)))
    | none =>
      if c = '.' then ([], some (.number .decimal1 { x with isFloat := true }))
      else if c = 'e' ∨ c = 'E' then ([], some (.number .exponent { x with isFloat := true }))
      else finish x c
  | .decimal1 =>
    match digit? c with
    | some d => ([], some (.number .decimal2 (x.pushFraction d)))
    | none => fail
  | .decimal2 =>
    match digit? c with
    | some d => ([], some (.number .decimal2 (x.pushFraction d)))
    | none =>
      if c = 'e' ∨ c = 'E' then ([], some (.number .exponent x))
      else finish x c
  | .exponent =>
    if c = '+' then ([], some (.number .sign x))
    else if c = '-' then ([], some (.number .sign { x with expNeg := true }))
    else match digit? c with
      | some d => ([], some (.number .any2 (x.pushExp d)))
      | none => fail
  | .sign =>
    match digit? c with
    | some d => ([], some (.number .any2 (x.pushExp d)))
    | none => fail
  | .any2 =>
    match digit? c with
    | some d => ([], some (.number .any2 (x.pushExp d)))
    | none => finish x c

/-- A character after a backslash. -/
def stepEscape (buf : List Char) (c : Char) : Out :=
  if c = '"' ∨ c = '\\' ∨ c = '/' then ([], some (.string (c :: buf)))
  else if c = 'b' then ([], some (.string ('\x08' :: buf)))
  else if c = 'f' then ([], some (.string ('\x0c' :: buf)))
  else if c = 'n' then ([], some (.string ('\n' :: buf)))
  else if c = 'r' then ([], some (.string ('\r' :: buf)))
  else if c = 't' then ([], some (.string ('\t' :: buf)))
  else if c = 'u' then ([], some (.codepoint buf none 0 4))
  else fail

/-- The four digits of an escaped code point are read. -/
def finishCodepoint (buf : List Char) (cp : ℕ) : Option ℕ → Out
  | none =>
    if 0xD800 ≤ cp ∧ cp ≤ 0xDBFF then ([], some (.surrogate buf cp))
    -- a low surrogate on its own
    else if 0xDC00 ≤ cp ∧ cp ≤ 0xDFFF then fail
    else ([], some (.string (Char.ofNat cp :: buf)))
  | some high =>
    if 0xDC00 ≤ cp ∧ cp ≤ 0xDFFF then
      -- the two halves with their offsets taken off, as the library does it
      ([], some (.string (Char.ofNat (high * 2 ^ 10 + cp - 0x35FDC00) :: buf)))
    else fail

/-- **One character of the scan.** -/
def step (c : Char) : Lexer → Out
  | .start => begin c
  | .literal next [] t => if c = next then yield t else fail
  | .literal next (r :: rest) t => if c = next then ([], some (.literal r rest t)) else fail
  | .string buf =>
    if c = '"' then yield (.string (String.ofList buf.reverse))
    else if c = '\\' then ([], some (.escape buf))
    else if c.toNat < 0x20 then fail
    else ([], some (.string (c :: buf)))
  | .escape buf => stepEscape buf c
  | .codepoint buf high acc left =>
    match hexDigit? c with
    | none => fail
    | some d =>
      if left ≤ 1 then finishCodepoint buf (16 * acc + d) high
      else ([], some (.codepoint buf high (16 * acc + d) (left - 1)))
  | .surrogate buf high => if c = '\\' then ([], some (.surrogateEscape buf high)) else fail
  | .surrogateEscape buf high =>
    if c = 'u' then ([], some (.codepoint buf (some high) 0 4)) else fail
  | .number state x => stepNumber x c state

/-- The tokens that the end of the text completes. -/
def atEnd : Lexer → List Token
  | .start => [.endOfInput]
  | .number state x =>
    match state with
    | .zero | .any1 | .decimal2 | .any2 => [x.token, .endOfInput]
    | .minus | .decimal1 | .exponent | .sign => [.parseError]
  | _ => [.parseError]

/-- The tokens of a text, from a state of the lexer. -/
def run : Lexer → List Char → List Token
  | st, [] => st.atEnd
  | st, c :: cs =>
    match step c st with
    | (ts, some st') => ts ++ run st' cs
    | (ts, none) => ts

end Lexer

/-- **The tokens of a text**, a leading byte order mark skipped. -/
def tokens (s : String) : List Token :=
  match s.toList with
  | [] => Lexer.start.run []
  | c :: cs => if c = '\uFEFF' then Lexer.start.run cs else Lexer.start.run (c :: cs)

/-! ### The parser -/

/-- A container under construction: the elements of an array in reverse, or the members of an
object with the key whose value comes next. -/
inductive Frame where
  /-- An array. -/
  | arr (done : List Json) : Frame
  /-- An object. -/
  | obj (members : List (String × Json)) (key : String) : Frame

/-- What the parser expects. -/
inductive Expect where
  /-- A value. -/
  | value : Expect
  /-- The first element of an array, or its end. -/
  | firstElement : Expect
  /-- The first key of an object, or its end. -/
  | firstKey : Expect
  /-- A further key of an object. -/
  | nextKey : Expect
  /-- The colon after a key. -/
  | separator : Expect
  /-- The comma or the bracket after a value of a container. -/
  | afterValue : Expect

namespace Parser

/-- What one token does. -/
inductive Out where
  /-- The text is not JSON. -/
  | fail : Out
  /-- A value is complete at top level. -/
  | done (j : Json) : Out
  /-- The parser goes on. -/
  | next (expect : Expect) (stack : List Frame) : Out

/-- A value is complete: at top level the parser is done, otherwise the value joins the
innermost container. A key that occurs twice keeps its last value. -/
def complete (j : Json) : List Frame → Out
  | [] => .done j
  | .arr done :: stack => .next .afterValue (.arr (j :: done) :: stack)
  | .obj members key :: stack => .next .afterValue (.obj (assign key j members) key :: stack)

/-- The innermost container is complete. -/
def close : List Frame → Out
  | [] => .fail
  | .arr done :: stack => complete (.arr done.reverse) stack
  | .obj members _ :: stack => complete (.obj members) stack

/-- A token where a value is expected. A number that overflows `double` is refused
(`out_of_range.406`). -/
def stepValue (stack : List Frame) : Token → Out
  | .beginArray => .next .firstElement (.arr [] :: stack)
  | .beginObject => .next .firstKey (.obj [] "" :: stack)
  | .literalNull => complete .null stack
  | .literalBool b => complete (.bool b) stack
  | .integer n => complete (.int n) stack
  | .float (.finite x) => complete (.float (.finite x)) stack
  | .string s => complete (.str s) stack
  | _ => .fail

/-- A token where a key is expected. -/
def stepKey : List Frame → Token → Out
  | .obj members _ :: stack, .string s => .next .separator (.obj members s :: stack)
  | _, _ => .fail

/-- **One token of the parse** (`sax_parse_internal`). -/
def step (stack : List Frame) (t : Token) : Expect → Out
  | .value => stepValue stack t
  | .firstElement =>
    match t with
    | .endArray => close stack
    | t => stepValue stack t
  | .firstKey =>
    match t with
    | .endObject => close stack
    | t => stepKey stack t
  | .nextKey => stepKey stack t
  | .separator =>
    match t with
    | .nameSeparator => .next .value stack
    | _ => .fail
  | .afterValue =>
    match stack, t with
    | .arr _ :: _, .valueSeparator => .next .value stack
    | .arr _ :: _, .endArray => close stack
    | .obj _ _ :: _, .valueSeparator => .next .nextKey stack
    | .obj _ _ :: _, .endObject => close stack
    | _, _ => .fail

/-- The first value of a list of tokens, and the tokens after it. -/
def run : Expect → List Frame → List Token → Option (Json × List Token)
  | _, _, [] => none
  | expect, stack, t :: ts =>
    match step stack t expect with
    | .fail => none
    | .done j => some (j, ts)
    | .next expect' stack' => run expect' stack' ts

/-! ### What is accepted is well formed -/

/-- The container under construction keeps its members in order, and so does everything in
it. -/
def FrameWF : Frame → Prop
  | .arr done => ∀ j ∈ done, j.WF
  | .obj members _ => SortedKeys members ∧ ∀ kv ∈ members, kv.2.WF

/-- What a step leaves behind is well formed. -/
def OutWF : Out → Prop
  | .fail => True
  | .done j => j.WF
  | .next _ stack => ∀ f ∈ stack, FrameWF f

theorem outWF_complete {j : Json} {stack : List Frame} (hj : j.WF)
    (hs : ∀ f ∈ stack, FrameWF f) : OutWF (complete j stack) := by
  match stack, hs with
  | [], _ => exact hj
  | .arr done :: stack, hs =>
    obtain ⟨hd, hs⟩ := List.forall_mem_cons.mp hs
    exact List.forall_mem_cons.mpr ⟨List.forall_mem_cons.mpr ⟨hj, hd⟩, hs⟩
  | .obj members key :: stack, hs =>
    obtain ⟨⟨hsort, hd⟩, hs⟩ := List.forall_mem_cons.mp hs
    refine List.forall_mem_cons.mpr ⟨⟨hsort.assign, fun kv hkv => ?_⟩, hs⟩
    rcases mem_assign hkv with rfl | h
    · exact hj
    · exact hd kv h

theorem outWF_close {stack : List Frame} (hs : ∀ f ∈ stack, FrameWF f) : OutWF (close stack) := by
  match stack, hs with
  | [], _ => exact trivial
  | .arr done :: stack, hs =>
    obtain ⟨hd, hs⟩ := List.forall_mem_cons.mp hs
    exact outWF_complete (Json.wf_arr.mpr fun x hx => hd x (List.mem_reverse.mp hx)) hs
  | .obj members key :: stack, hs =>
    obtain ⟨hd, hs⟩ := List.forall_mem_cons.mp hs
    exact outWF_complete (Json.wf_obj.mpr hd) hs

theorem outWF_stepValue {stack : List Frame} (hs : ∀ f ∈ stack, FrameWF f) (t : Token) :
    OutWF (stepValue stack t) := by
  have hpush : ∀ f, FrameWF f → ∀ g ∈ f :: stack, FrameWF g := fun f hf =>
    List.forall_mem_cons.mpr ⟨hf, hs⟩
  cases t with
  | beginArray => exact hpush _ (by simp [FrameWF])
  | beginObject => exact hpush _ (by simp [FrameWF])
  | float x =>
    cases x with
    | finite x => exact outWF_complete (by simp [Json.WF]) hs
    | infinite neg => exact trivial
  | literalNull | literalBool | integer | string => exact outWF_complete (by simp [Json.WF]) hs
  | _ => exact trivial

theorem outWF_stepKey {stack : List Frame} (hs : ∀ f ∈ stack, FrameWF f) (t : Token) :
    OutWF (stepKey stack t) := by
  match stack, t, hs with
  | .obj members key :: stack, .string s, hs =>
    obtain ⟨hd, hs⟩ := List.forall_mem_cons.mp hs
    exact List.forall_mem_cons.mpr ⟨hd, hs⟩
  | [], _, _ => exact trivial
  | .arr _ :: _, _, _ => exact trivial
  | .obj _ _ :: _, .beginArray, _ | .obj _ _ :: _, .endArray, _ | .obj _ _ :: _, .beginObject, _
  | .obj _ _ :: _, .endObject, _ | .obj _ _ :: _, .nameSeparator, _
  | .obj _ _ :: _, .valueSeparator, _ | .obj _ _ :: _, .literalNull, _
  | .obj _ _ :: _, .literalBool _, _ | .obj _ _ :: _, .integer _, _ | .obj _ _ :: _, .float _, _
  | .obj _ _ :: _, .endOfInput, _ | .obj _ _ :: _, .parseError, _ => exact trivial

theorem outWF_step {stack : List Frame} (hs : ∀ f ∈ stack, FrameWF f) (t : Token)
    (expect : Expect) : OutWF (step stack t expect) := by
  cases expect with
  | value => exact outWF_stepValue hs t
  | firstElement =>
    simp only [step]
    split
    · exact outWF_close hs
    · exact outWF_stepValue hs _
  | firstKey =>
    simp only [step]
    split
    · exact outWF_close hs
    · exact outWF_stepKey hs _
  | nextKey => exact outWF_stepKey hs t
  | separator =>
    simp only [step]
    split
    · exact hs
    · exact trivial
  | afterValue =>
    simp only [step]
    split
    · exact hs
    · exact outWF_close hs
    · exact hs
    · exact outWF_close hs
    · exact trivial

theorem wf_of_run : ∀ {ts : List Token} {expect : Expect} {stack : List Frame} {j : Json}
    {rest : List Token}, (∀ f ∈ stack, FrameWF f) → run expect stack ts = some (j, rest) →
      j.WF := by
  intro ts
  induction ts with
  | nil => intro _ _ _ _ _ h; cases h
  | cons t ts ih =>
    intro expect stack j rest hs h
    have hout := outWF_step hs t expect
    rw [run] at h
    split at h
    · cases h
    · rename_i j' heq
      obtain ⟨rfl, -⟩ := Prod.mk.inj (Option.some.inj h)
      rwa [heq] at hout
    · rename_i expect' stack' heq
      rw [heq] at hout
      exact ih hout h

end Parser

/-- **`json::parse` without exceptions**: the value that the whole text denotes, and nothing
when the library would answer "discarded". -/
def parse (s : String) : Option Json :=
  match Parser.run .value [] (tokens s) with
  | some (j, .endOfInput :: _) => some j
  | _ => none

/-- **`std::istream >> json`**: the first value of the text. -/
def parseStream (s : String) : Option Json := (Parser.run .value [] (tokens s)).map Prod.fst

/-- **What `json::parse` accepts is well formed**: every object of the result has its members
in key order, each key once. -/
theorem wf_of_parse {s : String} {j : Json} (h : parse s = some j) : j.WF := by
  rw [parse] at h
  split at h
  · rename_i j' rest heq
    obtain rfl := Option.some.inj h
    exact Parser.wf_of_run (by simp) heq
  · cases h

/-- **What is read from a stream is well formed** as well. -/
theorem wf_of_parseStream {s : String} {j : Json} (h : parseStream s = some j) : j.WF := by
  obtain ⟨⟨j', rest⟩, heq, rfl⟩ := Option.map_eq_some_iff.mp h
  exact Parser.wf_of_run (by simp) heq

end DetectBase
