import DetectBase.Json.Numerals

/-!
# Writing JSON text

`dump` of the vendored JSON library (`serializer::dump` with `dump_escaped`). What the service sends
to its gRPC peers and what its logs show of a request is such a text.

The text is read back as the value it was written from, whether it is written in one line or with
an indentation of up to 1024, and with or without the characters beyond ASCII
(`DetectBase.parse_dump`). The exception is an infinite number, for which `null` is written.

Indentations are taken from `indent_string`, which has 512 characters and is doubled when a level
does not find enough of them, but only once. With a larger indentation it is too short, and `dump`
reads beyond its end (`DetectBase.dump_eq_none`).

The library refuses bytes that are not UTF-8; text is a sequence of Unicode scalar values here, as
in `DetectBase.parse`.
-/

namespace DetectBase

namespace Serializer

/-! ### Strings -/

/-- The four digits of `%04x`. -/
def hex4 (n : ℕ) : List Char :=
  [n / 4096 % 16, n / 256 % 16, n / 16 % 16, n % 16].map Nat.digitChar

/-- **One character of `dump_escaped`.** -/
def escapeChar (ensureAscii : Bool) (c : Char) : List Char :=
  let codepoint := c.toNat
  if codepoint = 0x08 then ['\\', 'b']
  else if codepoint = 0x09 then ['\\', 't']
  else if codepoint = 0x0A then ['\\', 'n']
  else if codepoint = 0x0C then ['\\', 'f']
  else if codepoint = 0x0D then ['\\', 'r']
  else if codepoint = 0x22 then ['\\', '"']
  else if codepoint = 0x5C then ['\\', '\\']
  else if codepoint ≤ 0x1F ∨ ensureAscii = true ∧ codepoint ≥ 0x7F then
    if codepoint ≤ 0xFFFF then '\\' :: 'u' :: hex4 codepoint
    -- the two surrogates
    else '\\' :: 'u' :: hex4 (0xD7C0 + codepoint / 2 ^ 10) ++
      '\\' :: 'u' :: hex4 (0xDC00 + codepoint % 2 ^ 10)
  else [c]

/-- **`dump_escaped`**. -/
def dumpEscaped (ensureAscii : Bool) (s : String) : List Char :=
  s.toList.flatMap (escapeChar ensureAscii)

/-! ### The layout of a value -/

/-- The parameters of `dump` that stay the same throughout a value. -/
structure Layout where
  /-- `pretty_print`. -/
  prettyPrint : Bool
  /-- `ensure_ascii`. -/
  ensureAscii : Bool
  /-- `indent_step`. -/
  indentStep : ℕ
  /-- The digits of a `double`. -/
  grisu2 : Grisu2

namespace Layout

variable (l : Layout)

/-- What stands behind an opening bracket, and before a closing one with its indentation. -/
def newline : List Char := if l.prettyPrint then ['\n'] else []

/-- The characters of an indentation. -/
def indent (n : ℕ) : List Char := if l.prettyPrint then List.replicate n ' ' else []

/-- An indentation that is taken from an `indent_string` of the given size, or nothing when that is
too short. -/
def writeIndent (size n : ℕ) : Option (List Char) :=
  if l.prettyPrint ∧ size < n then none else some (l.indent n)

/-- `new_indent`, an `unsigned int`. -/
def newIndent (currentIndent : ℕ) : ℕ :=
  if l.prettyPrint then (currentIndent + l.indentStep) % 2 ^ 32 else currentIndent

/-- The size of `indent_string` at a new level. -/
def grow (size newIndent : ℕ) : ℕ :=
  if l.prettyPrint ∧ size < newIndent then size * 2 else size

/-- What stands between two elements. -/
def comma : List Char := if l.prettyPrint then [',', '\n'] else [',']

/-- What stands between a key and its value. -/
def colon : List Char := if l.prettyPrint then ['"', ':', ' '] else ['"', ':']

end Layout

mutual

/-- **`dump`**, with the size of `indent_string` and `current_indent`: the text and the size of
`indent_string` afterwards, or nothing when it reads beyond `indent_string`. -/
def dumpValue (l : Layout) (size currentIndent : ℕ) : Json → Option (List Char × ℕ)
  | .null => some (['n', 'u', 'l', 'l'], size)
  | .bool true => some (['t', 'r', 'u', 'e'], size)
  | .bool false => some (['f', 'a', 'l', 's', 'e'], size)
  | .int n => some (dumpInteger n, size)
  | .float x => some (dumpFloat l.grisu2 x, size)
  | .str s => some ('"' :: dumpEscaped l.ensureAscii s ++ ['"'], size)
  | .arr [] => some (['[', ']'], size)
  | .arr (x :: xs) => do
    let newIndent := l.newIndent currentIndent
    let (text, size) ← dumpElements l (l.grow size newIndent) newIndent (x :: xs)
    let last ← l.writeIndent size currentIndent
    return ('[' :: l.newline ++ text ++ (l.newline ++ last ++ [']']), size)
  | .obj [] => some (['\x7b', '\x7d'], size)
  | .obj (kv :: kvs) => do
    let newIndent := l.newIndent currentIndent
    let (text, size) ← dumpMembers l (l.grow size newIndent) newIndent (kv :: kvs)
    let last ← l.writeIndent size currentIndent
    return ('\x7b' :: l.newline ++ text ++ (l.newline ++ last ++ ['\x7d']), size)

/-- The elements of an array, with a comma behind each but the last one. -/
def dumpElements (l : Layout) (size newIndent : ℕ) : List Json → Option (List Char × ℕ)
  | [] => some ([], size)
  | x :: xs => do
    let first ← l.writeIndent size newIndent
    let (text, size) ← dumpValue l size newIndent x
    if xs.isEmpty then return (first ++ text, size)
    let (rest, size) ← dumpElements l size newIndent xs
    return (first ++ text ++ (l.comma ++ rest), size)

/-- The members of an object, with a comma behind each but the last one. -/
def dumpMembers (l : Layout) (size newIndent : ℕ) :
    List (String × Json) → Option (List Char × ℕ)
  | [] => some ([], size)
  | (k, x) :: kvs => do
    let first ← l.writeIndent size newIndent
    let (text, size) ← dumpValue l size newIndent x
    let member := first ++ '"' :: dumpEscaped l.ensureAscii k ++ l.colon ++ text
    if kvs.isEmpty then return (member, size)
    let (rest, size) ← dumpMembers l size newIndent kvs
    return (member ++ (l.comma ++ rest), size)

end

/-! ### The text of a value -/

mutual

/-- **The text of a value**, behind an indentation. -/
def valueText (l : Layout) (currentIndent : ℕ) : Json → List Char
  | .null => ['n', 'u', 'l', 'l']
  | .bool true => ['t', 'r', 'u', 'e']
  | .bool false => ['f', 'a', 'l', 's', 'e']
  | .int n => dumpInteger n
  | .float x => dumpFloat l.grisu2 x
  | .str s => '"' :: dumpEscaped l.ensureAscii s ++ ['"']
  | .arr [] => ['[', ']']
  | .arr (x :: xs) =>
    '[' :: l.newline ++ elementsText l (l.newIndent currentIndent) (x :: xs) ++
      (l.newline ++ l.indent currentIndent ++ [']'])
  | .obj [] => ['\x7b', '\x7d']
  | .obj (kv :: kvs) =>
    '\x7b' :: l.newline ++ membersText l (l.newIndent currentIndent) (kv :: kvs) ++
      (l.newline ++ l.indent currentIndent ++ ['\x7d'])

/-- The text of the elements of an array. -/
def elementsText (l : Layout) (newIndent : ℕ) : List Json → List Char
  | [] => []
  | x :: xs =>
    l.indent newIndent ++ valueText l newIndent x ++
      if xs.isEmpty then [] else l.comma ++ elementsText l newIndent xs

/-- The text of the members of an object. -/
def membersText (l : Layout) (newIndent : ℕ) : List (String × Json) → List Char
  | [] => []
  | (k, x) :: kvs =>
    l.indent newIndent ++ '"' :: dumpEscaped l.ensureAscii k ++ l.colon ++
      valueText l newIndent x ++
        if kvs.isEmpty then [] else l.comma ++ membersText l newIndent kvs

end

/-! ### The indentation that is at hand -/

section Fits

variable {l : Layout} {size size' n : ℕ}

/-- **There is enough of `indent_string`** for an indentation, and for one more step once it has
been doubled. -/
structure Fits (l : Layout) (size n : ℕ) : Prop where
  /-- The indentation. -/
  indent : n ≤ size
  /-- The next step. -/
  step : n + l.indentStep ≤ size * 2

theorem Fits.mono (h : Fits l size n) (hsize : size ≤ size') : Fits l size' n where
  indent := h.indent.trans hsize
  step := h.step.trans (Nat.mul_le_mul_right 2 hsize)

theorem Fits.writeIndent (h : Fits l size n) : l.writeIndent size n = some (l.indent n) :=
  if_neg fun hlt => absurd h.indent (not_le.mpr hlt.2)

theorem le_grow (l : Layout) (size newIndent : ℕ) : size ≤ l.grow size newIndent := by
  rw [Layout.grow]
  split_ifs <;> omega

/-- **At a new level there is enough again**, when the step is not larger than 1024. -/
theorem Fits.newLevel (h : Fits l size n) (hstep : l.indentStep ≤ 1024) :
    Fits l (l.grow size (l.newIndent n)) (l.newIndent n) := by
  obtain ⟨hindent, hnext⟩ := h
  rw [Layout.grow, Layout.newIndent]
  by_cases hpretty : l.prettyPrint = true
  · -- the string is doubled when it is too short, which makes room for two steps more
    simp only [hpretty, if_true, true_and]
    split_ifs with hlt <;> constructor <;> omega
  · simp only [hpretty]
    exact ⟨hindent, hnext⟩

/-- The elements of an array, when their values are written. -/
theorem dumpElements_eq (xs : List Json)
    (hxs : ∀ x ∈ xs, ∀ {size}, Fits l size n →
      ∃ size', size ≤ size' ∧ dumpValue l size n x = some (valueText l n x, size'))
    (h : Fits l size n) :
    ∃ size', size ≤ size' ∧ dumpElements l size n xs = some (elementsText l n xs, size') := by
  induction xs generalizing size with
  | nil => exact ⟨size, le_rfl, rfl⟩
  | cons x xs ih =>
    obtain ⟨hx, hxs⟩ := List.forall_mem_cons.mp hxs
    obtain ⟨size₁, hle₁, hvalue⟩ := hx h
    obtain ⟨size₂, hle₂, hrest⟩ := ih hxs (h.mono hle₁)
    rw [dumpElements, h.writeIndent, elementsText]
    rcases xs with _ | ⟨y, ys⟩
    · exact ⟨size₁, hle₁, by simp [hvalue]⟩
    · exact ⟨size₂, hle₁.trans hle₂, by simp [hvalue, hrest]⟩

/-- The members of an object, when their values are written. -/
theorem dumpMembers_eq (kvs : List (String × Json))
    (hkvs : ∀ kv ∈ kvs, ∀ {size}, Fits l size n →
      ∃ size', size ≤ size' ∧ dumpValue l size n kv.2 = some (valueText l n kv.2, size'))
    (h : Fits l size n) :
    ∃ size', size ≤ size' ∧ dumpMembers l size n kvs = some (membersText l n kvs, size') := by
  induction kvs generalizing size with
  | nil => exact ⟨size, le_rfl, rfl⟩
  | cons kv kvs ih =>
    obtain ⟨k, x⟩ := kv
    obtain ⟨hx, hkvs⟩ := List.forall_mem_cons.mp hkvs
    obtain ⟨size₁, hle₁, hvalue⟩ := hx h
    obtain ⟨size₂, hle₂, hrest⟩ := ih hkvs (h.mono hle₁)
    dsimp only at hvalue
    rw [dumpMembers, h.writeIndent, membersText]
    rcases kvs with _ | ⟨kv, kvs⟩
    · exact ⟨size₁, hle₁, by simp [hvalue]⟩
    · exact ⟨size₂, hle₁.trans hle₂, by simp [hvalue, hrest]⟩

/-- **`dump` writes the text of the value**, when the step is not larger than 1024. -/
theorem dumpValue_eq (hstep : l.indentStep ≤ 1024) (v : Json) (h : Fits l size n) :
    ∃ size', size ≤ size' ∧ dumpValue l size n v = some (valueText l n v, size') := by
  induction v using Json.induction generalizing size n with
  | null => exact ⟨size, le_rfl, rfl⟩
  | bool b => exact ⟨size, le_rfl, by cases b <;> rfl⟩
  | int m => exact ⟨size, le_rfl, rfl⟩
  | float x => exact ⟨size, le_rfl, rfl⟩
  | str s => exact ⟨size, le_rfl, rfl⟩
  | arr xs ih =>
    rcases xs with _ | ⟨x, xs⟩
    · exact ⟨size, le_rfl, rfl⟩
    · obtain ⟨size', hle, hxs⟩ := dumpElements_eq (x :: xs) (fun y hy _ hfits => ih y hy hfits)
        (h.newLevel hstep)
      have hsize := (le_grow l size (l.newIndent n)).trans hle
      refine ⟨size', hsize, ?_⟩
      rw [dumpValue, hxs]
      simp [(h.mono hsize).writeIndent, valueText]
  | obj kvs ih =>
    rcases kvs with _ | ⟨kv, kvs⟩
    · exact ⟨size, le_rfl, rfl⟩
    · obtain ⟨size', hle, hkvs⟩ := dumpMembers_eq (kv :: kvs) (fun y hy _ hfits => ih y hy hfits)
        (h.newLevel hstep)
      have hsize := (le_grow l size (l.newIndent n)).trans hle
      refine ⟨size', hsize, ?_⟩
      rw [dumpValue, hkvs]
      simp [(h.mono hsize).writeIndent, valueText]

end Fits

end Serializer

namespace Lexer

open Serializer

/-! ### What the lexer makes of a string -/

/-- The value of an escaped character. -/
theorem run_hex4 {n : ℕ} (hn : n < 2 ^ 16) (buf : List Char) (high : Option ℕ) (rest : List Char) :
    (codepoint buf high 0 4).run (hex4 n ++ rest) =
      (finishCodepoint buf n high).1 ++
        (finishCodepoint buf n high).2.elim [] fun st => st.run rest := by
  have hdigit : ∀ d < 16, hexDigit? (Nat.digitChar d) = some d := by decide
  have h1 := hdigit (n / 4096 % 16) (by omega)
  have h2 := hdigit (n / 256 % 16) (by omega)
  have h3 := hdigit (n / 16 % 16) (by omega)
  have h4 := hdigit (n % 16) (by omega)
  have hvalue : 16 * (16 * (16 * (16 * 0 + n / 4096 % 16) + n / 256 % 16) + n / 16 % 16) + n % 16 =
      n := by omega
  show (codepoint buf high 0 4).run (Nat.digitChar (n / 4096 % 16) ::
    Nat.digitChar (n / 256 % 16) :: Nat.digitChar (n / 16 % 16) :: Nat.digitChar (n % 16) :: rest)
      = _
  simp only [run_cons, step, h1, h2, h3, h4, hvalue, Nat.reduceLeDiff, if_false, if_true,
    Nat.reduceSub, List.nil_append, Option.elim_some]

theorem eq_ofNat {c : Char} {n : ℕ} (h : c.toNat = n) : c = Char.ofNat n := by
  rw [← h, Char.ofNat_toNat]

/-- **The lexer turns what is written for a character back into it.** -/
theorem run_escapeChar (ensureAscii : Bool) (c : Char) (buf rest : List Char) :
    (string buf).run (escapeChar ensureAscii c ++ rest) = (string (c :: buf)).run rest := by
  rw [escapeChar]
  split_ifs with h1 h2 h3 h4 h5 h6 h7 h8 h9
  · obtain rfl := eq_ofNat h1
    rfl
  · obtain rfl := eq_ofNat h2
    rfl
  · obtain rfl := eq_ofNat h3
    rfl
  · obtain rfl := eq_ofNat h4
    rfl
  · obtain rfl := eq_ofNat h5
    rfl
  · obtain rfl := eq_ofNat h6
    rfl
  · obtain rfl := eq_ofNat h7
    rfl
  · -- A character of two bytes is no surrogate.
    show (codepoint buf none 0 4).run (hex4 c.toNat ++ rest) = _
    have hvalid : c.toNat < 0xD800 ∨ 0xDFFF < c.toNat ∧ c.toNat < 0x110000 := c.valid
    rw [run_hex4 (by omega), finishCodepoint, if_neg (by omega), if_neg (by omega),
      Char.ofNat_toNat]
    rfl
  · have hvalid : c.toNat < 0xD800 ∨ 0xDFFF < c.toNat ∧ c.toNat < 0x110000 := c.valid
    show (codepoint buf none 0 4).run ((hex4 (0xD7C0 + c.toNat / 2 ^ 10) ++
      ('\\' :: 'u' :: hex4 (0xDC00 + c.toNat % 2 ^ 10))) ++ rest) = _
    rw [List.append_assoc, run_hex4 (by omega), finishCodepoint, if_pos (by omega)]
    show (codepoint buf (some (0xD7C0 + c.toNat / 2 ^ 10)) 0 4).run
      (hex4 (0xDC00 + c.toNat % 2 ^ 10) ++ rest) = _
    have hvalue : (0xD7C0 + c.toNat / 2 ^ 10) * 2 ^ 10 + (0xDC00 + c.toNat % 2 ^ 10) - 0x35FDC00 =
        c.toNat := by omega
    rw [run_hex4 (by omega), finishCodepoint, if_pos (by omega), hvalue, Char.ofNat_toNat]
    rfl
  · simp only [not_or, not_and, not_le] at h8
    have hquote : c ≠ '"' := fun h => h6 (by rw [h]; rfl)
    have hslash : c ≠ '\\' := fun h => h7 (by rw [h]; rfl)
    show (string buf).run (c :: rest) = _
    rw [run, step, if_neg hquote, if_neg hslash, if_neg (by omega)]
    rfl

/-- **A string is one token.** -/
theorem run_dumpEscaped (ensureAscii : Bool) (s : String) (rest : List Char) :
    start.run ('"' :: (dumpEscaped ensureAscii s ++ '"' :: rest)) =
      .string s :: start.run rest := by
  have hbody : ∀ (cs buf : List Char), (string buf).run
      (cs.flatMap (escapeChar ensureAscii) ++ '"' :: rest) =
        .string (String.ofList (buf.reverse ++ cs)) :: start.run rest := by
    intro cs
    induction cs with
    | nil =>
      intro buf
      rw [List.append_nil]
      rfl
    | cons c cs ih =>
      intro buf
      rw [List.flatMap_cons, List.append_assoc, run_escapeChar, ih, List.reverse_cons,
        List.append_assoc]
      rfl
  refine (hbody s.toList []).trans ?_
  rw [List.reverse_nil, List.nil_append, String.ofList_toList]

/-! ### What the lexer makes of the layout -/

theorem run_spaces (n : ℕ) (cs : List Char) :
    start.run (List.replicate n ' ' ++ cs) = start.run cs := by
  induction n with
  | zero => rfl
  | succ n ih => exact ih

theorem run_indent (l : Layout) (n : ℕ) (cs : List Char) :
    start.run (l.indent n ++ cs) = start.run cs := by
  rw [Layout.indent]
  split_ifs
  · exact run_spaces n cs
  · rfl

theorem run_newline (l : Layout) (cs : List Char) :
    start.run (l.newline ++ cs) = start.run cs := by
  rw [Layout.newline]
  split_ifs <;> rfl

theorem run_comma (l : Layout) (cs : List Char) :
    start.run (l.comma ++ cs) = .valueSeparator :: start.run cs := by
  rw [Layout.comma]
  split_ifs <;> rfl

/-- A key with its colon is two tokens. -/
theorem run_key (l : Layout) (k : String) (cs : List Char) :
    start.run ('"' :: (dumpEscaped l.ensureAscii k ++ (l.colon ++ cs))) =
      .string k :: .nameSeparator :: start.run cs := by
  rw [Layout.colon]
  split_ifs
  · exact run_dumpEscaped l.ensureAscii k (':' :: ' ' :: cs)
  · exact run_dumpEscaped l.ensureAscii k (':' :: cs)

/-- The text behind the last element ends a number. -/
theorem closes_newline (l : Layout) (n : ℕ) {c : Char} (hc : c = ']' ∨ c = '\x7d')
    (rest : List Char) : Closes (l.newline ++ (l.indent n ++ c :: rest)) := by
  rintro d cs h
  rw [Layout.newline, Layout.indent] at h
  split_ifs at h
  · cases h
    exact Or.inr (Or.inr (Or.inr rfl))
  · cases h
    rcases hc with rfl | rfl
    · exact Or.inr (Or.inl rfl)
    · exact Or.inr (Or.inr (Or.inl rfl))

theorem closes_comma (l : Layout) (rest : List Char) : Closes (l.comma ++ rest) := by
  rintro d cs h
  rw [Layout.comma] at h
  split_ifs at h <;> (cases h; exact Or.inl rfl)

end Lexer

/-! ### What the parser makes of a value -/

namespace Parser

open Serializer Lexer

/-- The parser goes on after a step. -/
def resume : Out → List Token → Option (Json × List Token)
  | .fail, _ => none
  | .done j, ts => some (j, ts)
  | .next expect stack, ts => run expect stack ts

theorem run_cons (expect : Expect) (stack : List Frame) (t : Token) (ts : List Token) :
    run expect stack (t :: ts) = resume (step stack t expect) ts := by
  rw [run]
  rcases step stack t expect with _ | _ | _ <;> rfl

/-- A value may begin here. -/
def TakesValue (expect : Expect) : Prop := expect = .value ∨ expect = .firstElement

/-- A value that is a single token. -/
theorem run_leaf {expect : Expect} (hexpect : TakesValue expect) {t : Token} {j : Json}
    {stack : List Frame} (hne : t ≠ .endArray) (hstep : stepValue stack t = complete j stack)
    (ts : List Token) : run expect stack (t :: ts) = resume (complete j stack) ts := by
  rw [run_cons, ← hstep]
  rcases hexpect with rfl | rfl
  · rfl
  · rcases t <;> first | exact absurd rfl hne | rfl

/-- What is read for a leaf: an infinite number was written as `null`. -/
def readBack : Json → Json
  | .float (.infinite _) => .null
  | j => j

/-- **A value that has a text**: its integers have 64 bits, and `grisu2` keeps its promise for its
numbers. -/
def Writable (grisu2 : Grisu2) (v : Json) : Prop :=
  ∀ leaf ∈ v.leaves, match leaf with
    | .int n => -2 ^ 63 ≤ n ∧ n < 2 ^ 64
    | .float (.finite x) => x.units ≠ 0 →
      Shortest (grisu2 (magnitude x)).1 (grisu2 (magnitude x)).2 (magnitude x)
    | _ => True

/-- **A text that is read as a value**, wherever the parser takes one. -/
def ReadsAs (text : List Char) (v : Json) : Prop :=
  ∀ {expect : Expect} {stack : List Frame} {rest : List Char}, TakesValue expect → Closes rest →
    run expect stack (start.run (text ++ rest)) = resume (complete v stack) (start.run rest)

/-- The elements of an array. -/
theorem run_elementsText (l : Layout) (n m : ℕ) {f : Json → Json} (rest : List Char)
    (stack : List Frame) : ∀ (xs : List Json), xs ≠ [] →
    (∀ x ∈ xs, ReadsAs (valueText l n x) (f x)) → ∀ {expect : Expect} (done : List Json),
    TakesValue expect → run expect (.arr done :: stack)
      (start.run (elementsText l n xs ++ (l.newline ++ (l.indent m ++ ']' :: rest)))) =
        resume (complete (.arr (done.reverse ++ xs.map f)) stack) (start.run rest)
  | [], hne, _, _, _, _ => absurd rfl hne
  | x :: xs, _, hxs, expect, done, hexpect => by
    obtain ⟨hx, hxs⟩ := List.forall_mem_cons.mp hxs
    rw [elementsText, List.append_assoc, List.append_assoc, run_indent]
    rcases xs with _ | ⟨y, ys⟩
    · refine (hx hexpect (closes_newline l m (Or.inl rfl) rest)).trans ?_
      show run .afterValue (.arr (f x :: done) :: stack)
        (start.run (l.newline ++ (l.indent m ++ ']' :: rest))) = _
      rw [run_newline, run_indent]
      show run .afterValue (.arr (f x :: done) :: stack) (.endArray :: start.run rest) = _
      rw [run_cons, step, close, List.reverse_cons, List.map_cons, List.map_nil]
    · rw [List.isEmpty_cons, if_neg Bool.false_ne_true, List.append_assoc]
      refine (hx hexpect (closes_comma l _)).trans ?_
      show run .afterValue (.arr (f x :: done) :: stack) (start.run (l.comma ++ _)) = _
      rw [run_comma, run_cons, step]
      show run .value (.arr (f x :: done) :: stack) _ = _
      rw [run_elementsText l n m rest stack (y :: ys) (List.cons_ne_nil y ys) hxs (f x :: done)
        (Or.inl rfl), List.reverse_cons, List.append_assoc]
      rfl

/-- The members of an object. -/
theorem run_membersText (l : Layout) (n m : ℕ) {f : Json → Json} (rest : List Char)
    (stack : List Frame) : ∀ (kvs : List (String × Json)), kvs ≠ [] →
    (∀ kv ∈ kvs, ReadsAs (valueText l n kv.2) (f kv.2)) → ∀ {expect : Expect}
    (members : List (String × Json)) (key : String), expect = .firstKey ∨ expect = .nextKey →
    run expect (.obj members key :: stack)
      (start.run (membersText l n kvs ++ (l.newline ++ (l.indent m ++ '\x7d' :: rest)))) =
        resume (complete (.obj ((kvs.map fun kv => (kv.1, f kv.2)).foldl
          (fun acc e => assign e.1 e.2 acc) members)) stack) (start.run rest)
  | [], hne, _, _, _, _, _ => absurd rfl hne
  | (k, x) :: kvs, _, hkvs, expect, members, key, hexpect => by
    obtain ⟨hx, hkvs⟩ := List.forall_mem_cons.mp hkvs
    have hkey : ∀ cs, run expect (.obj members key :: stack)
        (start.run (l.indent n ++ ('"' :: (dumpEscaped l.ensureAscii k ++ (l.colon ++ cs))))) =
          run .value (.obj members k :: stack) (start.run cs) := by
      intro cs
      rw [run_indent, run_key, run_cons]
      rcases hexpect with rfl | rfl <;> rfl
    have hvalue : ∀ cs, Closes cs → run .value (.obj members k :: stack)
        (start.run (valueText l n x ++ cs)) =
          run .afterValue (.obj (assign k (f x) members) k :: stack) (start.run cs) :=
      fun cs hcs => hx (Or.inl rfl) hcs
    rw [membersText]
    rcases kvs with _ | ⟨kv, kvs⟩
    · rw [List.isEmpty_nil, if_pos rfl, List.append_nil]
      simp only [List.append_assoc, List.cons_append]
      rw [hkey, hvalue _ (closes_newline l m (Or.inr rfl) rest), run_newline, run_indent]
      show run .afterValue (.obj (assign k (f x) members) k :: stack)
        (.endObject :: start.run rest) = _
      rw [run_cons, step, close]
      rfl
    · rw [List.isEmpty_cons, if_neg Bool.false_ne_true]
      simp only [List.append_assoc, List.cons_append]
      rw [hkey, hvalue _ (closes_comma l _), run_comma, run_cons, step]
      show run .nextKey (.obj (assign k (f x) members) k :: stack) _ = _
      rw [run_membersText l n m rest stack (kv :: kvs) (List.cons_ne_nil kv kvs) hkvs
        (assign k (f x) members) k (Or.inr rfl)]
      rfl

/-- **The text of a value is read as the value.** -/
theorem readsAs_valueText (l : Layout) {v : Json} (hwf : v.WF) (hv : Writable l.grisu2 v) :
    ∀ n, ReadsAs (valueText l n v) (v.mapLeaves readBack) := by
  induction v using Json.induction with
  | null =>
    intro n expect stack rest hexpect _
    exact run_leaf hexpect (fun h => by cases h) rfl (start.run rest)
  | bool b =>
    intro n expect stack rest hexpect _
    rcases b with _ | _ <;> exact run_leaf hexpect (fun h => by cases h) rfl (start.run rest)
  | int m =>
    intro n expect stack rest hexpect hrest
    obtain ⟨hlow, hhigh⟩ := hv (.int m) (by simp [Json.leaves])
    rw [valueText, run_dumpInteger hlow hhigh hrest]
    exact run_leaf hexpect (fun h => by cases h) rfl (start.run rest)
  | float x =>
    intro n expect stack rest hexpect hrest
    rcases x with x | neg
    · rw [valueText, dumpFloat, run_toChars (hv (.float (.finite x)) (by simp [Json.leaves])) hrest]
      exact run_leaf hexpect (fun h => by cases h) rfl (start.run rest)
    · exact run_leaf (t := .literalNull) hexpect (fun h => by cases h) rfl (start.run rest)
  | str s =>
    intro n expect stack rest hexpect _
    rw [valueText]
    show run expect stack (start.run
      ('"' :: ((dumpEscaped l.ensureAscii s ++ ['"']) ++ rest))) = _
    rw [List.append_assoc]
    refine (congrArg (run expect stack) (run_dumpEscaped l.ensureAscii s rest)).trans ?_
    exact run_leaf hexpect (fun h => by cases h) rfl (start.run rest)
  | arr xs ih =>
    intro n expect stack rest hexpect _
    have hxs : ∀ m, ∀ x ∈ xs, ReadsAs (valueText l m x) (x.mapLeaves readBack) := fun m x hx =>
      ih x hx (Json.wf_arr.mp hwf x hx)
        (fun leaf hleaf => hv leaf (Json.mem_leaves_arr.mpr ⟨x, hx, hleaf⟩)) m
    have hopen : ∀ cs, run expect stack (start.run ('[' :: cs)) =
        run .firstElement (.arr [] :: stack) (start.run cs) := by
      intro cs
      show run expect stack (.beginArray :: start.run cs) = _
      rw [run_cons]
      rcases hexpect with rfl | rfl <;> rfl
    rw [Json.mapLeaves_arr]
    rcases xs with _ | ⟨x, xs⟩
    · refine (hopen (']' :: rest)).trans ?_
      show run .firstElement (.arr [] :: stack) (.endArray :: start.run rest) = _
      rw [run_cons]
      rfl
    · rw [valueText]
      simp only [List.append_assoc, List.cons_append, List.nil_append]
      rw [hopen, run_newline, run_elementsText l (l.newIndent n) n rest stack (x :: xs)
        (List.cons_ne_nil x xs) (hxs _) [] (Or.inr rfl)]
      rfl
  | obj kvs ih =>
    intro n expect stack rest hexpect _
    obtain ⟨hsorted, hmembers⟩ := Json.wf_obj.mp hwf
    have hkvs : ∀ m, ∀ kv ∈ kvs, ReadsAs (valueText l m kv.2) (kv.2.mapLeaves readBack) :=
      fun m kv hkv => ih kv hkv (hmembers kv hkv)
        (fun leaf hleaf => hv leaf (Json.mem_leaves_obj.mpr ⟨kv, hkv, hleaf⟩)) m
    have hopen : ∀ cs, run expect stack (start.run ('\x7b' :: cs)) =
        run .firstKey (.obj [] "" :: stack) (start.run cs) := by
      intro cs
      show run expect stack (.beginObject :: start.run cs) = _
      rw [run_cons]
      rcases hexpect with rfl | rfl <;> rfl
    rw [Json.mapLeaves_obj]
    rcases kvs with _ | ⟨kv, kvs⟩
    · refine (hopen ('\x7d' :: rest)).trans ?_
      show run .firstKey (.obj [] "" :: stack) (.endObject :: start.run rest) = _
      rw [run_cons]
      rfl
    · rw [valueText]
      simp only [List.append_assoc, List.cons_append, List.nil_append]
      rw [hopen, run_newline, run_membersText l (l.newIndent n) n rest stack (kv :: kvs)
        (List.cons_ne_nil kv kvs) (hkvs _) [] "" (Or.inl rfl)]
      rw [foldl_assign_sorted hsorted.map_snd]

end Parser

/-- The first size of `indent_string`. -/
def indentStringSize : ℕ := 512

/-- **`json::dump`**: in one line for a negative `indent`, and with that indentation otherwise.
Nothing when it reads beyond the end of `indent_string`. -/
def dump (grisu2 : Serializer.Grisu2) (indent : ℤ) (ensureAscii : Bool) (v : Json) :
    Option String :=
  (Serializer.dumpValue ⟨0 ≤ indent, ensureAscii, indent.toNat, grisu2⟩ indentStringSize 0 v).map
    fun written => String.ofList written.1

/-- The text of a value is read, from its first character to its last one. -/
theorem parse_valueText (l : Serializer.Layout) {v : Json} (hwf : v.WF)
    (hv : Parser.Writable l.grisu2 v) :
    parse (String.ofList (Serializer.valueText l 0 v)) = some (v.mapLeaves Parser.readBack) := by
  have hread : Parser.run .value [] (Lexer.start.run (Serializer.valueText l 0 v ++ [])) =
      some (v.mapLeaves Parser.readBack, [.endOfInput]) :=
    Parser.readsAs_valueText l hwf hv 0 (Or.inl rfl) (fun _ _ h => by cases h)
  rw [List.append_nil] at hread
  have htokens : tokens (String.ofList (Serializer.valueText l 0 v)) =
      Lexer.start.run (Serializer.valueText l 0 v) := by
    rw [tokens, String.toList_ofList]
    rcases htext : Serializer.valueText l 0 v with _ | ⟨c, cs⟩
    · rfl
    · -- A text that begins with a byte order mark would not have been read.
      have hbom : c ≠ '\uFEFF' := by
        rintro rfl
        rw [htext] at hread
        cases hread
      exact if_neg hbom
  rw [parse, htokens, hread]

/-- **The library reads what it wrote**, in one line or with an indentation of up to 1024. -/
theorem parse_dump (grisu2 : Serializer.Grisu2) {indent : ℤ} (hindent : indent ≤ 1024)
    (ensureAscii : Bool) {v : Json} (hwf : v.WF) (hv : Parser.Writable grisu2 v) :
    ∃ text, dump grisu2 indent ensureAscii v = some text ∧
      parse text = some (v.mapLeaves Parser.readBack) := by
  have hstep : indent.toNat ≤ 1024 := by omega
  have hfits : Serializer.Fits ⟨0 ≤ indent, ensureAscii, indent.toNat, grisu2⟩
      indentStringSize 0 := ⟨Nat.zero_le _, by rw [Nat.zero_add]; exact hstep⟩
  obtain ⟨size, -, hdump⟩ := Serializer.dumpValue_eq hstep v hfits
  exact ⟨_, by rw [dump, hdump, Option.map_some], parse_valueText _ hwf hv⟩

/-- **An indentation beyond 1024 is not at hand** when there is something to indent. -/
theorem dump_eq_none (grisu2 : Serializer.Grisu2) {indent : ℤ} (hlarge : 1024 < indent)
    (hint : indent < 2 ^ 31) (ensureAscii : Bool) (x : Json) (xs : List Json) :
    dump grisu2 indent ensureAscii (.arr (x :: xs)) = none := by
  have hpretty : decide (0 ≤ indent) = true := decide_eq_true (by omega)
  rw [dump, hpretty]
  generalize hl : (⟨true, ensureAscii, indent.toNat, grisu2⟩ : Serializer.Layout) = l
  have hnew : l.newIndent 0 = indent.toNat := by
    rw [← hl, Serializer.Layout.newIndent, if_pos rfl]
    dsimp only
    omega
  -- the string is doubled, which is not enough
  have hshort : l.grow indentStringSize indent.toNat < indent.toNat := by
    rw [Serializer.Layout.grow, indentStringSize]
    split_ifs <;> omega
  have hwrite : l.writeIndent (l.grow indentStringSize indent.toNat) indent.toNat = none :=
    if_pos ⟨by rw [← hl], hshort⟩
  rw [Serializer.dumpValue, hnew, Serializer.dumpElements, hwrite]
  rfl

/-- A member with the least positive number, `5e-324`, and a string with escapes. -/
theorem parse_dump_sample :
    let least : BinaryFloat binary64 := ⟨1, 1, 0, by decide, by decide, by decide +kernel⟩
    let v : Json :=
      .obj [("a", .arr [.int (-5), .float (.finite least), .null]), ("b", .str "x\n\u1100")]
    ∃ text, dump (fun _ => ([5], -324)) 2 true v = some text ∧ parse text = some v := by
  refine parse_dump (fun _ => ([5], -324)) (by decide) true ?_ fun leaf hleaf => ?_
  · refine Json.wf_obj.mpr ⟨List.Pairwise.cons ?_ (List.pairwise_singleton _ _), ?_⟩
    · simp only [List.mem_singleton, forall_eq]
      decide
    · simp [Json.WF, Json.WFList]
  · simp only [Json.leaves, Json.leavesList, Json.leavesMembers, List.mem_append,
      List.mem_singleton, List.not_mem_nil, or_false] at hleaf
    rcases hleaf with (rfl | rfl | rfl) | rfl
    · exact ⟨by decide, by decide⟩
    · exact fun _ => ⟨by decide, ⟨5, [], rfl, by decide⟩, by decide, by decide +kernel⟩
    · trivial
    · trivial

end DetectBase
