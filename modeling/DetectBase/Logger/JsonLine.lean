import DetectBase.Json.Text
import Mathlib.Data.Bool.AllAny

/-!
# Log lines in JSON

`Logger::FormatJsonLine` (`MgenLogger.cpp`) writes a message as one line of JSON. What it is given
are byte strings, which may hold anything: a message is often a part of what a client has sent.
`JsonEscape` is all that stands between such a message and the log.

The line is read with the JSON reader of the service (`DetectBase.parse`), each byte taken for the
character with its number (`DetectBase.asText`), so that nothing depends on an encoding. One byte of
a message is one escape of `DetectBase.jsonEscape`, and the reader, inside a string, turns each
escape back into its byte (`DetectBase.Lexer.run_jsonEscape`). The reader's answer for a line is
`DetectBase.parse_formatJsonLine`, and a whole log, cut at its newlines, has one line for each
message (`DetectBase.splitOn_writeLog`).

An empty correlation id stands for none, and the line has no such member then.
-/

namespace DetectBase

/-! ### Byte strings -/

/-- The byte of an ASCII character. -/
def byte (c : Char) : UInt8 := c.toUInt8

/-- The bytes of a literal. -/
def ascii (text : String) : List UInt8 := text.toList.map byte

/-- What is left of a text in a buffer of `size` bytes, one of which is the terminator. -/
def snprintf (size : ℕ) (text : List UInt8) : List UInt8 := text.take (size - 1)

/-- The conversion `%0*d`. A minus sign counts. -/
def formatDecimal (width : ℕ) (n : ℤ) : List UInt8 :=
  let digits := (Nat.toDigits 10 n.natAbs).map byte
  if n < 0 then byte '-' :: (List.replicate (width - 1 - digits.length) (byte '0') ++ digits)
  else List.replicate (width - digits.length) (byte '0') ++ digits

/-- The conversion `%0*x`. -/
def formatHex (width n : ℕ) : List UInt8 :=
  let digits := (Nat.toDigits 16 n).map byte
  List.replicate (width - digits.length) (byte '0') ++ digits

/-! ### The line -/

/-- `LogLevel`. -/
inductive LogLevel where
  /-- `TRACE`. -/
  | trace : LogLevel
  /-- `DEBUG`. -/
  | debug : LogLevel
  /-- `INFO`. -/
  | info : LogLevel
  /-- `WARN`. -/
  | warn : LogLevel
  /-- `ERROR`. -/
  | error : LogLevel
  /-- A value of the underlying type that has no name. -/
  | other (value : UInt8) : LogLevel

/-- `LogLevelName`. -/
def logLevelName : LogLevel → String
  | .trace => "TRACE"
  | .debug => "DEBUG"
  | .info => "INFO"
  | .warn => "WARN"
  | .error => "ERROR"
  | .other _ => "UNKNOWN"

/-- What `timeStampISO8601` reads off the clock: the fields of the `tm`, and the milliseconds. -/
structure UtcTime where
  /-- `tm_year`, since 1900. -/
  tmYear : ℤ
  /-- `tm_mon`, since January. -/
  tmMon : ℤ
  /-- `tm_mday`. -/
  tmMday : ℤ
  /-- `tm_hour`. -/
  tmHour : ℤ
  /-- `tm_min`. -/
  tmMin : ℤ
  /-- `tm_sec`. -/
  tmSec : ℤ
  /-- `millis`. -/
  millis : ℤ

/-- `timeStampISO8601`. -/
def timeStampISO8601 (utc : UtcTime) : List UInt8 :=
  snprintf 64 (formatDecimal 4 (utc.tmYear + 1900) ++
    ascii "-" ++ formatDecimal 2 (utc.tmMon + 1) ++
    ascii "-" ++ formatDecimal 2 utc.tmMday ++ ascii "T" ++ formatDecimal 2 utc.tmHour ++
    ascii ":" ++ formatDecimal 2 utc.tmMin ++ ascii ":" ++ formatDecimal 2 utc.tmSec ++
    ascii "." ++ formatDecimal 3 utc.millis ++ ascii "Z")

/-- What `JsonEscape` writes for a byte. -/
def escapeByte (c : UInt8) : List UInt8 :=
  if c = byte '"' then ascii "\\\""
  else if c = byte '\\' then ascii "\\\\"
  else if c = byte '\x08' then ascii "\\b"
  else if c = byte '\x0c' then ascii "\\f"
  else if c = byte '\n' then ascii "\\n"
  else if c = byte '\r' then ascii "\\r"
  else if c = byte '\t' then ascii "\\t"
  else if c < 0x20 then snprintf 8 (ascii "\\u" ++ formatHex 4 c.toNat)
  else [c]

/-- `JsonEscape`. -/
def jsonEscape (s : List UInt8) : List UInt8 := s.flatMap escapeByte

/-- **`FormatJsonLine`**, with the correlation id of the thread. -/
def formatJsonLine (utc : UtcTime) (cid msg : List UInt8) (level : LogLevel) : List UInt8 :=
  ascii "\x7b\"ts\":\"" ++ timeStampISO8601 utc ++ ascii "\",\"lvl\":\"" ++
    ascii (logLevelName level) ++ ascii "\",\"msg\":\"" ++ jsonEscape msg ++ ascii "\"" ++
    (if cid = [] then []
    else ascii ",\"correlation_id\":\"" ++ jsonEscape cid ++ ascii "\"") ++ ascii "\x7d\n"

/-! ### Bytes as characters -/

/-- The characters of a byte string, each byte taken for the character with its number. -/
def asChars (s : List UInt8) : List Char := s.map Char.ofUInt8

/-- The text of a byte string. -/
def asText (s : List UInt8) : String := String.ofList (asChars s)

@[simp] theorem asChars_append (s t : List UInt8) : asChars (s ++ t) = asChars s ++ asChars t :=
  List.map_append

@[simp] theorem toNat_ofUInt8 (c : UInt8) : (Char.ofUInt8 c).toNat = c.toNat := rfl

theorem ofUInt8_injective : Function.Injective Char.ofUInt8 := by
  intro c d h
  exact UInt8.toNat_inj.mp (congrArg Char.toNat h)

/-- **No two byte strings are read as the same text.** -/
theorem asText_injective : Function.Injective asText := by
  intro s t h
  exact ofUInt8_injective.list_map (String.ofList_injective h)

/-! ### What an escape is made of -/

/-- A byte that `JsonEscape` leaves as it is. -/
def IsPlain (c : UInt8) : Prop := 0x20 ≤ c ∧ c ≠ byte '"' ∧ c ≠ byte '\\'

instance (c : UInt8) : Decidable (IsPlain c) := inferInstanceAs (Decidable (_ ∧ _ ∧ _))

/-- What holds of each byte of a literal. -/
theorem forall_mem_ascii {P : UInt8 → Prop} [DecidablePred P] {text : String}
    (h : (ascii text).all (fun c => P c) = true) : ∀ c ∈ ascii text, P c :=
  List.all_iff_forall_prop.mp h

/-- A control byte without a short escape is written with four digits. -/
theorem formatHex_control {n : ℕ} (h : n < 0x20) :
    formatHex 4 n = [byte '0', byte '0', byte (n / 16).digitChar, byte (n % 16).digitChar] := by
  revert n
  decide

/-- **The forms that an escape can have.** -/
theorem escapeByte_cases (c : UInt8) :
    (∃ letter, 0x20 ≤ byte letter ∧ escapeByte c = [byte '\\', byte letter] ∧
      ∀ buf, Lexer.stepEscape buf (Char.ofUInt8 (byte letter)) =
        ([], some (.string (Char.ofUInt8 c :: buf)))) ∨
    (c < 0x20 ∧ escapeByte c = ascii "\\u00" ++
      [byte (c.toNat / 16).digitChar, byte (c.toNat % 16).digitChar]) ∨
    (IsPlain c ∧ escapeByte c = [c]) := by
  rw [escapeByte]
  rcases eq_or_ne c (byte '"') with rfl | hquote
  · exact .inl ⟨'"', by decide, rfl, fun _ => rfl⟩
  rw [if_neg hquote]
  rcases eq_or_ne c (byte '\\') with rfl | hslash
  · exact .inl ⟨'\\', by decide, rfl, fun _ => rfl⟩
  rw [if_neg hslash]
  rcases eq_or_ne c (byte '\x08') with rfl | hb
  · exact .inl ⟨'b', by decide, rfl, fun _ => rfl⟩
  rw [if_neg hb]
  rcases eq_or_ne c (byte '\x0c') with rfl | hf
  · exact .inl ⟨'f', by decide, rfl, fun _ => rfl⟩
  rw [if_neg hf]
  rcases eq_or_ne c (byte '\n') with rfl | hn
  · exact .inl ⟨'n', by decide, rfl, fun _ => rfl⟩
  rw [if_neg hn]
  rcases eq_or_ne c (byte '\r') with rfl | hr
  · exact .inl ⟨'r', by decide, rfl, fun _ => rfl⟩
  rw [if_neg hr]
  rcases eq_or_ne c (byte '\t') with rfl | ht
  · exact .inl ⟨'t', by decide, rfl, fun _ => rfl⟩
  rw [if_neg ht]
  by_cases hlow : c < 0x20
  · refine .inr (.inl ⟨hlow, ?_⟩)
    rw [if_pos hlow, formatHex_control (UInt8.lt_iff_toNat_lt.mp hlow)]
    rfl
  · exact .inr (.inr ⟨⟨UInt8.not_lt.mp hlow, hquote, hslash⟩, if_neg hlow⟩)

/-! ### The escapes as the reader sees them -/

namespace Lexer

variable {buf : List Char}

/-- A byte that is written as it is. -/
theorem run_plain {c : UInt8} (h : IsPlain c) (rest : List Char) :
    (string buf).run (Char.ofUInt8 c :: rest) = (string (Char.ofUInt8 c :: buf)).run rest := by
  obtain ⟨hlow, hquote, hslash⟩ := h
  have hne : ∀ {d}, c ≠ byte d → Char.ofUInt8 (byte d) = d → Char.ofUInt8 c ≠ d := by
    rintro d hd hd' rfl
    exact hd (ofUInt8_injective hd'.symm)
  have hnat : ¬ (Char.ofUInt8 c).toNat < 0x20 := Nat.not_lt.mpr (UInt8.le_iff_toNat_le.mp hlow)
  rw [run, step, if_neg (hne hquote rfl), if_neg (hne hslash rfl), if_neg hnat]
  rfl

/-- A hexadecimal digit is read as what it stands for. -/
theorem hexDigit?_digitChar {d : ℕ} (h : d < 16) :
    hexDigit? (Char.ofUInt8 (byte d.digitChar)) = some d := by
  revert d
  decide

/-- The four digits of a control byte. -/
theorem run_codepoint {n : ℕ} (h : n < 0x20) (rest : List Char) :
    (string buf).run (asChars (ascii "\\u00" ++
      [byte (n / 16).digitChar, byte (n % 16).digitChar]) ++ rest) =
      (string (Char.ofNat n :: buf)).run rest := by
  have hhigh := hexDigit?_digitChar (d := n / 16) (by omega)
  have hlow := hexDigit?_digitChar (d := n % 16) (by omega)
  have hcode : 16 * (16 * (16 * (16 * 0 + 0) + 0) + n / 16) + n % 16 = n := by omega
  show (codepoint buf none (16 * (16 * 0 + 0) + 0) 2).run
    (Char.ofUInt8 (byte (n / 16).digitChar) :: Char.ofUInt8 (byte (n % 16).digitChar) :: rest) = _
  rw [run, step, hhigh]
  dsimp only
  rw [if_neg (by decide)]
  dsimp only
  rw [run, step, hlow]
  dsimp only
  rw [if_pos (by decide), hcode, finishCodepoint, if_neg (by omega), if_neg (by omega)]
  rfl

/-- **The reader turns an escape back into its byte.** -/
theorem run_escapeByte (c : UInt8) (rest : List Char) :
    (string buf).run (asChars (escapeByte c) ++ rest) =
      (string (Char.ofUInt8 c :: buf)).run rest := by
  obtain ⟨letter, -, hesc, hstep⟩ | ⟨hlow, hesc⟩ | ⟨hplain, hesc⟩ := escapeByte_cases c
  · have hslash : (string buf).run (asChars [byte '\\', byte letter] ++ rest) =
      (escape buf).run (Char.ofUInt8 (byte letter) :: rest) := rfl
    rw [hesc, hslash, run, step, hstep]
    rfl
  · rw [hesc, run_codepoint (UInt8.lt_iff_toNat_lt.mp hlow)]
    exact congrArg (fun c => (string (c :: buf)).run rest) (Char.ofNat_toNat (Char.ofUInt8 c))
  · rw [hesc]
    exact run_plain hplain rest

/-- **The reader turns what `JsonEscape` writes back into the bytes.** -/
theorem run_jsonEscape (s : List UInt8) (rest : List Char) :
    (string buf).run (asChars (jsonEscape s) ++ rest) =
      (string ((asChars s).reverse ++ buf)).run rest := by
  induction s generalizing buf with
  | nil => rfl
  | cons c s ih =>
    have hcons : (asChars (c :: s)).reverse = (asChars s).reverse ++ [Char.ofUInt8 c] :=
      List.reverse_cons
    rw [jsonEscape, List.flatMap_cons, asChars_append, List.append_assoc, run_escapeByte, hcons,
      List.append_assoc]
    exact ih

/-- A string with its closing quote is one token. -/
theorem run_quoted (s : List UInt8) (rest : List Char) :
    (string []).run (asChars (jsonEscape s) ++ '"' :: rest) =
      .string (asText s) :: start.run rest := by
  rw [run_jsonEscape, List.append_nil]
  show Token.string (String.ofList (asChars s).reverse.reverse) :: start.run rest = _
  rw [List.reverse_reverse]
  rfl

end Lexer

/-! ### What needs no escape -/

theorem escapeByte_of_plain {c : UInt8} (h : IsPlain c) : escapeByte c = [c] := by
  obtain ⟨hlow, hquote, hslash⟩ := h
  rw [escapeByte, if_neg hquote, if_neg hslash]
  split_ifs with h1 h2 h3 h4 h5 h6
  · exact absurd hlow (by rw [h1]; decide)
  · exact absurd hlow (by rw [h2]; decide)
  · exact absurd hlow (by rw [h3]; decide)
  · exact absurd hlow (by rw [h4]; decide)
  · exact absurd hlow (by rw [h5]; decide)
  · exact absurd hlow (UInt8.not_le.mpr h6)
  · rfl

/-- What needs no escape is written as it is. -/
theorem jsonEscape_of_plain {s : List UInt8} (h : ∀ c ∈ s, IsPlain c) : jsonEscape s = s := by
  induction s with
  | nil => rfl
  | cons c s ih =>
    obtain ⟨hc, hs⟩ := List.forall_mem_cons.mp h
    rw [jsonEscape, List.flatMap_cons, escapeByte_of_plain hc]
    exact congrArg (c :: ·) (ih hs)

theorem isPlain_digit {c : Char} (h : c.isDigit = true) : IsPlain (byte c) := by
  have hplain : ∀ d < 10, IsPlain (byte (Char.ofNat (48 + d))) := by decide
  obtain ⟨hlow, hhigh⟩ : 48 ≤ c.toNat ∧ c.toNat ≤ 57 := by
    simpa [Char.isDigit, UInt32.le_iff_toNat_le] using h
  have hc := hplain (c.toNat - 48) (by omega)
  rwa [show 48 + (c.toNat - 48) = c.toNat by omega, Char.ofNat_toNat] at hc

/-- A number needs no escape. -/
theorem isPlain_formatDecimal (width : ℕ) (n : ℤ) : ∀ c ∈ formatDecimal width n, IsPlain c := by
  have hzeros : ∀ k, ∀ c ∈ List.replicate k (byte '0'), IsPlain c := by
    intro k c hc
    rw [List.eq_of_mem_replicate hc]
    decide
  have hdigits : ∀ c ∈ (Nat.toDigits 10 n.natAbs).map byte, IsPlain c := by
    intro c hc
    obtain ⟨d, hd, rfl⟩ := List.mem_map.mp hc
    exact isPlain_digit (Nat.isDigit_of_mem_toDigits (by decide) (by decide) hd)
  rw [formatDecimal]
  split_ifs
  · exact List.forall_mem_cons.mpr
      ⟨by decide, List.forall_mem_append.mpr ⟨hzeros _, hdigits⟩⟩
  · exact List.forall_mem_append.mpr ⟨hzeros _, hdigits⟩

/-- A time stamp needs no escape. -/
theorem isPlain_timeStampISO8601 (utc : UtcTime) : ∀ c ∈ timeStampISO8601 utc, IsPlain c := by
  suffices h : ∀ c ∈ _, IsPlain c from fun c hc => h c (List.mem_of_mem_take hc)
  have hnumber := fun width n => eq_true (isPlain_formatDecimal width n)
  simp only [List.forall_mem_append, hnumber, true_and, and_true]
  have hdash : ∀ c ∈ ascii "-", IsPlain c := forall_mem_ascii rfl
  have hcolon : ∀ c ∈ ascii ":", IsPlain c := forall_mem_ascii rfl
  exact ⟨⟨⟨⟨⟨⟨hdash, hdash⟩, forall_mem_ascii rfl⟩, hcolon⟩, hcolon⟩, forall_mem_ascii rfl⟩,
    forall_mem_ascii rfl⟩

/-- The name of a level needs no escape. -/
theorem isPlain_logLevelName (level : LogLevel) : ∀ c ∈ ascii (logLevelName level), IsPlain c := by
  cases level with
  | other value =>
    show ∀ c ∈ ascii "UNKNOWN", IsPlain c
    exact forall_mem_ascii rfl
  | _ => exact forall_mem_ascii rfl

/-! ### The line as the reader sees it -/

/-- A member of the object, as it stands in the line. -/
def memberText (key : String) (value : List UInt8) : List UInt8 :=
  ascii "\"" ++ jsonEscape (ascii key) ++ ascii "\":\"" ++ jsonEscape value ++ ascii "\""

/-- The line without its newline: an object with the members `ts`, `lvl`, `msg` and, with an id,
`correlation_id`. -/
def lineBody (utc : UtcTime) (cid msg : List UInt8) (level : LogLevel) : List UInt8 :=
  ascii "\x7b" ++ (memberText "ts" (timeStampISO8601 utc) ++
    (ascii "," ++ (memberText "lvl" (ascii (logLevelName level)) ++
      (ascii "," ++ (memberText "msg" msg ++
        ((if cid = [] then [] else ascii "," ++ memberText "correlation_id" cid) ++
          ascii "\x7d"))))))

/-- **A line is an object and a newline.** -/
theorem formatJsonLine_eq (utc : UtcTime) (cid msg : List UInt8) (level : LogLevel) :
    formatJsonLine utc cid msg level = lineBody utc cid msg level ++ [byte '\n'] := by
  simp only [formatJsonLine, lineBody, memberText,
    jsonEscape_of_plain (isPlain_timeStampISO8601 utc),
    jsonEscape_of_plain (isPlain_logLevelName level), List.append_assoc]
  rfl

/-- The tokens of a member. -/
theorem Lexer.run_memberText (key : String) (value : List UInt8) (rest : List Char) :
    start.run (asChars (memberText key value) ++ rest) =
      .string (asText (ascii key)) :: .nameSeparator :: .string (asText value) ::
        start.run rest := by
  have hopen : ∀ rest, start.run ('"' :: rest) = (string []).run rest := fun _ => rfl
  have hcolon : ∀ rest, start.run (':' :: '"' :: rest) = .nameSeparator :: (string []).run rest :=
    fun _ => rfl
  simp only [memberText, asChars_append, List.append_assoc]
  show start.run ('"' :: (asChars (jsonEscape (ascii key)) ++
    '"' :: ':' :: '"' :: (asChars (jsonEscape value) ++ '"' :: rest))) = _
  rw [hopen, run_quoted, hcolon, run_quoted]

/-- **The tokens of a line.** -/
theorem tokens_formatJsonLine (utc : UtcTime) (cid msg : List UInt8) (level : LogLevel) :
    tokens (asText (formatJsonLine utc cid msg level)) =
      .beginObject :: .string "ts" :: .nameSeparator :: .string (asText (timeStampISO8601 utc)) ::
      .valueSeparator :: .string "lvl" :: .nameSeparator ::
      .string (asText (ascii (logLevelName level))) ::
      .valueSeparator :: .string "msg" :: .nameSeparator :: .string (asText msg) ::
      ((if cid = [] then []
        else [.valueSeparator, .string "correlation_id", .nameSeparator, .string (asText cid)]) ++
        [.endObject, .endOfInput]) := by
  have hopen : ∀ rest, Lexer.start.run (asChars (ascii "\x7b") ++ rest) =
      .beginObject :: Lexer.start.run rest := fun _ => rfl
  have hcomma : ∀ rest, Lexer.start.run (asChars (ascii ",") ++ rest) =
      .valueSeparator :: Lexer.start.run rest := fun _ => rfl
  have htext : tokens (asText (formatJsonLine utc cid msg level)) =
      Lexer.start.run (asChars (formatJsonLine utc cid msg level)) := by
    rw [tokens, asText, String.toList_ofList]
    rfl
  rw [htext, formatJsonLine_eq, lineBody]
  split_ifs
  · simp only [asChars_append, List.append_assoc, hopen, hcomma, Lexer.run_memberText]
    rfl
  · simp only [asChars_append, List.append_assoc, hopen, hcomma, Lexer.run_memberText]
    rfl

/-- **What the reader answers for a line.** -/
theorem parse_formatJsonLine (utc : UtcTime) (cid msg : List UInt8) (level : LogLevel) :
    parse (asText (formatJsonLine utc cid msg level)) = some (.obj
      ((if cid = [] then [] else [("correlation_id", .str (asText cid))]) ++
        [("lvl", .str (asText (ascii (logLevelName level)))), ("msg", .str (asText msg)),
          ("ts", .str (asText (timeStampISO8601 utc)))])) := by
  rw [parse, tokens_formatJsonLine]
  split_ifs
  · rfl
  · rfl

/-! ### No line can be forged -/

/-- The bytes of a hexadecimal digit need no escape. -/
theorem isPlain_digitChar {d : ℕ} (h : d < 16) : IsPlain (byte d.digitChar) := by
  revert d
  decide

theorem le_of_mem_escapeByte (c : UInt8) : ∀ b ∈ escapeByte c, 0x20 ≤ b := by
  obtain ⟨letter, hletter, hesc, -⟩ | ⟨hlow, hesc⟩ | ⟨hplain, hesc⟩ := escapeByte_cases c
  · rw [hesc]
    rintro b (_ | ⟨_, _ | ⟨_, ⟨⟩⟩⟩)
    · decide
    · exact hletter
  · have hnat : c.toNat < 0x20 := UInt8.lt_iff_toNat_lt.mp hlow
    have hzeros : ∀ b ∈ ascii "\\u00", 0x20 ≤ b := forall_mem_ascii rfl
    have hdigits : ∀ b ∈ [byte (c.toNat / 16).digitChar, byte (c.toNat % 16).digitChar],
        0x20 ≤ b := by
      rintro b (_ | ⟨_, _ | ⟨_, ⟨⟩⟩⟩)
      · exact (isPlain_digitChar (by omega)).1
      · exact (isPlain_digitChar (by omega)).1
    rw [hesc]
    exact List.forall_mem_append.mpr ⟨hzeros, hdigits⟩
  · rw [hesc]
    rintro b (_ | ⟨_, ⟨⟩⟩)
    exact hplain.1

/-- **`JsonEscape` writes no control byte.** -/
theorem le_of_mem_jsonEscape (s : List UInt8) : ∀ b ∈ jsonEscape s, 0x20 ≤ b := by
  intro b hb
  obtain ⟨c, -, hb⟩ := List.mem_flatMap.mp hb
  exact le_of_mem_escapeByte c b hb

/-- A quote that would end a string is among the bytes. A backslash takes the byte after it with
it, and `escaped` says that the byte before is such a backslash. -/
def hasUnescapedQuote : Bool → List UInt8 → Bool
  | _, [] => false
  | true, _ :: rest => hasUnescapedQuote false rest
  | false, c :: rest => c == byte '"' || hasUnescapedQuote (c == byte '\\') rest

theorem hasUnescapedQuote_plain {c : UInt8} (h : IsPlain c) (rest : List UInt8) :
    hasUnescapedQuote false (c :: rest) = hasUnescapedQuote false rest := by
  rw [hasUnescapedQuote, beq_false_of_ne h.2.1, beq_false_of_ne h.2.2, Bool.false_or]

theorem hasUnescapedQuote_escapeByte (c : UInt8) (rest : List UInt8) :
    hasUnescapedQuote false (escapeByte c ++ rest) = hasUnescapedQuote false rest := by
  obtain ⟨letter, -, hesc, -⟩ | ⟨hlow, hesc⟩ | ⟨hplain, hesc⟩ := escapeByte_cases c
  · rw [hesc]
    rfl
  · have hnat : c.toNat < 0x20 := UInt8.lt_iff_toNat_lt.mp hlow
    have hzeros : ∀ rest, hasUnescapedQuote false (ascii "\\u00" ++ rest) =
        hasUnescapedQuote false rest := fun _ => rfl
    rw [hesc, List.append_assoc, hzeros, List.cons_append, List.cons_append, List.nil_append,
      hasUnescapedQuote_plain (isPlain_digitChar (by omega)),
      hasUnescapedQuote_plain (isPlain_digitChar (by omega))]
  · rw [hesc]
    exact hasUnescapedQuote_plain hplain rest

/-- **`JsonEscape` writes no quote that would end the string.** -/
theorem hasUnescapedQuote_jsonEscape (s : List UInt8) :
    hasUnescapedQuote false (jsonEscape s) = false := by
  induction s with
  | nil => rfl
  | cons c s ih =>
    rw [jsonEscape, List.flatMap_cons, hasUnescapedQuote_escapeByte]
    exact ih

/-- **The reader undoes `JsonEscape`.** -/
theorem parse_jsonEscape (s : List UInt8) :
    parse (asText (ascii "\"" ++ jsonEscape s ++ ascii "\"")) = some (.str (asText s)) := by
  have htokens : tokens (asText (ascii "\"" ++ jsonEscape s ++ ascii "\"")) =
      [.string (asText s), .endOfInput] := by
    rw [tokens, asText, String.toList_ofList, asChars_append, asChars_append, List.append_assoc]
    exact Lexer.run_quoted s []
  rw [parse, htokens]
  rfl

/-- There is no control byte before the newline. -/
theorem le_of_mem_lineBody (utc : UtcTime) (cid msg : List UInt8) (level : LogLevel) :
    ∀ b ∈ lineBody utc cid msg level, 0x20 ≤ b := by
  have hmember : ∀ key value, ∀ b ∈ memberText key value, 0x20 ≤ b := by
    intro key value
    simp only [memberText, List.forall_mem_append]
    exact ⟨⟨⟨⟨forall_mem_ascii rfl, le_of_mem_jsonEscape _⟩, forall_mem_ascii rfl⟩,
      le_of_mem_jsonEscape _⟩, forall_mem_ascii rfl⟩
  have hcid : ∀ b ∈ (if cid = [] then [] else ascii "," ++ memberText "correlation_id" cid),
      0x20 ≤ b := by
    split_ifs
    · exact List.forall_mem_nil _
    · exact List.forall_mem_append.mpr ⟨forall_mem_ascii rfl, hmember _ _⟩
  simp only [lineBody, List.forall_mem_append]
  exact ⟨forall_mem_ascii rfl, hmember _ _, forall_mem_ascii rfl, hmember _ _,
    forall_mem_ascii rfl, hmember _ _, hcid, forall_mem_ascii rfl⟩

/-- **A line reports a message under a correlation id**, and nothing else. -/
structure Reports (cid msg line : List UInt8) : Prop where
  /-- The only newline is the last byte. -/
  oneLine : ∃ body, line = body ++ [byte '\n'] ∧ byte '\n' ∉ body
  /-- The line is read as an object. Its `msg` is the message, and its `correlation_id` the id; it
  has no such member when the id is not set. -/
  members : ∃ ms, parse (asText line) = some (.obj ms) ∧
    (Json.obj ms).member? "msg" = some (.str (asText msg)) ∧
    (Json.obj ms).member? "correlation_id" = if cid = [] then none else some (.str (asText cid))

/-- **No log line can be forged**, whatever the bytes of the message and of the id are: the line
reports them, and the text of a string is that of no other one. What `JsonEscape` writes has no
control byte in it and no quote that is not escaped, and a reader of JSON undoes it. -/
theorem formatJsonLine_reports :
    (∀ utc cid msg level, Reports cid msg (formatJsonLine utc cid msg level)) ∧
    (∀ s, parse (asText (ascii "\"" ++ jsonEscape s ++ ascii "\"")) = some (.str (asText s)) ∧
      (∀ b ∈ jsonEscape s, 0x20 ≤ b) ∧ hasUnescapedQuote false (jsonEscape s) = false) ∧
    Function.Injective asText := by
  refine ⟨fun utc cid msg level => ⟨?_, ?_⟩, fun s => ⟨?_, ?_, ?_⟩, asText_injective⟩
  · refine ⟨lineBody utc cid msg level, formatJsonLine_eq utc cid msg level, fun hmem => ?_⟩
    exact absurd (le_of_mem_lineBody utc cid msg level _ hmem) (by decide)
  · refine ⟨_, parse_formatJsonLine utc cid msg level, ?_, ?_⟩
    · split_ifs
      · rfl
      · rfl
    · split_ifs
      · rfl
      · rfl
  · exact parse_jsonEscape s
  · exact le_of_mem_jsonEscape s
  · exact hasUnescapedQuote_jsonEscape s

/-- **An id that is not set is not written**: the line of a message without one has no member
`correlation_id`. -/
theorem not_correlationId_of_empty : ¬ ∀ utc cid msg level,
    ∃ j, parse (asText (formatJsonLine utc cid msg level)) = some j ∧
      j.member? "correlation_id" = some (.str (asText cid)) := by
  intro h
  obtain ⟨j, hj, hcid⟩ := h ⟨126, 0, 1, 0, 0, 0, 0⟩ [] (ascii "started") .info
  rw [parse_formatJsonLine] at hj
  cases hj
  cases hcid

/-! ### The whole log -/

/-- A message with what goes with it. -/
structure LogRecord where
  /-- The clock. -/
  utc : UtcTime
  /-- The correlation id of the thread. -/
  cid : List UInt8
  /-- The message. -/
  msg : List UInt8
  /-- The level. -/
  level : LogLevel

/-- The line of a message. -/
def LogRecord.line (r : LogRecord) : List UInt8 := formatJsonLine r.utc r.cid r.msg r.level

/-- What the messages leave in the log, each with one call of `operator<<`. -/
def writeLog (rs : List LogRecord) : List UInt8 := rs.flatMap LogRecord.line

/-- The line of a message without its newline. -/
def LogRecord.body (r : LogRecord) : List UInt8 := lineBody r.utc r.cid r.msg r.level

/-- The newlines of the log stand between the lines, and after the last one. -/
theorem writeLog_eq_intercalate (rs : List LogRecord) :
    writeLog rs = [byte '\n'].intercalate (rs.map LogRecord.body ++ [[]]) := by
  induction rs with
  | nil => rfl
  | cons r rs ih =>
    rw [List.map_cons, List.cons_append, List.intercalate_cons_of_ne_nil (by simp), ← ih, writeLog,
      List.flatMap_cons, LogRecord.line, formatJsonLine_eq]
    rfl

/-- **The log has one line for each message**, in the order of the messages. -/
theorem splitOn_writeLog (rs : List LogRecord) :
    ((writeLog rs).splitOn (byte '\n')).dropLast.map (· ++ [byte '\n']) =
      rs.map LogRecord.line := by
  have hbodies : ∀ l ∈ rs.map LogRecord.body ++ [[]], byte '\n' ∉ l := by
    intro l hl hmem
    rcases List.mem_append.mp hl with hl | hl
    · obtain ⟨r, -, rfl⟩ := List.mem_map.mp hl
      exact absurd (le_of_mem_lineBody r.utc r.cid r.msg r.level _ hmem) (by decide)
    · rw [List.mem_singleton.mp hl] at hmem
      cases hmem
  have hline : ∀ r : LogRecord, r.body ++ [byte '\n'] = r.line := fun r =>
    (formatJsonLine_eq r.utc r.cid r.msg r.level).symm
  rw [writeLog_eq_intercalate, List.splitOn_intercalate _ hbodies (by simp),
    List.dropLast_concat, List.map_map]
  exact List.map_congr_left fun r _ => hline r

end DetectBase
