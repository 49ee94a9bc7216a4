import DetectBase.Setting.Camera

/-!
# The same key in three styles

`GetStringRegardlessOfCase` is there so that a setting may be spelt in snake_case, camelCase or
PascalCase. An identifier is a list of words (`DetectBase.KeyWord`), and a style says how the first
word and the others are written (`DetectBase.KeyStyle.spell`). `ConvertToCamelCase` and
`ConvertToSnakeCase` get from each style to theirs. `ConvertToPascalCase` does so from snake_case
only: it puts every letter in lower case that is not the first one or behind an underscore, so that
a key in camelCase or PascalCase loses the capitals of its other words (`DetectBase.mergedKey`).

A key in camelCase is then not found in an object that has it in PascalCase, and an object that has
it in snake_case may have the merged key for something else. These are the only cases in which the
spelling of the object is not found (`DetectBase.getStringRegardlessOfCase_iff`).
-/

namespace DetectBase

/-! ### Letters -/

/-- Letters and digits are ASCII characters. -/
theorem exists_ofNat_of_isAlphanum {c : Char} (h : c.isAlphanum = true) :
    ∃ n < 128, Char.ofNat n = c := by
  have hbelow : ∀ {n : UInt32}, n.toNat < 128 → c.val ≤ n → c.toNat < 128 :=
    fun hn hle => Nat.lt_of_le_of_lt (UInt32.le_iff_toNat_le.mp hle) hn
  refine ⟨c.toNat, ?_, Char.ofNat_toNat c⟩
  rcases Bool.or_eq_true_iff.mp h with hletter | hdigit
  · rcases Bool.or_eq_true_iff.mp hletter with hupper | hlower
    · exact hbelow (by decide) (of_decide_eq_true hupper).2
    · exact hbelow (by decide) (of_decide_eq_true (Bool.and_eq_true_iff.mp hlower).2)
  · exact hbelow (by decide) (of_decide_eq_true (Bool.and_eq_true_iff.mp hdigit).2)

/-- A letter or digit in lower case. -/
theorem toLower_spec {c : Char} (h : c.isAlphanum = true) :
    c.toLower ≠ '_' ∧ c.toLower.isUpper = false ∧ c.toLower.toLower = c.toLower := by
  have hdigits : ∀ n < 128, (Char.ofNat n).isAlphanum = true →
      (Char.ofNat n).toLower ≠ '_' ∧ (Char.ofNat n).toLower.isUpper = false ∧
        (Char.ofNat n).toLower.toLower = (Char.ofNat n).toLower := by decide
  obtain ⟨n, hn, rfl⟩ := exists_ofNat_of_isAlphanum h
  exact hdigits n hn h

/-- A letter in its two cases. -/
theorem toUpper_spec {c : Char} (h : c.isAlpha = true) :
    c.toUpper ≠ '_' ∧ c.toUpper.isUpper = true ∧ c.toUpper ≠ c.toLower ∧
      c.toUpper.toLower = c.toLower ∧ c.toLower.toUpper = c.toUpper ∧
      c.toUpper.toUpper = c.toUpper := by
  have hletters : ∀ n < 128, (Char.ofNat n).isAlpha = true →
      (Char.ofNat n).toUpper ≠ '_' ∧ (Char.ofNat n).toUpper.isUpper = true ∧
        (Char.ofNat n).toUpper ≠ (Char.ofNat n).toLower ∧
        (Char.ofNat n).toUpper.toLower = (Char.ofNat n).toLower ∧
        (Char.ofNat n).toLower.toUpper = (Char.ofNat n).toUpper ∧
        (Char.ofNat n).toUpper.toUpper = (Char.ofNat n).toUpper := by decide
  obtain ⟨n, hn, rfl⟩ := exists_ofNat_of_isAlphanum (by rw [Char.isAlphanum, h, Bool.true_or])
  exact hletters n hn h

/-! ### Identifiers -/

/-- A word of an identifier. -/
structure KeyWord where
  /-- The first letter. -/
  first : Char
  /-- The letters and digits after it. -/
  rest : List Char
  /-- A word begins with a letter. -/
  isAlpha_first : first.isAlpha = true
  /-- Letters and digits follow. -/
  isAlphanum_rest : ∀ c ∈ rest, c.isAlphanum = true

namespace KeyWord

/-- The word in lower case. -/
def lower (w : KeyWord) : List Char := w.first.toLower :: w.rest.map Char.toLower

/-- The word with a capital. -/
def capital (w : KeyWord) : List Char := w.first.toUpper :: w.rest.map Char.toLower

theorem isAlphanum_first (w : KeyWord) : w.first.isAlphanum = true := by
  rw [Char.isAlphanum, w.isAlpha_first, Bool.true_or]

/-- What a word is made of after its first letter. -/
theorem rest_spec (w : KeyWord) : ∀ c ∈ w.rest.map Char.toLower,
    c ≠ '_' ∧ c.isUpper = false ∧ c.toLower = c := by
  intro c hc
  obtain ⟨d, hd, rfl⟩ := List.mem_map.mp hc
  exact toLower_spec (w.isAlphanum_rest d hd)

end KeyWord

/-- The styles in which a key may be written. -/
inductive KeyStyle where
  /-- `snake_case`. -/
  | snake : KeyStyle
  /-- `camelCase`. -/
  | camel : KeyStyle
  /-- `PascalCase`. -/
  | pascal : KeyStyle

namespace KeyStyle

/-- How the first word is written. -/
def first : KeyStyle → KeyWord → List Char
  | snake, w => w.lower
  | camel, w => w.lower
  | pascal, w => w.capital

/-- How the other words are written. -/
def next : KeyStyle → KeyWord → List Char
  | snake, w => '_' :: w.lower
  | camel, w => w.capital
  | pascal, w => w.capital

/-- **The identifier made of the words, in a style.** -/
def spell (style : KeyStyle) : List KeyWord → String
  | [] => ""
  | w :: ws => .ofList (style.first w ++ ws.flatMap style.next)

end KeyStyle

/-- What `ConvertToPascalCase` makes of an identifier in camelCase or PascalCase: one word with a
capital. -/
def mergedKey : List KeyWord → String
  | [] => ""
  | w :: ws => .ofList (w.capital ++ ws.flatMap KeyWord.lower)

/-! ### The conversions -/

theorem camelRest_append {cs : List Char} (h : ∀ c ∈ cs, c ≠ '_') (more : List Char) :
    camelRest false (cs ++ more) = cs ++ camelRest false more := by
  induction cs with
  | nil => rfl
  | cons c cs ih =>
    obtain ⟨hc, hcs⟩ := List.forall_mem_cons.mp h
    rw [List.cons_append, camelRest, if_neg hc, ih hcs]
    rfl

theorem pascalRest_append {cs : List Char} (h : ∀ c ∈ cs, c ≠ '_') (more : List Char) :
    pascalRest false (cs ++ more) = cs.map Char.toLower ++ pascalRest false more := by
  induction cs with
  | nil => rfl
  | cons c cs ih =>
    obtain ⟨hc, hcs⟩ := List.forall_mem_cons.mp h
    rw [List.cons_append, pascalRest, if_neg hc, ih hcs]
    rfl

namespace KeyWord

variable (w : KeyWord)

theorem capital_ne : ∀ c ∈ w.capital, c ≠ '_' :=
  List.forall_mem_cons.mpr ⟨(toUpper_spec w.isAlpha_first).1, fun c hc => (w.rest_spec c hc).1⟩

theorem lower_spec : ∀ c ∈ w.lower, c ≠ '_' ∧ c.isUpper = false ∧ c.toLower = c :=
  List.forall_mem_cons.mpr ⟨toLower_spec w.isAlphanum_first, w.rest_spec⟩

theorem lower_ne : ∀ c ∈ w.lower, c ≠ '_' := fun c hc => (w.lower_spec c hc).1

theorem map_toLower_rest : (w.rest.map Char.toLower).map Char.toLower = w.rest.map Char.toLower :=
  (List.map_congr_left fun c hc => (w.rest_spec c hc).2.2).trans (List.map_id _)

theorem map_toLower_capital : w.capital.map Char.toLower = w.lower := by
  rw [capital, List.map_cons, (toUpper_spec w.isAlpha_first).2.2.2.1, map_toLower_rest]
  rfl

end KeyWord

/-- The first word begins with its first letter, in one of its two cases. -/
theorem KeyStyle.first_eq (style : KeyStyle) (w : KeyWord) :
    ∃ c, style.first w = c :: w.rest.map Char.toLower ∧ c ≠ '_' ∧ c.toLower = w.first.toLower ∧
      c.toUpper = w.first.toUpper := by
  obtain ⟨hne, -, -, hlow, hcap, hcap'⟩ := toUpper_spec w.isAlpha_first
  obtain ⟨hne', -, hlow'⟩ := toLower_spec w.isAlphanum_first
  cases style with
  | snake | camel => exact ⟨_, rfl, hne', hlow', hcap⟩
  | pascal => exact ⟨_, rfl, hne, hlow, hcap'⟩

/-- `ConvertToCamelCase` gives each of the other words its capital. -/
theorem camelRest_next (style : KeyStyle) (w : KeyWord) (more : List Char) :
    camelRest false (style.next w ++ more) = w.capital ++ camelRest false more := by
  cases style with
  | snake =>
    obtain ⟨-, -, -, -, hcap, -⟩ := toUpper_spec w.isAlpha_first
    obtain ⟨hne, -⟩ := toLower_spec w.isAlphanum_first
    show camelRest false ('_' :: w.first.toLower :: (w.rest.map Char.toLower ++ more)) = _
    rw [camelRest, if_pos rfl, camelRest, if_neg hne, if_pos rfl, hcap,
      camelRest_append fun c hc => (w.rest_spec c hc).1]
    rfl
  | camel | pascal => exact camelRest_append w.capital_ne more

/-- **`ConvertToCamelCase` gets from each style to camelCase.** -/
theorem convertToCamelCase_spell (style : KeyStyle) (ws : List KeyWord) :
    convertToCamelCase (style.spell ws) = KeyStyle.camel.spell ws := by
  cases ws with
  | nil => rfl
  | cons w ws =>
    have hnext : camelRest false (ws.flatMap style.next) = ws.flatMap KeyWord.capital := by
      induction ws with
      | nil => rfl
      | cons w' ws ih => rw [List.flatMap_cons, camelRest_next, ih, List.flatMap_cons]
    obtain ⟨c, hfirst, hne, hlow, -⟩ := style.first_eq w
    rw [KeyStyle.spell, hfirst, convertToCamelCase, String.toList_ofList, List.cons_append]
    dsimp only
    rw [if_neg hne, camelRest_append fun c hc => (w.rest_spec c hc).1, hnext, hlow]
    rfl

/-- What `ConvertToSnakeCase` makes of a character after the first. -/
def snakeChar (c : Char) : List Char := if c.isUpper then ['_', c.toLower] else [c.toLower]

theorem flatMap_snakeChar {cs : List Char} (h : ∀ c ∈ cs, c.isUpper = false ∧ c.toLower = c) :
    cs.flatMap snakeChar = cs := by
  induction cs with
  | nil => rfl
  | cons c cs ih =>
    obtain ⟨⟨hup, hlow⟩, hcs⟩ := List.forall_mem_cons.mp h
    rw [List.flatMap_cons, ih hcs, snakeChar, hup, hlow]
    rfl

/-- `ConvertToSnakeCase` puts an underscore before each of the other words. -/
theorem flatMap_snakeChar_next (style : KeyStyle) (w : KeyWord) :
    (style.next w).flatMap snakeChar = '_' :: w.lower := by
  obtain ⟨-, hup, -, hlow, -⟩ := toUpper_spec w.isAlpha_first
  cases style with
  | snake =>
    rw [KeyStyle.next, List.flatMap_cons, flatMap_snakeChar fun c hc => (w.lower_spec c hc).2]
    rfl
  | camel | pascal =>
    rw [KeyStyle.next, KeyWord.capital, List.flatMap_cons,
      flatMap_snakeChar fun c hc => (w.rest_spec c hc).2, snakeChar, hup, hlow]
    rfl

/-- **`ConvertToSnakeCase` gets from each style to snake_case.** -/
theorem convertToSnakeCase_spell (style : KeyStyle) (ws : List KeyWord) :
    convertToSnakeCase (style.spell ws) = KeyStyle.snake.spell ws := by
  cases ws with
  | nil => rfl
  | cons w ws =>
    have hnext : (ws.flatMap style.next).flatMap snakeChar = ws.flatMap KeyStyle.snake.next := by
      rw [List.flatMap_assoc]
      exact congrArg (List.flatMap · ws) (funext (flatMap_snakeChar_next style))
    obtain ⟨c, hfirst, -, hlow, -⟩ := style.first_eq w
    rw [KeyStyle.spell, hfirst, convertToSnakeCase, String.toList_ofList, List.cons_append]
    show String.ofList (c.toLower ::
      (w.rest.map Char.toLower ++ ws.flatMap style.next).flatMap snakeChar) = _
    rw [List.flatMap_append, flatMap_snakeChar fun c hc => (w.rest_spec c hc).2, hnext, hlow]
    rfl

/-- The first word has its capital in PascalCase. -/
theorem pascalRest_first (style : KeyStyle) (w : KeyWord) (more : List Char) :
    pascalRest true (style.first w ++ more) = w.capital ++ pascalRest false more := by
  obtain ⟨c, hfirst, hne, -, hcap⟩ := style.first_eq w
  rw [hfirst, List.cons_append, pascalRest, if_neg hne, if_pos rfl, hcap,
    pascalRest_append fun c hc => (w.rest_spec c hc).1, w.map_toLower_rest]
  rfl

/-- **`ConvertToPascalCase` gets from snake_case to PascalCase.** -/
theorem convertToPascalCase_spell_snake (ws : List KeyWord) :
    convertToPascalCase (KeyStyle.snake.spell ws) = KeyStyle.pascal.spell ws := by
  cases ws with
  | nil => rfl
  | cons w ws =>
    have hnext :
        pascalRest false (ws.flatMap KeyStyle.snake.next) = ws.flatMap KeyWord.capital := by
      induction ws with
      | nil => rfl
      | cons w' ws ih =>
        have hword := pascalRest_first .snake w' (ws.flatMap KeyStyle.snake.next)
        rw [ih] at hword
        exact hword
    rw [KeyStyle.spell, convertToPascalCase, String.toList_ofList, pascalRest_first, hnext]
    rfl

/-- **From the other styles it gets to the merged key.** -/
theorem convertToPascalCase_spell {style : KeyStyle} (h : style ≠ .snake) (ws : List KeyWord) :
    convertToPascalCase (style.spell ws) = mergedKey ws := by
  cases ws with
  | nil => rfl
  | cons w ws =>
    have hstyle : style.next = KeyWord.capital := by
      cases style with
      | snake => exact absurd rfl h
      | camel | pascal => rfl
    have hnext : pascalRest false (ws.flatMap style.next) = ws.flatMap KeyWord.lower := by
      rw [hstyle]
      induction ws with
      | nil => rfl
      | cons w' ws ih =>
        rw [List.flatMap_cons, pascalRest_append w'.capital_ne, w'.map_toLower_capital, ih]
        rfl
    rw [KeyStyle.spell, convertToPascalCase, String.toList_ofList, pascalRest_first, hnext]
    rfl

/-! ### The spellings differ -/

/-- Only snake_case has underscores, where there are two words. -/
theorem underscore_mem_spell_snake {ws : List KeyWord} (h : 2 ≤ ws.length) :
    '_' ∈ (KeyStyle.snake.spell ws).toList := by
  match ws, h with
  | w :: w' :: ws, _ =>
    rw [KeyStyle.spell, String.toList_ofList, List.flatMap_cons]
    exact List.mem_append_right _ (List.mem_append_left _ List.mem_cons_self)

/-- Words without underscores make an identifier without. -/
theorem underscore_notMem_ofList {f g : KeyWord → List Char} (hf : ∀ w, ∀ c ∈ f w, c ≠ '_')
    (hg : ∀ w, ∀ c ∈ g w, c ≠ '_') (w : KeyWord) (ws : List KeyWord) :
    '_' ∉ (String.ofList (f w ++ ws.flatMap g)).toList := by
  rw [String.toList_ofList]
  intro hmem
  obtain hmem | hmem := List.mem_append.mp hmem
  · exact hf w _ hmem rfl
  · obtain ⟨w', -, hmem⟩ := List.mem_flatMap.mp hmem
    exact hg w' _ hmem rfl

theorem underscore_notMem_spell {style : KeyStyle} (h : style ≠ .snake) (ws : List KeyWord) :
    '_' ∉ (style.spell ws).toList := by
  match style, ws with
  | .snake, _ => exact absurd rfl h
  | .camel, [] | .pascal, [] => decide
  | .camel, w :: ws => exact underscore_notMem_ofList KeyWord.lower_ne KeyWord.capital_ne w ws
  | .pascal, w :: ws => exact underscore_notMem_ofList KeyWord.capital_ne KeyWord.capital_ne w ws

theorem underscore_notMem_mergedKey (ws : List KeyWord) : '_' ∉ (mergedKey ws).toList := by
  match ws with
  | [] => decide
  | w :: ws => exact underscore_notMem_ofList KeyWord.capital_ne KeyWord.lower_ne w ws

/-- A key without underscores is not the spelling in snake_case of two words. -/
theorem ne_spell_snake {ws : List KeyWord} (htwo : 2 ≤ ws.length) {key : String}
    (hkey : '_' ∉ key.toList) : key ≠ KeyStyle.snake.spell ws := by
  rintro rfl
  exact hkey (underscore_mem_spell_snake htwo)

theorem spell_ne_snake {style : KeyStyle} (h : style ≠ .snake) {ws : List KeyWord}
    (htwo : 2 ≤ ws.length) : style.spell ws ≠ KeyStyle.snake.spell ws :=
  ne_spell_snake htwo (underscore_notMem_spell h ws)

theorem mergedKey_ne_snake {ws : List KeyWord} (htwo : 2 ≤ ws.length) :
    mergedKey ws ≠ KeyStyle.snake.spell ws :=
  ne_spell_snake htwo (underscore_notMem_mergedKey ws)

/-- The first letter tells camelCase from PascalCase. -/
theorem spell_camel_ne_pascal {ws : List KeyWord} (h : ws ≠ []) :
    KeyStyle.camel.spell ws ≠ KeyStyle.pascal.spell ws := by
  cases ws with
  | nil => exact absurd rfl h
  | cons w ws =>
    intro heq
    have hlist := String.ofList_injective heq
    obtain ⟨-, -, hne, -⟩ := toUpper_spec w.isAlpha_first
    exact hne (List.cons.inj hlist).1.symm

/-- The first letter of the second word tells PascalCase from the merged key. -/
theorem mergedKey_ne_pascal {ws : List KeyWord} (h : 2 ≤ ws.length) :
    mergedKey ws ≠ KeyStyle.pascal.spell ws := by
  match ws, h with
  | w :: w' :: ws, _ =>
    intro heq
    have hlist := List.append_cancel_left (String.ofList_injective heq)
    obtain ⟨-, -, hne, -⟩ := toUpper_spec w'.isAlpha_first
    exact hne (List.cons.inj hlist).1.symm

/-! ### The lookup -/

/-- **The object has the identifier in one style**: what else it has is not another spelling of
it. -/
structure SpeltIn (j : Json) (o : KeyStyle) (ws : List KeyWord) : Prop where
  /-- The spelling is a key of the object. -/
  contains : j.contains (o.spell ws) = true
  /-- No other spelling is. -/
  only : ∀ style, j.contains (KeyStyle.spell style ws) = true → style.spell ws = o.spell ws

/-- **The capitals are lost**: the key has to get from camelCase to PascalCase, or the merged key is
tried before snake_case, and is a key of the object. -/
def LosesCapitals (j : Json) (k o : KeyStyle) (ws : List KeyWord) : Prop :=
  2 ≤ ws.length ∧ ((k = .camel ∧ o = .pascal) ∨
    (k ≠ .snake ∧ o = .snake ∧ j.contains (mergedKey ws) = true))

/-- The third spelling that is tried. -/
def thirdKey (k : KeyStyle) (ws : List KeyWord) : String :=
  match k with
  | .snake => KeyStyle.pascal.spell ws
  | .camel | .pascal => mergedKey ws

/-- **The four spellings that are tried.** -/
theorem getStringRegardlessOfCase_spell (j : Json) (k : KeyStyle) (ws : List KeyWord) :
    getStringRegardlessOfCase j (k.spell ws) =
      ([k.spell ws, KeyStyle.camel.spell ws, thirdKey k ws, KeyStyle.snake.spell ws].find?
        j.contains).getD (k.spell ws) := by
  have hthird : convertToPascalCase (k.spell ws) = thirdKey k ws := by
    cases k with
    | snake => exact convertToPascalCase_spell_snake ws
    | camel | pascal => exact convertToPascalCase_spell (by simp) ws
  rw [getStringRegardlessOfCase, convertToCamelCase_spell, convertToSnakeCase_spell, hthird]

/-- When the spelling of the object is among those that are tried, and only spellings are tried, it
is found. -/
theorem SpeltIn.find? {j : Json} {o : KeyStyle} {ws : List KeyWord} (h : SpeltIn j o ws)
    {keys : List String} (hmem : o.spell ws ∈ keys)
    (hkeys : ∀ key ∈ keys, ∃ style, KeyStyle.spell style ws = key) :
    keys.find? j.contains = some (o.spell ws) := by
  have hsome : (keys.find? j.contains).isSome := List.find?_isSome.mpr ⟨_, hmem, h.contains⟩
  obtain ⟨key, hkey⟩ := Option.isSome_iff_exists.mp hsome
  obtain ⟨style, rfl⟩ := hkeys key (List.mem_of_find?_eq_some hkey)
  rw [hkey, h.only style (List.find?_some hkey)]

/-- The answer is the key, or one of the spellings that are tried. -/
theorem getD_find?_mem {keys : List String} {p : String → Bool} {key : String} :
    (keys.find? p).getD key ∈ key :: keys := by
  cases hfind : keys.find? p with
  | none => exact List.mem_cons_self
  | some found => exact List.mem_cons_of_mem _ (List.mem_of_find?_eq_some hfind)

section Lookup

variable {j : Json} {k o : KeyStyle} {ws : List KeyWord}

/-- Where the third spelling is that of PascalCase, the spelling of the object is found. -/
theorem SpeltIn.found_of_thirdKey (h : SpeltIn j o ws)
    (hthird : thirdKey k ws = KeyStyle.pascal.spell ws) :
    getStringRegardlessOfCase j (k.spell ws) = o.spell ws := by
  rw [getStringRegardlessOfCase_spell, hthird, h.find? ?_ ?_]
  · rfl
  · cases o with
    | snake | camel | pascal => simp
  · intro key hkey
    simp only [List.mem_cons, List.not_mem_nil, or_false] at hkey
    obtain rfl | rfl | rfl | rfl := hkey
    exacts [⟨k, rfl⟩, ⟨.camel, rfl⟩, ⟨.pascal, rfl⟩, ⟨.snake, rfl⟩]

/-- A spelling that is that of the key, or camelCase, is found before the third is tried. -/
theorem SpeltIn.found_early (h : SpeltIn j o ws) (ho : o = k ∨ o = .camel) :
    getStringRegardlessOfCase j (k.spell ws) = o.spell ws := by
  have hearly : [k.spell ws, KeyStyle.camel.spell ws].find? j.contains = some (o.spell ws) := by
    refine h.find? ?_ ?_
    · obtain rfl | rfl := ho
      · exact List.mem_cons_self
      · exact List.mem_cons_of_mem _ List.mem_cons_self
    · intro key hkey
      simp only [List.mem_cons, List.not_mem_nil, or_false] at hkey
      obtain rfl | rfl := hkey
      exacts [⟨k, rfl⟩, ⟨.camel, rfl⟩]
  rw [getStringRegardlessOfCase_spell]
  show (([k.spell ws, KeyStyle.camel.spell ws] ++ [thirdKey k ws, KeyStyle.snake.spell ws]).find?
    j.contains).getD _ = _
  rw [List.find?_append, hearly]
  rfl

/-- From camelCase to PascalCase, the spelling of the object is not tried. -/
theorem not_found_pascal (j : Json) (htwo : 2 ≤ ws.length) :
    getStringRegardlessOfCase j (KeyStyle.camel.spell ws) ≠ KeyStyle.pascal.spell ws := by
  have hne : ws ≠ [] := by
    rintro rfl
    simp at htwo
  intro heq
  rw [getStringRegardlessOfCase_spell] at heq
  have hmem : KeyStyle.pascal.spell ws ∈ KeyStyle.camel.spell ws :: [KeyStyle.camel.spell ws,
      KeyStyle.camel.spell ws, thirdKey .camel ws, KeyStyle.snake.spell ws] :=
    heq ▸ getD_find?_mem
  simp only [List.mem_cons, List.not_mem_nil, or_false] at hmem
  obtain hmem | hmem | hmem | hmem | hmem := hmem
  · exact spell_camel_ne_pascal hne hmem.symm
  · exact spell_camel_ne_pascal hne hmem.symm
  · exact spell_camel_ne_pascal hne hmem.symm
  · exact mergedKey_ne_pascal htwo hmem.symm
  · exact spell_ne_snake (by simp) htwo hmem

/-- Before snake_case, the merged key is tried. -/
theorem SpeltIn.found_snake_iff (h : SpeltIn j .snake ws) (hk : k ≠ .snake)
    (htwo : 2 ≤ ws.length) :
    getStringRegardlessOfCase j (k.spell ws) = KeyStyle.snake.spell ws ↔
      ¬ j.contains (mergedKey ws) = true := by
  have hthird : thirdKey k ws = mergedKey ws := by
    cases k with
    | snake => exact absurd rfl hk
    | camel | pascal => rfl
  have hnot : ∀ {style : KeyStyle}, style ≠ .snake → j.contains (style.spell ws) = false := by
    intro style hstyle
    refine Bool.eq_false_iff.mpr fun hcontains => ?_
    exact spell_ne_snake hstyle htwo (h.only style hcontains)
  rw [getStringRegardlessOfCase_spell, hthird, List.find?_cons_of_neg (by simp [hnot hk]),
    List.find?_cons_of_neg (by simp [hnot])]
  cases hmerged : j.contains (mergedKey ws) with
  | true =>
    rw [List.find?_cons_of_pos hmerged]
    exact iff_of_false (mergedKey_ne_snake htwo) (by simp)
  | false =>
    rw [List.find?_cons_of_neg (by simp [hmerged]), List.find?_cons_of_pos h.contains]
    exact iff_of_true rfl (by simp)

/-- **The spelling of the object is found unless the capitals are lost.** -/
theorem getStringRegardlessOfCase_iff (hws : ws ≠ []) (h : SpeltIn j o ws) :
    getStringRegardlessOfCase j (k.spell ws) = o.spell ws ↔ ¬ LosesCapitals j k o ws := by
  by_cases htwo : 2 ≤ ws.length
  · rw [LosesCapitals, and_iff_right htwo]
    cases k with
    | snake =>
      refine iff_of_true (h.found_of_thirdKey rfl) ?_
      simp
    | camel =>
      cases o with
      | snake =>
        rw [h.found_snake_iff (by simp) htwo]
        simp
      | camel => exact iff_of_true (h.found_early (.inl rfl)) (by simp)
      | pascal => exact iff_of_false (not_found_pascal j htwo) (by simp)
    | pascal =>
      cases o with
      | snake =>
        rw [h.found_snake_iff (by simp) htwo]
        simp
      | camel => exact iff_of_true (h.found_early (.inr rfl)) (by simp)
      | pascal => exact iff_of_true (h.found_early (.inl rfl)) (by simp)
  · -- a single word has no other capitals
    obtain ⟨w, rfl⟩ : ∃ w, ws = [w] := by
      match ws, hws, htwo with
      | [w], _, _ => exact ⟨w, rfl⟩
      | [], hws, _ => exact absurd rfl hws
      | _ :: _ :: ws, _, htwo => exact absurd (by simp) htwo
    have hthird : thirdKey k [w] = KeyStyle.pascal.spell [w] := by
      cases k with
      | snake | camel | pascal => rfl
    exact iff_of_true (h.found_of_thirdKey hthird) fun hlost => htwo hlost.1

end Lookup

/-- The word `foo`. -/
def wordFoo : KeyWord := ⟨'f', ['o', 'o'], rfl, List.all_eq_true.mp rfl⟩

/-- The word `bar`. -/
def wordBar : KeyWord := ⟨'b', ['a', 'r'], rfl, List.all_eq_true.mp rfl⟩

/-- A key in snake_case is found in an object that has it in PascalCase. -/
theorem getStringRegardlessOfCase_fooBar :
    getStringRegardlessOfCase (.obj [("FooBar", .int 1)]) "foo_bar" = "FooBar" := by
  have hspelt : SpeltIn (.obj [("FooBar", .int 1)]) .pascal [wordFoo, wordBar] := by
    refine ⟨by decide, ?_⟩
    rintro (_ | _ | _)
    · decide
    · decide
    · decide
  have hkeeps : ¬ LosesCapitals (.obj [("FooBar", .int 1)]) .snake .pascal [wordFoo, wordBar] := by
    rintro ⟨-, ⟨⟨⟩, -⟩ | ⟨hne, -⟩⟩
    exact hne rfl
  exact (getStringRegardlessOfCase_iff (by simp) hspelt).mpr hkeeps

/-- **A key in camelCase is not found in an object that has it in PascalCase.** -/
theorem not_getStringRegardlessOfCase : ¬ ∀ (j : Json) (k o : KeyStyle) (ws : List KeyWord),
    ws ≠ [] → SpeltIn j o ws → getStringRegardlessOfCase j (k.spell ws) = o.spell ws := by
  intro h
  have hfound := h (.obj [("FooBar", .int 1)]) .camel .pascal [wordFoo, wordBar] (by simp) (by
    refine ⟨by decide, ?_⟩
    rintro (_ | _ | _)
    · decide
    · decide
    · decide)
  revert hfound
  decide

end DetectBase
