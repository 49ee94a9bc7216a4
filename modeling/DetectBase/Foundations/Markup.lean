import Mathlib.Data.List.Basic
import Mathlib.Data.String.Basic

/-!
# Marked-up texts

A reader for XML documents that have a declaration, elements with attributes, and character data,
but no references, comments or sections. It goes over the characters from the left with the open
elements on a stack, so that what it has read of a part of a document does not depend on what comes
behind it.

`DetectBase.Markup.Writes` says of a text that it stands for some nodes, wherever it stands within
an element. The rules for it follow the grammar: rows of nodes (`Writes.append`), elements with
content (`Writes.element`), with characters (`Writes.leaf`) and without either (`Writes.empty`).
A text of one element with a declaration in front of it is read as that element
(`DetectBase.Markup.read_document`).
-/

namespace DetectBase.Markup

/-! ### Documents -/

/-- What is between two tags. -/
inductive Node where
  /-- An element with its attributes and its content. -/
  | element (name : String) (attributes : List (String × String)) (children : List Node) : Node
  /-- Characters. -/
  | text (content : String) : Node

/-- A name may begin with the character. -/
def isNameStart (c : Char) : Bool := c.isAlpha || c == ':' || c == '_'

/-- The character may stand in a name. -/
def isNameChar (c : Char) : Bool := isNameStart c || c.isDigit || c == '-' || c == '.'

/-! ### The reader -/

/-- Where the reader stands. -/
inductive Mode where
  /-- Between two tags, with the characters read there. -/
  | content (read : List Char) : Mode
  /-- Behind `<`. -/
  | less : Mode
  /-- In a declaration, behind a `?` or not. -/
  | declaration (question : Bool) : Mode
  /-- In the name of a start tag. -/
  | name (read : List Char) : Mode
  /-- In a start tag, behind a blank or not. -/
  | tag (name : String) (attributes : List (String × String)) (blank : Bool) : Mode
  /-- In the name of an attribute. -/
  | key (name : String) (attributes : List (String × String)) (read : List Char) : Mode
  /-- Behind the `=` of an attribute. -/
  | equals (name : String) (attributes : List (String × String)) (key : String) : Mode
  /-- In the value of an attribute. -/
  | value (name : String) (attributes : List (String × String)) (key : String)
      (read : List Char) : Mode
  /-- Behind the `/` of a tag without content. -/
  | slash (name : String) (attributes : List (String × String)) : Mode
  /-- In an end tag. -/
  | closing (read : List Char) : Mode

/-- An element that is still open: its tag, and the nodes in front of it. -/
structure Frame where
  /-- Its name. -/
  name : String
  /-- Its attributes. -/
  attributes : List (String × String)
  /-- The nodes in front of it. -/
  before : List Node

/-- The state of the reader. -/
structure Reader where
  /-- Where it stands. -/
  mode : Mode
  /-- The open elements, the innermost first. -/
  frames : List Frame
  /-- What has been read of the content of the innermost one. -/
  nodes : List Node

/-- A start tag goes on behind its name or an attribute. -/
def Reader.tag (r : Reader) (name : String) (attributes : List (String × String)) (blank : Bool)
    (c : Char) : Option Reader :=
  if c = ' ' then some { r with mode := .tag name attributes true }
  else if c = '/' then some { r with mode := .slash name attributes }
  else if c = '>' then
    some ⟨.content [], ⟨name, attributes, r.nodes⟩ :: r.frames, []⟩
  else if blank = true ∧ isNameStart c = true then
    some { r with mode := .key name attributes [c] }
  else none

/-- **The reader takes a character.** -/
def Reader.step (r : Reader) (c : Char) : Option Reader :=
  match r.mode with
  | .content read =>
    if c = '<' then
      some ⟨.less, r.frames, if read = [] then r.nodes else r.nodes ++ [.text (.ofList read)]⟩
    else if c = '&' then none
    else some { r with mode := .content (read ++ [c]) }
  | .less =>
    if c = '/' then some { r with mode := .closing [] }
    else if c = '?' ∧ r.frames.isEmpty = true ∧ r.nodes.isEmpty = true then
      some { r with mode := .declaration false }
    else if isNameStart c = true then some { r with mode := .name [c] }
    else none
  | .declaration question =>
    if question = true ∧ c = '>' then some { r with mode := .content [] }
    else some { r with mode := .declaration (c == '?') }
  | .name read =>
    if isNameChar c = true then some { r with mode := .name (read ++ [c]) }
    else r.tag (.ofList read) [] false c
  | .tag name attributes blank => r.tag name attributes blank c
  | .key name attributes read =>
    if c = '=' then
      -- an attribute is given once
      if .ofList read ∈ attributes.map Prod.fst then none
      else some { r with mode := .equals name attributes (.ofList read) }
    else if isNameChar c = true then some { r with mode := .key name attributes (read ++ [c]) }
    else none
  | .equals name attributes key =>
    if c = '"' then some { r with mode := .value name attributes key [] } else none
  | .value name attributes key read =>
    if c = '"' then
      some { r with mode := .tag name (attributes ++ [(key, .ofList read)]) false }
    else if c = '<' ∨ c = '&' then none
    else some { r with mode := .value name attributes key (read ++ [c]) }
  | .slash name attributes =>
    if c = '>' then
      some { r with mode := .content [], nodes := r.nodes ++ [.element name attributes []] }
    else none
  | .closing read =>
    if c = '>' then
      match r.frames with
      | frame :: frames =>
        if frame.name = .ofList read then
          some ⟨.content [], frames,
            frame.before ++ [.element frame.name frame.attributes r.nodes]⟩
        else none
      | [] => none
    else some { r with mode := .closing (read ++ [c]) }

/-- The reader takes a text. -/
def Reader.run (r : Reader) (t : List Char) : Option Reader := t.foldlM Reader.step r

/-- **The element of a document.** -/
def read (t : String) : Option Node :=
  match Reader.run ⟨.content [], [], []⟩ t.toList with
  | some ⟨.content [], [], [.element name attributes children]⟩ =>
    some (.element name attributes children)
  | _ => none

/-! ### The writer -/

/-- An attribute in a tag. -/
def attributeText (a : String × String) : List Char :=
  ' ' :: a.1.toList ++ '=' :: '"' :: a.2.toList ++ ['"']

/-- A tag up to its end. -/
def tagText (name : String) (attributes : List (String × String)) : List Char :=
  '<' :: name.toList ++ attributes.flatMap attributeText

/-- `<name ...>`. -/
def startTag (name : String) (attributes : List (String × String)) : List Char :=
  tagText name attributes ++ ['>']

/-- `<name ... />`. -/
def emptyTag (name : String) (attributes : List (String × String)) : List Char :=
  tagText name attributes ++ [' ', '/', '>']

/-- `</name>`. -/
def endTag (name : String) : List Char := '<' :: '/' :: name.toList ++ ['>']

/-- `<?...?>`. -/
def declarationText (body : List Char) : List Char := '<' :: '?' :: body ++ ['?', '>']

/-- A name. -/
def IsName (s : String) : Prop :=
  (∃ c ∈ s.toList.head?, isNameStart c = true) ∧ ∀ c ∈ s.toList.tail, isNameChar c = true

/-- A text that may stand between quotation marks as it is. -/
def IsValue (s : String) : Prop := ∀ c ∈ s.toList, c ≠ '"' ∧ c ≠ '<' ∧ c ≠ '&'

/-- A text that may stand between two tags as it is. -/
def IsText (s : String) : Prop := s.toList ≠ [] ∧ ∀ c ∈ s.toList, c ≠ '<' ∧ c ≠ '&'

-- a quantifier over characters can be decided over all of them, too: the instances are named here
instance (s : String) : Decidable (IsName s) :=
  @instDecidableAnd _ _ (Option.decidableExistsMem _) (List.decidableBAll _ _)

instance (s : String) : Decidable (IsValue s) := List.decidableBAll _ _

instance (s : String) : Decidable (IsText s) :=
  @instDecidableAnd _ _ (@instDecidableNot _ (instDecidableEqList _ _)) (List.decidableBAll _ _)

theorem IsName.exists_cons {s : String} (h : IsName s) :
    ∃ c cs, s.toList = c :: cs ∧ isNameStart c = true ∧ ∀ c' ∈ cs, isNameChar c' = true := by
  obtain ⟨⟨c, hc, hstart⟩, hrest⟩ := h
  rcases hlist : s.toList with _ | ⟨c', cs⟩
  · rw [hlist] at hc
    cases hc
  · rw [hlist] at hc hrest
    cases hc
    exact ⟨c, cs, rfl, hstart, hrest⟩

/-- Attributes that may stand in a tag. -/
structure IsAttributes (attributes : List (String × String)) : Prop where
  /-- Their names. -/
  names : ∀ a ∈ attributes, IsName a.1
  /-- Their values. -/
  values : ∀ a ∈ attributes, IsValue a.2
  /-- Each is given once. -/
  nodup : (attributes.map Prod.fst).Nodup

theorem IsAttributes.nil : IsAttributes [] :=
  ⟨fun _ h => absurd h List.not_mem_nil, fun _ h => absurd h List.not_mem_nil, List.nodup_nil⟩

theorem IsAttributes.cons {key value : String} {attributes : List (String × String)}
    (hkey : IsName key) (hvalue : IsValue value) (hnew : key ∉ attributes.map Prod.fst)
    (h : IsAttributes attributes) : IsAttributes ((key, value) :: attributes) where
  names := List.forall_mem_cons.mpr ⟨hkey, h.names⟩
  values := List.forall_mem_cons.mpr ⟨hvalue, h.values⟩
  nodup := List.nodup_cons.mpr ⟨hnew, h.nodup⟩

/-! ### The way to a node -/

/-- The first element within a node that has the name. -/
def child (name : String) : Node → Option Node
  | .element _ _ children => children.find? fun
    | .element name' _ _ => name' == name
    | .text _ => false
  | .text _ => none

/-- The node at the end of a path. -/
def path : List String → Node → Option Node
  | [], n => some n
  | name :: names, n => (child name n).bind (path names)

/-- An attribute of a node. -/
def attributeOf (key : String) : Node → Option String
  | .element _ attributes _ => attributes.lookup key
  | .text _ => none

/-- The characters of an element. -/
def characters : Node → Option String
  | .element _ _ [.text t] => some t
  | _ => none

namespace Reader

theorem run_append (r : Reader) (s t : List Char) :
    r.run (s ++ t) = (r.run s).bind fun r' => r'.run t := by
  rw [run, List.foldlM_append]
  rfl

theorem run_cons (r : Reader) (c : Char) (t : List Char) :
    r.run (c :: t) = (r.step c).bind fun r' => r'.run t := by
  rw [run, List.foldlM_cons]
  rfl

variable {frames : List Frame} {nodes : List Node}

/-! ### Rows of characters of one kind -/

theorem ne_equals_of_isNameChar {c : Char} (h : isNameChar c = true) : c ≠ '=' := by
  rintro rfl
  revert h
  decide

theorem run_name {t : List Char} (h : ∀ c ∈ t, isNameChar c = true) (read : List Char) :
    run ⟨.name read, frames, nodes⟩ t = some ⟨.name (read ++ t), frames, nodes⟩ := by
  induction t generalizing read with
  | nil =>
    rw [List.append_nil]
    rfl
  | cons c t ih =>
    have hc : isNameChar c = true := h c List.mem_cons_self
    rw [run_cons, step]
    simp only [hc, if_true, Option.bind_some]
    rw [ih (fun c' hc' => h c' (List.mem_cons_of_mem _ hc')), List.append_assoc,
      List.singleton_append]

theorem run_key {t : List Char} (h : ∀ c ∈ t, isNameChar c = true) (name : String)
    (attributes : List (String × String)) (read : List Char) :
    run ⟨.key name attributes read, frames, nodes⟩ t =
      some ⟨.key name attributes (read ++ t), frames, nodes⟩ := by
  induction t generalizing read with
  | nil =>
    rw [List.append_nil]
    rfl
  | cons c t ih =>
    have hc : isNameChar c = true := h c List.mem_cons_self
    rw [run_cons, step]
    simp only [hc, if_true, if_neg (ne_equals_of_isNameChar hc), Option.bind_some]
    rw [ih (fun c' hc' => h c' (List.mem_cons_of_mem _ hc')), List.append_assoc,
      List.singleton_append]

theorem run_value {t : List Char} (h : ∀ c ∈ t, c ≠ '"' ∧ c ≠ '<' ∧ c ≠ '&') (name : String)
    (attributes : List (String × String)) (key : String) (read : List Char) :
    run ⟨.value name attributes key read, frames, nodes⟩ t =
      some ⟨.value name attributes key (read ++ t), frames, nodes⟩ := by
  induction t generalizing read with
  | nil =>
    rw [List.append_nil]
    rfl
  | cons c t ih =>
    obtain ⟨hquote, hless, hamp⟩ := h c List.mem_cons_self
    rw [run_cons, step]
    simp only [if_neg hquote, hless, hamp, or_self, if_false, Option.bind_some]
    rw [ih (fun c' hc' => h c' (List.mem_cons_of_mem _ hc')), List.append_assoc,
      List.singleton_append]

theorem run_content {t : List Char} (h : ∀ c ∈ t, c ≠ '<' ∧ c ≠ '&') (read : List Char) :
    run ⟨.content read, frames, nodes⟩ t = some ⟨.content (read ++ t), frames, nodes⟩ := by
  induction t generalizing read with
  | nil =>
    rw [List.append_nil]
    rfl
  | cons c t ih =>
    obtain ⟨hless, hamp⟩ := h c List.mem_cons_self
    rw [run_cons, step]
    simp only [if_neg hless, if_neg hamp, Option.bind_some]
    rw [ih (fun c' hc' => h c' (List.mem_cons_of_mem _ hc')), List.append_assoc,
      List.singleton_append]

theorem run_closing {t : List Char} (h : ∀ c ∈ t, c ≠ '>') (read : List Char) :
    run ⟨.closing read, frames, nodes⟩ t = some ⟨.closing (read ++ t), frames, nodes⟩ := by
  induction t generalizing read with
  | nil =>
    rw [List.append_nil]
    rfl
  | cons c t ih =>
    rw [run_cons, step]
    simp only [if_neg (h c List.mem_cons_self), Option.bind_some]
    rw [ih (fun c' hc' => h c' (List.mem_cons_of_mem _ hc')), List.append_assoc,
      List.singleton_append]

theorem run_declaration {t : List Char} (h : ∀ c ∈ t, c ≠ '?') :
    run ⟨.declaration false, frames, nodes⟩ t = some ⟨.declaration false, frames, nodes⟩ := by
  induction t with
  | nil => rfl
  | cons c t ih =>
    have hc : (c == '?') = false := beq_eq_false_iff_ne.mpr (h c List.mem_cons_self)
    rw [run_cons, step]
    simp only [Bool.false_eq_true, false_and, if_false, hc, Option.bind_some]
    exact ih fun c' hc' => h c' (List.mem_cons_of_mem _ hc')

/-! ### Tags -/

/-- Behind the name of a tag the reader goes on as behind an attribute. -/
theorem run_name_cons {c : Char} (hc : isNameChar c = false) (name : String) (t : List Char) :
    run ⟨.name name.toList, frames, nodes⟩ (c :: t) =
      run ⟨.tag name [] false, frames, nodes⟩ (c :: t) := by
  rw [run_cons, run_cons, step, step]
  simp only [hc, Bool.false_eq_true, if_false, String.ofList_toList]
  rfl

/-- The reader takes an attribute. -/
theorem run_attribute {a : String × String} (hname : IsName a.1) (hvalue : IsValue a.2)
    (name : String) {attributes : List (String × String)} (hnew : a.1 ∉ attributes.map Prod.fst) :
    run ⟨.tag name attributes false, frames, nodes⟩ (attributeText a) =
      some ⟨.tag name (attributes ++ [a]) false, frames, nodes⟩ := by
  obtain ⟨c, cs, hlist, hstart, hrest⟩ := hname.exists_cons
  have hblank : c ≠ ' ' ∧ c ≠ '/' ∧ c ≠ '>' := by
    refine ⟨?_, ?_, ?_⟩ <;> rintro rfl <;> revert hstart <;> decide
  have hkey : String.ofList (c :: cs) = a.1 := by rw [← hlist, String.ofList_toList]
  rw [attributeText, hlist, List.cons_append, List.cons_append, run_cons]
  simp only [step, tag, if_true, Option.bind_some]
  rw [List.cons_append, List.cons_append, run_cons]
  simp only [step, tag, if_neg hblank.1, if_neg hblank.2.1, if_neg hblank.2.2, hstart, and_self,
    if_true, Option.bind_some]
  rw [List.append_assoc, run_append, run_key hrest, Option.bind_some, List.singleton_append,
    List.cons_append, List.cons_append, run_cons]
  simp only [step, if_true, hkey, if_neg hnew, Option.bind_some]
  rw [run_cons]
  simp only [step, if_true, Option.bind_some]
  rw [run_append, run_value hvalue, Option.bind_some, List.nil_append, run_cons]
  simp only [step, if_true, Option.bind_some, String.ofList_toList]
  rfl

/-- The reader takes the attributes of a tag. -/
theorem run_attributes (name : String) {attributes : List (String × String)} :
    ∀ before : List (String × String), IsAttributes (before ++ attributes) →
    run ⟨.tag name before false, frames, nodes⟩ (attributes.flatMap attributeText) =
      some ⟨.tag name (before ++ attributes) false, frames, nodes⟩ := by
  induction attributes with
  | nil =>
    intro before _
    rw [List.append_nil]
    rfl
  | cons a attributes ih =>
    intro before h
    have ha : a ∈ before ++ a :: attributes := by simp
    have hnew : a.1 ∉ before.map Prod.fst := by
      have hnodup := h.nodup
      rw [List.map_append, List.map_cons, List.nodup_append] at hnodup
      exact fun hmem => hnodup.2.2 _ hmem _ List.mem_cons_self rfl
    have htail : IsAttributes ((before ++ [a]) ++ attributes) := by
      rwa [← List.append_cons]
    rw [List.flatMap_cons, run_append, run_attribute (h.names a ha) (h.values a ha) name hnew,
      Option.bind_some, ih _ htail, ← List.append_cons]

/-- **The reader takes a tag up to its end.** -/
theorem run_tagText {name : String} (hname : IsName name) {attributes : List (String × String)}
    (hattributes : IsAttributes attributes) {c : Char} (hc : isNameChar c = false) (t : List Char) :
    run ⟨.content [], frames, nodes⟩ (tagText name attributes ++ c :: t) =
      run ⟨.tag name attributes false, frames, nodes⟩ (c :: t) := by
  obtain ⟨c₀, cs, hlist, hstart, hrest⟩ := hname.exists_cons
  have hother : c₀ ≠ '/' ∧ c₀ ≠ '?' := by
    refine ⟨?_, ?_⟩ <;> rintro rfl <;> revert hstart <;> decide
  rw [tagText, hlist, List.cons_append, List.cons_append, run_cons]
  simp only [step, if_true, Option.bind_some]
  rw [List.cons_append, List.cons_append, run_cons]
  simp only [step, if_neg hother.1, hother.2, false_and, if_false, hstart, if_true,
    Option.bind_some]
  rw [List.append_assoc, run_append, run_name hrest, Option.bind_some, List.singleton_append,
    ← hlist]
  rcases attributes with _ | ⟨a, attributes⟩
  · exact run_name_cons hc name t
  · have hfirst : (a :: attributes).flatMap attributeText ++ c :: t =
        ' ' :: ((a.1.toList ++ '=' :: '"' :: a.2.toList ++ ['"']) ++
          attributes.flatMap attributeText ++ c :: t) := rfl
    rw [hfirst, run_name_cons (by decide), ← hfirst, run_append,
      run_attributes name [] hattributes, Option.bind_some, List.nil_append]

end Reader

/-! ### Texts that stand for nodes -/

/-- **The text stands for the nodes**, wherever it stands within an element. -/
def Writes (t : List Char) (nodes : List Node) : Prop :=
  ∀ frames before, Reader.run ⟨.content [], frames, before⟩ t =
    some ⟨.content [], frames, before ++ nodes⟩

theorem Writes.nil : Writes [] [] := fun _ before => by
  rw [List.append_nil]
  rfl

theorem Writes.append {s t : List Char} {ms ns : List Node} (hs : Writes s ms) (ht : Writes t ns) :
    Writes (s ++ t) (ms ++ ns) := fun frames before => by
  rw [Reader.run_append, hs, Option.bind_some, ht, List.append_assoc]

theorem Writes.flatMap {α : Type*} {l : List α} {f : α → List Char} {g : α → Node}
    (h : ∀ x ∈ l, Writes (f x) [g x]) : Writes (l.flatMap f) (l.map g) := by
  induction l with
  | nil => exact Writes.nil
  | cons x l ih =>
    rw [List.flatMap_cons, List.map_cons, ← List.singleton_append]
    exact (h x List.mem_cons_self).append (ih fun y hy => h y (List.mem_cons_of_mem x hy))

theorem run_startTag {name : String} (hname : IsName name)
    {attributes : List (String × String)} (hattributes : IsAttributes attributes)
    (frames : List Frame) (before : List Node) :
    Reader.run ⟨.content [], frames, before⟩ (startTag name attributes) =
      some ⟨.content [], ⟨name, attributes, before⟩ :: frames, []⟩ := by
  rw [startTag, Reader.run_tagText hname hattributes (by decide), Reader.run_cons]
  rfl

/-- The reader takes an end tag, behind characters or not. -/
theorem run_endTag {name : String} (hname : IsName name) (attributes : List (String × String))
    (frames : List Frame) (before nodes : List Node) (read : List Char) :
    Reader.run ⟨.content read, ⟨name, attributes, before⟩ :: frames, nodes⟩ (endTag name) =
      some ⟨.content [], frames, before ++ [.element name attributes
        (if read = [] then nodes else nodes ++ [.text (.ofList read)])]⟩ := by
  obtain ⟨c, cs, hlist, hstart, hrest⟩ := hname.exists_cons
  have hclose : ∀ c' ∈ name.toList, c' ≠ '>' := by
    rw [hlist]
    rintro c' hc' rfl
    rcases List.mem_cons.mp hc' with rfl | hc'
    · revert hstart
      decide
    · have := hrest _ hc'
      revert this
      decide
  rw [endTag, List.cons_append, List.cons_append, Reader.run_cons]
  simp only [Reader.step, if_true, Option.bind_some]
  rw [Reader.run_cons]
  simp only [Reader.step, if_true, Option.bind_some]
  rw [Reader.run_append, Reader.run_closing hclose, Option.bind_some, List.nil_append,
    Reader.run_cons]
  simp only [Reader.step, if_true, String.ofList_toList, Option.bind_some]
  rfl

/-- **An element with nodes in it.** -/
theorem Writes.element {name : String} (hname : IsName name)
    {attributes : List (String × String)} (hattributes : IsAttributes attributes) {t : List Char}
    {children : List Node} (h : Writes t children) :
    Writes (startTag name attributes ++ t ++ endTag name)
      [.element name attributes children] := fun frames before => by
  rw [Reader.run_append, Reader.run_append, run_startTag hname hattributes, Option.bind_some, h,
    Option.bind_some, run_endTag hname]
  rfl

/-- **An element with characters in it.** -/
theorem Writes.leaf {name : String} (hname : IsName name)
    {attributes : List (String × String)} (hattributes : IsAttributes attributes) {text : String}
    (htext : IsText text) :
    Writes (startTag name attributes ++ text.toList ++ endTag name)
      [.element name attributes [.text text]] := fun frames before => by
  rw [Reader.run_append, Reader.run_append, run_startTag hname hattributes, Option.bind_some,
    Reader.run_content htext.2, Option.bind_some, run_endTag hname, List.nil_append,
    if_neg htext.1, String.ofList_toList]
  rfl

/-- **An element with nothing in it.** -/
theorem Writes.empty {name : String} (hname : IsName name)
    {attributes : List (String × String)} (hattributes : IsAttributes attributes) :
    Writes (emptyTag name attributes) [.element name attributes []] := fun frames before => by
  rw [emptyTag, Reader.run_tagText hname hattributes (by decide), Reader.run_cons]
  rfl

/-- **A document is read as its element.** -/
theorem read_document {t : String} {b : List Char} (hbody : ∀ c ∈ b, c ≠ '?')
    {content : List Char} {name : String} {attributes : List (String × String)}
    {children : List Node} (h : Writes content [.element name attributes children])
    (ht : t.toList = declarationText b ++ content) :
    read t = some (.element name attributes children) := by
  have hdeclaration : Reader.run ⟨.content [], [], []⟩ (declarationText b) =
      some ⟨.content [], [], []⟩ := by
    rw [declarationText, List.cons_append, List.cons_append, Reader.run_cons]
    simp only [Reader.step, if_true, Option.bind_some]
    rw [Reader.run_cons]
    simp only [Reader.step, List.isEmpty_nil, and_self, if_true]
    rw [if_neg (by decide), Option.bind_some, Reader.run_append, Reader.run_declaration hbody]
    rfl
  rw [read, ht, Reader.run_append, hdeclaration, Option.bind_some, h]
  rfl

end DetectBase.Markup
