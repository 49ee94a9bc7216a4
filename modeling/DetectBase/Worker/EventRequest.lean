import DetectBase.Abnormal.Schedule
import DetectBase.Foundations.QueryString
import DetectBase.Json.Value

/-!
# The request of an event

A Socket.IO event carries a request, which three functions of `DETECTOR.cpp` read:
`CheckInterProcJsonValid` decides whether it is looked up at all, `GetAPICommandFromJson` makes the
address for the lookup of it, and `ExtractUnitFromJson` the list of the units whose settings are
updated with the answer.

Each of them has its own notion of a request. The check wants one object with an array under the
key, and does not look at the others; the units are taken from arrays under the key, whatever else
there is; and the address shows every member of every object as a parameter, a value that is not in
an array and the values of an object included. The units that are asked for are those that are
updated for the requests of `DetectBase.queriesUnits_iff`.
-/

namespace DetectBase

open Abnormal (isSpace)

/-! ### Reading numbers -/

/-- The sign at the beginning of a text, and the rest. -/
def signOf : List Char → ℤ × List Char
  | '-' :: rest => (-1, rest)
  | '+' :: rest => (1, rest)
  | text => (1, text)

/-- **`std::stoi`**: space and a sign, and digits up to anything else. There is an exception without
digits, and for a number that is no `int`. -/
def stoi (s : String) : Option ℤ :=
  let (sign, rest) := signOf (s.toList.dropWhile isSpace)
  match rest.takeWhile Char.isDigit with
  | [] => none
  | digits =>
    let n := sign * digits.foldl (fun (n : ℕ) d => 10 * n + (d.toNat - '0'.toNat)) 0
    if -2 ^ 31 ≤ n ∧ n < 2 ^ 31 then some n else none

namespace Json

/-- The values that a range-based `for` goes through. -/
def items : Json → List Json
  | .null => []
  | .arr xs => xs
  | .obj kvs => kvs.map Prod.snd
  | j => [j]

/-- A number of a request: a string that `stoi` reads, or a number that is read as an `int`. -/
def readNumber : Json → Option ℤ
  | .str s => stoi s
  | .int n => (Json.int n).getInt.toOption
  | .float x => (Json.float x).getInt.toOption
  | _ => none

end Json

/-! ### The three functions -/

/-- **`CheckInterProcJsonValid`**. -/
def checkInterProcJsonValid (json : Json) (argumentKeyName : String) : Bool :=
  if json.contains "TableName" = false ∨ json.contains "Argument" = false then false
  else match json.member? "Argument" with
    | some (.arr argument) =>
      if argument.isEmpty then false
      else argument.any fun object => match object.member? argumentKeyName with
        | some (.arr v) => v.all fun e => e.isString || e.isNumber
        | _ => false
    | _ => false

/-- The exceptions that leave `GetAPICommandFromJson`. -/
inductive RequestException where
  /-- One that a typed access throws. -/
  | json (e : Json.Exception) : RequestException
  /-- `invalid_iterator.207`: `key()` of an iterator over something that is not an object. -/
  | invalidIterator207 : RequestException
deriving DecidableEq

/-- How the loops of `GetAPICommandFromJson` are left early. -/
inductive Left where
  /-- The empty string is returned. -/
  | returned : Left
  /-- An exception is thrown. -/
  | thrown (e : RequestException) : Left

namespace ApiCommand

/-- The loop over the values of a member, with `arg_idx`. -/
def appendValues : List Json → ℕ → String → Option String
  | [], _, fullAPI => some fullAPI
  | value :: values, argIdx, fullAPI =>
    let fullAPI := if argIdx ≠ 0 then fullAPI ++ "," else fullAPI
    match value.readNumber with
    | some n => appendValues values (argIdx + 1) (fullAPI ++ toString n)
    | none => none

/-- The loop over the members of an object, with `isFirst`. -/
def appendMembers : List (String × Json) → String × Bool → Except Left (String × Bool)
  | [], st => .ok st
  | (key, value) :: members, (fullAPI, isFirst) =>
    let fullAPI := fullAPI ++ (if isFirst then "?" else "&") ++ (key ++ "=")
    match appendValues value.items 0 fullAPI with
    | some fullAPI => appendMembers members (fullAPI, false)
    | none => .error .returned

/-- The loop over one element of `Argument`. There is no pass for null and what has no elements, and
an exception in the first pass for anything else that is not an object. -/
def appendElement (st : String × Bool) (elem : Json) : Except Left (String × Bool) :=
  match elem with
  | .obj members => appendMembers members st
  | elem => if elem.isEmpty then .ok st else .error (.thrown .invalidIterator207)

end ApiCommand

/-- **`GetAPICommandFromJson`**. -/
def getAPICommandFromJson (json : Json) (targetUrl : String) : Except RequestException String :=
  match if targetUrl.isEmpty then json.value Json.getString "TableName" "" else .ok targetUrl with
  | .error e => .error (.json e)
  | .ok path =>
    let fullAPI := "/" ++ path
    if json.contains "Argument" = false then .ok fullAPI
    else match json.value .ok "Argument" .array with
      | .error e => .error (.json e)
      | .ok jsArray =>
        match jsArray.items.foldlM ApiCommand.appendElement (fullAPI, true) with
        | .ok (fullAPI, _) => .ok fullAPI
        | .error .returned => .ok ""
        | .error (.thrown e) => .error e

/-- **`ExtractUnitFromJson`**. -/
def extractUnitFromJson (json : Json) (argumentKeyName : String) : List ℤ :=
  if json.contains "TableName" = false ∨ json.contains "Argument" = false then []
  else match json.member? "Argument" with
    | some argument =>
      if argument.isEmpty then []
      else argument.items.flatMap fun object => match object.member? argumentKeyName with
        | some (.arr units) => units.filterMap Json.readNumber
        | _ => []
    | none => []

/-! ### Numbers in an address -/

/-- The text of a number. -/
def numberText (n : ℤ) : List Char := (toString n).toList

theorem mem_numberText {n : ℤ} {c : Char} (hc : c ∈ numberText n) : c = '-' ∨ c.isDigit = true := by
  rw [numberText, Int.toString_eq_repr, Int.repr_eq_if] at hc
  split_ifs at hc
  · rw [Nat.toList_repr] at hc
    exact .inr (Nat.isDigit_of_mem_toDigits (by decide) (by decide) hc)
  · rw [String.toList_append, List.mem_append, Nat.toList_repr] at hc
    obtain hc | hc := hc
    · exact .inl (by simpa using hc)
    · exact .inr (Nat.isDigit_of_mem_toDigits (by decide) (by decide) hc)

theorem numberText_ne_nil (n : ℤ) : numberText n ≠ [] := by
  rw [numberText, Int.toString_eq_repr, Int.repr_eq_if]
  split_ifs
  · rw [Nat.toList_repr]
    exact Nat.toDigits_ne_nil
  · rw [String.toList_append]
    simp

/-- A text of numbers that are joined by commas has no other separators. -/
theorem not_mem_intercalate {ns : List ℤ} {c : Char} (hc : c ≠ '-' ∧ c.isDigit = false ∧ c ≠ ',') :
    c ∉ [','].intercalate (ns.map numberText) := by
  obtain ⟨hminus, hdigit, hcomma⟩ := hc
  have hnumber : ∀ n, c ∉ numberText n := fun n hmem => by
    obtain rfl | hc := mem_numberText hmem
    · exact hminus rfl
    · rw [hdigit] at hc
      cases hc
  cases ns with
  | nil => exact List.not_mem_nil
  | cons n ns =>
    rw [List.map_cons, QueryString.intercalate_cons, List.mem_append, not_or]
    refine ⟨hnumber n, fun hmem => ?_⟩
    obtain ⟨text, htext, hmem⟩ := List.mem_flatMap.mp hmem
    obtain ⟨m, -, rfl⟩ := List.mem_map.mp htext
    obtain rfl | hmem := List.mem_cons.mp hmem
    · exact hcomma rfl
    · exact hnumber m hmem

/-! ### The address -/

namespace ApiCommand

variable {values : List Json} {argIdx : ℕ} {fullAPI fullAPI' : String} {isFirst : Bool}
  {members : List (String × Json)}

/-- The texts of the numbers among the values. -/
def numberTexts (values : List Json) : List (List Char) :=
  (values.filterMap Json.readNumber).map numberText

/-- The address is given up at one of the values. -/
theorem appendValues_eq_none_iff : appendValues values argIdx fullAPI = none ↔
    ∃ value ∈ values, value.readNumber = none := by
  induction values generalizing argIdx fullAPI with
  | nil => simp [appendValues]
  | cons value values ih =>
    rw [appendValues, List.exists_mem_cons_iff]
    cases hread : value.readNumber with
    | some n => simp [ih]
    | none => simp

/-- A value that is passed has been read. -/
theorem exists_of_appendValues_cons {value : Json}
    (h : appendValues (value :: values) argIdx fullAPI = some fullAPI') :
    ∃ n, value.readNumber = some n ∧ appendValues values (argIdx + 1)
      ((if argIdx ≠ 0 then fullAPI ++ "," else fullAPI) ++ toString n) = some fullAPI' := by
  rw [appendValues] at h
  cases hread : value.readNumber with
  | none =>
    rw [hread] at h
    cases h
  | some n =>
    rw [hread] at h
    exact ⟨n, rfl, h⟩

/-- The values after the first. -/
theorem toList_appendValues_succ (h : appendValues values (argIdx + 1) fullAPI = some fullAPI') :
    fullAPI'.toList = fullAPI.toList ++ (numberTexts values).flatMap (',' :: ·) := by
  induction values generalizing argIdx fullAPI with
  | nil =>
    cases h
    simp [numberTexts]
  | cons value values ih =>
    obtain ⟨n, hread, h⟩ := exists_of_appendValues_cons h
    rw [if_pos (Nat.succ_ne_zero _)] at h
    rw [ih h]
    simp [numberTexts, hread, numberText]

theorem toList_appendValues (h : appendValues values 0 fullAPI = some fullAPI') :
    fullAPI'.toList = fullAPI.toList ++ [','].intercalate (numberTexts values) := by
  cases values with
  | nil =>
    cases h
    simp [numberTexts]
  | cons value values =>
    obtain ⟨n, hread, h⟩ := exists_of_appendValues_cons h
    rw [if_neg (not_not_intro rfl)] at h
    rw [toList_appendValues_succ h]
    simp [numberTexts, hread, numberText, QueryString.intercalate_cons]

/-- The address is given up at the member. -/
def Unreadable (member : String × Json) : Prop :=
  ∃ value ∈ member.2.items, value.readNumber = none

instance (member : String × Json) : Decidable (Unreadable member) :=
  inferInstanceAs (Decidable (∃ value ∈ _, _))

/-- The parameter of a member. -/
def paramText (member : String × Json) : List Char :=
  member.1.toList ++ '=' :: [','].intercalate (numberTexts member.2.items)

/-- What the parameters make of the query. -/
def queryText : Bool → List (List Char) → List Char
  | true, [] => []
  | true, param :: params => '?' :: (param ++ params.flatMap ('&' :: ·))
  | false, params => params.flatMap ('&' :: ·)

theorem queryText_append (isFirst : Bool) (ps qs : List (List Char)) :
    queryText isFirst (ps ++ qs) =
      queryText isFirst ps ++ queryText (isFirst && ps.isEmpty) qs := by
  cases isFirst with
  | false => simp [queryText]
  | true => cases ps with
    | nil => rfl
    | cons p ps => simp [queryText]

theorem appendMembers_of_unreadable (h : ∃ member ∈ members, Unreadable member) :
    appendMembers members (fullAPI, isFirst) = .error .returned := by
  induction members generalizing fullAPI isFirst with
  | nil =>
    obtain ⟨member, hmember, -⟩ := h
    cases hmember
  | cons member members ih =>
    obtain ⟨key, value⟩ := member
    rw [appendMembers]
    split
    · next heq =>
      refine ih ?_
      obtain ⟨member, hmember, hunreadable⟩ := h
      obtain rfl | hmember := List.mem_cons.mp hmember
      · rw [appendValues_eq_none_iff.mpr hunreadable] at heq
        cases heq
      · exact ⟨member, hmember, hunreadable⟩
    · rfl

theorem appendMembers_of_readable (fullAPI : String) (isFirst : Bool)
    (h : ∀ member ∈ members, ¬ Unreadable member) :
    ∃ fullAPI', appendMembers members (fullAPI, isFirst) =
        .ok (fullAPI', isFirst && members.isEmpty) ∧
      fullAPI'.toList = fullAPI.toList ++ queryText isFirst (members.map paramText) := by
  induction members generalizing fullAPI isFirst with
  | nil =>
    refine ⟨fullAPI, by rw [appendMembers, List.isEmpty_nil, Bool.and_true], ?_⟩
    cases isFirst <;> simp [queryText]
  | cons member members ih =>
    obtain ⟨key, value⟩ := member
    obtain ⟨hmember, hmembers⟩ := List.forall_mem_cons.mp h
    rw [appendMembers]
    split
    · next fullAPI₁ heq =>
      obtain ⟨fullAPI', hend, htext⟩ := ih fullAPI₁ false hmembers
      refine ⟨fullAPI', by rw [hend]; simp, ?_⟩
      rw [htext, toList_appendValues heq]
      cases isFirst <;> simp [queryText, paramText]
    · next heq => exact absurd (appendValues_eq_none_iff.mp heq) hmember

/-- The members of an element, if it is an object. -/
def membersOf : Json → List (String × Json)
  | .obj members => members
  | _ => []

/-- The walk is left with an exception at the element. -/
def Throws (elem : Json) : Prop := elem.isObject = false ∧ elem.isEmpty = false

instance (elem : Json) : Decidable (Throws elem) := inferInstanceAs (Decidable (_ ∧ _))

/-- The address is given up at the element. -/
def GivesUp (elem : Json) : Prop := ∃ member ∈ membersOf elem, Unreadable member

instance (elem : Json) : Decidable (GivesUp elem) :=
  inferInstanceAs (Decidable (∃ member ∈ _, _))

variable {elem : Json} {argument : List Json}

theorem appendElement_of_not_object {st : String × Bool} (h : elem.isObject = false) :
    appendElement st elem =
      if elem.isEmpty then .ok st else .error (.thrown .invalidIterator207) := by
  cases elem with
  | obj members => cases h
  | null | bool b | int n | float x | str s | arr xs => rfl

theorem appendElement_of_throws (h : Throws elem) :
    appendElement (fullAPI, isFirst) elem = .error (.thrown .invalidIterator207) := by
  rw [appendElement_of_not_object h.1, if_neg (by simp [h.2])]

theorem isObject_of_givesUp (h : GivesUp elem) : elem.isObject = true := by
  obtain ⟨member, hmember, -⟩ := h
  cases elem with
  | obj members => rfl
  | null | bool b | int n | float x | str s | arr xs => cases hmember

theorem appendElement_of_givesUp (h : GivesUp elem) :
    appendElement (fullAPI, isFirst) elem = .error .returned := by
  cases elem with
  | obj members => exact appendMembers_of_unreadable h
  | null | bool b | int n | float x | str s | arr xs =>
    obtain ⟨member, hmember, -⟩ := h
    cases hmember

theorem appendElement_of_neither (fullAPI : String) (isFirst : Bool) (hthrows : ¬ Throws elem)
    (hgivesUp : ¬ GivesUp elem) : ∃ fullAPI', appendElement (fullAPI, isFirst) elem =
        .ok (fullAPI', isFirst && (membersOf elem).isEmpty) ∧
      fullAPI'.toList = fullAPI.toList ++ queryText isFirst ((membersOf elem).map paramText) := by
  cases elem with
  | obj members =>
    exact appendMembers_of_readable _ _ fun member hmember hunreadable =>
      hgivesUp ⟨member, hmember, hunreadable⟩
  | null | bool b | int n | float x | str s | arr xs =>
    refine ⟨fullAPI, ?_, by cases isFirst <;> simp [queryText, membersOf]⟩
    rw [appendElement_of_not_object rfl, if_pos]
    · simp [membersOf]
    · by_contra hempty
      exact hthrows ⟨rfl, by simpa using hempty⟩

/-- An element that the walk is left at without an exception is an object. -/
theorem isObject_of_left (h : argument.find? (fun elem => Throws elem ∨ GivesUp elem) = some elem)
    (hthrows : ¬ Throws elem) : elem.isObject = true := by
  have hleft := List.find?_some h
  simp only [hthrows, false_or, decide_eq_true_eq] at hleft
  exact isObject_of_givesUp hleft

theorem not_left_of_find (h : argument.find? (fun elem => Throws elem ∨ GivesUp elem) = none) :
    ∀ elem ∈ argument, ¬ (Throws elem ∨ GivesUp elem) :=
  fun elem helem hleft => List.find?_eq_none.mp h elem helem (decide_eq_true hleft)

/-- **The walk over the elements ends at the first one that it is left at.** -/
theorem foldlM_of_find (h : argument.find? (fun elem => Throws elem ∨ GivesUp elem) = some elem) :
    argument.foldlM appendElement (fullAPI, isFirst) =
      .error (if Throws elem then .thrown .invalidIterator207 else .returned) := by
  induction argument generalizing fullAPI isFirst with
  | nil => cases h
  | cons head argument ih =>
    rw [List.find?_cons] at h
    rw [List.foldlM_cons]
    split at h
    · next hleft =>
      cases h
      by_cases hthrows : Throws elem
      · rw [appendElement_of_throws hthrows, if_pos hthrows]
        rfl
      · obtain hthrows' | hgivesUp := of_decide_eq_true hleft
        · exact absurd hthrows' hthrows
        · rw [appendElement_of_givesUp hgivesUp, if_neg hthrows]
          rfl
    · next hpassed =>
      obtain ⟨hthrows, hgivesUp⟩ := not_or.mp (of_decide_eq_false hpassed)
      obtain ⟨fullAPI₁, hstep, -⟩ := appendElement_of_neither fullAPI isFirst hthrows hgivesUp
      rw [hstep]
      exact ih h

/-- A walk that is not left appends all parameters. -/
theorem foldlM_of_passed (fullAPI : String) (isFirst : Bool)
    (h : ∀ elem ∈ argument, ¬ (Throws elem ∨ GivesUp elem)) :
    ∃ fullAPI' isFirst', argument.foldlM appendElement (fullAPI, isFirst) =
        .ok (fullAPI', isFirst') ∧ fullAPI'.toList =
          fullAPI.toList ++ queryText isFirst ((argument.flatMap membersOf).map paramText) := by
  induction argument generalizing fullAPI isFirst with
  | nil =>
    refine ⟨fullAPI, isFirst, rfl, ?_⟩
    cases isFirst <;> simp [queryText]
  | cons elem argument ih =>
    obtain ⟨hpassed, hrest⟩ := List.forall_mem_cons.mp h
    obtain ⟨hthrows, hgivesUp⟩ := not_or.mp hpassed
    obtain ⟨fullAPI₁, hstep, htext⟩ := appendElement_of_neither fullAPI isFirst hthrows hgivesUp
    obtain ⟨fullAPI', isFirst', hend, htext'⟩ :=
      ih fullAPI₁ (isFirst && (membersOf elem).isEmpty) hrest
    refine ⟨fullAPI', isFirst', ?_, ?_⟩
    · rw [List.foldlM_cons, hstep]
      exact hend
    · rw [htext', htext, List.flatMap_cons, List.map_append, queryText_append, List.isEmpty_map,
        List.append_assoc]

end ApiCommand

/-! ### The units -/

open ApiCommand

/-- The members of an object in which units are looked for, one after the other. -/
theorem lookup_units {members : List (String × Json)} (hsorted : SortedKeys members)
    (key : String) :
    (match members.lookup key with
      | some (.arr units) => units.filterMap Json.readNumber
      | _ => []) =
      members.flatMap fun member => if member.1 = key ∧ member.2.isArray = true then
        member.2.items.filterMap Json.readNumber else [] := by
  induction members with
  | nil => rfl
  | cons member members ih =>
    obtain ⟨name, value⟩ := member
    obtain ⟨hhead, hrest⟩ := sortedKeys_cons.mp hsorted
    rw [List.flatMap_cons, List.lookup_cons]
    by_cases hname : key = name
    · subst hname
      have hnone : (members.flatMap fun member => if member.1 = key ∧ member.2.isArray = true then
          member.2.items.filterMap Json.readNumber else []) = [] := by
        rw [List.flatMap_eq_nil_iff]
        intro member hmember
        rw [if_neg]
        rintro ⟨heq, -⟩
        exact absurd (heq ▸ hhead member hmember) (lt_irrefl _)
      rw [hnone, beq_self_eq_true, List.append_nil]
      cases value <;> simp [Json.isArray, Json.items]
    · rw [beq_eq_false_iff_ne.mpr hname, if_neg fun h => hname h.1.symm, List.nil_append]
      exact ih hrest

/-- The texts of the units that a member stands for. -/
def unitTexts (key : String) (member : String × Json) : List (List Char) :=
  if member.1 = key ∧ member.2.isArray = true then numberTexts member.2.items else []

theorem map_units {argument : List Json} (hwf : ∀ elem ∈ argument, elem.WF) (key : String) :
    (argument.flatMap fun object => match object.member? key with
      | some (.arr units) => units.filterMap Json.readNumber
      | _ => []).map numberText = (argument.flatMap membersOf).flatMap (unitTexts key) := by
  rw [List.map_flatMap, List.flatMap_assoc]
  refine List.flatMap_congr fun elem helem => ?_
  cases elem with
  | obj members =>
    rw [Json.member?, lookup_units (Json.wf_obj.mp (hwf _ helem)).1, List.map_flatMap]
    refine List.flatMap_congr fun member _ => ?_
    rw [unitTexts]
    split_ifs
    · rfl
    · rfl
  | null | bool b | int n | float x | str s | arr xs => rfl

/-! ### The units that are asked for -/

/-- The request is for a table, with some parameters. -/
structure AsksFor (json : Json) (table : String) (argument : List Json) : Prop where
  /-- `TableName`. -/
  table : json.member? "TableName" = some (.str table)
  /-- `Argument`. -/
  argument : json.member? "Argument" = some (.arr argument)

/-- A member is shown in the address as what it stands for: its name is silent, and its value, if it
has one, is shown if and only if it is an array under the key. -/
def ShownAsMeant (key : String) (member : String × Json) : Prop :=
  QueryString.Silent key.toList member.1.toList ∧ (member.2.items = [] ∨
    (QueryString.Shows key.toList member.1.toList ↔ member.1 = key ∧ member.2.isArray = true))

/-- **The units that are asked for are those that are updated**: the walk over the elements is left
at an object first, in which case nothing is asked for; or it is not left, and each member is shown
as what it stands for. A table with a query of its own has another first parameter, and then it is
all parameters together that must show the units. -/
def AsksForUnits (key table : String) (argument : List Json) : Prop :=
  match argument.find? (fun elem => Throws elem ∨ GivesUp elem) with
  | some elem => elem.isObject = true
  | none =>
    if '?' ∈ table.toList then
      QueryString.shown key.toList (QueryString.query table.toList ++
        queryText true ((argument.flatMap membersOf).map paramText)) =
          (argument.flatMap membersOf).flatMap (unitTexts key)
    else ∀ member ∈ argument.flatMap membersOf, ShownAsMeant key member

instance (key : String) (member : String × Json) : Decidable (ShownAsMeant key member) :=
  inferInstanceAs (Decidable (_ ∧ (_ ∨ (_ ↔ _))))

instance (key table : String) (argument : List Json) :
    Decidable (AsksForUnits key table argument) :=
  match h : argument.find? (fun elem => Throws elem ∨ GivesUp elem) with
  | some elem => decidable_of_iff (elem.isObject = true) (by rw [AsksForUnits, h])
  | none => decidable_of_iff (if '?' ∈ table.toList then _ else _) (by rw [AsksForUnits, h])

/-- What the check of a request finds. -/
theorem exists_argument {json : Json} {key : String} (h : checkInterProcJsonValid json key = true) :
    ∃ members table argument, json = .obj members ∧ members.lookup "TableName" = some table ∧
      members.lookup "Argument" = some (.arr argument) ∧ argument.flatMap membersOf ≠ [] := by
  rw [checkInterProcJsonValid] at h
  split_ifs at h with hcontains
  obtain ⟨htable, hargument⟩ := not_or.mp hcontains
  rw [Bool.not_eq_false, Json.contains, Option.isSome_iff_exists] at htable
  obtain ⟨table, htable⟩ := htable
  cases json with
  | obj members =>
    split at h
    · next argument hargument =>
      refine ⟨members, table, argument, rfl, htable, hargument, ?_⟩
      split_ifs at h
      obtain ⟨object, hobject, hvalid⟩ := List.any_eq_true.mp h
      split at hvalid
      · next v hv =>
        cases object with
        | obj kvs =>
          obtain ⟨before, after, heq, -⟩ := List.lookup_eq_some_iff.mp hv
          have hmem : (key, Json.arr v) ∈ kvs := by rw [heq]; simp
          exact List.ne_nil_of_mem (List.mem_flatMap.mpr ⟨_, hobject, hmem⟩)
        | null | bool b | int n | float x | str s | arr xs => cases hv
      · cases hvalid
    · cases h
  | null | bool b | int n | float x | str s | arr xs => cases htable

/-- The numbers of a member that can be read are its values. -/
theorem intercalate_eq_nil_iff {member : String × Json} (hreadable : ¬ Unreadable member) :
    [','].intercalate (numberTexts member.2.items) = [] ↔ member.2.items = [] := by
  rw [numberTexts]
  cases hitems : member.2.items with
  | nil => exact iff_of_true rfl rfl
  | cons value values =>
    refine iff_of_false ?_ (List.cons_ne_nil _ _)
    obtain ⟨n, hn⟩ : ∃ n, value.readNumber = some n :=
      Option.ne_none_iff_exists'.mp fun hnone =>
        hreadable ⟨value, by rw [hitems]; exact List.mem_cons_self, hnone⟩
    rw [List.filterMap_cons_some hn, List.map_cons, QueryString.intercalate_cons]
    exact List.append_ne_nil_of_left_ne_nil (numberText_ne_nil n) _

/-- What the parameters of a request show. -/
theorem shown_members_eq_iff {key : String} {members : List (String × Json)}
    (hreadable : ∀ member ∈ members, ¬ Unreadable member) :
    members.flatMap (fun member => QueryString.shown key.toList (paramText member)) =
        members.flatMap (unitTexts key) ↔ ∀ member ∈ members, ShownAsMeant key member := by
  have hunits : members.flatMap (unitTexts key) = members.flatMap fun member =>
      if member.1 = key ∧ member.2.isArray = true then
        QueryString.pieces ([','].intercalate (numberTexts member.2.items)) else [] := by
    refine List.flatMap_congr fun member _ => ?_
    rw [unitTexts, QueryString.pieces_intercalate]
    intro text htext
    obtain ⟨n, -, rfl⟩ := List.mem_map.mp htext
    refine ⟨numberText_ne_nil n, fun hmem => ?_⟩
    have hcomma := mem_numberText hmem
    revert hcomma
    decide
  rw [hunits]
  have hshown := QueryString.shown_params_eq_iff (l := members)
    (fun member => member.1.toList) (fun member => [','].intercalate (numberTexts member.2.items))
    (fun member => member.1 = key ∧ member.2.isArray = true)
    (fun member _ => not_mem_intercalate (by decide)) (fun member _ h => by rw [h.1])
  refine hshown.trans (forall₂_congr fun member hmember => ?_)
  rw [ShownAsMeant, intercalate_eq_nil_iff (hreadable member hmember)]

/-- The address is read back. -/
theorem query_cons {c : Char} (hc : c ≠ '?') (url : List Char) :
    QueryString.query (c :: url) = QueryString.query url := by
  rw [QueryString.query, List.dropWhile_cons_of_pos (by simpa using hc), QueryString.query]

/-- **What the address shows**, if it is not given up. -/
theorem valuesOf_eq_iff {key table : String} {argument : List Json} {url : String}
    (hpassed : ∀ elem ∈ argument, ¬ (Throws elem ∨ GivesUp elem))
    (hmembers : argument.flatMap membersOf ≠ [])
    (hurl : url.toList = ("/" ++ table).toList ++
      queryText true ((argument.flatMap membersOf).map paramText)) :
    QueryString.valuesOf key.toList url.toList =
        (argument.flatMap membersOf).flatMap (unitTexts key) ↔
      AsksForUnits key table argument := by
  have hnone : argument.find? (fun elem => Throws elem ∨ GivesUp elem) = none :=
    List.find?_eq_none.mpr fun elem helem h => hpassed elem helem (of_decide_eq_true h)
  have hreadable : ∀ member ∈ argument.flatMap membersOf, ¬ Unreadable member := by
    intro member hmember hunreadable
    obtain ⟨elem, helem, hmember⟩ := List.mem_flatMap.mp hmember
    exact hpassed elem helem (.inr ⟨member, hmember, hunreadable⟩)
  have hslash : ("/" ++ table).toList = '/' :: table.toList := by simp
  rw [QueryString.valuesOf, hurl, AsksForUnits, hnone, hslash]
  dsimp only
  split_ifs with htable
  · rw [QueryString.query_append_of_mem (List.mem_cons_of_mem _ htable), query_cons (by decide)]
  · rw [← shown_members_eq_iff hreadable]
    obtain ⟨member, members, heq⟩ := List.exists_cons_of_ne_nil hmembers
    have hquery : '?' ∉ '/' :: table.toList := by
      rw [List.mem_cons, not_or]
      exact ⟨by decide, htable⟩
    rw [heq, List.map_cons, queryText, QueryString.query_append hquery, QueryString.shown_join,
      List.flatMap_map, List.flatMap_cons (f := fun member => QueryString.shown _ _)]

/-! ### Requests -/

/-- **The address asks for the units that are updated**: there is no exception, and an address that
is not empty shows under the key the units that are taken from the request. -/
def QueriesUnits (json : Json) (key : String) : Prop :=
  ∃ url, getAPICommandFromJson json "" = .ok url ∧ (url ≠ "" →
    QueryString.valuesOf key.toList url.toList = (extractUnitFromJson json key).map numberText)

/-- The units of a request. -/
theorem map_extractUnitFromJson {members : List (String × Json)} {table : Json}
    {argument : List Json} {key : String} (hwf : (Json.obj members).WF)
    (htable : members.lookup "TableName" = some table)
    (hargument : members.lookup "Argument" = some (.arr argument)) :
    (extractUnitFromJson (.obj members) key).map numberText =
      (argument.flatMap membersOf).flatMap (unitTexts key) := by
  have hcontains : ¬ ((Json.obj members).contains "TableName" = false ∨
      (Json.obj members).contains "Argument" = false) := by
    rw [Json.contains, Json.member?, htable, Json.contains, Json.member?, hargument]
    rintro (h | h) <;> cases h
  have helems : ∀ elem ∈ argument, elem.WF := by
    obtain ⟨before, after, heq, -⟩ := List.lookup_eq_some_iff.mp hargument
    have hmem : ("Argument", Json.arr argument) ∈ members := by rw [heq]; simp
    exact Json.wf_arr.mp ((Json.wf_obj.mp hwf).2 _ hmem)
  rw [extractUnitFromJson, if_neg hcontains, Json.member?, hargument]
  dsimp only
  rw [← map_units helems key]
  split_ifs with hempty
  · rw [List.isEmpty_iff.mp hempty]
    rfl
  · rfl

/-- The address of a request. -/
theorem getAPICommandFromJson_eq {members : List (String × Json)} {table : Json}
    {argument : List Json} (htable : members.lookup "TableName" = some table)
    (hargument : members.lookup "Argument" = some (.arr argument)) :
    getAPICommandFromJson (.obj members) "" = match table.getString with
      | .error e => .error (.json e)
      | .ok path => match argument.foldlM appendElement ("/" ++ path, true) with
        | .ok (fullAPI, _) => .ok fullAPI
        | .error .returned => .ok ""
        | .error (.thrown e) => .error e := by
  have hcontains : ¬ ((Json.obj members).contains "Argument" = false) := by
    rw [Json.contains, Json.member?, hargument]
    nofun
  have hargs : ((Json.obj members).value .ok "Argument" .array : Except Json.Exception Json) =
      .ok (.arr argument) := by
    rw [Json.value, hargument]
  rw [getAPICommandFromJson, if_pos (by decide), Json.value, htable]
  simp only [if_neg hcontains, hargs]
  rfl

theorem asksFor_obj {members : List (String × Json)} {table : Json} {argument : List Json}
    (htable : members.lookup "TableName" = some table)
    (hargument : members.lookup "Argument" = some (.arr argument)) (t : String)
    (args : List Json) : AsksFor (.obj members) t args ↔ table = .str t ∧ argument = args := by
  constructor
  · rintro ⟨ht, hargs⟩
    rw [Json.member?, htable] at ht
    rw [Json.member?, hargument] at hargs
    exact ⟨Option.some.inj ht, Json.arr.inj (Option.some.inj hargs)⟩
  · rintro ⟨rfl, rfl⟩
    exact ⟨htable, hargument⟩

/-- The request can be asked for: its table is a string, and the walk over the elements is left at
an object first, or not at all. -/
def Addressable (json : Json) : Prop :=
  ∃ table argument, AsksFor json table argument ∧
    ∀ elem ∈ argument.find? (fun elem => Throws elem ∨ GivesUp elem), elem.isObject = true

/-- **When an accepted request has an address.** -/
theorem exists_getAPICommandFromJson_iff {json : Json} {key : String}
    (hvalid : checkInterProcJsonValid json key = true) :
    (∃ url, getAPICommandFromJson json "" = .ok url) ↔ Addressable json := by
  obtain ⟨members, table, argument, rfl, htable, hargument, -⟩ := exists_argument hvalid
  rw [Addressable, getAPICommandFromJson_eq htable hargument]
  simp only [asksFor_obj htable hargument]
  cases table with
  | null | bool b | int n | float x | arr xs | obj kvs =>
    refine iff_of_false ?_ ?_
    · rintro ⟨url, hurl⟩
      cases hurl
    · rintro ⟨t, args, ⟨ht, -⟩, -⟩
      cases ht
  | str t =>
    rw [Json.getString]
    dsimp only
    cases hfind : argument.find? (fun elem => Throws elem ∨ GivesUp elem) with
    | some elem =>
      rw [foldlM_of_find hfind]
      split_ifs with hthrows
      · refine iff_of_false (fun ⟨url, hurl⟩ => by cases hurl) ?_
        rintro ⟨t', args, ⟨-, rfl⟩, hobject⟩
        have hfalse := hobject elem hfind
        rw [hthrows.1] at hfalse
        cases hfalse
      · refine iff_of_true ⟨"", rfl⟩ ⟨t, argument, ⟨rfl, rfl⟩, fun elem' helem' => ?_⟩
        cases hfind.symm.trans helem'
        exact isObject_of_left hfind hthrows
    | none =>
      obtain ⟨url, isFirst, hend, -⟩ := foldlM_of_passed ("/" ++ t) true (not_left_of_find hfind)
      rw [hend]
      refine iff_of_true ⟨url, rfl⟩ ⟨t, argument, ⟨rfl, rfl⟩, fun elem' helem' => ?_⟩
      cases hfind.symm.trans helem'

/-- **When an accepted request is asked for as it is updated**: its table is a string, and its
parameters show the units. -/
theorem queriesUnits_iff (json : JsonValue) (key : String)
    (hvalid : checkInterProcJsonValid json.1 key = true) : QueriesUnits json.1 key ↔
      ∃ table argument, AsksFor json.1 table argument ∧ AsksForUnits key table argument := by
  obtain ⟨json, hwf⟩ := json
  obtain ⟨members, table, argument, rfl, htable, hargument, hmembers⟩ := exists_argument hvalid
  simp only [asksFor_obj htable hargument]
  rw [QueriesUnits, getAPICommandFromJson_eq htable hargument,
    map_extractUnitFromJson hwf htable hargument]
  cases table with
  | null | bool b | int n | float x | arr xs | obj kvs =>
    refine iff_of_false ?_ ?_
    · rintro ⟨url, hurl, -⟩
      cases hurl
    · rintro ⟨t, args, ⟨ht, -⟩, -⟩
      cases ht
  | str t =>
    have hexists : (∃ t' args, (Json.str t = .str t' ∧ argument = args) ∧
        AsksForUnits key t' args) ↔ AsksForUnits key t argument := by
      constructor
      · rintro ⟨t', args, ⟨ht, rfl⟩, hunits⟩
        cases ht
        exact hunits
      · exact fun hunits => ⟨t, argument, ⟨rfl, rfl⟩, hunits⟩
    rw [hexists, Json.getString]
    dsimp only
    cases hfind : argument.find? (fun elem => Throws elem ∨ GivesUp elem) with
    | some elem =>
      rw [foldlM_of_find hfind, AsksForUnits, hfind]
      dsimp only
      split_ifs with hthrows
      · refine iff_of_false ?_ (by rw [hthrows.1]; exact Bool.false_ne_true)
        rintro ⟨url, hurl, -⟩
        cases hurl
      · refine iff_of_true ⟨"", rfl, fun hne => absurd rfl hne⟩ ?_
        exact isObject_of_left hfind hthrows
    | none =>
      have hpassed := not_left_of_find hfind
      obtain ⟨url, isFirst, hend, htext⟩ := foldlM_of_passed ("/" ++ t) true hpassed
      have hurl : url ≠ "" := by
        rintro rfl
        simp at htext
      rw [hend, ← valuesOf_eq_iff hpassed hmembers htext]
      constructor
      · rintro ⟨url', hurl', hvalues⟩
        cases hurl'
        exact hvalues hurl
      · exact fun hvalues => ⟨url, rfl, fun _ => hvalues⟩

/-- A request for two cameras, and what else there is in it. -/
def cameraRequest (others : List Json) : Json :=
  .obj [("Argument", .arr (.obj [("camera_id", .arr [.int 1, .str "2"])] :: others)),
    ("TableName", .str "schedule")]

theorem wf_cameraRequest {others : List Json} (h : ∀ elem ∈ others, elem.WF) :
    (cameraRequest others).WF := by
  have hkeys : ("Argument" : String) < "TableName" := by decide
  have hcameras : (Json.obj [("camera_id", .arr [.int 1, .str "2"])]).WF := by
    simp [Json.WF, Json.WFMembers, Json.WFList]
  refine Json.wf_obj.mpr ⟨?_, ?_⟩
  · exact sortedKeys_cons.mpr ⟨List.forall_mem_singleton.mpr hkeys, by simp⟩
  · refine List.forall_mem_cons.mpr ⟨?_, List.forall_mem_singleton.mpr trivial⟩
    exact Json.wf_arr.mpr (List.forall_mem_cons.mpr ⟨hcameras, h⟩)

/-- It is asked for as it is updated. -/
theorem queriesUnits_cameraRequest : QueriesUnits (cameraRequest []) "camera_id" :=
  (queriesUnits_iff ⟨cameraRequest [], wf_cameraRequest nofun⟩ "camera_id" (by decide)).mpr
    ⟨"schedule", _, ⟨rfl, rfl⟩, by decide⟩

/-- **A camera that is not in an array is asked for, and not updated.** -/
theorem not_queriesUnits : ¬ ∀ (json : JsonValue) (key : String),
    checkInterProcJsonValid json.1 key = true → QueriesUnits json.1 key := by
  intro h
  have hwf : (cameraRequest [.obj [("camera_id", .int 3)]]).WF :=
    wf_cameraRequest (List.forall_mem_singleton.mpr (by simp [Json.WF, Json.WFMembers]))
  have hvalid : checkInterProcJsonValid (cameraRequest [.obj [("camera_id", .int 3)]])
      "camera_id" = true := by decide
  have haddress : getAPICommandFromJson (cameraRequest [.obj [("camera_id", .int 3)]]) "" =
      .ok "/schedule?camera_id=1,2&camera_id=3" := by decide +kernel
  have hdiffer : QueryString.valuesOf "camera_id".toList
      "/schedule?camera_id=1,2&camera_id=3".toList ≠
        (extractUnitFromJson (cameraRequest [.obj [("camera_id", .int 3)]]) "camera_id").map
          numberText := by decide +kernel
  obtain ⟨url, hurl, hvalues⟩ := h ⟨_, hwf⟩ "camera_id" hvalid
  rw [haddress] at hurl
  cases hurl
  exact hdiffer (hvalues (by decide))

end DetectBase
