import DetectBase.Json.Text

/-!
# Socket.IO messages, and reading them as JSON

A Socket.IO message (`sio_message.h`) is a tree of the same shape as a JSON value.
`DetectBase.Json.toMessage` is the translation one would write by recursion: containers member
by member and element by element, every number as a `double`.

`DetectBase.createJson` (`sio_parser.cpp`) goes the other way, with one twist: a string of the
message is first tried as a JSON text, and only a string that is not one is kept as it stands
(`DetectBase.readString`). So the two are not inverse to each other. What decoding does to the
translation of a value is `DetectBase.Json.reread`: the tree keeps its shape, its keys and its
order, a string that is a JSON text becomes the value it denotes, and an integer becomes the
nearest `double` (`DetectBase.createJson_toMessage`).
-/

namespace DetectBase

/-- A Socket.IO message (`sio::message::ptr`). -/
inductive Message where
  /-- `int_message`. -/
  | integer (n : ℤ) : Message
  /-- `double_message`. -/
  | double (x : Double) : Message
  /-- `string_message`. -/
  | string (s : String) : Message
  /-- `binary_message`. -/
  | binary (bytes : List UInt8) : Message
  /-- `array_message`. -/
  | array (ms : List Message) : Message
  /-- `object_message`, its entries in key order. -/
  | object (kms : List (String × Message)) : Message
  /-- `bool_message`. -/
  | boolean (b : Bool) : Message
  /-- `null_message`. -/
  | null : Message
  /-- The null pointer. -/
  | nullptr : Message

/-! ### The structural translation -/

namespace Json

mutual

/-- **The structural translation** of a JSON value into a message. -/
def toMessage : Json → Message
  | .null => .null
  | .bool b => .boolean b
  | .int n => .double (ofInt binary64 n)
  | .float x => .double x
  | .str s => .string s
  | .arr xs => .array (toMessageList xs)
  | .obj kvs => .object (toMessageMembers kvs)

/-- The translation of every element of a list. -/
def toMessageList : List Json → List Message
  | [] => []
  | x :: xs => toMessage x :: toMessageList xs

/-- The translation of every member of an object. -/
def toMessageMembers : List (String × Json) → List (String × Message)
  | [] => []
  | (k, x) :: kvs => (k, toMessage x) :: toMessageMembers kvs

end

@[simp] theorem toMessage_arr (xs : List Json) :
    toMessage (.arr xs) = .array (xs.map toMessage) := by
  rw [toMessage]
  congr 1
  induction xs with
  | nil => rfl
  | cons x xs ih => rw [toMessageList, ih, List.map_cons]

@[simp] theorem toMessage_obj (kvs : List (String × Json)) :
    toMessage (.obj kvs) = .object (kvs.map fun kv => (kv.1, toMessage kv.2)) := by
  rw [toMessage]
  congr 1
  induction kvs with
  | nil => rfl
  | cons kv kvs ih => rw [toMessageMembers, ih, List.map_cons]

end Json

/-! ### Decoding -/

mutual

/-- The recursion of `createJson`, for any reading of the strings. -/
def createJsonWith (read : String → Json) : Message → Json
  | .integer n => .int n
  | .double x => .float x
  | .string s => read s
  | .binary _ => .null
  | .array ms => .arr (createJsonList read ms)
  | .object kms => .obj (createJsonMembers read [] kms)
  | .boolean b => .bool b
  | .null => .null
  | .nullptr => .null

/-- The elements of a decoded array. -/
def createJsonList (read : String → Json) : List Message → List Json
  | [] => []
  | m :: ms => createJsonWith read m :: createJsonList read ms

/-- The members of a decoded object, assigned one after the other. -/
def createJsonMembers (read : String → Json) (acc : List (String × Json)) :
    List (String × Message) → List (String × Json)
  | [] => acc
  | (k, m) :: kms => createJsonMembers read (assign k (createJsonWith read m) acc) kms

end

/-- How `createJson` reads a string: as the JSON text it is, or else as itself. -/
def readString (s : String) : Json := (parse s).getD (.str s)

/-- **`createJson`**. -/
def createJson (m : Message) : Json := createJsonWith readString m

@[simp] theorem createJsonWith_array (read : String → Json) (ms : List Message) :
    createJsonWith read (.array ms) = .arr (ms.map (createJsonWith read)) := by
  rw [createJsonWith]
  congr 1
  induction ms with
  | nil => rfl
  | cons m ms ih => rw [createJsonList, ih, List.map_cons]

theorem createJsonMembers_eq (read : String → Json) (kms : List (String × Message)) :
    ∀ acc, createJsonMembers read acc kms =
      (kms.map fun km => (km.1, createJsonWith read km.2)).foldl
        (fun acc e => assign e.1 e.2 acc) acc := by
  induction kms with
  | nil => intro acc; rfl
  | cons km kms ih => intro acc; rw [createJsonMembers, ih, List.map_cons, List.foldl_cons]

/-- A message object whose entries are in order is decoded entry by entry. -/
theorem createJsonWith_object (read : String → Json) {kms : List (String × Message)}
    (h : SortedKeys kms) : createJsonWith read (.object kms) =
      .obj (kms.map fun km => (km.1, createJsonWith read km.2)) := by
  rw [createJsonWith, createJsonMembers_eq, foldl_assign_sorted h.map_snd]

/-! ### What decoding makes of a translated value -/

namespace Json

/-- A leaf after the round trip: an integer has become the nearest `double`, a string its
reading. -/
def rereadLeaf (read : String → Json) : Json → Json
  | .int n => .float (ofInt binary64 n)
  | .str s => read s
  | j => j

/-- The value with all its leaves reread. -/
def reread (read : String → Json) : Json → Json := mapLeaves (rereadLeaf read)

/-- **Decoding the translation rereads the value**, whatever the reading of strings. -/
theorem createJsonWith_toMessage (read : String → Json) (v : Json) (h : v.WF) :
    createJsonWith read v.toMessage = v.reread read := by
  induction v using Json.induction with
  | null | bool | int | float | str => rfl
  | arr xs ih =>
    rw [toMessage_arr, createJsonWith_array, reread, mapLeaves_arr, List.map_map]
    congr 1
    exact List.map_congr_left fun x hx => ih x hx (wf_arr.mp h x hx)
  | obj kvs ih =>
    obtain ⟨hsort, hwf⟩ := wf_obj.mp h
    rw [toMessage_obj, createJsonWith_object read hsort.map_snd, reread, mapLeaves_obj,
      List.map_map]
    congr 1
    exact List.map_congr_left fun kv hkv => Prod.ext rfl (ih kv hkv (hwf kv hkv))

/-- An integer of at most 53 bits is the whole number that its `double` stands for. -/
theorem byValueLeaf_ofInt {n : ℤ} (h : n.natAbs ≤ 2 ^ 53) :
    byValueLeaf (.float (ofInt binary64 n)) = .int n := by
  have hrep : binary64.Representable (n.natAbs * 2 ^ binary64.scale) := by
    have hlt : n.natAbs * 2 ^ binary64.scale < 2 ^ binary64.width := by
      refine lt_of_le_of_lt (Nat.mul_le_mul_right _ h) ?_
      rw [← pow_add]
      exact Nat.pow_lt_pow_right (by decide) (by decide)
    rcases Nat.lt_or_ge n.natAbs (2 ^ 53) with hn | hn
    · exact ⟨n.natAbs, binary64.scale, hn, rfl, hlt⟩
    · refine ⟨2 ^ 52, binary64.scale + 1, by decide, ?_, hlt⟩
      rw [le_antisymm h hn, pow_succ 2 binary64.scale]
      ring
  obtain ⟨x, hx, hval⟩ := ofInt_exact hrep
  have hne : (2 : ℚ) ^ binary64.scale ≠ 0 := by positivity
  have hunits : x.units = n * 2 ^ binary64.scale := by
    rw [BinaryFloat.value, div_eq_iff hne] at hval
    exact_mod_cast hval
  have hpos : (0 : ℤ) < 2 ^ binary64.scale := by positivity
  rw [hx, byValueLeaf, hunits, if_pos (Int.mul_emod_left _ _), Int.mul_ediv_cancel _ hpos.ne']

/-- Rereading changes nothing but the form of the numbers when no string is a JSON text and
every integer is a `double`. -/
theorem byValue_reread {v : Json} (hstr : ∀ s, .str s ∈ v.leaves → parse s = none)
    (hint : ∀ n : ℤ, .int n ∈ v.leaves → n.natAbs ≤ 2 ^ 53) :
    (v.reread readString).byValue = v.byValue := by
  have hplain : v.reread readString = v.reread .str := by
    refine mapLeaves_congr fun l hl => ?_
    cases l with
    | str s => rw [rereadLeaf, readString, hstr s hl]; rfl
    | null | bool | int | float | arr | obj => rfl
  have hleaf : ∀ l : Json, l.isLeaf = true → (rereadLeaf .str l).isLeaf = true := by
    intro l hl
    cases l with
    | arr | obj => cases hl
    | null | bool | int | float | str => rfl
  rw [hplain, reread, byValue, mapLeaves_mapLeaves hleaf]
  refine mapLeaves_congr fun l hl => ?_
  cases l with
  | int n =>
    rw [Function.comp_apply, rereadLeaf, byValueLeaf_ofInt (hint n hl)]
    rfl
  | null | bool | float | str | arr | obj => rfl

end Json

/-- **What `createJson` makes of the structural translation of a value**: the value itself,
in shape, keys and order, with every string that is a JSON text replaced by the value it
denotes, and every integer by the nearest `double`. When no string of the value is a JSON text
and its integers have at most 53 bits, that is the value itself, numbers compared by value. -/
theorem createJson_toMessage (v : JsonValue) :
    createJson v.1.toMessage = v.1.reread readString ∧
      ((∀ s, .str s ∈ v.1.leaves → parse s = none) →
        (∀ n : ℤ, .int n ∈ v.1.leaves → n.natAbs ≤ 2 ^ 53) →
          (createJson v.1.toMessage).byValue = v.1.byValue) := by
  have heq : createJson v.1.toMessage = v.1.reread readString :=
    Json.createJsonWith_toMessage readString v.1 v.2
  refine ⟨heq, fun hstr hint => ?_⟩
  rw [heq]
  exact Json.byValue_reread hstr hint

/-- A string that is a JSON text does not survive: `"1"` comes back as the number. -/
theorem not_createJson_toMessage_id :
    ¬ ∀ v : JsonValue, (createJson v.1.toMessage).byValue = v.1.byValue := by
  intro h
  have h1 := h ⟨.str "1", trivial⟩
  revert h1
  decide +kernel

end DetectBase
