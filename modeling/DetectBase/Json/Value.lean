import DetectBase.Foundations.BinaryFloat
import DetectBase.Foundations.SortedAssoc
import Mathlib.Data.String.Basic

/-!
# JSON values

The value type of the vendored JSON library (`json.hpp`), with the accessors that the rest of
the service uses. An object is the list of its members in key order, as the library's
`std::map` keeps them; `DetectBase.Json.WF` states that order for every object of a tree, and
`DetectBase.JsonValue` is the type of the trees that satisfy it.

Two accessors can fail, and the failure is part of the model:

* `get<T>()` throws `type_error.302` when the kind of the value does not fit `T`;
* `value(key, default)` throws `type_error.306` when it is asked of something that is not an
  object, and otherwise behaves as `get<T>()` on the member if there is one.

The library's signed and unsigned integers are one constructor here: nothing below tells them
apart. A conversion to `int` keeps the low 32 bits of an integer, and truncates a `double`
(out of its range the conversion is the saturating one of the target, aarch64).
-/

namespace DetectBase

/-- A JSON value (`nlohmann::json`). -/
inductive Json where
  /-- The null value. -/
  | null : Json
  /-- A boolean. -/
  | bool (b : Bool) : Json
  /-- A number held as an integer. -/
  | int (n : ℤ) : Json
  /-- A number held as a `double`. -/
  | float (x : Double) : Json
  /-- A string. -/
  | str (s : String) : Json
  /-- An array. -/
  | arr (xs : List Json) : Json
  /-- An object, its members in key order. -/
  | obj (kvs : List (String × Json)) : Json

namespace Json

/-! ### Induction and equality -/

/-- Induction over a tree, with the hypothesis for every element of an array and every member
of an object. -/
@[elab_as_elim]
theorem induction {P : Json → Prop} (j : Json) (null : P .null) (bool : ∀ b, P (.bool b))
    (int : ∀ n, P (.int n)) (float : ∀ x, P (.float x)) (str : ∀ s, P (.str s))
    (arr : ∀ xs, (∀ x ∈ xs, P x) → P (.arr xs))
    (obj : ∀ kvs, (∀ kv ∈ kvs, P kv.2) → P (.obj kvs)) : P j :=
  @Json.rec P (fun xs => ∀ x ∈ xs, P x) (fun kvs => ∀ kv ∈ kvs, P kv.2) (fun kv => P kv.2)
    null bool int float str arr obj
    (by simp) (fun _ _ hx hxs => List.forall_mem_cons.mpr ⟨hx, hxs⟩)
    (by simp) (fun _ _ hx hxs => List.forall_mem_cons.mpr ⟨hx, hxs⟩) (fun _ _ h => h) j

mutual

/-- Structural equality of trees. -/
def decEq : (a b : Json) → Decidable (a = b)
  | .null, .null => isTrue rfl
  | .bool a, .bool b => decidable_of_iff (a = b) (by simp)
  | .int a, .int b => decidable_of_iff (a = b) (by simp)
  | .float a, .float b => decidable_of_iff (a = b) (by simp)
  | .str a, .str b => decidable_of_iff (a = b) (by simp)
  | .arr a, .arr b => @decidable_of_iff _ (a = b) (by simp) (decEqList a b)
  | .obj a, .obj b => @decidable_of_iff _ (a = b) (by simp) (decEqMembers a b)
  | .null, .bool _ | .null, .int _ | .null, .float _ | .null, .str _ | .null, .arr _
  | .null, .obj _ | .bool _, .null | .bool _, .int _ | .bool _, .float _ | .bool _, .str _
  | .bool _, .arr _ | .bool _, .obj _ | .int _, .null | .int _, .bool _ | .int _, .float _
  | .int _, .str _ | .int _, .arr _ | .int _, .obj _ | .float _, .null | .float _, .bool _
  | .float _, .int _ | .float _, .str _ | .float _, .arr _ | .float _, .obj _
  | .str _, .null | .str _, .bool _ | .str _, .int _ | .str _, .float _ | .str _, .arr _
  | .str _, .obj _ | .arr _, .null | .arr _, .bool _ | .arr _, .int _ | .arr _, .float _
  | .arr _, .str _ | .arr _, .obj _ | .obj _, .null | .obj _, .bool _ | .obj _, .int _
  | .obj _, .float _ | .obj _, .str _ | .obj _, .arr _ => isFalse (by simp)

/-- Structural equality of lists of trees. -/
def decEqList : (a b : List Json) → Decidable (a = b)
  | [], [] => isTrue rfl
  | [], _ :: _ => isFalse (by simp)
  | _ :: _, [] => isFalse (by simp)
  | x :: xs, y :: ys =>
    match decEq x y, decEqList xs ys with
    | isTrue h, isTrue h' => isTrue (by rw [h, h'])
    | isFalse h, _ => isFalse fun he => h (List.cons.inj he).1
    | _, isFalse h => isFalse fun he => h (List.cons.inj he).2

/-- Structural equality of lists of members. -/
def decEqMembers : (a b : List (String × Json)) → Decidable (a = b)
  | [], [] => isTrue rfl
  | [], _ :: _ => isFalse (by simp)
  | _ :: _, [] => isFalse (by simp)
  | (k, x) :: xs, (l, y) :: ys =>
    match decEq x y, decEqMembers xs ys with
    | isFalse h, _ => isFalse fun he => h (Prod.mk.inj (List.cons.inj he).1).2
    | _, isFalse h => isFalse fun he => h (List.cons.inj he).2
    | isTrue h, isTrue h' =>
      if hk : k = l then isTrue (by rw [h, h', hk])
      else isFalse fun he => hk (Prod.mk.inj (List.cons.inj he).1).1

end

instance : DecidableEq Json := decEq

/-! ### Working on the leaves -/

/-- Neither an array nor an object. -/
def isLeaf : Json → Bool
  | .arr _ => false
  | .obj _ => false
  | _ => true

mutual

/-- The tree with a function applied to each of its leaves. -/
def mapLeaves (f : Json → Json) : Json → Json
  | .arr xs => .arr (mapLeavesList f xs)
  | .obj kvs => .obj (mapLeavesMembers f kvs)
  | j => f j

/-- `DetectBase.Json.mapLeaves` on every element of a list. -/
def mapLeavesList (f : Json → Json) : List Json → List Json
  | [] => []
  | x :: xs => mapLeaves f x :: mapLeavesList f xs

/-- `DetectBase.Json.mapLeaves` on every member of an object. -/
def mapLeavesMembers (f : Json → Json) : List (String × Json) → List (String × Json)
  | [] => []
  | (k, x) :: kvs => (k, mapLeaves f x) :: mapLeavesMembers f kvs

end

mutual

/-- The leaves of a tree, in order. -/
def leaves : Json → List Json
  | .arr xs => leavesList xs
  | .obj kvs => leavesMembers kvs
  | j => [j]

/-- The leaves of every element of a list. -/
def leavesList : List Json → List Json
  | [] => []
  | x :: xs => leaves x ++ leavesList xs

/-- The leaves of every member of an object. -/
def leavesMembers : List (String × Json) → List Json
  | [] => []
  | (_, x) :: kvs => leaves x ++ leavesMembers kvs

end

@[simp] theorem mapLeaves_arr (f : Json → Json) (xs : List Json) :
    mapLeaves f (.arr xs) = .arr (xs.map (mapLeaves f)) := by
  rw [mapLeaves]
  congr 1
  induction xs with
  | nil => rfl
  | cons x xs ih => rw [mapLeavesList, ih, List.map_cons]

@[simp] theorem mapLeaves_obj (f : Json → Json) (kvs : List (String × Json)) :
    mapLeaves f (.obj kvs) = .obj (kvs.map fun kv => (kv.1, mapLeaves f kv.2)) := by
  rw [mapLeaves]
  congr 1
  induction kvs with
  | nil => rfl
  | cons kv kvs ih => rw [mapLeavesMembers, ih, List.map_cons]

theorem mapLeaves_of_isLeaf (f : Json → Json) {j : Json} (h : j.isLeaf = true) :
    mapLeaves f j = f j := by
  cases j with
  | arr | obj => cases h
  | null | bool | int | float | str => rfl

@[simp] theorem mem_leaves_arr {xs : List Json} {l : Json} :
    l ∈ leaves (.arr xs) ↔ ∃ x ∈ xs, l ∈ leaves x := by
  rw [leaves]
  induction xs with
  | nil => simp [leavesList]
  | cons x xs ih => simp [leavesList, ih]

@[simp] theorem mem_leaves_obj {kvs : List (String × Json)} {l : Json} :
    l ∈ leaves (.obj kvs) ↔ ∃ kv ∈ kvs, l ∈ leaves kv.2 := by
  rw [leaves]
  induction kvs with
  | nil => simp [leavesMembers]
  | cons kv kvs ih => rw [leavesMembers, List.mem_append, ih, List.exists_mem_cons_iff]

/-- Functions that agree on the leaves of a tree do the same to it. -/
theorem mapLeaves_congr {f g : Json → Json} {v : Json} (h : ∀ l ∈ v.leaves, f l = g l) :
    v.mapLeaves f = v.mapLeaves g := by
  induction v using Json.induction with
  | null | bool | int | float | str => exact h _ (by simp [leaves])
  | arr xs ih =>
    rw [mapLeaves_arr, mapLeaves_arr]
    congr 1
    exact List.map_congr_left fun x hx => ih x hx fun l hl => h l (mem_leaves_arr.mpr ⟨x, hx, hl⟩)
  | obj kvs ih =>
    rw [mapLeaves_obj, mapLeaves_obj]
    congr 1
    refine List.map_congr_left fun kv hkv => Prod.ext rfl ?_
    exact ih kv hkv fun l hl => h l (mem_leaves_obj.mpr ⟨kv, hkv, hl⟩)

/-- Two passes over the leaves are one, when the first keeps them leaves. -/
theorem mapLeaves_mapLeaves {f g : Json → Json} (hg : ∀ l, l.isLeaf = true → (g l).isLeaf = true)
    (v : Json) : (v.mapLeaves g).mapLeaves f = v.mapLeaves (f ∘ g) := by
  induction v using Json.induction with
  | null | bool | int | float | str => exact mapLeaves_of_isLeaf f (hg _ rfl)
  | arr xs ih =>
    rw [mapLeaves_arr, mapLeaves_arr, mapLeaves_arr, List.map_map]
    congr 1
    exact List.map_congr_left ih
  | obj kvs ih =>
    rw [mapLeaves_obj, mapLeaves_obj, mapLeaves_obj, List.map_map]
    congr 1
    exact List.map_congr_left fun kv hkv => Prod.ext rfl (ih kv hkv)

/-- A leaf, with a `double` that is a whole number replaced by that integer. -/
def byValueLeaf : Json → Json
  | .float (.finite x) =>
    if x.units % 2 ^ binary64.scale = 0 then .int (x.units / 2 ^ binary64.scale)
    else .float (.finite x)
  | j => j

/-- The value with every whole number held as an integer. Two values that differ only in how
they hold their numbers have the same image. -/
def byValue : Json → Json := mapLeaves byValueLeaf

/-! ### Kinds and members -/

/-- `is_array()`. -/
def isArray : Json → Bool
  | .arr _ => true
  | _ => false

/-- `is_object()`. -/
def isObject : Json → Bool
  | .obj _ => true
  | _ => false

/-- `is_number_integer()`. -/
def isNumberInteger : Json → Bool
  | .int _ => true
  | _ => false

/-- `is_number()`. -/
def isNumber : Json → Bool
  | .int _ => true
  | .float _ => true
  | _ => false

/-- `is_string()`. -/
def isString : Json → Bool
  | .str _ => true
  | _ => false

/-- `empty()`: null and the containers without an element. A string is never empty in this
sense, nor is any other scalar. -/
def isEmpty : Json → Bool
  | .null => true
  | .arr xs => xs.isEmpty
  | .obj kvs => kvs.isEmpty
  | _ => false

/-- The member of an object under a key, if the value is an object and has one. -/
def member? : Json → String → Option Json
  | .obj kvs, key => kvs.lookup key
  | _, _ => none

/-- `contains(key)`: false on everything that is not an object. -/
def contains (j : Json) (key : String) : Bool := (j.member? key).isSome

/-- `json::array()`. -/
def array : Json := .arr []

/-- `json::object()`. -/
def object : Json := .obj []

/-! ### Typed access -/

/-- The exceptions of the library that the accessors below throw, by the number in their
text. -/
inductive Exception where
  /-- `type_error.302`: the kind of the value does not fit the requested type. -/
  | typeError302 : Exception
  /-- `type_error.305`: `operator[]` with a key on something that is not an object. -/
  | typeError305 : Exception
  /-- `type_error.306`: `value()` asked of something that is not an object. -/
  | typeError306 : Exception
deriving DecidableEq

/-- The integer part of a `double`, cut to the given range. -/
def truncTo (lo hi : ℤ) : Double → ℤ
  | .finite x => max lo (min hi (x.units.tdiv (2 ^ binary64.scale)))
  | .infinite neg => if neg then lo else hi

/-- `get<int>()`: any number, or a boolean. -/
def getInt : Json → Except Exception ℤ
  | .int n => .ok (n.bmod (2 ^ 32))
  | .float x => .ok (truncTo (-2 ^ 31) (2 ^ 31 - 1) x)
  | .bool b => .ok (if b then 1 else 0)
  | _ => .error .typeError302

/-- `get<E>()` for an enumeration without negative enumerators, read back as an `int`: any
number, but no boolean. -/
def getEnum : Json → Except Exception ℤ
  | .int n => .ok (n.bmod (2 ^ 32))
  | .float x => .ok ((truncTo 0 (2 ^ 32 - 1) x).bmod (2 ^ 32))
  | _ => .error .typeError302

/-- `get<float>()`: any number, or a boolean. -/
def getFloat : Json → Except Exception Single
  | .int n => .ok (ofInt binary32 n)
  | .float x => .ok (x.convert binary32)
  | .bool b => .ok (ofInt binary32 (if b then 1 else 0))
  | _ => .error .typeError302

/-- `get<std::string>()`. -/
def getString : Json → Except Exception String
  | .str s => .ok s
  | _ => .error .typeError302

/-- `value(key, default)`, for the reading `get` of the requested type. -/
def value {α : Type} (get : Json → Except Exception α) (j : Json) (key : String) (dflt : α) :
    Except Exception α :=
  match j with
  | .obj kvs =>
    match kvs.lookup key with
    | some v => get v
    | none => .ok dflt
  | _ => .error .typeError306

/-! ### The order of members -/

mutual

/-- Every object of the tree keeps its members in strictly increasing key order. -/
def WF : Json → Prop
  | .arr xs => WFList xs
  | .obj kvs => SortedKeys kvs ∧ WFMembers kvs
  | _ => True

/-- `DetectBase.Json.WF` for every element of a list. -/
def WFList : List Json → Prop
  | [] => True
  | x :: xs => WF x ∧ WFList xs

/-- `DetectBase.Json.WF` for every member of an object. -/
def WFMembers : List (String × Json) → Prop
  | [] => True
  | (_, x) :: xs => WF x ∧ WFMembers xs

end

@[simp] theorem wf_arr {xs : List Json} : WF (.arr xs) ↔ ∀ x ∈ xs, WF x := by
  rw [WF]
  induction xs with
  | nil => simp [WFList]
  | cons x xs ih => simp [WFList, ih]

@[simp] theorem wf_obj {kvs : List (String × Json)} :
    WF (.obj kvs) ↔ SortedKeys kvs ∧ ∀ kv ∈ kvs, WF kv.2 := by
  rw [WF]
  refine and_congr Iff.rfl ?_
  induction kvs with
  | nil => simp [WFMembers]
  | cons kv kvs ih => rw [WFMembers, ih, List.forall_mem_cons]

end Json

/-- **`filterJsonArray`**: the objects of an array with the given value under the key. A value
that is not a number throws, and what is not an array becomes the empty one. -/
def filterJsonArray (target : Json) (key : String) (unit : ℤ) :
    Except Json.Exception (List Json) :=
  match target with
  | .arr objs => objs.filterM fun obj =>
    match obj.member? key with
    | some v => do return decide ((← v.getInt) = unit)
    | none => .ok false
  | _ => .ok []

/-- **A JSON value**: a tree whose objects are in key order. -/
abbrev JsonValue := { j : Json // j.WF }

end DetectBase
