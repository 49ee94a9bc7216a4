import DetectBase.SocketIO.Decode

/-!
# Building Socket.IO messages from JSON

`buildSioFromJson` (`sio_parser.cpp`) builds the message of a JSON value without recursion, from
a stack of work items. An item holds a node of the JSON tree and a closure that attaches the
finished message to its parent: `get_map()[key] = v` for an object, `get_vector().push_back(v)`
for an array. Messages are shared pointers, so a parent is attached to *its* parent before its own
children are; the model keeps the messages in a heap (`DetectBase.Node`, an address is an index)
and reads the tree off at the end (`DetectBase.readMessage`).

The stack is last-in first-out and the children of a node are pushed in order, so they are
attached in the opposite order. A map does not notice, a vector does: the message built for a
value is the translation of its mirror image, in which every array at every depth is reversed
(`DetectBase.buildSioFromJson_eq`). It is the translation of the value itself only for values that
are their own mirror image (`DetectBase.buildSioFromJson_eq_toMessage_iff`).

The proof names the heap that the loop leaves behind (`DetectBase.layout`): the messages of a
node stand in one block, in the order of their creation.
-/

namespace DetectBase

/-! ### The heap of messages -/

/-- A message in memory. A container holds the addresses of its parts. -/
inductive Node where
  /-- A message without parts. -/
  | leaf (m : Message) : Node
  /-- An `array_message`. -/
  | arr (elements : List ℕ) : Node
  /-- An `object_message`. -/
  | obj (entries : List (String × ℕ)) : Node

/-- The closure `assign` of a work item, by what it captures. -/
inductive Assign where
  /-- `[obj, key](v) { obj->get_map()[key] = v; }` -/
  | entry (obj : ℕ) (key : String) : Assign
  /-- `[arr](v) { arr->get_vector().push_back(v); }` -/
  | element (arr : ℕ) : Assign

namespace Assign

/-- The captured parent. -/
def target : Assign → ℕ
  | entry obj _ => obj
  | element arr => arr

/-- What the closure does to the parent. -/
def attach (v : ℕ) : Assign → Node → Node
  | entry _ key, .obj es => .obj (assign key v es)
  | element _, .arr as => .arr (as ++ [v])
  | _, node => node

/-- Calling the closure on the message at address `v`. -/
def run (α : Assign) (v : ℕ) (heap : List Node) : List Node :=
  heap.modify α.target (α.attach v)

end Assign

/-- `WorkItem`. -/
structure WorkItem where
  /-- How the finished message is attached to its parent. -/
  assign : Assign
  /-- The node of the tree it is made from. -/
  node : Json

/-- The message that `create` makes for a node: a leaf in full, a container empty. -/
def create : Json → Node
  | .arr _ => .arr []
  | .obj _ => .obj []
  | j => .leaf j.toMessage

/-- The work items of the children of a node at address `p`, in the order of iteration. -/
def workItems (p : ℕ) : Json → List WorkItem
  | .arr xs => xs.map fun x => ⟨.element p, x⟩
  | .obj kvs => kvs.map fun kv => ⟨.entry p kv.1, kv.2⟩
  | _ => []

theorem sum_sizeOf_workItems_lt (p : ℕ) (j : Json) :
    ((workItems p j).map fun item => sizeOf item.node).sum < sizeOf j := by
  cases j with
  | arr xs =>
    suffices h : (xs.map fun x => sizeOf x).sum ≤ sizeOf xs by
      simp only [workItems, List.map_map, Function.comp_def, Json.arr.sizeOf_spec]
      omega
    induction xs with
    | nil => simp
    | cons x xs ih =>
      simp only [List.map_cons, List.sum_cons, List.cons.sizeOf_spec]
      omega
  | obj kvs =>
    suffices h : (kvs.map fun kv => sizeOf kv.2).sum ≤ sizeOf kvs by
      simp only [workItems, List.map_map, Function.comp_def, Json.obj.sizeOf_spec]
      omega
    induction kvs with
    | nil => simp
    | cons kv kvs ih =>
      obtain ⟨k, x⟩ := kv
      simp only [List.map_cons, List.sum_cons, List.cons.sizeOf_spec, Prod.mk.sizeOf_spec]
      omega
  | null | bool | int | float | str => simp [workItems]

/-- The loop `while (!stk.empty())`, the top of the stack first. The children of a node are
pushed one after the other, so that the last one ends on top. -/
def buildLoop (heap : List Node) : List WorkItem → List Node
  | [] => heap
  | item :: stk =>
    let v := heap.length
    buildLoop (item.assign.run v (heap ++ [create item.node]))
      ((workItems v item.node).reverse ++ stk)
termination_by stk => (stk.map fun item => sizeOf item.node).sum
decreasing_by
  have h := sum_sizeOf_workItems_lt heap.length item.node
  simp only [List.map_append, List.map_reverse, List.sum_append, List.sum_reverse,
    List.map_cons, List.sum_cons]
  omega

/-- The message tree at an address, to the given depth. -/
def readMessage (heap : List Node) : ℕ → ℕ → Message
  | 0, _ => .nullptr
  | fuel + 1, a =>
    match heap[a]? with
    | some (.leaf m) => m
    | some (.arr as) => .array (as.map (readMessage heap fuel))
    | some (.obj es) => .object (es.map fun e => (e.1, readMessage heap fuel e.2))
    | none => .nullptr

/-- **`buildSioFromJson`**: the root is at address 0. No path is longer than the heap. -/
def buildSioFromJson (root : Json) : Message :=
  let heap := buildLoop [create root] (workItems 0 root).reverse
  readMessage heap heap.length 0

/-- `createObject`. -/
def createObject (o : Json) : Message :=
  if o.isObject then buildSioFromJson o else .object []

/-- `createArray`. -/
def createArray (a : Json) : Message :=
  if a.isArray then buildSioFromJson a else .array []

/-! ### The heap that the loop leaves behind -/

mutual

/-- The messages made for a node, the first of them at address `n`. -/
def layout (n : ℕ) : Json → List Node
  | .arr xs => .arr (layoutElements (n + 1) xs).2 :: (layoutElements (n + 1) xs).1
  | .obj kvs => .obj (layoutEntries (n + 1) kvs).2 :: (layoutEntries (n + 1) kvs).1
  | j => [create j]

/-- The messages made for the elements of an array, the last element first, and the addresses
of the elements in the order in which they are attached. -/
def layoutElements (n : ℕ) : List Json → List Node × List ℕ
  | [] => ([], [])
  | x :: xs =>
    let below := layoutElements n xs
    let a := n + below.1.length
    (below.1 ++ layout a x, below.2 ++ [a])

/-- The messages made for the members of an object, the last member first, and the entries
that result. -/
def layoutEntries (n : ℕ) : List (String × Json) → List Node × List (String × ℕ)
  | [] => ([], [])
  | (k, x) :: kvs =>
    let below := layoutEntries n kvs
    let a := n + below.1.length
    (below.1 ++ layout a x, assign k a below.2)

end

theorem modify_append_of_lt {γ : Type*} {f : γ → γ} {l t : List γ} :
    ∀ {i : ℕ}, i < l.length → (l ++ t).modify i f = l.modify i f ++ t := by
  induction l with
  | nil => intro i h; exact absurd h (Nat.not_lt_zero i)
  | cons a l ih =>
    intro i h
    cases i with
    | zero => rfl
    | succ i =>
      rw [List.cons_append, List.modify_succ_cons, List.modify_succ_cons, List.cons_append,
        ih (Nat.lt_of_succ_lt_succ h)]

theorem modify_append_cons {γ : Type*} {f : γ → γ} {a : γ} {l t : List γ} :
    (l ++ a :: t).modify l.length f = l ++ f a :: t := by
  induction l with
  | nil => rfl
  | cons b l ih => rw [List.cons_append, List.length_cons, List.modify_succ_cons, ih]; rfl

section Layout

/-- Working off one item, with all that it pushes: its message is attached to the parent, and
the block of its messages is appended to the heap. -/
def WorksOff (v : Json) : Prop :=
  ∀ (α : Assign) (heap : List Node) (stk : List WorkItem), α.target < heap.length →
    buildLoop heap (⟨α, v⟩ :: stk) =
      buildLoop (α.run heap.length heap ++ layout heap.length v) stk

variable {heap : List Node} {stk : List WorkItem}

-- The induction is on the list in its own order: the last element lies deepest under the top
-- when the first is reached, so the tail is worked off first.
theorem buildLoop_elements {xs : List Json} (hxs : ∀ x ∈ xs, WorksOff x) :
    ∀ stk, buildLoop (heap ++ [.arr []]) ((workItems heap.length (.arr xs)).reverse ++ stk) =
      buildLoop (heap ++ .arr (layoutElements (heap.length + 1) xs).2 ::
        (layoutElements (heap.length + 1) xs).1) stk := by
  induction xs with
  | nil => intro stk; rfl
  | cons x xs ih =>
    intro stk
    have htail := ih (fun y hy => hxs y (by simp [hy])) (⟨.element heap.length, x⟩ :: stk)
    rw [workItems] at htail ⊢
    rw [List.map_cons, List.reverse_cons, List.append_assoc, List.singleton_append, htail,
      hxs x (by simp) _ _ _ (by simp [Assign.target])]
    have hlen : (heap ++ .arr (layoutElements (heap.length + 1) xs).2 ::
        (layoutElements (heap.length + 1) xs).1).length =
          heap.length + 1 + (layoutElements (heap.length + 1) xs).1.length := by
      simp only [List.length_append, List.length_cons]
      omega
    rw [hlen, Assign.run, Assign.target, modify_append_cons, layoutElements, List.append_assoc,
      List.cons_append]
    rfl

theorem buildLoop_entries {kvs : List (String × Json)} (hkvs : ∀ kv ∈ kvs, WorksOff kv.2) :
    ∀ stk, buildLoop (heap ++ [.obj []]) ((workItems heap.length (.obj kvs)).reverse ++ stk) =
      buildLoop (heap ++ .obj (layoutEntries (heap.length + 1) kvs).2 ::
        (layoutEntries (heap.length + 1) kvs).1) stk := by
  induction kvs with
  | nil => intro stk; rfl
  | cons kv kvs ih =>
    intro stk
    have htail := ih (fun y hy => hkvs y (by simp [hy])) (⟨.entry heap.length kv.1, kv.2⟩ :: stk)
    rw [workItems] at htail ⊢
    rw [List.map_cons, List.reverse_cons, List.append_assoc, List.singleton_append, htail,
      hkvs kv (by simp) _ _ _ (by simp [Assign.target])]
    have hlen : (heap ++ .obj (layoutEntries (heap.length + 1) kvs).2 ::
        (layoutEntries (heap.length + 1) kvs).1).length =
          heap.length + 1 + (layoutEntries (heap.length + 1) kvs).1.length := by
      simp only [List.length_append, List.length_cons]
      omega
    rw [hlen, Assign.run, Assign.target, modify_append_cons, layoutEntries, List.append_assoc,
      List.cons_append]
    rfl

/-- Taking an item off the stack. -/
theorem buildLoop_cons {α : Assign} {v : Json} (h : α.target < heap.length) :
    buildLoop heap (⟨α, v⟩ :: stk) =
      buildLoop (α.run heap.length heap ++ [create v])
        ((workItems (α.run heap.length heap).length v).reverse ++ stk) := by
  rw [buildLoop, Assign.run, modify_append_of_lt h, ← Assign.run]
  congr 4
  rw [Assign.run, List.length_modify]

theorem worksOff (v : Json) : WorksOff v := by
  induction v using Json.induction with
  | null | bool | int | float | str =>
    intro α heap stk h
    exact buildLoop_cons h
  | arr xs ih =>
    intro α heap stk h
    rw [buildLoop_cons h, create, buildLoop_elements ih, Assign.run, List.length_modify, layout]
  | obj kvs ih =>
    intro α heap stk h
    rw [buildLoop_cons h, create, buildLoop_entries ih, Assign.run, List.length_modify, layout]

/-- **The heap that the loop leaves behind** for a root. -/
theorem buildLoop_root (root : Json) :
    buildLoop [create root] (workItems 0 root).reverse = layout 0 root := by
  cases root with
  | null | bool | int | float | str =>
    rw [workItems, List.reverse_nil, buildLoop, layout]
    all_goals nofun
  | arr xs =>
    have h := @buildLoop_elements [] xs (fun x _ => worksOff x) []
    rw [List.append_nil, buildLoop] at h
    exact h
  | obj kvs =>
    have h := @buildLoop_entries [] kvs (fun kv _ => worksOff kv.2) []
    rw [List.append_nil, buildLoop] at h
    exact h

end Layout

/-! ### The tree read off the heap -/

namespace Json

mutual

/-- The mirror image of a tree: every array reversed, at every depth. -/
def mirror : Json → Json
  | .arr xs => .arr (mirrorList xs)
  | .obj kvs => .obj (mirrorMembers kvs)
  | j => j

/-- The mirror images of the elements of a list, the last one first. -/
def mirrorList : List Json → List Json
  | [] => []
  | x :: xs => mirrorList xs ++ [mirror x]

/-- The members of an object, each with the mirror image of its value. -/
def mirrorMembers : List (String × Json) → List (String × Json)
  | [] => []
  | (k, x) :: kvs => (k, mirror x) :: mirrorMembers kvs

end

@[simp] theorem mirror_arr (xs : List Json) :
    mirror (.arr xs) = .arr (xs.map mirror).reverse := by
  rw [mirror]
  congr 1
  induction xs with
  | nil => rfl
  | cons x xs ih => rw [mirrorList, ih, List.map_cons, List.reverse_cons]

@[simp] theorem mirror_obj (kvs : List (String × Json)) :
    mirror (.obj kvs) = .obj (kvs.map fun kv => (kv.1, mirror kv.2)) := by
  rw [mirror]
  congr 1
  induction kvs with
  | nil => rfl
  | cons kv kvs ih => rw [mirrorMembers, ih, List.map_cons]

theorem WF.mirror {v : Json} (h : v.WF) : v.mirror.WF := by
  induction v using Json.induction with
  | null | bool | int | float | str => trivial
  | arr xs ih =>
    rw [mirror_arr, wf_arr]
    intro y hy
    obtain ⟨x, hx, rfl⟩ := List.mem_map.mp (List.mem_reverse.mp hy)
    exact ih x hx (wf_arr.mp h x hx)
  | obj kvs ih =>
    obtain ⟨hsort, hwf⟩ := wf_obj.mp h
    rw [mirror_obj, wf_obj]
    refine ⟨hsort.map_snd, fun kv' hkv' => ?_⟩
    obtain ⟨kv, hkv, rfl⟩ := List.mem_map.mp hkv'
    exact ih kv hkv (hwf kv hkv)

/-- The translation forgets how a number is held, and nothing else. -/
theorem toMessage_reread (v : Json) : (v.reread .str).toMessage = v.toMessage := by
  induction v using Json.induction with
  | null | bool | int | float | str => rfl
  | arr xs ih =>
    rw [reread, mapLeaves_arr, toMessage_arr, toMessage_arr, List.map_map]
    congr 1
    exact List.map_congr_left ih
  | obj kvs ih =>
    rw [reread, mapLeaves_obj, toMessage_obj, toMessage_obj, List.map_map]
    congr 1
    exact List.map_congr_left fun kv hkv => Prod.ext rfl (ih kv hkv)

theorem toMessage_inj {v w : Json} (hv : v.WF) (hw : w.WF) :
    v.toMessage = w.toMessage ↔ v.reread .str = w.reread .str := by
  constructor
  · intro h
    rw [← createJsonWith_toMessage .str v hv, h, createJsonWith_toMessage .str w hw]
  · intro h
    rw [← toMessage_reread v, h, toMessage_reread]

end Json

section Read

/-- A block read at its first address is the translation of the mirror image, wherever the
block stands and whatever is around it. -/
def ReadsAs (v : Json) : Prop :=
  ∀ (before after : List Node) (fuel : ℕ), (layout before.length v).length ≤ fuel →
    readMessage (before ++ layout before.length v ++ after) fuel before.length =
      v.mirror.toMessage

variable {fuel : ℕ}

theorem readMessage_elements {xs : List Json} (hxs : ∀ x ∈ xs, ReadsAs x) :
    ∀ before after : List Node, (layoutElements before.length xs).1.length ≤ fuel →
      (layoutElements before.length xs).2.map
        (readMessage (before ++ (layoutElements before.length xs).1 ++ after) fuel) =
          (xs.map fun x => x.mirror.toMessage).reverse := by
  induction xs with
  | nil => intro before after _; rfl
  | cons x xs ih =>
    intro before after hfuel
    rw [layoutElements] at hfuel ⊢
    simp only [List.length_append] at hfuel
    have htail := ih (fun y hy => hxs y (by simp [hy])) before
      (layout (before.length + (layoutElements before.length xs).1.length) x ++ after)
      (by omega)
    have hhead := hxs x (by simp) (before ++ (layoutElements before.length xs).1) after fuel
    rw [List.length_append] at hhead
    simp only [List.map_append, List.map_cons, List.map_nil, List.reverse_cons]
    rw [← htail, ← hhead (by omega)]
    simp only [List.append_assoc]

theorem readMessage_entries {kvs : List (String × Json)} (hkvs : ∀ kv ∈ kvs, ReadsAs kv.2)
    (hsort : SortedKeys kvs) :
    ∀ before after : List Node, (layoutEntries before.length kvs).1.length ≤ fuel →
      ((layoutEntries before.length kvs).2.map fun e =>
        (e.1, readMessage (before ++ (layoutEntries before.length kvs).1 ++ after) fuel e.2)) =
          kvs.map fun kv => (kv.1, kv.2.mirror.toMessage) := by
  induction kvs with
  | nil => intro before after _; rfl
  | cons kv kvs ih =>
    intro before after hfuel
    obtain ⟨hlt, hsort⟩ := sortedKeys_cons.mp hsort
    rw [layoutEntries] at hfuel ⊢
    simp only [List.length_append] at hfuel
    have htail := ih (fun y hy => hkvs y (by simp [hy])) hsort before
      (layout (before.length + (layoutEntries before.length kvs).1.length) kv.2 ++ after)
      (by omega)
    have hhead := hkvs kv (by simp) (before ++ (layoutEntries before.length kvs).1) after fuel
    rw [List.length_append] at hhead
    -- the keys attached so far are those of the later members
    have hkey : ∀ e ∈ (layoutEntries before.length kvs).2, kv.1 < e.1 := by
      intro e he
      obtain ⟨kv', hkv', heq⟩ := List.mem_map.mp (htail ▸ List.mem_map_of_mem he)
      rw [← (Prod.mk.inj heq).1]
      exact hlt kv' hkv'
    rw [assign_of_lt hkey]
    simp only [List.map_cons]
    rw [← htail, ← hhead (by omega)]
    simp only [List.append_assoc]

theorem readsAs {v : Json} (h : v.WF) : ReadsAs v := by
  induction v using Json.induction with
  | null | bool | int | float | str =>
    intro before after fuel hfuel
    obtain ⟨fuel, rfl⟩ := Nat.exists_eq_succ_of_ne_zero (Nat.one_le_iff_ne_zero.mp hfuel)
    simp [readMessage, layout, create, Json.mirror]
  | arr xs ih =>
    intro before after fuel hfuel
    rw [layout] at hfuel ⊢
    obtain ⟨fuel, rfl⟩ := Nat.exists_eq_succ_of_ne_zero (Nat.ne_of_gt (Nat.lt_of_lt_of_le
      (Nat.succ_pos _) hfuel))
    have hread := @readMessage_elements fuel xs (fun x hx => ih x hx (Json.wf_arr.mp h x hx))
      (before ++ [.arr (layoutElements (before.length + 1) xs).2]) after
    rw [List.length_append, List.length_singleton] at hread
    rw [readMessage, Json.mirror_arr, Json.toMessage_arr, List.map_reverse, List.map_map]
    simp only [List.length_cons, Nat.succ_le_succ_iff] at hfuel
    simp only [List.append_assoc, List.cons_append, List.nil_append, Function.comp_def] at hread ⊢
    simp [hread hfuel]
  | obj kvs ih =>
    intro before after fuel hfuel
    obtain ⟨hsort, hwf⟩ := Json.wf_obj.mp h
    rw [layout] at hfuel ⊢
    obtain ⟨fuel, rfl⟩ := Nat.exists_eq_succ_of_ne_zero (Nat.ne_of_gt (Nat.lt_of_lt_of_le
      (Nat.succ_pos _) hfuel))
    have hread := @readMessage_entries fuel kvs (fun kv hkv => ih kv hkv (hwf kv hkv)) hsort
      (before ++ [.obj (layoutEntries (before.length + 1) kvs).2]) after
    rw [List.length_append, List.length_singleton] at hread
    rw [readMessage, Json.mirror_obj, Json.toMessage_obj, List.map_map]
    simp only [List.length_cons, Nat.succ_le_succ_iff] at hfuel
    simp only [List.append_assoc, List.cons_append, List.nil_append, Function.comp_def] at hread ⊢
    simp [hread hfuel]

end Read

/-- **What `buildSioFromJson` builds**: the translation of the mirror image. -/
theorem buildSioFromJson_eq (v : JsonValue) :
    buildSioFromJson v.1 = v.1.mirror.toMessage := by
  have h := readsAs v.2 [] [] (layout 0 v.1).length le_rfl
  rw [buildSioFromJson, buildLoop_root]
  simpa using h

/-- **When the message built for a value is its translation**: exactly when reversing every
array of the value, at every depth, gives the value back (integers taken as the `double`s they
are sent as). The same holds of `createObject` on objects and of `createArray` on arrays. -/
theorem buildSioFromJson_eq_toMessage_iff (v : JsonValue) :
    (buildSioFromJson v.1 = v.1.toMessage ↔ v.1.mirror.reread .str = v.1.reread .str) ∧
      (v.1.isObject = true →
        (createObject v.1 = v.1.toMessage ↔ v.1.mirror.reread .str = v.1.reread .str)) ∧
      (v.1.isArray = true →
        (createArray v.1 = v.1.toMessage ↔ v.1.mirror.reread .str = v.1.reread .str)) := by
  have h : buildSioFromJson v.1 = v.1.toMessage ↔ v.1.mirror.reread .str = v.1.reread .str := by
    rw [buildSioFromJson_eq]
    exact Json.toMessage_inj v.2.mirror v.2
  refine ⟨h, fun hobj => ?_, fun harr => ?_⟩
  · rw [createObject, if_pos hobj]
    exact h
  · rw [createArray, if_pos harr]
    exact h

/-- The array `[1, 2]` is sent as `[2, 1]`. -/
theorem not_buildSioFromJson_eq_toMessage :
    ¬ ∀ v : JsonValue, buildSioFromJson v.1 = v.1.toMessage := by
  intro h
  have hwf : (Json.arr [.int 1, .int 2]).WF := ⟨trivial, trivial, trivial⟩
  have h12 := h ⟨_, hwf⟩
  rw [buildSioFromJson_eq, Json.toMessage_inj hwf.mirror hwf] at h12
  revert h12
  decide +kernel

end DetectBase
