import DetectBase.Foundations.TopologicalSort
import Mathlib.Data.List.AList
import Mathlib.Data.List.Permutation

/-!
# The graph of the service blocks

A service is put together from blocks, and streams lead from one block to another, into the service
and out of it. `ServiceProfileBuilder` adds the blocks and the streams to an
`EntireServiceBlockProfileGraph`, and the service starts only if `ServiceGraphValidator` finds no
fault with it.

A stream between two blocks is kept in three places, and they agree after any sequence of additions
(`DetectBase.ServiceGraph.consistent_build`). The execution order has each block that no cycle leads
to, once and behind all the blocks that feed it (`DetectBase.ServiceGraph.getExecutionOrder_build`),
whatever the order the hash maps are walked in. So `Validate` accepts exactly the graphs that have a
block and no cycle (`DetectBase.ServiceGraph.validate_build_iff`): its comparison of the two sizes
never finds what `DetectCycle` has not found already, and its search for a source fails only where
there is no block at all.
-/

namespace DetectBase

/-- `SERVICE_BLOCK_ID_EXTERN_SERV`, the place a stream from outside comes from. -/
def serviceBlockIdExternServ : ℤ := 99

/-- `ServiceStreamType`. -/
inductive ServiceStreamType
  | none
  | internalQueueing
  | socketIo
  | rtsp
  | grpc
  deriving DecidableEq

/-- `ServiceBlockModuleType`. -/
inductive ServiceBlockModuleType
  | detectorRtsp
  | detectorSocketIo
  deriving DecidableEq

/-- `ServiceBlockBuildType`. -/
inductive ServiceBlockBuildType
  | unique
  | byUnit
  deriving DecidableEq

/-- A hash map with integer keys. The place of an entry says nothing about the program: where it
walks through a map, it does so in an order of its own. -/
abbrev UnorderedMap (ν : Type) : Type := AList fun _ : ℤ => ν

/-- **An order in which the keys of a hash map are met.** -/
structure Walk where
  /-- The keys in the order in which they are met. -/
  visit : List ℤ → List ℤ
  /-- Each key is met as often as it is there. -/
  perm : ∀ keys, (visit keys).Perm keys

/-! ### One block -/

/-- **`ServiceBlockProfile`**. -/
structure ServiceBlockProfile where
  /-- `service_block_id_`. -/
  serviceBlockId : ℤ
  /-- `module_type_`. -/
  moduleType : ServiceBlockModuleType
  /-- `build_type_`. -/
  buildType : ServiceBlockBuildType
  /-- `input_sources_`. -/
  inputSources : UnorderedMap ServiceStreamType
  /-- `output_targets_`. -/
  outputTargets : UnorderedMap ServiceStreamType

namespace ServiceBlockProfile

/-- The constructor. -/
def new (blockId : ℤ) (moduleType : ServiceBlockModuleType) (buildType : ServiceBlockBuildType) :
    ServiceBlockProfile where
  serviceBlockId := blockId
  moduleType := moduleType
  buildType := buildType
  inputSources := ∅
  outputTargets := ∅

/-- **`AddInput`**. -/
def addInput (p : ServiceBlockProfile) (fromId : ℤ) (streamType : ServiceStreamType) :
    ServiceBlockProfile :=
  { p with inputSources := p.inputSources.insert fromId streamType }

/-- **`AddOutput`**. -/
def addOutput (p : ServiceBlockProfile) (toId : ℤ) (streamType : ServiceStreamType) :
    ServiceBlockProfile :=
  { p with outputTargets := p.outputTargets.insert toId streamType }

/-- **`GetInputStreamType`**. -/
def getInputStreamType (p : ServiceBlockProfile) (fromId : ℤ) : Option ServiceStreamType :=
  p.inputSources.lookup fromId

/-- **`GetOutputStreamType`**. -/
def getOutputStreamType (p : ServiceBlockProfile) (toId : ℤ) : Option ServiceStreamType :=
  p.outputTargets.lookup toId

/-- **`IsSource`**: the block has no input, or inputs from outside only. -/
def isSource (p : ServiceBlockProfile) : Bool :=
  p.inputSources.keys.all fun fromId => fromId = serviceBlockIdExternServ

end ServiceBlockProfile

/-! ### The graph -/

/-- **`EntireServiceBlockProfileGraph`**. -/
structure ServiceGraph where
  /-- `blocks_`. -/
  blocks : UnorderedMap ServiceBlockProfile
  /-- `extern_streams_`: the blocks that have an output to the outside. -/
  externStreams : UnorderedMap ServiceStreamType
  /-- `reverse_input_map_`: for each block, where its inputs come from. -/
  reverseInputMap : UnorderedMap (Finset ℤ)

namespace ServiceGraph

/-- A graph with nothing in it. -/
def empty : ServiceGraph := ⟨∅, ∅, ∅⟩

/-- **`HasBlock`**. -/
def hasBlock (g : ServiceGraph) (id : ℤ) : Bool := id ∈ g.blocks.keys

/-- **`GetBlockProfile`**, by the identifier. -/
def getBlockProfile (g : ServiceGraph) (id : ℤ) : Option ServiceBlockProfile := g.blocks.lookup id

/-- What a member function does to the block of an identifier, `blocks_.at(id)`. -/
def modify (g : ServiceGraph) (id : ℤ) (f : ServiceBlockProfile → ServiceBlockProfile) :
    ServiceGraph :=
  match g.blocks.lookup id with
  | some p => { g with blocks := g.blocks.insert id (f p) }
  | none => g

/-- `reverse_input_map_[to_id].insert(from_id)`. -/
def insertReverse (g : ServiceGraph) (toId fromId : ℤ) : ServiceGraph :=
  { g with reverseInputMap :=
      g.reverseInputMap.insert toId (insert fromId ((g.reverseInputMap.lookup toId).getD ∅)) }

/-- **`AddServiceBlock`**. -/
def addServiceBlock (g : ServiceGraph) (id : ℤ) (moduleType : ServiceBlockModuleType)
    (buildType : ServiceBlockBuildType) : Bool × ServiceGraph :=
  if g.hasBlock id then (false, g)
  else (true, { g with blocks := g.blocks.insert id (.new id moduleType buildType) })

/-- **`AddStreamPipeline`**. -/
def addStreamPipeline (g : ServiceGraph) (fromId toId : ℤ) (streamType : ServiceStreamType) :
    Bool × ServiceGraph :=
  if !g.hasBlock fromId || !g.hasBlock toId then (false, g)
  else (true, ((g.modify toId fun p => p.addInput fromId streamType).modify fromId
    fun p => p.addOutput toId streamType).insertReverse toId fromId)

/-- **`AddInputFromExtern`**. -/
def addInputFromExtern (g : ServiceGraph) (toId : ℤ) (streamType : ServiceStreamType) :
    Bool × ServiceGraph :=
  if !g.hasBlock toId then (false, g)
  else (true, (g.modify toId fun p => p.addInput serviceBlockIdExternServ streamType).insertReverse
    toId serviceBlockIdExternServ)

/-- **`AddOutputToExtern`**. -/
def addOutputToExtern (g : ServiceGraph) (fromId : ℤ) (streamType : ServiceStreamType) :
    Bool × ServiceGraph :=
  if !g.hasBlock fromId then (false, g)
  else (true, { g with externStreams := g.externStreams.insert fromId streamType })

/-- The orders in which `GetExecutionOrder` walks through `in_degree` and through the outputs of
each block. -/
structure Walks where
  /-- The walk through `in_degree`. -/
  inDegree : Walk
  /-- The walk through the outputs of a block. -/
  outputs : ℤ → Walk

/-- The targets of a block, in the order in which they are met. -/
def targets (g : ServiceGraph) (w : Walks) (id : ℤ) : List ℤ :=
  match g.blocks.lookup id with
  | some p => (w.outputs id).visit p.outputTargets.keys
  | none => []

/-- The keys of `in_degree`: the blocks, and the ends of the streams. -/
def inDegreeKeys (g : ServiceGraph) (w : Walks) : List ℤ :=
  (g.blocks.keys ++ g.blocks.keys.flatMap (g.targets w)).dedup

/-- **`GetExecutionOrder`**. There is none when `blocks_.at(curr)` throws, because a vertex that has
its turn is not a block. -/
def getExecutionOrder (g : ServiceGraph) (w : Walks) : Option (List ℤ) :=
  let order := TopoSort.sort (w.inDegree.visit (g.inDegreeKeys w)) g.blocks.keys (g.targets w)
  if order.all g.hasBlock then some order else none

/-- **`DetectCycle`**. -/
def detectCycle (g : ServiceGraph) (w : Walks) : Option Bool :=
  (g.getExecutionOrder w).map fun order => order.length != g.blocks.keys.length

/-- **`ServiceGraphValidator::Validate`**, without its log lines. Both calls of `GetExecutionOrder`
have walks of their own, and the first source ends the last loop. -/
def validate (g : ServiceGraph) (w w' : Walks) : Option Bool := do
  let cycle ← g.detectCycle w
  let execOrder ← g.getExecutionOrder w'
  let allIds := g.blocks.keys
  let hasSource := allIds.any fun id =>
    match g.getBlockProfile id with
    | some block => block.isSource
    | none => false
  return !cycle && !(execOrder.length != allIds.length) && hasSource

/-! ### What an addition does -/

theorem hasBlock_iff {g : ServiceGraph} {id : ℤ} : g.hasBlock id = true ↔ id ∈ g.blocks := by
  rw [hasBlock, decide_eq_true_iff]
  exact AList.mem_keys.symm

/-- The stream that the block `toId` has from `fromId`. -/
def inputOf (g : ServiceGraph) (toId fromId : ℤ) : Option ServiceStreamType :=
  (g.getBlockProfile toId).bind fun p => p.getInputStreamType fromId

/-- The stream that the block `fromId` has to `toId`. -/
def outputOf (g : ServiceGraph) (fromId toId : ℤ) : Option ServiceStreamType :=
  (g.getBlockProfile fromId).bind fun p => p.getOutputStreamType toId

/-- The identifiers that `reverse_input_map_` has for a block. -/
def reverseOf (g : ServiceGraph) (toId : ℤ) : Finset ℤ := (g.reverseInputMap.lookup toId).getD ∅

theorem lookup_modify (g : ServiceGraph) (id id' : ℤ)
    (f : ServiceBlockProfile → ServiceBlockProfile) : (g.modify id f).getBlockProfile id' =
      if id' = id then (g.getBlockProfile id).map f else g.getBlockProfile id' := by
  rw [modify, getBlockProfile, getBlockProfile, getBlockProfile]
  rcases hlookup : g.blocks.lookup id with _ | p
  · split_ifs with heq
    · rw [heq, hlookup, Option.map_none]
    · rfl
  · split_ifs with heq
    · rw [heq, AList.lookup_insert, Option.map_some]
    · exact AList.lookup_insert_ne heq

@[simp] theorem mem_blocks_modify {g : ServiceGraph} {id id' : ℤ}
    {f : ServiceBlockProfile → ServiceBlockProfile} :
    id' ∈ (g.modify id f).blocks ↔ id' ∈ g.blocks := by
  rw [← AList.lookup_isSome, ← AList.lookup_isSome]
  show ((g.modify id f).getBlockProfile id').isSome ↔ _
  rw [lookup_modify]
  split_ifs with heq
  · rw [Option.isSome_map, heq]
    rfl
  · rfl

@[simp] theorem reverseInputMap_modify (g : ServiceGraph) (id : ℤ)
    (f : ServiceBlockProfile → ServiceBlockProfile) :
    (g.modify id f).reverseInputMap = g.reverseInputMap := by
  rw [modify]
  split <;> rfl

@[simp] theorem externStreams_modify (g : ServiceGraph) (id : ℤ)
    (f : ServiceBlockProfile → ServiceBlockProfile) :
    (g.modify id f).externStreams = g.externStreams := by
  rw [modify]
  split <;> rfl

theorem reverseOf_insertReverse (g : ServiceGraph) (a b c : ℤ) :
    (g.insertReverse b a).reverseOf c =
      if c = b then insert a (g.reverseOf b) else g.reverseOf c := by
  rw [insertReverse, reverseOf, reverseOf, reverseOf]
  split_ifs with heq
  · rw [heq, AList.lookup_insert, Option.getD_some]
  · rw [AList.lookup_insert_ne heq]

theorem inputOf_modify_addInput {g : ServiceGraph} {a b : ℤ} (hb : b ∈ g.blocks)
    (s : ServiceStreamType) (c d : ℤ) :
    (g.modify b fun p => p.addInput a s).inputOf c d =
      if c = b ∧ d = a then some s else g.inputOf c d := by
  obtain ⟨p, hp⟩ := Option.isSome_iff_exists.mp (AList.lookup_isSome.mpr hb)
  have hp : g.getBlockProfile b = some p := hp
  rw [inputOf, inputOf, lookup_modify]
  rcases eq_or_ne c b with rfl | hne
  · rw [if_pos rfl, hp, Option.map_some, Option.bind_some, Option.bind_some]
    show (p.inputSources.insert a s).lookup d =
      if c = c ∧ d = a then some s else p.inputSources.lookup d
    rcases eq_or_ne d a with rfl | hda
    · rw [if_pos ⟨rfl, rfl⟩, AList.lookup_insert]
    · rw [if_neg fun h => hda h.2, AList.lookup_insert_ne hda]
  · rw [if_neg hne, if_neg fun h => hne h.1]

theorem outputOf_modify_addOutput {g : ServiceGraph} {a b : ℤ} (ha : a ∈ g.blocks)
    (s : ServiceStreamType) (c d : ℤ) :
    (g.modify a fun p => p.addOutput b s).outputOf c d =
      if c = a ∧ d = b then some s else g.outputOf c d := by
  obtain ⟨p, hp⟩ := Option.isSome_iff_exists.mp (AList.lookup_isSome.mpr ha)
  have hp : g.getBlockProfile a = some p := hp
  rw [outputOf, outputOf, lookup_modify]
  rcases eq_or_ne c a with rfl | hne
  · rw [if_pos rfl, hp, Option.map_some, Option.bind_some, Option.bind_some]
    show (p.outputTargets.insert b s).lookup d =
      if c = c ∧ d = b then some s else p.outputTargets.lookup d
    rcases eq_or_ne d b with rfl | hda
    · rw [if_pos ⟨rfl, rfl⟩, AList.lookup_insert]
    · rw [if_neg fun h => hda h.2, AList.lookup_insert_ne hda]
  · rw [if_neg hne, if_neg fun h => hne h.1]

/-- An input leaves the outputs alone. -/
theorem outputOf_modify_addInput (g : ServiceGraph) (a b : ℤ) (s : ServiceStreamType) (c d : ℤ) :
    (g.modify b fun p => p.addInput a s).outputOf c d = g.outputOf c d := by
  rw [outputOf, outputOf, lookup_modify]
  split_ifs with heq
  · rw [heq, Option.bind_map]
    rfl
  · rfl

/-- An output leaves the inputs alone. -/
theorem inputOf_modify_addOutput (g : ServiceGraph) (a b : ℤ) (s : ServiceStreamType) (c d : ℤ) :
    (g.modify a fun p => p.addOutput b s).inputOf c d = g.inputOf c d := by
  rw [inputOf, inputOf, lookup_modify]
  split_ifs with heq
  · rw [heq, Option.bind_map]
    rfl
  · rfl

/-! ### Graphs that are built -/

/-- An addition to the graph. -/
inductive Addition
  | serviceBlock (id : ℤ) (moduleType : ServiceBlockModuleType) (buildType : ServiceBlockBuildType)
  | streamPipeline (fromId toId : ℤ) (streamType : ServiceStreamType)
  | inputFromExtern (toId : ℤ) (streamType : ServiceStreamType)
  | outputToExtern (fromId : ℤ) (streamType : ServiceStreamType)

/-- **The addition, with what it returns.** -/
def add (g : ServiceGraph) : Addition → Bool × ServiceGraph
  | .serviceBlock id moduleType buildType => g.addServiceBlock id moduleType buildType
  | .streamPipeline fromId toId streamType => g.addStreamPipeline fromId toId streamType
  | .inputFromExtern toId streamType => g.addInputFromExtern toId streamType
  | .outputToExtern fromId streamType => g.addOutputToExtern fromId streamType

/-- The graph that some additions lead to. -/
def build (additions : List Addition) : ServiceGraph :=
  additions.foldl (fun g a => (g.add a).2) empty

/-- The blocks of a graph know their own identifiers. -/
def KnowsIds (g : ServiceGraph) : Prop :=
  ∀ id p, g.getBlockProfile id = some p → p.serviceBlockId = id

/-- **The three records of a stream agree.** -/
structure Consistent (g : ServiceGraph) : Prop where
  /-- A block knows its own identifier. -/
  serviceBlockId : g.KnowsIds
  /-- Both ends of a stream know of it. -/
  mirrored : ∀ a b, (g.outputOf a b).isSome → (g.inputOf b a).isSome
  /-- They know it as the same type, and what comes from inside is known to the block it comes
  from. A block with the identifier of the outside is left aside, since an input from the outside
  takes the place of its streams. -/
  streamType : ∀ a b, a ≠ serviceBlockIdExternServ → g.outputOf a b = g.inputOf b a
  /-- The reverse map has the inputs. -/
  reverse : ∀ a b, a ∈ g.reverseOf b ↔ (g.inputOf b a).isSome
  /-- The streams to the outside come from blocks. -/
  externStreams : ∀ a ∈ g.externStreams, a ∈ g.blocks

theorem isSome_outputOf {g : ServiceGraph} {a b : ℤ} (h : (g.outputOf a b).isSome) :
    a ∈ g.blocks := by
  rw [← AList.lookup_isSome]
  rw [outputOf] at h
  exact Option.isSome_of_isSome_bind h

theorem isSome_inputOf {g : ServiceGraph} {a b : ℤ} (h : (g.inputOf b a).isSome) :
    b ∈ g.blocks := by
  rw [← AList.lookup_isSome]
  rw [inputOf] at h
  exact Option.isSome_of_isSome_bind h

/-- A stream leads to a block. -/
theorem Consistent.mem_blocks {g : ServiceGraph} (h : g.Consistent) {a b : ℤ}
    (hab : (g.outputOf a b).isSome) : b ∈ g.blocks :=
  isSome_inputOf (h.mirrored a b hab)

theorem consistent_empty : empty.Consistent where
  serviceBlockId _ _ h := by simp [empty, getBlockProfile] at h
  mirrored _ _ h := by simp [empty, outputOf, getBlockProfile] at h
  streamType _ _ _ := rfl
  reverse _ _ := by simp [empty, reverseOf, inputOf, getBlockProfile]
  externStreams _ h := by simp [empty] at h

/-- A block that is new has no input. -/
theorem inputOf_insert {g : ServiceGraph} {id : ℤ} (hnew : id ∉ g.blocks)
    {moduleType : ServiceBlockModuleType} {buildType : ServiceBlockBuildType} (c d : ℤ) :
    ServiceGraph.inputOf
      { g with blocks := g.blocks.insert id (.new id moduleType buildType) } c d =
        g.inputOf c d := by
  rw [inputOf, inputOf, getBlockProfile, getBlockProfile]
  rcases eq_or_ne c id with rfl | hne
  · rw [AList.lookup_insert, AList.lookup_eq_none.mpr hnew]
    rfl
  · rw [AList.lookup_insert_ne hne]

/-- A block that is new has no output. -/
theorem outputOf_insert {g : ServiceGraph} {id : ℤ} (hnew : id ∉ g.blocks)
    {moduleType : ServiceBlockModuleType} {buildType : ServiceBlockBuildType} (c d : ℤ) :
    ServiceGraph.outputOf
      { g with blocks := g.blocks.insert id (.new id moduleType buildType) } c d =
        g.outputOf c d := by
  rw [outputOf, outputOf, getBlockProfile, getBlockProfile]
  rcases eq_or_ne c id with rfl | hne
  · rw [AList.lookup_insert, AList.lookup_eq_none.mpr hnew]
    rfl
  · rw [AList.lookup_insert_ne hne]

theorem inputOf_addStreamPipeline {g : ServiceGraph} {a b : ℤ} (hb : b ∈ g.blocks)
    (s : ServiceStreamType) (c d : ℤ) :
    (((g.modify b fun p => p.addInput a s).modify a fun p => p.addOutput b s).insertReverse
      b a).inputOf c d = if c = b ∧ d = a then some s else g.inputOf c d :=
  (inputOf_modify_addOutput _ a b s c d).trans (inputOf_modify_addInput hb s c d)

theorem outputOf_addStreamPipeline {g : ServiceGraph} {a b : ℤ} (ha : a ∈ g.blocks)
    (s : ServiceStreamType) (c d : ℤ) :
    (((g.modify b fun p => p.addInput a s).modify a fun p => p.addOutput b s).insertReverse
      b a).outputOf c d = if c = a ∧ d = b then some s else g.outputOf c d := by
  refine (outputOf_modify_addOutput (mem_blocks_modify.mpr ha) s c d).trans ?_
  rw [outputOf_modify_addInput]

theorem Consistent.addServiceBlock {g : ServiceGraph} (h : g.Consistent) {id : ℤ}
    {moduleType : ServiceBlockModuleType} {buildType : ServiceBlockBuildType}
    (hnew : id ∉ g.blocks) :
    ({ g with blocks := g.blocks.insert id (.new id moduleType buildType) } :
      ServiceGraph).Consistent := by
  have hin := @inputOf_insert g id hnew moduleType buildType
  have hout := @outputOf_insert g id hnew moduleType buildType
  constructor
  · intro c p hp
    rw [getBlockProfile] at hp
    rcases eq_or_ne c id with rfl | hne
    · rw [AList.lookup_insert, Option.some.injEq] at hp
      rw [← hp]
      rfl
    · rw [AList.lookup_insert_ne hne] at hp
      exact h.serviceBlockId c p hp
  · intro a b hab
    rw [hout] at hab
    rw [hin]
    exact h.mirrored a b hab
  · intro a b hne
    rw [hout, hin]
    exact h.streamType a b hne
  · intro a b
    rw [hin]
    exact h.reverse a b
  · intro a ha
    exact (AList.mem_insert _).mpr (Or.inr (h.externStreams a ha))

theorem KnowsIds.modify {g : ServiceGraph} (h : g.KnowsIds) {id : ℤ}
    {f : ServiceBlockProfile → ServiceBlockProfile}
    (hf : ∀ p, (f p).serviceBlockId = p.serviceBlockId) : (g.modify id f).KnowsIds := by
  intro c p hp
  rw [lookup_modify] at hp
  split_ifs at hp with heq
  · obtain ⟨q, hq, rfl⟩ := Option.map_eq_some_iff.mp hp
    rw [hf, h id q hq, heq]
  · exact h c p hp

@[simp] theorem reverseOf_modify (g : ServiceGraph) (id c : ℤ)
    (f : ServiceBlockProfile → ServiceBlockProfile) :
    (g.modify id f).reverseOf c = g.reverseOf c := by
  rw [reverseOf, reverseInputMap_modify, reverseOf]

theorem Consistent.addStreamPipeline {g : ServiceGraph} (h : g.Consistent) {a b : ℤ}
    (s : ServiceStreamType) (ha : a ∈ g.blocks) (hb : b ∈ g.blocks) :
    (((g.modify b fun p => p.addInput a s).modify a fun p => p.addOutput b s).insertReverse
      b a).Consistent := by
  have hin := @inputOf_addStreamPipeline g a b hb s
  have hout := @outputOf_addStreamPipeline g a b ha s
  constructor
  · exact KnowsIds.modify (KnowsIds.modify (f := fun p => p.addInput a s) h.serviceBlockId
      fun _ => rfl) fun _ => rfl
  · intro c d hcd
    rw [hout] at hcd
    rw [hin]
    split_ifs at hcd with heq
    · rw [if_pos ⟨heq.2, heq.1⟩]
      rfl
    · rw [if_neg fun h => heq ⟨h.2, h.1⟩]
      exact h.mirrored c d hcd
  · intro c d hne
    rw [hout, hin, h.streamType c d hne]
    exact if_congr and_comm rfl rfl
  · intro c d
    rw [hin, reverseOf_insertReverse]
    simp only [reverseOf_modify]
    rcases eq_or_ne d b with rfl | hne
    · rw [if_pos rfl, Finset.mem_insert]
      rcases eq_or_ne c a with rfl | hca
      · simp
      · rw [if_neg fun h => hca h.2]
        rw [h.reverse]
        simp [hca]
    · rw [if_neg hne, if_neg fun h => hne h.1]
      exact h.reverse c d
  · intro c hc
    rw [insertReverse, externStreams_modify, externStreams_modify] at hc
    exact mem_blocks_modify.mpr (mem_blocks_modify.mpr (h.externStreams c hc))

theorem Consistent.addInputFromExtern {g : ServiceGraph} (h : g.Consistent) {b : ℤ}
    (s : ServiceStreamType) (hb : b ∈ g.blocks) :
    ((g.modify b fun p => p.addInput serviceBlockIdExternServ s).insertReverse
      b serviceBlockIdExternServ).Consistent := by
  have hin : ∀ c d, ((g.modify b fun p => p.addInput serviceBlockIdExternServ s).insertReverse
      b serviceBlockIdExternServ).inputOf c d =
        if c = b ∧ d = serviceBlockIdExternServ then some s else g.inputOf c d :=
    fun c d => inputOf_modify_addInput hb s c d
  have hout : ∀ c d, ((g.modify b fun p => p.addInput serviceBlockIdExternServ s).insertReverse
      b serviceBlockIdExternServ).outputOf c d = g.outputOf c d :=
    fun c d => outputOf_modify_addInput g _ b s c d
  constructor
  · exact KnowsIds.modify (f := fun p => p.addInput serviceBlockIdExternServ s) h.serviceBlockId
      fun _ => rfl
  · intro c d hcd
    rw [hout] at hcd
    rw [hin]
    split_ifs
    · rfl
    · exact h.mirrored c d hcd
  · intro c d hne
    rw [hout, hin, if_neg fun h => hne h.2]
    exact h.streamType c d hne
  · intro c d
    rw [hin, reverseOf_insertReverse]
    simp only [reverseOf_modify]
    rcases eq_or_ne d b with rfl | hne
    · rw [if_pos rfl, Finset.mem_insert]
      rcases eq_or_ne c serviceBlockIdExternServ with rfl | hca
      · simp
      · rw [if_neg fun h => hca h.2]
        rw [h.reverse]
        simp [hca]
    · rw [if_neg hne, if_neg fun h => hne h.1]
      exact h.reverse c d
  · intro c hc
    rw [insertReverse, externStreams_modify] at hc
    exact mem_blocks_modify.mpr (h.externStreams c hc)

/-- **An addition keeps the records in agreement.** -/
theorem Consistent.add {g : ServiceGraph} (h : g.Consistent) (a : Addition) :
    (g.add a).2.Consistent := by
  rcases a with ⟨id, moduleType, buildType⟩ | ⟨fromId, toId, s⟩ | ⟨toId, s⟩ | ⟨fromId, s⟩
  · rw [ServiceGraph.add, ServiceGraph.addServiceBlock]
    split_ifs with hold
    · exact h
    · exact h.addServiceBlock fun hmem => hold (hasBlock_iff.mpr hmem)
  · rw [ServiceGraph.add, ServiceGraph.addStreamPipeline]
    split_ifs with hmissing
    · exact h
    · simp only [Bool.or_eq_true, Bool.not_eq_true', not_or, Bool.not_eq_false, hasBlock_iff]
        at hmissing
      exact h.addStreamPipeline s hmissing.1 hmissing.2
  · rw [ServiceGraph.add, ServiceGraph.addInputFromExtern]
    split_ifs with hmissing
    · exact h
    · simp only [Bool.not_eq_true', Bool.not_eq_false, hasBlock_iff] at hmissing
      exact h.addInputFromExtern s hmissing
  · rw [ServiceGraph.add, ServiceGraph.addOutputToExtern]
    split_ifs with hmissing
    · exact h
    · simp only [Bool.not_eq_true', Bool.not_eq_false, hasBlock_iff] at hmissing
      refine ⟨h.serviceBlockId, h.mirrored, h.streamType, h.reverse, fun c hc => ?_⟩
      rcases (AList.mem_insert _).mp hc with rfl | hc
      · exact hmissing
      · exact h.externStreams c hc

/-- **The records of the streams agree in every graph that is built.** -/
theorem consistent_build (additions : List Addition) : (build additions).Consistent := by
  rw [build]
  suffices ∀ g : ServiceGraph, g.Consistent →
      (additions.foldl (fun g a => (g.add a).2) g).Consistent from this _ consistent_empty
  induction additions with
  | nil => exact fun g h => h
  | cons a additions ih => exact fun g h => ih _ (h.add a)

/-! ### What is in a graph that is built -/

/-- There is a stream from one block to another. -/
def Pipeline (g : ServiceGraph) (a b : ℤ) : Prop := (g.outputOf a b).isSome

theorem build_concat (additions : List Addition) (a : Addition) :
    build (additions ++ [a]) = ((build additions).add a).2 := by
  rw [build, List.foldl_append]
  rfl

/-- The blocks after an addition. -/
theorem mem_blocks_add {g : ServiceGraph} {x : Addition} {id : ℤ} : id ∈ (g.add x).2.blocks ↔
    id ∈ g.blocks ∨ ∃ moduleType buildType, x = .serviceBlock id moduleType buildType := by
  rcases x with ⟨id', moduleType, buildType⟩ | ⟨fromId, toId, s⟩ | ⟨toId, s⟩ | ⟨fromId, s⟩
  · rw [ServiceGraph.add, ServiceGraph.addServiceBlock]
    split_ifs with hold
    · refine ⟨Or.inl, ?_⟩
      rintro (h | ⟨_, _, h⟩)
      · exact h
      · cases h
        exact hasBlock_iff.mp hold
    · rw [AList.mem_insert]
      constructor
      · rintro (rfl | h)
        · exact Or.inr ⟨_, _, rfl⟩
        · exact Or.inl h
      · rintro (h | ⟨_, _, h⟩)
        · exact Or.inr h
        · cases h
          exact Or.inl rfl
  · rw [ServiceGraph.add, ServiceGraph.addStreamPipeline]
    split_ifs <;> simp [insertReverse]
  · rw [ServiceGraph.add, ServiceGraph.addInputFromExtern]
    split_ifs <;> simp [insertReverse]
  · rw [ServiceGraph.add, ServiceGraph.addOutputToExtern]
    split_ifs <;> simp

/-- The streams after an addition. -/
theorem pipeline_add {g : ServiceGraph} {x : Addition} {a b : ℤ} : (g.add x).2.Pipeline a b ↔
    g.Pipeline a b ∨ (∃ s, x = .streamPipeline a b s) ∧ a ∈ g.blocks ∧ b ∈ g.blocks := by
  rcases x with ⟨id, moduleType, buildType⟩ | ⟨fromId, toId, s⟩ | ⟨toId, s⟩ | ⟨fromId, s⟩
  · rw [ServiceGraph.add, ServiceGraph.addServiceBlock]
    split_ifs with hold
    · simp
    · rw [Pipeline, outputOf_insert fun hmem => hold (hasBlock_iff.mpr hmem)]
      simp [Pipeline]
  · rw [ServiceGraph.add, ServiceGraph.addStreamPipeline]
    split_ifs with hmissing
    · simp only [Bool.or_eq_true, Bool.not_eq_true', ← Bool.not_eq_true, hasBlock_iff] at hmissing
      refine ⟨Or.inl, ?_⟩
      rintro (h | ⟨⟨s', h⟩, ha, hb⟩)
      · exact h
      · cases h
        exact absurd hmissing (by simp [ha, hb])
    · simp only [Bool.or_eq_true, Bool.not_eq_true', not_or, Bool.not_eq_false, hasBlock_iff]
        at hmissing
      rw [Pipeline, outputOf_addStreamPipeline hmissing.1]
      split_ifs with heq
      · obtain ⟨rfl, rfl⟩ := heq
        simp [hmissing]
      · refine ⟨Or.inl, ?_⟩
        rintro (h | ⟨⟨s', h⟩, -⟩)
        · exact h
        · cases h
          exact absurd ⟨rfl, rfl⟩ heq
  · rw [ServiceGraph.add, ServiceGraph.addInputFromExtern]
    split_ifs with hmissing
    · simp
    · rw [Pipeline]
      show (ServiceGraph.outputOf (g.modify toId _) a b).isSome ↔ _
      rw [outputOf_modify_addInput]
      simp [Pipeline]
  · rw [ServiceGraph.add, ServiceGraph.addOutputToExtern]
    split_ifs <;> simp [Pipeline, outputOf, getBlockProfile]

/-! ### The execution order -/

theorem mem_targets_iff {g : ServiceGraph} {w : Walks} {a b : ℤ} :
    b ∈ g.targets w a ↔ g.Pipeline a b := by
  rw [targets, Pipeline, outputOf, getBlockProfile]
  rcases g.blocks.lookup a with _ | p
  · simp
  · rw [Option.bind_some, ServiceBlockProfile.getOutputStreamType, AList.lookup_isSome,
      AList.mem_keys]
    exact ((w.outputs a).perm _).mem_iff

/-- The edges that are walked are the streams. -/
theorem edge_eq_pipeline (g : ServiceGraph) (w : Walks) :
    TopoSort.Edge g.blocks.keys (g.targets w) = g.Pipeline := by
  funext a b
  refine propext ⟨fun h => mem_targets_iff.mp h.2, fun h => ⟨?_, mem_targets_iff.mpr h⟩⟩
  exact AList.mem_keys.mp (isSome_outputOf h)

section Order

variable {g : ServiceGraph} (h : g.Consistent) (w : Walks)

include h

theorem Consistent.targets_subset : ∀ a ∈ g.blocks.keys, ∀ b ∈ g.targets w a, b ∈ g.blocks.keys :=
  fun _ _ _ hb => AList.mem_keys.mp (h.mem_blocks (mem_targets_iff.mp hb))

/-- `in_degree` has a counter for each block, and no other one. -/
theorem Consistent.perm_inDegreeKeys :
    (w.inDegree.visit (g.inDegreeKeys w)).Perm g.blocks.keys := by
  refine (w.inDegree.perm _).trans ?_
  refine (List.perm_ext_iff_of_nodup (List.nodup_dedup _) g.blocks.keys_nodup).mpr fun b => ?_
  rw [List.mem_dedup, List.mem_append, List.mem_flatMap]
  refine ⟨?_, Or.inl⟩
  rintro (hb | ⟨a, ha, hb⟩)
  · exact hb
  · exact h.targets_subset w a ha b hb

/-- `blocks_.at(curr)` does not throw. -/
theorem Consistent.getExecutionOrder_eq : g.getExecutionOrder w = some
    (TopoSort.sort (w.inDegree.visit (g.inDegreeKeys w)) g.blocks.keys (g.targets w)) := by
  rw [getExecutionOrder, if_pos]
  refine List.all_eq_true.mpr fun a ha => decide_eq_true ?_
  exact TopoSort.mem_of_mem_sort g.blocks.keys_nodup (h.perm_inDegreeKeys w) (h.targets_subset w) ha

theorem Consistent.detectCycle_eq : ∃ cycle, g.detectCycle w = some cycle ∧
    (cycle = true ↔ ∃ a, Relation.TransGen g.Pipeline a a) := by
  refine ⟨_, by rw [detectCycle, h.getExecutionOrder_eq w]; rfl, ?_⟩
  rw [bne_iff_ne, ne_eq, TopoSort.length_sort_iff g.blocks.keys_nodup (h.perm_inDegreeKeys w)
    (h.targets_subset w), edge_eq_pipeline]
  simp

include w in
/-- Without a cycle, a graph that has blocks has a source. -/
theorem Consistent.exists_source (hacyclic : ∀ a, ¬Relation.TransGen g.Pipeline a a) {id : ℤ}
    (hid : id ∈ g.blocks.keys) :
    ∃ a ∈ g.blocks.keys, ∃ p, g.getBlockProfile a = some p ∧ p.isSource = true := by
  have hlength := (TopoSort.length_sort_iff g.blocks.keys_nodup (h.perm_inDegreeKeys w)
    (h.targets_subset w)).mpr (by rwa [edge_eq_pipeline])
  -- The block that is first in the order has no predecessor.
  rcases hsort : TopoSort.sort (w.inDegree.visit (g.inDegreeKeys w)) g.blocks.keys
    (g.targets w) with _ | ⟨a, order⟩
  · rw [hsort] at hlength
    rw [List.eq_nil_of_length_eq_zero hlength.symm] at hid
    exact absurd hid List.not_mem_nil
  · have ha : a ∈ g.blocks.keys :=
      TopoSort.mem_of_mem_sort g.blocks.keys_nodup (h.perm_inDegreeKeys w) (h.targets_subset w)
        (hsort ▸ List.mem_cons_self)
    obtain ⟨p, hp⟩ := Option.isSome_iff_exists.mp (AList.lookup_isSome.mpr (AList.mem_keys.mpr ha))
    refine ⟨a, ha, p, hp, List.all_eq_true.mpr fun b hb => decide_eq_true ?_⟩
    by_contra hne
    have hpipeline : g.Pipeline b a := by
      rw [Pipeline, h.streamType b a hne, inputOf, show g.getBlockProfile a = some p from hp,
        Option.bind_some]
      exact AList.lookup_isSome.mpr (AList.mem_keys.mpr hb)
    have hnil : b ∈ [] := TopoSort.forward_sort g.blocks.keys_nodup (h.perm_inDegreeKeys w)
      (h.targets_subset w) hsort (AList.mem_keys.mp (isSome_outputOf hpipeline))
      (mem_targets_iff.mpr hpipeline)
    exact absurd hnil List.not_mem_nil

/-- The execution order: the blocks that no cycle leads to, each once and behind the blocks that
feed it. -/
theorem Consistent.spec_getExecutionOrder : ∃ order, g.getExecutionOrder w = some order ∧
    order.Nodup ∧
    (∀ b, b ∈ order ↔ g.hasBlock b = true ∧
      ∀ a, Relation.TransGen g.Pipeline a a → ¬Relation.ReflTransGen g.Pipeline a b) ∧
    ∀ before b after, order = before ++ b :: after → ∀ a, g.Pipeline a b → a ∈ before := by
  have hvertices := g.blocks.keys_nodup
  refine ⟨_, h.getExecutionOrder_eq w,
    TopoSort.nodup_sort hvertices (h.perm_inDegreeKeys w) (h.targets_subset w), fun b => ?_, ?_⟩
  · rw [TopoSort.mem_sort_iff hvertices (h.perm_inDegreeKeys w) (h.targets_subset w),
      edge_eq_pipeline, hasBlock_iff, AList.mem_keys]
  · intro before b after heq a hab
    exact TopoSort.forward_sort hvertices (h.perm_inDegreeKeys w) (h.targets_subset w) heq
      (AList.mem_keys.mp (isSome_outputOf hab)) (mem_targets_iff.mpr hab)

/-- What `Validate` accepts: a block and no cycle. -/
theorem Consistent.validate_iff (w' : Walks) : g.validate w w' = some true ↔
    (∃ id, g.hasBlock id = true) ∧ ∀ a, ¬Relation.TransGen g.Pipeline a a := by
  obtain ⟨cycle, hcycle, hiff⟩ := h.detectCycle_eq w
  rw [validate, hcycle, h.getExecutionOrder_eq w']
  simp only [Option.bind_eq_bind, Option.bind_some, Option.pure_def, Option.some.injEq,
    Bool.and_eq_true, Bool.not_eq_true', bne_eq_false_iff_eq, List.any_eq_true]
  rw [TopoSort.length_sort_iff g.blocks.keys_nodup (h.perm_inDegreeKeys w') (h.targets_subset w'),
    edge_eq_pipeline]
  constructor
  · rintro ⟨⟨-, hacyclic⟩, id, hid, -⟩
    exact ⟨⟨id, decide_eq_true hid⟩, hacyclic⟩
  · rintro ⟨⟨id, hid⟩, hacyclic⟩
    refine ⟨⟨?_, hacyclic⟩, ?_⟩
    · rw [← Bool.not_eq_true, hiff]
      exact fun ⟨a, ha⟩ => hacyclic a ha
    · obtain ⟨a, ha, p, hp, hsource⟩ := h.exists_source w hacyclic (of_decide_eq_true hid)
      exact ⟨a, ha, by rw [hp]; exact hsource⟩

end Order

/-- There is nothing but the blocks that were added. -/
theorem mem_blocks_build_iff {additions : List Addition} {id : ℤ} :
    id ∈ (build additions).blocks ↔
      ∃ moduleType buildType, .serviceBlock id moduleType buildType ∈ additions := by
  induction additions using List.reverseRecOn with
  | nil => simp [build, empty]
  | append_singleton additions a ih =>
    rw [build_concat, mem_blocks_add, ih]
    simp only [List.mem_append, List.mem_singleton]
    constructor
    · rintro (⟨m, t, h⟩ | ⟨m, t, h⟩)
      · exact ⟨m, t, Or.inl h⟩
      · exact ⟨m, t, Or.inr h.symm⟩
    · rintro ⟨m, t, h | h⟩
      · exact Or.inl ⟨m, t, h⟩
      · exact Or.inr ⟨m, t, h.symm⟩

/-- There is nothing but the streams that were added between blocks that were there by then. -/
theorem pipeline_build_iff {additions : List Addition} {a b : ℤ} :
    (build additions).Pipeline a b ↔
      ∃ before s after, additions = before ++ .streamPipeline a b s :: after ∧
        a ∈ (build before).blocks ∧ b ∈ (build before).blocks := by
  induction additions using List.reverseRecOn with
  | nil => simp [build, empty, Pipeline, outputOf, getBlockProfile]
  | append_singleton additions x ih =>
    rw [build_concat, pipeline_add, ih]
    constructor
    · rintro (⟨before, s, after, rfl, hblocks⟩ | ⟨⟨s, rfl⟩, hblocks⟩)
      · exact ⟨before, s, after ++ [x], by simp, hblocks⟩
      · exact ⟨additions, s, [], rfl, hblocks⟩
    · rintro ⟨before, s, after, heq, hblocks⟩
      rcases List.eq_nil_or_concat after with rfl | ⟨after, z, rfl⟩
      · obtain ⟨rfl, hlast⟩ := List.append_inj' heq rfl
        obtain rfl : x = .streamPipeline a b s := by simpa using hlast
        exact Or.inr ⟨⟨s, rfl⟩, hblocks⟩
      · have heq : additions ++ [x] = (before ++ .streamPipeline a b s :: after) ++ [z] := by
          simpa using heq
        exact Or.inl ⟨before, s, after, (List.append_inj' heq rfl).1, hblocks⟩

/-- **The execution order of a graph that is built**: the blocks that no cycle leads to, each once
and behind the blocks that feed it. -/
theorem getExecutionOrder_build (additions : List Addition) (w : Walks) :
    ∃ order, (build additions).getExecutionOrder w = some order ∧ order.Nodup ∧
      (∀ b, b ∈ order ↔ (build additions).hasBlock b = true ∧
        ∀ a, Relation.TransGen (build additions).Pipeline a a →
          ¬Relation.ReflTransGen (build additions).Pipeline a b) ∧
      ∀ before b after, order = before ++ b :: after →
        ∀ a, (build additions).Pipeline a b → a ∈ before :=
  (consistent_build additions).spec_getExecutionOrder w

/-- **What `Validate` accepts**: graphs that have a block and no cycle. -/
theorem validate_build_iff (additions : List Addition) (w w' : Walks) :
    (build additions).validate w w' = some true ↔
      (∃ id, (build additions).hasBlock id = true) ∧
        ∀ a, ¬Relation.TransGen (build additions).Pipeline a a :=
  (consistent_build additions).validate_iff w w'

end ServiceGraph

/-! ### The graph of the detector -/

namespace ServiceProfileBuilder

open ServiceGraph

/-- The additions of `Build`, with the identifiers of its two blocks. -/
def additions (rtspId sioId : ℤ) : List Addition :=
  [.serviceBlock rtspId .detectorRtsp .byUnit,
    .inputFromExtern rtspId .rtsp,
    .outputToExtern rtspId .rtsp,
    .serviceBlock sioId .detectorSocketIo .unique,
    .inputFromExtern sioId .socketIo,
    .streamPipeline rtspId sioId .internalQueueing,
    .outputToExtern sioId .socketIo]

/-- **`Build`**: the static counter `unique_block_id` after it, and the graph unless `exit(-1)` ends
the program. The counter is an `int`, and is to be less than `INT_MAX - 1`. -/
def build (uniqueBlockId : ℤ) (w w' : Walks) : ℤ × Option ServiceGraph :=
  let rtspId := uniqueBlockId
  let sioId := uniqueBlockId + 1
  let graph := ServiceGraph.build (additions rtspId sioId)
  (sioId + 1, if graph.validate w w' = some true then some graph else none)

theorem hasBlock_additions (rtspId sioId id : ℤ) :
    (ServiceGraph.build (additions rtspId sioId)).hasBlock id = true ↔
      id = rtspId ∨ id = sioId := by
  rw [hasBlock_iff, mem_blocks_build_iff]
  constructor
  · rintro ⟨moduleType, buildType, h⟩
    simp only [additions, List.mem_cons, Addition.serviceBlock.injEq, reduceCtorEq, false_or,
      List.not_mem_nil, or_false] at h
    exact h.imp (fun h => h.1) fun h => h.1
  · rintro (rfl | rfl)
    · exact ⟨.detectorRtsp, .byUnit, by simp [additions]⟩
    · exact ⟨.detectorSocketIo, .unique, by simp [additions]⟩

theorem pipeline_additions (rtspId sioId a b : ℤ) :
    (ServiceGraph.build (additions rtspId sioId)).Pipeline a b ↔ a = rtspId ∧ b = sioId := by
  rw [pipeline_build_iff]
  constructor
  · rintro ⟨before, s, after, heq, -⟩
    have hmem : .streamPipeline a b s ∈ additions rtspId sioId := by simp [heq]
    simp only [additions, List.mem_cons, Addition.streamPipeline.injEq, reduceCtorEq, false_or,
      List.not_mem_nil, or_false] at hmem
    exact ⟨hmem.1, hmem.2.1⟩
  · rintro ⟨rfl, rfl⟩
    refine ⟨[.serviceBlock a .detectorRtsp .byUnit, .inputFromExtern a .rtsp,
      .outputToExtern a .rtsp, .serviceBlock b .detectorSocketIo .unique,
      .inputFromExtern b .socketIo], .internalQueueing, [.outputToExtern b .socketIo], rfl, ?_, ?_⟩
    · exact mem_blocks_build_iff.mpr ⟨.detectorRtsp, .byUnit, by simp⟩
    · exact mem_blocks_build_iff.mpr ⟨.detectorSocketIo, .unique, by simp⟩

/-- **`Build` never gives up**: whatever the counter has come to, the graph is valid, and the block
of the cameras comes before the one that sends their events on. -/
theorem build_succeeds (uniqueBlockId : ℤ) (w w' : Walks) :
    ∃ graph, build uniqueBlockId w w' = (uniqueBlockId + 2, some graph) ∧
      ∀ v, graph.getExecutionOrder v = some [uniqueBlockId, uniqueBlockId + 1] := by
  have hpath : ∀ a b, Relation.TransGen
      (ServiceGraph.build (additions uniqueBlockId (uniqueBlockId + 1))).Pipeline a b →
        a = uniqueBlockId ∧ b = uniqueBlockId + 1 := by
    intro a b h
    induction h with
    | single h => exact (pipeline_additions _ _ _ _).mp h
    | tail _ h ih => exact ⟨ih.1, ((pipeline_additions _ _ _ _).mp h).2⟩
  have hacyclic : ∀ a, ¬Relation.TransGen
      (ServiceGraph.build (additions uniqueBlockId (uniqueBlockId + 1))).Pipeline a a := by
    intro a h
    obtain ⟨h1, h2⟩ := hpath a a h
    omega
  have hconsistent := consistent_build (additions uniqueBlockId (uniqueBlockId + 1))
  have hvalid := (hconsistent.validate_iff w w').mpr
    ⟨⟨uniqueBlockId, (hasBlock_additions _ _ _).mpr (Or.inl rfl)⟩, hacyclic⟩
  refine ⟨ServiceGraph.build (additions uniqueBlockId (uniqueBlockId + 1)), ?_, fun v => ?_⟩
  · simp only [build, hvalid, if_true, Prod.mk.injEq, and_true]
    omega
  · obtain ⟨order, horder, hnodup, hmem, hforward⟩ := hconsistent.spec_getExecutionOrder v
    rw [horder, Option.some.injEq]
    have hperm : order.Perm [uniqueBlockId, uniqueBlockId + 1] := by
      refine (List.perm_ext_iff_of_nodup hnodup (by simp)).mpr fun b => ?_
      rw [hmem, hasBlock_additions, List.mem_cons, List.mem_singleton]
      exact and_iff_left fun a ha => absurd ha (hacyclic a)
    rcases List.perm_pair.mp hperm with h | h
    · exact h
    · have : uniqueBlockId ∈ [] := hforward [] (uniqueBlockId + 1) [uniqueBlockId] h uniqueBlockId
        ((pipeline_additions _ _ _ _).mpr ⟨rfl, rfl⟩)
      exact absurd this List.not_mem_nil

end ServiceProfileBuilder

end DetectBase
