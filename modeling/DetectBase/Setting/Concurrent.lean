import DetectBase.Foundations.Transition
import DetectBase.Setting.Manager

/-!
# Threads on a setting manager

Any number of threads call the operations of one `SettingManagerBase`. An operation is a sequence
of critical sections – of the map mutex, of the data mutex of a setter, of its callback mutex –
with local work in between, and the scheduler may change threads at every boundary. A thread's
position in an operation is a `DetectBase.Position`; the step function
`DetectBase.SettingSystem.step` lets one thread do one section.

Three things happen outside all locks, and are steps of their own: the invocation of a collected
callback, the return from `UnregisterCallback`, and the hand-over of stolen callbacks to a new
setter in a reset. `map_mutex_` is held across several sections of a reset (the preparation and the
rollback), so its holder is part of the state; the other mutexes are never held across a
boundary. A setter without a data mutex is not meant to be updated by several threads, and its
updates are taken as atomic here too.

The actions name what the source leaves open: which thread moves, which collected callback comes
next, in which order a hash map is walked. `DetectBase.Step` lists what each step can do, for
proofs (`DetectBase.step_sound`).

Two fields are bookkeeping that no step reads: the log, and the number of updates that a setter has
stored, which stamps every snapshot.
-/

namespace DetectBase

/-- A copy of the data of a setter, taken after its `version`-th update. -/
structure Snapshot (β : Type) where
  /-- The data. -/
  data : ISettingData β
  /-- The number of updates stored before the copy was taken. -/
  version : ℕ

/-- Where a thread stands. -/
inductive Position (β : Type) where
  /-- In no operation. -/
  | idle : Position β
  /-- `UpdateTargetUnit`, before the lookup. -/
  | updateFind (u : UnitID) (j : Json) : Position β
  /-- `Update`, before phase 1. -/
  | updateStore (p : ℕ) (j : Json) : Position β
  /-- `Update`, before phase 2. -/
  | updateCollect (p : ℕ) (d : Snapshot β) : Position β
  /-- Phase 3 of `Update`, or the same phase of `TriggerCallbacks` in a reset that has the
  setters `rest` still to trigger. -/
  | invoke (p : ℕ) (d : Snapshot β) (pending : List Uuid) (rest : Option (List ℕ)) : Position β
  /-- `RegisterCallback`, before the lookup. -/
  | registerFind (u : UnitID) : Position β
  /-- `RegisterCallback`, before the insertion. -/
  | registerInsert (u : UnitID) (p : ℕ) : Position β
  /-- `UnregisterCallback` of the first entry, before the lookup; then of the others. -/
  | unregister (subs : List (UnitID × Uuid)) : Position β
  /-- `UnregisterCallback`, before the erasure. -/
  | unregisterErase (p : ℕ) (c : Uuid) (subs : List (UnitID × Uuid)) : Position β
  /-- `UnregisterCallback` that has erased the callback, before its return. -/
  | unregisterReturn (c : Uuid) (subs : List (UnitID × Uuid)) : Position β
  /-- `RemoveTargetUnit`. -/
  | remove (u : UnitID) : Position β
  /-- `RenewAfterReset`, at its start. -/
  | renewStart (j : Json) : Position β
  /-- Phase 1, with the clusters still to prepare; the map mutex is held. -/
  | renewPrepare (clusters : UnitMap (List Json)) (r : SettingManagerBase.Renewal) : Position β
  /-- Phase 2, before the map mutex is taken. -/
  | renewRollback (stolen : UnitMap (List Uuid)) : Position β
  /-- Phase 2, with the callbacks still to give back; the map mutex is held. -/
  | renewRestore (stolen : UnitMap (List Uuid)) : Position β
  /-- Phase 3, with the new setters still to serve. -/
  | renewAttach (todo : UnitMap ℕ) (r : SettingManagerBase.Renewal) : Position β
  /-- Phase 4. -/
  | renewSwap (mapForSwap : UnitMap ℕ) : Position β
  /-- Phase 5, before the setters are gathered. -/
  | renewGather : Position β
  /-- Phase 5, with the setters still to trigger. -/
  | renewTrigger (rest : List ℕ) : Position β

/-- The operations a thread can call. -/
inductive Operation where
  /-- `UpdateTargetUnit`. -/
  | updateTargetUnit (u : UnitID) (j : Json) : Operation
  /-- `RegisterCallback`. -/
  | registerCallback (u : UnitID) : Operation
  /-- `UnregisterCallback`. -/
  | unregisterCallback (u : UnitID) (c : Uuid) : Operation
  /-- `ClearAllSubscriptions`: `UnregisterCallback` of one subscription after the other. -/
  | clearAllSubscriptions (subs : List (UnitID × Uuid)) : Operation
  /-- `RemoveTargetUnit`. -/
  | removeTargetUnit (u : UnitID) : Operation
  /-- `RenewAfterReset`. -/
  | renewAfterReset (j : Json) : Operation

/-- Where an operation starts. Each of them but the reset returns at once when it is asked for
`MISSING_UNIT_ID`. -/
def Operation.entry {β : Type} : Operation → Position β
  | updateTargetUnit u j => if u = missingUnitId then .idle else .updateFind u j
  | registerCallback u => if u = missingUnitId then .idle else .registerFind u
  | unregisterCallback u c => .unregister [(u, c)]
  | clearAllSubscriptions subs => .unregister subs
  | removeTargetUnit u => if u = missingUnitId then .idle else .remove u
  | renewAfterReset j => .renewStart j

/-- What a thread does when it is scheduled. -/
inductive Act where
  /-- Calls an operation. -/
  | call (op : Operation) : Act
  /-- Goes on to the next boundary. -/
  | go : Act
  /-- Works on the given unit of a map that is being walked. -/
  | unit (u : UnitID) : Act
  /-- Invokes a collected callback. -/
  | invoke (c : Uuid) : Act
  /-- Triggers the given setter. -/
  | trigger (p : ℕ) : Act

/-- What an observer can see. -/
inductive Event (β : Type) where
  /-- The invocation of a callback begins. -/
  | invoked (p : ℕ) (c : Uuid) (d : Snapshot β) : Event β
  /-- `RegisterCallback` returns an identifier. -/
  | registered (u : UnitID) (c : Uuid) : Event β
  /-- The `UnregisterCallback` that removed a callback returns. -/
  | unregistered (c : Uuid) : Event β
  /-- `RenewAfterReset` returns in a thread. -/
  | renewed (t : ℕ) (result : Bool) : Event β

/-- A manager and the threads that use it. -/
structure SettingSystem (β : Type) where
  /-- The manager. -/
  manager : SettingManagerBase β
  /-- The thread that holds `map_mutex_`. -/
  mapHolder : Option ℕ
  /-- Where each thread stands. -/
  threads : ℕ → Position β
  /-- The identifier that the next registration gets. -/
  nextUuid : Uuid
  /-- How many updates each setter has stored. -/
  version : ℕ → ℕ
  /-- What has happened, the latest first. -/
  log : List (Event β)

namespace SettingSystem

open SettingManagerBase

variable {β : Type}

/-- Move a thread. -/
@[simps]
def goto (s : SettingSystem β) (t : ℕ) (pos : Position β) : SettingSystem β :=
  { s with threads := Function.update s.threads t pos }

/-- Record an event. -/
@[simps]
def emit (s : SettingSystem β) (e : Event β) : SettingSystem β := { s with log := e :: s.log }

/-- Change the manager. -/
@[simps]
def update (s : SettingSystem β) (m : SettingManagerBase β) : SettingSystem β :=
  { s with manager := m }

/-- Take or release `map_mutex_`. -/
@[simps]
def holdMap (s : SettingSystem β) (holder : Option ℕ) : SettingSystem β :=
  { s with mapHolder := holder }

/-- A section that takes `map_mutex_`. -/
def locked (s : SettingSystem β) (s' : SettingSystem β) : Option (SettingSystem β) :=
  if s.mapHolder = none then some s' else none

theorem locked_eq_some {s s₁ s' : SettingSystem β} (h : s.locked s₁ = some s') :
    s.mapHolder = none ∧ s₁ = s' := by
  rw [locked] at h
  split_ifs at h with hmap
  exact ⟨hmap, Option.some.inj h⟩

/-- A snapshot of the data of a setter. -/
def snapshot (s : SettingSystem β) (p : ℕ) : Snapshot β :=
  ⟨(s.manager.heap p).settingData, s.version p⟩

variable [SettingData β]

/-- No operation in progress, over an empty manager. -/
def start (unitKeyName : String) (needSetterDataLock : Bool) : SettingSystem β :=
  ⟨.new unitKeyName needSetterDataLock, none, fun _ => .idle, 0, fun _ => 0, []⟩

/-- The next section of a thread that has nothing to choose. -/
def proceed (s : SettingSystem β) (t : ℕ) : Position β → Option (SettingSystem β)
  | .updateFind u j =>
    s.locked ((s.update (s.manager.findOrCreate u).2).goto t
      (.updateStore (s.manager.findOrCreate u).1 j))
  | .updateStore p j =>
    match (s.manager.heap p).updateInternal j with
    | (.ok true, x) =>
      let s := { s.update (s.manager.modifySetter p fun _ => x) with
        version := Function.update s.version p (s.version p + 1) }
      some (s.goto t (.updateCollect p (s.snapshot p)))
    -- refused or thrown: the call is over, and no callback is collected
    | (_, x) => some ((s.update (s.manager.modifySetter p fun _ => x)).goto t .idle)
  | .updateCollect p d => some (s.goto t (.invoke p d (s.manager.heap p).callbacks none))
  | .invoke _ _ [] none => some (s.goto t .idle)
  | .invoke _ _ [] (some rest) => some (s.goto t (.renewTrigger rest))
  | .registerFind u =>
    s.locked ((s.update (s.manager.findOrCreate u).2).goto t
      (.registerInsert u (s.manager.findOrCreate u).1))
  | .registerInsert u p =>
    some ({ (s.update (s.manager.modifySetter p (.registerCallback s.nextUuid))).emit
      (.registered u s.nextUuid) with nextUuid := s.nextUuid + 1 }.goto t .idle)
  | .unregister [] => some (s.goto t .idle)
  | .unregister ((u, c) :: subs) =>
    if u = missingUnitId then some (s.goto t (.unregister subs))
    else
      match s.manager.settings.lookup u with
      | some p => s.locked (s.goto t (.unregisterErase p c subs))
      | none => s.locked (s.goto t (.unregister subs))
  | .unregisterErase p c subs =>
    some ((s.update (s.manager.modifySetter p (.unregisterCallback c))).goto t
      -- only a call that has found the callback is one that removed it
      (if c ∈ (s.manager.heap p).callbacks then .unregisterReturn c subs else .unregister subs))
  | .unregisterReturn c subs => some ((s.emit (.unregistered c)).goto t (.unregister subs))
  | .remove u => s.locked ((s.update (s.manager.removeTargetUnit u)).goto t .idle)
  | .renewStart (.arr objs) =>
    match clusterByUnit s.manager.unitKeyName objs ∅ with
    | .ok clusters => s.locked ((s.holdMap (some t)).goto t (.renewPrepare clusters .empty))
    -- the entries are clustered before the lock is taken
    | .error _ => some (s.goto t (.renewRollback ∅))
  | .renewStart _ => some ((s.emit (.renewed t false)).goto t .idle)
  | .renewPrepare clusters r =>
    if clusters.keys = [] then some ((s.holdMap none).goto t (.renewAttach r.mapForSwap r))
    else none
  | .renewRollback stolen =>
    if stolen.keys = [] then some ((s.emit (.renewed t false)).goto t .idle)
    else s.locked ((s.holdMap (some t)).goto t (.renewRestore stolen))
  | .renewRestore stolen =>
    if stolen.keys = [] then some (((s.holdMap none).emit (.renewed t false)).goto t .idle)
    else none
  | .renewAttach todo r =>
    if todo.keys = [] then some (s.goto t (.renewSwap r.mapForSwap)) else none
  | .renewSwap swap =>
    s.locked ((s.update { s.manager with settings := swap }).goto t .renewGather)
  | .renewGather => s.locked (s.goto t (.renewTrigger (s.manager.settings.entries.map (·.2))))
  | .renewTrigger [] => some ((s.emit (.renewed t true)).goto t .idle)
  | _ => none

/-- The work of a reset on one unit of the map it is walking. -/
def workOn (s : SettingSystem β) (t : ℕ) (u : UnitID) : Position β → Option (SettingSystem β)
  | .renewPrepare clusters r =>
    (clusters.lookup u).map fun objs =>
      match s.manager.prepareUnit r u objs with
      | .ok (m, r) => (s.update m).goto t (.renewPrepare (clusters.erase u) r)
      | .error _ => (s.holdMap none).goto t (.renewRollback r.stolen)
  | .renewRestore stolen =>
    (stolen.lookup u).map fun cs =>
      (s.update (s.manager.restoreUnit u cs)).goto t (.renewRestore (stolen.erase u))
  | .renewAttach todo r =>
    (todo.lookup u).map fun p =>
      (s.update (s.manager.attachUnit p (r.stolen.lookup u))).goto t
        (.renewAttach (todo.erase u) ⟨r.mapForSwap, r.stolen.erase u⟩)
  | _ => none

/-- **One step of the system**: what the thread does when it is scheduled with the given action. -/
def step (s : SettingSystem β) : ℕ × Act → Option (SettingSystem β)
  | (t, .call op) =>
    match s.threads t with
    | .idle => some (s.goto t op.entry)
    | _ => none
  | (t, .go) => s.proceed t (s.threads t)
  | (t, .unit u) => s.workOn t u (s.threads t)
  | (t, .invoke c) =>
    match s.threads t with
    | .invoke p d pending rest =>
      if c ∈ pending then
        some ((s.emit (.invoked p c d)).goto t (.invoke p d (pending.erase c) rest))
      else none
    | _ => none
  | (t, .trigger p) =>
    match s.threads t with
    | .renewTrigger rest =>
      if p ∈ rest then
        some (s.goto t (.invoke p (s.snapshot p)
          (if (s.manager.heap p).isInitialized then (s.manager.heap p).callbacks else [])
          (some (rest.erase p))))
      else none
    | _ => none

end SettingSystem

/-! ### What a step can do -/

open SettingManagerBase SettingSystem

variable {β : Type} [SettingData β]

/-- The steps of the thread `t` from the state `s`, one constructor for each branch of the
source. -/
inductive Step (s : SettingSystem β) (t : ℕ) : Act → SettingSystem β → Prop where
  /-- An idle thread calls an operation. -/
  | call {op : Operation} (hpos : s.threads t = .idle) : Step s t (.call op) (s.goto t op.entry)
  /-- The lookup of `UpdateTargetUnit`. -/
  | updateFind {u : UnitID} {j : Json} (hpos : s.threads t = .updateFind u j)
      (hmap : s.mapHolder = none) :
      Step s t .go ((s.update (s.manager.findOrCreate u).2).goto t
        (.updateStore (s.manager.findOrCreate u).1 j))
  /-- Phase 1 of `Update`, when it succeeds. -/
  | updateStored {p : ℕ} {j : Json} {x : SetterBase β} (hpos : s.threads t = .updateStore p j)
      (hres : (s.manager.heap p).updateInternal j = (.ok true, x)) :
      Step s t .go ({ s.update (s.manager.modifySetter p fun _ => x) with
        version := Function.update s.version p (s.version p + 1) }.goto t
          (.updateCollect p ⟨x.settingData, s.version p + 1⟩))
  /-- Phase 1 of `Update`, when it is refused or throws. -/
  | updateFailed {p : ℕ} {j : Json} {x : SetterBase β} {r : Except Json.Exception Bool}
      (hpos : s.threads t = .updateStore p j)
      (hres : (s.manager.heap p).updateInternal j = (r, x)) (hne : r ≠ .ok true) :
      Step s t .go ((s.update (s.manager.modifySetter p fun _ => x)).goto t .idle)
  /-- Phase 2 of `Update`. -/
  | updateCollect {p : ℕ} {d : Snapshot β} (hpos : s.threads t = .updateCollect p d) :
      Step s t .go (s.goto t (.invoke p d (s.manager.heap p).callbacks none))
  /-- The invocation of a collected callback. -/
  | invoke {p : ℕ} {d : Snapshot β} {pending : List Uuid} {rest : Option (List ℕ)} {c : Uuid}
      (hpos : s.threads t = .invoke p d pending rest) (hc : c ∈ pending) :
      Step s t (.invoke c)
        ((s.emit (.invoked p c d)).goto t (.invoke p d (pending.erase c) rest))
  /-- The return of `Update`. -/
  | updateDone {p : ℕ} {d : Snapshot β} (hpos : s.threads t = .invoke p d [] none) :
      Step s t .go (s.goto t .idle)
  /-- The return of `TriggerCallbacks` into the loop of a reset. -/
  | triggered {p : ℕ} {d : Snapshot β} {rest : List ℕ}
      (hpos : s.threads t = .invoke p d [] (some rest)) :
      Step s t .go (s.goto t (.renewTrigger rest))
  /-- The lookup of `RegisterCallback`. -/
  | registerFind {u : UnitID} (hpos : s.threads t = .registerFind u) (hmap : s.mapHolder = none) :
      Step s t .go ((s.update (s.manager.findOrCreate u).2).goto t
        (.registerInsert u (s.manager.findOrCreate u).1))
  /-- The insertion of a callback. -/
  | registerInsert {u : UnitID} {p : ℕ} (hpos : s.threads t = .registerInsert u p) :
      Step s t .go ({ (s.update (s.manager.modifySetter p (.registerCallback s.nextUuid))).emit
        (.registered u s.nextUuid) with nextUuid := s.nextUuid + 1 }.goto t .idle)
  /-- The end of `ClearAllSubscriptions`. -/
  | unregisterDone (hpos : s.threads t = .unregister []) : Step s t .go (s.goto t .idle)
  /-- `UnregisterCallback` for a unit that is not there. -/
  | unregisterMiss {u : UnitID} {c : Uuid} {subs : List (UnitID × Uuid)}
      (hpos : s.threads t = .unregister ((u, c) :: subs)) :
      Step s t .go (s.goto t (.unregister subs))
  /-- The lookup of `UnregisterCallback`. -/
  | unregisterFind {u : UnitID} {c : Uuid} {p : ℕ} {subs : List (UnitID × Uuid)}
      (hpos : s.threads t = .unregister ((u, c) :: subs)) (hmap : s.mapHolder = none)
      (hu : s.manager.settings.lookup u = some p) :
      Step s t .go (s.goto t (.unregisterErase p c subs))
  /-- The erasure of a callback. -/
  | unregisterErase {p : ℕ} {c : Uuid} {subs : List (UnitID × Uuid)}
      (hpos : s.threads t = .unregisterErase p c subs)
      (hc : c ∈ (s.manager.heap p).callbacks) :
      Step s t .go ((s.update (s.manager.modifySetter p (.unregisterCallback c))).goto t
        (.unregisterReturn c subs))
  /-- The erasure of a callback that is not there. -/
  | unregisterNone {p : ℕ} {c : Uuid} {subs : List (UnitID × Uuid)}
      (hpos : s.threads t = .unregisterErase p c subs)
      (hc : c ∉ (s.manager.heap p).callbacks) :
      Step s t .go ((s.update (s.manager.modifySetter p (.unregisterCallback c))).goto t
        (.unregister subs))
  /-- The return of an `UnregisterCallback` that has removed its callback. -/
  | unregisterReturn {c : Uuid} {subs : List (UnitID × Uuid)}
      (hpos : s.threads t = .unregisterReturn c subs) :
      Step s t .go ((s.emit (.unregistered c)).goto t (.unregister subs))
  /-- `RemoveTargetUnit`. -/
  | remove {u : UnitID} (hpos : s.threads t = .remove u) (hmap : s.mapHolder = none) :
      Step s t .go ((s.update (s.manager.removeTargetUnit u)).goto t .idle)
  /-- A reset with something that is not an array. -/
  | renewNoArray {j : Json} (hpos : s.threads t = .renewStart j) (hj : j.isArray = false) :
      Step s t .go ((s.emit (.renewed t false)).goto t .idle)
  /-- A reset with an entry whose unit cannot be read. -/
  | renewNoUnits {objs : List Json} {e : Json.Exception}
      (hpos : s.threads t = .renewStart (.arr objs))
      (hclusters : clusterByUnit s.manager.unitKeyName objs ∅ = .error e) :
      Step s t .go (s.goto t (.renewRollback ∅))
  /-- A reset takes the map mutex. -/
  | renewStart {objs : List Json} {clusters : UnitMap (List Json)}
      (hpos : s.threads t = .renewStart (.arr objs))
      (hclusters : clusterByUnit s.manager.unitKeyName objs ∅ = .ok clusters)
      (hmap : s.mapHolder = none) :
      Step s t .go ((s.holdMap (some t)).goto t (.renewPrepare clusters .empty))
  /-- Phase 1 on one unit. -/
  | prepareUnit {clusters : UnitMap (List Json)} {r r' : Renewal} {u : UnitID} {objs : List Json}
      {m : SettingManagerBase β} (hpos : s.threads t = .renewPrepare clusters r)
      (hu : clusters.lookup u = some objs)
      (hres : s.manager.prepareUnit r u objs = .ok (m, r')) :
      Step s t (.unit u) ((s.update m).goto t (.renewPrepare (clusters.erase u) r'))
  /-- Phase 1 on a unit whose entries throw. -/
  | prepareThrow {clusters : UnitMap (List Json)} {r : Renewal} {u : UnitID} {objs : List Json}
      {e : Json.Exception} (hpos : s.threads t = .renewPrepare clusters r)
      (hu : clusters.lookup u = some objs)
      (hres : s.manager.prepareUnit r u objs = .error e) :
      Step s t (.unit u) ((s.holdMap none).goto t (.renewRollback r.stolen))
  /-- The end of phase 1. -/
  | prepared {clusters : UnitMap (List Json)} {r : Renewal}
      (hpos : s.threads t = .renewPrepare clusters r) (hempty : clusters.keys = []) :
      Step s t .go ((s.holdMap none).goto t (.renewAttach r.mapForSwap r))
  /-- A reset that fails before it has taken over any callback. -/
  | rollbackNone {stolen : UnitMap (List Uuid)} (hpos : s.threads t = .renewRollback stolen)
      (hempty : stolen.keys = []) :
      Step s t .go ((s.emit (.renewed t false)).goto t .idle)
  /-- The rollback takes the map mutex. -/
  | rollback {stolen : UnitMap (List Uuid)} (hpos : s.threads t = .renewRollback stolen)
      (hmap : s.mapHolder = none) :
      Step s t .go ((s.holdMap (some t)).goto t (.renewRestore stolen))
  /-- Phase 2 on one unit. -/
  | restoreUnit {stolen : UnitMap (List Uuid)} {u : UnitID} {cs : List Uuid}
      (hpos : s.threads t = .renewRestore stolen) (hu : stolen.lookup u = some cs) :
      Step s t (.unit u)
        ((s.update (s.manager.restoreUnit u cs)).goto t (.renewRestore (stolen.erase u)))
  /-- The end of the rollback. -/
  | restored {stolen : UnitMap (List Uuid)} (hpos : s.threads t = .renewRestore stolen)
      (hempty : stolen.keys = []) :
      Step s t .go (((s.holdMap none).emit (.renewed t false)).goto t .idle)
  /-- Phase 3 on one unit. -/
  | attachUnit {todo : UnitMap ℕ} {r : Renewal} {u : UnitID} {p : ℕ}
      (hpos : s.threads t = .renewAttach todo r) (hu : todo.lookup u = some p) :
      Step s t (.unit u) ((s.update (s.manager.attachUnit p (r.stolen.lookup u))).goto t
        (.renewAttach (todo.erase u) ⟨r.mapForSwap, r.stolen.erase u⟩))
  /-- The end of phase 3. -/
  | attached {todo : UnitMap ℕ} {r : Renewal} (hpos : s.threads t = .renewAttach todo r)
      (hempty : todo.keys = []) : Step s t .go (s.goto t (.renewSwap r.mapForSwap))
  /-- Phase 4. -/
  | swap {swap : UnitMap ℕ} (hpos : s.threads t = .renewSwap swap) (hmap : s.mapHolder = none) :
      Step s t .go ((s.update { s.manager with settings := swap }).goto t .renewGather)
  /-- Phase 5 gathers the setters. -/
  | gather (hpos : s.threads t = .renewGather) (hmap : s.mapHolder = none) :
      Step s t .go (s.goto t (.renewTrigger (s.manager.settings.entries.map (·.2))))
  /-- Phase 5 triggers one setter. -/
  | trigger {rest : List ℕ} {p : ℕ} (hpos : s.threads t = .renewTrigger rest) (hp : p ∈ rest) :
      Step s t (.trigger p) (s.goto t (.invoke p (s.snapshot p)
        (if (s.manager.heap p).isInitialized then (s.manager.heap p).callbacks else [])
        (some (rest.erase p))))
  /-- The end of a reset that went through. -/
  | renewed (hpos : s.threads t = .renewTrigger []) :
      Step s t .go ((s.emit (.renewed t true)).goto t .idle)

/-- A step moves one thread. -/
theorem Step.threads_ne {s s' : SettingSystem β} {t t' : ℕ} {a : Act} (h : Step s t a s')
    (hne : t' ≠ t) : s'.threads t' = s.threads t' := by
  cases h <;> simp [Function.update_of_ne hne]

section Sound

variable {s s' : SettingSystem β} {t : ℕ}

theorem proceed_sound {pos : Position β} (hpos : s.threads t = pos)
    (h : s.proceed t pos = some s') : Step s t .go s' := by
  cases pos with
  | idle => cases h
  | updateFind u j =>
    obtain ⟨hmap, rfl⟩ := locked_eq_some h
    exact .updateFind hpos hmap
  | updateStore p j =>
    rw [proceed] at h
    split at h
    · next x hres =>
      cases h
      simp only [snapshot, SettingSystem.update, modifySetter, Function.update_self]
      exact .updateStored hpos hres
    · next r x hne hres =>
      cases h
      exact .updateFailed hpos hres hne
  | updateCollect p d =>
    cases h
    exact .updateCollect hpos
  | invoke p d pending rest =>
    cases pending with
    | cons c cs => cases h
    | nil =>
      cases rest with
      | none =>
        cases h
        exact .updateDone hpos
      | some rest =>
        cases h
        exact .triggered hpos
  | registerFind u =>
    obtain ⟨hmap, rfl⟩ := locked_eq_some h
    exact .registerFind hpos hmap
  | registerInsert u p =>
    cases h
    exact .registerInsert hpos
  | unregister subs =>
    cases subs with
    | nil =>
      cases h
      exact .unregisterDone hpos
    | cons sub subs =>
      obtain ⟨u, c⟩ := sub
      rw [proceed] at h
      split_ifs at h with hu
      · cases h
        exact .unregisterMiss hpos
      · split at h
        · next p hp =>
          obtain ⟨hmap, rfl⟩ := locked_eq_some h
          exact .unregisterFind hpos hmap hp
        · obtain ⟨-, rfl⟩ := locked_eq_some h
          exact .unregisterMiss hpos
  | unregisterErase p c subs =>
    rw [proceed] at h
    cases h
    split_ifs with hc
    · exact .unregisterErase hpos hc
    · exact .unregisterNone hpos hc
  | unregisterReturn c subs =>
    cases h
    exact .unregisterReturn hpos
  | remove u =>
    obtain ⟨hmap, rfl⟩ := locked_eq_some h
    exact .remove hpos hmap
  | renewStart j =>
    cases j with
    | arr objs =>
      rw [proceed] at h
      split at h
      · next clusters hclusters =>
        obtain ⟨hmap, rfl⟩ := locked_eq_some h
        exact .renewStart hpos hclusters hmap
      · next e hclusters =>
        cases h
        exact .renewNoUnits hpos hclusters
    | null | bool | int | float | str | obj =>
      cases h
      exact .renewNoArray hpos rfl
  | renewPrepare clusters r =>
    rw [proceed] at h
    split_ifs at h with hempty
    cases h
    exact .prepared hpos hempty
  | renewRollback stolen =>
    rw [proceed] at h
    split_ifs at h with hempty
    · cases h
      exact .rollbackNone hpos hempty
    · obtain ⟨hmap, rfl⟩ := locked_eq_some h
      exact .rollback hpos hmap
  | renewRestore stolen =>
    rw [proceed] at h
    split_ifs at h with hempty
    cases h
    exact .restored hpos hempty
  | renewAttach todo r =>
    rw [proceed] at h
    split_ifs at h with hempty
    cases h
    exact .attached hpos hempty
  | renewSwap swap =>
    obtain ⟨hmap, rfl⟩ := locked_eq_some h
    exact .swap hpos hmap
  | renewGather =>
    obtain ⟨hmap, rfl⟩ := locked_eq_some h
    exact .gather hpos hmap
  | renewTrigger rest =>
    cases rest with
    | cons p rest => cases h
    | nil =>
      cases h
      exact .renewed hpos

theorem workOn_sound {u : UnitID} {pos : Position β} (hpos : s.threads t = pos)
    (h : s.workOn t u pos = some s') : Step s t (.unit u) s' := by
  cases pos with
  | renewPrepare clusters r =>
    obtain ⟨objs, hu, heq⟩ := Option.map_eq_some_iff.mp h
    split at heq
    · next m r' hres =>
      cases heq
      exact .prepareUnit hpos hu hres
    · next e hres =>
      cases heq
      exact .prepareThrow hpos hu hres
  | renewRestore stolen =>
    obtain ⟨cs, hu, rfl⟩ := Option.map_eq_some_iff.mp h
    exact .restoreUnit hpos hu
  | renewAttach todo r =>
    obtain ⟨p, hu, rfl⟩ := Option.map_eq_some_iff.mp h
    exact .attachUnit hpos hu
  | _ => cases h

/-- **Every step is one of those listed.** -/
theorem step_sound {a : Act} (h : s.step (t, a) = some s') : Step s t a s' := by
  cases a with
  | call op =>
    simp only [step] at h
    split at h
    · next hpos =>
      cases h
      exact .call hpos
    · cases h
  | go => exact proceed_sound rfl h
  | unit u => exact workOn_sound rfl h
  | invoke c =>
    simp only [step] at h
    split at h
    · next p d pending rest hpos =>
      split_ifs at h with hc
      cases h
      exact .invoke hpos hc
    · cases h
  | trigger p =>
    simp only [step] at h
    split at h
    · next rest hpos =>
      by_cases hp : p ∈ rest
      · rw [if_pos hp] at h
        cases h
        exact .trigger hpos hp
      · rw [if_neg hp] at h
        cases h
    · cases h

end Sound

/-- A manager of exclusion settings with one subscriber of the unit 1. -/
def oneSubscriber : SettingSystem ExcludeCam :=
  { start "CameraId" true with
    manager := (SettingManagerBase.new "CameraId" true).registerCallback 1 0
    nextUuid := 1 }

end DetectBase
