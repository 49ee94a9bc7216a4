import DetectBase.Foundations.Transition
import DetectBase.Structure.SafeQueue
import DetectBase.Structure.Types
import Mathlib.Data.Finset.Basic
import Mathlib.Logic.Function.Basic

/-!
# The load balancer of the engines

`EngineLoadBalancer` stands between the engines, which put their results into one queue, and the
units that have asked for them, each of which reads from a queue of its own. A unit comes in with
`Subscribe` and leaves with `Unsubscribe`; a dispatcher thread takes the results one after the other
and sorts them; `RespondAsync` reads.

The set of subscribers and the map of the queues are guarded by different mutexes, and no operation
holds both. An operation is a sequence of critical sections, and
`DetectBase.EngineLoadBalancer.step` lets one thread do one of them. Queues are held by shared
pointers: a thread that has looked a queue up keeps it while others replace it or remove it from the
map, so a queue is a number here, and all queues ever made are in the state.

The log is bookkeeping that no step reads. `DetectBase.BalancerStep` lists what each step can do.
-/

namespace DetectBase

/-- `OutputLayerWrapper`, the result of a request. -/
structure OutputLayer (β : Type) where
  /-- `meta_data.requester_unit_id`. -/
  requesterUnitId : UnitID
  /-- All the rest. -/
  content : β
deriving DecidableEq

/-- Where a thread stands. -/
inductive BalancerCall where
  /-- In no operation. -/
  | idle : BalancerCall
  /-- `Subscribe`, before the section that registers the unit. -/
  | subscribeUnit (u : UnitID) : BalancerCall
  /-- `Subscribe`, before the section that makes the queue. -/
  | subscribeQueue (u : UnitID) : BalancerCall
  /-- `Unsubscribe`, before the section that removes the queue. -/
  | unsubscribeQueue (u : UnitID) : BalancerCall
  /-- `DestroySubscribersAll`, before the section that clears `subscribers_`. -/
  | destroyUnits : BalancerCall
  /-- `DestroySubscribersAll`, before the section that clears `cam_result_qs_`. -/
  | destroyQueues : BalancerCall
  /-- `RespondAsync`, before the queue is looked up. -/
  | respondFind (u : UnitID) : BalancerCall
  /-- `RespondAsync`, before the queue is read. -/
  | respondDequeue (u : UnitID) (q : ℕ) : BalancerCall
deriving DecidableEq

/-- Where the dispatcher stands. -/
inductive Dispatching (β : Type) where
  /-- Before the next result. -/
  | idle : Dispatching β
  /-- With a result in hand. -/
  | received (r : OutputLayer β) : Dispatching β
  /-- With a result in hand, and the queue it is to go into. -/
  | found (r : OutputLayer β) (q : ℕ) : Dispatching β

/-- What happens to results and subscriptions. -/
inductive BalancerEvent (β : Type) where
  /-- The dispatcher takes a result from `infer_respond_receiver_`. -/
  | taken (r : OutputLayer β) : BalancerEvent β
  /-- The dispatcher pushes a result into a queue. -/
  | pushed (r : OutputLayer β) : BalancerEvent β
  /-- A full queue drops its oldest result. -/
  | dropped (r : OutputLayer β) : BalancerEvent β
  /-- `RespondAsync` returns a result to a unit. -/
  | returned (u : UnitID) (r : OutputLayer β) : BalancerEvent β
  /-- `Subscribe` is done. -/
  | subscribed (u : UnitID) : BalancerEvent β
  /-- A section of `Unsubscribe`. -/
  | unsubscribe (u : UnitID) : BalancerEvent β

/-- `EngineLoadBalancer` with the threads that work on it. -/
structure EngineLoadBalancer (β : Type) where
  /-- `is_terminate_instance_`. -/
  isTerminateInstance : Bool
  /-- `subscribers_`. -/
  subscribers : Finset UnitID
  /-- The units that have a counter in `inference_counter_`. -/
  counters : Finset UnitID
  /-- `cam_result_qs_`. -/
  camResultQs : UnitMap ℕ
  /-- All queues ever made for `cam_result_qs_`. -/
  queues : List (SafeQueue (OutputLayer β))
  /-- `infer_respond_receiver_`. -/
  receiver : SafeQueue (OutputLayer β)
  /-- `ReplyDispatcherThreadRunner`. -/
  dispatcher : Dispatching β
  /-- The threads of the callers. -/
  threads : ℕ → BalancerCall
  /-- What has happened, the oldest event first. -/
  log : List (BalancerEvent β)

/-- What a thread does when it is scheduled. -/
inductive BalancerAct (β : Type) where
  /-- A thread calls `Subscribe`. -/
  | subscribe (t : ℕ) (u : UnitID) : BalancerAct β
  /-- A thread calls `Unsubscribe`. -/
  | unsubscribe (t : ℕ) (u : UnitID) : BalancerAct β
  /-- A thread calls `DestroySubscribersAll`. -/
  | destroySubscribersAll (t : ℕ) : BalancerAct β
  /-- A thread calls `RespondAsync`. -/
  | respondAsync (t : ℕ) (u : UnitID) : BalancerAct β
  /-- A thread does the next section of its call. -/
  | advance (t : ℕ) : BalancerAct β
  /-- An engine has a result. -/
  | emit (r : OutputLayer β) : BalancerAct β
  /-- The dispatcher takes a result. -/
  | receive : BalancerAct β
  /-- The dispatcher looks the queue up. -/
  | find : BalancerAct β
  /-- The dispatcher pushes the result. -/
  | push : BalancerAct β
  /-- `Terminate`. -/
  | terminate : BalancerAct β
  /-- `ReplyDispatcherThreadCloser`. -/
  | closeReceiver : BalancerAct β

namespace EngineLoadBalancer

variable {β : Type}

/-- After the constructor. -/
def new : EngineLoadBalancer β where
  isTerminateInstance := false
  subscribers := ∅
  counters := ∅
  camResultQs := ∅
  queues := []
  receiver := .new 0
  dispatcher := .idle
  threads := fun _ => .idle
  log := []

/-- The limit of a result queue. -/
def resultQueueSize : ℕ := 10

/-- The thread `t` goes on to `c`. -/
def goto (s : EngineLoadBalancer β) (t : ℕ) (c : BalancerCall) : EngineLoadBalancer β :=
  { s with threads := Function.update s.threads t c }

/-- The event `e` has happened. -/
def record (s : EngineLoadBalancer β) (e : BalancerEvent β) : EngineLoadBalancer β :=
  { s with log := s.log ++ [e] }

section Fields

variable (s : EngineLoadBalancer β) (t : ℕ) (c : BalancerCall) (e : BalancerEvent β)

@[simp] theorem subscribers_goto : (s.goto t c).subscribers = s.subscribers := rfl

@[simp] theorem counters_goto : (s.goto t c).counters = s.counters := rfl

@[simp] theorem camResultQs_goto : (s.goto t c).camResultQs = s.camResultQs := rfl

@[simp] theorem queues_goto : (s.goto t c).queues = s.queues := rfl

@[simp] theorem dispatcher_goto : (s.goto t c).dispatcher = s.dispatcher := rfl

@[simp] theorem log_goto : (s.goto t c).log = s.log := rfl

@[simp] theorem threads_goto : (s.goto t c).threads = Function.update s.threads t c := rfl

@[simp] theorem subscribers_record : (s.record e).subscribers = s.subscribers := rfl

@[simp] theorem counters_record : (s.record e).counters = s.counters := rfl

@[simp] theorem camResultQs_record : (s.record e).camResultQs = s.camResultQs := rfl

@[simp] theorem queues_record : (s.record e).queues = s.queues := rfl

@[simp] theorem dispatcher_record : (s.record e).dispatcher = s.dispatcher := rfl

@[simp] theorem threads_record : (s.record e).threads = s.threads := rfl

@[simp] theorem log_record : (s.record e).log = s.log ++ [e] := rfl

end Fields

/-- The section of `Subscribe` that registers the unit. -/
def subscribeUnit (s : EngineLoadBalancer β) (t : ℕ) (u : UnitID) : EngineLoadBalancer β :=
  if u ∈ s.subscribers then s.goto t .idle
  else
    { s.goto t (.subscribeQueue u) with
      subscribers := insert u s.subscribers
      counters := insert u s.counters }

/-- The section of `Subscribe` that makes the queue. -/
def subscribeQueue (s : EngineLoadBalancer β) (t : ℕ) (u : UnitID) : EngineLoadBalancer β :=
  { (s.goto t .idle).record (.subscribed u) with
    -- whatever the map holds for the unit is replaced
    camResultQs := s.camResultQs.insert u s.queues.length
    queues := s.queues ++ [SafeQueue.new resultQueueSize] }

/-- The section of `Unsubscribe` that removes the unit. -/
def unsubscribeUnit (s : EngineLoadBalancer β) (t : ℕ) (u : UnitID) : EngineLoadBalancer β :=
  let s := (s.goto t (.unsubscribeQueue u)).record (.unsubscribe u)
  if u ∈ s.subscribers then
    { s with subscribers := s.subscribers.erase u, counters := s.counters.erase u }
  else s

/-- The section of `Unsubscribe` that removes the queue. -/
def unsubscribeQueue (s : EngineLoadBalancer β) (t : ℕ) (u : UnitID) : EngineLoadBalancer β :=
  let s := (s.goto t .idle).record (.unsubscribe u)
  match s.camResultQs.lookup u with
  | some q =>
    { s with
      camResultQs := s.camResultQs.erase u
      queues := s.queues.modify q SafeQueue.terminate }
  | none => s

/-- The queue number `q` is in `cam_result_qs_`. -/
def InUse (s : EngineLoadBalancer β) (q : ℕ) : Prop := ∃ e ∈ s.camResultQs.entries, e.2 = q

instance (s : EngineLoadBalancer β) (q : ℕ) : Decidable (s.InUse q) :=
  inferInstanceAs (Decidable (∃ e ∈ s.camResultQs.entries, e.2 = q))

/-- The first section of `DestroySubscribersAll`. -/
def terminateQueues (s : EngineLoadBalancer β) (t : ℕ) : EngineLoadBalancer β :=
  { s.goto t .destroyUnits with
    queues := s.queues.mapIdx fun q x => if s.InUse q then x.terminate else x }

/-- The last section of `RespondAsync`, `dequeue_wait_for`. -/
def respondDequeue (s : EngineLoadBalancer β) (t : ℕ) (u : UnitID) (q : ℕ) :
    EngineLoadBalancer β :=
  match (s.queues[q]?).bind SafeQueue.dequeue with
  | some (r, x) => { (s.goto t .idle).record (.returned u r) with queues := s.queues.set q x }
  | none => s.goto t .idle

/-- The next section of a call. -/
def advance (s : EngineLoadBalancer β) (t : ℕ) : BalancerCall → Option (EngineLoadBalancer β)
  | .idle => none
  | .subscribeUnit u => some (s.subscribeUnit t u)
  | .subscribeQueue u => some (s.subscribeQueue t u)
  | .unsubscribeQueue u => some (s.unsubscribeQueue t u)
  | .destroyUnits => some { s.goto t .destroyQueues with subscribers := ∅ }
  | .destroyQueues => some { s.goto t .idle with camResultQs := ∅ }
  | .respondFind u =>
    match s.camResultQs.lookup u with
    | some q => some (s.goto t (.respondDequeue u q))
    | none => some (s.goto t .idle)
  | .respondDequeue u q => some (s.respondDequeue t u q)

/-- What happens when a result goes into a queue: when it is full, it drops its oldest. -/
def pushEvents (x : SafeQueue (OutputLayer β)) (r : OutputLayer β) : List (BalancerEvent β) :=
  x.oldest.toList.map .dropped ++ [.pushed r]

/-- A result goes into the queue number `q`. -/
def pushResult (s : EngineLoadBalancer β) (r : OutputLayer β) (q : ℕ)
    (x : SafeQueue (OutputLayer β)) : EngineLoadBalancer β :=
  { s with
    queues := s.queues.set q (x.enqueue r)
    dispatcher := .idle
    log := s.log ++ pushEvents x r }

/-- **One step**: a thread enters an operation, or does the next section of the one it is in. -/
def step (s : EngineLoadBalancer β) : BalancerAct β → Option (EngineLoadBalancer β)
  | .subscribe t u =>
    if s.threads t ≠ .idle then none
    else if s.isTerminateInstance then some s
    else some (s.goto t (.subscribeUnit u))
  | .unsubscribe t u => if s.threads t ≠ .idle then none else some (s.unsubscribeUnit t u)
  | .destroySubscribersAll t => if s.threads t ≠ .idle then none else some (s.terminateQueues t)
  | .respondAsync t u =>
    if s.threads t ≠ .idle then none
    else if u ∈ s.subscribers then some (s.goto t (.respondFind u))
    else some s
  | .advance t => s.advance t (s.threads t)
  | .emit r => some { s with receiver := s.receiver.enqueue r }
  | .receive =>
    match s.dispatcher with
    | .idle =>
      s.receiver.dequeue.map fun (r, x) =>
        { s.record (.taken r) with receiver := x, dispatcher := .received r }
    | _ => none
  | .find =>
    match s.dispatcher with
    | .received r =>
      match s.camResultQs.lookup r.requesterUnitId with
      | some q => some { s with dispatcher := .found r q }
      -- the unit has left, and the result is discarded
      | none => some { s with dispatcher := .idle }
    | _ => none
  | .push =>
    match s.dispatcher with
    | .found r q => (s.queues[q]?).map (s.pushResult r q)
    | _ => none
  | .terminate => some { s with isTerminateInstance := true }
  | .closeReceiver => some { s with receiver := s.receiver.terminate }

end EngineLoadBalancer

/-! ### What a step can do -/

section Steps

open EngineLoadBalancer

variable {β : Type} {s s' : EngineLoadBalancer β} {a : BalancerAct β}

/-- The steps from the state `s`, one constructor for each branch of the source. -/
inductive BalancerStep (s : EngineLoadBalancer β) :
    BalancerAct β → EngineLoadBalancer β → Prop where
  /-- A call that returns at once. -/
  | refused {a : BalancerAct β} : BalancerStep s a s
  /-- `Subscribe` has found the balancer working. -/
  | subscribe {t : ℕ} {u : UnitID} (hpos : s.threads t = .idle) :
      BalancerStep s (.subscribe t u) (s.goto t (.subscribeUnit u))
  /-- `Subscribe` of a unit that is there already. -/
  | alreadySubscribed {t : ℕ} {u : UnitID} (hpos : s.threads t = .subscribeUnit u)
      (hu : u ∈ s.subscribers) : BalancerStep s (.advance t) (s.goto t .idle)
  /-- `Subscribe` registers the unit. -/
  | subscribeUnit {t : ℕ} {u : UnitID} (hpos : s.threads t = .subscribeUnit u)
      (hu : u ∉ s.subscribers) :
      BalancerStep s (.advance t) { s.goto t (.subscribeQueue u) with
        subscribers := insert u s.subscribers
        counters := insert u s.counters }
  /-- `Subscribe` makes the queue. -/
  | subscribeQueue {t : ℕ} {u : UnitID} (hpos : s.threads t = .subscribeQueue u) :
      BalancerStep s (.advance t) (s.subscribeQueue t u)
  /-- `Unsubscribe` removes the unit. -/
  | unsubscribeUnit {t : ℕ} {u : UnitID} (hpos : s.threads t = .idle) (hu : u ∈ s.subscribers) :
      BalancerStep s (.unsubscribe t u)
        { (s.goto t (.unsubscribeQueue u)).record (.unsubscribe u) with
          subscribers := s.subscribers.erase u
          counters := s.counters.erase u }
  /-- `Unsubscribe` of a unit that is not there. -/
  | notSubscribed {t : ℕ} {u : UnitID} (hpos : s.threads t = .idle) (hu : u ∉ s.subscribers) :
      BalancerStep s (.unsubscribe t u)
        ((s.goto t (.unsubscribeQueue u)).record (.unsubscribe u))
  /-- `Unsubscribe` removes the queue. -/
  | unsubscribeQueue {t : ℕ} {u : UnitID} {q : ℕ} (hpos : s.threads t = .unsubscribeQueue u)
      (hq : s.camResultQs.lookup u = some q) :
      BalancerStep s (.advance t) { (s.goto t .idle).record (.unsubscribe u) with
        camResultQs := s.camResultQs.erase u
        queues := s.queues.modify q SafeQueue.terminate }
  /-- `Unsubscribe` finds no queue. -/
  | noQueue {t : ℕ} {u : UnitID} (hpos : s.threads t = .unsubscribeQueue u)
      (hq : s.camResultQs.lookup u = none) :
      BalancerStep s (.advance t) ((s.goto t .idle).record (.unsubscribe u))
  /-- `DestroySubscribersAll` terminates the queues. -/
  | terminateQueues {t : ℕ} (hpos : s.threads t = .idle) :
      BalancerStep s (.destroySubscribersAll t) (s.terminateQueues t)
  /-- `DestroySubscribersAll` removes the units. -/
  | destroyUnits {t : ℕ} (hpos : s.threads t = .destroyUnits) :
      BalancerStep s (.advance t) { s.goto t .destroyQueues with subscribers := ∅ }
  /-- `DestroySubscribersAll` removes the queues. -/
  | destroyQueues {t : ℕ} (hpos : s.threads t = .destroyQueues) :
      BalancerStep s (.advance t) { s.goto t .idle with camResultQs := ∅ }
  /-- `RespondAsync` for a subscriber. -/
  | respondAsync {t : ℕ} {u : UnitID} (hpos : s.threads t = .idle) :
      BalancerStep s (.respondAsync t u) (s.goto t (.respondFind u))
  /-- `RespondAsync` finds the queue. -/
  | respondFind {t : ℕ} {u : UnitID} {q : ℕ} (hpos : s.threads t = .respondFind u)
      (hq : s.camResultQs.lookup u = some q) :
      BalancerStep s (.advance t) (s.goto t (.respondDequeue u q))
  /-- `RespondAsync` returns a result. -/
  | respond {t : ℕ} {u : UnitID} {q : ℕ} {x x' : SafeQueue (OutputLayer β)} {r : OutputLayer β}
      (hpos : s.threads t = .respondDequeue u q) (hx : s.queues[q]? = some x)
      (hr : x.dequeue = some (r, x')) :
      BalancerStep s (.advance t)
        { (s.goto t .idle).record (.returned u r) with queues := s.queues.set q x' }
  /-- `RespondAsync` returns nothing. -/
  | respondNothing {t : ℕ} {u : UnitID}
      (hpos : s.threads t = .respondFind u ∨ ∃ q, s.threads t = .respondDequeue u q) :
      BalancerStep s (.advance t) (s.goto t .idle)
  /-- An engine has a result, or the receiver is closed. -/
  | receiver {a : BalancerAct β} (x : SafeQueue (OutputLayer β)) :
      BalancerStep s a { s with receiver := x }
  /-- The dispatcher takes a result. -/
  | receive {r : OutputLayer β} {x : SafeQueue (OutputLayer β)} (hpos : s.dispatcher = .idle)
      (hr : s.receiver.dequeue = some (r, x)) :
      BalancerStep s .receive
        { s.record (.taken r) with receiver := x, dispatcher := .received r }
  /-- The dispatcher finds the queue of the unit. -/
  | find {r : OutputLayer β} {q : ℕ} (hpos : s.dispatcher = .received r)
      (hq : s.camResultQs.lookup r.requesterUnitId = some q) :
      BalancerStep s .find { s with dispatcher := .found r q }
  /-- The dispatcher discards the result. -/
  | discard {r : OutputLayer β} (hpos : s.dispatcher = .received r) :
      BalancerStep s .find { s with dispatcher := .idle }
  /-- The dispatcher pushes the result. -/
  | push {r : OutputLayer β} {q : ℕ} {x : SafeQueue (OutputLayer β)}
      (hpos : s.dispatcher = .found r q) (hx : s.queues[q]? = some x) :
      BalancerStep s .push (s.pushResult r q x)
  /-- `Terminate`. -/
  | terminate : BalancerStep s .terminate { s with isTerminateInstance := true }

theorem advance_sound {t : ℕ} (h : s.advance t (s.threads t) = some s') :
    BalancerStep s (.advance t) s' := by
  generalize hpos : s.threads t = pos at h
  cases pos with
  | idle => cases h
  | subscribeUnit u =>
    cases h
    rw [EngineLoadBalancer.subscribeUnit]
    split_ifs with hu
    · exact .alreadySubscribed hpos hu
    · exact .subscribeUnit hpos hu
  | subscribeQueue u =>
    cases h
    exact .subscribeQueue hpos
  | unsubscribeQueue u =>
    cases h
    rw [EngineLoadBalancer.unsubscribeQueue]
    split
    · next q hq => exact .unsubscribeQueue hpos hq
    · next hq => exact .noQueue hpos hq
  | destroyUnits =>
    cases h
    exact .destroyUnits hpos
  | destroyQueues =>
    cases h
    exact .destroyQueues hpos
  | respondFind u =>
    unfold EngineLoadBalancer.advance at h
    dsimp only at h
    split at h
    · next q hq =>
      cases h
      exact .respondFind hpos hq
    · cases h
      exact .respondNothing (Or.inl hpos)
  | respondDequeue u q =>
    cases h
    rw [EngineLoadBalancer.respondDequeue]
    split
    · next r x' hr =>
      obtain ⟨x, hx, hr⟩ := Option.bind_eq_some_iff.mp hr
      exact .respond hpos hx hr
    · exact .respondNothing (Or.inr ⟨q, hpos⟩)

/-- **Every step is one of those listed.** -/
theorem balancerStep_sound (h : s.step a = some s') : BalancerStep s a s' := by
  cases a with
  | subscribe t u =>
    rw [EngineLoadBalancer.step] at h
    split_ifs at h with hpos
    · cases h
      exact .refused
    · cases h
      exact .subscribe (not_not.mp hpos)
  | unsubscribe t u =>
    rw [EngineLoadBalancer.step] at h
    split_ifs at h with hpos
    cases h
    rw [EngineLoadBalancer.unsubscribeUnit]
    split_ifs with hu
    · exact .unsubscribeUnit (not_not.mp hpos) hu
    · exact .notSubscribed (not_not.mp hpos) hu
  | destroySubscribersAll t =>
    rw [EngineLoadBalancer.step] at h
    split_ifs at h with hpos
    cases h
    exact .terminateQueues (not_not.mp hpos)
  | respondAsync t u =>
    rw [EngineLoadBalancer.step] at h
    split_ifs at h with hpos
    · cases h
      exact .respondAsync (not_not.mp hpos)
    · cases h
      exact .refused
  | advance t => exact advance_sound h
  | emit r =>
    cases h
    exact .receiver _
  | receive =>
    unfold EngineLoadBalancer.step at h
    dsimp only at h
    split at h
    · next hpos =>
      obtain ⟨⟨r, x⟩, hr, rfl⟩ := Option.map_eq_some_iff.mp h
      exact .receive hpos hr
    · cases h
  | find =>
    unfold EngineLoadBalancer.step at h
    dsimp only at h
    split at h
    · next r hpos =>
      split at h
      · next q hq =>
        cases h
        exact .find hpos hq
      · cases h
        exact .discard hpos
    · cases h
  | push =>
    unfold EngineLoadBalancer.step at h
    dsimp only at h
    split at h
    · next r q hpos =>
      obtain ⟨x, hx, rfl⟩ := Option.map_eq_some_iff.mp h
      exact .push hpos hx
    · cases h
  | terminate =>
    cases h
    exact .terminate
  | closeReceiver =>
    cases h
    exact .receiver _

end Steps

end DetectBase
