import DetectBase.Foundations.Transition

/-!
# The handlers of the gRPC server

`GrpcEventServerBase` answers the calls of its clients with handlers. A handler is one call: it is
created, asks gRPC for a call by a `Request` with itself as the tag, and when the tag comes back it
creates its successor and answers, by a `Finish` with itself as the tag; when the tag comes back
once more, it removes itself from `alive_handlers_`. A handler for a method with a separate reply
leaves the answer to a detached thread, which waits for the reply.

Two threads take tags from the completion queue: the runner, and the thread that stops the server,
which drains the queue after its shutdown. What they do with a tag is split where another thread can
come in between. What gRPC does is in the actions too, and `DetectBase.Grpc.EventServer.Documented`
is what its documentation says of them. A handler is a place in a list, which is never used again,
so that a handler that has been released can be told from a new one. The contents of the calls are
not part of the model.
-/

namespace DetectBase.Grpc

/-- The methods of the service. -/
inductive Rpc where
  /-- `SendEventOnlyJson`. -/
  | sendEventOnlyJson : Rpc
  /-- `SendEventWithImages`. -/
  | sendEventWithImages : Rpc
  /-- `RequestEventOnlyJson`. -/
  | requestEventOnlyJson : Rpc
  /-- `RequestEventWithImages`. -/
  | requestEventWithImages : Rpc
  /-- `SendCounterDelta`. -/
  | sendCounterDelta : Rpc
  /-- `SendHeartbeat`. -/
  | sendHeartbeat : Rpc
  /-- `RequestCounterSnapshot`. -/
  | requestCounterSnapshot : Rpc
deriving DecidableEq

/-- The methods, in the order in which `Run` registers handlers for them. -/
def Rpc.all : List Rpc :=
  [.sendEventOnlyJson, .sendEventWithImages, .requestEventOnlyJson, .requestEventWithImages,
    .sendCounterDelta, .sendHeartbeat, .requestCounterSnapshot]

/-- The handlers of the method are of the class `GrpcUnaryAsyncProcessHandler`, and otherwise of the
class `GrpcUnaryDirectProcessHandler`. -/
def Rpc.isAsync : Rpc → Bool
  | .requestEventOnlyJson | .requestEventWithImages => true
  | _ => false

/-- `CallStatus`. -/
inductive CallStatus where
  /-- `CREATE`. -/
  | create : CallStatus
  /-- `PROCESS`. -/
  | process : CallStatus
  /-- `FINISH`. -/
  | finish : CallStatus
deriving DecidableEq

/-- What gRPC has been given a tag for. -/
inductive Operation where
  /-- `Request`, and there is a call for it or not yet. -/
  | request (matched : Bool) : Operation
  /-- `Finish`. -/
  | finish : Operation
deriving DecidableEq

/-- `StatusCode`. -/
inductive StatusCode where
  /-- `OK`. -/
  | ok : StatusCode
  /-- `INVALID_ARGUMENT`. -/
  | invalidArgument : StatusCode
  /-- `DEADLINE_EXCEEDED`. -/
  | deadlineExceeded : StatusCode
deriving DecidableEq

/-- `Status`, with its message. -/
structure Status where
  /-- The code. -/
  code : StatusCode
  /-- The message. -/
  message : String
deriving DecidableEq

/-- What `uuid_extractor_` finds in a request. -/
inductive Uuid where
  /-- The empty string. -/
  | missing : Uuid
  /-- A string that `isValidUUID` rejects. -/
  | invalid : Uuid
  /-- An identifier. -/
  | valid : Uuid
deriving DecidableEq

/-- A handler, which is the place of its record. -/
abbrev Tag := ℕ

/-- `CallDataBase`, and what has happened to it. -/
structure CallData where
  /-- The method that it has been made for. -/
  rpc : Rpc
  /-- `status_`. -/
  status : CallStatus
  /-- The operation that gRPC has its tag for. -/
  operation : Option Operation
  /-- Its `Request` has been matched to a call. -/
  accepted : Bool
  /-- The calls of `Finish`. -/
  finishes : List Status
deriving DecidableEq

namespace CallData

/-- The constructor. -/
def new (rpc : Rpc) : CallData := ⟨rpc, .create, none, false, []⟩

/-- `Proceed` in `CREATE`. -/
def request (h : CallData) : CallData :=
  { h with status := .process, operation := some (.request false) }

/-- `Finish`, and the status that goes with it. -/
def finish (status : Status) (h : CallData) : CallData :=
  { h with
    status := .finish, operation := some .finish, finishes := h.finishes ++ [status] }

/-- gRPC matches the `Request` to a call. -/
def accept (h : CallData) : CallData :=
  { h with operation := some (.request true), accepted := true }

/-- gRPC gives the tag back. -/
def giveBack (h : CallData) : CallData := { h with operation := none }

end CallData

/-- The threads that call `Next`. -/
inductive Poller where
  /-- `HandleRpcsRunner`. -/
  | runner : Poller
  /-- `HandleRpcsCloser`, in the thread that stops the server. -/
  | closer : Poller
deriving DecidableEq

/-- What such a thread is doing. -/
inductive Poll where
  /-- It is in the loop, outside of `Proceed`. -/
  | idle : Poll
  /-- It has got a tag from `Next`, and is to call `Proceed`. -/
  | event (t : Tag) (ok : Bool) : Poll
  /-- It is in `Proceed`, and has called `CreateAndRegister`. -/
  | succeeded (t : Tag) : Poll
deriving DecidableEq

/-- The handler that the thread is busy with. -/
def Poll.tag : Poll → Option Tag
  | .idle => none
  | .event t _ | .succeeded t => some t

/-- How far a detached thread is. -/
inductive Stage where
  /-- It is to call `Finish`. -/
  | waiting : Stage
  /-- It has called `Finish`. -/
  | answered : Stage
  /-- It has ended, and has released its handler. -/
  | ended : Stage
deriving DecidableEq

/-- A detached thread. -/
structure Waiter where
  /-- `self`, the handler that it has captured. -/
  self : Tag
  /-- How far it is. -/
  stage : Stage
deriving DecidableEq

/-- How far `Stop` is. -/
inductive Phase where
  /-- It has not been called. -/
  | serving : Phase
  /-- In `Shutdown` of the server. -/
  | stopping : Phase
  /-- In `HandleRpcsCloser`, after `Shutdown` of the queue. -/
  | draining : Phase
  /-- `Next` has returned false, and the runner is to be joined. -/
  | drained : Phase
  /-- After `ClearAllHandlers`. -/
  | cleared : Phase
deriving DecidableEq

/-- `GrpcEventServerBase`. -/
structure EventServer where
  /-- All handlers that have been made, in turn. -/
  handlers : List CallData
  /-- `alive_handlers_`. -/
  aliveHandlers : List Tag
  /-- The detached threads. -/
  waiters : List Waiter
  /-- The runner. -/
  runner : Poll
  /-- The thread that stops the server. -/
  closer : Poll
  /-- How far `Stop` is. -/
  phase : Phase
  /-- `server_owner_` can be locked: the server is not being destroyed. -/
  ownerAlive : Bool
deriving DecidableEq

namespace EventServer

/-! ### The registry -/

/-- `RegisterHandler`. -/
def registerHandler (s : EventServer) (t : Tag) : EventServer :=
  { s with aliveHandlers := t :: s.aliveHandlers }

/-- `UnregisterHandler`. -/
def unregisterHandler (s : EventServer) (t : Tag) : EventServer :=
  { s with aliveHandlers := s.aliveHandlers.filter (· ≠ t) }

/-- `ClearAllHandlers`. -/
def clearAllHandlers (s : EventServer) : EventServer := { s with aliveHandlers := [] }

/-- `TryUnregister`. -/
def tryUnregister (s : EventServer) (t : Tag) : EventServer :=
  if s.ownerAlive then s.unregisterHandler t else s

/-- A handler is changed. -/
def update (s : EventServer) (t : Tag) (f : CallData → CallData) : EventServer :=
  { s with handlers := s.handlers.modify t f }

/-- **`CreateAndRegister`**. -/
def createAndRegister (s : EventServer) (rpc : Rpc) : EventServer :=
  if s.ownerAlive then
    let t := s.handlers.length
    let made : EventServer := { s with handlers := s.handlers ++ [CallData.new rpc] }
    (made.registerHandler t).update t CallData.request
  else s

/-- `Run`, up to the start of the runner. -/
def run : EventServer :=
  Rpc.all.foldl createAndRegister ⟨[], [], [], .idle, .idle, .serving, true⟩

/-! ### The threads -/

/-- What the thread is doing. -/
def poll (s : EventServer) : Poller → Poll
  | .runner => s.runner
  | .closer => s.closer

/-- The thread goes on to something else. -/
def setPoll (s : EventServer) : Poller → Poll → EventServer
  | .runner, p => { s with runner := p }
  | .closer, p => { s with closer := p }

/-- A thread is started and detached. -/
def detach (s : EventServer) (t : Tag) : EventServer :=
  { s with waiters := s.waiters ++ [⟨t, .waiting⟩] }

/-- A detached thread gets on. -/
def setWaiter (s : EventServer) (i : ℕ) (stage : Stage) : EventServer :=
  { s with waiters := s.waiters.modify i fun w => { w with stage := stage } }

/-- The thread may call `Next`. -/
def Polls (s : EventServer) : Poller → Prop
  | .runner => s.phase ≠ .cleared
  | .closer => s.phase = .draining

instance (s : EventServer) : ∀ who, Decidable (s.Polls who)
  | .runner => inferInstanceAs (Decidable (_ ≠ _))
  | .closer => inferInstanceAs (Decidable (_ = _))

/-- The status of the answer that `Proceed` gives itself, if it does. -/
def replyStatus (rpc : Rpc) (uuid : Uuid) : Option Status :=
  if rpc.isAsync then
    match uuid with
    | .missing => some ⟨.invalidArgument, "UUID missing"⟩
    | .invalid => some ⟨.invalidArgument, "UUID invalid"⟩
    | .valid => none
  else some ⟨.ok, ""⟩

/-- The status of the answer that a detached thread gives: there has been a reply in time, or not.
-/
def waiterStatus (hasValue : Bool) : Status :=
  if hasValue then ⟨.ok, ""⟩ else ⟨.deadlineExceeded, "Timeout"⟩

/-- **`Proceed`, first part**: all of it, or until a successor has been created. -/
def proceed (s : EventServer) (who : Poller) (t : Tag) (ok : Bool) (h : CallData) : EventServer :=
  match h.status with
  | .create => (s.update t .request).setPoll who .idle
  | .process =>
    if ok then (s.createAndRegister h.rpc).setPoll who (.succeeded t)
    else (s.tryUnregister t).setPoll who .idle
  | .finish => (s.tryUnregister t).setPoll who .idle

/-- **`Proceed`, second part**: the answer, or the thread that is to give it. -/
def reply (s : EventServer) (who : Poller) (t : Tag) (uuid : Uuid) (h : CallData) : EventServer :=
  match replyStatus h.rpc uuid with
  | some status => (s.update t (.finish status)).setPoll who .idle
  | none => (s.detach t).setPoll who .idle

/-- What happens in a run. -/
inductive ServerAct where
  /-- gRPC matches the `Request` of a handler to a call. -/
  | accept (t : Tag) : ServerAct
  /-- `Next` returns a tag. -/
  | next (who : Poller) (t : Tag) (ok : Bool) : ServerAct
  /-- A thread goes on in `Proceed`; the request has that identifier. -/
  | proceed (who : Poller) (uuid : Uuid) : ServerAct
  /-- A detached thread calls `Finish`. -/
  | waiterFinish (i : ℕ) (hasValue : Bool) : ServerAct
  /-- A detached thread ends. -/
  | waiterEnd (i : ℕ) : ServerAct
  /-- `Stop` is called, and by the destructor or not. -/
  | stop (destroys : Bool) : ServerAct
  /-- `Shutdown` of the server returns, and that of the queue. -/
  | shutdownQueue : ServerAct
  /-- `Next` returns false to the thread that drains the queue. -/
  | endDrain : ServerAct
  /-- The runner has been joined, and `ClearAllHandlers` is called. -/
  | clear : ServerAct
deriving DecidableEq

/-- **One step of a run.** gRPC returns a tag that it has, and has it no more. -/
def step (s : EventServer) : ServerAct → Option EventServer
  | .accept t =>
    if s.handlers[t]?.bind CallData.operation = some (.request false) then
      some (s.update t .accept)
    else none
  | .next who t ok =>
    if s.Polls who ∧ s.poll who = .idle ∧ (s.handlers[t]?.bind CallData.operation).isSome then
      some ((s.update t .giveBack).setPoll who (.event t ok))
    else none
  | .proceed who uuid =>
    match s.poll who with
    | .idle => none
    | .event t ok => s.handlers[t]?.map (s.proceed who t ok)
    | .succeeded t => s.handlers[t]?.map (s.reply who t uuid)
  | .waiterFinish i hasValue =>
    match s.waiters[i]? with
    | some ⟨t, .waiting⟩ =>
      some ((s.update t (.finish (waiterStatus hasValue))).setWaiter i .answered)
    | _ => none
  | .waiterEnd i =>
    match s.waiters[i]? with
    | some ⟨_, .answered⟩ => some (s.setWaiter i .ended)
    | _ => none
  | .stop destroys =>
    if s.phase = .serving then some { s with phase := .stopping, ownerAlive := !destroys } else none
  | .shutdownQueue => if s.phase = .stopping then some { s with phase := .draining } else none
  | .endDrain =>
    if s.phase = .draining ∧ s.closer = .idle then some { s with phase := .drained } else none
  | .clear =>
    if s.phase = .drained ∧ s.runner = .idle then some { s.clearAllHandlers with phase := .cleared }
    else none

/-- **What gRPC documents** of the tags, of `Next` and of `Shutdown`. -/
def Documented (s : EventServer) : ServerAct → Prop
  -- a server that is shut down takes no calls
  | .accept _ => s.phase = .serving
  -- `ok` says that there is a call, and there is one unless the server is shut down
  | .next _ t ok => ∀ h ∈ s.handlers[t]?, ∀ matched, h.operation = some (.request matched) →
      ok = matched ∧ (matched = false → s.phase ≠ .serving)
  -- `Shutdown` without a deadline blocks until the calls that there are have been answered
  | .shutdownQueue => ∀ h ∈ s.handlers, h.accepted = true → h.finishes ≠ []
  -- `Next` returns false when the queue is shut down and empty
  | .endDrain => ∀ h ∈ s.handlers, h.operation = none
  | _ => True

instance (s : EventServer) : ∀ a, Decidable (s.Documented a)
  | .accept _ => inferInstanceAs (Decidable (_ = _))
  | .next _ t ok => decidable_of_iff (∀ h ∈ s.handlers[t]?, (h.operation = some (.request true) →
      ok = true) ∧ (h.operation = some (.request false) → ok = false ∧ s.phase ≠ .serving)) <| by
    refine forall₂_congr fun h _ => ?_
    rw [Bool.forall_bool]
    simp [and_comm]
  | .shutdownQueue => inferInstanceAs (Decidable (∀ h ∈ s.handlers, _ → _ ≠ _))
  | .endDrain => inferInstanceAs (Decidable (∀ h ∈ s.handlers, _ = _))
  | .proceed _ _ | .waiterFinish _ _ | .waiterEnd _ | .stop _ | .clear => isTrue trivial

/-! ### The steps -/

variable {s s' : EventServer} {a : ServerAct}

/-- What `CreateAndRegister` does. -/
theorem createAndRegister_eq (h : s.ownerAlive = true) (rpc : Rpc) : s.createAndRegister rpc =
    { s with
      handlers := s.handlers ++ [(CallData.new rpc).request]
      aliveHandlers := s.handlers.length :: s.aliveHandlers } := by
  rw [createAndRegister, if_pos h]
  simp only [registerHandler, update]
  rw [List.modify_eq_take_cons_drop (by simp)]
  simp

/-- What can happen in a step, with what is known of the state before it. -/
inductive ServerStep (s : EventServer) : ServerAct → EventServer → Prop where
  /-- A `Request` is matched. -/
  | accept {t : Tag} {h : CallData} (ht : s.handlers[t]? = some h)
      (hop : h.operation = some (.request false)) :
      ServerStep s (.accept t) (s.update t .accept)
  /-- A tag is returned. -/
  | next {who : Poller} {t : Tag} {ok : Bool} {h : CallData} {op : Operation} (hpolls : s.Polls who)
      (hidle : s.poll who = .idle) (ht : s.handlers[t]? = some h) (hop : h.operation = some op) :
      ServerStep s (.next who t ok) ((s.update t .giveBack).setPoll who (.event t ok))
  /-- `Proceed` in `CREATE`. -/
  | request {who : Poller} {uuid : Uuid} {t : Tag} {ok : Bool} {h : CallData}
      (hpoll : s.poll who = .event t ok) (ht : s.handlers[t]? = some h)
      (hstatus : h.status = .create) :
      ServerStep s (.proceed who uuid) ((s.update t .request).setPoll who .idle)
  /-- `Proceed` in `PROCESS`, with a call. -/
  | succeed {who : Poller} {uuid : Uuid} {t : Tag} {h : CallData}
      (hpoll : s.poll who = .event t true) (ht : s.handlers[t]? = some h)
      (hstatus : h.status = .process) :
      ServerStep s (.proceed who uuid) ((s.createAndRegister h.rpc).setPoll who (.succeeded t))
  /-- `Proceed` in `PROCESS` without a call, or in `FINISH`. -/
  | release {who : Poller} {uuid : Uuid} {t : Tag} {ok : Bool} {h : CallData}
      (hpoll : s.poll who = .event t ok) (ht : s.handlers[t]? = some h)
      (hdone : h.status = .process ∧ ok = false ∨ h.status = .finish) :
      ServerStep s (.proceed who uuid) ((s.tryUnregister t).setPoll who .idle)
  /-- The answer is given in `Proceed`. -/
  | reply {who : Poller} {uuid : Uuid} {t : Tag} {h : CallData} {status : Status}
      (hpoll : s.poll who = .succeeded t) (ht : s.handlers[t]? = some h)
      (hstatus : replyStatus h.rpc uuid = some status) :
      ServerStep s (.proceed who uuid) ((s.update t (.finish status)).setPoll who .idle)
  /-- A thread is started that is to give the answer. -/
  | detach {who : Poller} {uuid : Uuid} {t : Tag} {h : CallData}
      (hpoll : s.poll who = .succeeded t) (ht : s.handlers[t]? = some h)
      (hstatus : replyStatus h.rpc uuid = none) :
      ServerStep s (.proceed who uuid) ((s.detach t).setPoll who .idle)
  /-- A detached thread gives the answer. -/
  | waiterFinish {i : ℕ} {hasValue : Bool} {t : Tag} (hi : s.waiters[i]? = some ⟨t, .waiting⟩) :
      ServerStep s (.waiterFinish i hasValue)
        ((s.update t (.finish (waiterStatus hasValue))).setWaiter i .answered)
  /-- A detached thread ends. -/
  | waiterEnd {i : ℕ} {t : Tag} (hi : s.waiters[i]? = some ⟨t, .answered⟩) :
      ServerStep s (.waiterEnd i) (s.setWaiter i .ended)
  /-- `Stop` begins. -/
  | stop {destroys : Bool} (hphase : s.phase = .serving) :
      ServerStep s (.stop destroys) { s with phase := .stopping, ownerAlive := !destroys }
  /-- The queue is shut down. -/
  | shutdownQueue (hphase : s.phase = .stopping) :
      ServerStep s .shutdownQueue { s with phase := .draining }
  /-- The queue has been drained. -/
  | endDrain (hphase : s.phase = .draining) (hidle : s.closer = .idle) :
      ServerStep s .endDrain { s with phase := .drained }
  /-- The handlers are released. -/
  | clear (hphase : s.phase = .drained) (hidle : s.runner = .idle) :
      ServerStep s .clear { s.clearAllHandlers with phase := .cleared }

/-- **The steps are these.** -/
theorem step_cases (hstep : s.step a = some s') : ServerStep s a s' := by
  cases a with
  | accept t =>
    rw [step] at hstep
    split_ifs at hstep with hop
    cases hstep
    obtain ⟨h, ht, hop⟩ := Option.bind_eq_some_iff.mp hop
    exact .accept ht hop
  | next who t ok =>
    rw [step] at hstep
    split_ifs at hstep with hguard
    cases hstep
    obtain ⟨hpolls, hidle, hsome⟩ := hguard
    obtain ⟨op, hop⟩ := Option.isSome_iff_exists.mp hsome
    obtain ⟨h, ht, hop⟩ := Option.bind_eq_some_iff.mp hop
    exact .next hpolls hidle ht hop
  | proceed who uuid =>
    rw [step] at hstep
    split at hstep
    · cases hstep
    · next t ok hpoll =>
      obtain ⟨h, ht, rfl⟩ := Option.map_eq_some_iff.mp hstep
      rw [proceed]
      split
      · next hstatus => exact .request hpoll ht hstatus
      · next hstatus =>
        cases ok with
        | true => exact .succeed hpoll ht hstatus
        | false => exact .release hpoll ht (.inl ⟨hstatus, rfl⟩)
      · next hstatus => exact .release hpoll ht (.inr hstatus)
    · next t hpoll =>
      obtain ⟨h, ht, rfl⟩ := Option.map_eq_some_iff.mp hstep
      rw [reply]
      split
      · next status hstatus => exact .reply hpoll ht hstatus
      · next hstatus => exact .detach hpoll ht hstatus
  | waiterFinish i hasValue =>
    rw [step] at hstep
    split at hstep
    · next t hi =>
      cases hstep
      exact .waiterFinish hi
    · cases hstep
  | waiterEnd i =>
    rw [step] at hstep
    split at hstep
    · next t hi =>
      cases hstep
      exact .waiterEnd hi
    · cases hstep
  | stop destroys =>
    rw [step] at hstep
    split_ifs at hstep with hphase
    cases hstep
    exact .stop hphase
  | shutdownQueue =>
    rw [step] at hstep
    split_ifs at hstep with hphase
    cases hstep
    exact .shutdownQueue hphase
  | endDrain =>
    rw [step] at hstep
    split_ifs at hstep with hguard
    cases hstep
    exact .endDrain hguard.1 hguard.2
  | clear =>
    rw [step] at hstep
    split_ifs at hstep with hguard
    cases hstep
    exact .clear hguard.1 hguard.2

end EventServer

end DetectBase.Grpc
