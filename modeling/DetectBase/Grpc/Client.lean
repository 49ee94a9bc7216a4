import DetectBase.Foundations.Cooldown
import DetectBase.Foundations.Transition
import DetectBase.Grpc.Handlers
import DetectBase.Structure.Uuid
import Mathlib.Data.List.Perm.Basic
import Mathlib.Logic.Function.Basic

/-!
# The clients of the gRPC server

`GrpcEventClientBase` makes calls that do not wait for their answers. A call is a record of its own:
gRPC fills in the status and the answer, and puts the record in the completion queue; the thread of
the client takes it from there, counts it or hands the answer to the callback, and deletes it.
`NetworkManager` has one client for each peer, and sends an event to all of them.

Every call is at any time in one place, is deleted once at most, and is counted or reported as gRPC
answered it (`DetectBase.Grpc.EventClient.calls_accounted`). Failures are counted each time and
logged once in a minute, from each start on (`DetectBase.Grpc.EventClient.failLogs_punctual`). The
queue is shut down by `Stop` but not drained, unlike that of the server: what the thread has not
taken by then is never deleted (`DetectBase.Grpc.EventClient.kept_of_stopped`). An event for all
peers is a call to each of them, and none is refused (`DetectBase.Grpc.broadcast_spec`).

The counters belong to the whole process; here they are what the client adds to them. As in
`DetectBase.Grpc.EventServer`, a call is a place in a list, and what gRPC does is in the actions. It
documents that each operation comes back from the queue once, and asks that none is begun after the
shutdown, which the client does not look at.
-/

namespace DetectBase.Grpc

/-! ### The model -/

/-- The classes of the calls of a client. -/
inductive CallClass where
  /-- `SendCall`. -/
  | sendCall : CallClass
  /-- `JsonResponseCall`. -/
  | jsonResponseCall : CallClass
  /-- `CounterSnapshotCall`. -/
  | counterSnapshotCall : CallClass
  deriving DecidableEq

/-- The class of the calls of a method. -/
def Rpc.callClass : Rpc → CallClass
  | .sendEventOnlyJson | .sendEventWithImages | .sendCounterDelta | .sendHeartbeat => .sendCall
  | .requestEventOnlyJson | .requestEventWithImages => .jsonResponseCall
  | .requestCounterSnapshot => .counterSnapshotCall

/-- The messages of the method have an identifier. -/
def Rpc.hasUuid : Rpc → Bool
  | .sendCounterDelta | .sendHeartbeat | .requestCounterSnapshot => false
  | _ => true

/-- `BaseCall`, as it is made. -/
structure ClientCall (μ : Type) where
  /-- The method. -/
  rpc : Rpc
  /-- `trace_id`. -/
  traceId : String
  /-- The message, without its identifier. -/
  message : μ
  /-- `callback` is set. -/
  callback : Bool
  deriving DecidableEq

/-- A call that gRPC is done with. -/
structure Completion (ρ : Type) where
  /-- The call. -/
  tag : Tag
  /-- `status.error_code()`, which is 0 for `OK`. -/
  code : ℕ
  /-- The answer. -/
  response : ρ
  deriving DecidableEq

/-- A call that the thread has handled. -/
structure Processed (μ ρ : Type) where
  /-- What came from the queue. -/
  completion : Completion ρ
  /-- The call. -/
  call : ClientCall μ
  /-- `steady_clock::now()`. -/
  time : ℤ
  deriving DecidableEq

/-- Where the thread of the client stands. -/
inductive ClientThread (ρ : Type) where
  /-- There is no thread, or it has returned. -/
  | finished : ClientThread ρ
  /-- It is going to read the flag. -/
  | head : ClientThread ρ
  /-- In `AsyncNext`. -/
  | polling : ClientThread ρ
  /-- It has got a call from the queue. -/
  | got (e : Completion ρ) : ClientThread ρ
  /-- It is going to delete the call. -/
  | handled (t : Tag) : ClientThread ρ

/-- Where the owner of the client stands. -/
inductive ClientOwner where
  /-- Outside of `Start` and `Stop`. -/
  | idle : ClientOwner
  /-- It is going to shut the queue down. -/
  | closing : ClientOwner
  /-- It joins the thread. -/
  | joining : ClientOwner
  deriving DecidableEq

/-- **`GrpcEventClientBase`**, with what has happened to it. -/
structure EventClient (μ ρ : Type) where
  /-- `is_running_` of `grpc_client_thread_`. -/
  running : Bool
  /-- The thread. -/
  thread : ClientThread ρ
  /-- The owner. -/
  owner : ClientOwner
  /-- `cq_` has been shut down. -/
  shutdown : Bool
  /-- All calls that have been made, in turn. -/
  calls : List (ClientCall μ)
  /-- The calls that gRPC has not answered. -/
  inFlight : List Tag
  /-- `cq_`. -/
  completionQueue : List (Completion ρ)
  /-- The calls that have been deleted. -/
  deleted : List Tag
  /-- `steady_clock::now()`. -/
  clock : ℤ
  /-- `last_fail_log`, a variable of the thread. -/
  lastFailLog : ℤ
  /-- `detectbase_grpc_send_success_total`. -/
  sendSuccess : ℕ
  /-- `detectbase_grpc_send_failed_total` for each code. -/
  sendFailed : ℕ → ℕ
  /-- The times at which a failure was logged, since the last start. -/
  failLogs : List ℤ
  /-- The calls whose callback was called, with what it was given. -/
  callbacks : List (Tag × ρ)
  /-- What gRPC has answered, for the statements only. -/
  answered : List (Completion ρ)
  /-- What the thread has handled, for the statements only. -/
  processed : List (Processed μ ρ)
  /-- How much of it was handled before the last start, for the statements only. -/
  handledBefore : ℕ

/-- A step of the users of a client, of gRPC, of the clock, of the owner or of the thread. -/
inductive ClientAct (μ ρ : Type) where
  /-- A call is asked for, with what the generator draws if the message has no identifier. -/
  | request (rpc : Rpc) (uuid : String) (draws : UUID.Draws) (message : μ) (callback : Bool) :
      ClientAct μ ρ
  /-- gRPC is done with a call in flight. -/
  | complete (i : ℕ) (code : ℕ) (response : ρ) : ClientAct μ ρ
  /-- Time goes by. -/
  | tick (d : ℕ) : ClientAct μ ρ
  /-- `Start` is called. -/
  | callStart : ClientAct μ ρ
  /-- `Stop` is called. -/
  | callStop : ClientAct μ ρ
  /-- The owner goes on in `Stop`. -/
  | owner : ClientAct μ ρ
  /-- The thread reads the flag. -/
  | check : ClientAct μ ρ
  /-- `AsyncNext` returns without a call. -/
  | noEvent : ClientAct μ ρ
  /-- `AsyncNext` returns a call of the queue. -/
  | gotEvent (i : ℕ) : ClientAct μ ρ
  /-- The thread handles its call. -/
  | handle : ClientAct μ ρ
  /-- The thread deletes its call. -/
  | delete : ClientAct μ ρ

/-- The users make no call, and the owner does not start the client. -/
def ClientAct.isQuiet {μ ρ : Type} : ClientAct μ ρ → Bool
  | .request .. | .callStart => false
  | _ => true

/-- The interval between two logs of a failure, whatever their codes are. -/
def failLogInterval : ℤ := 60 * 1000000000

namespace EventClient

variable {μ ρ : Type}

/-- A new client, at some time of the clock. -/
def new (now : ℕ) : EventClient μ ρ where
  running := false
  thread := .finished
  owner := .idle
  shutdown := false
  calls := []
  inFlight := []
  completionQueue := []
  deleted := []
  clock := now
  lastFailLog := 0
  sendSuccess := 0
  sendFailed _ := 0
  failLogs := []
  callbacks := []
  answered := []
  processed := []
  handledBefore := 0

/-- The call that `Send…` or `Request…` makes, if the identifier is one. -/
def newCall (rpc : Rpc) (uuid : String) (draws : UUID.Draws) (message : μ) (callback : Bool) :
    Option (ClientCall μ) :=
  if rpc.hasUuid then
    if UUID.isValidUUID uuid then some ⟨rpc, uuid, message, callback⟩ else none
  else some ⟨rpc, UUID.generate draws, message, callback⟩

/-- `StartCall` and `Finish`. -/
def startCall (c : EventClient μ ρ) (call : ClientCall μ) : EventClient μ ρ :=
  { c with calls := c.calls ++ [call], inFlight := c.inFlight ++ [c.calls.length] }

/-- **`Send…` and `Request…`**, with what they return. -/
def request (c : EventClient μ ρ) (rpc : Rpc) (uuid : String) (draws : UUID.Draws) (message : μ)
    (callback : Bool) : Bool × EventClient μ ρ :=
  match newCall rpc uuid draws message callback with
  | some call => (true, c.startCall call)
  | none => (false, c)

/-- The branch of `asyncCompleteRpc` for a `SendCall` that has failed. -/
def countFailure (c : EventClient μ ρ) (code : ℕ) : EventClient μ ρ :=
  { c with
    sendFailed := Function.update c.sendFailed code (c.sendFailed code + 1)
    lastFailLog := Cooldown.next failLogInterval c.lastFailLog c.clock
    failLogs := c.failLogs ++
      if Cooldown.due failLogInterval c.lastFailLog c.clock then [c.clock] else [] }

/-- **The body of the loop of `asyncCompleteRpc`**, up to `delete`. -/
def handle (c : EventClient μ ρ) (call : ClientCall μ) (e : Completion ρ) : EventClient μ ρ :=
  match call.rpc.callClass with
  | .sendCall =>
    if e.code = 0 then { c with sendSuccess := c.sendSuccess + 1 } else c.countFailure e.code
  | .jsonResponseCall | .counterSnapshotCall =>
    if e.code = 0 && call.callback then
      { c with callbacks := c.callbacks ++ [(e.tag, e.response)] }
    else c

/-- The start of `asyncCompleteRpc`. -/
def startThread (c : EventClient μ ρ) : EventClient μ ρ :=
  { c with
    running := true
    thread := .head
    lastFailLog := 0
    failLogs := []
    handledBefore := c.processed.length }

/-- **A step.** -/
def step (c : EventClient μ ρ) : ClientAct μ ρ → Option (EventClient μ ρ)
  | .request rpc uuid draws message callback =>
    some (c.request rpc uuid draws message callback).2
  | .complete i code response =>
    match c.inFlight[i]? with
    | some t => some { c with
        inFlight := c.inFlight.eraseIdx i
        completionQueue := c.completionQueue ++ [⟨t, code, response⟩]
        answered := c.answered ++ [⟨t, code, response⟩] }
    | none => none
  | .tick d => some { c with clock := c.clock + d }
  | .callStart =>
    match c.owner with
    | .idle => some (if c.running then c else c.startThread)
    | _ => none
  | .callStop =>
    match c.owner with
    | .idle => some (if c.running then { c with running := false, owner := .closing } else c)
    | _ => none
  | .owner =>
    match c.owner, c.thread with
    | .closing, _ => some { c with shutdown := true, owner := .joining }
    | .joining, .finished => some { c with owner := .idle }
    | _, _ => none
  | .check =>
    match c.thread with
    | .head => some { c with thread := if c.running then .polling else .finished }
    | _ => none
  | .noEvent =>
    match c.thread with
    | .polling => if c.completionQueue.isEmpty then some { c with thread := .head } else none
    | _ => none
  | .gotEvent i =>
    match c.thread, c.completionQueue[i]? with
    | .polling, some e => some { c with
        thread := .got e
        completionQueue := c.completionQueue.eraseIdx i }
    | _, _ => none
  | .handle =>
    match c.thread with
    | .got e =>
      match c.calls[e.tag]? with
      | some call => some { c.handle call e with
          thread := .handled e.tag
          processed := c.processed ++ [⟨e, call, c.clock⟩] }
      | none => none
    | _ => none
  | .delete =>
    match c.thread with
    | .handled t => some { c with thread := .head, deleted := c.deleted ++ [t] }
    | _ => none

/-! ### What becomes of the calls -/

end EventClient

/-- The call that the thread has got, and has not handled. -/
def ClientThread.taken {ρ : Type} : ClientThread ρ → List (Completion ρ)
  | .got e => [e]
  | _ => []

/-- The call that the thread has handled, and has not deleted. -/
def ClientThread.undeleted {ρ : Type} : ClientThread ρ → List Tag
  | .handled t => [t]
  | _ => []

namespace Processed

variable {μ ρ : Type}

/-- The call is a `SendCall`. -/
def isSend (p : Processed μ ρ) : Bool := p.call.rpc.callClass = .sendCall

/-- A `SendCall` that has succeeded. -/
def isSuccess (p : Processed μ ρ) : Bool := p.isSend && p.completion.code = 0

/-- A `SendCall` that has failed. -/
def isFailure (p : Processed μ ρ) : Bool := p.isSend && p.completion.code ≠ 0

/-- What its callback is to be given. -/
def answer (p : Processed μ ρ) : Option (Tag × ρ) :=
  if !p.isSend && (p.completion.code = 0 && p.call.callback) then
    some (p.completion.tag, p.completion.response)
  else none

end Processed

namespace EventClient

variable {μ ρ : Type} {c c' : EventClient μ ρ}

/-- **What holds of the calls.** -/
structure Accounted (c : EventClient μ ρ) : Prop where
  /-- Each call is in flight or has been answered, and only once. -/
  issued : (c.inFlight ++ c.answered.map (·.tag)).Perm (List.range c.calls.length)
  /-- Each answer is in the queue, with the thread, or has been handled, and only once. -/
  taken : (c.completionQueue ++ (c.thread.taken ++ c.processed.map (·.completion))).Perm c.answered
  /-- What has been handled is deleted, in the same order. -/
  deleted : c.deleted ++ c.thread.undeleted = c.processed.map (·.completion.tag)
  /-- What has been handled are the calls that were made. -/
  calls : ∀ p ∈ c.processed, c.calls[p.completion.tag]? = some p.call
  /-- Each call has an identifier. -/
  traceId : ∀ call ∈ c.calls, UUID.isValidUUID call.traceId = true
  /-- The successes have been counted. -/
  sendSuccess : c.sendSuccess = c.processed.countP Processed.isSuccess
  /-- The failures have been counted. -/
  sendFailed : ∀ code,
    c.sendFailed code = c.processed.countP fun p => p.isFailure && p.completion.code = code
  /-- The answers have been handed out, in the order in which they were handled. -/
  callbacks : c.callbacks = c.processed.filterMap Processed.answer

theorem accounted_new (now : ℕ) : Accounted (new now : EventClient μ ρ) where
  issued := List.Perm.refl _
  taken := List.Perm.refl _
  deleted := rfl
  calls := nofun
  traceId := nofun
  sendSuccess := rfl
  sendFailed _ := rfl
  callbacks := rfl

/-- The flag, the clock, the owner and the queue's shutdown do not matter, nor where the thread is
when it has no call. -/
theorem Accounted.of_thread (h : Accounted c) {thread : ClientThread ρ} (running : Bool)
    (owner : ClientOwner) (shutdown : Bool) (clock : ℤ) (htaken : thread.taken = c.thread.taken)
    (hundeleted : thread.undeleted = c.thread.undeleted) :
    Accounted { c with running, thread, owner, shutdown, clock } where
  issued := h.issued
  taken := htaken ▸ h.taken
  deleted := hundeleted ▸ h.deleted
  calls := h.calls
  traceId := h.traceId
  sendSuccess := h.sendSuccess
  sendFailed := h.sendFailed
  callbacks := h.callbacks

/-- **Only identifiers are sent.** -/
theorem isValidUUID_newCall {rpc : Rpc} {uuid : String} {draws : UUID.Draws} {message : μ}
    {callback : Bool} {call : ClientCall μ}
    (hcall : newCall rpc uuid draws message callback = some call) :
    UUID.isValidUUID call.traceId = true := by
  rw [newCall] at hcall
  split_ifs at hcall with _ huuid
  · cases hcall
    exact huuid
  · cases hcall
    exact UUID.isValidUUID_generate draws

theorem Accounted.startCall (h : Accounted c) {call : ClientCall μ}
    (hcall : UUID.isValidUUID call.traceId = true) : Accounted (c.startCall call) where
  issued := by
    show ((c.inFlight ++ [c.calls.length]) ++ c.answered.map (·.tag)).Perm
      (List.range (c.calls ++ [call]).length)
    rw [List.length_append, List.length_singleton, List.range_succ, List.append_assoc,
      List.singleton_append]
    exact (List.perm_middle.trans (h.issued.cons _)).trans (List.perm_append_singleton _ _).symm
  taken := h.taken
  deleted := h.deleted
  calls p hp := by
    have hlookup := h.calls p hp
    rw [← hlookup]
    exact List.getElem?_append_left (List.getElem?_eq_some_iff.mp hlookup).1
  traceId x hx := by
    rcases List.mem_append.mp hx with hx | hx
    · exact h.traceId x hx
    · rwa [List.mem_singleton.mp hx]
  sendSuccess := h.sendSuccess
  sendFailed := h.sendFailed
  callbacks := h.callbacks

/-- A thread that starts has no call. -/
theorem Accounted.startThread (h : Accounted c) (hthread : c.thread = .finished) :
    Accounted c.startThread where
  issued := h.issued
  taken := by
    have htaken := h.taken
    rwa [hthread] at htaken
  deleted := by
    have hdeleted := h.deleted
    rwa [hthread] at hdeleted
  calls := h.calls
  traceId := h.traceId
  sendSuccess := h.sendSuccess
  sendFailed := h.sendFailed
  callbacks := h.callbacks

theorem Accounted.request (h : Accounted c) (rpc : Rpc) (uuid : String) (draws : UUID.Draws)
    (message : μ) (callback : Bool) :
    Accounted (c.request rpc uuid draws message callback).2 := by
  rw [EventClient.request]
  rcases hcall : newCall rpc uuid draws message callback with _ | call
  · exact h
  · exact h.startCall (isValidUUID_newCall hcall)

/-- What is taken out of a list at some place. -/
theorem perm_eraseIdx {α : Type} {l : List α} {i : ℕ} {x : α} (h : l[i]? = some x) :
    (x :: l.eraseIdx i).Perm l := by
  obtain ⟨hi, rfl⟩ := List.getElem?_eq_some_iff.mp h
  exact List.getElem_cons_eraseIdx_perm hi

theorem Accounted.complete (h : Accounted c) {i : ℕ} {t : Tag} (ht : c.inFlight[i]? = some t)
    (code : ℕ) (response : ρ) : Accounted { c with
      inFlight := c.inFlight.eraseIdx i
      completionQueue := c.completionQueue ++ [⟨t, code, response⟩]
      answered := c.answered ++ [⟨t, code, response⟩] } where
  issued := by
    refine List.Perm.trans ?_ h.issued
    rw [List.map_append, ← List.append_assoc]
    refine (List.perm_append_singleton _ _).trans ?_
    exact ((perm_eraseIdx ht).append_right (c.answered.map (·.tag)) :)
  taken := by
    rw [List.append_assoc, List.singleton_append]
    refine List.perm_middle.trans ?_
    exact (h.taken.cons _).trans (List.perm_append_singleton _ _).symm
  deleted := h.deleted
  calls := h.calls
  traceId := h.traceId
  sendSuccess := h.sendSuccess
  sendFailed := h.sendFailed
  callbacks := h.callbacks

theorem Accounted.gotEvent (h : Accounted c) (hthread : c.thread = .polling) {i : ℕ}
    {e : Completion ρ} (he : c.completionQueue[i]? = some e) : Accounted { c with
      thread := .got e
      completionQueue := c.completionQueue.eraseIdx i } where
  issued := h.issued
  taken := by
    have htaken := h.taken
    rw [hthread] at htaken
    refine List.Perm.trans ?_ htaken
    refine List.perm_middle.trans ?_
    exact ((perm_eraseIdx he).append_right (c.processed.map (·.completion)) :)
  deleted := by
    have hdeleted := h.deleted
    rwa [hthread] at hdeleted
  calls := h.calls
  traceId := h.traceId
  sendSuccess := h.sendSuccess
  sendFailed := h.sendFailed
  callbacks := h.callbacks

/-- **What handling a call changes.** -/
theorem handle_eq (c : EventClient μ ρ) (call : ClientCall μ) (e : Completion ρ)
    {p : Processed μ ρ} (hp : p = ⟨e, call, c.clock⟩) : c.handle call e = { c with
      sendSuccess := c.sendSuccess + if p.isSuccess then 1 else 0
      sendFailed := if p.isFailure then
        Function.update c.sendFailed e.code (c.sendFailed e.code + 1) else c.sendFailed
      lastFailLog := if p.isFailure then
        Cooldown.next failLogInterval c.lastFailLog c.clock else c.lastFailLog
      failLogs := c.failLogs ++ if p.isFailure then
        if Cooldown.due failLogInterval c.lastFailLog c.clock then [c.clock] else [] else []
      callbacks := c.callbacks ++ p.answer.toList } := by
  subst hp
  rw [handle, Processed.isSuccess, Processed.isFailure, Processed.answer, Processed.isSend]
  rcases hclass : call.rpc.callClass with _ | _ | _
  · by_cases hcode : e.code = 0
    · simp [hcode]
    · simp [hcode, countFailure]
  all_goals
    by_cases hcode : e.code = 0
    · rcases hcallback : call.callback with _ | _ <;> simp [hcode]
    · simp [hcode]

theorem Accounted.handle (h : Accounted c) {e : Completion ρ} {call : ClientCall μ}
    (hthread : c.thread = .got e) (hcall : c.calls[e.tag]? = some call) :
    Accounted { c.handle call e with
      thread := .handled e.tag
      processed := c.processed ++ [⟨e, call, c.clock⟩] } := by
  rw [handle_eq c call e rfl]
  refine ⟨h.issued, ?_, ?_, fun p hp => ?_, h.traceId, ?_, fun code => ?_, ?_⟩
  · have htaken := h.taken
    rw [hthread] at htaken
    refine List.Perm.trans ?_ htaken
    rw [List.map_append]
    exact List.Perm.append_left _ (List.perm_append_singleton _ _)
  · have hdeleted := h.deleted
    rw [hthread] at hdeleted
    rw [List.map_append, ← hdeleted]
    exact congrArg (· ++ [e.tag]) (List.append_nil c.deleted).symm
  · rcases List.mem_append.mp hp with hp | hp
    · exact h.calls p hp
    · rw [List.mem_singleton.mp hp]
      exact hcall
  · show c.sendSuccess + _ = _
    rw [List.countP_append, List.countP_singleton, h.sendSuccess]
  · rw [List.countP_append, List.countP_singleton, ← h.sendFailed]
    by_cases hfail : Processed.isFailure (⟨e, call, c.clock⟩ : Processed μ ρ) = true
    · simp only [hfail, if_true, Bool.true_and, decide_eq_true_eq]
      rcases eq_or_ne e.code code with rfl | hne
      · rw [Function.update_self, if_pos rfl]
      · rw [Function.update_of_ne (Ne.symm hne), if_neg hne]
        rfl
    · simp [hfail]
  · show c.callbacks ++ _ = _
    rw [List.filterMap_append, ← h.callbacks, List.filterMap_cons, List.filterMap_nil]
    rcases Processed.answer (⟨e, call, c.clock⟩ : Processed μ ρ) with _ | x <;> rfl

theorem Accounted.delete (h : Accounted c) {t : Tag} (hthread : c.thread = .handled t) :
    Accounted { c with thread := .head, deleted := c.deleted ++ [t] } where
  issued := h.issued
  taken := by
    have htaken := h.taken
    rwa [hthread] at htaken
  deleted := by
    have hdeleted := h.deleted
    rw [hthread] at hdeleted
    exact (List.append_nil _).trans hdeleted
  calls := h.calls
  traceId := h.traceId
  sendSuccess := h.sendSuccess
  sendFailed := h.sendFailed
  callbacks := h.callbacks

/-- **What holds of the owner and the thread.** -/
structure Owned (c : EventClient μ ρ) : Prop where
  /-- A client that is not running, or not any more, has no thread. -/
  finished : c.owner = .idle → c.running = false → c.thread = .finished
  /-- `Stop` has cleared the flag. -/
  cleared : c.owner ≠ .idle → c.running = false

theorem owned_new (now : ℕ) : Owned (new now : EventClient μ ρ) := ⟨fun _ _ => rfl, fun _ => rfl⟩

theorem Owned.of_thread (h : Owned c) {c' : EventClient μ ρ} (howner : c'.owner = c.owner)
    (hrunning : c'.running = c.running) (hthread : c.thread ≠ .finished) : Owned c' where
  finished hidle hrun := absurd (h.finished (howner ▸ hidle) (hrunning ▸ hrun)) hthread
  cleared hbusy := hrunning.trans (h.cleared (howner ▸ hbusy))

theorem Owned.of_eq (h : Owned c) {c' : EventClient μ ρ} (howner : c'.owner = c.owner)
    (hrunning : c'.running = c.running) (hthread : c'.thread = c.thread) : Owned c' where
  finished hidle hrun := hthread.trans (h.finished (howner ▸ hidle) (hrunning ▸ hrun))
  cleared hbusy := hrunning.trans (h.cleared (howner ▸ hbusy))

theorem Owned.step (h : Owned c) {a : ClientAct μ ρ} (hs : c.step a = some c') : Owned c' := by
  rcases a with ⟨rpc, uuid, draws, message, callback⟩ | ⟨i, code, response⟩ | d | _ | _ | _ | _ |
    _ | i | _ | _ <;> rw [EventClient.step] at hs
  · cases hs
    rw [request]
    split
    · exact h.of_eq rfl rfl rfl
    · exact h
  · split at hs <;> cases hs
    exact h.of_eq rfl rfl rfl
  · cases hs
    exact h.of_eq rfl rfl rfl
  · split at hs <;> cases hs
    next hidle =>
      split_ifs
      · exact h
      · exact ⟨nofun, fun hbusy => absurd hidle hbusy⟩
  · split at hs <;> cases hs
    split_ifs
    · exact ⟨nofun, fun _ => rfl⟩
    · exact h
  · split at hs
    · next hclosing =>
      cases hs
      exact ⟨nofun, fun _ => h.cleared (by rw [hclosing]; exact nofun)⟩
    · next hthread =>
      cases hs
      exact ⟨fun _ _ => hthread, fun hbusy => absurd rfl hbusy⟩
    · cases hs
  · split at hs <;> cases hs
    next hthread => exact h.of_thread rfl rfl (by rw [hthread]; exact nofun)
  · split at hs
    · next hthread =>
      split_ifs at hs
      cases hs
      exact h.of_thread rfl rfl (by rw [hthread]; exact nofun)
    · cases hs
  · split at hs <;> cases hs
    next hthread _ => exact h.of_thread rfl rfl (by rw [hthread]; exact nofun)
  · split at hs
    · next e hthread =>
      split at hs <;> cases hs
      rw [handle_eq _ _ _ rfl]
      exact h.of_thread rfl rfl (by rw [hthread]; exact nofun)
    · cases hs
  · split at hs <;> cases hs
    next hthread => exact h.of_thread rfl rfl (by rw [hthread]; exact nofun)

/-- **Every step keeps what holds of the calls.** -/
theorem Accounted.step (h : Accounted c) (ho : Owned c) {a : ClientAct μ ρ}
    (hs : c.step a = some c') : Accounted c' := by
  rcases a with ⟨rpc, uuid, draws, message, callback⟩ | ⟨i, code, response⟩ | d | _ | _ | _ | _ |
    _ | i | _ | _ <;> rw [EventClient.step] at hs
  · cases hs
    exact h.request rpc uuid draws message callback
  · split at hs
    · next t ht =>
      cases hs
      exact h.complete ht code response
    · cases hs
  · cases hs
    exact h.of_thread c.running c.owner c.shutdown _ rfl rfl
  · split at hs <;> cases hs
    next hidle =>
      split_ifs with hrun
      · exact h
      · exact h.startThread (ho.finished hidle (Bool.not_eq_true _ ▸ hrun))
  · split at hs <;> cases hs
    split_ifs
    · exact h.of_thread _ _ c.shutdown c.clock rfl rfl
    · exact h
  · split at hs
    · cases hs
      exact h.of_thread c.running _ _ c.clock rfl rfl
    · cases hs
      exact h.of_thread c.running _ c.shutdown c.clock rfl rfl
    · cases hs
  · split at hs <;> cases hs
    next hthread =>
      refine h.of_thread c.running c.owner c.shutdown c.clock ?_ ?_ <;> rw [hthread] <;>
        split_ifs <;> rfl
  · split at hs
    · next hthread =>
      split_ifs at hs
      cases hs
      refine h.of_thread c.running c.owner c.shutdown c.clock ?_ ?_ <;> rw [hthread] <;> rfl
    · cases hs
  · split at hs
    · next e hthread he =>
      cases hs
      exact h.gotEvent hthread he
    · cases hs
  · split at hs
    · next e hthread =>
      split at hs
      · next call hcall =>
        cases hs
        exact h.handle hthread hcall
      · cases hs
    · cases hs
  · split at hs
    · next t hthread =>
      cases hs
      exact h.delete hthread
    · cases hs

theorem invariant_of_run {now : ℕ} {as : List (ClientAct μ ρ)}
    (hrun : runFrom EventClient.step (new now) as = some c) : Accounted c ∧ Owned c :=
  runFrom_invariant (I := fun c => Accounted c ∧ Owned c)
    (fun _ _ _ h hs => ⟨h.1.step h.2 hs, h.2.step hs⟩) ⟨accounted_new now, owned_new now⟩ hrun

/-- **What holds of the calls in every run.** -/
theorem calls_accounted {now : ℕ} {as : List (ClientAct μ ρ)}
    (hrun : runFrom EventClient.step (new now) as = some c) : Accounted c :=
  (invariant_of_run hrun).1

/-- A client is started and asks for a counter, and the answer is `7`. -/
def roundTrip (code : ℕ) : List (ClientAct ℕ ℕ) :=
  [.callStart, .request .requestCounterSnapshot "" ⟨0, 0, 0, 0, 0, 0⟩ 1 true, .check,
    .complete 0 code 7, .gotEvent 0, .handle, .delete]

theorem calls_accounted_roundTrip : ∃ c, runFrom EventClient.step (new 5) (roundTrip 0) = some c ∧
    c.callbacks = [(0, 7)] ∧ c.deleted = [0] ∧ Accounted c := by
  have hend : (runFrom EventClient.step (new 5) (roundTrip 0)).map
      (fun c => (c.callbacks, c.deleted)) = some ([(0, 7)], [0]) := rfl
  obtain ⟨c, hrun, hc⟩ := Option.map_eq_some_iff.mp hend
  rw [Prod.mk.injEq] at hc
  exact ⟨c, hrun, hc.1, hc.2, calls_accounted hrun⟩

/-! ### The logs of failures -/

/-- The times at which failures were handled, since the last start. -/
def failTimes (c : EventClient μ ρ) : List ℤ :=
  ((c.processed.drop c.handledBefore).filter Processed.isFailure).map (·.time)

/-- **What holds of the logs.** -/
structure Logged (c : EventClient μ ρ) : Prop where
  /-- The last log. -/
  lastFailLog : c.lastFailLog = Cooldown.lastOf failLogInterval 0 c.failTimes
  /-- The logs. -/
  failLogs : c.failLogs = Cooldown.fired failLogInterval 0 c.failTimes
  /-- The clock does not go back. -/
  mono : (0 :: (c.failTimes ++ [c.clock])).Pairwise (· ≤ ·)
  /-- What was handled before the last start has been handled. -/
  handledBefore : c.handledBefore ≤ c.processed.length

theorem logged_new (now : ℕ) : Logged (new now : EventClient μ ρ) :=
  ⟨rfl, rfl, List.pairwise_pair.mpr (Int.natCast_nonneg now), le_rfl⟩

/-- **What a step has to do with the logs**: it leaves all alone but the clock, starts the thread,
or handles a call. -/
theorem step_cases {a : ClientAct μ ρ} (hs : c.step a = some c') :
    (c'.processed = c.processed ∧ c'.handledBefore = c.handledBefore ∧
      c'.lastFailLog = c.lastFailLog ∧ c'.failLogs = c.failLogs ∧ c.clock ≤ c'.clock) ∨
    c' = c.startThread ∨
    ∃ e call, c' = { c.handle call e with
      thread := .handled e.tag
      processed := c.processed ++ [⟨e, call, c.clock⟩] } := by
  rcases a with ⟨rpc, uuid, draws, message, callback⟩ | ⟨i, code, response⟩ | d | _ | _ | _ | _ |
    _ | i | _ | _ <;> rw [EventClient.step] at hs
  · cases hs
    rw [request]
    split <;> exact Or.inl ⟨rfl, rfl, rfl, rfl, le_rfl⟩
  · split at hs <;> cases hs
    exact Or.inl ⟨rfl, rfl, rfl, rfl, le_rfl⟩
  · cases hs
    exact Or.inl ⟨rfl, rfl, rfl, rfl, by simp⟩
  · split at hs <;> cases hs
    split_ifs
    · exact Or.inl ⟨rfl, rfl, rfl, rfl, le_rfl⟩
    · exact Or.inr (Or.inl rfl)
  · split at hs <;> cases hs
    split_ifs <;> exact Or.inl ⟨rfl, rfl, rfl, rfl, le_rfl⟩
  · split at hs <;> cases hs <;> exact Or.inl ⟨rfl, rfl, rfl, rfl, le_rfl⟩
  · split at hs <;> cases hs
    exact Or.inl ⟨rfl, rfl, rfl, rfl, le_rfl⟩
  · split at hs
    · split_ifs at hs
      cases hs
      exact Or.inl ⟨rfl, rfl, rfl, rfl, le_rfl⟩
    · cases hs
  · split at hs <;> cases hs
    exact Or.inl ⟨rfl, rfl, rfl, rfl, le_rfl⟩
  · split at hs
    · split at hs <;> cases hs
      exact Or.inr (Or.inr ⟨_, _, rfl⟩)
    · cases hs
  · split at hs <;> cases hs
    exact Or.inl ⟨rfl, rfl, rfl, rfl, le_rfl⟩

/-- What is in order stays so when the last time goes up. -/
theorem pairwise_concat_of_le {l : List ℤ} {x y : ℤ} (h : (l ++ [x]).Pairwise (· ≤ ·))
    (hxy : x ≤ y) : (l ++ [y]).Pairwise (· ≤ ·) := by
  rw [List.pairwise_append] at h ⊢
  refine ⟨h.1, List.pairwise_singleton _ _, fun t ht z hz => ?_⟩
  rw [List.mem_singleton.mp hz]
  exact (h.2.2 t ht x List.mem_cons_self).trans hxy

/-- What is in order stays so when the last time comes once more. -/
theorem pairwise_concat_self {l : List ℤ} {x : ℤ} (h : (l ++ [x]).Pairwise (· ≤ ·)) :
    (l ++ [x] ++ [x]).Pairwise (· ≤ ·) := by
  refine List.pairwise_append.mpr ⟨h, List.pairwise_singleton _ _, fun t ht z hz => ?_⟩
  rw [List.mem_singleton.mp hz]
  rcases List.mem_append.mp ht with ht | ht
  · exact (List.pairwise_append.mp h).2.2 t ht x List.mem_cons_self
  · exact (List.mem_singleton.mp ht).le

theorem failTimes_concat {l : List (Processed μ ρ)} {n : ℕ} (h : n ≤ l.length)
    (p : Processed μ ρ) : (((l ++ [p]).drop n).filter Processed.isFailure).map (·.time) =
      ((l.drop n).filter Processed.isFailure).map (·.time) ++
        if p.isFailure then [p.time] else [] := by
  rw [List.drop_append_of_le_length h, List.filter_append, List.map_append, List.filter_singleton]
  rcases p.isFailure <;> rfl

/-- With a start the logs begin anew. -/
theorem Logged.startThread (h : Logged c) : Logged c.startThread := by
  have htimes : c.startThread.failTimes = [] := by
    show ((c.processed.drop c.processed.length).filter _).map _ = []
    rw [List.drop_length]
    rfl
  have hclock : 0 ≤ c.clock :=
    (List.pairwise_cons.mp h.mono).1 _ (List.mem_append_right _ List.mem_cons_self)
  refine ⟨?_, ?_, ?_, le_rfl⟩ <;> rw [htimes]
  · rfl
  · rfl
  · exact List.pairwise_pair.mpr hclock

theorem Logged.step (h : Logged c) {a : ClientAct μ ρ} (hs : c.step a = some c') : Logged c' := by
  obtain ⟨hprocessed, hbefore, hlast, hlogs, hclock⟩ | rfl | ⟨e, call, rfl⟩ := step_cases hs
  · -- nothing is handled, and the thread is not started
    have htimes : c'.failTimes = c.failTimes := by rw [failTimes, failTimes, hprocessed, hbefore]
    refine ⟨?_, ?_, ?_, ?_⟩
    · rw [hlast, htimes]
      exact h.lastFailLog
    · rw [hlogs, htimes]
      exact h.failLogs
    · rw [htimes]
      exact pairwise_concat_of_le (l := 0 :: c.failTimes) h.mono hclock
    · rw [hprocessed, hbefore]
      exact h.handledBefore
  · exact h.startThread
  · rw [handle_eq c call e rfl]
    have hlength : c.handledBefore ≤
        (c.processed ++ [(⟨e, call, c.clock⟩ : Processed μ ρ)]).length :=
      h.handledBefore.trans (by rw [List.length_append]; exact Nat.le_add_right _ _)
    have htimes := failTimes_concat h.handledBefore ⟨e, call, c.clock⟩
    rcases hfail : Processed.isFailure (⟨e, call, c.clock⟩ : Processed μ ρ)
    · -- only a failure is an occasion for the log
      rw [hfail, if_neg Bool.false_ne_true, List.append_nil] at htimes
      refine ⟨?_, ?_, ?_, hlength⟩ <;> rw [failTimes, htimes]
      · exact h.lastFailLog
      · exact (List.append_nil _).trans h.failLogs
      · exact h.mono
    · rw [hfail, if_pos rfl] at htimes
      refine ⟨?_, ?_, ?_, hlength⟩ <;> rw [failTimes, htimes]
      · rw [Cooldown.lastOf_concat]
        exact congrArg (Cooldown.next failLogInterval · c.clock) h.lastFailLog
      · rw [Cooldown.fired_concat]
        show c.failLogs ++ (if Cooldown.due failLogInterval c.lastFailLog c.clock then _ else _) = _
        rw [h.failLogs, h.lastFailLog]
        rfl
      · exact pairwise_concat_self (l := 0 :: c.failTimes) h.mono

theorem logged_run {now : ℕ} {as : List (ClientAct μ ρ)}
    (hrun : runFrom EventClient.step (new now) as = some c) : Logged c :=
  runFrom_invariant (fun _ _ _ h hs => h.step hs) (logged_new now) hrun

/-- **From a start on, failures are logged neither too often nor too late.** -/
theorem failLogs_punctual {now : ℕ} {as : List (ClientAct μ ρ)}
    (hrun : runFrom EventClient.step (new now) as = some c) :
    Cooldown.Punctual failLogInterval 0 c.failTimes c.failLogs := by
  have h := logged_run hrun
  obtain ⟨hnonneg, hmono⟩ := List.pairwise_cons.mp h.mono
  rw [h.failLogs]
  exact Cooldown.punctual_fired (by decide)
    (fun t ht => hnonneg t (List.mem_append_left _ ht)) (List.pairwise_append.mp hmono).1

/-- The heartbeats of a client fail at some times. -/
def failures (times : List ℕ) : List (ClientAct ℕ ℕ) :=
  times.flatMap fun d => [.tick d, .check, .complete 0 14 7, .gotEvent 0, .handle, .delete]

/-- Four heartbeats are sent, and the client is stopped and started when two of them have failed. -/
def restart : List (ClientAct ℕ ℕ) :=
  .callStart :: List.replicate 4 (.request .sendHeartbeat "" ⟨0, 0, 0, 0, 0, 0⟩ 1 false) ++
    failures [70000000000, 1] ++ [.callStop, .owner, .check, .owner, .callStart] ++
    failures [1, 70000000000]

/-- The first failure after the start is logged, though the last log is not a minute ago. -/
theorem failLogs_punctual_restart : ∃ c, runFrom EventClient.step (new 0) restart = some c ∧
    c.failTimes = [70000000002, 140000000002] ∧ c.failLogs = [70000000002, 140000000002] ∧
    Cooldown.Punctual failLogInterval 0 c.failTimes c.failLogs := by
  have hend : (runFrom EventClient.step (new 0) restart).map
      (fun c => (c.failTimes, c.failLogs)) =
        some ([70000000002, 140000000002], [70000000002, 140000000002]) := by
    decide +kernel
  obtain ⟨c, hrun, hc⟩ := Option.map_eq_some_iff.mp hend
  rw [Prod.mk.injEq] at hc
  exact ⟨c, hrun, hc.1, hc.2, failLogs_punctual hrun⟩

/-! ### After `Stop` -/

/-- **What stays as it was.** -/
structure Kept (c c' : EventClient μ ρ) : Prop where
  /-- No call is handled. -/
  processed : c'.processed = c.processed
  /-- No call is deleted. -/
  deleted : c'.deleted = c.deleted
  /-- No callback is called. -/
  callbacks : c'.callbacks = c.callbacks
  /-- Nothing is counted. -/
  counters : c'.sendSuccess = c.sendSuccess ∧ c'.sendFailed = c.sendFailed
  /-- What is in the queue stays there. -/
  queue : c.completionQueue <+: c'.completionQueue

theorem Kept.refl (c : EventClient μ ρ) : Kept c c :=
  ⟨rfl, rfl, rfl, ⟨rfl, rfl⟩, List.prefix_refl _⟩

theorem Kept.trans {c₁ c₂ c₃ : EventClient μ ρ} (h : Kept c₁ c₂) (h' : Kept c₂ c₃) :
    Kept c₁ c₃ where
  processed := h'.processed.trans h.processed
  deleted := h'.deleted.trans h.deleted
  callbacks := h'.callbacks.trans h.callbacks
  counters := ⟨h'.counters.1.trans h.counters.1, h'.counters.2.trans h.counters.2⟩
  queue := h.queue.trans h'.queue

/-- `Stop` has returned. -/
structure Stopped (c : EventClient μ ρ) : Prop where
  /-- The owner is not in `Stop` any more. -/
  owner : c.owner = .idle
  /-- The flag is clear. -/
  running : c.running = false
  /-- The thread has returned. -/
  thread : c.thread = .finished
  /-- The queue has been shut down. -/
  shutdown : c.shutdown = true

/-- **A client that has been stopped leaves its calls alone**, unless it is started again. -/
theorem Stopped.step (h : Stopped c) {a : ClientAct μ ρ} (ha : a.isQuiet = true)
    (hs : c.step a = some c') : Stopped c' ∧ Kept c c' ∧ c'.calls = c.calls := by
  rcases a with ⟨rpc, uuid, draws, message, callback⟩ | ⟨i, code, response⟩ | d | _ | _ | _ | _ |
    _ | i | _ | _ <;> rw [EventClient.step] at hs
  · cases ha
  · -- a call that was in flight ends, and its record stays in the queue
    split at hs <;> cases hs
    exact ⟨⟨h.owner, h.running, h.thread, h.shutdown⟩,
      ⟨rfl, rfl, rfl, ⟨rfl, rfl⟩, List.prefix_append _ _⟩, rfl⟩
  · cases hs
    exact ⟨⟨h.owner, h.running, h.thread, h.shutdown⟩,
      ⟨rfl, rfl, rfl, ⟨rfl, rfl⟩, List.prefix_refl _⟩, rfl⟩
  · cases ha
  · -- `Stop` finds the flag clear
    rw [h.owner, h.running] at hs
    cases hs
    exact ⟨h, Kept.refl c, rfl⟩
  · rw [h.owner] at hs
    cases hs
  all_goals
    rw [h.thread] at hs
    cases hs

theorem Stopped.run (h : Stopped c) {as : List (ClientAct μ ρ)} (has : ∀ a ∈ as, a.isQuiet = true)
    (hrun : runFrom EventClient.step c as = some c') :
    Stopped c' ∧ Kept c c' ∧ c'.calls = c.calls := by
  induction as generalizing c with
  | nil =>
    cases hrun
    exact ⟨h, Kept.refl _, rfl⟩
  | cons a as ih =>
    obtain ⟨c₁, ha, hrest⟩ := runFrom_cons.mp hrun
    obtain ⟨hquiet, has⟩ := List.forall_mem_cons.mp has
    obtain ⟨hstopped, hkept, hcalls⟩ := h.step hquiet ha
    obtain ⟨hstopped', hkept', hcalls'⟩ := ih hstopped has hrest
    exact ⟨hstopped', hkept.trans hkept', hcalls'.trans hcalls⟩

/-- **What the thread had not taken when `Stop` returned is never deleted**: the calls that were in
flight or in the queue then, and only these, as long as the users make no call and the client is not
started again. -/
theorem kept_of_stopped {now : ℕ} {as bs : List (ClientAct μ ρ)}
    (hrun : runFrom EventClient.step (new now) as = some c) (hshutdown : c.shutdown = true)
    (hidle : c.owner = .idle) (hrunning : c.running = false)
    (hrest : runFrom EventClient.step c bs = some c') (hbs : ∀ a ∈ bs, a.isQuiet = true) :
    Kept c c' ∧ (c'.inFlight ++ (c'.completionQueue.map (·.tag) ++ c'.deleted)).Perm
      (List.range c.calls.length) := by
  have howned := (invariant_of_run hrun).2
  obtain ⟨hstopped, hkept, hcalls⟩ :=
    Stopped.run ⟨hidle, hrunning, howned.finished hidle hrunning, hshutdown⟩ hbs hrest
  have haccounted := (invariant_of_run (runFrom_append.mpr ⟨c, hrun, hrest⟩)).1
  refine ⟨hkept, ?_⟩
  rw [← hcalls]
  refine List.Perm.trans (List.Perm.append_left _ ?_) haccounted.issued
  have htaken := haccounted.taken.map (·.tag)
  have hdeleted := haccounted.deleted
  rw [hstopped.thread] at htaken hdeleted
  rw [List.map_append, List.map_append, List.map_map] at htaken
  rw [show c'.deleted = c'.processed.map (·.completion.tag) from
    (List.append_nil _).symm.trans hdeleted]
  exact htaken

/-- A client is stopped while two calls are in flight, of which one was answered. -/
def stopEarly : List (ClientAct ℕ ℕ) :=
  [.callStart, .request .sendHeartbeat "" ⟨0, 0, 0, 0, 0, 0⟩ 1 false,
    .request .sendHeartbeat "" ⟨0, 0, 0, 0, 0, 1⟩ 1 false, .complete 1 0 7, .callStop, .owner,
    .check, .owner]

theorem kept_of_stopped_stopEarly : ∃ c c',
    runFrom EventClient.step (new 5) stopEarly = some c ∧
    runFrom EventClient.step c [.complete 0 0 7] = some c' ∧ c'.deleted = [] ∧ Kept c c' := by
  have hend : (runFrom EventClient.step (new 5) stopEarly).bind (fun c =>
      (runFrom EventClient.step c [.complete 0 0 7]).map fun c' =>
        (c.shutdown, c.owner, c.running, c'.deleted)) = some (true, .idle, false, []) := rfl
  obtain ⟨c, hrun, hend⟩ := Option.bind_eq_some_iff.mp hend
  obtain ⟨c', hrest, hc⟩ := Option.map_eq_some_iff.mp hend
  simp only [Prod.mk.injEq] at hc
  obtain ⟨hshutdown, hidle, hrunning, hdeleted⟩ := hc
  have hkept := kept_of_stopped hrun hshutdown hidle hrunning hrest
    (List.forall_mem_singleton.mpr rfl)
  exact ⟨c, c', hrun, hrest, hdeleted, hkept.1⟩

end EventClient

/-! ### Events for all peers -/

variable {ρ : Type}

/-- **`BroadcastEventOnlyJsonToGrpcPeers`**, with what `MakeEventOnlyJsonProto` draws for each peer:
what it returns, and the clients afterwards. The answer of `SendEventOnlyJson` is not looked at. -/
def broadcast (payload : String) : (ℕ → UUID.Draws) → List (Option (EventClient String ρ)) →
    ℕ × List (Option (EventClient String ρ))
  | _, [] => (0, [])
  | draws, none :: clients =>
    let (sent, clients') := broadcast payload (fun i => draws (i + 1)) clients
    (sent, none :: clients')
  | draws, some c :: clients =>
    let (_, c') := c.request .sendEventOnlyJson (UUID.generate (draws 0)) (draws 0) payload false
    let (sent, clients') := broadcast payload (fun i => draws (i + 1)) clients
    (sent + 1, some c' :: clients')

/-- What is returned is the number of peers. -/
theorem sent_broadcast (payload : String) (draws : ℕ → UUID.Draws)
    (clients : List (Option (EventClient String ρ))) :
    (broadcast payload draws clients).1 = clients.countP (·.isSome) := by
  induction clients generalizing draws with
  | nil => rfl
  | cons client clients ih =>
    have hsent := ih fun i => draws (i + 1)
    rcases client with _ | c
    · exact hsent
    · rw [broadcast, List.countP_cons_of_pos rfl, ← hsent]

/-- **Each peer gets the event in a call of its own**, and what is returned is the number of
peers. -/
theorem broadcast_spec (payload : String) (draws : ℕ → UUID.Draws)
    (clients : List (Option (EventClient String ρ))) :
    (broadcast payload draws clients).1 = clients.countP (·.isSome) ∧
    (broadcast payload draws clients).2 = clients.mapIdx fun i client => client.map
      (·.startCall ⟨.sendEventOnlyJson, UUID.generate (draws i), payload, false⟩) := by
  refine ⟨sent_broadcast payload draws clients, ?_⟩
  induction clients generalizing draws with
  | nil => rfl
  | cons client clients ih =>
    have hclients := ih fun i => draws (i + 1)
    rw [List.mapIdx_cons]
    rcases client with _ | c
    · exact congrArg (none :: ·) hclients
    · have hcall : EventClient.newCall .sendEventOnlyJson (UUID.generate (draws 0)) (draws 0)
          payload false = some ⟨.sendEventOnlyJson, UUID.generate (draws 0), payload, false⟩ := by
        rw [EventClient.newCall, if_pos (show Rpc.hasUuid .sendEventOnlyJson = true from rfl),
          if_pos (UUID.isValidUUID_generate (draws 0))]
      rw [broadcast, EventClient.request, hcall]
      exact congrArg (some _ :: ·) hclients

end DetectBase.Grpc
