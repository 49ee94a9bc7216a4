import DetectBase.Foundations.Transition
import DetectBase.Structure.SafeQueue
import DetectBase.Structure.Types
import Mathlib.Logic.Function.Basic

/-!
# The inference pipeline of a unit

A frame of a camera passes through five threads. The inference thread of the unit sends a request to
each active engine (`EngineLoadBalancer::RequestAsync`) and then puts an `InflightItem` on a queue
of its own; the handlers of the engines take the requests from their input queues and answer them;
the dispatcher of the load balancer sorts the answers into a result queue for each client; and the
response thread of the unit takes the inflight items one after the other and asks the result queues
for the answers (`RespondAsync`). An answer carries the `correlation_id` of its request, and an item
that of its frame, but what is taken from a result queue is merged into the item at hand whatever it
carries.

Requests go to the handlers in turn. The input queues are not limited, but `RequestAsync` refuses a
request when there are 128 in the queue already; the result queues and the queue of inflight items
hold 10 elements, and drop the oldest to take in one more. The handlers and the load balancer serve
other units too, which are here only in what they do to the queues.

`DetectBase.PipelineStep` lists what each step can do.
-/

namespace DetectBase

/-- `EngineStreamMetaData`, in a request and in the answer to it: who asked, and for which frame.
Frames are counted here from the start of the unit on. -/
structure StreamMetaData where
  /-- `requester_unit_id`. -/
  requesterUnitId : UnitID
  /-- The number of the frame. -/
  frame : ℕ
deriving DecidableEq

/-- `correlation_id` of a frame: the counter of frames has 32 bits. -/
def correlationId (frame : ℕ) : ℕ := frame % 2 ^ 32

/-- A handler of an engine. -/
structure Handler where
  /-- `request_q_`. -/
  inputQ : SafeQueue StreamMetaData
  /-- The requests taken from the queue and not answered yet, the oldest first. -/
  batch : List StreamMetaData

/-- The requests that a handler has to answer, in the order in which it is going to do so. -/
def Handler.requests (x : Handler) : List StreamMetaData := x.batch ++ x.inputQ.items

/-- `InflightItem`: the frame, and the engines whose answers are awaited for it. -/
structure InflightItem where
  /-- The number of the frame. -/
  frame : ℕ
  /-- `subscribe_id` of each entry of `engines`. -/
  engines : List UnitID

/-- Where the inference thread stands. The engines of the frame that are still to be asked come
first, then those that have accepted. -/
inductive Requesting where
  /-- Between two frames. -/
  | idle : Requesting
  /-- Before the next `RequestAsync`, or before the item is pushed. -/
  | request (frame : ℕ) (todo requested : List UnitID) : Requesting
  /-- `RequestAsync` for the engine `u`, before the size of the queue of the handler `h` is
  compared. -/
  | check (frame : ℕ) (u : UnitID) (todo requested : List UnitID) (h : ℕ) : Requesting
  /-- `RequestAsync` for the engine `u`, before the request goes into the queue. -/
  | enqueue (frame : ℕ) (u : UnitID) (todo requested : List UnitID) (h : ℕ) : Requesting

/-- The threads and queues that the frames of a unit pass through. -/
structure Pipeline where
  /-- `subscribe_ids_` of the unit. -/
  subscribeIds : List UnitID
  /-- `frame_count_`. -/
  frameCount : ℕ
  /-- `round_robin_idx_`. -/
  roundRobinIdx : ℕ
  /-- The handlers, in the order of `engine_handles_`. -/
  handlers : List Handler
  /-- `infer_respond_receiver_`. -/
  receiver : SafeQueue StreamMetaData
  /-- The answer that the dispatcher has in hand. -/
  dispatching : Option StreamMetaData
  /-- `cam_result_qs_`. -/
  resultQs : UnitID → Option (SafeQueue StreamMetaData)
  /-- `inflight_q_`. -/
  inflightQ : SafeQueue InflightItem
  /-- The inference thread. -/
  requesting : Requesting
  /-- The item that the response thread has in hand, with the engines it has not come to. -/
  responding : Option InflightItem
  /-- What has been merged: the frame of the item, and the answer. -/
  merged : List (ℕ × StreamMetaData)

/-- What a thread does when it is scheduled. -/
inductive PipelineAct where
  /-- The inference thread gets a frame, for which the given engines are active. -/
  | frame (engines : List UnitID) : PipelineAct
  /-- `RequestAsync` chooses a handler. -/
  | select : PipelineAct
  /-- `RequestAsync` refuses a request without an image, or after the termination. -/
  | refuse : PipelineAct
  /-- `RequestAsync` compares the size of the queue. -/
  | check : PipelineAct
  /-- `RequestAsync` puts the request into the queue. -/
  | enqueue : PipelineAct
  /-- The inference thread pushes the item. -/
  | push : PipelineAct
  /-- A handler takes a request from its queue. -/
  | take (h : ℕ) : PipelineAct
  /-- A handler answers its oldest request. -/
  | emit (h : ℕ) : PipelineAct
  /-- The dispatcher takes an answer. -/
  | receive : PipelineAct
  /-- The dispatcher sorts it into its queue. -/
  | dispatch : PipelineAct
  /-- The response thread takes an item. -/
  | item : PipelineAct
  /-- `RespondAsync` returns an answer, which is merged. -/
  | respond : PipelineAct
  /-- `RespondAsync` returns nothing. -/
  | timeout : PipelineAct
  /-- The engine is skipped, as the time for the item is used up. -/
  | skip : PipelineAct
  /-- The response thread is done with the item. -/
  | finish : PipelineAct
  /-- Another unit puts a request into the queue of a handler. -/
  | foreign (h : ℕ) (r : StreamMetaData) : PipelineAct
  /-- Another unit chooses a handler. -/
  | otherSelect : PipelineAct
  /-- One more handler is linked. -/
  | link : PipelineAct

namespace Pipeline

/-- `MAX_ENGINE_INFER_INPUT_QUEUE_SIZE`. -/
def maxInputQueueSize : ℕ := 128

/-- `fetch_add` on `round_robin_idx_`. -/
def nextIdx (s : Pipeline) : ℕ := (s.roundRobinIdx + 1) % 2 ^ 64

/-- The inference thread in `RequestAsync`. -/
def requestStep (s : Pipeline) : PipelineAct → Requesting → Option Pipeline
  | .frame engines, .idle =>
    if engines ≠ [] ∧ engines ⊆ s.subscribeIds then
      some { s with
        frameCount := s.frameCount + 1
        requesting := .request s.frameCount engines [] }
    else none
  | .select, .request f (u :: todo) requested =>
    -- no engine is linked
    if s.handlers = [] then some { s with requesting := .request f todo requested }
    else
      some { s with
        roundRobinIdx := s.nextIdx
        requesting := .check f u todo requested (s.roundRobinIdx % s.handlers.length) }
  | .refuse, .request f (_ :: todo) requested =>
    some { s with requesting := .request f todo requested }
  | .check, .check f u todo requested h =>
    (s.handlers[h]?).map fun x =>
      -- backpressure: the request is dropped rather than queued
      if maxInputQueueSize ≤ x.inputQ.items.length then
        { s with requesting := .request f todo requested }
      else { s with requesting := .enqueue f u todo requested h }
  | .enqueue, .enqueue f u todo requested h =>
    (s.handlers[h]?).map fun x =>
      { s with
        handlers := s.handlers.set h { x with inputQ := x.inputQ.enqueue ⟨u, f⟩ }
        requesting := .request f todo (requested ++ [u]) }
  | .push, .request f [] requested =>
    -- all requests were refused, and the frame has no item
    if requested = [] then some { s with requesting := .idle }
    else
      some { s with inflightQ := s.inflightQ.enqueue ⟨f, requested⟩, requesting := .idle }
  | _, _ => none

/-- The handlers and the dispatcher. -/
def serveStep (s : Pipeline) : PipelineAct → Option Pipeline
  | .take h =>
    (s.handlers[h]?).bind fun x =>
      x.inputQ.dequeue.map fun (r, q) =>
        { s with handlers := s.handlers.set h ⟨q, x.batch ++ [r]⟩ }
  | .emit h =>
    (s.handlers[h]?).bind fun x =>
      match x.batch with
      | r :: rest =>
        some { s with
          handlers := s.handlers.set h { x with batch := rest }
          receiver := s.receiver.enqueue r }
      | [] => none
  | .receive =>
    match s.dispatching with
    | none => s.receiver.dequeue.map fun (r, q) => { s with receiver := q, dispatching := some r }
    | some _ => none
  | .dispatch =>
    s.dispatching.map fun r =>
      match s.resultQs r.requesterUnitId with
      | some q =>
        { s with
          resultQs := Function.update s.resultQs r.requesterUnitId (some (q.enqueue r))
          dispatching := none }
      | none => { s with dispatching := none }
  | .foreign h r =>
    if r.requesterUnitId ∈ s.subscribeIds then none
    else
      (s.handlers[h]?).map fun x =>
        { s with handlers := s.handlers.set h { x with inputQ := x.inputQ.enqueue r } }
  | .otherSelect => some { s with roundRobinIdx := s.nextIdx }
  | .link => some { s with handlers := s.handlers ++ [⟨.new 0, []⟩] }
  | _ => none

/-- The response thread. -/
def respondStep (s : Pipeline) : PipelineAct → Option InflightItem → Option Pipeline
  | .item, none =>
    s.inflightQ.dequeue.map fun (it, q) => { s with inflightQ := q, responding := some it }
  | .respond, some ⟨f, u :: us⟩ =>
    (s.resultQs u).bind fun q =>
      q.dequeue.map fun (r, q') =>
        { s with
          resultQs := Function.update s.resultQs u (some q')
          responding := some ⟨f, us⟩
          -- whatever identifier the answer carries
          merged := (f, r) :: s.merged }
  | .timeout, some ⟨f, u :: us⟩ =>
    if ((s.resultQs u).bind (·.dequeue)).isNone then some { s with responding := some ⟨f, us⟩ }
    else none
  | .skip, some ⟨f, _ :: us⟩ => some { s with responding := some ⟨f, us⟩ }
  | .finish, some ⟨_, []⟩ => some { s with responding := none }
  | _, _ => none

/-- **One step of the pipeline.** -/
def step (s : Pipeline) (a : PipelineAct) : Option Pipeline :=
  match a with
  | .frame _ | .select | .refuse | .check | .enqueue | .push => s.requestStep a s.requesting
  | .take _ | .emit _ | .receive | .dispatch | .foreign _ _ | .otherSelect | .link =>
    s.serveStep a
  | .item | .respond | .timeout | .skip | .finish => s.respondStep a s.responding

end Pipeline

/-! ### What a step can do -/

/-- The steps from the state `s`, one constructor for each branch of the source. -/
inductive PipelineStep (s : Pipeline) : PipelineAct → Pipeline → Prop where
  /-- A new frame. -/
  | frame {engines : List UnitID} (hpos : s.requesting = .idle)
      (hengines : engines ⊆ s.subscribeIds) :
      PipelineStep s (.frame engines) { s with
        frameCount := s.frameCount + 1
        requesting := .request s.frameCount engines [] }
  /-- A request that is refused before a handler is chosen. -/
  | refused {a : PipelineAct} {f : ℕ} {u : UnitID} {todo requested : List UnitID}
      (hact : a = .select ∨ a = .refuse) (hpos : s.requesting = .request f (u :: todo) requested) :
      PipelineStep s a { s with requesting := .request f todo requested }
  /-- The choice of a handler. -/
  | select {f : ℕ} {u : UnitID} {todo requested : List UnitID}
      (hpos : s.requesting = .request f (u :: todo) requested) :
      PipelineStep s .select { s with
        roundRobinIdx := s.nextIdx
        requesting := .check f u todo requested (s.roundRobinIdx % s.handlers.length) }
  /-- A request that is refused because the queue is long. -/
  | dropped {f h : ℕ} {u : UnitID} {todo requested : List UnitID}
      (hpos : s.requesting = .check f u todo requested h) :
      PipelineStep s .check { s with requesting := .request f todo requested }
  /-- A request that is not. -/
  | accepted {f h : ℕ} {u : UnitID} {todo requested : List UnitID}
      (hpos : s.requesting = .check f u todo requested h) :
      PipelineStep s .check { s with requesting := .enqueue f u todo requested h }
  /-- The request goes into the queue. -/
  | enqueue {f h : ℕ} {u : UnitID} {todo requested : List UnitID} {x : Handler}
      (hpos : s.requesting = .enqueue f u todo requested h) (hx : s.handlers[h]? = some x) :
      PipelineStep s .enqueue { s with
        handlers := s.handlers.set h { x with inputQ := x.inputQ.enqueue ⟨u, f⟩ }
        requesting := .request f todo (requested ++ [u]) }
  /-- A frame for which no request was accepted. -/
  | pushNone {f : ℕ} (hpos : s.requesting = .request f [] []) :
      PipelineStep s .push { s with requesting := .idle }
  /-- The item is pushed. -/
  | push {f : ℕ} {requested : List UnitID} (hpos : s.requesting = .request f [] requested)
      (hne : requested ≠ []) :
      PipelineStep s .push
        { s with inflightQ := s.inflightQ.enqueue ⟨f, requested⟩, requesting := .idle }
  /-- A handler takes a request. -/
  | take {h : ℕ} {x : Handler} {r : StreamMetaData} {q : SafeQueue StreamMetaData}
      (hx : s.handlers[h]? = some x) (hr : x.inputQ.dequeue = some (r, q)) :
      PipelineStep s (.take h) { s with handlers := s.handlers.set h ⟨q, x.batch ++ [r]⟩ }
  /-- A handler answers. -/
  | emit {h : ℕ} {x : Handler} {r : StreamMetaData} {rest : List StreamMetaData}
      (hx : s.handlers[h]? = some x) (hr : x.batch = r :: rest) :
      PipelineStep s (.emit h) { s with
        handlers := s.handlers.set h { x with batch := rest }
        receiver := s.receiver.enqueue r }
  /-- The dispatcher takes an answer. -/
  | receive {r : StreamMetaData} {q : SafeQueue StreamMetaData} (hpos : s.dispatching = none)
      (hr : s.receiver.dequeue = some (r, q)) :
      PipelineStep s .receive { s with receiver := q, dispatching := some r }
  /-- The dispatcher puts it into the queue of the client. -/
  | dispatch {r : StreamMetaData} {q : SafeQueue StreamMetaData} (hpos : s.dispatching = some r)
      (hq : s.resultQs r.requesterUnitId = some q) :
      PipelineStep s .dispatch { s with
        resultQs := Function.update s.resultQs r.requesterUnitId (some (q.enqueue r))
        dispatching := none }
  /-- The dispatcher discards an answer to nobody. -/
  | discard {r : StreamMetaData} (hpos : s.dispatching = some r)
      (hq : s.resultQs r.requesterUnitId = none) :
      PipelineStep s .dispatch { s with dispatching := none }
  /-- The response thread takes an item. -/
  | item {it : InflightItem} {q : SafeQueue InflightItem} (hpos : s.responding = none)
      (hit : s.inflightQ.dequeue = some (it, q)) :
      PipelineStep s .item { s with inflightQ := q, responding := some it }
  /-- An answer is merged. -/
  | respond {f : ℕ} {u : UnitID} {us : List UnitID} {r : StreamMetaData}
      {q q' : SafeQueue StreamMetaData} (hpos : s.responding = some ⟨f, u :: us⟩)
      (hq : s.resultQs u = some q) (hr : q.dequeue = some (r, q')) :
      PipelineStep s .respond { s with
        resultQs := Function.update s.resultQs u (some q')
        responding := some ⟨f, us⟩
        merged := (f, r) :: s.merged }
  /-- An engine is given up. -/
  | abandon {a : PipelineAct} {f : ℕ} {u : UnitID} {us : List UnitID}
      (hact : a = .timeout ∨ a = .skip) (hpos : s.responding = some ⟨f, u :: us⟩) :
      PipelineStep s a { s with responding := some ⟨f, us⟩ }
  /-- The response thread is done with an item. -/
  | finish {f : ℕ} (hpos : s.responding = some ⟨f, []⟩) :
      PipelineStep s .finish { s with responding := none }
  /-- A request of another unit. -/
  | foreign {h : ℕ} {x : Handler} {r : StreamMetaData} (hr : r.requesterUnitId ∉ s.subscribeIds)
      (hx : s.handlers[h]? = some x) :
      PipelineStep s (.foreign h r)
        { s with handlers := s.handlers.set h { x with inputQ := x.inputQ.enqueue r } }
  /-- The choice of another unit. -/
  | otherSelect : PipelineStep s .otherSelect { s with roundRobinIdx := s.nextIdx }
  /-- One more handler. -/
  | link : PipelineStep s .link { s with handlers := s.handlers ++ [⟨.new 0, []⟩] }

section Sound

open Pipeline

variable {s s' : Pipeline} {a : PipelineAct}

theorem requestStep_sound (h : s.requestStep a s.requesting = some s') : PipelineStep s a s' := by
  generalize hpos : s.requesting = pos at h
  unfold requestStep at h
  split at h
  · split_ifs at h with hengines
    cases h
    exact .frame hpos hengines.2
  · split_ifs at h
    · cases h
      exact .refused (Or.inl rfl) hpos
    · cases h
      exact .select hpos
  · cases h
    exact .refused (Or.inr rfl) hpos
  · obtain ⟨x, hx, rfl⟩ := Option.map_eq_some_iff.mp h
    split_ifs
    · exact .dropped hpos
    · exact .accepted hpos
  · obtain ⟨x, hx, rfl⟩ := Option.map_eq_some_iff.mp h
    exact .enqueue hpos hx
  · split_ifs at h with hnone
    · cases h
      rw [hnone] at hpos
      exact .pushNone hpos
    · cases h
      exact .push hpos hnone
  · cases h

theorem serveStep_sound (h : s.serveStep a = some s') : PipelineStep s a s' := by
  unfold serveStep at h
  split at h
  · obtain ⟨x, hx, hrest⟩ := Option.bind_eq_some_iff.mp h
    obtain ⟨⟨r, q⟩, hr, rfl⟩ := Option.map_eq_some_iff.mp hrest
    exact .take hx hr
  · obtain ⟨x, hx, hrest⟩ := Option.bind_eq_some_iff.mp h
    split at hrest
    · next r rest hr =>
      cases hrest
      exact .emit hx hr
    · cases hrest
  · split at h
    · next hpos =>
      obtain ⟨⟨r, q⟩, hr, rfl⟩ := Option.map_eq_some_iff.mp h
      exact .receive hpos hr
    · cases h
  · obtain ⟨r, hpos, rfl⟩ := Option.map_eq_some_iff.mp h
    split
    · next q hq => exact .dispatch hpos hq
    · next hq => exact .discard hpos hq
  · split_ifs at h with hr
    obtain ⟨x, hx, rfl⟩ := Option.map_eq_some_iff.mp h
    exact .foreign hr hx
  · cases h
    exact .otherSelect
  · cases h
    exact .link
  · cases h

theorem respondStep_sound (h : s.respondStep a s.responding = some s') : PipelineStep s a s' := by
  generalize hpos : s.responding = pos at h
  unfold respondStep at h
  split at h
  · obtain ⟨⟨it, q⟩, hit, rfl⟩ := Option.map_eq_some_iff.mp h
    exact .item hpos hit
  · obtain ⟨q, hq, hrest⟩ := Option.bind_eq_some_iff.mp h
    obtain ⟨⟨r, q'⟩, hr, rfl⟩ := Option.map_eq_some_iff.mp hrest
    exact .respond hpos hq hr
  · split_ifs at h
    cases h
    exact .abandon (Or.inl rfl) hpos
  · cases h
    exact .abandon (Or.inr rfl) hpos
  · cases h
    exact .finish hpos
  · cases h

/-- **Every step is one of those listed.** -/
theorem pipelineStep_sound (h : s.step a = some s') : PipelineStep s a s' := by
  unfold Pipeline.step at h
  split at h
  all_goals first
    | exact requestStep_sound h
    | exact serveStep_sound h
    | exact respondStep_sound h

end Sound

end DetectBase
