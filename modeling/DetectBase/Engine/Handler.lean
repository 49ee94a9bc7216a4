import DetectBase.Engine.Npu
import DetectBase.Foundations.Transition
import DetectBase.Structure.SafeQueue
import Mathlib.Logic.Function.Basic

/-!
# An engine handler at work

`EngineHandlerBase` serves the requests of one queue. `EngineLoadBalancer::RequestAsync` picks the
handler and keeps a pointer to its queue, compares the size of the queue, and then puts the request
in; these are separate critical sections, and any number of threads may be between them. The
inference thread of the handler takes the requests one after the other, collects them in a batch and
sends the responses. `TerminateEngine` stops the thread: it clears `is_running_`, terminates the
queue, answers what is in it, and waits for the end of the thread.

`DetectBase.EngineHandler.step` lets one of them do its next section. The state is that of a handler
that has been activated; of the load balancer there is only what concerns this handler. Two lists
are bookkeeping that no step reads: the requests that were accepted, and the responses that were
sent, each with the request it answers.

`DetectBase.HandlerStep` lists what a step can do.
-/

namespace DetectBase

/-- Where a call of `RequestAsync` stands that has picked the handler. -/
inductive RequestCall where
  /-- It has the queue. -/
  | selected (r : InputLayerWrapper) : RequestCall
  /-- It has found room in the queue. -/
  | passed (r : InputLayerWrapper) : RequestCall
  /-- It has returned. -/
  | returned (accepted : Bool) : RequestCall

/-- Where `InferenceThreadRunner` stands. -/
inductive InferenceThread where
  /-- Before `InitializeDevice`. -/
  | starting : InferenceThread
  /-- Before the test of the loop. -/
  | test : InferenceThread
  /-- Before `dequeue_wait_for`. -/
  | wait : InferenceThread
  /-- Before `Preprocess`. -/
  | preprocess (r : InputLayerWrapper) : InferenceThread
  /-- Before the failure response to a request that `Preprocess` has not taken in. -/
  | refuse (r : InputLayerWrapper) : InferenceThread
  /-- Before `DoInference`. -/
  | infer : InferenceThread
  /-- Before `Postprocess`. -/
  | post : InferenceThread
  /-- With responses to send for the batch. -/
  | respond (rest : List (InputLayerWrapper × OutputLayerWrapper)) : InferenceThread
  /-- At the end. -/
  | exited : InferenceThread
  /-- It has read a null pointer. -/
  | crashed : InferenceThread

/-- Where the call of `TerminateEngine` stands that finds `is_activate_handler_` set. All others
return at once. -/
inductive Termination where
  /-- It has not been made. -/
  | notCalled : Termination
  /-- Before `is_running_.exchange`. -/
  | stop : Termination
  /-- Before `request_q_->terminate()`. -/
  | close : Termination
  /-- Before the queue is emptied. -/
  | flush : Termination
  /-- With requests from the queue to answer. -/
  | respond (rest : List InputLayerWrapper) : Termination
  /-- Before the thread has ended. -/
  | join : Termination
  /-- Before `ReleaseDeviceResources`. -/
  | release : Termination
  /-- It has returned. -/
  | returned : Termination

/-- How `DoInference` ends. That of the engine never fails by itself. -/
inductive InferOutcome where
  /-- It throws. -/
  | threw : InferOutcome
  /-- It returns `false`. -/
  | failed : InferOutcome
  /-- It gets through. -/
  | done (codes : RknnCodes) : InferOutcome

/-- A section of a thread. -/
inductive HandlerAct where
  /-- `RequestAsync` picks the handler. -/
  | requestAsync (call : ℕ) (r : InputLayerWrapper) : HandlerAct
  /-- `RequestAsync` compares the size of the queue. -/
  | checkSize (call : ℕ) : HandlerAct
  /-- `RequestAsync` puts the request into the queue. -/
  | place (call : ℕ) : HandlerAct
  /-- `InitializeDevice` returns. -/
  | initializeDevice (ok : Bool) : HandlerAct
  /-- The test of the loop. -/
  | loop : HandlerAct
  /-- `dequeue_wait_for` returns. -/
  | dequeue : HandlerAct
  /-- `Preprocess`. -/
  | preprocess (throws : Option PreprocessThrow) : HandlerAct
  /-- `DoInference`. -/
  | doInference (outcome : InferOutcome) : HandlerAct
  /-- `Postprocess`. -/
  | postprocess (throws : Bool) : HandlerAct
  /-- The thread sends a response, or clears the batch when all were sent. -/
  | respond : HandlerAct
  /-- `TerminateEngine` is called. -/
  | terminateEngine : HandlerAct
  /-- `SafeThread::Stop`. -/
  | stop : HandlerAct
  /-- `InferenceThreadCloser` terminates the queue. -/
  | close : HandlerAct
  /-- `clear_with_action` empties the queue. -/
  | flush : HandlerAct
  /-- `clear_with_action` answers a request, or is done. -/
  | respondFlushed : HandlerAct
  /-- The thread is joined. -/
  | join : HandlerAct
  /-- The rest of `TerminateEngine`. -/
  | release : HandlerAct

/-- An `EngineHandlerBase` with the threads that work on it. -/
structure EngineHandler where
  /-- `request_q_`. -/
  requestQ : SafeQueue InputLayerWrapper
  /-- `is_running_` of `inference_thread_`. -/
  isRunning : Bool
  /-- `InferenceThreadRunner`. -/
  thread : InferenceThread
  /-- `current_batch_inputs_`. -/
  batch : List InputLayerWrapper
  /-- The buffers of the engine. -/
  buffers : YoloV5.Buffers
  /-- The calls of `RequestAsync`. -/
  calls : ℕ → Option RequestCall
  /-- `TerminateEngine`. -/
  termination : Termination
  /-- The requests that were accepted. -/
  accepted : List InputLayerWrapper
  /-- The responses that were put into `respond_q_`, with the requests. -/
  responses : List (InputLayerWrapper × OutputLayerWrapper)

/-- `MAX_ENGINE_INFER_INPUT_QUEUE_SIZE`. -/
def maxEngineInferInputQueueSize : ℕ := 128

namespace EngineHandler

variable {κ : Type} (E : YoloV5 κ)

/-- After `ActivateEngine`. -/
def new (deviceInputs : List Buffer) (deviceOutputs : ℕ → Buffer) : EngineHandler where
  requestQ := .new 0
  isRunning := true
  thread := .starting
  batch := []
  buffers := E.allocateBuffers deviceInputs deviceOutputs
  calls := fun _ => none
  termination := .notCalled
  accepted := []
  responses := []

/-- **`BuildInferenceFailureRespond`**. -/
def buildInferenceFailureRespond (r : InputLayerWrapper) : OutputLayerWrapper :=
  ⟨r.metaData, E.handleUuid, []⟩

/-- A request with its failure response. -/
def failureOf (r : InputLayerWrapper) : InputLayerWrapper × OutputLayerWrapper :=
  (r, buildInferenceFailureRespond E r)

/-- The request as it is put into the queue. -/
def addressed (r : InputLayerWrapper) : InputLayerWrapper :=
  { r with metaData := { r.metaData with requesteeEngineUuid := E.handleUuid.1 } }

/-- The sections of `RequestAsync`. -/
def requestStep (s : EngineHandler) : HandlerAct → Option EngineHandler
  | .requestAsync call r =>
    match s.calls call with
    | none =>
      let c := if r.lacksImage then .returned false else .selected r
      some { s with calls := Function.update s.calls call (some c) }
    | some _ => none
  | .checkSize call =>
    match s.calls call with
    | some (.selected r) =>
      let c := if maxEngineInferInputQueueSize ≤ s.requestQ.items.length then .returned false
        else .passed r
      some { s with calls := Function.update s.calls call (some c) }
    | _ => none
  | .place call =>
    match s.calls call with
    | some (.passed r) =>
      some { s with
        requestQ := s.requestQ.enqueue (addressed E r)
        accepted := s.accepted ++ [addressed E r]
        calls := Function.update s.calls call (some (.returned true)) }
    | _ => none
  | _ => none

/-- Where the thread goes on after `Preprocess`. -/
def afterPreprocess (r : InputLayerWrapper) (prevSize size : ℕ) : Option Bool → InferenceThread
  -- it has thrown: a request that was added to the batch stays there
  | none => if prevSize = size then .refuse r else .test
  | some true => .infer
  | some false => .test

/-- The thread is still in its loop then. -/
theorem afterPreprocess_ne (r : InputLayerWrapper) (prevSize size : ℕ) (ready : Option Bool) :
    afterPreprocess r prevSize size ready ≠ .starting ∧
      afterPreprocess r prevSize size ready ≠ .exited := by
  unfold afterPreprocess
  split
  · split_ifs <;> simp
  · simp
  · simp

/-- The sections of `InferenceThreadRunner`. -/
def threadStep (s : EngineHandler) : HandlerAct → InferenceThread → Option EngineHandler
  | .initializeDevice ok, .starting =>
    some { s with thread := .test, isRunning := s.isRunning && ok }
  | .loop, .test => some { s with thread := if s.isRunning then .wait else .exited }
  | .dequeue, .wait =>
    match s.requestQ.dequeue with
    | some (r, q) => some { s with thread := .preprocess r, requestQ := q }
    | none => some { s with thread := .test }
  | .preprocess throws, .preprocess r =>
    let (ready, m, batch) := E.preprocess s.buffers s.batch r throws
    some { s with
      buffers := m
      batch := batch
      thread := afterPreprocess r s.batch.length batch.length ready }
  | .respond, .refuse r =>
    some { s with responses := s.responses ++ [failureOf E r], thread := .test }
  | .doInference outcome, .infer =>
    match outcome with
    | .done codes =>
      let (success, m) := E.doInference s.buffers codes
      some { s with
        buffers := m
        thread := if success then .post else .respond (s.batch.map (failureOf E)) }
    | _ => some { s with thread := .respond (s.batch.map (failureOf E)) }
  | .postprocess throws, .post =>
    if throws then some { s with thread := .respond (s.batch.map (failureOf E)) }
    else
      match E.postprocess s.buffers s.batch with
      | some results => some { s with thread := .respond results }
      | none => some { s with thread := .crashed }
  | .respond, .respond (x :: rest) =>
    some { s with responses := s.responses ++ [x], thread := .respond rest }
  | .respond, .respond [] => some { s with batch := [], thread := .test }
  | _, _ => none

/-- The sections of `TerminateEngine`. -/
def terminationStep (s : EngineHandler) : HandlerAct → Termination → Option EngineHandler
  | .terminateEngine, .notCalled => some { s with termination := .stop }
  | .stop, .stop =>
    -- a thread that has stopped by itself is neither closed nor joined
    some { s with termination := if s.isRunning then .close else .release, isRunning := false }
  | .close, .close => some { s with requestQ := s.requestQ.terminate, termination := .flush }
  | .flush, .flush =>
    some { s with
      requestQ := { s.requestQ with items := [] }
      termination := .respond s.requestQ.items }
  | .respondFlushed, .respond (r :: rest) =>
    some { s with responses := s.responses ++ [failureOf E r], termination := .respond rest }
  | .respondFlushed, .respond [] => some { s with termination := .join }
  | .join, .join =>
    match s.thread with
    | .exited => some { s with termination := .release }
    | _ => none
  | .release, .release => some { s with termination := .returned }
  | _, _ => none

/-- **A section of a thread.** -/
def step (s : EngineHandler) (a : HandlerAct) : Option EngineHandler :=
  (requestStep E s a).or ((threadStep E s a s.thread).or (terminationStep E s a s.termination))

end EngineHandler

open EngineHandler in
/-- **What a step can do.** -/
inductive HandlerStep {κ : Type} (E : YoloV5 κ) (s : EngineHandler) :
    HandlerAct → EngineHandler → Prop where
  /-- `RequestAsync` refuses the request, or gets the queue. -/
  | requestAsync {call : ℕ} {r : InputLayerWrapper} {c : RequestCall}
      (hc : c = .returned false ∨ c = .selected r ∧ r.lacksImage = false) :
      HandlerStep E s (.requestAsync call r)
        { s with calls := Function.update s.calls call (some c) }
  /-- `RequestAsync` finds the queue full, or finds room. -/
  | checkSize {call : ℕ} {r : InputLayerWrapper} {c : RequestCall}
      (hcall : s.calls call = some (.selected r)) (hc : c = .returned false ∨ c = .passed r) :
      HandlerStep E s (.checkSize call) { s with calls := Function.update s.calls call (some c) }
  /-- `RequestAsync` puts the request into the queue. -/
  | place {call : ℕ} {r : InputLayerWrapper} (hcall : s.calls call = some (.passed r)) :
      HandlerStep E s (.place call)
        { s with
          requestQ := s.requestQ.enqueue (addressed E r)
          accepted := s.accepted ++ [addressed E r]
          calls := Function.update s.calls call (some (.returned true)) }
  /-- The thread has its device, or not. -/
  | initializeDevice {ok : Bool} (hthread : s.thread = .starting) :
      HandlerStep E s (.initializeDevice ok)
        { s with thread := .test, isRunning := s.isRunning && ok }
  /-- The thread goes on. -/
  | loop (hthread : s.thread = .test) (hrun : s.isRunning = true) :
      HandlerStep E s .loop { s with thread := .wait }
  /-- The thread ends. -/
  | exit (hthread : s.thread = .test) (hrun : s.isRunning = false) :
      HandlerStep E s .loop { s with thread := .exited }
  /-- The thread gets a request. -/
  | dequeue {r : InputLayerWrapper} {q : SafeQueue InputLayerWrapper} (hthread : s.thread = .wait)
      (hq : s.requestQ.dequeue = some (r, q)) :
      HandlerStep E s .dequeue { s with thread := .preprocess r, requestQ := q }
  /-- The thread gets nothing. -/
  | timeout (hthread : s.thread = .wait) : HandlerStep E s .dequeue { s with thread := .test }
  /-- `Preprocess` returns, or throws. -/
  | preprocess {throws : Option PreprocessThrow} {r : InputLayerWrapper} {ready : Option Bool}
      {m : YoloV5.Buffers} {batch : List InputLayerWrapper} (hthread : s.thread = .preprocess r)
      (hpre : E.preprocess s.buffers s.batch r throws = (ready, m, batch)) :
      HandlerStep E s (.preprocess throws)
        { s with
          buffers := m
          batch := batch
          thread := afterPreprocess r s.batch.length batch.length ready }
  /-- The thread sends the failure response to a single request. -/
  | refuse {r : InputLayerWrapper} (hthread : s.thread = .refuse r) :
      HandlerStep E s .respond
        { s with responses := s.responses ++ [failureOf E r], thread := .test }
  /-- `DoInference` gets through. -/
  | infer {codes : RknnCodes} (hthread : s.thread = .infer) :
      HandlerStep E s (.doInference (.done codes))
        { s with buffers := (E.doInference s.buffers codes).2, thread := .post }
  /-- `DoInference` fails. -/
  | inferFails {outcome : InferOutcome} (hthread : s.thread = .infer) :
      HandlerStep E s (.doInference outcome)
        { s with thread := .respond (s.batch.map (failureOf E)) }
  /-- `Postprocess` returns. -/
  | post {throws : Bool} {results : List (InputLayerWrapper × OutputLayerWrapper)}
      (hthread : s.thread = .post) (hpost : E.postprocess s.buffers s.batch = some results) :
      HandlerStep E s (.postprocess throws) { s with thread := .respond results }
  /-- `Postprocess` throws. -/
  | postFails {throws : Bool} (hthread : s.thread = .post) :
      HandlerStep E s (.postprocess throws)
        { s with thread := .respond (s.batch.map (failureOf E)) }
  /-- `Postprocess` reads a null pointer. -/
  | crash {throws : Bool} (hthread : s.thread = .post)
      (hpost : E.postprocess s.buffers s.batch = none) :
      HandlerStep E s (.postprocess throws) { s with thread := .crashed }
  /-- The thread sends a response. -/
  | respond {x : InputLayerWrapper × OutputLayerWrapper}
      {rest : List (InputLayerWrapper × OutputLayerWrapper)}
      (hthread : s.thread = .respond (x :: rest)) :
      HandlerStep E s .respond
        { s with responses := s.responses ++ [x], thread := .respond rest }
  /-- The thread has sent all responses for the batch. -/
  | clear (hthread : s.thread = .respond []) :
      HandlerStep E s .respond { s with batch := [], thread := .test }
  /-- `TerminateEngine` is called. -/
  | terminateEngine (hterm : s.termination = .notCalled) :
      HandlerStep E s .terminateEngine { s with termination := .stop }
  /-- The thread is to stop. -/
  | stop (hterm : s.termination = .stop) (hrun : s.isRunning = true) :
      HandlerStep E s .stop { s with termination := .close, isRunning := false }
  /-- The thread has stopped by itself. -/
  | stopped (hterm : s.termination = .stop) (hrun : s.isRunning = false) :
      HandlerStep E s .stop { s with termination := .release, isRunning := false }
  /-- The queue is terminated. -/
  | close (hterm : s.termination = .close) :
      HandlerStep E s .close { s with requestQ := s.requestQ.terminate, termination := .flush }
  /-- The queue is emptied. -/
  | flush (hterm : s.termination = .flush) :
      HandlerStep E s .flush
        { s with
          requestQ := { s.requestQ with items := [] }
          termination := .respond s.requestQ.items }
  /-- A request that was in the queue is answered. -/
  | respondFlushed {r : InputLayerWrapper} {rest : List InputLayerWrapper}
      (hterm : s.termination = .respond (r :: rest)) :
      HandlerStep E s .respondFlushed
        { s with responses := s.responses ++ [failureOf E r], termination := .respond rest }
  /-- All of them are answered. -/
  | flushed (hterm : s.termination = .respond []) :
      HandlerStep E s .respondFlushed { s with termination := .join }
  /-- The thread has ended. -/
  | join (hterm : s.termination = .join) (hthread : s.thread = .exited) :
      HandlerStep E s .join { s with termination := .release }
  /-- `TerminateEngine` returns. -/
  | release (hterm : s.termination = .release) :
      HandlerStep E s .release { s with termination := .returned }

namespace EngineHandler

variable {κ : Type} {E : YoloV5 κ} {s s' : EngineHandler} {a : HandlerAct}

theorem handlerStep_of_requestStep (h : requestStep E s a = some s') : HandlerStep E s a s' := by
  unfold requestStep at h
  split at h
  · next call r =>
    split at h
    · cases h
      refine .requestAsync ?_
      split_ifs with himage
      · exact .inl rfl
      · exact .inr ⟨rfl, by simpa using himage⟩
    · cases h
  · next call =>
    split at h
    · next r hcall =>
      cases h
      refine .checkSize hcall ?_
      split_ifs
      · exact .inl rfl
      · exact .inr rfl
    · cases h
  · next call =>
    split at h
    · next r hcall =>
      cases h
      exact .place hcall
    · cases h
  · cases h

theorem handlerStep_of_threadStep (h : threadStep E s a s.thread = some s') :
    HandlerStep E s a s' := by
  generalize hthread : s.thread = t at h
  unfold threadStep at h
  split at h
  · cases h
    exact .initializeDevice hthread
  · cases h
    split_ifs with hrun
    · exact .loop hthread hrun
    · exact .exit hthread (by simpa using hrun)
  · split at h
    · next r q hq =>
      cases h
      exact .dequeue hthread hq
    · cases h
      exact .timeout hthread
  · next throws r =>
    cases h
    exact .preprocess hthread rfl
  · cases h
    exact .refuse hthread
  · next outcome =>
    split at h
    · cases h
      exact .infer hthread
    · cases h
      exact .inferFails hthread
  · next throws =>
    split at h
    · cases h
      exact .postFails hthread
    · split at h
      · next results hpost =>
        cases h
        exact .post hthread hpost
      · next hpost =>
        cases h
        exact .crash hthread hpost
  · cases h
    exact .respond hthread
  · cases h
    exact .clear hthread
  · cases h

theorem handlerStep_of_terminationStep (h : terminationStep E s a s.termination = some s') :
    HandlerStep E s a s' := by
  generalize hterm : s.termination = t at h
  unfold terminationStep at h
  split at h
  · cases h
    exact .terminateEngine hterm
  · cases h
    split_ifs with hrun
    · exact .stop hterm hrun
    · exact .stopped hterm (by simpa using hrun)
  · cases h
    exact .close hterm
  · cases h
    exact .flush hterm
  · cases h
    exact .respondFlushed hterm
  · cases h
    exact .flushed hterm
  · split at h
    · next hthread =>
      cases h
      exact .join hterm hthread
    · cases h
  · cases h
    exact .release hterm
  · cases h

/-- **Every step is one of these.** -/
theorem handlerStep_of_step (h : step E s a = some s') : HandlerStep E s a s' := by
  rw [step, Option.or_eq_some_iff, Option.or_eq_some_iff] at h
  obtain h | ⟨-, h | ⟨-, h⟩⟩ := h
  · exact handlerStep_of_requestStep h
  · exact handlerStep_of_threadStep h
  · exact handlerStep_of_terminationStep h

end EngineHandler

end DetectBase
