import DetectBase.Engine.Handler
import Mathlib.Data.List.Perm.Basic

/-!
# Every request is answered

A request that `RequestAsync` has accepted is in the queue of the handler, in the hands of its
thread, in the batch, or in the hands of `TerminateEngine`, until there is a response to it: this
holds in every run (`DetectBase.EngineHandler.Accounts`). What matters is whether all these places
are empty in the end, and three of them need not be. A request that comes after the queue has been
emptied is not looked at any more; a batch that is not full when the thread ends is dropped with it;
and a thread that has stopped because it has got no device is not closed, so that nobody empties its
queue. When none of this happens there is one response to each request
(`DetectBase.EngineHandler.answeredOnce`).
-/

namespace DetectBase

/-- The requests in the hands of the thread. -/
def InferenceThread.holds (batch : List InputLayerWrapper) :
    InferenceThread → List InputLayerWrapper
  | .preprocess r | .refuse r => r :: batch
  | .respond rest => rest.map (·.1)
  | _ => batch

/-- The responses in the hands of the thread. -/
def InferenceThread.sends : InferenceThread → List (InputLayerWrapper × OutputLayerWrapper)
  | .respond rest => rest
  | _ => []

/-- The requests in the hands of `TerminateEngine`. -/
def Termination.holds : Termination → List InputLayerWrapper
  | .respond rest => rest
  | _ => []

/-- `TerminateEngine` has set `is_running_` to `false`. -/
def Termination.hasStopped : Termination → Bool
  | .notCalled | .stop => false
  | _ => true

/-- `TerminateEngine` does not look at the queue any more. -/
def Termination.hasFlushed : Termination → Bool
  | .notCalled | .stop | .close | .flush => false
  | _ => true

/-- `TerminateEngine` does not look at the thread any more. -/
def Termination.hasJoined : Termination → Bool
  | .release | .returned => true
  | _ => false

namespace EngineHandler

variable {κ : Type} {E : YoloV5 κ} {s s' : EngineHandler} {a : HandlerAct}

/-! ### No request is lost on the way -/

/-- **Where the accepted requests are**, in every run. -/
structure Accounts (E : YoloV5 κ) (s : EngineHandler) : Prop where
  /-- The queue does not drop anything. -/
  unlimited : s.requestQ.maxSize = 0
  /-- `RequestAsync` goes on with requests that have an image. -/
  calling : ∀ call r, s.calls call = some (.selected r) ∨ s.calls call = some (.passed r) →
    r.lacksImage = false
  /-- So do the queue and the thread. -/
  queued : ∀ r ∈ s.requestQ.items, r.lacksImage = false
  /-- The same for the thread. -/
  preprocessing : ∀ r, s.thread = .preprocess r → r.lacksImage = false
  /-- There is an input buffer for each request of a batch. -/
  buffers : s.buffers.rknnInputs.length = E.batchSize
  /-- A request that was accepted has been answered, or is on its way. -/
  accepted : s.accepted.Perm (s.responses.map (·.1) ++ s.requestQ.items ++
    s.thread.holds s.batch ++ s.termination.holds)
  /-- A response has the meta data of its request. -/
  answers : ∀ x ∈ s.responses ++ s.thread.sends, x.2.metaData = x.1.metaData

theorem accounts_new (deviceInputs : List Buffer) (deviceOutputs : ℕ → Buffer) :
    (new E deviceInputs deviceOutputs).Accounts E where
  unlimited := rfl
  calling := by simp [new]
  queued := by simp [new, SafeQueue.new]
  preprocessing := by simp [new]
  buffers := by simp [new, YoloV5.allocateBuffers]
  accepted := .refl _
  answers := by simp [new, InferenceThread.sends]

/-- A request that changes hands is counted as before. -/
theorem Accounts.accepted_of_count (h : s.Accounts E) {l : List InputLayerWrapper}
    (hl : ∀ x, l.count x = (s.responses.map (·.1) ++ s.requestQ.items ++
      s.thread.holds s.batch ++ s.termination.holds).count x) : s.accepted.Perm l :=
  h.accepted.trans (List.perm_iff_count.mpr fun x => (hl x).symm)

/-- `Postprocess` answers the requests of the batch. -/
theorem map_fst_postprocess {m : YoloV5.Buffers} {batch : List InputLayerWrapper}
    {results : List (InputLayerWrapper × OutputLayerWrapper)}
    (h : E.postprocess m batch = some results) :
    results.map (·.1) = batch ∧ ∀ x ∈ results, x.2.metaData = x.1.metaData := by
  rw [YoloV5.postprocess] at h
  split_ifs at h with hbatch
  · cases h
    rw [hbatch]
    exact ⟨rfl, by simp⟩
  · obtain ⟨raw, -, rfl⟩ := Option.map_eq_some_iff.mp h
    constructor
    · rw [List.map_map]
      exact List.map_id batch
    · intro x hx
      obtain ⟨r, -, rfl⟩ := List.mem_map.mp hx
      rfl

/-- So do the failure responses. -/
theorem map_fst_failureOf (batch : List InputLayerWrapper) :
    (batch.map (failureOf E)).map (·.1) = batch ∧
      ∀ x ∈ batch.map (failureOf E), x.2.metaData = x.1.metaData := by
  constructor
  · rw [List.map_map]
    exact List.map_id batch
  · intro x hx
    obtain ⟨r, -, rfl⟩ := List.mem_map.mp hx
    rfl

/-- The thread has responses to send for the whole batch. -/
theorem Accounts.startResponding (h : s.Accounts E)
    {results : List (InputLayerWrapper × OutputLayerWrapper)}
    (hholds : s.thread.holds s.batch = s.batch)
    (hfst : results.map (·.1) = s.batch) (hmeta : ∀ x ∈ results, x.2.metaData = x.1.metaData) :
    ({ s with thread := .respond results } : EngineHandler).Accounts E where
  unlimited := h.unlimited
  calling := h.calling
  queued := h.queued
  preprocessing := by simp
  buffers := h.buffers
  accepted := by
    have haccepted := h.accepted
    rw [hholds] at haccepted
    rw [InferenceThread.holds, hfst]
    exact haccepted
  answers := by
    intro x hx
    obtain hx | hx := List.mem_append.mp hx
    · exact h.answers x (List.mem_append_left _ hx)
    · exact hmeta x hx

/-- A thread goes on with what it has. -/
theorem Accounts.move (h : s.Accounts E) {t : InferenceThread} {u : Termination} {b : Bool}
    (hholds : t.holds s.batch = s.thread.holds s.batch) (hsends : t.sends = s.thread.sends)
    (hpre : ∀ r, t = .preprocess r → s.thread = .preprocess r)
    (hflushed : u.holds = s.termination.holds) :
    ({ s with thread := t, termination := u, isRunning := b } : EngineHandler).Accounts E where
  unlimited := h.unlimited
  calling := h.calling
  queued := h.queued
  preprocessing := fun r hr => h.preprocessing r (hpre r hr)
  buffers := h.buffers
  accepted := by
    rw [hholds, hflushed]
    exact h.accepted
  answers := by
    rw [hsends]
    exact h.answers

/-- `RequestAsync` goes on with a request that has an image. -/
theorem Accounts.setCall (h : s.Accounts E) {call : ℕ} {c : RequestCall}
    (hc : ∀ r, c = .selected r ∨ c = .passed r → r.lacksImage = false) :
    ({ s with calls := Function.update s.calls call (some c) } : EngineHandler).Accounts E where
  unlimited := h.unlimited
  calling := by
    intro call' r hr
    by_cases hcall : call' = call
    · rw [hcall] at hr
      simp only [Function.update_self, Option.some.injEq] at hr
      exact hc r hr
    · simp only [Function.update_of_ne hcall] at hr
      exact h.calling call' r hr
  queued := h.queued
  preprocessing := h.preprocessing
  buffers := h.buffers
  accepted := h.accepted
  answers := h.answers

/-- `RequestAsync` puts a request into the queue. -/
theorem Accounts.place (h : s.Accounts E) {call : ℕ} {r : InputLayerWrapper}
    (hcall : s.calls call = some (.passed r)) :
    ({ s with
      requestQ := s.requestQ.enqueue (addressed E r)
      accepted := s.accepted ++ [addressed E r]
      calls := Function.update s.calls call (some (.returned true)) } :
        EngineHandler).Accounts E := by
  have hcalls : ({ s with calls := Function.update s.calls call (some (.returned true)) } :
      EngineHandler).Accounts E := h.setCall (by simp)
  have hitems := SafeQueue.items_enqueue (SafeQueue.not_isFull h.unlimited) (addressed E r)
  refine ⟨?_, hcalls.calling, ?_, h.preprocessing, h.buffers, ?_, h.answers⟩
  · rw [SafeQueue.maxSize_enqueue, h.unlimited]
  · intro r' hr'
    rw [hitems, List.mem_append, List.mem_singleton] at hr'
    obtain hr' | rfl := hr'
    · exact h.queued r' hr'
    · exact h.calling call r (.inr hcall)
  · have haccepted := List.perm_iff_count.mp h.accepted
    rw [List.perm_iff_count, hitems]
    intro x
    have := haccepted x
    simp only [List.count_append] at this ⊢
    omega

/-- The thread takes a request. -/
theorem Accounts.dequeue (h : s.Accounts E) {r : InputLayerWrapper}
    {q : SafeQueue InputLayerWrapper} (hthread : s.thread = .wait)
    (hq : s.requestQ.dequeue = some (r, q)) :
    ({ s with thread := .preprocess r, requestQ := q } : EngineHandler).Accounts E := by
  have hitems := SafeQueue.items_of_dequeue hq
  have himage : ∀ r' ∈ r :: q.items, r'.lacksImage = false := by
    rw [← hitems]
    exact h.queued
  refine ⟨?_, h.calling, ?_, ?_, h.buffers, ?_, ?_⟩
  · rw [SafeQueue.maxSize_of_dequeue hq, h.unlimited]
  · exact fun r' hr' => himage r' (List.mem_cons_of_mem _ hr')
  · rintro r' ⟨⟩
    exact himage r List.mem_cons_self
  · refine h.accepted_of_count fun x => ?_
    rw [hthread, hitems]
    simp only [InferenceThread.holds, List.count_append, List.count_cons]
    omega
  · have hanswers := h.answers
    rw [hthread] at hanswers
    exact hanswers

/-- **`Preprocess` adds the request to the batch, or it is answered at once.** -/
theorem Accounts.preprocess (h : s.Accounts E) {throws : Option PreprocessThrow}
    {r : InputLayerWrapper} {ready : Option Bool} {m : YoloV5.Buffers}
    {batch : List InputLayerWrapper} (hthread : s.thread = .preprocess r)
    (hpre : E.preprocess s.buffers s.batch r throws = (ready, m, batch)) :
    ({ s with
      buffers := m
      batch := batch
      thread := afterPreprocess r s.batch.length batch.length ready } :
        EngineHandler).Accounts E := by
  have hcases := YoloV5.preprocess_cases s.batch (h.preprocessing r hthread) h.buffers throws
  rw [hpre] at hcases
  have haccepted := h.accepted
  have hanswers := h.answers
  rw [hthread] at haccepted hanswers
  obtain ⟨rfl, rfl, hm⟩ | hcases := hcases
  · have hnext : afterPreprocess r s.batch.length s.batch.length none = .refuse r := by
      rw [afterPreprocess, if_pos rfl]
    refine ⟨h.unlimited, h.calling, h.queued, ?_, ?_, ?_, ?_⟩
    · simp [hnext]
    · obtain rfl | rfl := hm
      · exact h.buffers
      · rw [List.length_set, h.buffers]
    · rw [hnext]
      exact haccepted
    · rw [hnext]
      exact hanswers
  · cases hcases
    obtain ⟨t, hnext, hholds, hsends, hne⟩ : ∃ t, afterPreprocess r s.batch.length
        (s.batch ++ [r]).length (some (decide (E.batchSize ≤ s.batch.length + 1))) = t ∧
        t.holds (s.batch ++ [r]) = s.batch ++ [r] ∧ t.sends = [] ∧
        ∀ r, t ≠ .preprocess r := by
      cases decide (E.batchSize ≤ s.batch.length + 1) with
      | false => exact ⟨.test, rfl, rfl, rfl, by simp⟩
      | true => exact ⟨.infer, rfl, rfl, rfl, by simp⟩
    rw [hnext]
    refine ⟨h.unlimited, h.calling, h.queued, fun r' hr' => absurd hr' (hne r'), ?_, ?_, ?_⟩
    · rw [List.length_set, h.buffers]
    · refine h.accepted_of_count fun x => ?_
      rw [hholds, hthread]
      simp only [InferenceThread.holds, List.count_append, List.count_cons, List.count_nil]
      omega
    · rw [hsends]
      exact hanswers

/-- The thread sends a response. -/
theorem Accounts.send (h : s.Accounts E) {x : InputLayerWrapper × OutputLayerWrapper}
    {t : InferenceThread} (hholds : s.thread.holds s.batch = x.1 :: t.holds s.batch)
    (hmeta : x.2.metaData = x.1.metaData) (hsends : ∀ y ∈ t.sends, y ∈ s.thread.sends)
    (hne : ∀ r, t ≠ .preprocess r) :
    ({ s with responses := s.responses ++ [x], thread := t } : EngineHandler).Accounts E where
  unlimited := h.unlimited
  calling := h.calling
  queued := h.queued
  preprocessing := fun r hr => absurd hr (hne r)
  buffers := h.buffers
  accepted := by
    refine h.accepted_of_count fun y => ?_
    rw [hholds]
    simp only [List.map_append, List.map_cons, List.map_nil, List.count_append, List.count_cons,
      List.count_nil]
    omega
  answers := by
    intro y hy
    simp only [List.mem_append, List.mem_singleton] at hy
    obtain (hy | rfl) | hy := hy
    · exact h.answers y (List.mem_append_left _ hy)
    · exact hmeta
    · exact h.answers y (List.mem_append_right _ (hsends y hy))

/-- `TerminateEngine` takes what is in the queue. -/
theorem Accounts.flush (h : s.Accounts E) (hterm : s.termination = .flush) :
    ({ s with
      requestQ := { s.requestQ with items := [] }
      termination := .respond s.requestQ.items } : EngineHandler).Accounts E where
  unlimited := h.unlimited
  calling := h.calling
  queued := by simp
  preprocessing := h.preprocessing
  buffers := h.buffers
  accepted := by
    refine h.accepted_of_count fun x => ?_
    rw [hterm]
    simp only [Termination.holds, List.count_append, List.count_nil]
    omega
  answers := h.answers

/-- `TerminateEngine` answers a request. -/
theorem Accounts.respondFlushed (h : s.Accounts E) {r : InputLayerWrapper}
    {rest : List InputLayerWrapper} (hterm : s.termination = .respond (r :: rest)) :
    ({ s with responses := s.responses ++ [failureOf E r], termination := .respond rest } :
      EngineHandler).Accounts E where
  unlimited := h.unlimited
  calling := h.calling
  queued := h.queued
  preprocessing := h.preprocessing
  buffers := h.buffers
  accepted := by
    refine h.accepted_of_count fun x => ?_
    rw [hterm]
    simp only [Termination.holds, failureOf, List.map_append, List.map_cons, List.map_nil,
      List.count_append, List.count_cons, List.count_nil]
    omega
  answers := by
    intro x hx
    simp only [List.mem_append, List.mem_singleton] at hx
    obtain (hx | rfl) | hx := hx
    · exact h.answers x (List.mem_append_left _ hx)
    · rfl
    · exact h.answers x (List.mem_append_right _ hx)

/-- **Every step keeps the account.** -/
theorem accounts_step (h : s.Accounts E) (hs : step E s a = some s') : s'.Accounts E := by
  cases handlerStep_of_step hs with
  | requestAsync hc =>
    refine h.setCall ?_
    rintro r' hr'
    obtain rfl | ⟨rfl, himage⟩ := hc
    · simp at hr'
    · obtain ⟨⟨⟩⟩ | ⟨⟨⟩⟩ := hr'
      exact himage
  | checkSize hcall hc =>
    refine h.setCall ?_
    rintro r' hr'
    obtain rfl | rfl := hc
    · simp at hr'
    · obtain ⟨⟨⟩⟩ | ⟨⟨⟩⟩ := hr'
      exact h.calling _ _ (.inl hcall)
  | place hcall => exact h.place hcall
  | initializeDevice hthread | loop hthread | exit hthread | timeout hthread
  | crash hthread =>
    refine h.move ?_ ?_ (by simp) rfl
    · rw [hthread]
      rfl
    · rw [hthread]
      rfl
  | dequeue hthread hq => exact h.dequeue hthread hq
  | preprocess hthread hpre => exact h.preprocess hthread hpre
  | refuse hthread =>
    refine h.send ?_ rfl (by simp [InferenceThread.sends]) (by simp)
    rw [hthread]
    rfl
  | infer hthread =>
    have hmove := h.move (t := .post) (u := s.termination)
      (by rw [hthread]; rfl) (by rw [hthread]; rfl) (by simp) rfl (b := s.isRunning)
    exact ⟨hmove.unlimited, hmove.calling, hmove.queued, hmove.preprocessing, h.buffers,
      hmove.accepted, hmove.answers⟩
  | inferFails hthread | postFails hthread =>
    obtain ⟨hfst, hmeta⟩ := map_fst_failureOf (E := E) s.batch
    exact h.startResponding (by rw [hthread]; rfl) hfst hmeta
  | post hthread hpost =>
    obtain ⟨hfst, hmeta⟩ := map_fst_postprocess hpost
    exact h.startResponding (by rw [hthread]; rfl) hfst hmeta
  | respond hthread =>
    refine h.send ?_ ?_ ?_ (by simp)
    · rw [hthread]
      rfl
    · refine h.answers _ (List.mem_append_right _ ?_)
      rw [hthread]
      exact List.mem_cons_self
    · intro y hy
      rw [hthread]
      exact List.mem_cons_of_mem _ hy
  | clear hthread =>
    refine ⟨h.unlimited, h.calling, h.queued, by simp, h.buffers, ?_, ?_⟩
    · have haccepted := h.accepted
      rw [hthread] at haccepted
      exact haccepted
    · have hanswers := h.answers
      rw [hthread] at hanswers
      exact hanswers
  | terminateEngine hterm | stop hterm | stopped hterm | flushed hterm | join hterm
  | release hterm =>
    refine h.move rfl rfl (fun _ hr => hr) ?_
    rw [hterm]
    rfl
  | close hterm =>
    have hmove := h.move (t := s.thread) (u := .flush) rfl rfl (fun _ hr => hr)
      (by rw [hterm]; rfl) (b := s.isRunning)
    exact ⟨hmove.unlimited, hmove.calling, hmove.queued, hmove.preprocessing, hmove.buffers,
      hmove.accepted, hmove.answers⟩
  | flush hterm => exact h.flush hterm
  | respondFlushed hterm => exact h.respondFlushed hterm

/-! ### Nothing is left in the end -/

/-- **No request is left behind**: none is put into a queue that has been emptied, the thread does
not end with a batch, and it has not stopped by itself with requests in its queue. -/
def LeavesNone (s : EngineHandler) : HandlerAct → Prop
  | .place _ => s.termination.hasFlushed = false
  | .loop => s.isRunning = false → s.batch = []
  | .stop => s.isRunning = false → s.requestQ.items = []
  | _ => True

instance (s : EngineHandler) : ∀ a, Decidable (s.LeavesNone a)
  | .place _ => inferInstanceAs (Decidable (_ = _))
  | .loop | .stop => inferInstanceAs (Decidable (_ = _ → _ = _))
  | .requestAsync .. | .checkSize _ | .initializeDevice _ | .dequeue | .preprocess _
  | .doInference _ | .postprocess _ | .respond | .terminateEngine | .close | .flush
  | .respondFlushed | .join | .release => isTrue trivial

/-- **What is empty**, when no request is left behind. -/
structure Drained (s : EngineHandler) : Prop where
  /-- A queue that has been emptied is empty. -/
  queue : s.termination.hasFlushed = true → s.requestQ.items = []
  /-- The thread has been told to stop. -/
  stopped : s.termination.hasStopped = true → s.isRunning = false
  /-- The thread starts without a batch. -/
  starting : s.thread = .starting → s.batch = []
  /-- The thread ends without a batch. -/
  exited : s.thread = .exited → s.batch = []
  /-- A thread that has stopped by itself, or that has been joined, has nothing in hand. -/
  idle : s.isRunning = false → s.termination.hasStopped = s.termination.hasJoined →
    (s.thread = .test ∨ s.thread = .exited) ∧ s.batch = []

theorem drained_new (deviceInputs : List Buffer) (deviceOutputs : ℕ → Buffer) :
    (new E deviceInputs deviceOutputs).Drained := by
  constructor <;> simp [new, Termination.hasFlushed, Termination.hasStopped]

/-- The thread does its work. -/
theorem Drained.work (h : s.Drained)
    (hbusy : s.isRunning = false → s.thread ≠ .test ∧ s.thread ≠ .exited)
    (hstarting : s'.thread ≠ .starting) (hexited : s'.thread ≠ .exited)
    (hterm : s'.termination = s.termination) (hrun : s'.isRunning = s.isRunning)
    (hitems : s.requestQ.items = [] → s'.requestQ.items = []) : s'.Drained where
  queue := by
    rw [hterm]
    exact fun hflushed => hitems (h.queue hflushed)
  stopped := by
    rw [hterm, hrun]
    exact h.stopped
  starting := fun hthread => absurd hthread hstarting
  exited := fun hthread => absurd hthread hexited
  idle := by
    rw [hterm, hrun]
    intro hfalse hstage
    obtain ⟨htest | hexit, -⟩ := h.idle hfalse hstage
    · exact absurd htest (hbusy hfalse).1
    · exact absurd hexit (hbusy hfalse).2

/-- `TerminateEngine` goes on. -/
theorem Drained.terminate (h : s.Drained) {u : Termination} {q : SafeQueue InputLayerWrapper}
    {responses : List (InputLayerWrapper × OutputLayerWrapper)}
    (hflushed : u.hasFlushed = true → q.items = [])
    (hstopped : u.hasStopped = s.termination.hasStopped)
    (hjoined : u.hasJoined = s.termination.hasJoined) :
    ({ s with termination := u, requestQ := q, responses := responses } :
      EngineHandler).Drained where
  queue := hflushed
  stopped := by
    rw [hstopped]
    exact h.stopped
  starting := h.starting
  exited := h.exited
  idle := by
    rw [hstopped, hjoined]
    exact h.idle

/-- **Every step that leaves no request behind keeps the places empty.** -/
theorem drained_step (h : s.Drained) (hok : s.LeavesNone a) (hs : step E s a = some s') :
    s'.Drained := by
  cases handlerStep_of_step hs with
  | requestAsync | checkSize => exact ⟨h.queue, h.stopped, h.starting, h.exited, h.idle⟩
  | place hcall =>
    refine ⟨fun hflushed => ?_, h.stopped, h.starting, h.exited, h.idle⟩
    have hopen : s.termination.hasFlushed = false := hok
    rw [hopen] at hflushed
    cases hflushed
  | initializeDevice hthread =>
    refine ⟨h.queue, fun hstopped => ?_, by simp, by simp, fun _ _ => ⟨.inl rfl, ?_⟩⟩
    · show (s.isRunning && _) = false
      rw [h.stopped hstopped, Bool.false_and]
    · exact h.starting hthread
  | loop hthread hrun =>
    refine h.work (fun hfalse => ?_) (by simp) (by simp) rfl rfl id
    rw [hrun] at hfalse
    cases hfalse
  | exit hthread hrun =>
    have hbatch : s.batch = [] := hok hrun
    exact ⟨h.queue, h.stopped, by simp, fun _ => hbatch, fun _ _ => ⟨.inr rfl, hbatch⟩⟩
  | dequeue hthread hq =>
    refine h.work (by simp [hthread]) (by simp) (by simp) rfl rfl fun hitems => ?_
    rw [SafeQueue.items_of_dequeue hq] at hitems
    cases hitems
  | preprocess hthread hpre =>
    exact h.work (by simp [hthread]) (afterPreprocess_ne ..).1 (afterPreprocess_ne ..).2 rfl rfl id
  | timeout hthread | refuse hthread | infer hthread | inferFails hthread | post hthread
  | postFails hthread | crash hthread | respond hthread | clear hthread =>
    exact h.work (by simp [hthread]) (by simp) (by simp) rfl rfl id
  | terminateEngine hterm | close hterm =>
    refine h.terminate (fun hflushed => ?_) (by rw [hterm]; rfl) (by rw [hterm]; rfl)
    cases hflushed
  | stop hterm hrun =>
    refine ⟨fun hflushed => ?_, fun _ => rfl, h.starting, h.exited, fun _ hstage => ?_⟩
    · cases hflushed
    · cases hstage
  | stopped hterm hrun =>
    refine ⟨fun _ => hok hrun, fun _ => rfl, h.starting, h.exited, fun _ _ => h.idle hrun ?_⟩
    rw [hterm]
    rfl
  | flush hterm =>
    exact h.terminate (fun _ => rfl) (by rw [hterm]; rfl) (by rw [hterm]; rfl)
  | respondFlushed hterm | flushed hterm | release hterm =>
    exact h.terminate (fun _ => h.queue (by rw [hterm]; rfl)) (by rw [hterm]; rfl)
      (by rw [hterm]; rfl)
  | join hterm hthread =>
    refine ⟨fun _ => h.queue (by rw [hterm]; rfl), fun _ => h.stopped (by rw [hterm]; rfl),
      h.starting, h.exited, fun _ _ => ⟨.inr hthread, h.exited hthread⟩⟩

/-- **Every accepted request is answered once**: when `TerminateEngine` has returned, in a run that
leaves no request behind, the responses have the meta data of the requests that were accepted. -/
theorem answeredOnce (deviceInputs : List Buffer) (deviceOutputs : ℕ → Buffer)
    {as : List HandlerAct} {s : EngineHandler}
    (hok : Guarded (step E) LeavesNone (new E deviceInputs deviceOutputs) as)
    (hrun : runFrom (step E) (new E deviceInputs deviceOutputs) as = some s)
    (hreturned : s.termination = .returned) :
    (s.responses.map (·.2.metaData)).Perm (s.accepted.map (·.metaData)) := by
  obtain ⟨haccounts, hdrained⟩ : s.Accounts E ∧ s.Drained := by
    refine Guarded.invariant (I := fun s => s.Accounts E ∧ s.Drained) ?_ hok
      ⟨accounts_new deviceInputs deviceOutputs, drained_new deviceInputs deviceOutputs⟩ hrun
    rintro s a s' ⟨haccounts, hdrained⟩ hok hs
    exact ⟨accounts_step haccounts hs, drained_step hdrained hok hs⟩
  have hqueue : s.requestQ.items = [] := hdrained.queue (by rw [hreturned]; rfl)
  have hstopped : s.isRunning = false := hdrained.stopped (by rw [hreturned]; rfl)
  obtain ⟨hthread, hbatch⟩ := hdrained.idle hstopped (by rw [hreturned]; rfl)
  have hholds : s.thread.holds s.batch = [] := by
    rw [hbatch]
    obtain hthread | hthread := hthread
    · rw [hthread]
      rfl
    · rw [hthread]
      rfl
  have hflushed : s.termination.holds = [] := by
    rw [hreturned]
    rfl
  have haccepted := haccounts.accepted
  rw [hqueue, hholds, hflushed, List.append_nil, List.append_nil, List.append_nil] at haccepted
  have hmeta : s.responses.map (·.2.metaData) = (s.responses.map (·.1)).map (·.metaData) := by
    rw [List.map_map]
    exact List.map_congr_left fun x hx => haccounts.answers x (List.mem_append_left _ hx)
  rw [hmeta]
  exact (haccepted.map _).symm

/-- An engine with batches of the given size. -/
def engineOf (batchSize : ℕ) (h : 0 < batchSize) : YoloV5 Unit where
  handleUuid := (1, 0)
  batchSize := batchSize
  batchSize_pos := h
  outputIndexNum := 3
  modelW := 32
  modelH := 32
  modelC := 3
  network := fun _ _ => []
  candidates := fun _ _ => []
  emit := fun _ => []

/-- A request of unit 5. -/
def requestOf (correlationId : ℕ) : InputLayerWrapper :=
  ⟨⟨5, 1, 32, 32, correlationId⟩, some [0]⟩

/-- A request is accepted and the thread takes it into its batch. -/
def takeRequest : List HandlerAct :=
  [.requestAsync 0 (requestOf 1), .checkSize 0, .place 0, .initializeDevice true, .loop, .dequeue,
    .preprocess none]

/-- The batch is answered. -/
def answerBatch : List HandlerAct :=
  [.doInference (.done ⟨true, true, true⟩), .postprocess false, .respond, .respond]

/-- `TerminateEngine`, while the thread is in its loop. -/
def terminateLoop : List HandlerAct :=
  [.terminateEngine, .stop, .close, .flush, .respondFlushed, .loop, .join, .release]

/-- A batch of one request is full, and is answered. -/
theorem answeredOnce_singleRequest : ∃ s,
    runFrom (step (engineOf 1 Nat.one_pos)) (new (engineOf 1 Nat.one_pos) [] fun _ => [])
      (takeRequest ++ answerBatch ++ terminateLoop) = some s ∧
    s.termination = .returned ∧ s.accepted = [requestOf 1] ∧
    (s.responses.map (·.2.metaData)).Perm (s.accepted.map (·.metaData)) := by
  have hok : Guarded (step (engineOf 1 Nat.one_pos)) LeavesNone
      (new (engineOf 1 Nat.one_pos) [] fun _ => [])
      (takeRequest ++ answerBatch ++ terminateLoop) := by decide +kernel
  exact ⟨_, rfl, rfl, rfl, answeredOnce [] (fun _ => []) hok rfl rfl⟩

/-- **A batch that is not full is dropped.** -/
theorem not_answeredOnce : ¬ ∀ (as : List HandlerAct) (s : EngineHandler),
    runFrom (step (engineOf 2 Nat.two_pos)) (new (engineOf 2 Nat.two_pos) [] fun _ => []) as =
      some s → s.termination = .returned →
    (s.responses.map (·.2.metaData)).Perm (s.accepted.map (·.metaData)) := by
  intro h
  have hperm := (h (takeRequest ++ terminateLoop) _ rfl rfl).length_eq
  cases hperm

end EngineHandler

end DetectBase
