import DetectBase.Engine.Answers

/-!
# Results of the inference that was asked for

`DoInference` logs what the calls of the runtime return and goes on. When a call fails,
`Postprocess` decodes what is there: the outputs of a run on other inputs, or a null pointer. When
all calls of an inference succeed, a response has no objects, or the objects that the network finds
in the batch that was set as its input just before, in which the image of the request is
(`DetectBase.EngineHandler.genuineResponses`).

Which inference a response was made of is not in the state of the handler. An account of the run
tells it (`DetectBase.EngineHandler.Account`).

The input buffers hold the images of the batch, in order, since a batch is never longer than the
number of buffers: it is handed to the device as soon as it is full, and cleared afterwards
(`DetectBase.EngineHandler.Current`).
-/

namespace DetectBase

/-- The thread collects a batch, or has ended. -/
def InferenceThread.collects : InferenceThread → Bool
  | .infer | .post | .respond _ | .crashed => false
  | _ => true

namespace EngineHandler

variable {κ : Type} {E : YoloV5 κ} {s s' : EngineHandler} {a : HandlerAct}

/-- An inference of which all calls have succeeded. -/
structure Inference where
  /-- The requests of the batch. -/
  batch : List InputLayerWrapper
  /-- The inputs that were set, and that the network was run on. -/
  inputs : List Buffer

/-- **The account of a run**: what the responses were made of. -/
structure Account where
  /-- The inference of the batch at hand, if its calls have succeeded. -/
  inference : Option Inference
  /-- The responses that were sent, each with the inference of the batch at hand. -/
  sent : List ((InputLayerWrapper × OutputLayerWrapper) × Option Inference)

/-- The inference of the batch at hand after a step. -/
def nextInference (E : YoloV5 κ) (s : EngineHandler) (i : Option Inference) :
    HandlerAct → Option Inference
  | .doInference (.done codes) =>
    if codes.inputsSet && codes.run && codes.outputsGet then
      some ⟨s.batch, s.buffers.rknnInputs.take E.batchSize⟩
    else none
  | .doInference _ => none
  | .respond =>
    match s.thread with
    -- the batch is cleared
    | .respond [] => none
    | _ => i
  | _ => i

/-- The account after a step from `s` to `s'`. -/
def Account.next (E : YoloV5 κ) (r : Account) (s : EngineHandler) (a : HandlerAct)
    (s' : EngineHandler) : Account where
  inference := nextInference E s r.inference a
  sent := r.sent ++ (s'.responses.drop s.responses.length).map (·, r.inference)

/-- The account of a run from the start. -/
def account (E : YoloV5 κ) (deviceInputs : List Buffer) (deviceOutputs : ℕ → Buffer)
    (as : List HandlerAct) : Account :=
  accountOf (step E) (Account.next E) ⟨none, []⟩ (new E deviceInputs deviceOutputs) as

/-- **The response is one to the request**: it has no objects, or those decoded from the outputs of
a successful run on the batch at hand, in whose inputs the image of the request is. -/
def Genuine (E : YoloV5 κ)
    (x : (InputLayerWrapper × OutputLayerWrapper) × Option Inference) : Prop :=
  x.1.2.inferObjects = [] ∨
    ∃ i, x.2 = some i ∧ x.1.1 ∈ i.batch ∧ i.inputs = i.batch.map E.inputOf ∧
      x.1.2.inferObjects = E.decode (E.network i.inputs)

/-- **The calls of an inference succeed.** -/
def CallsSucceed (_ : EngineHandler) : HandlerAct → Prop
  | .doInference (.done codes) =>
    codes.inputsSet = true ∧ codes.run = true ∧ codes.outputsGet = true
  | _ => True

instance (s : EngineHandler) : ∀ a, Decidable (s.CallsSucceed a)
  | .doInference (.done _) => inferInstanceAs (Decidable (_ ∧ _ ∧ _))
  | .doInference .threw | .doInference .failed | .requestAsync .. | .checkSize _ | .place _
  | .initializeDevice _ | .loop | .dequeue | .preprocess _ | .postprocess _ | .respond
  | .terminateEngine | .stop | .close | .flush | .respondFlushed | .join | .release =>
    isTrue trivial

/-- **What the buffers hold**, when the calls of every inference succeed. -/
structure Current (E : YoloV5 κ) (s : EngineHandler) : Prop where
  /-- The images of the batch are in the input buffers. -/
  filled : s.buffers.rknnInputs.take s.batch.length = s.batch.map E.inputOf
  /-- There is a free buffer for the next image. -/
  collecting : s.thread.collects = true → s.batch.length < E.batchSize
  /-- An inference is done on a full batch. -/
  full : s.thread = .infer ∨ s.thread = .post → s.batch.length = E.batchSize
  /-- The outputs are those of a run on the batch. -/
  fetched : s.thread = .post →
    s.buffers.rknnOutputs = fun i => some (E.network (s.batch.map E.inputOf) i)
  /-- No null pointer has been read. -/
  alive : s.thread ≠ .crashed

theorem current_new (deviceInputs : List Buffer) (deviceOutputs : ℕ → Buffer) :
    (new E deviceInputs deviceOutputs).Current E where
  filled := rfl
  collecting := fun _ => E.batchSize_pos
  full := by simp [new]
  fetched := by simp [new]
  alive := by simp [new]

/-- A step that leaves the thread and its buffers alone. -/
theorem Current.frame (h : s.Current E) (hbuffers : s'.buffers = s.buffers)
    (hbatch : s'.batch = s.batch) (hthread : s'.thread = s.thread) : s'.Current E where
  filled := by
    rw [hbuffers, hbatch]
    exact h.filled
  collecting := by
    rw [hbatch, hthread]
    exact h.collecting
  full := by
    rw [hbatch, hthread]
    exact h.full
  fetched := by
    rw [hbuffers, hbatch, hthread]
    exact h.fetched
  alive := by
    rw [hthread]
    exact h.alive

/-- The thread goes on collecting. -/
theorem Current.collect (h : s.Current E) {t : InferenceThread} {b : Bool}
    {q : SafeQueue InputLayerWrapper} {responses : List (InputLayerWrapper × OutputLayerWrapper)}
    (hthread : s.thread.collects = true) (ht : t.collects = true) :
    ({ s with thread := t, isRunning := b, requestQ := q, responses := responses } :
      EngineHandler).Current E where
  filled := h.filled
  collecting := fun _ => h.collecting hthread
  full := by
    rintro (rfl | rfl)
    · cases ht
    · cases ht
  fetched := by
    rintro rfl
    cases ht
  alive := by
    rintro rfl
    cases ht

/-- The thread has responses to send. -/
theorem Current.responding (h : s.Current E)
    (responses rest : List (InputLayerWrapper × OutputLayerWrapper)) :
    ({ s with responses := responses, thread := .respond rest } : EngineHandler).Current E where
  filled := h.filled
  collecting := by simp [InferenceThread.collects]
  full := by simp
  fetched := by simp
  alive := by simp

/-- **`Preprocess` copies the image into the next buffer.** -/
theorem Current.preprocess (h : s.Current E) (haccounts : s.Accounts E)
    {throws : Option PreprocessThrow} {r : InputLayerWrapper} {ready : Option Bool}
    {m : YoloV5.Buffers} {batch : List InputLayerWrapper} (hthread : s.thread = .preprocess r)
    (hpre : E.preprocess s.buffers s.batch r throws = (ready, m, batch)) :
    ({ s with
      buffers := m
      batch := batch
      thread := afterPreprocess r s.batch.length batch.length ready } :
        EngineHandler).Current E := by
  have hroom : s.batch.length < E.batchSize := h.collecting (by rw [hthread]; rfl)
  have hidx : s.batch.length % E.batchSize = s.batch.length := Nat.mod_eq_of_lt hroom
  have hbuf : s.batch.length < s.buffers.rknnInputs.length := by
    rw [haccounts.buffers]
    exact hroom
  have hcases := YoloV5.preprocess_cases s.batch (haccounts.preprocessing r hthread)
    haccounts.buffers throws
  rw [hpre, hidx] at hcases
  obtain ⟨rfl, rfl, hm⟩ | hcases := hcases
  · have hnext : afterPreprocess r s.batch.length s.batch.length none = .refuse r := by
      rw [afterPreprocess, if_pos rfl]
    rw [hnext]
    refine ⟨?_, fun _ => hroom, by simp, by simp, by simp⟩
    obtain rfl | rfl := hm
    · exact h.filled
    · dsimp only
      rw [List.take_set_of_le (Nat.le_refl _)]
      exact h.filled
  · cases hcases
    have hfilled : (s.buffers.rknnInputs.set s.batch.length (E.inputOf r)).take
        (s.batch ++ [r]).length = (s.batch ++ [r]).map E.inputOf := by
      rw [List.length_append, List.length_singleton, List.take_add_one,
        List.take_set_of_le (Nat.le_refl _), h.filled, List.getElem?_set_self hbuf, List.map_append]
      rfl
    have hlength : (s.batch ++ [r]).length = s.batch.length + 1 := List.length_append
    by_cases hfull : E.batchSize ≤ s.batch.length + 1
    · have hnext : afterPreprocess r s.batch.length (s.batch ++ [r]).length
          (some (decide (E.batchSize ≤ s.batch.length + 1))) = .infer := by
        rw [decide_eq_true hfull]
        rfl
      rw [hnext]
      refine ⟨hfilled, by simp [InferenceThread.collects], fun _ => ?_, by simp, by simp⟩
      show (s.batch ++ [r]).length = _
      omega
    · have hnext : afterPreprocess r s.batch.length (s.batch ++ [r]).length
          (some (decide (E.batchSize ≤ s.batch.length + 1))) = .test := by
        rw [decide_eq_false hfull]
        rfl
      rw [hnext]
      refine ⟨hfilled, fun _ => ?_, by simp, by simp, by simp⟩
      show (s.batch ++ [r]).length < _
      omega

/-- The inputs of an inference are the images of its batch. -/
theorem Current.inputs (h : s.Current E) (hthread : s.thread = .infer) :
    s.buffers.rknnInputs.take E.batchSize = s.batch.map E.inputOf := by
  rw [← h.full (.inl hthread), h.filled]

/-- **When its calls succeed, `DoInference` fetches the outputs of a run on the batch.** -/
theorem Current.infer (h : s.Current E) {codes : RknnCodes} (hthread : s.thread = .infer)
    (hcodes : codes.inputsSet = true ∧ codes.run = true ∧ codes.outputsGet = true) :
    ({ s with buffers := (E.doInference s.buffers codes).2, thread := .post } :
      EngineHandler).Current E := by
  obtain ⟨hset, hran, hget⟩ := hcodes
  refine ⟨h.filled, by simp [InferenceThread.collects], fun _ => h.full (.inl hthread),
    fun _ => ?_, by simp⟩
  show (E.doInference s.buffers codes).2.rknnOutputs = _
  simp only [YoloV5.doInference, hset, hran, hget, if_true, h.inputs hthread]

/-- **`Postprocess` decodes these outputs.** -/
theorem Current.postprocess (h : s.Current E) (hthread : s.thread = .post) :
    E.postprocess s.buffers s.batch = some (s.batch.map fun r =>
      (r, ⟨r.metaData, E.handleUuid, E.decode (E.network (s.batch.map E.inputOf))⟩)) := by
  have hfull := h.full (.inr hthread)
  have hne : s.batch ≠ [] := by
    intro hnil
    have := E.batchSize_pos
    rw [hnil, List.length_nil] at hfull
    omega
  obtain ⟨raw, hraw⟩ := Option.isSome_iff_exists.mp
    (YoloV5.rawResults_isSome (E := E) (E.network (s.batch.map E.inputOf)))
  rw [YoloV5.postprocess, if_neg hne, h.fetched hthread, YoloV5.decode, hraw]
  rfl

/-- **Every step keeps the buffers current**, if the calls of an inference succeed. -/
theorem current_step (h : s.Current E) (haccounts : s.Accounts E) (hok : s.CallsSucceed a)
    (hs : step E s a = some s') : s'.Current E := by
  cases handlerStep_of_step hs with
  | requestAsync | checkSize | place | terminateEngine | stop | stopped | close | flush | flushed
  | join | release | respondFlushed => exact h.frame rfl rfl rfl
  | initializeDevice hthread | loop hthread | exit hthread | dequeue hthread | timeout hthread
  | refuse hthread => exact h.collect (by rw [hthread]; rfl) rfl
  | preprocess hthread hpre => exact h.preprocess haccounts hthread hpre
  | infer hthread => exact h.infer hthread hok
  | inferFails | postFails | post | respond => exact h.responding _ _
  | crash hthread hpost =>
    rw [h.postprocess hthread] at hpost
    cases hpost
  | clear => exact ⟨rfl, fun _ => E.batchSize_pos, by simp, by simp, by simp⟩

/-! ### The account of a run -/

/-- **What the account says**, when the calls of every inference succeed. -/
structure Account.Vouches (E : YoloV5 κ) (r : Account) (s : EngineHandler) : Prop where
  /-- It has the responses of the handler. -/
  responses : r.sent.map (·.1) = s.responses
  /-- They are genuine. -/
  genuine : ∀ x ∈ r.sent, Genuine E x
  /-- What is going to be sent is genuine. -/
  sends : ∀ x ∈ s.thread.sends, Genuine E (x, r.inference)
  /-- The outputs are those of an inference of the batch. -/
  fetched : s.thread = .post → r.inference = some ⟨s.batch, s.batch.map E.inputOf⟩

theorem genuine_failureOf (r : InputLayerWrapper) (i : Option Inference) :
    Genuine E (failureOf E r, i) := .inl rfl

theorem genuine_failures (batch : List InputLayerWrapper) (i : Option Inference) :
    ∀ x ∈ batch.map (failureOf E), Genuine E (x, i) := by
  intro x hx
  obtain ⟨r, -, rfl⟩ := List.mem_map.mp hx
  exact genuine_failureOf r i

/-- After `Preprocess` the thread has nothing to send. -/
theorem sends_afterPreprocess (r : InputLayerWrapper) (prevSize size : ℕ) (ready : Option Bool) :
    (afterPreprocess r prevSize size ready).sends = [] ∧
      afterPreprocess r prevSize size ready ≠ .post := by
  unfold afterPreprocess
  split
  · split_ifs <;> exact ⟨rfl, nofun⟩
  · exact ⟨rfl, nofun⟩
  · exact ⟨rfl, nofun⟩

/-- A step that sends some responses. -/
theorem Account.Vouches.next {r : Account} (h : r.Vouches E s)
    {xs : List (InputLayerWrapper × OutputLayerWrapper)}
    (hresponses : s'.responses = s.responses ++ xs) (hxs : ∀ x ∈ xs, Genuine E (x, r.inference))
    (hsends : ∀ x ∈ s'.thread.sends, Genuine E (x, (r.next E s a s').inference))
    (hfetched : s'.thread = .post →
      (r.next E s a s').inference = some ⟨s'.batch, s'.batch.map E.inputOf⟩) :
    (r.next E s a s').Vouches E s' := by
  have hsent : (r.next E s a s').sent = r.sent ++ xs.map (·, r.inference) := by
    rw [Account.next, hresponses, List.drop_left]
  refine ⟨?_, ?_, hsends, hfetched⟩
  · rw [hsent, List.map_append, h.responses, hresponses, List.map_map]
    exact congrArg (s.responses ++ ·) (List.map_id xs)
  · rw [hsent]
    intro x hx
    obtain hx | hx := List.mem_append.mp hx
    · exact h.genuine x hx
    · obtain ⟨y, hy, rfl⟩ := List.mem_map.mp hx
      exact hxs y hy

/-- **Every step keeps what the account says**, if the calls of an inference succeed. -/
theorem Account.Vouches.step {r : Account} (h : r.Vouches E s) (hcurrent : s.Current E)
    (hok : s.CallsSucceed a) (hs : EngineHandler.step E s a = some s') :
    (r.next E s a s').Vouches E s' := by
  have hnone : ∀ x ∈ ([] : List (InputLayerWrapper × OutputLayerWrapper)),
      Genuine E (x, r.inference) := by simp
  cases handlerStep_of_step hs with
  | requestAsync | checkSize | place | terminateEngine | stop | stopped | close | flush | flushed
  | join | release =>
    exact h.next (List.append_nil _).symm hnone h.sends h.fetched
  | respondFlushed =>
    exact h.next rfl (List.forall_mem_singleton.mpr (genuine_failureOf _ _)) h.sends h.fetched
  | initializeDevice | loop | exit | dequeue | timeout =>
    exact h.next (List.append_nil _).symm hnone (by simp [InferenceThread.sends]) (by simp)
  | preprocess hthread hpre =>
    obtain ⟨hsends, hpost⟩ := sends_afterPreprocess _ _ _ _
    exact h.next (List.append_nil _).symm hnone (by rw [hsends]; simp) fun ht => absurd ht hpost
  | refuse hthread =>
    exact h.next rfl (List.forall_mem_singleton.mpr (genuine_failureOf _ _))
      (by simp [InferenceThread.sends]) (by simp)
  | infer hthread =>
    refine h.next (List.append_nil _).symm hnone (by simp [InferenceThread.sends]) fun _ => ?_
    obtain ⟨hset, hran, hget⟩ := hok
    rw [Account.next, nextInference, hset, hran, hget, hcurrent.inputs hthread]
    rfl
  | inferFails | postFails =>
    exact h.next (List.append_nil _).symm hnone (genuine_failures s.batch _) (by simp)
  | post hthread hpost =>
    rw [hcurrent.postprocess hthread] at hpost
    cases hpost
    refine h.next (List.append_nil _).symm hnone (fun x hx => ?_) (by simp)
    obtain ⟨request, hrequest, rfl⟩ := List.mem_map.mp hx
    exact .inr ⟨_, h.fetched hthread, hrequest, rfl, rfl⟩
  | crash hthread hpost =>
    rw [hcurrent.postprocess hthread] at hpost
    cases hpost
  | @respond x rest hthread =>
    have hsends := h.sends
    rw [hthread] at hsends
    obtain ⟨hx, hrest⟩ := List.forall_mem_cons.mp hsends
    have hinference : (r.next E s .respond
        { s with responses := s.responses ++ [x], thread := .respond rest }).inference =
          r.inference := by
      rw [Account.next, nextInference, hthread]
    exact h.next rfl (List.forall_mem_singleton.mpr hx) (by rw [hinference]; exact hrest) (by simp)
  | clear hthread =>
    exact h.next (List.append_nil _).symm hnone (by simp [InferenceThread.sends]) (by simp)

/-- **No result from a failed inference**: in every run in which the calls of each inference
succeed, all responses are genuine, and no null pointer is read. -/
theorem genuineResponses (deviceInputs : List Buffer) (deviceOutputs : ℕ → Buffer)
    {as : List HandlerAct} {s : EngineHandler}
    (hok : Guarded (step E) CallsSucceed (new E deviceInputs deviceOutputs) as)
    (hrun : runFrom (step E) (new E deviceInputs deviceOutputs) as = some s) :
    (account E deviceInputs deviceOutputs as).sent.map (·.1) = s.responses ∧
      (∀ x ∈ (account E deviceInputs deviceOutputs as).sent, Genuine E x) ∧
      s.thread ≠ .crashed := by
  have hnew : (⟨none, []⟩ : Account).Vouches E (new E deviceInputs deviceOutputs) :=
    ⟨rfl, by simp, by simp [new, InferenceThread.sends], by simp [new]⟩
  have hstep : ∀ s (r : Account) a s', (s.Accounts E ∧ s.Current E ∧ r.Vouches E s) →
      s.CallsSucceed a → step E s a = some s' →
      s'.Accounts E ∧ s'.Current E ∧ (r.next E s a s').Vouches E s' := by
    rintro s r a s' ⟨haccounts, hcurrent, hvouches⟩ hok hs
    exact ⟨accounts_step haccounts hs, current_step hcurrent haccounts hok hs,
      hvouches.step hcurrent hok hs⟩
  obtain ⟨-, hcurrent, hvouches⟩ := Guarded.account (Account.next E) hstep hok
    ⟨accounts_new deviceInputs deviceOutputs, current_new deviceInputs deviceOutputs, hnew⟩ hrun
  exact ⟨hvouches.responses, hvouches.genuine, hcurrent.alive⟩

/-- A detection. -/
def someDetection : Detection :=
  let zero := Extended.zero binary32
  ⟨⟨zero, zero, zero, zero⟩, zero, zero⟩

/-- An engine that finds an object for each byte of the image that is not 0. -/
def brightEngine : YoloV5 UInt8 where
  handleUuid := (1, 0)
  batchSize := 1
  batchSize_pos := Nat.one_pos
  outputIndexNum := 2
  modelW := 32
  modelH := 32
  modelC := 3
  network := fun inputs _ => (inputs.headD []).filter (· ≠ 0)
  candidates := fun stride output => if stride = 8 then output else []
  emit := fun candidates => candidates.map fun _ => someDetection

/-- A request with an image of one byte. -/
def imageRequest (byte : UInt8) : InputLayerWrapper := ⟨⟨5, 1, 32, 32, 1⟩, some [byte]⟩

/-- A request goes through an inference whose calls return the given codes. -/
def serveRequest (call : ℕ) (byte : UInt8) (codes : RknnCodes) : List HandlerAct :=
  [.requestAsync call (imageRequest byte), .checkSize call, .place call, .loop, .dequeue,
    .preprocess none, .doInference (.done codes), .postprocess false, .respond, .respond]

/-- Two inferences that succeed. -/
theorem genuineResponses_twoRequests : ∃ s,
    runFrom (step brightEngine) (new brightEngine [] fun _ => [])
      (.initializeDevice true :: serveRequest 0 1 ⟨true, true, true⟩ ++
        serveRequest 1 0 ⟨true, true, true⟩) = some s ∧
    s.responses.map (·.2.inferObjects.length) = [1, 0] ∧
    (account brightEngine [] (fun _ => []) (.initializeDevice true ::
      serveRequest 0 1 ⟨true, true, true⟩ ++ serveRequest 1 0 ⟨true, true, true⟩)).sent.map (·.1) =
        s.responses ∧
    (∀ x ∈ (account brightEngine [] (fun _ => []) (.initializeDevice true ::
      serveRequest 0 1 ⟨true, true, true⟩ ++ serveRequest 1 0 ⟨true, true, true⟩)).sent,
      Genuine brightEngine x) ∧ s.thread ≠ .crashed := by
  have hok : Guarded (step brightEngine) CallsSucceed (new brightEngine [] fun _ => [])
      (.initializeDevice true :: serveRequest 0 1 ⟨true, true, true⟩ ++
        serveRequest 1 0 ⟨true, true, true⟩) := by decide +kernel
  exact ⟨_, rfl, rfl, genuineResponses [] (fun _ => []) hok rfl⟩

/-- **A run that fails gives the objects of the run before it.** -/
theorem not_genuineResponses : ¬ ∀ (as : List HandlerAct) (s : EngineHandler),
    runFrom (step brightEngine) (new brightEngine [] fun _ => []) as = some s →
    (account brightEngine [] (fun _ => []) as).sent.map (·.1) = s.responses ∧
      (∀ x ∈ (account brightEngine [] (fun _ => []) as).sent, Genuine brightEngine x) ∧
      s.thread ≠ .crashed := by
  intro h
  have hgenuine := (h (.initializeDevice true :: serveRequest 0 1 ⟨true, true, true⟩ ++
    serveRequest 1 0 ⟨true, false, true⟩) _ rfl).2.1
    ((imageRequest 0,
      ⟨(imageRequest 0).metaData, (1, 0), [brightEngine.toInferObject someDetection]⟩), none)
    (List.mem_cons_of_mem _ List.mem_cons_self)
  obtain hnone | ⟨i, hi, -⟩ := hgenuine
  · cases hnone
  · cases hi

end EngineHandler

end DetectBase
