import DetectBase.Engine.Npu
import DetectBase.Foundations.Transition
import Mathlib.Logic.Function.Basic

/-!
# The engines in rotation

`ActivateEngine` enters the queue of a handler into the tables of the load balancer before it loads
the model, and nothing takes it out again: not `ActivateEngine` when the model cannot be loaded, not
the inference thread when it has got no device, and not `TerminateEngine`. The load balancer goes on
handing requests to a queue that nobody reads, and a second `ActivateEngine` is refused, as the
handle is there already.

Whenever a handler that was linked gets a thread that runs, and is not terminated while its queue is
in the tables, every handle in the tables belongs to a handler that works
(`DetectBase.EngineRotation.noneDead`).

A call is one step here. Calls for different handlers meet only in `Linker`, which is one critical
section.
-/

namespace DetectBase

/-- The inference thread of a handler. -/
inductive EngineThread where
  /-- It has not been started. -/
  | notStarted : EngineThread
  /-- It is in `InitializeDevice`. -/
  | starting : EngineThread
  /-- It reads the queue. -/
  | looping : EngineThread
  /-- It has ended. -/
  | ended : EngineThread
deriving DecidableEq

/-- An `EngineHandlerBase`. -/
structure HandlerState where
  /-- `engine_linker_` is set. -/
  engineLinker : Bool
  /-- `request_q_`. -/
  requestQ : Option ℕ
  /-- `is_activate_handler_`. -/
  isActivateHandler : Bool
  /-- `is_running_` of `inference_thread_`. -/
  isRunning : Bool
  /-- `InferenceThreadRunner`. -/
  thread : EngineThread
deriving DecidableEq

/-- How the parts of `ActivateEngine` end that can fail. -/
structure ActivateOutcome where
  /-- The linker throws. -/
  linkerThrows : Bool
  /-- `LoadModelEngineFile`. -/
  loadModelEngineFile : Bool
  /-- `AllocateBuffers`. -/
  allocateBuffers : Bool
deriving DecidableEq

/-- The handlers of a service, and the profiles its load balancer knows. -/
structure EngineSetup where
  /-- `GetEngineHandleUUID` of a handler. -/
  uuidOf : ℕ → EngineHandleUUID
  /-- The keys of `engine_profiles_`. -/
  engineProfiles : List InferEngineID

/-- The tables of the load balancer, and the handlers. -/
structure EngineRotation where
  /-- `is_terminate_instance_`. -/
  isTerminateInstance : Bool
  /-- `engine_input_qs_`. -/
  engineInputQs : EngineHandleUUID → Option ℕ
  /-- `engine_handles_`. -/
  engineHandles : List EngineHandleUUID
  /-- The handlers. -/
  handlers : ℕ → HandlerState
  /-- How many queues were made. -/
  queueCount : ℕ

/-- A call, or what happens in a thread. -/
inductive RotationAct where
  /-- `SetEngineLinker`. -/
  | setEngineLinker (i : ℕ) : RotationAct
  /-- `ActivateEngine`. -/
  | activateEngine (i : ℕ) (o : ActivateOutcome) : RotationAct
  /-- `InitializeDevice` returns in the inference thread. -/
  | initializeDevice (i : ℕ) (ok : Bool) : RotationAct
  /-- `TerminateEngine`. -/
  | terminateEngine (i : ℕ) : RotationAct
  /-- `EngineLoadBalancer::Terminate` sets its flag. -/
  | terminate : RotationAct
  /-- `EngineLoadBalancer::Terminate` clears the tables. -/
  | clearTables : RotationAct

namespace EngineRotation

variable (P : EngineSetup)

/-- Before anything has been activated. -/
def new : EngineRotation where
  isTerminateInstance := false
  engineInputQs := fun _ => none
  engineHandles := []
  handlers := fun _ => ⟨false, none, false, false, .notStarted⟩
  queueCount := 0

/-- The handler `i` becomes `x`. -/
def setHandler (s : EngineRotation) (i : ℕ) (x : HandlerState) : EngineRotation :=
  { s with handlers := Function.update s.handlers i x }

/-- **`EngineLoadBalancer::Linker`**, or nothing when it returns a null pointer. -/
def linker (s : EngineRotation) (u : EngineHandleUUID) (q : ℕ) : Option EngineRotation :=
  if s.isTerminateInstance then none
  -- a handle that is linked already is rejected
  else if (s.engineInputQs u).isSome then none
  else if u.1 ∉ P.engineProfiles then none
  else
    some { s with
      engineInputQs := Function.update s.engineInputQs u (some q)
      engineHandles := s.engineHandles ++ [u] }

/-- **`Link`**. -/
def link (s : EngineRotation) (i : ℕ) (throws : Bool) : Bool × EngineRotation :=
  let x := s.handlers i
  if x.engineLinker = false then (false, s)
  else
    let s₁ := { s with queueCount := s.queueCount + 1 }
    match if throws then none else linker P s₁ (P.uuidOf i) s.queueCount with
    | some s₂ => (true, s₂.setHandler i { x with requestQ := some s.queueCount })
    | none => (false, s₁.setHandler i { x with requestQ := none, engineLinker := false })

/-- `SafeThread::Start`, and `is_activate_handler_.store( true )`. -/
def start (s : EngineRotation) (i : ℕ) : EngineRotation :=
  let x := s.handlers i
  s.setHandler i { x with
    isRunning := true
    thread := if x.isRunning then x.thread else .starting
    isActivateHandler := true }

/-- **`ActivateEngine`**. -/
def activateEngine (s : EngineRotation) (i : ℕ) (o : ActivateOutcome) : Bool × EngineRotation :=
  if (s.handlers i).isActivateHandler then (true, s)
  else if (s.handlers i).engineLinker = false then (false, s)
  else
    match link P s i o.linkerThrows with
    | (false, s₁) => (false, s₁)
    | (true, s₁) =>
      if o.loadModelEngineFile = false then (false, s₁)
      else if o.allocateBuffers = false then (false, s₁)
      else (true, s₁.start i)

/-- **`TerminateEngine`**. A thread that has ended by itself is not joined. -/
def terminateEngine (s : EngineRotation) (i : ℕ) : EngineRotation :=
  let x := s.handlers i
  if x.isActivateHandler then
    s.setHandler i { x with
      isActivateHandler := false
      isRunning := false
      thread := .ended
      requestQ := none
      engineLinker := false }
  else s

/-- **A step.** -/
def step (s : EngineRotation) : RotationAct → Option EngineRotation
  | .setEngineLinker i => some (s.setHandler i { s.handlers i with engineLinker := true })
  | .activateEngine i o => some (s.activateEngine P i o).2
  | .initializeDevice i ok =>
    match (s.handlers i).thread with
    | .starting =>
      if ok then some (s.setHandler i { s.handlers i with thread := .looping })
      else some (s.setHandler i { s.handlers i with thread := .ended, isRunning := false })
    | _ => none
  | .terminateEngine i => some (s.terminateEngine i)
  | .terminate => some { s with isTerminateInstance := true }
  | .clearTables =>
    if s.isTerminateInstance then
      some { s with engineInputQs := fun _ => none, engineHandles := [] }
    else none

end EngineRotation

/-! ### What is wanted of the tables -/

/-- **The handler works**: its thread runs and reads the queue. -/
structure HandlerState.Works (x : HandlerState) (q : ℕ) : Prop where
  /-- The queue is that of the handler. -/
  requestQ : x.requestQ = some q
  /-- The handler has been activated. -/
  active : x.isActivateHandler = true
  /-- The thread has not been told to stop. -/
  running : x.isRunning = true
  /-- The thread has not ended. -/
  thread : x.thread = .starting ∨ x.thread = .looping

namespace EngineRotation

variable (P : EngineSetup)

/-- The handle is in one of the tables. -/
def InTables (s : EngineRotation) (u : EngineHandleUUID) : Prop :=
  u ∈ s.engineHandles ∨ (s.engineInputQs u).isSome

/-- The queue of the handler is in the tables. -/
def IsLinked (s : EngineRotation) (i : ℕ) : Prop :=
  (s.handlers i).requestQ.isSome ∧ s.engineInputQs (P.uuidOf i) = (s.handlers i).requestQ

/-- `ActivateEngine` gets the handler into the tables. -/
def Links (s : EngineRotation) (i : ℕ) (o : ActivateOutcome) : Prop :=
  (s.handlers i).isActivateHandler = false ∧ (s.handlers i).engineLinker = true ∧
    o.linkerThrows = false ∧ s.isTerminateInstance = false ∧
    s.engineInputQs (P.uuidOf i) = none ∧ (P.uuidOf i).1 ∈ P.engineProfiles

/-- **A handler in the tables is kept alive**: once linked, it is activated to the end and gets its
device, and it is not terminated. -/
def KeptAlive (s : EngineRotation) : RotationAct → Prop
  | .activateEngine i o =>
    s.Links P i o → o.loadModelEngineFile = true ∧ o.allocateBuffers = true
  | .initializeDevice i ok => s.IsLinked P i → ok = true
  | .terminateEngine i => s.IsLinked P i → (s.handlers i).isActivateHandler = false
  | _ => True

instance (s : EngineRotation) : ∀ a, Decidable (s.KeptAlive P a)
  | .activateEngine _ _ => inferInstanceAs (Decidable (_ ∧ _ ∧ _ ∧ _ ∧ _ ∧ _ → _ ∧ _))
  | .initializeDevice _ _ => inferInstanceAs (Decidable (_ ∧ _ → _))
  | .terminateEngine _ => inferInstanceAs (Decidable (_ ∧ _ → _))
  | .setEngineLinker _ | .terminate | .clearTables => isTrue trivial

/-- **No dead engine is in rotation**, in a run that has led to the given state. -/
structure NoneDead (as : List RotationAct) (s : EngineRotation) : Prop where
  /-- A handle in the tables belongs to a handler that works, on the queue in the table. -/
  works : ∀ u, s.InTables u →
    ∃ i q, P.uuidOf i = u ∧ s.engineInputQs u = some q ∧ (s.handlers i).Works q
  /-- A call of `ActivateEngine` that fails leaves the tables as they were. -/
  failed : ∀ pre i o post s₁, as = pre ++ .activateEngine i o :: post →
    runFrom (step P) new pre = some s₁ → (s₁.activateEngine P i o).1 = false →
    (s₁.activateEngine P i o).2.engineInputQs = s₁.engineInputQs ∧
      (s₁.activateEngine P i o).2.engineHandles = s₁.engineHandles

/-! ### The steps keep the tables alive -/

variable {P} {s s' : EngineRotation} {i : ℕ} {o : ActivateOutcome}

/-- **What holds between the calls**, when the handlers in the tables are kept alive. -/
structure Alive (P : EngineSetup) (s : EngineRotation) : Prop where
  /-- A queue in the table is that of a handler that works. -/
  works : ∀ u q, s.engineInputQs u = some q → ∃ i, P.uuidOf i = u ∧ (s.handlers i).Works q
  /-- The handles have queues. -/
  handles : ∀ u ∈ s.engineHandles, (s.engineInputQs u).isSome
  /-- A handler that is not active has no thread that runs. -/
  stopped : ∀ i, (s.handlers i).isActivateHandler = false → (s.handlers i).isRunning = false

theorem alive_new : Alive P new := by
  constructor <;> simp [new]

/-- A handler that goes on working, or that was not in the tables. -/
theorem Alive.setHandler (h : s.Alive P) {x : HandlerState}
    (hkeep : ∀ q, (s.handlers i).Works q → s.engineInputQs (P.uuidOf i) = some q → x.Works q)
    (hstopped : x.isActivateHandler = false → x.isRunning = false) :
    (s.setHandler i x).Alive P := by
  refine ⟨fun u q hq => ?_, h.handles, fun j => ?_⟩
  · obtain ⟨j, hj, hworks⟩ := h.works u q hq
    refine ⟨j, hj, ?_⟩
    show (Function.update s.handlers i x j).Works q
    by_cases hji : j = i
    · subst hji
      rw [Function.update_self]
      exact hkeep q hworks (by rw [hj]; exact hq)
    · rw [Function.update_of_ne hji]
      exact hworks
  · show (Function.update s.handlers i x j).isActivateHandler = false →
      (Function.update s.handlers i x j).isRunning = false
    by_cases hji : j = i
    · rw [hji, Function.update_self]
      exact hstopped
    · rw [Function.update_of_ne hji]
      exact h.stopped j

/-- The handler that `ActivateEngine` has linked and started. -/
def started (P : EngineSetup) (s : EngineRotation) (i : ℕ) : EngineRotation :=
  ({ s with
    queueCount := s.queueCount + 1
    engineInputQs := Function.update s.engineInputQs (P.uuidOf i) (some s.queueCount)
    engineHandles := s.engineHandles ++ [P.uuidOf i] } : EngineRotation).setHandler i
    { s.handlers i with
      requestQ := some s.queueCount
      isRunning := true
      thread := if (s.handlers i).isRunning then (s.handlers i).thread else .starting
      isActivateHandler := true }

theorem engineInputQs_started : (s.started P i).engineInputQs =
    Function.update s.engineInputQs (P.uuidOf i) (some s.queueCount) := rfl

theorem handlers_started : (s.started P i).handlers = Function.update s.handlers i
    { s.handlers i with
      requestQ := some s.queueCount
      isRunning := true
      thread := if (s.handlers i).isRunning then (s.handlers i).thread else .starting
      isActivateHandler := true } := rfl

theorem linker_eq_some {u : EngineHandleUUID} (q : ℕ) (hterm : s.isTerminateInstance = false)
    (hfree : s.engineInputQs u = none) (hprofile : u.1 ∈ P.engineProfiles) :
    linker P s u q = some { s with
      engineInputQs := Function.update s.engineInputQs u (some q)
      engineHandles := s.engineHandles ++ [u] } := by
  rw [linker, if_neg (by simp [hterm]), if_neg (by simp [hfree]), if_neg (by simpa using hprofile)]

theorem linker_eq_none {u : EngineHandleUUID} (q : ℕ)
    (h : s.isTerminateInstance = false → s.engineInputQs u = none → u.1 ∉ P.engineProfiles) :
    linker P s u q = none := by
  rw [linker]
  split_ifs with hterm hlinked hprofile
  · rfl
  · rfl
  · exact absurd hprofile (h (by simpa using hterm) (by simpa using hlinked))
  · rfl

/-- **`Link` succeeds exactly when the handler gets into the tables.** -/
theorem link_eq (hlinker : (s.handlers i).engineLinker = true)
    (hactive : (s.handlers i).isActivateHandler = false) :
    s.Links P i o ∧ link P s i o.linkerThrows =
        (true, ({ s with
          queueCount := s.queueCount + 1
          engineInputQs := Function.update s.engineInputQs (P.uuidOf i) (some s.queueCount)
          engineHandles := s.engineHandles ++ [P.uuidOf i] } : EngineRotation).setHandler i
          { s.handlers i with requestQ := some s.queueCount }) ∨
      ¬ s.Links P i o ∧ link P s i o.linkerThrows =
        (false, ({ s with queueCount := s.queueCount + 1 } : EngineRotation).setHandler i
          { s.handlers i with requestQ := none, engineLinker := false }) := by
  unfold link
  rw [if_neg (by simp [hlinker])]
  dsimp only
  by_cases hlinks : s.Links P i o
  · obtain ⟨-, -, hthrows, hterm, hfree, hprofile⟩ := id hlinks
    refine .inl ⟨hlinks, ?_⟩
    rw [if_neg (by simp [hthrows]),
      linker_eq_some (s := { s with queueCount := s.queueCount + 1 }) _ hterm hfree hprofile]
  · refine .inr ⟨hlinks, ?_⟩
    cases hthrows : o.linkerThrows with
    | true => rfl
    | false =>
      rw [if_neg (by simp), linker_eq_none]
      intro hterm hfree hprofile
      exact hlinks ⟨hactive, hlinker, hthrows, hterm, hfree, hprofile⟩

/-- **What `ActivateEngine` does**: nothing; or the handler stays out of the tables; or it is linked
and, when the model can be loaded, started. -/
theorem activateEngine_cases (s : EngineRotation) (i : ℕ) (o : ActivateOutcome) :
    (∃ b, s.activateEngine P i o = (b, s)) ∨
      ((s.handlers i).isActivateHandler = false ∧ s.activateEngine P i o =
        (false, ({ s with queueCount := s.queueCount + 1 } : EngineRotation).setHandler i
          { s.handlers i with requestQ := none, engineLinker := false })) ∨
      s.Links P i o ∧ (o.loadModelEngineFile = true → o.allocateBuffers = true →
        s.activateEngine P i o = (true, s.started P i)) := by
  unfold activateEngine
  cases hactive : (s.handlers i).isActivateHandler with
  | true => exact .inl ⟨true, rfl⟩
  | false =>
    cases hlinker : (s.handlers i).engineLinker with
    | false => exact .inl ⟨false, rfl⟩
    | true =>
      obtain ⟨hlinks, hlink⟩ | ⟨-, hlink⟩ := link_eq (P := P) (o := o) hlinker hactive
      · refine .inr (.inr ⟨hlinks, fun hload halloc => ?_⟩)
        rw [hlink, hload, halloc]
        simp [start, started, EngineRotation.setHandler]
      · rw [hlink]
        exact .inr (.inl ⟨rfl, rfl⟩)

/-- The handler that has been started is in the tables, and works. -/
theorem Alive.started (h : s.Alive P) (hlinks : s.Links P i o) : (s.started P i).Alive P := by
  have hrunning := h.stopped i hlinks.1
  refine ⟨fun u q hq => ?_, fun u hu => ?_, fun j => ?_⟩
  · rw [engineInputQs_started] at hq
    by_cases hu : u = P.uuidOf i
    · rw [hu, Function.update_self, Option.some.injEq] at hq
      refine ⟨i, hu.symm, ?_⟩
      rw [handlers_started, Function.update_self, hrunning]
      exact ⟨by rw [← hq], rfl, rfl, .inl rfl⟩
    · rw [Function.update_of_ne hu] at hq
      obtain ⟨j, hj, hworks⟩ := h.works u q hq
      have hji : j ≠ i := by
        rintro rfl
        exact hu hj.symm
      refine ⟨j, hj, ?_⟩
      rw [handlers_started, Function.update_of_ne hji]
      exact hworks
  · rw [engineInputQs_started]
    by_cases hui : u = P.uuidOf i
    · rw [hui, Function.update_self]
      rfl
    · rw [Function.update_of_ne hui]
      obtain hu | hu := List.mem_append.mp hu
      · exact h.handles u hu
      · exact absurd (List.mem_singleton.mp hu) hui
  · rw [handlers_started]
    by_cases hji : j = i
    · rw [hji, Function.update_self]
      rintro ⟨⟩
    · rw [Function.update_of_ne hji]
      exact h.stopped j

/-- **Every step keeps the tables alive**, if the handlers in them are kept alive. -/
theorem alive_step {a : RotationAct} (h : s.Alive P) (hok : s.KeptAlive P a)
    (hs : step P s a = some s') : s'.Alive P := by
  cases a with
  | setEngineLinker i =>
    cases hs
    refine h.setHandler (fun q hworks _ => ?_) (h.stopped i)
    exact ⟨hworks.requestQ, hworks.active, hworks.running, hworks.thread⟩
  | activateEngine i o =>
    cases hs
    obtain ⟨b, heq⟩ | ⟨hactive, heq⟩ | ⟨hlinks, heq⟩ := activateEngine_cases (P := P) s i o
    · rw [heq]
      exact h
    · rw [heq]
      refine Alive.setHandler (s := { s with queueCount := s.queueCount + 1 })
        ⟨h.works, h.handles, h.stopped⟩ (fun q hworks _ => ?_) (fun _ => h.stopped i hactive)
      have := hworks.active
      rw [hactive] at this
      cases this
    · obtain ⟨hload, halloc⟩ := hok hlinks
      rw [heq hload halloc]
      exact h.started hlinks
  | initializeDevice i ok =>
    rw [step] at hs
    split at hs
    · next hthread =>
      split_ifs at hs with hdevice
      · cases hs
        refine h.setHandler (fun q hworks _ => ?_) (h.stopped i)
        exact ⟨hworks.requestQ, hworks.active, hworks.running, .inr rfl⟩
      · cases hs
        refine h.setHandler (fun q hworks hq => ?_) fun _ => rfl
        refine absurd (hok ⟨?_, ?_⟩) hdevice
        · rw [hworks.requestQ]
          rfl
        · rw [hq, hworks.requestQ]
    · cases hs
  | terminateEngine i =>
    cases hs
    rw [EngineRotation.terminateEngine]
    split_ifs with hactive
    · refine h.setHandler (fun q hworks hq => ?_) fun _ => rfl
      have hinactive := hok ⟨by rw [hworks.requestQ]; rfl, by rw [hq, hworks.requestQ]⟩
      rw [hactive] at hinactive
      cases hinactive
    · exact h
  | terminate =>
    cases hs
    exact ⟨h.works, h.handles, h.stopped⟩
  | clearTables =>
    rw [step] at hs
    split_ifs at hs
    cases hs
    exact ⟨by simp, by simp, h.stopped⟩

/-- **No dead engine is in rotation**, in every run in which the handlers in the tables are kept
alive. -/
theorem noneDead {as : List RotationAct} {s : EngineRotation}
    (hok : Guarded (step P) (KeptAlive P) new as) (hrun : runFrom (step P) new as = some s) :
    NoneDead P as s := by
  have halive : s.Alive P := hok.invariant (fun _ _ _ h => alive_step h) alive_new hrun
  constructor
  · intro u hu
    have hqueue : (s.engineInputQs u).isSome := by
      obtain hu | hu := hu
      · exact halive.handles u hu
      · exact hu
    obtain ⟨q, hq⟩ := Option.isSome_iff_exists.mp hqueue
    obtain ⟨i, hi, hworks⟩ := halive.works u q hq
    exact ⟨i, q, hi, hq, hworks⟩
  · intro pre i o post s₁ has hpre hfailed
    have hok₁ := guarded_iff.mp hok pre _ post s₁ has hpre
    obtain ⟨b, heq⟩ | ⟨-, heq⟩ | ⟨hlinks, heq⟩ := activateEngine_cases (P := P) s₁ i o
    · rw [heq]
      exact ⟨rfl, rfl⟩
    · rw [heq]
      exact ⟨rfl, rfl⟩
    · obtain ⟨hload, halloc⟩ := hok₁ hlinks
      rw [heq hload halloc] at hfailed
      cases hfailed

/-- Handlers of one engine on the devices 0, 1, … -/
def oneEngine : EngineSetup := ⟨fun i => (1, i), [1]⟩

/-- One handler is activated, and the other has no linker. -/
theorem noneDead_twoHandlers : ∃ s,
    runFrom (step oneEngine) new
      [.setEngineLinker 0, .activateEngine 0 ⟨false, true, true⟩, .initializeDevice 0 true,
        .activateEngine 1 ⟨false, true, true⟩] = some s ∧
    s.engineHandles = [(1, 0)] ∧
    NoneDead oneEngine
      [.setEngineLinker 0, .activateEngine 0 ⟨false, true, true⟩, .initializeDevice 0 true,
        .activateEngine 1 ⟨false, true, true⟩] s := by
  have hok : Guarded (step oneEngine) (KeptAlive oneEngine) new
      [.setEngineLinker 0, .activateEngine 0 ⟨false, true, true⟩, .initializeDevice 0 true,
        .activateEngine 1 ⟨false, true, true⟩] := by decide +kernel
  exact ⟨_, rfl, rfl, noneDead hok rfl⟩

/-- **A handler whose model cannot be loaded stays in the tables.** -/
theorem not_noneDead : ¬ ∀ (as : List RotationAct) (s : EngineRotation),
    runFrom (step oneEngine) new as = some s → NoneDead oneEngine as s := by
  intro h
  have hdead := h [.setEngineLinker 0, .activateEngine 0 ⟨false, false, true⟩] _ rfl
  obtain ⟨i, q, hi, -, hworks⟩ := hdead.works (1, 0) (.inl List.mem_cons_self)
  have hi : i = 0 := by simpa [oneEngine] using hi
  subst hi
  cases hworks.active

end EngineRotation

end DetectBase
