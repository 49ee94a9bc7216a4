import DetectBase.Engine.Handler
import DetectBase.Engine.Rotation

/-!
# Back-pressure

`RequestAsync` drops a request when the queue it has picked holds 128 requests already. The test and
the `enqueue_move` are separate critical sections, and the queue has no limit of its own, so that
all callers that have passed the test may enter afterwards, however many they are.

What is bounded is the number of requests in a queue together with the number of callers on their
way into it, as long as each caller passes the test with room for all of these
(`DetectBase.EngineTraffic.lengthBounded`).

The load balancer and the handlers are those of `DetectBase.EngineRotation`, with the queues and the
callers added to it.
-/

namespace DetectBase

/-- Where a call of `RequestAsync` stands. -/
inductive TrafficCall where
  /-- Before an engine is picked. -/
  | entered (r : InputLayerWrapper) : TrafficCall
  /-- It has a handle and its queue. -/
  | selected (r : InputLayerWrapper) (u : EngineHandleUUID) (q : ℕ) : TrafficCall
  /-- It has found room in the queue. -/
  | passed (r : InputLayerWrapper) (u : EngineHandleUUID) (q : ℕ) : TrafficCall
  /-- It has returned. -/
  | returned (accepted : Bool) : TrafficCall

/-- The queue whose size the call is to compare. -/
def TrafficCall.selectedQueue : TrafficCall → Option ℕ
  | .selected _ _ q => some q
  | _ => none

/-- The call is on its way into the queue. -/
def TrafficCall.entersQueue (q : ℕ) : TrafficCall → Bool
  | .passed _ _ q' => q' == q
  | _ => false

/-- A section of a thread. -/
inductive TrafficAct where
  /-- A call on a handler or on the load balancer. -/
  | rotate (a : RotationAct) : TrafficAct
  /-- `RequestAsync` is called. -/
  | requestAsync (r : InputLayerWrapper) : TrafficAct
  /-- `RequestAsync` picks an engine. -/
  | select (call : ℕ) : TrafficAct
  /-- `RequestAsync` compares the size of the queue. -/
  | checkSize (call : ℕ) : TrafficAct
  /-- `RequestAsync` puts the request into the queue. -/
  | place (call : ℕ) : TrafficAct
  /-- A handler takes a request from its queue. -/
  | dequeue (q : ℕ) : TrafficAct
  /-- A handler terminates its queue. -/
  | close (q : ℕ) : TrafficAct
  /-- A handler empties its queue. -/
  | flush (q : ℕ) : TrafficAct

/-- The engines with their queues, and the callers. -/
structure EngineTraffic where
  /-- The load balancer and the handlers. -/
  rotation : EngineRotation
  /-- The queues. -/
  queues : ℕ → SafeQueue InputLayerWrapper
  /-- `round_robin_idx_`. -/
  roundRobinIdx : ℕ
  /-- The calls of `RequestAsync`. -/
  calls : List TrafficCall

namespace EngineTraffic

variable (P : EngineSetup)

/-- Before the first call. `Link` makes its queues without a limit. -/
def new : EngineTraffic := ⟨.new, fun _ => .new 0, 0, []⟩

/-- The call goes on to `c`. -/
def setCall (s : EngineTraffic) (call : ℕ) (c : TrafficCall) : EngineTraffic :=
  { s with calls := s.calls.set call c }

/-- The queue becomes `x`. -/
def setQueue (s : EngineTraffic) (q : ℕ) (x : SafeQueue InputLayerWrapper) : EngineTraffic :=
  { s with queues := Function.update s.queues q x }

/-- The section of `RequestAsync` that picks an engine, in turn. -/
def select (s : EngineTraffic) (call : ℕ) (r : InputLayerWrapper) : Option EngineTraffic :=
  match s.rotation.engineHandles[s.roundRobinIdx % s.rotation.engineHandles.length]? with
  -- no engine is loaded
  | none => some (s.setCall call (.returned false))
  | some u =>
    (s.rotation.engineInputQs u).map fun q =>
      { s.setCall call (.selected r u q) with roundRobinIdx := (s.roundRobinIdx + 1) % 2 ^ 64 }

/-- **A section of a thread.** -/
def step (s : EngineTraffic) : TrafficAct → Option EngineTraffic
  | .rotate a => (s.rotation.step P a).map fun rotation => { s with rotation := rotation }
  | .requestAsync r =>
    let c := if s.rotation.isTerminateInstance || r.lacksImage then .returned false else .entered r
    some { s with calls := s.calls ++ [c] }
  | .select call =>
    match s.calls[call]? with
    | some (.entered r) => s.select call r
    | _ => none
  | .checkSize call =>
    match s.calls[call]? with
    | some (.selected r u q) =>
      if maxEngineInferInputQueueSize ≤ (s.queues q).items.length then
        some (s.setCall call (.returned false))
      else some (s.setCall call (.passed r u q))
    | _ => none
  | .place call =>
    match s.calls[call]? with
    | some (.passed r u q) =>
      let r := { r with metaData := { r.metaData with requesteeEngineUuid := u.1 } }
      some ((s.setCall call (.returned true)).setQueue q ((s.queues q).enqueue r))
    | _ => none
  | .dequeue q => (s.queues q).dequeue.map fun (_, x) => s.setQueue q x
  | .close q => some (s.setQueue q (s.queues q).terminate)
  | .flush q => some (s.setQueue q { s.queues q with items := [] })

/-- The number of calls on their way into a queue. -/
def entering (s : EngineTraffic) (q : ℕ) : ℕ := s.calls.countP (·.entersQueue q)

/-- **There is room for all**: a call that finds the queue shorter than the limit finds that it is
so with all the calls that are on their way into it. -/
def RoomForAll (s : EngineTraffic) : TrafficAct → Prop
  | .checkSize call => ∀ q ∈ (s.calls[call]?).bind TrafficCall.selectedQueue,
    (s.queues q).items.length < maxEngineInferInputQueueSize →
    (s.queues q).items.length + s.entering q < maxEngineInferInputQueueSize
  | _ => True

instance (s : EngineTraffic) : ∀ a, Decidable (s.RoomForAll a)
  | .checkSize _ => inferInstanceAs (Decidable (∀ q ∈ Option.bind _ _, _ → _))
  | .rotate _ | .requestAsync _ | .select _ | .place _ | .dequeue _ | .close _ | .flush _ =>
    isTrue trivial

/-- **What is bounded**, when there is room for all. -/
structure Bounded (s : EngineTraffic) : Prop where
  /-- The queues have no limit. -/
  unlimited : ∀ q, (s.queues q).maxSize = 0
  /-- The requests in a queue, with those on their way into it. -/
  length : ∀ q, (s.queues q).items.length + s.entering q ≤ maxEngineInferInputQueueSize

theorem bounded_new : new.Bounded := ⟨fun _ => rfl, fun _ => Nat.zero_le _⟩

variable {P} {s s' : EngineTraffic}

/-- A call goes on: it is on its way into the queue `q`, or was, or neither. -/
theorem entering_setCall {call : ℕ} {c : TrafficCall} (c' : TrafficCall)
    (hc : s.calls[call]? = some c) (q : ℕ) :
    (s.setCall call c').entering q + (if c.entersQueue q then 1 else 0) =
      s.entering q + if c'.entersQueue q then 1 else 0 := by
  obtain ⟨hlt, hget⟩ := List.getElem?_eq_some_iff.mp hc
  have hle : (if c.entersQueue q then 1 else 0) ≤ s.calls.countP (·.entersQueue q) := by
    rw [← hget]
    exact List.boole_getElem_le_countP hlt
  rw [entering, setCall, entering, List.countP_set hlt, hget]
  omega

/-- A call that does not get on its way into a queue. -/
theorem Bounded.setCall (h : s.Bounded) {call : ℕ} {c c' : TrafficCall}
    (hc : s.calls[call]? = some c) (hc' : ∀ q, c'.entersQueue q = false) :
    (s.setCall call c').Bounded := by
  refine ⟨h.unlimited, fun q => ?_⟩
  have hlength := h.length q
  have hentering := entering_setCall c' hc q
  rw [hc' q] at hentering
  show (s.queues q).items.length + (s.setCall call c').entering q ≤ _
  simp only [Bool.false_eq_true, if_false] at hentering
  omega

/-- A new call. -/
theorem Bounded.addCall (h : s.Bounded) {c : TrafficCall} (hc : ∀ q, c.entersQueue q = false) :
    ({ s with calls := s.calls ++ [c] } : EngineTraffic).Bounded := by
  refine ⟨h.unlimited, fun q => ?_⟩
  have hentering : ({ s with calls := s.calls ++ [c] } : EngineTraffic).entering q =
      s.entering q := by
    rw [entering, List.countP_append, List.countP_singleton, hc q]
    rfl
  rw [hentering]
  exact h.length q

/-- A queue that does not get longer. -/
theorem Bounded.setQueue (h : s.Bounded) {q : ℕ} {x : SafeQueue InputLayerWrapper}
    (hmax : x.maxSize = 0) (hlength : x.items.length ≤ (s.queues q).items.length) :
    (s.setQueue q x).Bounded := by
  refine ⟨fun q' => ?_, fun q' => ?_⟩
  · show (Function.update s.queues q x q').maxSize = 0
    by_cases hq : q' = q
    · rw [hq, Function.update_self, hmax]
    · rw [Function.update_of_ne hq, h.unlimited]
  · have := h.length q'
    show (Function.update s.queues q x q').items.length + s.entering q' ≤ _
    by_cases hq : q' = q
    · subst hq
      rw [Function.update_self]
      omega
    · rw [Function.update_of_ne hq]
      omega

/-- **A call that passes the test with room for all** is on its way into the queue. -/
theorem Bounded.pass (h : s.Bounded) {call q : ℕ} {r : InputLayerWrapper} {u : EngineHandleUUID}
    (hc : s.calls[call]? = some (.selected r u q))
    (hroom : (s.queues q).items.length + s.entering q < maxEngineInferInputQueueSize) :
    (s.setCall call (.passed r u q)).Bounded := by
  refine ⟨h.unlimited, fun q' => ?_⟩
  have hlength := h.length q'
  have hentering := entering_setCall (.passed r u q) hc q'
  show (s.queues q').items.length + (s.setCall call (.passed r u q)).entering q' ≤ _
  by_cases hq : q = q'
  · subst hq
    simp only [TrafficCall.entersQueue, beq_self_eq_true, if_true, Bool.false_eq_true,
      if_false] at hentering
    omega
  · simp only [TrafficCall.entersQueue, beq_eq_false_iff_ne.mpr hq, Bool.false_eq_true,
      if_false] at hentering
    omega

/-- **A call that has passed the test takes its own place.** -/
theorem Bounded.place (h : s.Bounded) {call q : ℕ} {r r' : InputLayerWrapper}
    {u : EngineHandleUUID} (hc : s.calls[call]? = some (.passed r u q)) :
    ((s.setCall call (.returned true)).setQueue q ((s.queues q).enqueue r')).Bounded := by
  have hitems := SafeQueue.items_enqueue (SafeQueue.not_isFull (h.unlimited q)) r'
  refine ⟨fun q' => ?_, fun q' => ?_⟩
  · show (Function.update s.queues q ((s.queues q).enqueue r') q').maxSize = 0
    by_cases hq : q' = q
    · rw [hq, Function.update_self, SafeQueue.maxSize_enqueue, h.unlimited]
    · rw [Function.update_of_ne hq, h.unlimited]
  · have hlength := h.length q'
    have hentering := entering_setCall (.returned true) hc q'
    show (Function.update s.queues q ((s.queues q).enqueue r') q').items.length +
      (s.setCall call (.returned true)).entering q' ≤ _
    by_cases hq : q' = q
    · subst hq
      rw [Function.update_self, hitems, List.length_append, List.length_singleton]
      simp only [TrafficCall.entersQueue, beq_self_eq_true, if_true, Bool.false_eq_true,
        if_false] at hentering
      omega
    · rw [Function.update_of_ne hq]
      simp only [TrafficCall.entersQueue, Bool.false_eq_true, if_false] at hentering
      omega

/-- **Every step keeps the bound**, if there is room for all. -/
theorem bounded_step {a : TrafficAct} (h : s.Bounded) (hok : s.RoomForAll a)
    (hs : step P s a = some s') : s'.Bounded := by
  cases a with
  | rotate a =>
    obtain ⟨rotation, -, rfl⟩ := Option.map_eq_some_iff.mp hs
    exact ⟨h.unlimited, h.length⟩
  | requestAsync r =>
    cases hs
    refine h.addCall fun q => ?_
    split_ifs
    · rfl
    · rfl
  | select call =>
    rw [step] at hs
    split at hs
    · next r hc =>
      rw [EngineTraffic.select] at hs
      split at hs
      · cases hs
        exact h.setCall hc fun _ => rfl
      · next u _ =>
        obtain ⟨q, -, rfl⟩ := Option.map_eq_some_iff.mp hs
        have hset : (s.setCall call (.selected r u q)).Bounded := h.setCall hc fun _ => rfl
        exact ⟨hset.unlimited, hset.length⟩
    · cases hs
  | checkSize call =>
    rw [step] at hs
    split at hs
    · next r u q hc =>
      split_ifs at hs with hfull
      · cases hs
        exact h.setCall hc fun _ => rfl
      · cases hs
        exact h.pass hc (hok q (by rw [hc]; rfl) (Nat.lt_of_not_le hfull))
    · cases hs
  | place call =>
    rw [step] at hs
    split at hs
    · next r u q hc =>
      cases hs
      exact h.place hc
    · cases hs
  | dequeue q =>
    obtain ⟨⟨r, x⟩, hx, rfl⟩ := Option.map_eq_some_iff.mp hs
    refine h.setQueue ?_ ?_
    · rw [SafeQueue.maxSize_of_dequeue hx, h.unlimited]
    · rw [SafeQueue.items_of_dequeue hx, List.length_cons]
      omega
  | close q =>
    cases hs
    exact h.setQueue (h.unlimited q) (Nat.le_refl _)
  | flush q =>
    cases hs
    exact h.setQueue (h.unlimited q) (Nat.zero_le _)

/-- **The queues are bounded**: no queue ever holds more requests than the limit, in every run in
which each call passes the test with room for all. -/
theorem lengthBounded {as : List TrafficAct} {s : EngineTraffic}
    (hok : Guarded (step P) RoomForAll new as) (hrun : runFrom (step P) new as = some s) (q : ℕ) :
    (s.queues q).items.length ≤ maxEngineInferInputQueueSize := by
  have hbounded : s.Bounded := hok.invariant (fun _ _ _ h => bounded_step h) bounded_new hrun
  have := hbounded.length q
  omega

/-- An engine is loaded. -/
def loadEngine : List TrafficAct :=
  [.rotate (.setEngineLinker 0), .rotate (.activateEngine 0 ⟨false, true, true⟩)]

/-- A caller gets as far as the test, which it passes. -/
def passTest (call : ℕ) : List TrafficAct :=
  [.requestAsync ⟨⟨5, 1, 32, 32, call⟩, some [0]⟩, .select call, .checkSize call]

/-- One caller after the other. -/
theorem lengthBounded_twoCallers : ∃ s,
    runFrom (step EngineRotation.oneEngine) new
      (loadEngine ++ passTest 0 ++ [.place 0] ++ passTest 1 ++ [.place 1]) = some s ∧
    (s.queues 0).items.length = 2 ∧
    (s.queues 0).items.length ≤ maxEngineInferInputQueueSize := by
  have hok : Guarded (step EngineRotation.oneEngine) RoomForAll new
      (loadEngine ++ passTest 0 ++ [.place 0] ++ passTest 1 ++ [.place 1]) := by decide +kernel
  exact ⟨_, rfl, rfl, lengthBounded hok rfl 0⟩

/-- The first `n` callers have passed the test on the empty queue of the engine. -/
structure AllPassed (r : InputLayerWrapper) (n : ℕ) (s : EngineTraffic) : Prop where
  /-- The load balancer works. -/
  works : s.rotation.isTerminateInstance = false
  /-- It has one engine. -/
  handles : s.rotation.engineHandles = [(1, 0)]
  /-- Its queue has the number 0. -/
  inputQ : s.rotation.engineInputQs (1, 0) = some 0
  /-- The queue is empty. -/
  queue : s.queues 0 = .new 0
  /-- The callers. -/
  calls : s.calls = List.replicate n (.passed r (1, 0) 0)

/-- One more caller passes the test. -/
theorem AllPassed.next {r : InputLayerWrapper} {n : ℕ} (h : s.AllPassed r n)
    (himage : r.lacksImage = false) :
    ∃ s', runFrom (step P) s [.requestAsync r, .select n, .checkSize n] = some s' ∧
      s'.AllPassed r (n + 1) := by
  have hlast : ∀ c, (s.calls ++ [c])[n]? = some c := by
    intro c
    rw [h.calls]
    simp
  have hset : ∀ c c', (s.calls ++ [c]).set n c' = s.calls ++ [c'] := by
    intro c c'
    rw [h.calls]
    simp
  let idx := (s.roundRobinIdx + 1) % 2 ^ 64
  have henter : step P s (.requestAsync r) =
      some { s with calls := s.calls ++ [.entered r] } := by
    simp [step, h.works, himage]
  have hselect : step P { s with calls := s.calls ++ [.entered r] } (.select n) =
      some { s with calls := s.calls ++ [.selected r (1, 0) 0], roundRobinIdx := idx } := by
    simp [step, EngineTraffic.select, EngineTraffic.setCall, hlast, hset, h.handles, h.inputQ,
      Nat.mod_one, idx]
  have hcheck : step P
      { s with calls := s.calls ++ [.selected r (1, 0) 0], roundRobinIdx := idx } (.checkSize n) =
      some { s with calls := s.calls ++ [.passed r (1, 0) 0], roundRobinIdx := idx } := by
    simp [step, EngineTraffic.setCall, hlast, hset, h.queue, SafeQueue.new,
      maxEngineInferInputQueueSize]
  refine ⟨_, runFrom_cons.mpr ⟨_, henter, runFrom_cons.mpr ⟨_, hselect, runFrom_cons.mpr
    ⟨_, hcheck, rfl⟩⟩⟩, h.works, h.handles, h.inputQ, h.queue, ?_⟩
  dsimp only
  rw [h.calls, List.replicate_succ']

/-- The next caller that has passed the test gets in. -/
theorem place_next {r : InputLayerWrapper} {k m : ℕ} (hmax : (s.queues 0).maxSize = 0)
    (hcalls : s.calls = List.replicate k (.returned true) ++
      List.replicate (m + 1) (.passed r (1, 0) 0)) :
    ∃ s', step P s (.place k) = some s' ∧ (s'.queues 0).maxSize = 0 ∧
      (s'.queues 0).items.length = (s.queues 0).items.length + 1 ∧
      s'.calls = List.replicate (k + 1) (.returned true) ++
        List.replicate m (.passed r (1, 0) 0) := by
  have hnext : s.calls[k]? = some (.passed r (1, 0) 0) := by
    rw [hcalls]
    simp
  have hset : s.calls.set k (.returned true) = List.replicate (k + 1) (.returned true) ++
      List.replicate m (.passed r (1, 0) 0) := by
    rw [hcalls, List.set_append_right _ _ (by simp), List.length_replicate, Nat.sub_self,
      List.replicate_succ, List.set_cons_zero, List.replicate_succ', List.append_assoc]
    rfl
  have hstep : ∃ r', step P s (.place k) = some ((s.setCall k (.returned true)).setQueue 0
      ((s.queues 0).enqueue r')) := by
    refine ⟨{ r with metaData := { r.metaData with requesteeEngineUuid := 1 } }, ?_⟩
    rw [step, hnext]
  obtain ⟨r', hstep⟩ := hstep
  refine ⟨_, hstep, ?_, ?_, hset⟩
  · show (Function.update s.queues 0 ((s.queues 0).enqueue r') 0).maxSize = 0
    rw [Function.update_self, SafeQueue.maxSize_enqueue, hmax]
  · show (Function.update s.queues 0 ((s.queues 0).enqueue r') 0).items.length = _
    rw [Function.update_self, SafeQueue.items_enqueue (SafeQueue.not_isFull hmax),
      List.length_append, List.length_singleton]

/-- All callers that have passed the test get in. -/
theorem place_all {r : InputLayerWrapper} : ∀ {m k : ℕ} {s : EngineTraffic},
    (s.queues 0).maxSize = 0 →
    s.calls = List.replicate k (.returned true) ++ List.replicate m (.passed r (1, 0) 0) →
    ∃ as s', runFrom (step P) s as = some s' ∧
      (s'.queues 0).items.length = (s.queues 0).items.length + m := by
  intro m
  induction m with
  | zero => exact fun _ _ => ⟨[], _, rfl, rfl⟩
  | succ m ih =>
    intro k s hmax hcalls
    obtain ⟨s₁, hstep, hmax₁, hlength₁, hcalls₁⟩ := place_next (P := P) hmax hcalls
    obtain ⟨as, s', hrun, hlength⟩ := ih hmax₁ hcalls₁
    refine ⟨.place k :: as, s', runFrom_cons.mpr ⟨s₁, hstep, hrun⟩, ?_⟩
    omega

/-- Any number of callers may have passed the test. -/
theorem exists_allPassed {r : InputLayerWrapper} (himage : r.lacksImage = false) (n : ℕ) :
    ∃ as s, runFrom (step EngineRotation.oneEngine) new as = some s ∧ s.AllPassed r n := by
  induction n with
  | zero =>
    exact ⟨[.rotate (.setEngineLinker 0), .rotate (.activateEngine 0 ⟨false, true, true⟩)], _, rfl,
      rfl, rfl, rfl, rfl, rfl⟩
  | succ n ih =>
    obtain ⟨as, s, hrun, hpassed⟩ := ih
    obtain ⟨s', hrun', hpassed'⟩ := hpassed.next himage
    exact ⟨_, s', runFrom_append.mpr ⟨s, hrun, hrun'⟩, hpassed'⟩

/-- **A queue can get as long as there are callers**, whatever the limit is. -/
theorem exists_length_eq (n : ℕ) : ∃ as s,
    runFrom (step EngineRotation.oneEngine) new as = some s ∧ (s.queues 0).items.length = n := by
  have himage : (⟨⟨5, 1, 32, 32, 1⟩, some [0]⟩ : InputLayerWrapper).lacksImage = false := rfl
  obtain ⟨as, s, hrun, hpassed⟩ := exists_allPassed himage n
  obtain ⟨bs, s', hrun', hlength⟩ := place_all (P := EngineRotation.oneEngine) (k := 0)
    (by rw [hpassed.queue]; rfl) hpassed.calls
  refine ⟨as ++ bs, s', runFrom_append.mpr ⟨s, hrun, hrun'⟩, ?_⟩
  rw [hlength, hpassed.queue]
  exact Nat.zero_add n

/-- **The queue of an engine gets longer than the limit**: 129 callers pass the test on an empty
queue, and all of them get in. -/
theorem not_lengthBounded : ¬ ∀ (as : List TrafficAct) (s : EngineTraffic),
    runFrom (step EngineRotation.oneEngine) new as = some s →
    ∀ q, (s.queues q).items.length ≤ maxEngineInferInputQueueSize := by
  intro h
  obtain ⟨as, s, hrun, hlength⟩ := exists_length_eq 129
  have hle := h as s hrun 0
  rw [hlength, maxEngineInferInputQueueSize] at hle
  omega

end EngineTraffic

end DetectBase
