import DetectBase.Grpc.Custody
import Mathlib.Logic.ExistsUnique

/-!
# No call without a handler, and no handler without an owner

While the server runs, each method has exactly one handler that waits for a call; every call that is
accepted is answered once; and a handler whose tag can still come back is in `alive_handlers_`, so
that a released handler is never called (`DetectBase.Grpc.EventServer.handlersLive`).

The stop of the server is safe because of an order: `Shutdown` of the server returns when the calls
that there are have been answered, and only then the queue is shut down. After that nothing is
handed to gRPC any more, the queue is empty when it has been drained, and nothing is with gRPC or
with a thread when `alive_handlers_` is cleared.
-/

namespace DetectBase.Grpc.EventServer

variable {s s' : EventServer} {a : ServerAct} {t : Tag} {h : CallData} {who : Poller} {r : Rpc}

/-! ### The stop of the server -/

/-- The queue has been shut down. -/
def QueueShut (s : EventServer) : Prop :=
  s.phase = .draining ∨ s.phase = .drained ∨ s.phase = .cleared

/-- **What is known of the server**, while it runs and when it stops. -/
structure Orderly (s : EventServer) : Prop where
  /-- It is not destroyed before it stops. -/
  owner : s.phase = .serving → s.ownerAlive = true
  /-- The thread that stops it only has a tag when it drains the queue. -/
  closer : s.phase ≠ .draining → s.poll .closer = .idle
  /-- When the queue is shut down, all calls have been answered. -/
  answered : s.QueueShut → ∀ h ∈ s.handlers, h.accepted = true → h.status = .finish
  /-- When it has been drained, gRPC has no tag. -/
  drained : s.phase = .drained ∨ s.phase = .cleared → ∀ h ∈ s.handlers, h.operation = none
  /-- The runner has been joined when the handlers are released. -/
  joined : s.phase = .cleared → s.poll .runner = .idle
  /-- Until then they are alive. -/
  alive : s.phase ≠ .cleared → ∀ t, 0 < s.holders t → t ∈ s.aliveHandlers

/-- What can happen when the queue has been shut down. -/
inductive ShutStep (s : EventServer) : EventServer → Prop where
  /-- A tag is returned. -/
  | next {who : Poller} {t : Tag} {ok : Bool} {h : CallData} {op : Operation} (hpolls : s.Polls who)
      (ht : s.handlers[t]? = some h) (hop : h.operation = some op) :
      ShutStep s ((s.update t .giveBack).setPoll who (.event t ok))
  /-- A thread has released a handler. -/
  | release {who : Poller} {t : Tag} {ok : Bool} (hpoll : s.poll who = .event t ok) :
      ShutStep s ((s.tryUnregister t).setPoll who .idle)
  /-- A detached thread ends. -/
  | waiterEnd {i : ℕ} : ShutStep s (s.setWaiter i .ended)
  /-- The queue has been drained. -/
  | endDrain (hphase : s.phase = .draining) (hidle : s.closer = .idle)
      (hnone : ∀ h ∈ s.handlers, h.operation = none) : ShutStep s { s with phase := .drained }
  /-- The handlers are released. -/
  | clear (hphase : s.phase = .drained) (hidle : s.runner = .idle) :
      ShutStep s { s.clearAllHandlers with phase := .cleared }

/-- **When the queue has been shut down**, nothing is handed to gRPC any more. -/
theorem shut_cases (hcustody : s.Custody) (horderly : s.Orderly) (hshut : s.QueueShut)
    (hok : s.Documented a) (hstep : ServerStep s a s') : ShutStep s s' := by
  have hcall : ∀ {t : Tag} {h : CallData}, s.handlers[t]? = some h →
      h.accepted = true ∧ h.status = .process → False := by
    rintro t h ht ⟨haccepted, hprocess⟩
    rw [horderly.answered hshut h (List.mem_of_getElem? ht) haccepted] at hprocess
    cases hprocess
  have hbegun : s.phase ≠ .serving ∧ s.phase ≠ .stopping := by
    obtain heq | heq | heq := hshut
    · rw [heq]
      exact ⟨nofun, nofun⟩
    · rw [heq]
      exact ⟨nofun, nofun⟩
    · rw [heq]
      exact ⟨nofun, nofun⟩
  cases hstep with
  | accept ht hop => exact absurd hok hbegun.1
  | next hpolls hpoll ht hop => exact .next hpolls ht hop
  | request hpoll ht hstatus => exact absurd hstatus (hcustody.sound _ _ ht).made
  | succeed hpoll ht hstatus =>
    exact (hcall ht ⟨(hcustody.sound _ _ ht).event _ _ hpoll hstatus, hstatus⟩).elim
  | release hpoll ht hdone => exact .release hpoll
  | reply hpoll ht hstatus => exact (hcall ht ((hcustody.sound _ _ ht).succeeded _ hpoll)).elim
  | detach hpoll ht hstatus => exact (hcall ht ((hcustody.sound _ _ ht).succeeded _ hpoll)).elim
  | waiterFinish hi =>
    have hmem := List.mem_of_getElem? hi
    have ht := List.getElem?_eq_getElem (hcustody.waiters _ hmem)
    exact (hcall ht ((hcustody.sound _ _ ht).waiting (awaited_pos.mpr hmem))).elim
  | waiterEnd hi => exact .waiterEnd
  | stop hphase => exact absurd hphase hbegun.1
  | shutdownQueue hphase => exact absurd hphase hbegun.2
  | endDrain hphase hidle => exact .endDrain hphase hidle hok
  | clear hphase hidle => exact .clear hphase hidle

/-- A handler that has been changed is one of those that there were, changed. -/
theorem mem_update {f : CallData → CallData} (hmem : h ∈ (s.update t f).handlers) :
    h ∈ s.handlers ∨ ∃ h', s.handlers[t]? = some h' ∧ h = f h' := by
  obtain ⟨i, hi⟩ := List.mem_iff_getElem?.mp hmem
  rw [update, List.getElem?_modify] at hi
  obtain ⟨h', hi', rfl⟩ := Option.map_eq_some_iff.mp hi
  split_ifs with hti
  · exact .inr ⟨h', hti ▸ hi', rfl⟩
  · exact .inl (List.mem_of_getElem? hi')

/-- Only the runner has tags before the queue is drained. -/
theorem eq_runner (who : Poller) (horderly : s.Orderly) (hphase : s.phase ≠ .draining)
    (hwho : s.Polls who ∨ s.poll who ≠ .idle) : who = .runner := by
  cases who with
  | runner => rfl
  | closer =>
    obtain hpolls | hbusy := hwho
    · exact absurd hpolls hphase
    · exact absurd (horderly.closer hphase) hbusy

theorem poll_closer_step (horderly : s.Orderly) (hphase : s.phase ≠ .draining)
    (hstep : ServerStep s a s') : s'.poll .closer = .idle := by
  have hidle := horderly.closer hphase
  have hset : ∀ {s₁ : EventServer} {who p}, s₁.poll .closer = s.poll .closer →
      s.Polls who ∨ s.poll who ≠ .idle → (s₁.setPoll who p).poll .closer = .idle := by
    intro s₁ who p hpoll hwho
    rw [eq_runner _ horderly hphase hwho]
    exact hpoll.trans hidle
  cases hstep with
  | accept ht hop => rwa [poll_update]
  | next hpolls hpoll ht hop => exact hset poll_update (.inl hpolls)
  | request hpoll ht hstatus => exact hset poll_update (.inr (by rw [hpoll]; nofun))
  | succeed hpoll ht hstatus => exact hset poll_createAndRegister (.inr (by rw [hpoll]; nofun))
  | release hpoll ht hdone => exact hset poll_tryUnregister (.inr (by rw [hpoll]; nofun))
  | reply hpoll ht hstatus => exact hset poll_update (.inr (by rw [hpoll]; nofun))
  | detach hpoll ht hstatus => exact hset poll_detach (.inr (by rw [hpoll]; nofun))
  | waiterFinish hi => rwa [poll_setWaiter, poll_update]
  | waiterEnd hi => rwa [poll_setWaiter]
  | stop hphase => exact hidle
  | shutdownQueue hphase => exact hidle
  | endDrain hphase' hdrained => exact absurd hphase' hphase
  | clear hphase hjoined => exact hidle

/-- How a step changes the phase. -/
inductive PhaseStep (s : EventServer) (a : ServerAct) (s' : EventServer) : Prop where
  /-- It does not, and the owner is the same. -/
  | same (hphase : s'.phase = s.phase) (howner : s'.ownerAlive = s.ownerAlive)
  /-- The stop begins. -/
  | stop (hphase : s.phase = .serving) (hphase' : s'.phase = .stopping)
  /-- The queue is shut down. -/
  | shutdownQueue (ha : a = .shutdownQueue) (hphase : s.phase = .stopping)
      (hs' : s' = { s with phase := .draining })
  /-- The queue has been drained. -/
  | endDrain (hphase : s.phase = .draining) (hphase' : s'.phase = .drained)
  /-- The handlers are released. -/
  | clear (hphase : s.phase = .drained) (hphase' : s'.phase = .cleared)

theorem phase_cases (hstep : ServerStep s a s') : PhaseStep s a s' := by
  cases hstep with
  | accept ht hop => exact .same rfl rfl
  | next hpolls hpoll ht hop => exact .same phase_setPoll ownerAlive_setPoll
  | request hpoll ht hstatus => exact .same phase_setPoll ownerAlive_setPoll
  | succeed hpoll ht hstatus =>
    refine .same (phase_setPoll.trans ?_) (ownerAlive_setPoll.trans ?_)
    · exact phase_createAndRegister
    · exact ownerAlive_createAndRegister
  | release hpoll ht hdone =>
    refine .same (phase_setPoll.trans ?_) (ownerAlive_setPoll.trans ?_)
    · exact phase_tryUnregister
    · exact ownerAlive_tryUnregister
  | reply hpoll ht hstatus => exact .same phase_setPoll ownerAlive_setPoll
  | detach hpoll ht hstatus => exact .same phase_setPoll ownerAlive_setPoll
  | waiterFinish hi => exact .same rfl rfl
  | waiterEnd hi => exact .same rfl rfl
  | stop hphase => exact .stop hphase rfl
  | shutdownQueue hphase => exact .shutdownQueue rfl hphase rfl
  | endDrain hphase hdrained => exact .endDrain hphase rfl
  | clear hphase hjoined => exact .clear hphase rfl

/-- A handler that is released is nowhere. -/
theorem holders_release {ok : Bool} (hcustody : s.Custody) (hpoll : s.poll who = .event t ok)
    (ht : s.handlers[t]? = some h) (hdone : h.status = .process ∧ ok = false ∨ h.status = .finish) :
    ((s.tryUnregister t).setPoll who .idle).holders t = 0 := by
  refine (sound_setPoll_idle ((hcustody.sound _ _ ht).frame untouched_tryUnregister) ?_ hdone).2
  rwa [poll_tryUnregister]

/-- **A handler is alive while its tag is somewhere.** -/
theorem alive_step (hcustody : s.Custody) (horderly : s.Orderly) (hok : s.Documented a)
    (hstep : ServerStep s a s') (hphase : s'.phase ≠ .cleared) (hpos : 0 < s'.holders t) :
    t ∈ s'.aliveHandlers := by
  have hbefore : s.phase ≠ .cleared := by
    intro hcleared
    cases phase_cases hstep with
    | same heq howner => exact hphase (heq.trans hcleared)
    | stop heq | shutdownQueue ha heq | endDrain heq | clear heq =>
      rw [hcleared] at heq
      cases heq
  by_cases hlt : t < s.handlers.length
  · have halive : t ∈ s.aliveHandlers := by
      refine horderly.alive hbefore t ?_
      by_cases hsubject : s.subject a = some t
      · rw [holders_subject hcustody hstep hsubject]
        exact Nat.one_pos
      · rwa [← (untouched_step hstep hlt hsubject).holders]
    cases hstep with
    | accept ht hop => exact halive
    | next hpolls hpoll ht hop => rwa [aliveHandlers_setPoll]
    | request hpoll ht hstatus => rwa [aliveHandlers_setPoll]
    | succeed hpoll ht hstatus =>
      rw [aliveHandlers_setPoll, createAndRegister]
      split_ifs
      · exact List.mem_cons_of_mem _ halive
      · exact halive
    | release hpoll ht hdone =>
      rw [aliveHandlers_setPoll, tryUnregister]
      split_ifs
      · refine List.mem_filter.mpr ⟨halive, decide_eq_true ?_⟩
        rintro rfl
        rw [holders_release hcustody hpoll ht hdone] at hpos
        cases hpos
      · exact halive
    | reply hpoll ht hstatus => rwa [aliveHandlers_setPoll]
    | detach hpoll ht hstatus => rwa [aliveHandlers_setPoll]
    | waiterFinish hi => exact halive
    | waiterEnd hi => exact halive
    | stop hphase => exact halive
    | shutdownQueue hphase => exact halive
    | endDrain hphase' hdrained => exact halive
    | clear hphase' hjoined => exact absurd rfl hphase
  · have hlt' : t < s'.handlers.length := by
      by_contra hge
      rw [holders_eq_zero (custody_step hcustody hok hstep) (Nat.le_of_not_lt hge)] at hpos
      cases hpos
    obtain heq | ⟨who, t', h', howner, -, -, -, rfl⟩ := handlers_step hstep
    · exact absurd (heq ▸ hlt') hlt
    · rw [length_succeed howner] at hlt'
      rw [Nat.le_antisymm (Nat.le_of_lt_succ hlt') (Nat.le_of_not_lt hlt), aliveHandlers_setPoll,
        createAndRegister_eq howner]
      exact List.mem_cons_self

/-- A call has been answered when it has a `Finish`. -/
theorem Sound.status_eq (hsound : s.Sound t h) (hanswered : h.finishes ≠ []) :
    h.status = .finish := by
  have hanswers := hsound.answers
  split_ifs at hanswers with hstatus
  · exact hstatus
  · exact absurd (List.length_eq_zero_iff.mp hanswers) hanswered

/-- Before the queue is shut down, the step that does so finds the calls answered. -/
theorem orderly_step_of_not_shut (hcustody : s.Custody) (horderly : s.Orderly)
    (hshut : ¬ s.QueueShut) (hok : s.Documented a) (hstep : ServerStep s a s') : s'.Orderly := by
  have halive := fun hphase t => alive_step (t := t) hcustody horderly hok hstep hphase
  have hclosers := poll_closer_step horderly (fun hphase => hshut (.inl hphase)) hstep
  have hsame : ¬ s'.QueueShut → (s'.phase = .serving → s'.ownerAlive = true) → s'.Orderly :=
    fun hshut' howner => ⟨howner, fun _ => hclosers, fun h => absurd h hshut',
      fun h => absurd (.inr h) hshut', fun h => absurd (.inr (.inr h)) hshut', halive⟩
  cases phase_cases hstep with
  | same hphase howner =>
    refine hsame ?_ ?_
    · rwa [QueueShut, hphase]
    · rw [hphase, howner]
      exact horderly.owner
  | stop hphase hphase' =>
    refine hsame ?_ ?_
    · rw [QueueShut, hphase']
      rintro (h | h | h) <;> cases h
    · rw [hphase']
      nofun
  | shutdownQueue ha hphase hs' =>
    subst ha hs'
    refine ⟨nofun, fun hne => absurd rfl hne, fun _ h hmem haccepted => ?_, ?_, nofun, halive⟩
    · obtain ⟨t, ht⟩ := List.mem_iff_getElem?.mp hmem
      exact (hcustody.sound t h ht).status_eq (hok h hmem haccepted)
    · rintro (h | h) <;> cases h
  | endDrain hphase hphase' => exact absurd (.inl hphase) hshut
  | clear hphase hphase' => exact absurd (.inr (.inl hphase)) hshut

/-- When the queue is shut down, it is drained, and nothing is put into it. -/
theorem orderly_step_of_shut (hcustody : s.Custody) (horderly : s.Orderly) (hshut : s.QueueShut)
    (hok : s.Documented a) (hstep : ServerStep s a s') : s'.Orderly := by
  have halive := fun hphase t => alive_step (t := t) hcustody horderly hok hstep hphase
  have hanswered := horderly.answered hshut
  have hclosers := fun hphase => poll_closer_step horderly hphase hstep
  cases shut_cases hcustody horderly hshut hok hstep with
  | @next who t ok _ _ hpolls ht hop =>
    have hphase : ((s.update t .giveBack).setPoll who (.event t ok)).phase = s.phase :=
      phase_setPoll
    refine ⟨?_, by rwa [hphase], fun _ h hmem => ?_, ?_, ?_, halive⟩
    · rw [hphase, ownerAlive_setPoll]
      exact horderly.owner
    · rw [handlers_setPoll] at hmem
      obtain hold | ⟨h', hold, rfl⟩ := mem_update hmem
      · exact hanswered h hold
      · exact hanswered h' (List.mem_of_getElem? hold)
    · rw [hphase]
      intro hempty
      rw [horderly.drained hempty _ (List.mem_of_getElem? ht)] at hop
      cases hop
    · rw [hphase]
      intro hcleared
      cases who with
      | runner => exact absurd hcleared hpolls
      | closer =>
        rw [Polls, hcleared] at hpolls
        cases hpolls
  | @release who t ok hpoll =>
    have hphase : ((s.tryUnregister t).setPoll who .idle).phase = s.phase :=
      phase_setPoll.trans phase_tryUnregister
    have hhandlers : ((s.tryUnregister t).setPoll who .idle).handlers = s.handlers :=
      handlers_setPoll.trans handlers_tryUnregister
    refine ⟨?_, by rwa [hphase], fun _ => ?_, ?_, ?_, halive⟩
    · rw [hphase, ownerAlive_setPoll, ownerAlive_tryUnregister]
      exact horderly.owner
    · rwa [hhandlers]
    · rw [hphase, hhandlers]
      exact horderly.drained
    · rw [hphase]
      intro hcleared
      obtain rfl | hother := poller_cases who .runner
      · exact poll_setPoll
      · rw [hother, poll_setPoll_other, poll_tryUnregister, ← hother]
        exact horderly.joined hcleared
  | waiterEnd =>
    exact ⟨horderly.owner, horderly.closer, horderly.answered, horderly.drained, horderly.joined,
      halive⟩
  | endDrain hphase hidle hnone =>
    exact ⟨nofun, fun _ => hidle, fun _ => hanswered, fun _ => hnone, nofun, halive⟩
  | clear hphase hidle =>
    refine ⟨nofun, fun _ => horderly.closer ?_, fun _ => hanswered,
      fun _ => horderly.drained (.inl hphase), fun _ => hidle, halive⟩
    rw [hphase]
    nofun

/-- **Every step keeps what is known of the server.** -/
theorem orderly_step (hcustody : s.Custody) (horderly : s.Orderly) (hok : s.Documented a)
    (hstep : ServerStep s a s') : s'.Orderly := by
  by_cases hshut : s.QueueShut
  · exact orderly_step_of_shut hcustody horderly hshut hok hstep
  · exact orderly_step_of_not_shut hcustody horderly hshut hok hstep

theorem orderly_run : run.Orderly := by
  refine ⟨fun _ => rfl, fun _ => rfl, ?_, ?_, nofun, fun _ t hpos => ?_⟩
  · rintro (h | h | h) <;> cases h
  · rintro (h | h) <;> cases h
  · have hlt : t < run.handlers.length := by
      by_contra hge
      rw [holders_eq_zero custody_run (Nat.le_of_not_lt hge)] at hpos
      cases hpos
    have halive : ∀ t < run.handlers.length, t ∈ run.aliveHandlers := by decide
    exact halive t hlt

/-! ### While the server runs -/

/-- **The handler is the one for the method**: it has asked for a call, and has not created its
successor yet. -/
def Listens (s : EventServer) (r : Rpc) (t : Tag) : Prop :=
  ∃ h, s.handlers[t]? = some h ∧ h.rpc = r ∧ h.status = .process ∧
    (h.operation ≠ none ∨ ∃ ok, s.poll .runner = .event t ok)

/-- What is known of the server while it runs. -/
structure Listening (s : EventServer) : Prop where
  /-- Each method has one handler. -/
  one : s.phase = .serving → ∀ r, ∃! t, s.Listens r t
  /-- gRPC does not return the tag of a handler without a call. -/
  uncalled : s.phase = .serving → ∀ h ∈ s.handlers, h.accepted = false →
    h.operation = some (.request false)

theorem listens_iff (ht : s.handlers[t]? = some h) : s.Listens r t ↔
    h.rpc = r ∧ h.status = .process ∧
      (h.operation ≠ none ∨ ∃ ok, s.poll .runner = .event t ok) := by
  constructor
  · rintro ⟨h', ht', hlistens⟩
    rw [ht] at ht'
    cases ht'
    exact hlistens
  · exact fun hlistens => ⟨h, ht, hlistens⟩

theorem Untouched.listens (huntouched : Untouched s s' t) : s'.Listens r t ↔ s.Listens r t := by
  rw [Listens, huntouched.handler]
  obtain heq | ⟨hne, hne'⟩ := huntouched.poll .runner
  · rw [heq]
    rfl
  · have hevent : (∃ ok, s'.poll .runner = .event t ok) ↔ ∃ ok, s.poll .runner = .event t ok :=
      iff_of_false (fun ⟨ok, hok⟩ => hne' (by rw [hok]; rfl))
        fun ⟨ok, hok⟩ => hne (by rw [hok]; rfl)
    rw [hevent]
    rfl

/-- A handler that has created its successor, or has been answered, is not the one for the method.
-/
theorem not_listens (ht : s.handlers[t]? = some h)
    (hdone : h.status = .finish ∨ s.queued t = 0 ∧ ∀ ok, s.poll .runner ≠ .event t ok) :
    ¬ s.Listens r t := by
  rw [listens_iff ht]
  rintro ⟨-, hprocess, hplace⟩
  obtain hfinish | ⟨hqueued, hrunner⟩ := hdone
  · rw [hfinish] at hprocess
    cases hprocess
  · obtain hop | ⟨ok, hevent⟩ := hplace
    · rw [queued_some ht] at hqueued
      exact hop (by simpa [Bool.toNat_eq_zero] using hqueued)
    · exact hrunner ok hevent

/-- A handler that the runner is at work on, with no event of it in hand, is not the one for the
method. -/
theorem not_listens_of_polled (hcustody : s.Custody) (ht : s.handlers[t]? = some h)
    (htag : (s.poll .runner).tag = some t) (hpoll : ∀ ok, s.poll .runner ≠ .event t ok) :
    s.queued t = 0 ∧ ¬ s.Listens r t := by
  have hqueued := ((hcustody.sound _ _ ht).alone_polled .runner htag).1
  exact ⟨hqueued, not_listens ht (.inr ⟨hqueued, hpoll⟩)⟩

/-- What a step does with the handler that it is about, unless a successor is created: it is the one
for the method after the step if it was before. -/
theorem listens_subject (hcustody : s.Custody) (horderly : s.Orderly) (hlistening : s.Listening)
    (hserving : s.phase = .serving) (hstep : ServerStep s a s') (hsubject : s.subject a = some t)
    (hquiet : s'.handlers.length = s.handlers.length) : s'.Listens r t ↔ s.Listens r t := by
  have hdraining : s.phase ≠ .draining := by
    rw [hserving]
    rintro ⟨⟩
  cases hstep with
  | accept ht hop =>
    cases hsubject
    rw [listens_iff (handlers_update_self ht), listens_iff ht, hop]
    exact and_congr_right fun _ => and_congr_right fun _ => iff_of_true
      (.inl (Option.some_ne_none _)) (.inl (Option.some_ne_none _))
  | @next who t' ok h op hpolls hpoll ht hop =>
    cases hsubject
    obtain rfl := eq_runner _ horderly hdraining (.inl hpolls)
    have ht' := handlers_update_self (f := .giveBack) ht
    rw [← @handlers_setPoll _ .runner (.event t ok)] at ht'
    rw [listens_iff ht', listens_iff ht, hop, poll_setPoll]
    exact and_congr_right fun _ => and_congr_right fun _ =>
      iff_of_true (.inr ⟨ok, rfl⟩) (.inl (Option.some_ne_none _))
  | request hpoll ht hstatus => exact absurd hstatus (hcustody.sound _ _ ht).made
  | succeed hpoll ht hstatus =>
    rw [length_succeed (horderly.owner hserving)] at hquiet
    exact absurd hquiet (Nat.succ_ne_self _)
  | @release who uuid t' ok h hpoll ht hdone =>
    rw [subject, hpoll] at hsubject
    obtain rfl : t' = t := Option.some.inj hsubject
    have hsound := hcustody.sound _ _ ht
    obtain ⟨hprocess, rfl⟩ | hfinish := hdone
    · -- gRPC has not returned such a tag
      have hop := hlistening.uncalled hserving h (List.mem_of_getElem? ht)
        (hsound.event _ _ hpoll hprocess)
      have hqueued := (hsound.alone_queued ht hop).1
      rw [(hsound.alone_polled _ (by rw [hpoll]; rfl)).1] at hqueued
      cases hqueued
    · refine iff_of_false (not_listens (h := h) ?_ (.inl hfinish)) (not_listens ht (.inl hfinish))
      rwa [handlers_setPoll, handlers_tryUnregister]
  | @reply who uuid t' h status hpoll ht hstatus =>
    rw [subject, hpoll] at hsubject
    obtain rfl : t' = t := Option.some.inj hsubject
    obtain rfl := eq_runner who horderly hdraining (.inr (by rw [hpoll]; rintro ⟨⟩))
    obtain ⟨-, hnot⟩ := not_listens_of_polled (r := r) hcustody ht (by rw [hpoll]; rfl)
      fun ok => by rw [hpoll]; rintro ⟨⟩
    refine iff_of_false (not_listens (h := h.finish status) ?_ (.inl rfl)) hnot
    rw [handlers_setPoll]
    exact handlers_update_self ht
  | @detach who uuid t' h hpoll ht hstatus =>
    rw [subject, hpoll] at hsubject
    obtain rfl : t' = t := Option.some.inj hsubject
    obtain rfl := eq_runner who horderly hdraining (.inr (by rw [hpoll]; rintro ⟨⟩))
    obtain ⟨hqueued, hnot⟩ := not_listens_of_polled (r := r) hcustody ht (by rw [hpoll]; rfl)
      fun ok => by rw [hpoll]; rintro ⟨⟩
    refine iff_of_false (not_listens (h := h) ?_ (.inr ⟨?_, fun ok => ?_⟩)) hnot
    · rwa [handlers_setPoll]
    · rwa [queued_setPoll]
    · rw [poll_setPoll]
      rintro ⟨⟩
  | @waiterFinish i hasValue t' hi =>
    rw [subject, hi] at hsubject
    obtain rfl : t' = t := Option.some.inj hsubject
    have hmem := List.mem_of_getElem? hi
    have ht := List.getElem?_eq_getElem (hcustody.waiters _ hmem)
    obtain ⟨hqueued, hpolls, -⟩ := (hcustody.sound _ _ ht).alone_awaited hmem
    refine iff_of_false (not_listens (handlers_update_self ht) (.inl rfl)) (not_listens ht
      (.inr ⟨hqueued, fun ok hevent => hpolls .runner (by rw [hevent]; rfl)⟩))
  | waiterEnd hi | stop hphase | shutdownQueue hphase | endDrain hphase hdrained
  | clear hphase hjoined => cases hsubject

/-- A step that creates no successor leaves the handlers of the methods. -/
theorem listens_step (hcustody : s.Custody) (horderly : s.Orderly) (hlistening : s.Listening)
    (hserving : s.phase = .serving) (hstep : ServerStep s a s')
    (hquiet : s'.handlers.length = s.handlers.length) : s'.Listens r t ↔ s.Listens r t := by
  by_cases hlt : t < s.handlers.length
  · by_cases hsubject : s.subject a = some t
    · exact listens_subject hcustody horderly hlistening hserving hstep hsubject hquiet
    · exact (untouched_step hstep hlt hsubject).listens
  · exact iff_of_false (fun ⟨_, ht, _⟩ => hlt (hquiet ▸ lt_length ht))
      fun ⟨_, ht, _⟩ => hlt (lt_length ht)

/-- **A successor takes over**, for its method. -/
theorem listens_succeed (hcustody : s.Custody) (horderly : s.Orderly) (hlistening : s.Listening)
    (hserving : s.phase = .serving) (hpoll : s.poll .runner = .event t true)
    (ht : s.handlers[t]? = some h) (hstatus : h.status = .process) {u : Tag} :
    ((s.createAndRegister h.rpc).setPoll .runner (.succeeded t)).Listens r u ↔
      if r = h.rpc then u = s.handlers.length else s.Listens r u := by
  have hstep : ServerStep s (.proceed .runner .missing) _ := .succeed hpoll ht hstatus
  have howner := horderly.owner hserving
  have htag : (s.poll .runner).tag = some t := by rw [hpoll]; rfl
  have hlistens : s.Listens h.rpc t := ⟨h, ht, rfl, hstatus, .inr ⟨true, hpoll⟩⟩
  obtain hlt | rfl | hgt := Nat.lt_trichotomy u s.handlers.length
  · have hne : u ≠ s.handlers.length := Nat.ne_of_lt hlt
    by_cases htu : u = t
    · subst htu
      have hframe := (untouched_createAndRegister h.rpc hlt).handler
      refine iff_of_false (not_listens (h := h) ?_ (.inr ⟨?_, fun ok => ?_⟩)) ?_
      · rw [handlers_setPoll, hframe, ht]
      · rw [queued_setPoll, queued, hframe, ← queued]
        exact ((hcustody.sound _ _ ht).alone_polled _ htag).1
      · rw [poll_setPoll]
        rintro ⟨⟩
      · split_ifs with hr
        · exact hne
        · rw [listens_iff ht]
          exact fun hold => hr hold.1.symm
    · have hsubject : s.subject (.proceed .runner .missing) ≠ some u := by
        rw [subject, htag]
        exact fun heq => htu (Option.some.inj heq).symm
      rw [(untouched_step hstep hlt hsubject).listens]
      split_ifs with hr
      · refine iff_of_false (fun hold => htu ?_) hne
        rw [hr] at hold
        exact (hlistening.one hserving h.rpc).unique hold hlistens
      · exact Iff.rfl
  · have hnew : ((s.createAndRegister h.rpc).setPoll .runner (.succeeded t)).handlers[
        s.handlers.length]? = some (CallData.new h.rpc).request := by
      rw [handlers_succeed howner, List.getElem?_concat_length]
    rw [listens_iff hnew]
    split_ifs with hr
    · exact iff_of_true ⟨hr.symm, rfl, .inl (Option.some_ne_none _)⟩ rfl
    · refine iff_of_false (fun hnew => hr hnew.1.symm) ?_
      rintro ⟨_, hold, _⟩
      exact Nat.lt_irrefl _ (lt_length hold)
  · refine iff_of_false ?_ ?_
    · rintro ⟨_, hnew, _⟩
      have hlt := lt_length hnew
      rw [length_succeed howner] at hlt
      exact Nat.not_lt.mpr (Nat.le_of_lt_succ hlt) hgt
    · split_ifs
      · exact Nat.ne_of_gt hgt
      · rintro ⟨_, hold, _⟩
        exact Nat.lt_asymm hgt (lt_length hold)

/-- **Every step keeps one handler for each method**, while the server runs. -/
theorem listening_step (hcustody : s.Custody) (horderly : s.Orderly) (hlistening : s.Listening)
    (hok : s.Documented a) (hstep : ServerStep s a s') : s'.Listening := by
  have hbefore : s'.phase = .serving → s.phase = .serving := by
    intro hserving
    cases phase_cases hstep with
    | same hphase howner => exact hphase.symm.trans hserving
    | stop hphase hphase' | endDrain hphase hphase' | clear hphase hphase' =>
      rw [hserving] at hphase'
      cases hphase'
    | shutdownQueue ha hphase hs' =>
      rw [hs'] at hserving
      cases hserving
  refine ⟨fun hserving r => ?_, fun hserving h hmem huncalled => ?_⟩
  · have hserving₀ := hbefore hserving
    have hone := hlistening.one hserving₀ r
    obtain heq | ⟨who, t, h, howner, hpoll, ht, hstatus, rfl⟩ := handlers_step hstep
    · simp only [listens_step hcustody horderly hlistening hserving₀ hstep heq]
      exact hone
    · obtain rfl := eq_runner who horderly (by rw [hserving₀]; nofun)
        (.inr (by rw [hpoll]; nofun))
      simp only [listens_succeed hcustody horderly hlistening hserving₀ hpoll ht hstatus]
      split_ifs
      · exact ⟨_, rfl, fun _ heq => heq⟩
      · exact hone
  · have hold := hlistening.uncalled (hbefore hserving)
    have hcalled : ∀ {h' : CallData} {status}, h'.accepted = true → h = h'.finish status →
        False := by
      rintro h' status haccepted rfl
      rw [show (h'.finish status).accepted = h'.accepted from rfl, haccepted] at huncalled
      cases huncalled
    cases hstep with
    | accept ht hop =>
      obtain hmem | ⟨h', -, rfl⟩ := mem_update hmem
      · exact hold h hmem huncalled
      · cases huncalled
    | next hpolls hpoll ht hop =>
      rw [handlers_setPoll] at hmem
      obtain hmem | ⟨h', ht', rfl⟩ := mem_update hmem
      · exact hold h hmem huncalled
      · -- while the server runs, a `Request` is returned with a call
        have hop := hold h' (List.mem_of_getElem? ht') huncalled
        exact absurd (hbefore hserving) ((hok h' ht' false hop).2 rfl)
    | request hpoll ht hstatus => exact absurd hstatus (hcustody.sound _ _ ht).made
    | succeed hpoll ht hstatus =>
      rw [handlers_succeed (horderly.owner (hbefore hserving))] at hmem
      obtain hmem | hmem := List.mem_append.mp hmem
      · exact hold h hmem huncalled
      · rw [List.mem_singleton.mp hmem]
        rfl
    | release hpoll ht hdone =>
      rw [handlers_setPoll, handlers_tryUnregister] at hmem
      exact hold h hmem huncalled
    | reply hpoll ht hstatus =>
      rw [handlers_setPoll] at hmem
      obtain hmem | ⟨h', ht', hfinish⟩ := mem_update hmem
      · exact hold h hmem huncalled
      · exact (hcalled ((hcustody.sound _ _ ht').succeeded _ hpoll).1 hfinish).elim
    | detach hpoll ht hstatus =>
      rw [handlers_setPoll] at hmem
      exact hold h hmem huncalled
    | waiterFinish hi =>
      obtain hmem | ⟨h', ht', hfinish⟩ := mem_update hmem
      · exact hold h hmem huncalled
      · have hwaiting := awaited_pos.mpr (List.mem_of_getElem? hi)
        exact (hcalled ((hcustody.sound _ _ ht').waiting hwaiting).1 hfinish).elim
    | waiterEnd hi | stop hphase | shutdownQueue hphase | endDrain hphase hdrained
    | clear hphase hjoined => exact hold h hmem huncalled

theorem listening_run : run.Listening := by
  refine ⟨fun _ r => ?_, fun _ h hmem _ => ?_⟩
  · have hlistens : ∀ t, run.Listens r t ↔ Rpc.all[t]? = some r := by
      intro t
      rw [Listens, handlers_run, List.getElem?_map]
      constructor
      · rintro ⟨h, hh, rfl, -⟩
        obtain ⟨rpc, hrpc, rfl⟩ := Option.map_eq_some_iff.mp hh
        exact hrpc
      · intro ht
        exact ⟨(CallData.new r).request, by rw [ht]; rfl, rfl, rfl, .inl nofun⟩
    simp only [hlistens]
    have hmem : r ∈ Rpc.all := by cases r <;> decide
    obtain ⟨t, ht⟩ := List.mem_iff_getElem?.mp hmem
    refine ⟨t, ht, fun u hu => ?_⟩
    have hlt := (List.getElem?_eq_some_iff.mp hu).1
    exact (List.getElem?_inj hlt (by decide)).mp (hu.trans ht.symm)
  · obtain ⟨rpc, -, rfl⟩ := List.mem_map.mp (handlers_run ▸ hmem)
    rfl

/-! ### Calls can be answered -/

/-- What is known of the server and its handlers. -/
structure Kept (s : EventServer) : Prop where
  /-- Of the handlers. -/
  custody : s.Custody
  /-- Of the phases. -/
  orderly : s.Orderly
  /-- Of the handlers that wait for calls. -/
  listening : s.Listening

theorem kept_run : run.Kept := ⟨custody_run, orderly_run, listening_run⟩

theorem kept_step (hkept : s.Kept) (hok : s.Documented a) (hstep : s.step a = some s') :
    s'.Kept := by
  have hcases := step_cases hstep
  exact ⟨custody_step hkept.custody hok hcases, orderly_step hkept.custody hkept.orderly hok hcases,
    listening_step hkept.custody hkept.orderly hkept.listening hok hcases⟩

/-- **The call can be answered**: the threads that have tags can go on so that its handler calls
`Finish`, once. -/
def Answerable (s : EventServer) (t : Tag) : Prop :=
  ∃ as s' h, Guarded step Documented s as ∧ runFrom step s as = some s' ∧
    s'.handlers[t]? = some h ∧ h.finishes.length = 1

/-- The call has not been answered. -/
structure Unanswered (s : EventServer) (t : Tag) (h : CallData) : Prop where
  /-- The handler is there. -/
  handler : s.handlers[t]? = some h
  /-- There is a call. -/
  accepted : h.accepted = true
  /-- There has been no `Finish`. -/
  status : h.status = .process

theorem Answerable.of_step (hok : s.Documented a) (hstep : s.step a = some s')
    (hrest : s'.Answerable t) : s.Answerable t := by
  obtain ⟨as, s₂, h, hguarded, hrun, ht, hone⟩ := hrest
  refine ⟨a :: as, s₂, h, ⟨hok, fun s₁ hs₁ => ?_⟩, runFrom_cons.mpr ⟨s', hstep, hrun⟩, ht, hone⟩
  rw [hstep] at hs₁
  cases hs₁
  exact hguarded

theorem documented_proceed {uuid : Uuid} : s.Documented (.proceed who uuid) := trivial

theorem documented_waiterFinish {i : ℕ} {hasValue : Bool} :
    s.Documented (.waiterFinish i hasValue) := trivial

/-- It is answered now. -/
theorem Answerable.of_finish (status : Status) (hkept : s.Kept)
    (ht : s.handlers[t]? = some (h.finish status)) : s.Answerable t :=
  ⟨[], s, _, trivial, rfl, ht, (hkept.custody.sound _ _ ht).answers⟩

theorem answerable_waiting (hkept : s.Kept) (hopen : s.Unanswered t h)
    (hwaiting : 0 < s.awaited t) : s.Answerable t := by
  obtain ⟨i, hi⟩ := List.mem_iff_getElem?.mp (awaited_pos.mp hwaiting)
  have hstep : s.step (.waiterFinish i true) =
      some ((s.update t (.finish (waiterStatus true))).setWaiter i .answered) := by
    rw [step, hi]
  have hkept' := kept_step hkept documented_waiterFinish hstep
  exact .of_step documented_waiterFinish hstep
    (.of_finish _ hkept' (handlers_update_self hopen.handler))

/-- Without an identifier `Proceed` gives the answer itself. -/
theorem exists_reply (hpoll : s.poll who = .succeeded t) (ht : s.handlers[t]? = some h) :
    ∃ status, s.step (.proceed who .missing) =
      some ((s.update t (.finish status)).setPoll who .idle) := by
  obtain ⟨status, hstatus⟩ : ∃ status, replyStatus h.rpc .missing = some status := by
    rw [replyStatus]
    split_ifs
    · exact ⟨_, rfl⟩
    · exact ⟨_, rfl⟩
  refine ⟨status, ?_⟩
  rw [step, hpoll]
  dsimp only
  rw [ht, Option.map_some, reply, hstatus]

theorem answerable_succeeded (hkept : s.Kept) (hopen : s.Unanswered t h)
    (hpoll : s.poll who = .succeeded t) : s.Answerable t := by
  obtain ⟨status, hstep⟩ := exists_reply hpoll hopen.handler
  refine .of_step documented_proceed hstep
    (.of_finish (h := h) status (kept_step hkept documented_proceed hstep) ?_)
  rw [handlers_setPoll]
  exact handlers_update_self hopen.handler

theorem answerable_event {ok : Bool} (hkept : s.Kept) (hopen : s.Unanswered t h)
    (hpoll : s.poll who = .event t ok) : s.Answerable t := by
  obtain rfl : ok = true := by
    rw [← (hkept.custody.sound _ _ hopen.handler).event who ok hpoll hopen.status]
    exact hopen.accepted
  have hstep : s.step (.proceed who .missing) =
      some ((s.createAndRegister h.rpc).setPoll who (.succeeded t)) := by
    rw [step, hpoll]
    dsimp only
    rw [hopen.handler, Option.map_some, proceed, hopen.status]
    rfl
  have hkept' := kept_step hkept documented_proceed hstep
  refine .of_step documented_proceed hstep
    (answerable_succeeded (h := h) hkept' ⟨?_, hopen.accepted, hopen.status⟩ poll_setPoll)
  rw [handlers_setPoll, (untouched_createAndRegister _ (lt_length hopen.handler)).handler]
  exact hopen.handler

/-- The tag of the request is with gRPC, and the runner can get it. -/
theorem answerable_idle (hkept : s.Kept) (hopen : s.Unanswered t h)
    (hop : h.operation = some (.request true)) (hidle : s.poll .runner = .idle) :
    s.Answerable t := by
  have hpolls : s.Polls .runner := by
    intro hcleared
    have hanswered := hkept.orderly.answered (.inr (.inr hcleared)) h
      (List.mem_of_getElem? hopen.handler) hopen.accepted
    rw [hopen.status] at hanswered
    cases hanswered
  have hok : s.Documented (.next .runner t true) := by
    intro h' ht' matched hop'
    rw [hopen.handler] at ht'
    cases ht'
    rw [hop] at hop'
    cases hop'
    exact ⟨rfl, nofun⟩
  have hstep : s.step (.next .runner t true) =
      some ((s.update t .giveBack).setPoll .runner (.event t true)) := by
    rw [step, if_pos]
    refine ⟨hpolls, hidle, ?_⟩
    rw [hopen.handler, Option.bind_some, hop]
    rfl
  refine .of_step hok hstep (answerable_event (h := h.giveBack) (kept_step hkept hok hstep)
    ⟨?_, hopen.accepted, hopen.status⟩ poll_setPoll)
  rw [handlers_setPoll]
  exact handlers_update_self hopen.handler

/-- The runner is answering another call. -/
theorem answerable_busy {u : Tag} (hkept : s.Kept) (hopen : s.Unanswered t h)
    (hop : h.operation = some (.request true)) (hpoll : s.poll .runner = .succeeded u) :
    s.Answerable t := by
  have hsound := hkept.custody.sound _ _ hopen.handler
  have hne : s.subject (.proceed .runner .missing) ≠ some t :=
    (hsound.alone_queued hopen.handler hop).2.1 .runner
  have hu := List.getElem?_eq_getElem (hkept.custody.polls .runner u (by rw [hpoll]; rfl))
  obtain ⟨status, hstep⟩ := exists_reply hpoll hu
  have hframe := untouched_step (step_cases hstep) (lt_length hopen.handler) hne
  have hkept' := kept_step hkept documented_proceed hstep
  have hopen' : Unanswered _ t h :=
    ⟨hframe.handler.trans hopen.handler, hopen.accepted, hopen.status⟩
  exact .of_step documented_proceed hstep (answerable_idle hkept' hopen' hop poll_setPoll)

/-- The runner is done with a tag, or answers a call. -/
theorem poll_proceed (who : Poller) (ok : Bool) : (s.proceed who t ok h).poll who = .idle ∨
    (s.proceed who t ok h).poll who = .succeeded t := by
  rw [proceed]
  split
  · exact .inl poll_setPoll
  · split_ifs
    · exact .inr poll_setPoll
    · exact .inl poll_setPoll
  · exact .inl poll_setPoll

theorem answerable_queued (hkept : s.Kept) (hopen : s.Unanswered t h)
    (hop : h.operation = some (.request true)) : s.Answerable t := by
  cases hpoll : s.poll .runner with
  | idle => exact answerable_idle hkept hopen hop hpoll
  | succeeded u => exact answerable_busy hkept hopen hop hpoll
  | event u ok =>
    have hsound := hkept.custody.sound _ _ hopen.handler
    have hne : s.subject (.proceed .runner .missing) ≠ some t :=
      (hsound.alone_queued hopen.handler hop).2.1 .runner
    obtain ⟨h', hu⟩ : ∃ h', s.handlers[u]? = some h' :=
      ⟨_, List.getElem?_eq_getElem (hkept.custody.polls .runner u (by rw [hpoll]; rfl))⟩
    have hstep : s.step (.proceed .runner .missing) = some (s.proceed .runner u ok h') := by
      rw [step, hpoll]
      dsimp only
      rw [hu, Option.map_some]
    have hkept' := kept_step hkept documented_proceed hstep
    have hframe := untouched_step (step_cases hstep) (lt_length hopen.handler) hne
    have hopen' : Unanswered _ t h :=
      ⟨hframe.handler.trans hopen.handler, hopen.accepted, hopen.status⟩
    refine .of_step documented_proceed hstep ?_
    obtain hpoll' | hpoll' := poll_proceed (s := s) (t := u) (h := h') .runner ok
    · exact answerable_idle hkept' hopen' hop hpoll'
    · exact answerable_busy hkept' hopen' hop hpoll'

/-- **Every call that has been accepted can be answered.** -/
theorem Kept.answerable (hkept : s.Kept) (hopen : s.Unanswered t h) : s.Answerable t := by
  have hsound := hkept.custody.sound _ _ hopen.handler
  by_cases hqueued : h.operation = none
  · by_cases hpolled : ∃ who, (s.poll who).tag = some t
    · obtain ⟨who, htag⟩ := hpolled
      cases hpoll : s.poll who with
      | idle =>
        rw [hpoll] at htag
        cases htag
      | event u ok =>
        rw [hpoll] at htag
        cases htag
        exact answerable_event hkept hopen hpoll
      | succeeded u =>
        rw [hpoll] at htag
        cases htag
        exact answerable_succeeded hkept hopen hpoll
    · have howed := hsound.owed hopen.accepted hopen.status
      have hzero : ∀ who, s.polled who t = 0 := fun who => polled_ne fun htag => hpolled ⟨who, htag⟩
      rw [holders, queued_some hopen.handler, hqueued, hzero, hzero] at howed
      refine answerable_waiting hkept hopen ?_
      simp only [Option.isSome_none, Bool.toNat_false] at howed
      omega
  · obtain ⟨op, hop⟩ := Option.ne_none_iff_exists'.mp hqueued
    cases op with
    | request matched =>
      obtain rfl : true = matched := hopen.accepted.symm.trans (hsound.requested matched hop).2
      exact answerable_queued hkept hopen hop
    | finish =>
      have hfinish := hsound.finishing hop
      rw [hopen.status] at hfinish
      cases hfinish

/-! ### Every run -/

/-- The handler has an outstanding `Request` for the method. -/
def HasRequest (s : EventServer) (r : Rpc) (t : Tag) : Prop :=
  ∃ h, s.handlers[t]? = some h ∧ h.rpc = r ∧ ∃ matched, h.operation = some (.request matched)

/-- The tag is outstanding: gRPC has it, or a thread that has got it is not done with it. -/
def Outstanding (s : EventServer) (t : Tag) : Prop :=
  (∃ h op, s.handlers[t]? = some h ∧ h.operation = some op) ∨ ∃ who, (s.poll who).tag = some t

/-- The handler has not been released: it is in `alive_handlers_`, or a detached thread has captured
it. -/
def Owned (s : EventServer) (t : Tag) : Prop :=
  t ∈ s.aliveHandlers ∨ ∃ w ∈ s.waiters, w.self = t ∧ w.stage ≠ .ended

/-- **The handlers work.** -/
structure Live (s : EventServer) : Prop where
  /-- From the end of `Run` until the stop begins, between two tags, each method has exactly one
  handler with an outstanding `Request`. -/
  listening : s.phase = .serving → s.poll .runner = .idle → ∀ r, ∃! t, s.HasRequest r t
  /-- Only a call is answered. -/
  called : ∀ (t : Tag) (h : CallData), s.handlers[t]? = some h → h.finishes ≠ [] → h.accepted = true
  /-- A call is not answered twice. -/
  once : ∀ (t : Tag) (h : CallData), s.handlers[t]? = some h → h.finishes.length ≤ 1
  /-- A call that is accepted has been answered, or can be. -/
  answerable : ∀ (t : Tag) (h : CallData), s.handlers[t]? = some h → h.accepted = true →
    h.finishes.length = 1 ∨ s.Answerable t
  /-- When the queue is shut down, each call has been answered. -/
  answered : s.QueueShut → ∀ (t : Tag) (h : CallData), s.handlers[t]? = some h → h.accepted = true →
    h.finishes.length = 1
  /-- While the tag of a handler is outstanding, the handler has not been released. -/
  owned : ∀ t, s.Outstanding t → s.Owned t

/-- A tag that is outstanding is somewhere. -/
theorem holders_pos (houtstanding : s.Outstanding t) : 0 < s.holders t := by
  obtain ⟨h, op, ht, hop⟩ | ⟨who, htag⟩ := houtstanding
  · rw [holders, queued_some ht, hop, Option.isSome_some, Bool.toNat_true]
    omega
  · rw [holders_eq who, polled_eq htag]
    omega

/-- When the handlers are released, no tag is outstanding. -/
theorem Kept.not_outstanding (hkept : s.Kept) (hcleared : s.phase = .cleared) :
    ¬ s.Outstanding t := by
  rintro (⟨h, op, ht, hop⟩ | ⟨who, htag⟩)
  · rw [hkept.orderly.drained (.inr hcleared) h (List.mem_of_getElem? ht)] at hop
    cases hop
  · cases who with
    | runner =>
      rw [hkept.orderly.joined hcleared] at htag
      cases htag
    | closer =>
      rw [hkept.orderly.closer (by rw [hcleared]; nofun)] at htag
      cases htag

theorem Kept.live (hkept : s.Kept) : s.Live := by
  refine ⟨fun hserving hidle r => ?_, fun t h ht hne => ?_, fun t h ht => ?_,
    fun t h ht hcall => ?_, fun hshut t h ht hcall => ?_, fun t houtstanding => .inl ?_⟩
  · have hiff : ∀ t, s.HasRequest r t ↔ s.Listens r t := by
      intro t
      constructor
      · rintro ⟨h, ht, hr, matched, hop⟩
        refine ⟨h, ht, hr, ((hkept.custody.sound t h ht).requested matched hop).1, .inl ?_⟩
        rw [hop]
        nofun
      · rintro ⟨h, ht, hr, hstatus, hop | ⟨ok, hevent⟩⟩
        · obtain ⟨op, hop⟩ := Option.ne_none_iff_exists'.mp hop
          cases op with
          | request matched => exact ⟨h, ht, hr, matched, hop⟩
          | finish =>
            rw [(hkept.custody.sound t h ht).finishing hop] at hstatus
            cases hstatus
        · rw [hidle] at hevent
          cases hevent
    simp only [hiff]
    exact hkept.listening.one hserving r
  · have hsound := hkept.custody.sound t h ht
    exact hsound.called (hsound.status_eq hne)
  · rw [(hkept.custody.sound t h ht).answers]
    split_ifs
    · exact Nat.le_refl 1
    · exact Nat.zero_le 1
  · have hsound := hkept.custody.sound t h ht
    cases hstatus : h.status with
    | create => exact absurd hstatus hsound.made
    | process => exact .inr (hkept.answerable ⟨ht, hcall, hstatus⟩)
    | finish => exact .inl (by rw [hsound.answers, if_pos hstatus])
  · rw [(hkept.custody.sound t h ht).answers,
      if_pos (hkept.orderly.answered hshut h (List.mem_of_getElem? ht) hcall)]
  · by_cases hcleared : s.phase = .cleared
    · exact absurd houtstanding (hkept.not_outstanding hcleared)
    · exact hkept.orderly.alive hcleared t (holders_pos houtstanding)

/-- Two calls are answered, one by the runner and one by a detached thread, and then the server is
stopped: the second answer comes while it waits for the calls that there are. -/
def serveAndStop : List ServerAct :=
  [.accept 0, .accept 2, .next .runner 0 true, .proceed .runner .valid, .proceed .runner .valid,
    .next .runner 2 true, .proceed .runner .valid, .proceed .runner .valid, .stop false,
    .waiterFinish 0 true, .shutdownQueue] ++
  [0, 1, 2, 3, 4, 5, 6, 7, 8].flatMap (fun t => [.next .closer t false, .proceed .closer .valid]) ++
  [.waiterEnd 0, .endDrain, .clear]

end DetectBase.Grpc.EventServer
