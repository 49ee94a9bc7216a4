import DetectBase.Grpc.Handlers
import Mathlib.Tactic.Attr.Core

/-!
# Who has a handler

The tag of a handler is with gRPC, or with a thread that has got it from `Next`, or a detached
thread that has captured the handler is still to call `Finish` with it. It is never in two of these
places (`DetectBase.Grpc.EventServer.Sound.held`), and a call that has been accepted is in one of
them until it is answered (`DetectBase.Grpc.EventServer.Sound.owed`). A step is about one handler
and leaves the others where they are (`DetectBase.Grpc.EventServer.untouched_step`).
-/

namespace DetectBase.Grpc

/-- The other thread. -/
def Poller.other : Poller → Poller
  | .runner => .closer
  | .closer => .runner

namespace EventServer

variable {s s' s₁ : EventServer} {a : ServerAct} {t : Tag} {h : CallData} {who : Poller} {p : Poll}

/-! ### Places -/

/-- gRPC has the tag. -/
def queued (s : EventServer) (t : Tag) : ℕ :=
  (s.handlers[t]?.bind CallData.operation).isSome.toNat

/-- The thread has the tag. -/
def polled (s : EventServer) (who : Poller) (t : Tag) : ℕ :=
  (decide ((s.poll who).tag = some t)).toNat

/-- The number of detached threads that are to call `Finish` with the tag. -/
def awaited (s : EventServer) (t : Tag) : ℕ :=
  s.waiters.countP fun w => w = ⟨t, .waiting⟩

/-- **The number of places** where the tag is. -/
def holders (s : EventServer) (t : Tag) : ℕ :=
  s.queued t + s.polled .runner t + s.polled .closer t + s.awaited t

theorem holders_eq (who : Poller) :
    s.holders t = s.queued t + s.polled who t + s.polled who.other t + s.awaited t := by
  cases who with
  | runner => rfl
  | closer =>
    rw [holders, Poller.other]
    omega

theorem queued_some (ht : s.handlers[t]? = some h) :
    s.queued t = h.operation.isSome.toNat := by
  rw [queued, ht, Option.bind_some]

theorem polled_eq (hp : (s.poll who).tag = some t) : s.polled who t = 1 := by
  simp [polled, hp]

theorem polled_ne (hp : (s.poll who).tag ≠ some t) : s.polled who t = 0 := by
  simp [polled, hp]

theorem awaited_pos : 0 < s.awaited t ↔ ⟨t, .waiting⟩ ∈ s.waiters := by
  simp [awaited, List.countP_pos_iff]

@[simp] theorem handlers_setPoll : (s.setPoll who p).handlers = s.handlers := by cases who <;> rfl

@[simp] theorem aliveHandlers_setPoll : (s.setPoll who p).aliveHandlers = s.aliveHandlers := by
  cases who <;> rfl

@[simp] theorem waiters_setPoll : (s.setPoll who p).waiters = s.waiters := by cases who <;> rfl

@[simp] theorem phase_setPoll : (s.setPoll who p).phase = s.phase := by cases who <;> rfl

@[simp] theorem ownerAlive_setPoll : (s.setPoll who p).ownerAlive = s.ownerAlive := by
  cases who <;> rfl

@[simp] theorem poll_setPoll : (s.setPoll who p).poll who = p := by cases who <;> rfl

@[simp] theorem poll_setPoll_other : (s.setPoll who p).poll who.other = s.poll who.other := by
  cases who <;> rfl

theorem poller_cases (who who' : Poller) : who' = who ∨ who' = who.other := by
  cases who <;> cases who' <;> simp [Poller.other]

@[simp] theorem poll_update {f : CallData → CallData} : (s.update t f).poll who = s.poll who := by
  cases who <;> rfl

@[simp] theorem poll_detach {u : Tag} : (s.detach u).poll who = s.poll who := by cases who <;> rfl

@[simp] theorem poll_setWaiter {i : ℕ} {stage : Stage} :
    (s.setWaiter i stage).poll who = s.poll who := by
  cases who <;> rfl

/-- Without the owner nothing is unregistered, and with it only from the map. -/
theorem exists_tryUnregister (s : EventServer) (t : Tag) :
    ∃ alive, s.tryUnregister t = { s with aliveHandlers := alive } := by
  rw [tryUnregister]
  split_ifs
  · exact ⟨_, rfl⟩
  · exact ⟨_, rfl⟩

/-- A new handler is in the list and in the map, if there is an owner. -/
theorem exists_createAndRegister (s : EventServer) (rpc : Rpc) :
    ∃ handlers alive, s.createAndRegister rpc =
      { s with handlers := handlers, aliveHandlers := alive } := by
  rw [createAndRegister]
  split_ifs
  · exact ⟨_, _, rfl⟩
  · exact ⟨_, _, rfl⟩

theorem poll_tryUnregister : (s.tryUnregister t).poll who = s.poll who := by
  obtain ⟨alive, heq⟩ := s.exists_tryUnregister t
  rw [heq]
  cases who <;> rfl

theorem poll_createAndRegister {rpc : Rpc} : (s.createAndRegister rpc).poll who = s.poll who := by
  obtain ⟨handlers, alive, heq⟩ := s.exists_createAndRegister rpc
  rw [heq]
  cases who <;> rfl

@[simp] theorem queued_setPoll : (s.setPoll who p).queued t = s.queued t := by
  rw [queued, handlers_setPoll, queued]

@[simp] theorem awaited_setPoll : (s.setPoll who p).awaited t = s.awaited t := by
  rw [awaited, waiters_setPoll, awaited]

@[simp] theorem polled_setPoll :
    (s.setPoll who p).polled who t = (decide (p.tag = some t)).toNat := by
  rw [polled, poll_setPoll]

@[simp] theorem polled_setPoll_other :
    (s.setPoll who p).polled who.other t = s.polled who.other t := by
  rw [polled, poll_setPoll_other, polled]

@[simp] theorem polled_update {u : Tag} {f : CallData → CallData} :
    (s.update u f).polled who t = s.polled who t := by
  rw [polled, poll_update, polled]

@[simp] theorem awaited_update {u : Tag} {f : CallData → CallData} :
    (s.update u f).awaited t = s.awaited t := rfl

@[simp] theorem polled_detach {u : Tag} : (s.detach u).polled who t = s.polled who t := by
  rw [polled, poll_detach, polled]

@[simp] theorem queued_detach {u : Tag} : (s.detach u).queued t = s.queued t := rfl

theorem awaited_detach : (s.detach t).awaited t = s.awaited t + 1 := by
  rw [awaited, detach, List.countP_append]
  simp [awaited]

@[simp] theorem polled_setWaiter {i : ℕ} {stage : Stage} :
    (s.setWaiter i stage).polled who t = s.polled who t := by
  rw [polled, poll_setWaiter, polled]

@[simp] theorem queued_setWaiter {i : ℕ} {stage : Stage} :
    (s.setWaiter i stage).queued t = s.queued t := rfl

theorem waiters_setWaiter {i : ℕ} {w : Waiter} {stage : Stage} (hi : s.waiters[i]? = some w) :
    (s.setWaiter i stage).waiters = s.waiters.set i ⟨w.self, stage⟩ := by
  obtain ⟨hlt, hget⟩ := List.getElem?_eq_some_iff.mp hi
  rw [setWaiter, List.modify_eq_set_get _ hlt]
  simp [hget]

/-- A detached thread gets on, with another handler or with `Finish` behind it. -/
theorem awaited_setWaiter {i : ℕ} {w : Waiter} {stage : Stage} (hi : s.waiters[i]? = some w)
    (hne : w ≠ ⟨t, .waiting⟩) (hstage : stage ≠ .waiting) :
    (s.setWaiter i stage).awaited t = s.awaited t := by
  obtain ⟨hlt, hget⟩ := List.getElem?_eq_some_iff.mp hi
  rw [awaited, waiters_setWaiter hi, List.countP_set hlt, hget, awaited]
  simp [hne, hstage]

/-- A detached thread has called `Finish`. -/
theorem awaited_setWaiter_self {i : ℕ} {stage : Stage} (hi : s.waiters[i]? = some ⟨t, .waiting⟩)
    (hstage : stage ≠ .waiting) : (s.setWaiter i stage).awaited t = s.awaited t - 1 := by
  obtain ⟨hlt, hget⟩ := List.getElem?_eq_some_iff.mp hi
  rw [awaited, waiters_setWaiter hi, List.countP_set hlt, hget, awaited]
  simp [hstage]

@[simp] theorem phase_createAndRegister {rpc : Rpc} :
    (s.createAndRegister rpc).phase = s.phase := by
  obtain ⟨handlers, alive, heq⟩ := s.exists_createAndRegister rpc
  rw [heq]

@[simp] theorem ownerAlive_createAndRegister {rpc : Rpc} :
    (s.createAndRegister rpc).ownerAlive = s.ownerAlive := by
  obtain ⟨handlers, alive, heq⟩ := s.exists_createAndRegister rpc
  rw [heq]

@[simp] theorem phase_tryUnregister : (s.tryUnregister t).phase = s.phase := by
  obtain ⟨alive, heq⟩ := s.exists_tryUnregister t
  rw [heq]

@[simp] theorem ownerAlive_tryUnregister : (s.tryUnregister t).ownerAlive = s.ownerAlive := by
  obtain ⟨alive, heq⟩ := s.exists_tryUnregister t
  rw [heq]

@[simp] theorem waiters_createAndRegister {rpc : Rpc} :
    (s.createAndRegister rpc).waiters = s.waiters := by
  obtain ⟨handlers, alive, heq⟩ := s.exists_createAndRegister rpc
  rw [heq]

@[simp] theorem waiters_tryUnregister : (s.tryUnregister t).waiters = s.waiters := by
  obtain ⟨alive, heq⟩ := s.exists_tryUnregister t
  rw [heq]

@[simp] theorem handlers_tryUnregister : (s.tryUnregister t).handlers = s.handlers := by
  obtain ⟨alive, heq⟩ := s.exists_tryUnregister t
  rw [heq]

theorem handlers_update_self {f : CallData → CallData} (ht : s.handlers[t]? = some h) :
    (s.update t f).handlers[t]? = some (f h) := by
  rw [update]
  simp [ht]

theorem queued_update {f : CallData → CallData} (ht : s.handlers[t]? = some h) :
    (s.update t f).queued t = (f h).operation.isSome.toNat :=
  queued_some (handlers_update_self ht)

/-! ### Handlers that a step is not about -/

/-- **The handler is where it was**, and what it was. -/
structure Untouched (s s' : EventServer) (t : Tag) : Prop where
  /-- Its record is the same. -/
  handler : s'.handlers[t]? = s.handlers[t]?
  /-- A thread has it as before, or has others. -/
  poll : ∀ who, s'.poll who = s.poll who ∨ (s.poll who).tag ≠ some t ∧ (s'.poll who).tag ≠ some t
  /-- As many detached threads are to call `Finish`. -/
  awaited : s'.awaited t = s.awaited t

theorem Untouched.refl (s : EventServer) (t : Tag) : Untouched s s t :=
  ⟨rfl, fun _ => .inl rfl, rfl⟩

theorem Untouched.trans (h : Untouched s s₁ t) (h' : Untouched s₁ s' t) : Untouched s s' t := by
  refine ⟨h'.handler.trans h.handler, fun who => ?_, h'.awaited.trans h.awaited⟩
  obtain heq | ⟨hne, hne'⟩ := h.poll who
  · obtain heq' | ⟨hne', hne''⟩ := h'.poll who
    · exact .inl (heq'.trans heq)
    · rw [heq] at hne'
      exact .inr ⟨hne', hne''⟩
  · obtain heq' | ⟨-, hne''⟩ := h'.poll who
    · rw [← heq'] at hne'
      exact .inr ⟨hne, hne'⟩
    · exact .inr ⟨hne, hne''⟩

theorem Untouched.polled (h : Untouched s s' t) (who : Poller) :
    s'.polled who t = s.polled who t := by
  obtain heq | ⟨hne, hne'⟩ := h.poll who
  · rw [EventServer.polled, heq, EventServer.polled]
  · rw [polled_ne hne, polled_ne hne']

theorem Untouched.holders (h : Untouched s s' t) : s'.holders t = s.holders t := by
  rw [EventServer.holders, h.polled, h.polled, h.awaited, queued, h.handler]
  rfl

/-- The list of handlers and the threads are the same. -/
theorem untouched_of_eq (hhandlers : s'.handlers = s.handlers) (hpoll : s'.poll = s.poll)
    (hwaiters : s'.waiters = s.waiters) : Untouched s s' t := by
  refine ⟨by rw [hhandlers], fun who => .inl (by rw [hpoll]), ?_⟩
  rw [EventServer.awaited, hwaiters, EventServer.awaited]

theorem untouched_update {u : Tag} {f : CallData → CallData} (hne : u ≠ t) :
    Untouched s (s.update u f) t := by
  refine ⟨?_, fun _ => .inl poll_update, rfl⟩
  rw [update]
  exact List.getElem?_modify_ne _ _ hne

theorem untouched_setPoll (who : Poller) (hold : (s.poll who).tag ≠ some t)
    (hnew : p.tag ≠ some t) : Untouched s (s.setPoll who p) t := by
  refine ⟨by rw [handlers_setPoll], fun who' => ?_, ?_⟩
  · obtain rfl | rfl := poller_cases who who'
    · rw [poll_setPoll]
      exact .inr ⟨hold, hnew⟩
    · exact .inl poll_setPoll_other
  · rw [EventServer.awaited, waiters_setPoll, EventServer.awaited]

theorem untouched_tryUnregister {u : Tag} : Untouched s (s.tryUnregister u) t := by
  rw [tryUnregister]
  split_ifs
  · exact untouched_of_eq rfl (by funext who; cases who <;> rfl) rfl
  · exact .refl s t

/-- A handler that is there is not the new one. -/
theorem untouched_createAndRegister (rpc : Rpc) (ht : t < s.handlers.length) :
    Untouched s (s.createAndRegister rpc) t := by
  refine ⟨?_, fun _ => .inl poll_createAndRegister, ?_⟩
  · by_cases howner : s.ownerAlive = true
    · rw [createAndRegister_eq howner]
      exact List.getElem?_append_left ht
    · rw [createAndRegister, if_neg howner]
  · rw [createAndRegister]
    split_ifs
    · rfl
    · rfl

theorem untouched_setWaiter {i : ℕ} {w : Waiter} {stage : Stage} (hi : s.waiters[i]? = some w)
    (hne : w ≠ ⟨t, .waiting⟩) (hstage : stage ≠ .waiting) :
    Untouched s (s.setWaiter i stage) t :=
  ⟨rfl, fun _ => .inl poll_setWaiter, awaited_setWaiter hi hne hstage⟩

theorem untouched_detach {u : Tag} (hne : u ≠ t) :
    Untouched s (s.detach u) t := by
  refine ⟨rfl, fun _ => .inl poll_detach, ?_⟩
  rw [EventServer.awaited, detach, List.countP_append]
  simp [EventServer.awaited, hne]

/-- The handler that an action is about. -/
def subject (s : EventServer) : ServerAct → Option Tag
  | .accept t | .next _ t _ => some t
  | .proceed who _ => (s.poll who).tag
  | .waiterFinish i _ => s.waiters[i]?.map Waiter.self
  | _ => none

/-- **A step is about one handler.** -/
theorem untouched_step (hstep : ServerStep s a s') (ht : t < s.handlers.length)
    (hne : s.subject a ≠ some t) : Untouched s s' t := by
  have hidle : Poll.idle.tag ≠ some t := nofun
  cases hstep with
  | accept ht' hop => exact untouched_update fun heq => hne (congrArg some heq)
  | @next who t' ok _ _ hpolls hpoll ht' hop =>
    have hne' : t' ≠ t := fun heq => hne (congrArg some heq)
    refine (untouched_update hne').trans (untouched_setPoll who ?_ hne)
    rw [poll_update, hpoll]
    exact hidle
  | @request who uuid t' ok _ hpoll ht' hstatus =>
    rw [subject] at hne
    have hne' : t' ≠ t := fun heq => hne (by rw [hpoll, heq]; rfl)
    refine (untouched_update hne').trans (untouched_setPoll who ?_ hidle)
    rwa [poll_update]
  | @succeed who uuid t' h' hpoll ht' hstatus =>
    rw [subject] at hne
    refine (untouched_createAndRegister _ ht).trans (untouched_setPoll who ?_ ?_)
    · rwa [poll_createAndRegister]
    · rwa [hpoll] at hne
  | @release who uuid t' ok h' hpoll ht' hdone =>
    refine untouched_tryUnregister.trans (untouched_setPoll who ?_ hidle)
    rwa [poll_tryUnregister]
  | @reply who uuid t' h' status hpoll ht' hstatus =>
    rw [subject] at hne
    have hne' : t' ≠ t := fun heq => hne (by rw [hpoll, heq]; rfl)
    refine (untouched_update hne').trans (untouched_setPoll who ?_ hidle)
    rwa [poll_update]
  | @detach who uuid t' h' hpoll ht' hstatus =>
    rw [subject] at hne
    have hne' : t' ≠ t := fun heq => hne (by rw [hpoll, heq]; rfl)
    exact (untouched_detach hne').trans (untouched_setPoll who hne hidle)
  | @waiterFinish i hasValue t' hi =>
    have hne' : t' ≠ t := fun heq => hne (by rw [subject, hi, heq]; rfl)
    refine (untouched_update hne').trans (untouched_setWaiter hi ?_ nofun)
    exact fun heq => hne' (congrArg Waiter.self heq)
  | waiterEnd hi => exact untouched_setWaiter hi nofun nofun
  | stop hphase => exact untouched_of_eq rfl (by funext who; cases who <;> rfl) rfl
  | shutdownQueue hphase => exact untouched_of_eq rfl (by funext who; cases who <;> rfl) rfl
  | endDrain hphase hdrained => exact untouched_of_eq rfl (by funext who; cases who <;> rfl) rfl
  | clear hphase hjoined => exact untouched_of_eq rfl (by funext who; cases who <;> rfl) rfl

/-! ### Where a handler can be -/

/-- **What is known of a handler**, with the places where its tag is. -/
structure Sound (s : EventServer) (t : Tag) (h : CallData) : Prop where
  /-- It has called `Request`. -/
  made : h.status ≠ .create
  /-- gRPC has the tag for a call. -/
  requested : ∀ matched, h.operation = some (.request matched) →
    h.status = .process ∧ h.accepted = matched
  /-- gRPC has the tag for an answer. -/
  finishing : h.operation = some .finish → h.status = .finish
  /-- Its status counts the answers. -/
  answers : h.finishes.length = if h.status = .finish then 1 else 0
  /-- Only a call is answered. -/
  called : h.status = .finish → h.accepted = true
  /-- The tag is not in two places. -/
  held : s.holders t ≤ 1
  /-- The tag of a call is somewhere until the call is answered. -/
  owed : h.accepted = true → h.status = .process → s.holders t = 1
  /-- A thread knows whether there is a call. -/
  event : ∀ who ok, s.poll who = .event t ok → h.status = .process → h.accepted = ok
  /-- A thread is answering a call. -/
  succeeded : ∀ who, s.poll who = .succeeded t → h.accepted = true ∧ h.status = .process
  /-- A detached thread is to answer a call. -/
  waiting : 0 < s.awaited t → h.accepted = true ∧ h.status = .process

/-- **What is known of all handlers.** -/
structure Custody (s : EventServer) : Prop where
  /-- They are sound. -/
  sound : ∀ t h, s.handlers[t]? = some h → s.Sound t h
  /-- Threads have tags of handlers. -/
  polls : ∀ who t, (s.poll who).tag = some t → t < s.handlers.length
  /-- Detached threads have captured handlers. -/
  waiters : ∀ w ∈ s.waiters, w.self < s.handlers.length

/-- What is known of a handler that a step is not about. -/
theorem Sound.frame (hsound : s.Sound t h) (huntouched : Untouched s s' t) : s'.Sound t h := by
  have hpoll : ∀ who p, p.tag = some t → s'.poll who = p → s.poll who = p := by
    intro who p hp hs'
    obtain heq | ⟨-, hne⟩ := huntouched.poll who
    · rwa [heq] at hs'
    · rw [hs'] at hne
      exact absurd hp hne
  refine ⟨hsound.made, hsound.requested, hsound.finishing, hsound.answers, hsound.called, ?_, ?_,
    fun who ok hp => hsound.event who ok (hpoll who _ rfl hp),
    fun who hp => hsound.succeeded who (hpoll who _ rfl hp), ?_⟩
  · rw [huntouched.holders]
    exact hsound.held
  · rw [huntouched.holders]
    exact hsound.owed
  · rw [huntouched.awaited]
    exact hsound.waiting

/-- A tag that gRPC has is nowhere else. -/
theorem Sound.alone_queued (hsound : s.Sound t h) (ht : s.handlers[t]? = some h) {op : Operation}
    (hop : h.operation = some op) : s.queued t = 1 ∧ (∀ who, (s.poll who).tag ≠ some t) ∧
      (∀ who, s.polled who t = 0) ∧ s.awaited t = 0 := by
  have hqueued : s.queued t = 1 := by rw [queued_some ht, hop]; rfl
  have hpolled : ∀ who, s.polled who t = 0 ∧ s.awaited t = 0 := by
    intro who
    have hheld := hsound.held
    rw [holders_eq who] at hheld
    omega
  refine ⟨hqueued, fun who hp => ?_, fun who => (hpolled who).1, (hpolled .runner).2⟩
  have := (hpolled who).1
  rw [polled_eq hp] at this
  cases this

/-- A tag that a thread has is nowhere else. -/
theorem Sound.alone_polled (hsound : s.Sound t h) (who : Poller) (hp : (s.poll who).tag = some t) :
    s.queued t = 0 ∧ (s.poll who.other).tag ≠ some t ∧ s.polled who.other t = 0 ∧
      s.awaited t = 0 := by
  have hheld := hsound.held
  rw [holders_eq who, polled_eq hp] at hheld
  refine ⟨by omega, fun hp' => ?_, by omega, by omega⟩
  rw [polled_eq hp'] at hheld
  omega

/-- A tag that a detached thread is to use is nowhere else. -/
theorem Sound.alone_awaited (hsound : s.Sound t h) (hw : ⟨t, .waiting⟩ ∈ s.waiters) :
    s.queued t = 0 ∧ (∀ who, (s.poll who).tag ≠ some t) ∧ (∀ who, s.polled who t = 0) ∧
      s.awaited t = 1 := by
  have hpos := awaited_pos.mpr hw
  have hpolled : ∀ who, s.polled who t = 0 ∧ s.queued t = 0 ∧ s.awaited t = 1 := by
    intro who
    have hheld := hsound.held
    rw [holders_eq who] at hheld
    omega
  refine ⟨(hpolled .runner).2.1, fun who hp => ?_, fun who => (hpolled who).1,
    (hpolled .runner).2.2⟩
  have := (hpolled who).1
  rw [polled_eq hp] at this
  cases this

theorem lt_length (ht : s.handlers[t]? = some h) : t < s.handlers.length :=
  (List.getElem?_eq_some_iff.mp ht).1

/-- A tag that is given to a thread, and that the other thread does not have. -/
theorem poll_setPoll_cases {who' : Poller} (hother : (s.poll who.other).tag ≠ some t)
    (hp : ((s.setPoll who p).poll who').tag = some t) : (s.setPoll who p).poll who' = p := by
  obtain rfl | rfl := poller_cases who who'
  · exact poll_setPoll
  · rw [poll_setPoll_other] at hp
    exact absurd hp hother

/-- The `Request` of a handler is matched. -/
theorem sound_accept (hsound : s.Sound t h) (ht : s.handlers[t]? = some h)
    (hop : h.operation = some (.request false)) : (s.update t .accept).Sound t h.accept := by
  obtain ⟨hqueued, hpolls, hpolled, hawaited⟩ := hsound.alone_queued ht hop
  have hstatus := (hsound.requested _ hop).1
  have hholders : (s.update t .accept).holders t = 1 := by
    rw [holders, queued_update ht, polled_update, polled_update, awaited_update, hpolled, hpolled,
      hawaited]
    rfl
  refine ⟨hsound.made, ?_, nofun, hsound.answers, fun _ => rfl, Nat.le_of_eq hholders,
    fun _ _ => hholders, fun who ok hp => ?_, fun who hp => ?_, fun hpos => ?_⟩
  · rintro matched ⟨⟩
    exact ⟨hstatus, rfl⟩
  · rw [poll_update] at hp
    exact absurd (by rw [hp]; rfl) (hpolls who)
  · rw [poll_update] at hp
    exact absurd (by rw [hp]; rfl) (hpolls who)
  · rw [awaited_update, hawaited] at hpos
    cases hpos

/-- A tag is returned. -/
theorem sound_next {ok : Bool} {op : Operation} (hsound : s.Sound t h)
    (ht : s.handlers[t]? = some h) (hop : h.operation = some op)
    (hok : ∀ matched, h.operation = some (.request matched) → ok = matched) :
    ((s.update t .giveBack).setPoll who (.event t ok)).Sound t h.giveBack := by
  obtain ⟨hqueued, hpolls, hpolled, hawaited⟩ := hsound.alone_queued ht hop
  have hholders : ((s.update t .giveBack).setPoll who (.event t ok)).holders t = 1 := by
    rw [holders_eq who, queued_setPoll, queued_update ht, polled_setPoll, polled_setPoll_other,
      polled_update, awaited_setPoll, awaited_update, hpolled, hawaited]
    simp [Poll.tag, CallData.giveBack]
  have hother : ((s.update t .giveBack).poll who.other).tag ≠ some t := by
    rw [poll_update]
    exact hpolls who.other
  refine ⟨hsound.made, nofun, nofun, hsound.answers, hsound.called, Nat.le_of_eq hholders,
    fun _ _ => hholders, fun who' ok' hp hstatus => ?_, fun who' hp => ?_, fun hpos => ?_⟩
  · have hevent := poll_setPoll_cases hother (by rw [hp]; rfl)
    rw [hp, Poll.event.injEq] at hevent
    rw [hevent.2]
    cases op with
    | request matched =>
      rw [hok matched hop]
      exact (hsound.requested matched hop).2
    | finish =>
      have hfinish : h.giveBack.status = .finish := hsound.finishing hop
      rw [hfinish] at hstatus
      cases hstatus
  · have hevent := poll_setPoll_cases hother (by rw [hp]; rfl)
    rw [hp] at hevent
    cases hevent
  · rw [awaited_setPoll, awaited_update, hawaited] at hpos
    cases hpos

/-- A thread that has a call goes on to answer it. -/
theorem sound_setPoll_succeeded (hsound : s.Sound t h) (hpoll : s.poll who = .event t true)
    (hstatus : h.status = .process) : (s.setPoll who (.succeeded t)).Sound t h := by
  have htag : (s.poll who).tag = some t := by rw [hpoll]; rfl
  obtain ⟨hqueued, hother, hpolled, hawaited⟩ := hsound.alone_polled _ htag
  have hholders : (s.setPoll who (.succeeded t)).holders t = 1 := by
    rw [holders_eq who, queued_setPoll, polled_setPoll, polled_setPoll_other, awaited_setPoll,
      hqueued, hpolled, hawaited]
    simp [Poll.tag]
  refine ⟨hsound.made, hsound.requested, hsound.finishing, hsound.answers, hsound.called,
    Nat.le_of_eq hholders, fun _ _ => hholders, fun who' ok hp => ?_, fun who' hp => ?_,
    fun hpos => ?_⟩
  · have hevent := poll_setPoll_cases hother (by rw [hp]; rfl)
    rw [hp] at hevent
    cases hevent
  · exact ⟨hsound.event who true hpoll hstatus, hstatus⟩
  · rw [awaited_setPoll, hawaited] at hpos
    cases hpos

/-- A thread is done with a handler that there is no call for, or that has been answered. -/
theorem sound_setPoll_idle {ok : Bool} (hsound : s.Sound t h) (hpoll : s.poll who = .event t ok)
    (hdone : h.status = .process ∧ ok = false ∨ h.status = .finish) :
    (s.setPoll who .idle).Sound t h ∧ (s.setPoll who .idle).holders t = 0 := by
  have htag : (s.poll who).tag = some t := by rw [hpoll]; rfl
  obtain ⟨hqueued, hother, hpolled, hawaited⟩ := hsound.alone_polled _ htag
  have hholders : (s.setPoll who .idle).holders t = 0 := by
    rw [holders_eq who, queued_setPoll, polled_setPoll, polled_setPoll_other, awaited_setPoll,
      hqueued, hpolled, hawaited]
    simp [Poll.tag]
  refine ⟨⟨hsound.made, hsound.requested, hsound.finishing, hsound.answers, hsound.called,
    by omega, fun haccepted hstatus => ?_, fun who' ok hp => ?_, fun who' hp => ?_,
    fun hpos => ?_⟩, hholders⟩
  · obtain ⟨-, rfl⟩ | hfinish := hdone
    · rw [hsound.event who false hpoll hstatus] at haccepted
      cases haccepted
    · rw [hfinish] at hstatus
      cases hstatus
  · have hevent := poll_setPoll_cases hother (by rw [hp]; rfl)
    rw [hp] at hevent
    cases hevent
  · have hevent := poll_setPoll_cases hother (by rw [hp]; rfl)
    rw [hp] at hevent
    cases hevent
  · rw [awaited_setPoll, hawaited] at hpos
    cases hpos

/-- What is known of a handler that has just been answered, and is with gRPC again. -/
theorem sound_finish {status : Status} (hsound : s.Sound t h) (hcall : h.accepted = true)
    (hstatus : h.status = .process) (hholders : s'.holders t = 1)
    (hpolls : ∀ who, (s'.poll who).tag ≠ some t) (hawaited : s'.awaited t = 0) :
    s'.Sound t (h.finish status) := by
  have hnone : h.finishes = [] := by
    have hanswers := hsound.answers
    rw [hstatus] at hanswers
    exact List.length_eq_zero_iff.mp hanswers
  refine ⟨nofun, nofun, fun _ => rfl, ?_, fun _ => hcall, Nat.le_of_eq hholders,
    fun _ _ => hholders, fun who ok hp => ?_, fun who hp => ?_, fun hpos => ?_⟩
  · simp [CallData.finish, hnone]
  · exact absurd (by rw [hp]; rfl) (hpolls who)
  · exact absurd (by rw [hp]; rfl) (hpolls who)
  · rw [hawaited] at hpos
    cases hpos

/-- The answer is given in `Proceed`. -/
theorem sound_reply {status : Status} (hsound : s.Sound t h) (ht : s.handlers[t]? = some h)
    (hpoll : s.poll who = .succeeded t) :
    ((s.update t (.finish status)).setPoll who .idle).Sound t (h.finish status) := by
  have htag : (s.poll who).tag = some t := by rw [hpoll]; rfl
  obtain ⟨hqueued, hother, hpolled, hawaited⟩ := hsound.alone_polled _ htag
  obtain ⟨hcall, hstatus⟩ := hsound.succeeded who hpoll
  refine sound_finish hsound hcall hstatus ?_ (fun who' => ?_) ?_
  · rw [holders_eq who, queued_setPoll, queued_update ht, polled_setPoll, polled_setPoll_other,
      polled_update, awaited_setPoll, awaited_update, hpolled, hawaited]
    rfl
  · obtain rfl | rfl := poller_cases who who'
    · rw [poll_setPoll]
      exact nofun
    · rwa [poll_setPoll_other, poll_update]
  · rw [awaited_setPoll, awaited_update, hawaited]

/-- A thread is started that is to give the answer. -/
theorem sound_detach (hsound : s.Sound t h) (hpoll : s.poll who = .succeeded t) :
    ((s.detach t).setPoll who .idle).Sound t h := by
  have htag : (s.poll who).tag = some t := by rw [hpoll]; rfl
  obtain ⟨hqueued, hother, hpolled, hawaited⟩ := hsound.alone_polled _ htag
  obtain ⟨hcall, hstatus⟩ := hsound.succeeded who hpoll
  have hholders : ((s.detach t).setPoll who .idle).holders t = 1 := by
    rw [holders_eq who, queued_setPoll, queued_detach, polled_setPoll, polled_setPoll_other,
      polled_detach, awaited_setPoll, awaited_detach, hqueued, hpolled, hawaited]
    rfl
  have hother' : ((s.detach t).poll who.other).tag ≠ some t := by rwa [poll_detach]
  refine ⟨hsound.made, hsound.requested, hsound.finishing, hsound.answers, hsound.called,
    Nat.le_of_eq hholders, fun _ _ => hholders, fun who' ok hp => ?_, fun _ _ => ⟨hcall, hstatus⟩,
    fun _ => ⟨hcall, hstatus⟩⟩
  have hevent := poll_setPoll_cases hother' (by rw [hp]; rfl)
  rw [hp] at hevent
  cases hevent

/-- A detached thread gives the answer. -/
theorem sound_waiterFinish {status : Status} {i : ℕ} (hsound : s.Sound t h)
    (ht : s.handlers[t]? = some h) (hi : s.waiters[i]? = some ⟨t, .waiting⟩) :
    ((s.update t (.finish status)).setWaiter i .answered).Sound t (h.finish status) := by
  obtain ⟨hqueued, hpolls, hpolled, hawaited⟩ := hsound.alone_awaited (List.mem_of_getElem? hi)
  obtain ⟨hcall, hstatus⟩ := hsound.waiting (by omega)
  have hawaited' : ((s.update t (.finish status)).setWaiter i .answered).awaited t = 0 := by
    rw [awaited_setWaiter_self (s := s.update t (.finish status)) hi
      (nofun : Stage.answered ≠ .waiting), awaited_update, hawaited]
  refine sound_finish hsound hcall hstatus ?_ (fun who => ?_) hawaited'
  · rw [holders, queued_setWaiter, queued_update ht, polled_setWaiter, polled_update, hpolled,
      polled_setWaiter, polled_update, hpolled, hawaited']
    rfl
  · rw [poll_setWaiter, poll_update]
    exact hpolls who

/-- A new handler has asked for a call. -/
theorem sound_new {rpc : Rpc} (ht : s.handlers[t]? = some (CallData.new rpc).request)
    (hpolls : ∀ who, (s.poll who).tag ≠ some t) (hwaiters : ∀ w ∈ s.waiters, w.self ≠ t) :
    s.Sound t (CallData.new rpc).request := by
  have hawaited : s.awaited t = 0 :=
    Nat.eq_zero_of_not_pos fun hpos => hwaiters _ (awaited_pos.mp hpos) rfl
  have hholders : s.holders t = 1 := by
    rw [holders, queued_some ht, polled_ne (hpolls _), polled_ne (hpolls _), hawaited]
    rfl
  refine ⟨nofun, ?_, nofun, rfl, nofun, Nat.le_of_eq hholders, nofun, fun who ok hp => ?_,
    fun who hp => ?_, fun hpos => ?_⟩
  · rintro matched ⟨⟩
    exact ⟨rfl, rfl⟩
  · exact absurd (by rw [hp]; rfl) (hpolls who)
  · exact absurd (by rw [hp]; rfl) (hpolls who)
  · rw [hawaited] at hpos
    cases hpos

/-! ### Runs -/

/-- The handler that a step is about. -/
theorem sound_subject (hcustody : s.Custody) (hok : s.Documented a) (hstep : ServerStep s a s')
    (hsubject : s.subject a = some t) (ht : s'.handlers[t]? = some h) : s'.Sound t h := by
  cases hstep with
  | accept ht' hop =>
    cases hsubject
    rw [handlers_update_self ht'] at ht
    cases ht
    exact sound_accept (hcustody.sound _ _ ht') ht' hop
  | next hpolls hidle ht' hop =>
    cases hsubject
    rw [handlers_setPoll, handlers_update_self ht'] at ht
    cases ht
    exact sound_next (hcustody.sound _ _ ht') ht' hop fun matched hop => (hok _ ht' matched hop).1
  | request hpoll ht' hstatus => exact absurd hstatus (hcustody.sound _ _ ht').made
  | @succeed who uuid t' h' hpoll ht' hstatus =>
    rw [subject, hpoll] at hsubject
    cases hsubject
    have hframe := untouched_createAndRegister h'.rpc (lt_length ht')
    rw [handlers_setPoll, hframe.handler, ht'] at ht
    cases ht
    refine sound_setPoll_succeeded ((hcustody.sound _ _ ht').frame hframe) ?_ hstatus
    rwa [poll_createAndRegister]
  | @release who uuid t' ok h' hpoll ht' hdone =>
    rw [subject, hpoll] at hsubject
    obtain rfl : t' = t := Option.some.inj hsubject
    have hframe := untouched_tryUnregister (s := s) (t := t') (u := t')
    rw [handlers_setPoll, hframe.handler, ht'] at ht
    cases ht
    refine (sound_setPoll_idle ((hcustody.sound _ _ ht').frame hframe) ?_ hdone).1
    rwa [poll_tryUnregister]
  | reply hpoll ht' hstatus =>
    rw [subject, hpoll] at hsubject
    cases hsubject
    rw [handlers_setPoll, handlers_update_self ht'] at ht
    cases ht
    exact sound_reply (hcustody.sound _ _ ht') ht' hpoll
  | detach hpoll ht' hstatus =>
    rw [subject, hpoll] at hsubject
    cases hsubject
    rw [handlers_setPoll] at ht
    exact sound_detach (hcustody.sound _ _ ht) hpoll
  | @waiterFinish i hasValue t' hi =>
    rw [subject, hi] at hsubject
    obtain rfl : t' = t := Option.some.inj hsubject
    obtain ⟨h', ht'⟩ : ∃ h', s.handlers[t']? = some h' :=
      ⟨_, List.getElem?_eq_getElem (hcustody.waiters _ (List.mem_of_getElem? hi))⟩
    rw [show (setWaiter _ i _).handlers = (s.update t' _).handlers from rfl,
      handlers_update_self ht'] at ht
    cases ht
    exact sound_waiterFinish (hcustody.sound _ _ ht') ht' hi
  | waiterEnd hi | stop hphase | shutdownQueue hphase | endDrain hphase hidle
  | clear hphase hidle => cases hsubject

/-- Threads have tags of handlers that there were before the step. -/
theorem polls_step (hcustody : s.Custody) (hstep : ServerStep s a s') (who : Poller) :
    (s'.poll who).tag = some t → t < s.handlers.length := by
  have hset : ∀ {s₁ : EventServer} {who' p}, s₁.poll = s.poll → (∀ u, p.tag = some u →
      u < s.handlers.length) → ((s₁.setPoll who' p).poll who).tag = some t →
      t < s.handlers.length := by
    intro s₁ who' p hpoll hp htag
    obtain rfl | rfl := poller_cases who' who
    · rw [poll_setPoll] at htag
      exact hp t htag
    · rw [poll_setPoll_other, hpoll] at htag
      exact hcustody.polls _ _ htag
  have hidle : ∀ u, Poll.idle.tag = some u → u < s.handlers.length := nofun
  cases hstep with
  | accept ht hop =>
    rw [poll_update]
    exact hcustody.polls _ _
  | next hpolls hpoll ht hop =>
    refine hset (funext fun _ => poll_update) fun u hu => ?_
    cases hu
    exact lt_length ht
  | request hpoll ht hstatus => exact hset (funext fun _ => poll_update) hidle
  | succeed hpoll ht hstatus =>
    refine hset (funext fun _ => poll_createAndRegister) fun u hu => ?_
    cases hu
    exact lt_length ht
  | release hpoll ht hdone => exact hset (funext fun _ => poll_tryUnregister) hidle
  | reply hpoll ht hstatus => exact hset (funext fun _ => poll_update) hidle
  | detach hpoll ht hstatus => exact hset (funext fun _ => poll_detach) hidle
  | waiterFinish hi =>
    rw [poll_setWaiter, poll_update]
    exact hcustody.polls _ _
  | waiterEnd hi =>
    rw [poll_setWaiter]
    exact hcustody.polls _ _
  | stop hphase | shutdownQueue hphase | endDrain hphase hdrained | clear hphase hjoined =>
    have hpolls := hcustody.polls (t := t)
    cases who with
    | runner => exact hpolls .runner
    | closer => exact hpolls .closer

/-- Detached threads have captured handlers that there were before the step. -/
theorem waiters_step (hcustody : s.Custody) (hstep : ServerStep s a s') {w : Waiter}
    (hw : w ∈ s'.waiters) : w.self < s.handlers.length := by
  have hset : ∀ {i w'} {stage : Stage}, s.waiters[i]? = some w' →
      w ∈ (s.setWaiter i stage).waiters → w.self < s.handlers.length := by
    intro i w' stage hi hmem
    rw [waiters_setWaiter hi] at hmem
    obtain hmem | rfl := List.mem_or_eq_of_mem_set hmem
    · exact hcustody.waiters _ hmem
    · exact hcustody.waiters w' (List.mem_of_getElem? hi)
  cases hstep with
  | accept ht hop => exact hcustody.waiters _ hw
  | next hpolls hpoll ht hop => exact hcustody.waiters _ (by rwa [waiters_setPoll] at hw)
  | request hpoll ht hstatus => exact hcustody.waiters _ (by rwa [waiters_setPoll] at hw)
  | succeed hpoll ht hstatus =>
    rw [waiters_setPoll, waiters_createAndRegister] at hw
    exact hcustody.waiters _ hw
  | release hpoll ht hdone =>
    rw [waiters_setPoll, waiters_tryUnregister] at hw
    exact hcustody.waiters _ hw
  | reply hpoll ht hstatus => exact hcustody.waiters _ (by rwa [waiters_setPoll] at hw)
  | @detach who uuid t h hpoll ht hstatus =>
    rw [waiters_setPoll] at hw
    obtain hw | hw := List.mem_append.mp hw
    · exact hcustody.waiters _ hw
    · rw [List.mem_singleton.mp hw]
      exact lt_length ht
  | waiterFinish hi => exact hset hi hw
  | waiterEnd hi => exact hset hi hw
  | stop hphase | shutdownQueue hphase | endDrain hphase hdrained | clear hphase hjoined =>
    exact hcustody.waiters _ hw

/-- **A step adds no handler, or a successor**, which is alive. -/
theorem handlers_step (hstep : ServerStep s a s') : s'.handlers.length = s.handlers.length ∨
    ∃ who t h, s.ownerAlive = true ∧ s.poll who = .event t true ∧ s.handlers[t]? = some h ∧
      h.status = .process ∧ s' = (s.createAndRegister h.rpc).setPoll who (.succeeded t) := by
  have hupdate : ∀ u f, (s.update u f).handlers.length = s.handlers.length :=
    fun u f => List.length_modify f _ _
  cases hstep with
  | accept ht hop => exact .inl (hupdate _ _)
  | next hpolls hpoll ht hop =>
    rw [handlers_setPoll]
    exact .inl (hupdate _ _)
  | request hpoll ht hstatus =>
    rw [handlers_setPoll]
    exact .inl (hupdate _ _)
  | succeed hpoll ht hstatus =>
    by_cases howner : s.ownerAlive = true
    · exact .inr ⟨_, _, _, howner, hpoll, ht, hstatus, rfl⟩
    · rw [handlers_setPoll, createAndRegister, if_neg howner]
      exact .inl rfl
  | release hpoll ht hdone =>
    rw [handlers_setPoll, handlers_tryUnregister]
    exact .inl rfl
  | reply hpoll ht hstatus =>
    rw [handlers_setPoll]
    exact .inl (hupdate _ _)
  | detach hpoll ht hstatus =>
    rw [handlers_setPoll]
    exact .inl rfl
  | waiterFinish hi => exact .inl (hupdate _ _)
  | waiterEnd hi | stop hphase | shutdownQueue hphase | endDrain hphase hdrained
  | clear hphase hjoined => exact .inl rfl

theorem handlers_succeed {rpc : Rpc} (howner : s.ownerAlive = true) :
    ((s.createAndRegister rpc).setPoll who p).handlers =
      s.handlers ++ [(CallData.new rpc).request] := by
  rw [handlers_setPoll, createAndRegister_eq howner]

theorem length_succeed {rpc : Rpc} (howner : s.ownerAlive = true) :
    ((s.createAndRegister rpc).setPoll who p).handlers.length = s.handlers.length + 1 := by
  rw [handlers_succeed howner, List.length_append, List.length_singleton]

/-- **Every step keeps what is known of the handlers.** -/
theorem custody_step (hcustody : s.Custody) (hok : s.Documented a) (hstep : ServerStep s a s') :
    s'.Custody := by
  have hlength : s.handlers.length ≤ s'.handlers.length := by
    obtain heq | ⟨who, t, h, howner, -, -, -, rfl⟩ := handlers_step hstep
    · exact Nat.le_of_eq heq.symm
    · rw [length_succeed howner]
      exact Nat.le_succ _
  refine ⟨fun t h ht => ?_,
    fun who t htag => Nat.lt_of_lt_of_le (polls_step hcustody hstep who htag) hlength,
    fun w hw => Nat.lt_of_lt_of_le (waiters_step hcustody hstep hw) hlength⟩
  by_cases hlt : t < s.handlers.length
  · by_cases hsubject : s.subject a = some t
    · exact sound_subject hcustody hok hstep hsubject ht
    · have huntouched := untouched_step hstep hlt hsubject
      rw [huntouched.handler] at ht
      exact (hcustody.sound t h ht).frame huntouched
  · obtain heq | ⟨who, t', h', howner, -, -, -, rfl⟩ := handlers_step hstep
    · exact absurd (heq ▸ lt_length ht) hlt
    · obtain rfl : t = s.handlers.length := by
        have hle := lt_length ht
        rw [length_succeed howner] at hle
        exact Nat.le_antisymm (Nat.le_of_lt_succ hle) (Nat.le_of_not_lt hlt)
      have hnew : h = (CallData.new h'.rpc).request := by
        rw [handlers_succeed howner, List.getElem?_concat_length] at ht
        exact (Option.some.inj ht).symm
      rw [hnew] at ht ⊢
      exact sound_new ht (fun who htag => Nat.lt_irrefl _ (polls_step hcustody hstep who htag))
        fun w hw hself => Nat.lt_irrefl _ (hself ▸ waiters_step hcustody hstep hw)

/-- After `Run` there is a handler for each method, and it has asked for a call. -/
theorem handlers_run : run.handlers = Rpc.all.map fun rpc => (CallData.new rpc).request := rfl

theorem custody_run : run.Custody := by
  have hidle : ∀ who, (run.poll who).tag = none := fun who => by cases who <;> rfl
  refine ⟨fun t h ht => ?_, fun who t htag => ?_, nofun⟩
  · obtain ⟨rpc, -, rfl⟩ := List.mem_map.mp (handlers_run ▸ List.mem_of_getElem? ht)
    refine sound_new ht (fun who htag => ?_) nofun
    rw [hidle] at htag
    cases htag
  · rw [hidle] at htag
    cases htag

/-- **The handler that a step is about** has been in one place. -/
theorem holders_subject (hcustody : s.Custody) (hstep : ServerStep s a s')
    (hsubject : s.subject a = some t) : s.holders t = 1 := by
  have hone : ∀ {h'}, s.handlers[t]? = some h' → 0 < s.holders t → s.holders t = 1 :=
    fun ht hpos => Nat.le_antisymm (hcustody.sound _ _ ht).held hpos
  have hpolled : ∀ {who h'}, (s.poll who).tag = some t → s.handlers[t]? = some h' →
      s.holders t = 1 := by
    intro who h' htag ht
    refine hone ht ?_
    rw [holders_eq who, polled_eq htag]
    omega
  have hqueued : ∀ {h' op}, s.handlers[t]? = some h' → h'.operation = some op →
      s.holders t = 1 := by
    intro h' op ht hop
    refine hone ht ?_
    rw [holders, queued_some ht, hop]
    exact Nat.add_pos_left (Nat.add_pos_left (Nat.add_pos_left Nat.one_pos _) _) _
  cases hstep with
  | accept ht hop =>
    cases hsubject
    exact hqueued ht hop
  | next hpolls hpoll ht hop =>
    cases hsubject
    exact hqueued ht hop
  | request hpoll ht hstatus =>
    rw [subject, hpoll] at hsubject
    cases hsubject
    exact hpolled (by rw [hpoll]; rfl) ht
  | succeed hpoll ht hstatus =>
    rw [subject, hpoll] at hsubject
    cases hsubject
    exact hpolled (by rw [hpoll]; rfl) ht
  | release hpoll ht hdone =>
    rw [subject, hpoll] at hsubject
    cases hsubject
    exact hpolled (by rw [hpoll]; rfl) ht
  | reply hpoll ht hstatus =>
    rw [subject, hpoll] at hsubject
    cases hsubject
    exact hpolled (by rw [hpoll]; rfl) ht
  | detach hpoll ht hstatus =>
    rw [subject, hpoll] at hsubject
    cases hsubject
    exact hpolled (by rw [hpoll]; rfl) ht
  | waiterFinish hi =>
    rw [subject, hi] at hsubject
    cases hsubject
    have hmem := List.mem_of_getElem? hi
    refine hone (List.getElem?_eq_getElem (hcustody.waiters _ hmem)) ?_
    exact Nat.add_pos_right _ (awaited_pos.mpr hmem)
  | waiterEnd hi | stop hphase | shutdownQueue hphase | endDrain hphase hdrained
  | clear hphase hjoined => cases hsubject

/-- There is nothing of a handler that has not been made. -/
theorem holders_eq_zero (hcustody : s.Custody) (ht : s.handlers.length ≤ t) : s.holders t = 0 := by
  have hpolled : ∀ who, s.polled who t = 0 := fun who =>
    polled_ne fun htag => absurd (hcustody.polls who t htag) (Nat.not_lt.mpr ht)
  have hawaited : s.awaited t = 0 := Nat.eq_zero_of_not_pos fun hpos =>
    absurd (hcustody.waiters _ (awaited_pos.mp hpos)) (Nat.not_lt.mpr ht)
  rw [holders, queued, List.getElem?_eq_none ht, hpolled, hpolled, hawaited]
  rfl

end EventServer

end DetectBase.Grpc
