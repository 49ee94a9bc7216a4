import DetectBase.Rtsp.Client

/-!
# One failure, one recovery

A receiver that fails may ask for a recovery several times. Requests that come before the worker
clears the flag collapse into one; a request that comes after that, while the worker sleeps and
replaces the receiver, sets the flag again, and the worker will replace the new receiver too.

When no such request is left behind at the moment when the new pipeline is built, every recovery has
a cause of its own (`DetectBase.RtspClient.recoversWithCause`): a callback that the new pipeline has
begun, the watchdog, or an attempt that has failed.
-/

namespace DetectBase.RtspClient

variable {cfg : RtspConfig} {s s' : RtspClient}

/-- **No request of a pipeline outlives it**: when a pipeline is built, the flag is clear, and a
callback that sets the flag has begun for the pipeline that was built last. -/
def LeavesNothing (s : RtspClient) : RtspAct → Prop
  | .requestReconnect call => ∀ c ∈ s.callbacks[call]?, c.pipeline = s.built
  | .worker succeeds _ => succeeds = true → s.point = .rebuilding ∨ s.point = .starting →
    s.reconnectPending = false
  | _ => True

instance (s : RtspClient) : ∀ a, Decidable (s.LeavesNothing a)
  | .requestReconnect call =>
    inferInstanceAs (Decidable (∀ c ∈ s.callbacks[call]?, c.pipeline = s.built))
  | .worker succeeds _ => inferInstanceAs (Decidable (succeeds = true → _ ∨ _ → _))
  | .tick _ | .raise _ | .markEos _ | .frame _ | .openReceiver => isTrue trivial

/-- **Whatever is to be recovered from has a cause.** -/
structure Prompted (s : RtspClient) : Prop where
  /-- Nothing happens before the first pipeline. -/
  opens : s.Opens
  /-- The flag is set. -/
  pending : s.reconnectPending = true → s.account.cause = true
  /-- The pipeline that was built last has begun a callback. -/
  callbacks : ∀ c ∈ s.callbacks, c.pipeline = s.built → s.account.cause = true
  /-- Callbacks are begun for pipelines that have been built. -/
  numbered : ∀ c ∈ s.callbacks, c.pipeline ≤ s.built
  /-- The worker is about to set the flag, or has just found it set. -/
  point : s.point = .marking ∨ s.point = .woken ∨ s.point = .retrying → s.account.cause = true
  /-- So far each recovery had a cause. -/
  unprompted : s.account.unprompted = 0

theorem prompted_start (now : ℕ) : (start cfg now).Prompted :=
  ⟨opens_start now, nofun, nofun, nofun, nofun, rfl⟩

/-- A pipeline is built, with the flag clear. -/
theorem Prompted.build (h : s.Prompted) {t : RtspClient} (hopens : t.Opens)
    (hclear : s.reconnectPending = false) (haccount : t.account = s.account.build s.now)
    (hpending : t.reconnectPending = s.reconnectPending) (hcallbacks : t.callbacks = s.callbacks)
    (hbuilt : t.built = s.built + 1)
    (hpoint : ¬ (t.point = .marking ∨ t.point = .woken ∨ t.point = .retrying)) : t.Prompted := by
  refine ⟨hopens, fun hset => ?_, fun c hc heq => ?_, fun c hc => ?_,
    fun hp => absurd hp hpoint, ?_⟩
  · rw [hpending, hclear] at hset
    cases hset
  · rw [hcallbacks] at hc
    rw [hbuilt] at heq
    have hle := h.numbered c hc
    omega
  · rw [hcallbacks] at hc
    rw [hbuilt]
    exact Nat.le_succ_of_le (h.numbered c hc)
  · rw [haccount]
    exact h.unprompted

/-- Nothing changes that a cause is asked for. -/
theorem Prompted.keep (h : s.Prompted) {t : RtspClient} (hopens : t.Opens)
    (hcause : s.account.cause = true → t.account.cause = true)
    (hunprompted : t.account.unprompted = s.account.unprompted)
    (hpending : t.reconnectPending = true → s.reconnectPending = true)
    (hcallbacks : t.callbacks = s.callbacks) (hbuilt : t.built = s.built)
    (hpoint : t.point = .marking ∨ t.point = .woken ∨ t.point = .retrying →
      t.account.cause = true) : t.Prompted := by
  refine ⟨hopens, fun hset => hcause (h.pending (hpending hset)), ?_, ?_, hpoint, ?_⟩
  · rw [hcallbacks, hbuilt]
    exact fun c hc heq => hcause (h.callbacks c hc heq)
  · rw [hcallbacks, hbuilt]
    exact h.numbered
  · rw [hunprompted]
    exact h.unprompted

/-- **A step of the worker keeps the causes**, if no request has been left behind. -/
theorem prompted_workerStep {succeeds stops : Bool} (h : s.Prompted)
    (hstep : WorkerStep cfg s succeeds s') (hok : s.LeavesNothing (.worker succeeds stops)) :
    s'.Prompted := by
  have hopens : s'.Opens := opens_step (a := .worker succeeds stops) h.opens (.worker hstep)
  cases hstep with
  | pass hp hpass =>
    refine h.keep hopens id rfl id rfl rfl ?_
    cases hpass with
    | found hpending => exact fun _ => h.pending hpending
    | again hpending => exact fun _ => h.pending hpending
    | quiet | read | fresh | lock | noPipeline | rebuildFailed | slept | seen | unseen | timedOut =>
      simp [goTo]
  | wake hp => exact h.keep hopens id rfl id rfl rfl (by simp [wake])
  | fire hp => exact h.keep hopens (fun _ => rfl) rfl id rfl rfl fun _ => rfl
  | mark hp =>
    have hcause := h.point (.inl hp)
    exact ⟨hopens, fun _ => hcause, h.callbacks, h.numbered, fun _ => hcause, h.unprompted⟩
  | giveUp hp => exact h.keep hopens id rfl id rfl rfl (by simp [giveUp])
  | clear hp =>
    have hcause := h.point (.inr (.inl hp))
    have hunprompted : s.account.recover.unprompted = 0 := by
      rw [RtspAccount.recover, h.unprompted, hcause]
      rfl
    exact ⟨hopens, nofun, h.callbacks, h.numbered, by simp [clear], hunprompted⟩
  | takeCause hp =>
    obtain hpoint | hpoint := s.point_takeCause
    · exact h.keep hopens id rfl id rfl rfl (by simp [hpoint])
    · exact h.keep hopens id rfl id rfl rfl (by simp [hpoint])
  | teardown hp => exact h.keep hopens id rfl id rfl rfl (by simp [teardown])
  | rebuild hp hsucceeds =>
    exact h.build hopens (hok hsucceeds (.inl hp)) rfl rfl rfl rfl (by simp [goTo])
  | replayFailed hp => exact h.keep hopens id rfl id rfl rfl (by simp [teardown])
  | replay hp => exact h.keep hopens id rfl id rfl rfl (by simp [goTo])
  | stop hp => exact h.keep hopens id rfl id rfl rfl (by simp [setReceiver])
  | renew hp => exact h.keep hopens id rfl id rfl rfl (by simp [setReceiver])
  | startFailed hp => exact h.keep hopens id rfl id rfl rfl (by simp [setReceiver])
  | build hp hsucceeds =>
    exact h.build hopens (hok hsucceeds (.inr hp)) rfl rfl rfl rfl (by simp [goTo])
  | play hp => exact h.keep hopens id rfl id rfl rfl (by simp [goTo])
  | succeed hp => exact h.keep hopens id rfl id rfl rfl (by simp [succeed])
  | fail hp => exact h.keep hopens (fun _ => rfl) rfl id rfl rfl fun _ => rfl
  | retry hp =>
    have hcause := h.point (.inr (.inr hp))
    exact ⟨hopens, fun _ => hcause, h.callbacks, h.numbered, fun _ => hcause, h.unprompted⟩

/-- **Every step keeps the causes**, if no request has been left behind. -/
theorem prompted_step {a : RtspAct} (h : s.Prompted) (hok : s.LeavesNothing a)
    (hstep : ClientStep cfg s a s') : s'.Prompted := by
  have hopens : s'.Opens := opens_step h.opens hstep
  cases hstep with
  | tick ns => exact h.keep hopens id rfl id rfl rfl h.point
  | raise eos hbuilt =>
    refine ⟨hopens, fun _ => rfl, fun _ _ _ => rfl, fun c hc => ?_, fun _ => rfl, h.unprompted⟩
    obtain hc | hc := List.mem_append.mp hc
    · exact h.numbered c hc
    · rw [List.mem_singleton.mp hc]
      exact le_refl _
  | @markEos call c hc =>
    refine ⟨hopens, h.pending, fun c' hc' heq => ?_, fun c' hc' => ?_, h.point, h.unprompted⟩
    · obtain hc' | rfl := List.mem_or_eq_of_mem_set hc'
      · exact h.callbacks c' hc' heq
      · exact h.callbacks c (List.mem_of_getElem? hc) heq
    · obtain hc' | rfl := List.mem_or_eq_of_mem_set hc'
      · exact h.numbered c' hc'
      · exact h.numbered c (List.mem_of_getElem? hc)
  | @requestReconnect call c hc =>
    -- the callback has begun for the pipeline that is there
    have hcause := h.callbacks c (List.mem_of_getElem? hc) (hok c hc)
    exact ⟨hopens, fun _ => hcause, fun _ _ _ => hcause,
      fun c' hc' => h.numbered c' (List.mem_of_mem_eraseIdx hc'), h.point, h.unprompted⟩
  | frame current hr hfrom => exact h.keep hopens id rfl id rfl rfl h.point
  | openBegin hopening hfree => exact h.keep hopens id rfl id rfl rfl h.point
  | openBuild hopening =>
    have huntouched := h.opens (.inr hopening)
    refine h.build hopens huntouched.clear rfl rfl rfl rfl fun hp => ?_
    have hidle := huntouched.idle
    obtain hp | hp | hp := hp
    all_goals
      rw [show s.point = _ from hp] at hidle
      cases hidle
  | openEnd hopening => exact h.keep hopens id rfl id rfl rfl h.point
  | worker hworker => exact prompted_workerStep h hworker hok

/-- **Every recovery has a cause of its own**: since the pipeline that is there was built, it has
begun a callback, or the watchdog has fired, or the attempt has failed. This holds in every run in
which no request of a pipeline outlives it. -/
theorem recoversWithCause (cfg : RtspConfig) (now : ℕ) {as : List RtspAct} {s : RtspClient}
    (hok : Guarded (step cfg) LeavesNothing (start cfg now) as)
    (hrun : runFrom (step cfg) (start cfg now) as = some s) : s.account.unprompted = 0 := by
  have hprompted : s.Prompted :=
    hok.invariant (fun _ _ _ h hok hstep => prompted_step h hok (step_cases hstep))
      (prompted_start now) hrun
  exact hprompted.unprompted

/-- A receiver reports an error twice before the worker does anything about it. -/
def twoErrors : List RtspAct :=
  [.openReceiver, .openReceiver, .openReceiver, .raise false, .raise false, .requestReconnect 0,
    .requestReconnect 0] ++ List.replicate 9 (.worker true true) ++ [.frame true] ++
      List.replicate 4 (.worker true true)

/-- There is one recovery. -/
theorem recoversWithCause_twoErrors : ∃ s,
    runFrom (step ⟨1, 60⟩) (start ⟨1, 60⟩ 1) twoErrors = some s ∧ s.reconnectCount = 1 ∧
      s.account.unprompted = 0 := by
  have hend : (runFrom (step ⟨1, 60⟩) (start ⟨1, 60⟩ 1) twoErrors).map (·.reconnectCount) =
      some 1 := by decide +kernel
  obtain ⟨s, hrun, hcount⟩ := Option.map_eq_some_iff.mp hend
  exact ⟨s, hrun, hcount, recoversWithCause ⟨1, 60⟩ 1 (by decide +kernel) hrun⟩

/-- The second error comes while the worker sleeps before it stops the receiver. -/
def lateError : List RtspAct :=
  [.openReceiver, .openReceiver, .openReceiver, .raise false, .raise false, .requestReconnect 0] ++
    List.replicate 4 (.worker true true) ++ [.requestReconnect 0] ++
      List.replicate 5 (.worker true true) ++ [.frame true] ++ List.replicate 5 (.worker true true)

/-- **The new receiver is replaced too**, though it delivers frames and has reported nothing. -/
theorem not_recoversWithCause : ¬ ∀ (cfg : RtspConfig) (now : ℕ) (as : List RtspAct)
    (s : RtspClient), runFrom (step cfg) (start cfg now) as = some s →
      s.account.unprompted = 0 := by
  intro h
  have hend : (runFrom (step ⟨1, 60⟩) (start ⟨1, 60⟩ 1) lateError).map (·.account.unprompted) =
      some 1 := by decide +kernel
  obtain ⟨s, hrun, hunprompted⟩ := Option.map_eq_some_iff.mp hend
  rw [h _ _ _ s hrun] at hunprompted
  cases hunprompted

end DetectBase.RtspClient
