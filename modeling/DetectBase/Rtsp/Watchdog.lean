import DetectBase.Rtsp.Client

/-!
# The watchdog

When the worker wakes up with the flag clear, it compares the time of the last frame of the receiver
with the clock, and begins a recovery if that was `WATCHDOG_STALE_SEC` ago. A receiver that has
never delivered a frame has no such time, and the test passes it over, however long it has been
silent.

A silent stream is recovered in the iteration that finds it silent if its receiver has delivered a
frame at some time (`DetectBase.RtspClient.recoversSilence`). The receiver keeps the time when it is
reset in place, so that such a stream is found again.
-/

namespace DetectBase.RtspClient

variable {cfg : RtspConfig} {s s' : RtspClient}

/-- The time is that of a frame, and `WATCHDOG_STALE_SEC` ago. -/
def Old (s : RtspClient) (lastNs : ℕ) : Prop :=
  0 < lastNs ∧ lastNs + watchdogStaleSec * 10 ^ 9 ≤ s.now

/-- **A silent receiver has delivered a frame before**: when the worker wakes up with the flag clear
and the stream silent, the receiver has the time of a frame, and one of its pipelines that has
leaked has not delivered any since. And no frame comes before the worker has read that time. -/
def HasDelivered (s : RtspClient) : RtspAct → Prop
  | .worker _ _ => s.point = .waiting → s.reconnectPending = false → s.Silent →
    ∀ r ∈ s.receiver, 0 < r.lastFrameNs ∧
      (r.leaked = true → r.lastFrameNs + watchdogStaleSec * 10 ^ 9 ≤ s.now)
  | .frame _ => s.account.silentAtWake = true → s.point ≠ .awake ∧ s.point ≠ .reading
  | _ => True

instance (s : RtspClient) : ∀ a, Decidable (s.HasDelivered a)
  | .worker _ _ => inferInstanceAs (Decidable (_ → _ → _ → ∀ r ∈ s.receiver, _))
  | .frame _ => inferInstanceAs (Decidable (_ → _ ∧ _))
  | .tick _ | .raise _ | .markEos _ | .requestReconnect _ | .openReceiver => isTrue trivial

/-- What the receiver knows of its last frame. -/
structure Dated (s : RtspClient) (r : RtspReceiver) : Prop where
  /-- It is not in the future. -/
  past : r.lastFrameNs ≤ s.now
  /-- It came before the pipeline was built, or from it. -/
  own : r.leaked = false →
    r.lastFrameNs ≤ s.account.builtAt ∨ s.account.deliveredAt = some r.lastFrameNs

/-- **What the worker does about a silent stream**, from point to point. -/
structure Minded (s : RtspClient) : Prop where
  /-- Nothing happens before the first pipeline. -/
  opens : s.Opens
  /-- The receiver knows its last frame. -/
  dated : ∀ r ∈ s.receiver, s.Dated r
  /-- It is old, or the flag is set, until the worker has read the time. -/
  reading : s.account.silentAtWake = true → s.point = .awake ∨ s.point = .reading →
    ∃ r, s.receiver = some r ∧ s.Old r.lastFrameNs
  /-- The time that the worker has read is old. -/
  judging : ∀ lastNs, s.account.silentAtWake = true → s.point = .judging lastNs → s.Old lastNs
  /-- The watchdog has set the flag. -/
  retesting : s.account.silentAtWake = true → s.point = .retesting → s.reconnectPending = true
  /-- So far no silent stream has been missed. -/
  missed : s.account.missed = 0

theorem minded_start (now : ℕ) : (start cfg now).Minded := by
  refine ⟨opens_start now, ?_, nofun, nofun, nofun, rfl⟩
  simp [start]

/-- The watchdog finds a time stale when it is old. -/
theorem isStale_of_old {lastNs : ℕ} (h : s.Old lastNs) : s.IsStale lastNs := by
  refine ⟨h.1, ?_⟩
  rw [Nat.le_div_iff_mul_le (Nat.pow_pos (by decide))]
  refine Nat.le_sub_of_add_le ?_
  rw [Nat.add_comm]
  exact h.2

/-- **A silent stream has no younger frame** than its receiver knows of. -/
theorem old_of_silent {r : RtspReceiver} (hdated : s.Dated r) (hsilent : s.Silent)
    (hpos : 0 < r.lastFrameNs)
    (hleaked : r.leaked = true → r.lastFrameNs + watchdogStaleSec * 10 ^ 9 ≤ s.now) :
    s.Old r.lastFrameNs := by
  refine ⟨hpos, ?_⟩
  cases hleak : r.leaked with
  | true => exact hleaked hleak
  | false =>
    obtain ⟨-, hbuilt, hdelivered⟩ := hsilent
    obtain hbefore | hown := hdated.own hleak
    · exact Nat.le_trans (Nat.add_le_add_right hbefore _) hbuilt
    · exact hdelivered _ hown

/-- The worker gets to a point at which nothing is asked for, with the receiver it had. -/
theorem Minded.keep (h : s.Minded) {t : RtspClient} (hopens : t.Opens)
    (hdated : ∀ r ∈ t.receiver, t.Dated r) (hmissed : t.account.missed = s.account.missed)
    (hreading : ¬ (t.point = .awake ∨ t.point = .reading))
    (hjudging : ∀ lastNs, t.point ≠ .judging lastNs) (hretesting : t.point ≠ .retesting) :
    t.Minded :=
  ⟨hopens, hdated, fun _ hp => absurd hp hreading, fun lastNs _ hp => absurd hp (hjudging lastNs),
    fun _ hp => absurd hp hretesting, hmissed.trans h.missed⟩

/-- A pipeline that is taken down leaves the time of the last frame. -/
theorem Dated.teardown {r : RtspReceiver} (h : s.Dated r) (stops : Bool) :
    s.Dated (r.teardown stops) := by
  refine ⟨h.past, fun hleaked => h.own ?_⟩
  rw [RtspReceiver.teardown, Bool.or_eq_false_iff] at hleaked
  exact hleaked.1

/-- A pipeline is built after the last frame so far. -/
theorem dated_build (h : ∀ r ∈ s.receiver, s.Dated r) {t : RtspClient}
    (haccount : t.account = s.account.build s.now) (hnow : t.now = s.now)
    (hreceiver : t.receiver = s.buildPipeline.receiver) : ∀ r ∈ t.receiver, t.Dated r := by
  intro r hr
  rw [hreceiver] at hr
  obtain ⟨r', hr', rfl⟩ := Option.map_eq_some_iff.mp hr
  refine ⟨?_, fun _ => .inl ?_⟩
  · rw [hnow]
    exact (h r' hr').past
  · rw [haccount]
    exact (h r' hr').past

theorem dated_teardown (h : ∀ r ∈ s.receiver, s.Dated r) (stops : Bool) (p : WorkerPoint) :
    ∀ r ∈ (s.teardown stops p).receiver, (s.teardown stops p).Dated r := by
  intro r hr
  obtain ⟨r', hr', rfl⟩ := Option.map_eq_some_iff.mp hr
  have hdated := (h r' hr').teardown stops
  exact ⟨hdated.past, hdated.own⟩

/-- The worker goes from one point to another. -/
theorem Minded.pass (h : s.Minded) {p q : WorkerPoint} (hp : s.point = p) (hpass : Passes s p q)
    (hopens : (s.goTo q).Opens) : (s.goTo q).Minded := by
  have hdated : ∀ r ∈ (s.goTo q).receiver, (s.goTo q).Dated r :=
    fun r hr => ⟨(h.dated r hr).past, (h.dated r hr).own⟩
  cases hpass with
  | quiet hclear =>
    exact ⟨hopens, hdated, fun hs _ => h.reading hs (.inl hp), nofun, nofun, h.missed⟩
  | read hfree =>
    refine ⟨hopens, hdated, nofun, fun lastNs hs hq => ?_, nofun, h.missed⟩
    obtain ⟨r, hr, hold⟩ := h.reading hs (.inr hp)
    simp only [goTo, WorkerPoint.judging.injEq] at hq
    rw [hr] at hq
    rw [← hq]
    exact hold
  | @fresh lastNs hfresh =>
    refine ⟨hopens, hdated, nofun, nofun, fun hs _ => ?_, h.missed⟩
    exact absurd (isStale_of_old (h.judging lastNs hs hp)) hfresh
  | found | again | lock | noPipeline | rebuildFailed | slept | seen | unseen | timedOut =>
    exact h.keep hopens hdated rfl nofun nofun nofun

/-- **A step of the worker does not miss a silent stream** whose receiver has delivered a frame. -/
theorem minded_workerStep {succeeds stops : Bool} (h : s.Minded)
    (hok : s.HasDelivered (.worker succeeds stops)) (hstep : WorkerStep cfg s succeeds s') :
    s'.Minded := by
  have hopens : s'.Opens := opens_step (a := .worker succeeds stops) h.opens (.worker hstep)
  have hdated : ∀ t : RtspClient, t.receiver = s.receiver → t.now = s.now →
      t.account.builtAt = s.account.builtAt → t.account.deliveredAt = s.account.deliveredAt →
      ∀ r ∈ t.receiver, t.Dated r := by
    intro t hreceiver hnow hbuilt hdelivered r hr
    rw [hreceiver] at hr
    refine ⟨?_, ?_⟩
    · rw [hnow]
      exact (h.dated r hr).past
    · rw [hbuilt, hdelivered]
      exact (h.dated r hr).own
  cases hstep with
  | pass hp hpass => exact h.pass hp hpass hopens
  | wake hp =>
    refine ⟨hopens, hdated _ rfl rfl rfl rfl, fun hs _ => ?_, nofun, nofun, h.missed⟩
    simp only [wake, Bool.and_eq_true, Bool.not_eq_true', decide_eq_true_eq] at hs
    obtain ⟨hclear, hsilent⟩ := hs
    obtain ⟨r, hr, -⟩ := (Option.any_eq_true _ _).mp hsilent.1
    obtain ⟨hpos, hleaked⟩ := hok hp hclear hsilent r hr
    have hold := old_of_silent (h.dated r hr) hsilent hpos hleaked
    exact ⟨r, hr, hold⟩
  | fire hp => exact h.keep hopens (hdated _ rfl rfl rfl rfl) rfl nofun nofun nofun
  | mark hp => exact ⟨hopens, hdated _ rfl rfl rfl rfl, nofun, nofun, fun _ _ => rfl, h.missed⟩
  | giveUp hp hclear =>
    refine ⟨hopens, hdated _ rfl rfl rfl rfl, nofun, nofun, nofun, ?_⟩
    show s.account.missed + (if s.account.silentAtWake = true then 1 else 0) = 0
    rw [h.missed, if_neg]
    intro hs
    rw [h.retesting hs hp] at hclear
    cases hclear
  | clear hp => exact h.keep hopens (hdated _ rfl rfl rfl rfl) rfl nofun nofun nofun
  | takeCause hp =>
    obtain hpoint | hpoint := s.point_takeCause
    · exact h.keep hopens (hdated _ rfl rfl rfl rfl) rfl (by rw [hpoint]; nofun)
        (by rw [hpoint]; nofun) (by rw [hpoint]; nofun)
    · exact h.keep hopens (hdated _ rfl rfl rfl rfl) rfl (by rw [hpoint]; nofun)
        (by rw [hpoint]; nofun) (by rw [hpoint]; nofun)
  | teardown hp stops => exact h.keep hopens (dated_teardown h.dated stops _) rfl nofun nofun nofun
  | rebuild hp => exact h.keep hopens (dated_build h.dated rfl rfl rfl) rfl nofun nofun nofun
  | replayFailed hp stops =>
    exact h.keep hopens (dated_teardown h.dated stops _) rfl nofun nofun nofun
  | replay hp => exact h.keep hopens (hdated _ rfl rfl rfl rfl) rfl nofun nofun nofun
  | stop hp => exact h.keep hopens (fun r hr => by cases hr) rfl nofun nofun nofun
  | renew hp =>
    refine h.keep hopens (fun r hr => ?_) rfl nofun nofun nofun
    cases hr
    exact ⟨Nat.zero_le _, fun _ => .inl (Nat.zero_le _)⟩
  | startFailed hp => exact h.keep hopens (fun r hr => by cases hr) rfl nofun nofun nofun
  | build hp => exact h.keep hopens (dated_build h.dated rfl rfl rfl) rfl nofun nofun nofun
  | play hp => exact h.keep hopens (hdated _ rfl rfl rfl rfl) rfl nofun nofun nofun
  | succeed hp => exact h.keep hopens (hdated _ rfl rfl rfl rfl) rfl nofun nofun nofun
  | fail hp => exact h.keep hopens (hdated _ rfl rfl rfl rfl) rfl nofun nofun nofun
  | retry hp => exact h.keep hopens (hdated _ rfl rfl rfl rfl) rfl nofun nofun nofun

/-- **No step misses a silent stream** whose receiver has delivered a frame. -/
theorem minded_step {a : RtspAct} (h : s.Minded) (hok : s.HasDelivered a)
    (hstep : ClientStep cfg s a s') : s'.Minded := by
  have hopens : s'.Opens := opens_step h.opens hstep
  have hdated : ∀ r ∈ s.receiver, s.Dated r := h.dated
  cases hstep with
  | tick ns =>
    have hold : ∀ {lastNs}, s.Old lastNs → lastNs + watchdogStaleSec * 10 ^ 9 ≤ s.now + ns :=
      fun hold => Nat.le_add_right_of_le hold.2
    refine ⟨hopens, fun r hr => ⟨Nat.le_add_right_of_le (hdated r hr).past, (hdated r hr).own⟩,
      fun hs hp => ?_, fun lastNs hs hp => ?_, h.retesting, h.missed⟩
    · obtain ⟨r, hr, hr'⟩ := h.reading hs hp
      exact ⟨r, hr, hr'.1, hold hr'⟩
    · have hl := h.judging lastNs hs hp
      exact ⟨hl.1, hold hl⟩
  | raise eos =>
    exact ⟨hopens, fun r hr => ⟨(hdated r hr).past, (hdated r hr).own⟩, h.reading, h.judging,
      h.retesting, h.missed⟩
  | markEos hc =>
    exact ⟨hopens, fun r hr => ⟨(hdated r hr).past, (hdated r hr).own⟩, h.reading, h.judging,
      h.retesting, h.missed⟩
  | requestReconnect hc =>
    exact ⟨hopens, fun r hr => ⟨(hdated r hr).past, (hdated r hr).own⟩, h.reading, h.judging,
      fun _ _ => rfl, h.missed⟩
  | @frame r current hr hfrom =>
    refine ⟨hopens, fun r' hr' => ?_, fun hs hp => ?_, h.judging, h.retesting, h.missed⟩
    · cases hr'
      refine ⟨le_refl _, fun hleaked => .inr ?_⟩
      cases current with
      | true => rfl
      | false =>
        -- a pipeline that has leaked has delivered it
        have hleaked : r.leaked = false := hleaked
        simp [RtspReceiver.delivers, hleaked] at hfrom
    · obtain ⟨hawake, hreading⟩ := hok hs
      obtain hp | hp := hp
      · exact absurd hp hawake
      · exact absurd hp hreading
  | openBegin hopening hfree =>
    have hnone := (h.opens (.inl hopening)).unopened hopening
    refine ⟨hopens, fun r hr => ?_, fun hs hp => ?_, h.judging, h.retesting, h.missed⟩
    · cases hr
      exact ⟨Nat.zero_le _, fun _ => .inl (Nat.zero_le _)⟩
    · obtain ⟨r, hr, -⟩ := h.reading hs hp
      rw [hnone] at hr
      cases hr
  | openBuild hopening =>
    refine ⟨hopens, dated_build hdated rfl rfl rfl, fun hs hp => ?_, h.judging, h.retesting,
      h.missed⟩
    obtain ⟨r, hr, hold⟩ := h.reading hs hp
    refine ⟨{ r with hasPipeline := true }, ?_, hold⟩
    show s.receiver.map _ = _
    rw [hr]
    rfl
  | openEnd hopening =>
    exact ⟨hopens, fun r hr => ⟨(hdated r hr).past, (hdated r hr).own⟩, h.reading, h.judging,
      h.retesting, h.missed⟩
  | worker hworker => exact minded_workerStep h hok hworker

/-- **The watchdog catches every silent stream** whose receiver has delivered a frame: the iteration
in which the worker wakes up with the flag clear does not end without a recovery. -/
theorem recoversSilence (cfg : RtspConfig) (now : ℕ) {as : List RtspAct} {s : RtspClient}
    (hok : Guarded (step cfg) HasDelivered (start cfg now) as)
    (hrun : runFrom (step cfg) (start cfg now) as = some s) : s.account.missed = 0 := by
  have hminded : s.Minded :=
    hok.invariant (fun _ _ _ h hok hstep => minded_step h hok (step_cases hstep))
      (minded_start now) hrun
  exact hminded.missed

/-- A receiver delivers some frames, and then nothing for twelve seconds, after which the worker
goes on. -/
def fallSilent (frames : ℕ) : List RtspAct :=
  [.openReceiver, .openReceiver, .openReceiver] ++ List.replicate frames (.frame true) ++
    [.tick (12 * 10 ^ 9)] ++ List.replicate 5 (.worker true true)

/-- After a frame the stream is recovered: the flag is set. -/
theorem recoversSilence_fallSilent : ∃ s,
    runFrom (step ⟨1, 60⟩) (start ⟨1, 60⟩ 1) (fallSilent 1) = some s ∧
      s.reconnectPending = true ∧ s.account.missed = 0 := by
  have hend : (runFrom (step ⟨1, 60⟩) (start ⟨1, 60⟩ 1) (fallSilent 1)).map
      (·.reconnectPending) = some true := by decide +kernel
  obtain ⟨s, hrun, hpending⟩ := Option.map_eq_some_iff.mp hend
  exact ⟨s, hrun, hpending, recoversSilence ⟨1, 60⟩ 1 (by decide +kernel) hrun⟩

/-- **A receiver that has never delivered a frame is passed over.** -/
theorem not_recoversSilence : ¬ ∀ (cfg : RtspConfig) (now : ℕ) (as : List RtspAct)
    (s : RtspClient), runFrom (step cfg) (start cfg now) as = some s → s.account.missed = 0 := by
  intro h
  have hend : (runFrom (step ⟨1, 60⟩) (start ⟨1, 60⟩ 1) (fallSilent 0)).map
      (·.account.missed) = some 1 := by decide +kernel
  obtain ⟨s, hrun, hmissed⟩ := Option.map_eq_some_iff.mp hend
  rw [h _ _ _ s hrun] at hmissed
  cases hmissed

end DetectBase.RtspClient
