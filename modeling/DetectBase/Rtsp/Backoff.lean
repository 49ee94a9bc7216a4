import DetectBase.Rtsp.Client

/-!
# The backoff

The seconds that the worker waits before it replaces a receiver are doubled each time an attempt has
failed, up to a limit, and set back when one has succeeded. A restart has succeeded when the new
receiver has delivered a frame. A reset in place, after the end of the stream or for the watchdog,
has succeeded as soon as the new pipeline is set to playing, and the backoff is set back then,
whether or not a frame comes.

The backoff stays between its limits, and is set back only with a frame to show for it, as long as a
frame has come by the time a reset in place is over, and the doubled seconds fit an `int`
(`DetectBase.RtspClient.throttled`).
-/

namespace DetectBase.RtspClient

variable {cfg : RtspConfig} {s s' : RtspClient}

/-- **A success shows in a frame**: when a reset in place is over, a frame has come since the
pipeline was built. And the backoff can be doubled. -/
def ShowsFrames (s : RtspClient) : RtspAct → Prop
  | .worker _ _ => (s.point = .resetOk → 0 < s.account.frames) ∧
    (s.point = .notFlowing ∨ s.point = .startFailed → s.backoffSec * 2 < 2 ^ 31)
  | _ => True

instance (s : RtspClient) : ∀ a, Decidable (s.ShowsFrames a)
  | .worker _ _ => inferInstanceAs (Decidable (_ ∧ _))
  | .tick _ | .raise _ | .markEos _ | .requestReconnect _ | .frame _ | .openReceiver =>
    isTrue trivial

/-- The worker has a pipeline that it watches for a frame, or is to watch. -/
def watches : WorkerPoint → Bool
  | .playing | .watching _ => true
  | _ => false

/-- **The backoff is as it should be.** -/
structure Paced (cfg : RtspConfig) (s : RtspClient) : Prop where
  /-- Nothing happens before the first pipeline. -/
  opens : s.Opens
  /-- The backoff is between its limits. -/
  backoff : cfg.reconnectInitialSec ≤ s.backoffSec ∧ s.backoffSec ≤ cfg.reconnectMaxSec
  /-- A receiver that is about to start is as new. -/
  new : s.point = .starting → ∀ r ∈ s.receiver, r = .new
  /-- The frames of a receiver that has just started have come since its pipeline was built. -/
  counted : watches s.point = true → ∀ r ∈ s.receiver, r.frameCount ≤ s.account.frames
  /-- The worker has seen a frame. -/
  flowing : s.point = .flowing → 0 < s.account.frames
  /-- So far there was a frame to show. -/
  shown : s.account.blindResets = 0

theorem paced_start (hle : cfg.reconnectInitialSec ≤ cfg.reconnectMaxSec) (now : ℕ) :
    (start cfg now).Paced cfg :=
  ⟨opens_start now, ⟨Int.le_refl _, hle⟩, nofun, nofun, nofun, rfl⟩

/-- The backoff stays as it is, and the worker gets to a point where nothing is asked for. -/
theorem Paced.keep (h : s.Paced cfg) {t : RtspClient} (hopens : t.Opens)
    (hbackoff : t.backoffSec = s.backoffSec) (hshown : t.account.blindResets = 0)
    (hstarting : t.point ≠ .starting) (hwatches : watches t.point = false)
    (hflowing : t.point ≠ .flowing) : t.Paced cfg := by
  refine ⟨hopens, ?_, fun hp => absurd hp hstarting, fun hp => ?_, fun hp => absurd hp hflowing,
    hshown⟩
  · rw [hbackoff]
    exact h.backoff
  · rw [hwatches] at hp
    cases hp

/-- The backoff is doubled. -/
theorem Paced.fail (h : s.Paced cfg) (hopens : (s.fail cfg).Opens)
    (hpos : 1 ≤ cfg.reconnectInitialSec) (hfits : s.backoffSec * 2 < 2 ^ 31) :
    (s.fail cfg).Paced cfg := by
  obtain ⟨hlower, hupper⟩ := h.backoff
  have hdouble : toInt32 (s.backoffSec * 2) = s.backoffSec * 2 :=
    Int.bmod_eq_of_le (by omega) (by omega)
  refine ⟨hopens, ?_, nofun, nofun, nofun, h.shown⟩
  rw [RtspClient.fail, hdouble]
  dsimp only
  omega

/-- The backoff is set back, with a frame to show for it. -/
theorem Paced.succeed (h : s.Paced cfg) (hopens : (s.succeed cfg).Opens)
    (hframes : 0 < s.account.frames) : (s.succeed cfg).Paced cfg := by
  have hle := Int.le_trans h.backoff.1 h.backoff.2
  have hshown : s.account.resetBackoff.blindResets = 0 := by
    rw [RtspAccount.resetBackoff, h.shown, if_pos hframes]
  exact ⟨hopens, ⟨Int.le_refl _, hle⟩, nofun, nofun, nofun, hshown⟩

/-- **A step of the worker keeps the backoff as it should be.** -/
theorem paced_workerStep {succeeds stops : Bool} (hpos : 1 ≤ cfg.reconnectInitialSec)
    (h : s.Paced cfg) (hok : s.ShowsFrames (.worker succeeds stops))
    (hstep : WorkerStep cfg s succeeds s') : s'.Paced cfg := by
  have hopens : s'.Opens := opens_step (a := .worker succeeds stops) h.opens (.worker hstep)
  cases hstep with
  | pass hp hpass =>
    cases hpass with
    | seen hframes =>
      -- the frame that the worker has seen is one of those that have come since
      refine ⟨hopens, h.backoff, nofun, nofun, fun _ => ?_, h.shown⟩
      cases hr : s.receiver with
      | none =>
        rw [hr] at hframes
        exact absurd hframes (lt_irrefl 0)
      | some r =>
        rw [hr] at hframes
        exact lt_of_lt_of_le hframes (h.counted (by rw [hp]; rfl) r hr)
    | unseen =>
      exact ⟨hopens, h.backoff, nofun, fun _ => h.counted (by rw [hp]; rfl), nofun, h.shown⟩
    | found | quiet | read | fresh | again | lock | noPipeline | rebuildFailed | slept | timedOut =>
      exact h.keep hopens rfl h.shown nofun rfl nofun
  | wake hp => exact h.keep hopens rfl h.shown nofun rfl nofun
  | fire hp => exact h.keep hopens rfl h.shown nofun rfl nofun
  | mark hp => exact h.keep hopens rfl h.shown nofun rfl nofun
  | giveUp hp => exact h.keep hopens rfl h.shown nofun rfl nofun
  | clear hp => exact h.keep hopens rfl h.shown nofun rfl nofun
  | takeCause hp =>
    obtain hpoint | hpoint := s.point_takeCause
    · exact h.keep hopens rfl h.shown (by rw [hpoint]; nofun) (by rw [hpoint]; rfl)
        (by rw [hpoint]; nofun)
    · exact h.keep hopens rfl h.shown (by rw [hpoint]; nofun) (by rw [hpoint]; rfl)
        (by rw [hpoint]; nofun)
  | teardown hp => exact h.keep hopens rfl h.shown nofun rfl nofun
  | rebuild hp => exact h.keep hopens rfl h.shown nofun rfl nofun
  | replayFailed hp => exact h.keep hopens rfl h.shown nofun rfl nofun
  | replay hp => exact h.keep hopens rfl h.shown nofun rfl nofun
  | stop hp => exact h.keep hopens rfl h.shown nofun rfl nofun
  | renew hp =>
    refine ⟨hopens, h.backoff, fun _ r hr => ?_, nofun, nofun, h.shown⟩
    cases hr
    rfl
  | startFailed hp => exact h.keep hopens rfl h.shown nofun rfl nofun
  | build hp =>
    refine ⟨hopens, h.backoff, nofun, fun _ r hr => ?_, nofun, h.shown⟩
    obtain ⟨r', hr', rfl⟩ := Option.map_eq_some_iff.mp hr
    rw [h.new hp r' hr']
    exact le_refl 0
  | play hp =>
    exact ⟨hopens, h.backoff, nofun, fun _ => h.counted (by rw [hp]; rfl), nofun, h.shown⟩
  | succeed hp =>
    refine h.succeed hopens ?_
    obtain hp | hp := hp
    · exact hok.1 hp
    · exact h.flowing hp
  | fail hp => exact h.fail hopens hpos (hok.2 hp)
  | retry hp => exact h.keep hopens rfl h.shown nofun rfl nofun

/-- **Every step keeps the backoff as it should be**, if a success shows in a frame. -/
theorem paced_step {a : RtspAct} (hpos : 1 ≤ cfg.reconnectInitialSec) (h : s.Paced cfg)
    (hok : s.ShowsFrames a) (hstep : ClientStep cfg s a s') : s'.Paced cfg := by
  have hopens : s'.Opens := opens_step h.opens hstep
  cases hstep with
  | tick ns => exact ⟨hopens, h.backoff, h.new, h.counted, h.flowing, h.shown⟩
  | raise eos => exact ⟨hopens, h.backoff, h.new, h.counted, h.flowing, h.shown⟩
  | markEos hc => exact ⟨hopens, h.backoff, h.new, h.counted, h.flowing, h.shown⟩
  | requestReconnect hc => exact ⟨hopens, h.backoff, h.new, h.counted, h.flowing, h.shown⟩
  | @frame r current hr hfrom =>
    refine ⟨hopens, h.backoff, fun hp => ?_, fun hp r' hr' => ?_, fun _ => Nat.succ_pos _, h.shown⟩
    · -- a receiver that is as new delivers no frame
      rw [h.new hp r hr] at hfrom
      cases current <;> cases hfrom
    · cases hr'
      exact Nat.succ_le_succ (h.counted hp r hr)
  | openBegin hopening hfree =>
    have hidle := (h.opens (.inl hopening)).idle
    refine ⟨hopens, h.backoff, fun _ r hr => ?_, fun _ r hr => ?_, h.flowing, h.shown⟩
    · cases hr
      rfl
    · cases hr
      exact Nat.zero_le _
  | openBuild hopening =>
    -- the worker is at rest
    have hidle := (h.opens (.inr hopening)).idle
    refine ⟨hopens, h.backoff, fun hp => ?_, fun hp => ?_, fun hp => ?_, h.shown⟩
    · rw [show s.point = .starting from hp] at hidle
      cases hidle
    · change watches s.point = true at hp
      revert hidle hp
      cases s.point <;> simp [watches, rests]
    · rw [show s.point = .flowing from hp] at hidle
      cases hidle
  | openEnd hopening => exact ⟨hopens, h.backoff, h.new, h.counted, h.flowing, h.shown⟩
  | worker hworker => exact paced_workerStep hpos h hok hworker

/-- **The backoff throttles**: it is always between its limits, and it has been set back only with a
frame since the pipeline was built, in every run in which a success shows in a frame. -/
theorem throttled (cfg : RtspConfig) (now : ℕ) {as : List RtspAct} {s : RtspClient}
    (hpos : 1 ≤ cfg.reconnectInitialSec) (hle : cfg.reconnectInitialSec ≤ cfg.reconnectMaxSec)
    (hok : Guarded (step cfg) ShowsFrames (start cfg now) as)
    (hrun : runFrom (step cfg) (start cfg now) as = some s) :
    (cfg.reconnectInitialSec ≤ s.backoffSec ∧ s.backoffSec ≤ cfg.reconnectMaxSec) ∧
      s.account.blindResets = 0 := by
  have hpaced : s.Paced cfg :=
    hok.invariant (fun _ _ _ h hok hstep => paced_step hpos h hok (step_cases hstep))
      (paced_start hle now) hrun
  exact ⟨hpaced.backoff, hpaced.shown⟩

/-- The receiver fails. The first attempt to start another one fails, and the second one shows no
frame, so that the backoff is doubled twice. -/
def failedRestarts : List RtspAct :=
  [.openReceiver, .openReceiver, .openReceiver, .raise false, .requestReconnect 0] ++
    List.replicate 7 (.worker true true) ++ [.worker false true] ++
    List.replicate 74 (.worker true true)

/-- The stream ends, and the receiver is reset in place. After that a frame may come. -/
def endOfStream (frames : ℕ) : List RtspAct :=
  [.raise true, .markEos 0, .requestReconnect 0] ++ List.replicate 8 (.worker true true) ++
    List.replicate frames (.frame true) ++ [.worker true true]

/-- With a frame the backoff is set back as it should be. -/
theorem throttled_endOfStream : ∃ s,
    runFrom (step ⟨1, 60⟩) (start ⟨1, 60⟩ 1) (failedRestarts ++ endOfStream 1) = some s ∧
      s.reconnectCount = 1 ∧ ((1 : ℤ) ≤ s.backoffSec ∧ s.backoffSec ≤ 60) ∧
      s.account.blindResets = 0 := by
  have hend : (runFrom (step ⟨1, 60⟩) (start ⟨1, 60⟩ 1) (failedRestarts ++ endOfStream 1)).map
      (·.reconnectCount) = some 1 := by decide +kernel
  obtain ⟨s, hrun, hcount⟩ := Option.map_eq_some_iff.mp hend
  exact ⟨s, hrun, hcount, throttled ⟨1, 60⟩ 1 (by decide) (by decide) (by decide +kernel) hrun⟩

/-- **Without a frame it is set back too**, from the four seconds that it has got to. -/
theorem not_throttled :
    (runFrom (step ⟨1, 60⟩) (start ⟨1, 60⟩ 1) failedRestarts).map (·.backoffSec) = some 4 ∧
    (runFrom (step ⟨1, 60⟩) (start ⟨1, 60⟩ 1) (failedRestarts ++ endOfStream 0)).map
      (·.backoffSec) = some 1 ∧
    ¬ ∀ (cfg : RtspConfig) (now : ℕ) (as : List RtspAct) (s : RtspClient),
      1 ≤ cfg.reconnectInitialSec → cfg.reconnectInitialSec ≤ cfg.reconnectMaxSec →
        runFrom (step cfg) (start cfg now) as = some s →
        (cfg.reconnectInitialSec ≤ s.backoffSec ∧ s.backoffSec ≤ cfg.reconnectMaxSec) ∧
          s.account.blindResets = 0 := by
  refine ⟨by decide +kernel, by decide +kernel, fun h => ?_⟩
  have hend : (runFrom (step ⟨1, 60⟩) (start ⟨1, 60⟩ 1) (failedRestarts ++ endOfStream 0)).map
      (·.account.blindResets) = some 1 := by decide +kernel
  obtain ⟨s, hrun, hblind⟩ := Option.map_eq_some_iff.mp hend
  rw [(h ⟨1, 60⟩ 1 _ s (by decide) (by decide) hrun).2] at hblind
  cases hblind

end DetectBase.RtspClient
