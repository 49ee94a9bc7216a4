import DetectBase.Rtsp.Client

/-!
# No request is forgotten

All requests to recover a stream come together in one flag, which the worker clears before it does
anything about them. A request that sets the flag after that stays until the next iteration; one
that had set it before is served by what the worker does now: a pipeline is built and set to
playing, or the worker sets the flag itself and tries again.

So when the worker waits with the flag clear, nothing is left to be served
(`DetectBase.RtspClient.requestsServed`).
-/

namespace DetectBase

namespace WorkerPoint

/-- The worker has cleared the flag, and neither built a pipeline nor set the flag since. -/
def unbuilt : WorkerPoint → Bool
  | .cleared | .desync | .resetting | .rebuilding | .sleeping _ | .stopping | .releasing | .starting
  | .startFailed | .retrying => true
  | _ => false

/-- The worker has cleared the flag, and neither set a pipeline to playing nor set the flag since.
-/
def serves (p : WorkerPoint) : Bool := p.unbuilt || p = .replaying || p = .playing

theorem serves_of_unbuilt {p : WorkerPoint} (h : p.unbuilt = true) : p.serves = true := by
  rw [serves, h, Bool.true_or, Bool.true_or]

end WorkerPoint

namespace RtspClient

/-- **What is left to be served** has set the flag, or the worker is at it. -/
structure Served (s : RtspClient) : Prop where
  /-- The requests since a pipeline was built. -/
  since : 0 < s.account.raisedSince → s.reconnectPending = true ∨ s.point.unbuilt = true
  /-- The requests before. -/
  before : 0 < s.account.raisedBefore → s.reconnectPending = true ∨ s.point.serves = true

variable {cfg : RtspConfig} {s s' : RtspClient}

theorem served_start (now : ℕ) : (start cfg now).Served :=
  ⟨fun h => absurd h (lt_irrefl 0), fun h => absurd h (lt_irrefl 0)⟩

/-- With the flag set there is nothing to show. -/
theorem Served.of_pending (h : s.reconnectPending = true) : s.Served :=
  ⟨fun _ => .inl h, fun _ => .inl h⟩

/-- The worker does not leave its work when it goes from one point to another. -/
theorem serves_of_passes {p q : WorkerPoint} (h : Passes s p q) :
    (p.unbuilt = true → q.unbuilt = true) ∧ (p.serves = true → q.serves = true) := by
  cases h <;> exact ⟨id, id⟩

/-- With the flag clear and the worker at rest there is nothing to be served. -/
theorem Served.eq_zero (h : s.Served) (hrest : s.point.serves = false)
    (hpending : s.reconnectPending = false) :
    s.account.raisedSince = 0 ∧ s.account.raisedBefore = 0 := by
  have hunbuilt : s.point.unbuilt = false := by
    rw [← Bool.not_eq_true]
    intro hu
    rw [WorkerPoint.serves_of_unbuilt hu] at hrest
    cases hrest
  refine ⟨Nat.eq_zero_of_not_pos fun hr => ?_, Nat.eq_zero_of_not_pos fun hr => ?_⟩
  · have hserved := h.since hr
    rw [hpending, hunbuilt] at hserved
    simp at hserved
  · have hserved := h.before hr
    rw [hpending, hrest] at hserved
    simp at hserved

/-- A pipeline is built: the requests so far are to be served by setting it to playing. -/
theorem served_build {t : RtspClient} (h : s.Served)
    (haccount : t.account = s.account.build s.now)
    (hpending : t.reconnectPending = s.reconnectPending)
    (hserves : s.point.serves = true → t.point.serves = true) : t.Served := by
  refine ⟨fun hr => ?_, fun hr => ?_⟩
  · rw [haccount] at hr
    exact absurd hr (lt_irrefl 0)
  · rw [haccount] at hr
    change 0 < s.account.raisedBefore + s.account.raisedSince at hr
    rw [hpending]
    obtain hbefore | hsince : 0 < s.account.raisedBefore ∨ 0 < s.account.raisedSince := by omega
    · exact (h.before hbefore).imp_right hserves
    · exact (h.since hsince).imp_right fun hu => hserves (WorkerPoint.serves_of_unbuilt hu)

/-- It is set to playing: they are served. -/
theorem served_play {t : RtspClient} (h : s.Served)
    (haccount : t.account = { s.account with raisedBefore := 0 })
    (hpending : t.reconnectPending = s.reconnectPending)
    (hunbuilt : s.point.unbuilt = true → t.point.unbuilt = true) : t.Served := by
  refine ⟨fun hr => ?_, fun hr => ?_⟩
  · rw [haccount] at hr
    rw [hpending]
    exact (h.since hr).imp_right hunbuilt
  · rw [haccount] at hr
    exact absurd hr (lt_irrefl 0)

/-- The worker goes on with what it is at, whatever else it does. -/
theorem served_keep {t : RtspClient} (h : s.Served)
    (hsince : t.account.raisedSince = s.account.raisedSince)
    (hbefore : t.account.raisedBefore = s.account.raisedBefore)
    (hpending : s.reconnectPending = true → t.reconnectPending = true ∨ t.point.unbuilt = true)
    (hunbuilt : s.point.unbuilt = true → t.point.unbuilt = true)
    (hserves : s.point.serves = true → t.point.serves = true) : t.Served := by
  refine ⟨fun hr => ?_, fun hr => ?_⟩
  · rw [hsince] at hr
    exact (h.since hr).elim hpending fun hu => .inr (hunbuilt hu)
  · rw [hbefore] at hr
    exact (h.before hr).elim (fun hp => (hpending hp).imp_right WorkerPoint.serves_of_unbuilt)
      fun hs => .inr (hserves hs)

/-- **A step of the worker forgets no request.** -/
theorem served_workerStep {succeeds : Bool} (h : s.Served) (hstep : WorkerStep cfg s succeeds s') :
    s'.Served := by
  cases hstep with
  | pass hp hpass =>
    obtain ⟨hunbuilt, hserves⟩ := serves_of_passes hpass
    rw [← hp] at hunbuilt hserves
    exact served_keep h rfl rfl .inl hunbuilt hserves
  | wake hp => exact served_keep h rfl rfl .inl (by rw [hp]; exact id) (by rw [hp]; exact id)
  | fire hp => exact served_keep h rfl rfl .inl (by rw [hp]; exact id) (by rw [hp]; exact id)
  | mark hp => exact .of_pending rfl
  | giveUp hp => exact served_keep h rfl rfl .inl (by rw [hp]; exact id) (by rw [hp]; exact id)
  | clear hp => exact served_keep h rfl rfl (fun _ => .inr rfl) (fun _ => rfl) (fun _ => rfl)
  | takeCause hp =>
    have hpoint : s.takeCause.point.unbuilt = true := by
      obtain hpoint | hpoint := s.point_takeCause
      · rw [hpoint]
        rfl
      · rw [hpoint]
        rfl
    exact served_keep h rfl rfl .inl (fun _ => hpoint) fun _ => WorkerPoint.serves_of_unbuilt hpoint
  | teardown hp stops =>
    exact served_keep h rfl rfl .inl (fun _ => rfl) (fun _ => rfl)
  | rebuild hp => exact served_build h rfl rfl fun _ => rfl
  | replayFailed hp stops =>
    exact served_keep h rfl rfl .inl (fun _ => rfl) (fun _ => rfl)
  | replay hp => exact served_play h rfl rfl (by rw [hp]; exact id)
  | stop hp => exact served_keep h rfl rfl .inl (fun _ => rfl) (fun _ => rfl)
  | renew hp => exact served_keep h rfl rfl .inl (fun _ => rfl) (fun _ => rfl)
  | startFailed hp => exact served_keep h rfl rfl .inl (fun _ => rfl) (fun _ => rfl)
  | build hp => exact served_build h rfl rfl fun _ => rfl
  | play hp => exact served_play h rfl rfl (by rw [hp]; exact id)
  | succeed hp =>
    obtain hp | hp := hp
    · exact served_keep h rfl rfl .inl (by rw [hp]; exact id) (by rw [hp]; exact id)
    · exact served_keep h rfl rfl .inl (by rw [hp]; exact id) (by rw [hp]; exact id)
  | fail hp => exact served_keep h rfl rfl .inl (fun _ => rfl) (fun _ => rfl)
  | retry hp => exact .of_pending rfl

/-- **No step forgets a request.** -/
theorem served_step {a : RtspAct} (h : s.Served) (hstep : ClientStep cfg s a s') : s'.Served := by
  cases hstep with
  | tick ns => exact served_keep h rfl rfl .inl id id
  | raise eos => exact served_keep h rfl rfl .inl id id
  | markEos hc => exact served_keep h rfl rfl .inl id id
  | requestReconnect hc => exact .of_pending rfl
  | frame current hr hfrom => exact served_keep h rfl rfl .inl id id
  | openBegin hopening hfree => exact served_keep h rfl rfl .inl id id
  | openBuild hopening => exact served_build h rfl rfl id
  | openEnd hopening => exact served_play h rfl rfl id
  | worker hworker => exact served_workerStep h hworker

/-- **No stream failure is forgotten**: whenever the worker waits with the flag clear, every
callback that has asked for a recovery has been followed by a pipeline that was built and set to
playing. -/
theorem requestsServed (cfg : RtspConfig) (now : ℕ) {as : List RtspAct} {s : RtspClient}
    (hrun : runFrom (step cfg) (start cfg now) as = some s) (hwaits : s.point = .waiting)
    (hclear : s.reconnectPending = false) :
    s.account.raisedSince = 0 ∧ s.account.raisedBefore = 0 := by
  have hserved : s.Served :=
    runFrom_invariant (fun _ _ _ h hstep => served_step h (step_cases hstep)) (served_start now)
      hrun
  exact hserved.eq_zero (by rw [hwaits]; rfl) hclear

/-- The client starts, and its first receiver reports an error and is replaced by one that delivers
a frame. -/
def recoverOnce : List RtspAct :=
  [.openReceiver, .openReceiver, .openReceiver, .raise false, .requestReconnect 0] ++
    List.replicate 9 (.worker true true) ++ [.frame true, .worker true true, .worker true true]

/-- Then the error has been followed by a second pipeline. -/
theorem requestsServed_recoverOnce : ∃ s,
    runFrom (step ⟨1, 60⟩) (start ⟨1, 60⟩ 1) recoverOnce = some s ∧ s.built = 2 ∧
      s.account.raisedSince = 0 ∧ s.account.raisedBefore = 0 := by
  have hend : (runFrom (step ⟨1, 60⟩) (start ⟨1, 60⟩ 1) recoverOnce).map
      (fun s => (s.built, s.point, s.reconnectPending)) = some (2, .waiting, false) := by
    decide +kernel
  obtain ⟨s, hrun, heq⟩ := Option.map_eq_some_iff.mp hend
  simp only [Prod.mk.injEq] at heq
  exact ⟨s, hrun, heq.1, requestsServed ⟨1, 60⟩ 1 hrun heq.2.1 heq.2.2⟩

end RtspClient

end DetectBase
