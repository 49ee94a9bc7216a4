import DetectBase.Foundations.Transition
import DetectBase.Tracker.Projection

/-!
# When trackers are retired

A tracker ages in `predict` and is retired at the end of a call, once it has gone more than ten
calls without a detection. But a call is made only when the frame has a detection of the class: the
response thread sorts the objects of a frame by class, and a class without an object is not there.
So as long as nothing of its class is seen, a tracker does not age at all.

To speak of the frames a tracker has gone without a detection, the filter carries the number of the
frame in which the tracker was started or last corrected (`DetectBase.Motion.stamped`). The stamps
change nothing: without them, the tracker is what it is with the plain filter
(`DetectBase.forget_trackObjects`).

`DetectBase.missed_le_maxAge`: in every run in which no frame without a detection finds a tracker
alive, no tracker has gone more than ten frames without a detection.
-/

namespace DetectBase

open SORTTracker

variable {K : Type}

/-- The filter with the number of the frame in which it was started or last corrected. -/
def Motion.stamped (m : Motion K) (frame : ℕ) : Motion (K × ℕ) where
  init object := (m.init object, frame)
  predict k := (((m.predict k.1).1, k.2), (m.predict k.1).2)
  correct k object := (m.correct k.1 object, frame)
  box k := m.box k.1
  cost := m.cost

/-- What the response thread keeps for one class: the entries of `trackers_` and `tracker_seqs_`. -/
structure ClassTracking (K : Type) where
  /-- The tracker, once there is one. -/
  tracker : Option (SORTTracker K)
  /-- The number of the next call. -/
  seq : ℕ

namespace ClassTracking

/-- The trackers that are alive. -/
def alive (s : ClassTracking K) : List (KalmanTracker K) := s.tracker.elim [] (·.kalmans)

/-- **One frame**: what the response thread does with the objects of the class in it. -/
def track (m : Motion K) (solve : List (List Double) → List ℤ) (s : ClassTracking K)
    (objects : List InferObject) : List InferObject × ClassTracking K :=
  -- a class of which there is no object is not in `classified_objects`
  if objects = [] then ([], s)
  else
    let tracker := s.tracker.getD new
    let seq := if s.tracker.isNone then 1 else s.seq
    let result := tracker.trackObjects m solve objects (toInt32 seq)
    (result.1.getD [], ⟨some result.2, increment seq⟩)

end ClassTracking

/-- The frames of a camera, as one class sees them. -/
structure FrameRun (K : Type) where
  /-- How many frames there have been. -/
  frame : ℕ
  /-- What the response thread keeps. -/
  tracking : ClassTracking (K × ℕ)

namespace FrameRun

/-- Before the first frame. -/
def start : FrameRun K := ⟨0, none, 1⟩

/-- **The next frame**, with the detections of the class in it. -/
def step (m : Motion K) (solve : List (List Double) → List ℤ) (s : FrameRun K)
    (objects : List InferObject) : Option (FrameRun K) :=
  some ⟨s.frame + 1, (s.tracking.track (m.stamped (s.frame + 1)) solve objects).2⟩

/-- The frames that a tracker has gone without a detection. -/
def missed (s : FrameRun K) (k : KalmanTracker (K × ℕ)) : ℕ := s.frame - k.kf.2

/-- **The guard**: a frame that finds a tracker alive has a detection. -/
def Seen (s : FrameRun K) (objects : List InferObject) : Prop :=
  s.tracking.alive ≠ [] → objects ≠ []

end FrameRun

/-! ### Without the stamps -/

section Forget

/-- A tracker without its stamp. -/
def KalmanTracker.forget (k : KalmanTracker (K × ℕ)) : KalmanTracker K where
  trackId := k.trackId
  classId := k.classId
  engineId := k.engineId
  lastUpdateScore := k.lastUpdateScore
  timeSinceUpdate := k.timeSinceUpdate
  hits := k.hits
  hitStreak := k.hitStreak
  age := k.age
  kf := k.kf.1

/-- All trackers without their stamps. -/
def SORTTracker.forget (s : SORTTracker (K × ℕ)) : SORTTracker K :=
  ⟨s.kalmans.map KalmanTracker.forget, s.createCount⟩

variable {m : Motion K} {n : ℕ} {s : SORTTracker (K × ℕ)} {objects : List InferObject}

theorem stamped_over (m : Motion K) (n : ℕ) : (m.stamped n).Over m Prod.fst :=
  ⟨fun _ => rfl, fun _ => rfl, fun _ => rfl, fun _ _ => rfl, fun _ => rfl, rfl⟩

/-- **The stamps change nothing.** -/
theorem forget_trackObjects (solve : List (List Double) → List ℤ) (requestSeq : ℤ) :
    (s.trackObjects (m.stamped n) solve objects requestSeq).map id SORTTracker.forget =
      s.forget.trackObjects m solve objects requestSeq :=
  map_trackObjects (stamped_over m n) solve objects requestSeq

end Forget

/-! ### Runs -/

section Runs

variable {m : Motion K} {solve : List (List Double) → List ℤ} {s s' : FrameRun K}
  {objects : List InferObject}

/-- The age of a tracker is the number of frames since it was started or last corrected. -/
def AgedAt (frame : ℕ) (k : KalmanTracker (K × ℕ)) : Prop := k.timeSinceUpdate + k.kf.2 = frame

theorem AgedAt.predict {n : ℕ} {k : KalmanTracker (K × ℕ)} (h : AgedAt n k)
    (hage : k.timeSinceUpdate ≤ sortTrackerMaxAge) :
    AgedAt (n + 1) (k.predict (m.stamped (n + 1))).1 := by
  have hsmall : increment k.timeSinceUpdate = k.timeSinceUpdate + 1 := by
    rw [sortTrackerMaxAge] at hage
    exact Nat.mod_eq_of_lt (by omega)
  have hn : k.timeSinceUpdate + k.kf.2 = n := h
  change increment k.timeSinceUpdate + k.kf.2 = n + 1
  omega

theorem AgedAt.update {n : ℕ} {k : KalmanTracker (K × ℕ)} (h : AgedAt n k) (object : InferObject) :
    AgedAt n (k.update (m.stamped n) object) := by
  rw [KalmanTracker.update]
  split_ifs
  · exact h
  · exact Nat.zero_add n

theorem agedAt_new (n uuid : ℕ) (object : InferObject) :
    AgedAt n (KalmanTracker.new (m.stamped n) uuid object) := Nat.zero_add n

/-- **One frame that meets the guard** makes every tracker one frame older, or new, and retires what
is over age. -/
theorem agedAt_step (h : ∀ k ∈ s.tracking.alive, AgedAt s.frame k ∧
      k.timeSinceUpdate ≤ sortTrackerMaxAge) (hok : s.Seen objects)
    (hstep : s.step m solve objects = some s') :
    ∀ k ∈ s'.tracking.alive, AgedAt s'.frame k ∧ k.timeSinceUpdate ≤ sortTrackerMaxAge := by
  cases hstep
  by_cases hnone : objects = []
  · -- nothing is alive, and nothing happens
    have hdead : s.tracking.alive = [] := by
      by_contra halive
      exact hok halive hnone
    rw [ClassTracking.track, if_pos hnone]
    exact fun k hk => absurd hk (by rw [hdead]; exact List.not_mem_nil)
  · have halive : ∀ k ∈ (s.tracking.tracker.getD new).kalmans, AgedAt s.frame k ∧
        k.timeSinceUpdate ≤ sortTrackerMaxAge := by
      intro k hk
      refine h k ?_
      rw [ClassTracking.alive]
      cases htracker : s.tracking.tracker with
      | none =>
        rw [htracker] at hk
        cases hk
      | some tracker =>
        rw [htracker] at hk
        exact hk
    rw [ClassTracking.track, if_neg hnone]
    exact forall_trackObjects hnone halive (fun k hk => hk.1.predict hk.2)
      (fun k o hk => hk.update o) fun id o _ => agedAt_new _ id o

/-- **Trackers are retired in time**: in every run in which no frame without a detection finds a
tracker alive, no tracker has gone more than ten frames without a detection. -/
theorem missed_le_maxAge (m : Motion K) (solve : List (List Double) → List ℤ)
    (frames : List (List InferObject)) (s : FrameRun K)
    (hok : Guarded (FrameRun.step m solve) FrameRun.Seen .start frames)
    (hrun : runFrom (FrameRun.step m solve) .start frames = some s) :
    ∀ k ∈ s.tracking.alive, s.missed k ≤ 10 := by
  intro k hk
  have h := hok.invariant (I := fun s => ∀ k ∈ s.tracking.alive, AgedAt s.frame k ∧
      k.timeSinceUpdate ≤ sortTrackerMaxAge)
    (fun s objects s' hs hseen hstep => agedAt_step hs hseen hstep) nofun hrun
  obtain ⟨haged, hage⟩ := h k hk
  have hframe : k.timeSinceUpdate + k.kf.2 = s.frame := haged
  rw [sortTrackerMaxAge] at hage
  rw [FrameRun.missed]
  omega

/-- A person who is seen in two frames. -/
theorem missed_le_maxAge_twoFrames : ∃ s : FrameRun InferBBox,
    runFrom (FrameRun.step restingMotion fun _ => [0]) .start
        [[personAt (.zero _)], [personAt (.zero _)]] = some s ∧
      s.tracking.alive.length = 1 ∧ ∀ k ∈ s.tracking.alive, s.missed k ≤ 10 := by
  refine ⟨_, rfl, by decide +kernel, missed_le_maxAge restingMotion (fun _ => [0])
    [[personAt (.zero _)], [personAt (.zero _)]] _ ?_ rfl⟩
  refine ⟨fun _ => by simp, fun s hs => ?_⟩
  cases hs
  exact ⟨fun _ => by simp, fun _ _ => trivial⟩

/-- A person who is seen once is still tracked after eleven frames without a person. -/
theorem not_missed_le_maxAge :
    ¬ ∀ (frames : List (List InferObject)) (s : FrameRun InferBBox),
      runFrom (FrameRun.step restingMotion fun _ => [0]) .start frames = some s →
        ∀ k ∈ s.tracking.alive, s.missed k ≤ 10 := by
  intro h
  have hmissed := h ([personAt (.zero _)] :: List.replicate 11 []) _ rfl _ List.mem_cons_self
  exact absurd hmissed (by decide)

end Runs

end DetectBase
