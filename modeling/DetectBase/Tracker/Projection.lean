import DetectBase.Tracker.Sort

/-!
# Filters that carry something with them

To speak of what has happened to a tracker, its filter can be made to carry a record of it. As long
as the filter itself is not looked at differently (`DetectBase.Motion.Over`), nothing changes: a
call does to the trackers without their records what it does to the trackers with them
(`DetectBase.map_trackObjects`).
-/

namespace DetectBase

open SORTTracker

variable {K K' : Type}

/-- **A filter over another one**: what the states of the one are over those of the other is kept,
and nothing that is seen of them differs. -/
structure Motion.Over (m' : Motion K') (m : Motion K) (f : K' → K) : Prop where
  /-- It is started alike. -/
  init : ∀ object, f (m'.init object) = m.init object
  /-- It goes on alike. -/
  predict : ∀ k, f (m'.predict k).1 = (m.predict (f k)).1
  /-- It predicts the same box. -/
  predictBox : ∀ k, (m'.predict k).2 = (m.predict (f k)).2
  /-- It is corrected alike. -/
  correct : ∀ k object, f (m'.correct k object) = m.correct (f k) object
  /-- It reports the same box. -/
  box : ∀ k, m'.box k = m.box (f k)
  /-- The costs are the same. -/
  cost : m'.cost = m.cost

/-- A tracker with another filter. -/
def KalmanTracker.map (f : K' → K) (k : KalmanTracker K') : KalmanTracker K where
  trackId := k.trackId
  classId := k.classId
  engineId := k.engineId
  lastUpdateScore := k.lastUpdateScore
  timeSinceUpdate := k.timeSinceUpdate
  hits := k.hits
  hitStreak := k.hitStreak
  age := k.age
  kf := f k.kf

/-- All trackers with another filter. -/
def SORTTracker.map (f : K' → K) (s : SORTTracker K') : SORTTracker K :=
  ⟨s.kalmans.map (·.map f), s.createCount⟩

section

variable {m' : Motion K'} {m : Motion K} {f : K' → K} {s : SORTTracker K'}
  {objects : List InferObject}

theorem map_predict (h : m'.Over m f) (k : KalmanTracker K') :
    ((k.predict m').1.map f, (k.predict m').2) = (k.map f).predict m := by
  rw [KalmanTracker.predict, KalmanTracker.predict, h.predictBox]
  dsimp only [KalmanTracker.map]
  rw [h.predict]
  rfl

theorem map_update (h : m'.Over m f) (k : KalmanTracker K') (object : InferObject) :
    (k.update m' object).map f = (k.map f).update m object := by
  rw [KalmanTracker.update, KalmanTracker.update]
  change _ = if k.classId ≠ object.classId then _ else _
  split_ifs
  · rfl
  · simp only [KalmanTracker.map, h.correct]

theorem map_new (h : m'.Over m f) (uuid : ℕ) (object : InferObject) :
    (KalmanTracker.new m' uuid object).map f = KalmanTracker.new m uuid object := by
  simp only [KalmanTracker.new, KalmanTracker.map, h.init]

theorem map_spawn (h : m'.Over m f) (object : InferObject) :
    (s.spawn m' object).map f = (s.map f).spawn m object := by
  simp only [spawn, SORTTracker.map, List.map_append, List.map_cons, List.map_nil, map_new h]

theorem map_predictLoop (h : m'.Over m f) (ks : List (KalmanTracker K')) :
    (predictLoop m' ks).map (fun p => (p.1.map f, p.2)) =
      predictLoop m (ks.map (·.map f)) := by
  induction ks with
  | nil => rfl
  | cons k ks ih =>
    rw [List.map_cons, predictLoop, predictLoop, ← map_predict h k]
    split_ifs
    · exact ih
    · rw [List.map_cons, ih]

theorem map_updateAll (h : m'.Over m f) (ks : List (KalmanTracker K')) (pairs : List (ℕ × ℕ)) :
    (updateAll m' objects ks pairs).map (·.map f) =
      updateAll m objects (ks.map (·.map f)) pairs := by
  induction pairs generalizing ks with
  | nil => rfl
  | cons p pairs ih =>
    rw [updateAll, updateAll, List.foldl_cons, List.foldl_cons]
    refine (ih _).trans (congrArg (fun ks => updateAll m objects ks pairs) ?_)
    cases objects[p.2]? with
    | none => rfl
    | some object =>
      refine List.ext_getElem? fun i => ?_
      simp only [Option.elim, List.getElem?_map, List.getElem?_modify]
      cases ks[i]? with
      | none => rfl
      | some k =>
        by_cases hi : p.1 = i
        · simp [hi, map_update h]
        · simp [hi]

theorem map_foldl_spawn (h : m'.Over m f) :
    (objects.foldl (spawn m') s).map f = objects.foldl (spawn m) (s.map f) := by
  induction objects generalizing s with
  | nil => rfl
  | cons object objects ih =>
    rw [List.foldl_cons, List.foldl_cons, ih, map_spawn h]

theorem map_spawnAll (h : m'.Over m f) (items : List ℕ) :
    (spawnAll m' objects s items).map f = spawnAll m objects (s.map f) items := by
  rw [spawnAll_eq_foldl, spawnAll_eq_foldl, map_foldl_spawn h]

theorem map_retire : s.retire.map f = (s.map f).retire := by
  simp only [retire, SORTTracker.map, List.filter_map]
  rfl

theorem map_report (h : m'.Over m f) (requestSeq : ℤ) :
    s.report m' requestSeq = (s.map f).report m requestSeq := by
  simp only [report, SORTTracker.map, List.filter_map, List.map_map]
  refine List.map_congr_left fun k _ => ?_
  simp only [Function.comp_apply, KalmanTracker.getPredictTrackObject, KalmanTracker.map, h.box]

/-! ### Calls -/

theorem length_predictLoop_map (h : m'.Over m f) (s : SORTTracker K') :
    (predictLoop m (s.map f).kalmans).length = (predictLoop m' s.kalmans).length := by
  rw [SORTTracker.map, ← map_predictLoop h, List.length_map]

theorem map_fst_predictLoop (h : m'.Over m f) (s : SORTTracker K') :
    (predictLoop m (s.map f).kalmans).map Prod.fst =
      ((predictLoop m' s.kalmans).map Prod.fst).map (·.map f) := by
  rw [SORTTracker.map, ← map_predictLoop h, List.map_map, List.map_map]
  rfl

theorem map_snd_predictLoop (h : m'.Over m f) (s : SORTTracker K') :
    (predictLoop m (s.map f).kalmans).map Prod.snd = (predictLoop m' s.kalmans).map Prod.snd := by
  rw [SORTTracker.map, ← map_predictLoop h, List.map_map]
  rfl

theorem costMatrix_eq (h : m'.Over m f) (boxes : List StateXYWH) :
    costMatrix m' boxes objects = costMatrix m boxes objects := by
  rw [costMatrix, costMatrix, h.cost]

/-- From the predictions to the new trackers. -/
theorem map_associate (h : m'.Over m f) (solve : List (List Double) → List ℤ) :
    (associate m' solve s (predictLoop m' s.kalmans) objects).map f =
      associate m solve (s.map f) (predictLoop m (s.map f).kalmans) objects := by
  rw [associate, associate, map_spawnAll h, SORTTracker.map, map_updateAll h,
    length_predictLoop_map h, map_snd_predictLoop h, map_fst_predictLoop h, costMatrix_eq h]
  rfl

/-- **A call does the same** whatever the filters carry with them. -/
theorem map_trackObjects (h : m'.Over m f) (solve : List (List Double) → List ℤ)
    (objects : List InferObject) (requestSeq : ℤ) :
    (s.trackObjects m' solve objects requestSeq).map id (SORTTracker.map f) =
      (s.map f).trackObjects m solve objects requestSeq := by
  have hlength := length_predictLoop_map h s
  have hnil : (s.map f).kalmans = [] ↔ s.kalmans = [] := by simp [SORTTracker.map]
  have hnone : predictLoop m (s.map f).kalmans = [] ↔ predictLoop m' s.kalmans = [] := by
    rw [← List.length_eq_zero_iff, hlength, List.length_eq_zero_iff]
  rw [trackObjects, trackObjects]
  simp only [hlength, hnil, hnone]
  split_ifs
  · rfl
  · rw [Prod.map_apply, map_foldl_spawn h]
    rfl
  · rw [Prod.map_apply, map_retire, map_fst_predictLoop h]
    rfl
  · rfl
  · rw [Prod.map_apply, ← map_associate h, ← map_report h]
    refine Prod.ext rfl ?_
    change ((associate _ _ _ _ _).retire.map f).cycle = _
    rw [map_retire]

end

end DetectBase
