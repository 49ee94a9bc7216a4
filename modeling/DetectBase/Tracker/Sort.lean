import DetectBase.Structure.InferObject
import DetectBase.Structure.Types
import Mathlib.Data.Finset.Sort
import Mathlib.Data.Finset.Image

/-!
# The SORT tracker

`SORTTracker::TrackObjects` relates the detections of one frame to the trackers of the frames
before. Every tracker predicts where its object is; those whose prediction lies outside the frame
are erased; an assignment of trackers to detections is sought that is cheap, where the cost of a
pair is what the two boxes do not share; a pair that is too expensive is given up. A tracker that
has got a detection is corrected by it, a detection without a tracker starts one, and a tracker that
has gone without for too long is retired.

The filter itself is OpenCV's, and the assignment is sought by a solver of its own. Both are
parameters here: `DetectBase.Motion` is the filter with the geometry around it, and a solver is a
function from the matrix of the costs to a list with one entry for each tracker.
-/

namespace DetectBase

/-- `StateXYWH`, the box of a prediction. -/
abbrev StateXYWH := InferBBox

/-- **The motion model of a tracker**: `cv::KalmanFilter` on the states `K`, with the conversions
between its state and boxes. -/
structure Motion (K : Type) where
  /-- `InitKf`, from the object that starts a tracker. -/
  init : InferObject → K
  /-- `kf.predict()`, with the box of the prediction. -/
  predict : K → K × StateXYWH
  /-- `kf.correct()`, by a detection. -/
  correct : K → InferObject → K
  /-- The box that `get_predict_track_object` reports. -/
  box : K → InferBBox
  /-- The entry of the cost matrix: `1 - GetIOU` of a prediction and a detection. -/
  cost : StateXYWH → InferObject → Double

/-- `MgenKalmanTracker`. -/
structure KalmanTracker (K : Type) where
  /-- `track_id`. -/
  trackId : InferTrackID
  /-- `class_id`. -/
  classId : InferClassID
  /-- `engine_id`. -/
  engineId : InferEngineID
  /-- `last_update_score`. -/
  lastUpdateScore : Single
  /-- `time_since_update`. -/
  timeSinceUpdate : ℕ
  /-- `hits`. -/
  hits : ℕ
  /-- `hit_streak`. -/
  hitStreak : ℕ
  /-- `age`. -/
  age : ℕ
  /-- `kf`. -/
  kf : K
deriving DecidableEq

/-- `++` on an `unsigned int`. -/
def increment (n : ℕ) : ℕ := (n + 1) % 2 ^ 32

namespace KalmanTracker

variable {K : Type} (m : Motion K)

/-- The constructor. The identifier is a counter of the tracker, taken as an `int`. -/
def new (uuid : ℕ) (object : InferObject) : KalmanTracker K where
  trackId := toInt32 uuid
  classId := object.classId
  engineId := object.inferEngineId
  lastUpdateScore := object.score
  timeSinceUpdate := 0
  hits := 0
  hitStreak := 0
  age := 0
  kf := m.init object

/-- **`predict`**. -/
def predict (k : KalmanTracker K) : KalmanTracker K × StateXYWH :=
  ({ k with
      kf := (m.predict k.kf).1
      age := increment k.age
      hitStreak := if 0 < k.timeSinceUpdate then 0 else k.hitStreak
      timeSinceUpdate := increment k.timeSinceUpdate },
    (m.predict k.kf).2)

/-- **`update`**. -/
def update (k : KalmanTracker K) (object : InferObject) : KalmanTracker K :=
  -- a detection of another class is ignored
  if k.classId ≠ object.classId then k
  else
    { k with
      timeSinceUpdate := 0
      hitStreak := increment k.hitStreak
      hits := increment k.hits
      lastUpdateScore := object.score
      kf := m.correct k.kf object }

/-- **`is_over_age`**. -/
def isOverAge (k : KalmanTracker K) (maxAge : ℕ) : Bool := maxAge < k.timeSinceUpdate

/-- **`is_detected_track_object`**. The second argument is an `int` in the caller. -/
def isDetectedTrackObject (k : KalmanTracker K) (minHits : ℕ) (initThreshold : ℤ) : Bool :=
  k.timeSinceUpdate < 1 && (minHits ≤ k.hitStreak || initThreshold % 2 ^ 32 ≤ minHits)

/-- **`get_predict_track_object`**, for a tracker whose frames are in pixels with the corner at the
top left, as all trackers of the service are. -/
def getPredictTrackObject (k : KalmanTracker K) : InferObject where
  inferEngineId := k.engineId
  classId := k.classId
  trackId := k.trackId
  score := k.lastUpdateScore
  bbox := m.box k.kf
  xyRefType := .ltxType
  coordFormat := .pixelInt
  extendData := []

end KalmanTracker

/-- `SORTTracker`. -/
structure SORTTracker (K : Type) where
  /-- `kalmans_`. -/
  kalmans : List (KalmanTracker K)
  /-- `kalman_tracker_create_count_`. -/
  createCount : ℕ

/-- `SORT_TRACKING_MAX_NUM`. -/
def sortTrackingMaxNum : ℕ := 200

/-- `SORT_TRACKER_DEFAULT_MAX_AGE`. -/
def sortTrackerMaxAge : ℕ := 10

/-- `SORT_TRACKER_DEFAULT_MIN_HIT`. -/
def sortTrackerMinHit : ℕ := 3

/-- `SORT_TRACKER_IOU_THRESHOLD`, a `float` that is kept in a `double`. -/
def iouThreshold : Double := (ofDecimal binary32 false 7 (-1)).convert binary64

/-- `TRACK_ID_CYCLE_THRESHOLD`. -/
def trackIdCycleThreshold : ℕ := 2000000000

namespace SORTTracker

variable {K : Type} (m : Motion K)

/-- After the constructor. -/
def new : SORTTracker K := ⟨[], 1⟩

/-- A new tracker for a detection. -/
def spawn (s : SORTTracker K) (object : InferObject) : SORTTracker K :=
  ⟨s.kalmans ++ [.new m s.createCount object], increment s.createCount⟩

/-- **The loop of the predictions**: what is left of `kalmans_`, with `predicted_boxes_`. -/
def predictLoop : List (KalmanTracker K) → List (KalmanTracker K × StateXYWH)
  | [] => []
  | k :: ks =>
    -- a box whose corner is not at 0 or beyond is erased
    if (k.predict m).2.x < .zero _ ∨ (k.predict m).2.y < .zero _ then predictLoop ks
    else k.predict m :: predictLoop ks

/-- `cost_matrix_`. -/
def costMatrix (boxes : List StateXYWH) (objects : List InferObject) : List (List Double) :=
  boxes.map fun box => objects.map (m.cost box)

/-- An entry of the matrix. -/
def costAt (costs : List (List Double)) (i j : ℕ) : Double := (costs.getD i []).getD j (.zero _)

/-- `assignment_[i]`. -/
def assigned (assignment : List ℤ) (i : ℕ) : ℤ := assignment.getD i (-1)

/-- The pair of the tracker `i` is too expensive. -/
def isRejected (costs : List (List Double)) (assignment : List ℤ) (i : ℕ) : Bool :=
  iouThreshold < costAt costs i (assigned assignment i).toNat

/-- `matched_pairs_`: the trackers that get a detection, with its index. -/
def matchedPairs (costs : List (List Double)) (assignment : List ℤ) (trkNum : ℕ) : List (ℕ × ℕ) :=
  (List.range trkNum).filterMap fun i =>
    if assigned assignment i = -1 then none
    else if isRejected costs assignment i then none
    else some (i, (assigned assignment i).toNat)

/-- The detections whose pair is given up. -/
def rejectedItems (costs : List (List Double)) (assignment : List ℤ) (trkNum : ℕ) : Finset ℤ :=
  ((List.range trkNum).filterMap fun i =>
    if assigned assignment i = -1 then none
    else if isRejected costs assignment i then some (assigned assignment i)
    else none).toFinset

/-- `unmatchedItems`. The detections that no tracker has been assigned to are looked for only when
there are more of them than trackers. -/
def unmatchedItems (costs : List (List Double)) (assignment : List ℤ) (trkNum detNum : ℕ) :
    Finset ℤ :=
  (if trkNum < detNum then
    (Finset.range detNum).image (fun n : ℕ => (n : ℤ)) \
      ((List.range trkNum).map (assigned assignment)).toFinset
  else ∅) ∪ rejectedItems costs assignment trkNum

/-- The trackers that have got a detection are corrected. -/
def updateAll (objects : List InferObject) (kalmans : List (KalmanTracker K))
    (pairs : List (ℕ × ℕ)) : List (KalmanTracker K) :=
  pairs.foldl (fun ks p => (objects[p.2]?).elim ks fun object => ks.modify p.1 (·.update m object))
    kalmans

/-- The detections without a tracker get one, in ascending order of their indices. -/
def spawnAll (objects : List InferObject) (s : SORTTracker K) (items : List ℕ) : SORTTracker K :=
  items.foldl (fun s j => (objects[j]?).elim s (s.spawn m)) s

/-- `unmatchedItems`, as the loop over it goes. -/
def unmatchedIndices (costs : List (List Double)) (assignment : List ℤ) (trkNum detNum : ℕ) :
    List ℕ :=
  ((unmatchedItems costs assignment trkNum detNum).sort (· ≤ ·)).map Int.toNat

/-- From the predictions to the new trackers. -/
def associate (solve : List (List Double) → List ℤ) (s : SORTTracker K)
    (predictions : List (KalmanTracker K × StateXYWH)) (objects : List InferObject) :
    SORTTracker K :=
  let costs := costMatrix m (predictions.map Prod.snd) objects
  let assignment := solve costs
  let pairs := matchedPairs costs assignment predictions.length
  spawnAll m objects ⟨updateAll m objects (predictions.map Prod.fst) pairs, s.createCount⟩
    (unmatchedIndices costs assignment predictions.length objects.length)

/-- The trackers that are over age are retired. -/
def retire (s : SORTTracker K) : SORTTracker K :=
  { s with kalmans := s.kalmans.filter fun k => !k.isOverAge sortTrackerMaxAge }

/-- What a call reports. -/
def report (s : SORTTracker K) (requestSeq : ℤ) : List InferObject :=
  (s.kalmans.filter fun k => k.isDetectedTrackObject sortTrackerMinHit requestSeq).map
    fun k => k.getPredictTrackObject m

/-- The counter starts again before it leaves the range of `int`. -/
def cycle (s : SORTTracker K) : SORTTracker K :=
  { s with createCount := if trackIdCycleThreshold < s.createCount then 0 else s.createCount }

/-- **`TrackObjects`**. -/
def trackObjects (solve : List (List Double) → List ℤ) (s : SORTTracker K)
    (objects : List InferObject) (requestSeq : ℤ) :
    Option (List InferObject) × SORTTracker K :=
  if objects = [] then (none, s)
  -- when first, initialize
  else if s.kalmans = [] then (none, objects.foldl (spawn m) s)
  else
    let predictions := predictLoop m s.kalmans
    if sortTrackingMaxNum < predictions.length ∨ sortTrackingMaxNum < objects.length then
      (none, retire { s with kalmans := predictions.map Prod.fst })
    else if predictions = [] then (none, { s with kalmans := [] })
    else
      let s := associate m solve s predictions objects
      (some (s.report m requestSeq), s.retire.cycle)

end SORTTracker

/-! ### What a call keeps -/

section Keeps

open SORTTracker

variable {K : Type} {m : Motion K} {s : SORTTracker K} {objects : List InferObject}
  {P Q : KalmanTracker K → Prop}

/-- What a prediction comes from. -/
theorem mem_predictLoop {ks : List (KalmanTracker K)} {p : KalmanTracker K × StateXYWH}
    (h : p ∈ predictLoop m ks) : ∃ k ∈ ks, p = k.predict m := by
  induction ks with
  | nil => cases h
  | cons k ks ih =>
    rw [predictLoop] at h
    split_ifs at h
    · obtain ⟨k', hk', rfl⟩ := ih h
      exact ⟨k', List.mem_cons_of_mem k hk', rfl⟩
    · rcases List.mem_cons.mp h with rfl | h
      · exact ⟨k, List.mem_cons_self, rfl⟩
      · obtain ⟨k', hk', rfl⟩ := ih h
        exact ⟨k', List.mem_cons_of_mem k hk', rfl⟩

theorem forall_updateAll (hupdate : ∀ k o, P k → P (k.update m o)) {ks : List (KalmanTracker K)}
    {pairs : List (ℕ × ℕ)} (h : ∀ k ∈ ks, P k) : ∀ k ∈ updateAll m objects ks pairs, P k := by
  induction pairs generalizing ks with
  | nil => exact h
  | cons p pairs ih =>
    rw [updateAll, List.foldl_cons]
    refine ih ?_
    cases objects[p.2]? with
    | none => exact h
    | some object =>
      intro k hk
      obtain ⟨i, hi⟩ := List.mem_iff_getElem?.mp hk
      dsimp only [Option.elim] at hi
      rw [List.getElem?_modify] at hi
      obtain ⟨k', hk', rfl⟩ := Option.map_eq_some_iff.mp hi
      split_ifs
      · exact hupdate k' object (h k' (List.mem_of_getElem? hk'))
      · exact h k' (List.mem_of_getElem? hk')

theorem spawnAll_eq_foldl (objects : List InferObject) (s : SORTTracker K) (items : List ℕ) :
    spawnAll m objects s items = (items.filterMap (objects[·]?)).foldl (spawn m) s := by
  induction items generalizing s with
  | nil => rfl
  | cons j items ih =>
    rw [spawnAll, List.foldl_cons]
    refine (ih _).trans ?_
    rw [List.filterMap_cons]
    cases objects[j]? <;> rfl

theorem forall_spawn {object : InferObject} (hnew : ∀ id, P (.new m id object))
    (h : ∀ k ∈ s.kalmans, P k) : ∀ k ∈ (s.spawn m object).kalmans, P k := by
  intro k hk
  rcases List.mem_append.mp hk with hk | hk
  · exact h k hk
  · rw [List.mem_singleton.mp hk]
    exact hnew _

theorem forall_spawnAll (hnew : ∀ id, ∀ o ∈ objects, P (.new m id o)) {items : List ℕ}
    (h : ∀ k ∈ s.kalmans, P k) : ∀ k ∈ (spawnAll m objects s items).kalmans, P k := by
  induction items generalizing s with
  | nil => exact h
  | cons j items ih =>
    rw [spawnAll, List.foldl_cons]
    refine ih ?_
    cases hj : objects[j]? with
    | none => exact h
    | some object => exact forall_spawn (fun id => hnew id object (List.mem_of_getElem? hj)) h

theorem forall_foldl_spawn (hnew : ∀ id, ∀ o ∈ objects, P (.new m id o))
    (h : ∀ k ∈ s.kalmans, P k) : ∀ k ∈ (objects.foldl (spawn m) s).kalmans, P k := by
  induction objects generalizing s with
  | nil => exact h
  | cons o objects ih =>
    exact ih (fun id o' ho' => hnew id o' (List.mem_cons_of_mem o ho'))
      (forall_spawn (fun id => hnew id o List.mem_cons_self) h)

theorem forall_retire (h : ∀ k ∈ s.kalmans, P k) :
    ∀ k ∈ s.retire.kalmans, P k ∧ k.timeSinceUpdate ≤ sortTrackerMaxAge := by
  intro k hk
  obtain ⟨hk, hage⟩ := List.mem_filter.mp hk
  exact ⟨h k hk, by simpa [KalmanTracker.isOverAge] using hage⟩

/-- **What a call makes of the trackers**: with what every prediction establishes and every update
keeps, and every new tracker has. None of the trackers that it leaves is over age. -/
theorem forall_trackObjects {solve : List (List Double) → List ℤ} {requestSeq : ℤ}
    (hne : objects ≠ []) (h : ∀ k ∈ s.kalmans, P k) (hpredict : ∀ k, P k → Q (k.predict m).1)
    (hupdate : ∀ k o, Q k → Q (k.update m o)) (hnew : ∀ id, ∀ o ∈ objects, Q (.new m id o)) :
    ∀ k ∈ (s.trackObjects m solve objects requestSeq).2.kalmans,
      Q k ∧ k.timeSinceUpdate ≤ sortTrackerMaxAge := by
  have hpredictions : ∀ k ∈ (predictLoop m s.kalmans).map Prod.fst, Q k := by
    intro k hk
    obtain ⟨p, hp, rfl⟩ := List.mem_map.mp hk
    obtain ⟨k', hk', rfl⟩ := mem_predictLoop hp
    exact hpredict k' (h k' hk')
  rw [trackObjects, if_neg hne]
  dsimp only
  split_ifs with hfirst
  · refine forall_foldl_spawn (fun id o ho => ⟨hnew id o ho, Nat.zero_le _⟩) ?_
    rw [hfirst]
    exact nofun
  · exact forall_retire (s := ⟨_, s.createCount⟩) hpredictions
  · exact nofun
  · exact forall_retire (forall_spawnAll hnew (forall_updateAll hupdate hpredictions))

end Keeps

/-! ### A filter that stands still -/

/-- An object that stays where it is, and shares all or nothing of its box with another. -/
def restingMotion : Motion InferBBox where
  init object := object.bbox
  predict box := (box, box)
  correct _ object := object.bbox
  box := id
  cost box object := if box = object.bbox then .zero _ else ofInt _ 1

/-- A person at some distance from the left border. -/
def personAt (x : Single) : InferObject where
  inferEngineId := 1
  classId := 0
  trackId := -2
  score := .zero _
  bbox := ⟨x, .zero _, ofInt _ 10, ofInt _ 20⟩
  xyRefType := .ltxType
  coordFormat := .pixelInt
  extendData := []

end DetectBase
