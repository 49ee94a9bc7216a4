import DetectBase.Abnormal.Schedule
import DetectBase.Foundations.KeyedFold

/-!
# The event checks

`AbnormalActionChecker.cpp` and `Schedule::Check`. The four checks share a loop: each object of the
class in question that is not excluded is looked up in a history by its track, the history is
brought up to date, and the object may be reported. `DetectBase.Abnormal.visit` is one round of
that loop, over what a check keeps for a track (`update`) and what it reports (`report`).

Two facts about the loop carry the statements about runs. It keeps the tracks apart
(`DetectBase.Abnormal.keyed_visit`), and objects that are not of the class could as well be left
out (`DetectBase.Abnormal.foldl_visit_filter`).

A run is given by its calls, the newest first: the state after a call is that of the calls before
it (`DetectBase.Abnormal.Schedule.after`), brought forward.
-/

namespace DetectBase.Abnormal

/-! ### The loop of the checks -/

section Visit

variable {T : Type} {threshold : ℤ} (sch : Schedule) (isTarget : InferObject → Bool) (now : ℤ)
  (blank : T) (update : InferObject → T → T)
  (report : DataLayer → InferObject → T → DataLayer)

/-- One round of the loop of a check, with the results so far and the histories. -/
def visit (acc : DataLayer × HistoryChecker threshold T) (object : InferObject) :
    DataLayer × HistoryChecker threshold T :=
  if isTarget object = false then acc
  else if sch.isWithinExcludeROI object then acc
  else
    let entry := acc.2.getHistory blank now object.trackId
    let history := update object entry.1
    (acc.1 ++ report acc.1 object history, acc.2.assign object.trackId (history, entry.2))

/-- **The results and the history of a track.** -/
def ofTrack (t : InferTrackID) (acc : DataLayer × HistoryChecker threshold T) :
    DataLayer × Option (T × ℤ) :=
  (acc.1.filter fun object => object.trackId = t, acc.2.historyMap t)

variable {sch isTarget now blank update report}

theorem visit_of_not_target {acc : DataLayer × HistoryChecker threshold T} {object : InferObject}
    (h : isTarget object = false) :
    visit sch isTarget now blank update report acc object = acc := by
  rw [visit, if_pos h]

theorem visit_of_excluded {acc : DataLayer × HistoryChecker threshold T} {object : InferObject}
    (h : sch.isWithinExcludeROI object = true) :
    visit sch isTarget now blank update report acc object = acc := by
  rw [visit, if_pos h, ite_self]

theorem visit_of_visible {acc : DataLayer × HistoryChecker threshold T} {object : InferObject}
    (htarget : isTarget object = true) (hvisible : sch.isWithinExcludeROI object = false) :
    visit sch isTarget now blank update report acc object =
      (acc.1 ++ report acc.1 object
          (update object (acc.2.getHistory blank now object.trackId).1),
        acc.2.assign object.trackId
          (update object (acc.2.getHistory blank now object.trackId).1,
            (acc.2.getHistory blank now object.trackId).2)) := by
  rw [visit, if_neg (by rw [htarget]; decide), if_neg (by rw [hvisible]; decide)]

/-- The loop only adds to the results. -/
theorem exists_results_foldl_visit (layer : DataLayer) :
    ∀ acc : DataLayer × HistoryChecker threshold T, ∃ added,
      (layer.foldl (visit sch isTarget now blank update report) acc).1 = acc.1 ++ added := by
  induction layer with
  | nil => exact fun acc => ⟨[], (List.append_nil _).symm⟩
  | cons object layer ih =>
    intro acc
    obtain ⟨added, hadded⟩ := ih (visit sch isTarget now blank update report acc object)
    rw [List.foldl_cons, hadded, visit]
    split_ifs
    · exact ⟨added, rfl⟩
    · exact ⟨added, rfl⟩
    · exact ⟨_, List.append_assoc ..⟩

/-- What a round reports is among the results of the loop. -/
theorem mem_foldl_visit {acc : DataLayer × HistoryChecker threshold T} {pre post : DataLayer}
    {object r : InferObject} (htarget : isTarget object = true)
    (hvisible : sch.isWithinExcludeROI object = false)
    (hr : r ∈ report (pre.foldl (visit sch isTarget now blank update report) acc).1 object
      (update object ((pre.foldl (visit sch isTarget now blank update report) acc).2.getHistory
        blank now object.trackId).1)) :
    r ∈ ((pre ++ object :: post).foldl (visit sch isTarget now blank update report) acc).1 := by
  rw [List.foldl_append, List.foldl_cons]
  obtain ⟨added, hadded⟩ := exists_results_foldl_visit post
    (visit sch isTarget now blank update report
      (pre.foldl (visit sch isTarget now blank update report) acc) object)
  rw [hadded, visit_of_visible htarget hvisible]
  exact List.mem_append_left _ (List.mem_append_right _ hr)

/-- A result of the loop was reported in some round of it. -/
theorem exists_of_mem_foldl_visit {r : InferObject} (layer : DataLayer) :
    ∀ acc : DataLayer × HistoryChecker threshold T,
      r ∈ (layer.foldl (visit sch isTarget now blank update report) acc).1 →
      r ∈ acc.1 ∨ ∃ pre object post, layer = pre ++ object :: post ∧ isTarget object = true ∧
        sch.isWithinExcludeROI object = false ∧
        r ∈ report (pre.foldl (visit sch isTarget now blank update report) acc).1 object
          (update object ((pre.foldl (visit sch isTarget now blank update report) acc).2.getHistory
            blank now object.trackId).1) := by
  induction layer with
  | nil => exact fun _ hr => .inl hr
  | cons object layer ih =>
    intro acc hr
    obtain hr | ⟨pre, object', post, rfl, hrest⟩ := ih _ hr
    · by_cases hskip : isTarget object = false ∨ sch.isWithinExcludeROI object = true
      · left
        obtain h | h := hskip
        · rwa [visit_of_not_target h] at hr
        · rwa [visit_of_excluded h] at hr
      · rw [not_or, Bool.not_eq_false, Bool.not_eq_true] at hskip
        rw [visit_of_visible hskip.1 hskip.2] at hr
        obtain hr | hr := List.mem_append.mp hr
        · exact .inl hr
        · exact .inr ⟨[], object, layer, rfl, hskip.1, hskip.2, hr⟩
    · exact .inr ⟨object :: pre, object', post, rfl, hrest⟩

/-- **Objects that are not of the class could as well be left out.** -/
theorem foldl_visit_filter {acc : DataLayer × HistoryChecker threshold T} {layer : DataLayer} :
    (layer.filter isTarget).foldl (visit sch isTarget now blank update report) acc =
      layer.foldl (visit sch isTarget now blank update report) acc := by
  rw [List.foldl_filter]
  congr 1
  funext acc object
  by_cases h : isTarget object = true
  · rw [if_pos h]
  · rw [if_neg h, visit_of_not_target (by simpa using h)]

/-- The entry of the track of an object that is looked at, after one round. -/
theorem historyMap_visit_of_visible {acc : DataLayer × HistoryChecker threshold T}
    {object : InferObject} {t : InferTrackID}
    (h : isTarget object = true ∧ sch.isWithinExcludeROI object = false ∧ object.trackId = t) :
    (visit sch isTarget now blank update report acc object).2.historyMap t =
      some (update object (acc.2.getHistory blank now t).1,
        (acc.2.getHistory blank now t).2) := by
  obtain ⟨htarget, hvisible, rfl⟩ := h
  rw [visit_of_visible htarget hvisible, HistoryChecker.historyMap_assign_self]

/-- Other entries are left alone. -/
theorem historyMap_visit_of_not_visible {acc : DataLayer × HistoryChecker threshold T}
    {object : InferObject} {t : InferTrackID}
    (h : ¬(isTarget object = true ∧ sch.isWithinExcludeROI object = false ∧
      object.trackId = t)) :
    (visit sch isTarget now blank update report acc object).2.historyMap t =
      acc.2.historyMap t := by
  rw [visit]
  split_ifs with htarget hexcl
  · rfl
  · rfl
  · refine HistoryChecker.historyMap_assign_of_ne _ (fun ht => h ⟨?_, ?_, ht.symm⟩) _
    · simpa using htarget
    · simpa using hexcl

/-- **What `GetHistory` finds after one round**: for the track of an object that is looked at, the
history that the round has written. -/
theorem getHistory_visit (hthreshold : 0 ≤ threshold)
    (acc : DataLayer × HistoryChecker threshold T) (object : InferObject) (t : InferTrackID) :
    (visit sch isTarget now blank update report acc object).2.getHistory blank now t =
      if isTarget object = true ∧ sch.isWithinExcludeROI object = false ∧ object.trackId = t then
        (update object (acc.2.getHistory blank now t).1, (acc.2.getHistory blank now t).2)
      else acc.2.getHistory blank now t := by
  split_ifs with h
  · exact HistoryChecker.getHistory_of_elapsed_le (historyMap_visit_of_visible h)
      (HistoryChecker.elapsed_getHistory_le hthreshold)
  · rw [HistoryChecker.getHistory, historyMap_visit_of_not_visible h]
    rfl

/-- **What `GetHistory` finds after the loop**: the objects of the track that are looked at have
been put in, in turn. -/
theorem getHistory_foldl_visit (hthreshold : 0 ≤ threshold) (layer : DataLayer) (t : InferTrackID) :
    ∀ acc : DataLayer × HistoryChecker threshold T,
      (layer.foldl (visit sch isTarget now blank update report) acc).2.getHistory blank now t =
        ((layer.filter fun object => isTarget object = true ∧
              sch.isWithinExcludeROI object = false ∧ object.trackId = t).foldl
            (fun history object => update object history) (acc.2.getHistory blank now t).1,
          (acc.2.getHistory blank now t).2) := by
  induction layer with
  | nil => exact fun _ => rfl
  | cons object layer ih =>
    intro acc
    rw [List.foldl_cons, ih, getHistory_visit hthreshold]
    split_ifs with h
    · rw [List.filter_cons_of_pos (by simpa using h), List.foldl_cons]
    · rw [List.filter_cons_of_neg (by simpa using h)]

/-- A track that is looked at has an entry after the loop, which is not older than the threshold. -/
theorem historyMap_foldl_visit (hthreshold : 0 ≤ threshold) {t : InferTrackID} (layer : DataLayer) :
    ∀ acc : DataLayer × HistoryChecker threshold T,
      (acc.2.historyMap t = some (acc.2.getHistory blank now t) ∨
        ∃ object ∈ layer, isTarget object = true ∧ sch.isWithinExcludeROI object = false ∧
          object.trackId = t) →
      (layer.foldl (visit sch isTarget now blank update report) acc).2.historyMap t =
        some ((layer.foldl (visit sch isTarget now blank update report) acc).2.getHistory blank now
          t) := by
  induction layer with
  | nil =>
    rintro acc (h | ⟨object, hmem, -⟩)
    · exact h
    · cases hmem
  | cons object layer ih =>
    intro acc h
    refine ih _ ?_
    by_cases hlook : isTarget object = true ∧ sch.isWithinExcludeROI object = false ∧
        object.trackId = t
    · left
      rw [historyMap_visit_of_visible hlook, getHistory_visit hthreshold, if_pos hlook]
    · rw [historyMap_visit_of_not_visible hlook, getHistory_visit hthreshold, if_neg hlook]
      obtain h | ⟨object', hmem, hobject'⟩ := h
      · exact .inl h
      · obtain rfl | hmem := List.mem_cons.mp hmem
        · exact absurd hobject' hlook
        · exact .inr ⟨object', hmem, hobject'⟩

/-- **The loop keeps the tracks apart**, when a report is about the track of its object and depends
on the results for that track only. -/
theorem keyed_visit
    (hid : ∀ results object history, ∀ r ∈ report results object history,
      r.trackId = object.trackId)
    (hown : ∀ results object history, report results object history =
      report (results.filter fun r => r.trackId = object.trackId) object history) :
    Keyed (visit sch isTarget now blank update report :
        DataLayer × HistoryChecker threshold T → InferObject → _)
      InferObject.trackId ofTrack := by
  constructor
  · intro acc object t hne
    by_cases hskip : isTarget object = false ∨ sch.isWithinExcludeROI object = true
    · rcases hskip with h | h
      · rw [visit_of_not_target h]
      · rw [visit_of_excluded h]
    · rw [not_or, Bool.not_eq_false, Bool.not_eq_true] at hskip
      rw [visit_of_visible hskip.1 hskip.2, ofTrack, ofTrack,
        HistoryChecker.historyMap_assign_of_ne _ (Ne.symm hne), List.filter_append]
      have hnil : (report acc.1 object
          (update object (acc.2.getHistory blank now object.trackId).1)).filter
            (fun r => r.trackId = t) = [] := by
        rw [List.filter_eq_nil_iff]
        intro r hr
        rw [hid _ _ _ r hr, decide_eq_true_eq]
        exact hne
      rw [hnil, List.append_nil]
  · intro acc acc' object heq
    have hres := congrArg Prod.fst heq
    have hmap : acc.2.historyMap object.trackId = acc'.2.historyMap object.trackId :=
      congrArg Prod.snd heq
    by_cases hskip : isTarget object = false ∨ sch.isWithinExcludeROI object = true
    · rcases hskip with h | h
      · rw [visit_of_not_target h, visit_of_not_target h, heq]
      · rw [visit_of_excluded h, visit_of_excluded h, heq]
    · rw [not_or, Bool.not_eq_false, Bool.not_eq_true] at hskip
      rw [visit_of_visible hskip.1 hskip.2, visit_of_visible hskip.1 hskip.2]
      simp only [ofTrack, HistoryChecker.historyMap_assign_self, HistoryChecker.getHistory, hmap,
        List.filter_append] at hres ⊢
      rw [hown acc.1, hown acc'.1, hres]

/-- **One object of a track**: what the loop does to the track is what one round of it does. -/
theorem ofTrack_foldl_visit
    (hid : ∀ results object history, ∀ r ∈ report results object history,
      r.trackId = object.trackId)
    (hown : ∀ results object history, report results object history =
      report (results.filter fun r => r.trackId = object.trackId) object history)
    {acc : DataLayer × HistoryChecker threshold T} {layer : DataLayer} {object : InferObject}
    (hmem : object ∈ layer) (hnodup : (layer.map InferObject.trackId).Nodup) :
    ofTrack object.trackId (layer.foldl (visit sch isTarget now blank update report) acc) =
      ofTrack object.trackId (visit sch isTarget now blank update report acc object) := by
  obtain ⟨pre, post, rfl⟩ := List.append_of_mem hmem
  rw [List.map_append, List.map_cons, List.nodup_middle, List.nodup_cons, List.mem_append,
    not_or] at hnodup
  refine (keyed_visit hid hown).view_foldl ?_ ?_
  · exact fun o ho heq => hnodup.1.1 (heq ▸ List.mem_map_of_mem ho)
  · exact fun o ho heq => hnodup.1.2 (heq ▸ List.mem_map_of_mem ho)

end Visit

/-! ### Parking -/

/-- `DATA_LAYER_HIST_MAX`. -/
def dataLayerHistMax : ℕ := 600

/-- `REQUIRE_MIN_TRACKING_COUNT`. -/
def requireMinTrackingCount : ℕ := 10

/-- A result: the object, with one more number in `extend_data`. -/
def withData (object : InferObject) (data : ℤ) : InferObject :=
  { object with extendData := object.extendData ++ [ofInt binary32 data] }

/-- What `VehicleParking` makes of the history of an object. A history that has become too long is
cut down to its first entry. -/
def parkingUpdate (sch : Schedule) (m : Moment) (object : InferObject)
    (history : LoiteringEventInfo) : LoiteringEventInfo :=
  if sch.isWithinROI object then
    let historyObjects := history.inferObjects ++ [(object, m.system)]
    if historyObjects.length > dataLayerHistMax then ⟨historyObjects.take 1⟩ else ⟨historyObjects⟩
  else history

/-- What `VehicleParking` reports. -/
def parkingReport (sch : Schedule) (m : Moment) (lastActiveTime : ℤ) (object : InferObject)
    (history : LoiteringEventInfo) : DataLayer :=
  if sch.isWithinROI object = false then []
  else if history.inferObjects.length < requireMinTrackingCount then []
  else match history.inferObjects with
    | [] => []
    | (_, firstTrackedTime) :: _ =>
      let duration := sch.getDurationIfSatisfyEventRequireSeconds firstTrackedTime m.system
      if duration > 0 ∧ sch.getEnoughEventInterval lastActiveTime m.system then
        [withData object duration]
      else []

/-- `UpdateEventActivateTime`, when there are results. -/
def activateTime (results : DataLayer) (m : Moment) (lastActiveTime : ℤ) : ℤ :=
  if results.length > 0 then m.system else lastActiveTime

/-- The loop of `VehicleParking` over the first objects of a layer. -/
def parkingLoop (sch : Schedule) (isTarget : InferObject → Bool) (m : Moment)
    (s : ScheduleState sch) (objects : DataLayer) :
    DataLayer × HistoryChecker sch.releaseThresholdMillisecs LoiteringEventInfo :=
  objects.foldl
    (visit sch isTarget m.steady ⟨[]⟩ (parkingUpdate sch m) fun _ =>
      parkingReport sch m s.lastActiveTime)
    ([], s.movingStateHistory)

/-- `VehicleParking`. -/
def vehicleParking (sch : Schedule) (m : Moment) (inLayer : DataLayer) (s : ScheduleState sch) :
    DataLayer × ScheduleState sch :=
  match sch.classEqualChecker with
  | none => ([], s)
  | some classEqualChecker =>
    let loop := parkingLoop sch (fun object => classEqualChecker object.classId "Car") m s inLayer
    (loop.1, { s with
      movingStateHistory := loop.2
      lastActiveTime := activateTime loop.1 m s.lastActiveTime })

/-! ### Lines -/

/-- Each element of a list with the one after it. -/
def consecutive {α : Type} (l : List α) : List (α × α) := l.zip l.tail

/-- `calcLineCross`: the first crossing, line by line, segment by segment, and along the history. -/
def calcLineCross (targetHistory : DataLayer) (targetRois : List (List Point)) : LineOrientation :=
  let cross := targetRois.findSome? fun roiPoints =>
    (consecutive roiPoints).findSome? fun line =>
      (consecutive targetHistory).findSome? fun track =>
        let lineCross := checkLineIntersect (getMidPointFromInferObject track.1)
          (getMidPointFromInferObject track.2) line.1 line.2
        if lineCross ≠ .notCrossed then some lineCross else none
  cross.getD .notCrossed

/-- What `LineIntrusionBase` makes of the history of an object. A history that has become too long
is cleared. -/
def lineUpdate (object : InferObject) (historyBoxes : List InferObject) : List InferObject :=
  let historyBoxes := historyBoxes ++ [object]
  if historyBoxes.length > dataLayerHistMax then [] else historyBoxes

/-- What `LineIntrusionBase` reports. -/
def lineReport (sch : Schedule) (m : Moment) (lastActiveTime : ℤ) (object : InferObject)
    (historyBoxes : List InferObject) : DataLayer :=
  if historyBoxes.length < requireMinTrackingCount then []
  else if sch.getEnoughEventInterval lastActiveTime m.system = false then []
  else
    let lineCrossTwoWay := calcLineCross historyBoxes sch.cvTwoWayRois
    let lineCrossOneWay := calcLineCross historyBoxes sch.cvOneWayRois
    -- the one-way crossing has the last word, and only one direction of it counts
    let lineDirection :=
      if lineCrossOneWay = .clockwise then lineCrossOneWay else lineCrossTwoWay
    if lineDirection ≠ .notCrossed then [withData object lineDirection.toInt] else []

/-- The loop of `LineIntrusionBase` over the first objects of a layer. -/
def lineLoop (sch : Schedule) (isTarget : InferObject → Bool) (m : Moment) (inLayer : DataLayer)
    (s : ScheduleState sch) (objects : DataLayer) :
    DataLayer × HistoryChecker sch.releaseThresholdMillisecs (List InferObject) :=
  objects.foldl
    (visit sch isTarget m.steady [] lineUpdate fun _ => lineReport sch m s.lastActiveTime)
    ([], s.objectHistory.releaseInactiveHistory m.steady inLayer)

/-- `LineIntrusionBase`. -/
def lineIntrusionBase (sch : Schedule) (className : String) (m : Moment) (inLayer : DataLayer)
    (s : ScheduleState sch) : DataLayer × ScheduleState sch :=
  match sch.classEqualChecker with
  | none => ([], s)
  | some classEqualChecker =>
    let loop := lineLoop sch (fun object => classEqualChecker object.classId className) m inLayer s
      inLayer
    (loop.1, { s with
      objectHistory := loop.2
      lastActiveTime := activateTime loop.1 m s.lastActiveTime })

/-- `IntrusionLine`. -/
def intrusionLine (sch : Schedule) : Moment → DataLayer → ScheduleState sch →
    DataLayer × ScheduleState sch :=
  lineIntrusionBase sch "Person"

/-- `VehicleIntrusion`. -/
def vehicleIntrusion (sch : Schedule) : Moment → DataLayer → ScheduleState sch →
    DataLayer × ScheduleState sch :=
  lineIntrusionBase sch "Car"

/-! ### Areas -/

/-- What `IntrusionZone` makes of the history of an object. -/
def zoneUpdate (sch : Schedule) (m : Moment) (object : InferObject) (roiCheck : RoiEventInfo) :
    RoiEventInfo :=
  if sch.isWithinROI object = false then ⟨true, m.system⟩ else roiCheck

/-- `duration_cast<seconds>` of the time from `since` to `now`. -/
def elapsedSeconds (now since : ℤ) : ℤ := (now - since).tdiv (10 ^ 9)

/-- One round of the loop of `IntrusionZone` over the areas: an area that the object is in counts,
unless the track is among the results already. -/
def zoneRound (m : Moment) (results : DataLayer) (object : InferObject) (roiCheck : RoiEventInfo)
    (added : DataLayer) (roiPoints : List Point) : DataLayer :=
  if roiCheck.continuous = true ∧
      isIncludePoint (getMidPointFromInferObject object) roiPoints = true then
    if (results ++ added).any (fun elem => elem.trackId = object.trackId) then added
    else added ++ [withData object (elapsedSeconds m.system roiCheck.eventTime)]
  else added

/-- What `IntrusionZone` reports. -/
def zoneReport (sch : Schedule) (m : Moment) (lastActiveTime : ℤ) (results : DataLayer)
    (object : InferObject) (roiCheck : RoiEventInfo) : DataLayer :=
  if sch.getEnoughEventInterval lastActiveTime m.system = false then []
  else sch.cvRois.foldl (zoneRound m results object roiCheck) []

/-- The areas add one result at most, and none when the track is among the results. -/
theorem foldl_zoneRound (m : Moment) (results : DataLayer) (object : InferObject)
    (roiCheck : RoiEventInfo) (rois : List (List Point)) : ∀ added : DataLayer,
    rois.foldl (zoneRound m results object roiCheck) added =
      if roiCheck.continuous = true ∧
          rois.any (fun roi => isIncludePoint (getMidPointFromInferObject object) roi) = true ∧
          (results ++ added).any (fun elem => elem.trackId = object.trackId) = false then
        added ++ [withData object (elapsedSeconds m.system roiCheck.eventTime)]
      else added := by
  induction rois with
  | nil =>
    intro added
    rw [if_neg (by rintro ⟨-, h, -⟩; cases h)]
    rfl
  | cons roi rois ih =>
    intro added
    rw [List.foldl_cons, ih, zoneRound, List.any_cons]
    cases hin : isIncludePoint (getMidPointFromInferObject object) roi with
    | false => simp
    | true =>
      cases hcont : roiCheck.continuous with
      | false => simp
      | true =>
        cases hold : (results ++ added).any fun elem => elem.trackId = object.trackId with
        | true => simp [hold]
        | false => simp [withData]

/-- **What the areas add up to**: one result, provided the object is in one of them. -/
theorem zoneReport_eq (sch : Schedule) (m : Moment) (last : ℤ) (results : DataLayer)
    (object : InferObject) (roiCheck : RoiEventInfo) :
    zoneReport sch m last results object roiCheck =
      if sch.getEnoughEventInterval last m.system = true ∧ roiCheck.continuous = true ∧
          sch.isWithinROI object = true ∧ ∀ r ∈ results, r.trackId ≠ object.trackId then
        [withData object (elapsedSeconds m.system roiCheck.eventTime)]
      else [] := by
  rw [zoneReport, foldl_zoneRound, Schedule.isWithinROI, List.append_nil, List.nil_append]
  cases henough : sch.getEnoughEventInterval last m.system with
  | false => simp
  | true => simp

/-- `IntrusionZone`. -/
def intrusionZone (sch : Schedule) (m : Moment) (inLayer : DataLayer) (s : ScheduleState sch) :
    DataLayer × ScheduleState sch :=
  match sch.classEqualChecker with
  | none => ([], s)
  | some classEqualChecker =>
    let loop := inLayer.foldl
      (visit sch (fun object => classEqualChecker object.classId "Person") m.steady
        ⟨false, m.system⟩ (zoneUpdate sch m) (zoneReport sch m s.lastActiveTime))
      ([], s.roiStateHistory.releaseInactiveHistory m.steady inLayer)
    (loop.1, { s with
      roiStateHistory := loop.2
      lastActiveTime := activateTime loop.1 m s.lastActiveTime })

/-! ### Runs -/

/-- The class that an event is about. -/
def EventClass.target : EventClass → String
  | lineIntrusion | areaIntrusion => "Person"
  | vehicleIntrusion | vehicleParking => "Car"

/-- A call of `Check`. -/
structure Call where
  /-- What the clocks show. -/
  moment : Moment
  /-- `in_layer`. -/
  inLayer : DataLayer

namespace Schedule

/-- `Schedule::Check`. -/
def check (sch : Schedule) (c : Call) (s : ScheduleState sch) : DataLayer × ScheduleState sch :=
  if sch.isActive c.moment then
    match sch.eventClass with
    | some .lineIntrusion => intrusionLine sch c.moment c.inLayer s
    | some .areaIntrusion => intrusionZone sch c.moment c.inLayer s
    | some .vehicleIntrusion => vehicleIntrusion sch c.moment c.inLayer s
    | some .vehicleParking => vehicleParking sch c.moment c.inLayer s
    | none => ([], s)
  else ([], s)

theorem check_of_inactive {sch : Schedule} {c : Call} (s : ScheduleState sch)
    (h : sch.isActive c.moment ≠ true) : sch.check c s = ([], s) := by
  rw [check, if_neg h]

/-- **The state after a run**, given by the time of the construction and the calls, the newest
first. -/
def after (sch : Schedule) (constructed : ℤ) : List Call → ScheduleState sch
  | [] => .init sch constructed
  | c :: past => (sch.check c (after sch constructed past)).2

/-- What a call returns after the calls in its past. -/
def resultAt (sch : Schedule) (constructed : ℤ) (c : Call) (past : List Call) : DataLayer :=
  (sch.check c (sch.after constructed past)).1

/-- What the calls of a run return, the newest first. -/
def results (sch : Schedule) (constructed : ℤ) : List Call → List DataLayer
  | [] => []
  | c :: past => sch.resultAt constructed c past :: results sch constructed past

/-- When the last call of a run that returned something was made, or the construction. -/
def lastEvent (sch : Schedule) (constructed : ℤ) : List Call → ℤ
  | [] => constructed
  | c :: past =>
    if (sch.resultAt constructed c past).length > 0 then c.moment.system
    else lastEvent sch constructed past

theorem lastActiveTime_check (sch : Schedule) (c : Call) (s : ScheduleState sch) :
    (sch.check c s).2.lastActiveTime =
      activateTime (sch.check c s).1 c.moment s.lastActiveTime := by
  have hbase : ∀ className,
      (lineIntrusionBase sch className c.moment c.inLayer s).2.lastActiveTime =
        activateTime (lineIntrusionBase sch className c.moment c.inLayer s).1 c.moment
          s.lastActiveTime := by
    intro className
    rw [lineIntrusionBase]
    split <;> rfl
  rw [check]
  split
  · split
    · exact hbase "Person"
    · rw [intrusionZone]
      split <;> rfl
    · exact hbase "Car"
    · rw [vehicleParking]
      split <;> rfl
    · rfl
  · rfl

/-- **What the interval between notifications is measured from.** -/
theorem lastActiveTime_after (sch : Schedule) (constructed : ℤ) (calls : List Call) :
    (sch.after constructed calls).lastActiveTime = sch.lastEvent constructed calls := by
  induction calls with
  | nil => rfl
  | cons c past ih =>
    rw [after, lastActiveTime_check, ih]
    rfl

/-- The object is of the class that the schedule is about. -/
def isTarget (sch : Schedule) (object : InferObject) : Bool :=
  match sch.classEqualChecker, sch.eventClass with
  | some classEqualChecker, some event => classEqualChecker object.classId event.target
  | _, _ => false

theorem exists_classEqualChecker {sch : Schedule} {object : InferObject}
    (h : sch.isTarget object = true) :
    ∃ classEqualChecker, sch.classEqualChecker = some classEqualChecker := by
  rw [isTarget] at h
  split at h
  · next f _ hf _ => exact ⟨f, hf⟩
  · cases h

/-- Only objects of the class appear in the calls, and a track once in each. -/
def OnlyTargets (sch : Schedule) (calls : List Call) : Prop :=
  ∀ c ∈ calls, (∀ object ∈ c.inLayer, sch.isTarget object = true) ∧
    (c.inLayer.map InferObject.trackId).Nodup

end Schedule

/-- The clocks do not go back during the run. -/
def ClocksForward (calls : List Call) : Prop :=
  calls.Pairwise fun newer older =>
    older.moment.system ≤ newer.moment.system ∧ older.moment.steady ≤ newer.moment.steady

/-! ### A schedule to run -/

/-- The left half of the picture. -/
def leftHalf : RoiArea :=
  let zero := ofInt binary32 0
  let half := ofDecimal binary32 false 5 (-1)
  let one := ofInt binary32 1
  [(zero, zero), (zero, one), (half, one), (half, zero)]

/-- Settings for an event of the given code in the left half of the picture, always active, with a
second between notifications. -/
def plainInfo (eventCode : ℤ) : AbnormalEventScheduleInfo where
  scheduleId := 1
  eventCode := eventCode
  levelCode := 1
  startTime := "00:00"
  rangeMinutes := 1440
  weekly := List.replicate 7 1
  roi := [leftHalf]
  excludeRoi := []
  twoWayRoi := []
  oneWayRoi := []
  blackListDays := []
  notificationMinIntervalSec := 1
  loiteringRequireDurSec := 1

/-- Two classes. -/
def twoClasses (classId : InferClassID) (name : String) : Bool :=
  (classId = 0 ∧ name = "Person") ∨ (classId = 2 ∧ name = "Car")

/-- A schedule with given settings, for a picture of a hundred pixels each way. -/
def scheduleOf (info : AbnormalEventScheduleInfo) (h : WellFormed info) : Schedule :=
  ⟨info, 100, 100, some twoClasses, h⟩

/-- The schedule for the intrusion of persons into the left half of the picture. -/
def zoneSchedule : Schedule := scheduleOf (plainInfo 203) (by decide)

/-- An object at a pixel. -/
def objectAt (classId : InferClassID) (trackId : InferTrackID) (x y : ℤ) : InferObject where
  inferEngineId := 0
  classId := classId
  trackId := trackId
  score := ofInt binary32 1
  bbox := ⟨ofInt binary32 x, ofInt binary32 y, ofInt binary32 0, ofInt binary32 0⟩
  xyRefType := .ltxType
  coordFormat := .pixelInt
  extendData := []

/-- A call at a number of seconds, at midnight of a Sunday. -/
def callAt (seconds : ℤ) (layer : DataLayer) : Call :=
  ⟨⟨seconds * 10 ^ 9, seconds * 10 ^ 9, ⟨124, 0, 7, 0, 0, 0⟩⟩, layer⟩

/-- There is a call each second, from second zero on. -/
def AtSeconds : List Call → Prop
  | [] => True
  | c :: past => (∃ layer, c = callAt past.length layer) ∧ AtSeconds past

theorem AtSeconds.clocksForward {calls : List Call} (h : AtSeconds calls) :
    ClocksForward calls := by
  have hbound : ∀ past : List Call, AtSeconds past → ∀ c ∈ past,
      c.moment.system ≤ past.length * 10 ^ 9 ∧ c.moment.steady ≤ past.length * 10 ^ 9 := by
    intro past hpast
    induction past with
    | nil => simp
    | cons c past ih =>
      obtain ⟨⟨layer, rfl⟩, hpast⟩ := hpast
      rw [List.forall_mem_cons, List.length_cons]
      refine ⟨?_, fun c hc => ?_⟩
      · simp [callAt]
      · have hc := ih hpast c hc
        push_cast
        omega
  induction calls with
  | nil => exact List.Pairwise.nil
  | cons c past ih =>
    obtain ⟨⟨layer, rfl⟩, hpast⟩ := h
    exact List.Pairwise.cons (hbound past hpast) (ih hpast)

end DetectBase.Abnormal
