import DetectBase.Abnormal.Crossing
import DetectBase.Abnormal.Track

/-!
# Intrusions over a line

An object is reported for having crossed a line somewhere along its track. Over a whole run of
calls, `DetectBase.Abnormal.reportsCrossings` says when, for lines that may be crossed in both
directions: at the calls at which the schedule is active and the interval between notifications has
elapsed, when the mid-points at which the track has been observed since it was last reset are ten or
more, and the way between two consecutive ones meets a line. A track is reset when it expires, and
when it would have more than six hundred mid-points.

A call at which the schedule is not active neither reports nor observes. A statement that takes
every call for an observation is wrong already of a schedule that is never active
(`DetectBase.Abnormal.not_reportsCrossings`).
-/

namespace DetectBase.Abnormal

/-- What an observation does to the mid-points of the track. The one that would make them too many
clears them, and is not kept either. -/
def observeLine (_ : Call) (object : InferObject) (midPoints : List Point) : List Point :=
  if (midPoints ++ [getMidPointFromInferObject object]).length > 600 then []
  else midPoints ++ [getMidPointFromInferObject object]

/-- **The mid-points at which the track has been observed** since it was last reset. -/
def midPointsSince (sch : Schedule) (seen : Call → Bool) (t : InferTrackID) :
    List Call → List Point :=
  memory sch seen t [] observeLine

/-- The way between two consecutive points meets a segment of a line for both directions. -/
def MeetsLine (sch : Schedule) (midPoints : List Point) : Prop :=
  ∃ roiPoints ∈ sch.cvTwoWayRois, ∃ line ∈ consecutive roiPoints,
    ∃ track ∈ consecutive midPoints, ∃ r,
      r ∈ segment ℝ track.1.toPlane track.2.toPlane ∧ r ∈ segment ℝ line.1.toPlane line.2.toPlane

/-- **Crossings are reported**, when the calls of which `seen` holds are the ones that count. -/
def ReportsCrossings (sch : Schedule) (seen : Call → Bool) (constructed : ℤ) (c : Call)
    (past : List Call) (object : InferObject) : Prop :=
  (∃ r ∈ sch.resultAt constructed c past, r.trackId = object.trackId) ↔
    seen c = true ∧ sch.isWithinExcludeROI object = false ∧
      sch.getEnoughEventInterval (sch.lastEvent constructed past) c.moment.system = true ∧
      10 ≤ (midPointsSince sch seen object.trackId (c :: past)).length ∧
      MeetsLine sch (midPointsSince sch seen object.trackId (c :: past))

/-! ### Histories of objects and of mid-points -/

theorem consecutive_map {α β : Type} (f : α → β) (l : List α) :
    consecutive (l.map f) = (consecutive l).map (Prod.map f f) := by
  rw [consecutive, consecutive, ← List.map_tail, List.zip_map]

theorem map_lineUpdate (c : Call) (object : InferObject) (boxes : List InferObject) :
    (lineUpdate object boxes).map getMidPointFromInferObject =
      observeLine c object (boxes.map getMidPointFromInferObject) := by
  simp only [lineUpdate, observeLine, dataLayerHistMax, List.length_append, List.length_map,
    List.length_singleton]
  split_ifs
  · rfl
  · rw [List.map_append, List.map_singleton]

theorem trackId_of_mem_lineReport {sch : Schedule} {m : Moment} {last : ℤ} {object : InferObject}
    {boxes : List InferObject} {r : InferObject} (h : r ∈ lineReport sch m last object boxes) :
    r.trackId = object.trackId := by
  obtain hnil | ⟨direction, hone⟩ := lineReport_cases sch m last object boxes
  · rw [hnil] at h
    cases h
  · rw [hone, List.mem_singleton] at h
    rw [h]
    rfl

/-- The same, with the test of the code. -/
theorem meetsLine_iff {sch : Schedule} {midPoints : List Point} :
    MeetsLine sch midPoints ↔ ∃ roiPoints ∈ sch.cvTwoWayRois, ∃ line ∈ consecutive roiPoints,
      ∃ track ∈ consecutive midPoints,
        checkLineIntersect track.1 track.2 line.1 line.2 ≠ .notCrossed := by
  simp only [MeetsLine, checkLineIntersect_ne_iff]

/-- **A history meets a line for both directions** when the way between its mid-points does. -/
theorem calcLineCross_ne_iff_meetsLine {sch : Schedule} {boxes : List InferObject} :
    calcLineCross boxes sch.cvTwoWayRois ≠ .notCrossed ↔
      MeetsLine sch (boxes.map getMidPointFromInferObject) := by
  rw [calcLineCross_ne_iff, meetsLine_iff, consecutive_map]
  simp only [List.mem_map, exists_exists_and_eq_and, Prod.map]
  constructor
  · rintro ⟨o, ho, hne⟩
    obtain ⟨roiPoints, hroi, line, hline, track, htrack, rfl⟩ := mem_allCrosses.mp ho
    exact ⟨roiPoints, hroi, line, hline, track, htrack, hne⟩
  · rintro ⟨roiPoints, hroi, line, hline, track, htrack, hne⟩
    exact ⟨_, mem_allCrosses.mpr ⟨roiPoints, hroi, line, hline, track, htrack, rfl⟩, hne⟩

/-- What is reported when there are no lines for one direction. -/
theorem lineReport_ne_nil_iff_of_twoWay {sch : Schedule} {m : Moment} {last : ℤ}
    {object : InferObject} {boxes : List InferObject} (hone : sch.schInfo.oneWayRoi = []) :
    lineReport sch m last object boxes ≠ [] ↔
      sch.getEnoughEventInterval last m.system = true ∧ 10 ≤ boxes.length ∧
        MeetsLine sch (boxes.map getMidPointFromInferObject) := by
  have hnone : calcLineCross boxes sch.cvOneWayRois ≠ .clockwise := by
    rw [Schedule.cvOneWayRois, hone]
    nofun
  by_cases hinterval : sch.getEnoughEventInterval last m.system = true
  · by_cases hlength : 10 ≤ boxes.length
    · rw [lineReport_ne_nil_iff hlength hinterval, calcLineCross_ne_iff_meetsLine]
      simp [hinterval, hlength, hnone]
    · rw [lineReport, if_pos (by rw [requireMinTrackingCount]; omega)]
      simp [hlength]
  · simp only [Bool.not_eq_true] at hinterval
    rw [lineReport, if_pos hinterval, ite_self, hinterval]
    simp

/-! ### Runs -/

section Run

variable {sch : Schedule} {event : EventClass} {o : InferObject}

variable (hevent : sch.eventClass = some event)
  (hline : event = .lineIntrusion ∨ event = .vehicleIntrusion) (hclass : sch.isTarget o = true)

include hevent hline hclass

theorem check_line {c : Call} {s : ScheduleState sch} (hactive : sch.isActive c.moment = true) :
    sch.check c s =
      ((lineLoop sch sch.isTarget c.moment c.inLayer s c.inLayer).1, { s with
        objectHistory := (lineLoop sch sch.isTarget c.moment c.inLayer s c.inLayer).2
        lastActiveTime := activateTime
          (lineLoop sch sch.isTarget c.moment c.inLayer s c.inLayer).1 c.moment
          s.lastActiveTime }) := by
  rw [← lineIntrusionBase_eq hevent hclass, Schedule.check, if_pos hactive, hevent]
  obtain rfl | rfl := hline
  · rfl
  · rfl

/-- One active call, seen from a track. -/
theorem remembers_check_line {c : Call} {past : List Call} {s : ScheduleState sch}
    {t : InferTrackID} (hactive : sch.isActive c.moment = true)
    (htarget : ∀ object ∈ c.inLayer, sch.isTarget object = true)
    (hnodup : (c.inLayer.map InferObject.trackId).Nodup)
    (hpast : Remembers sch (fun c => sch.isActive c.moment) t [] observeLine
      (List.map getMidPointFromInferObject) past (s.objectHistory.historyMap t)) :
    Remembers sch (fun c => sch.isActive c.moment) t [] observeLine
        (List.map getMidPointFromInferObject) (c :: past)
        ((sch.check c s).2.objectHistory.historyMap t) ∧
      match observation sch t c with
      | none => (sch.check c s).1.filter (fun r => r.trackId = t) = []
      | some object => ∃ boxes : List InferObject, boxes.map getMidPointFromInferObject =
            midPointsSince sch (fun c => sch.isActive c.moment) t (c :: past) ∧
          (sch.check c s).1.filter (fun r => r.trackId = t) =
            lineReport sch c.moment s.lastActiveTime object boxes := by
  have hthreshold : sch.releaseThresholdMillisecs = 10 * 1000 := by
    rw [Schedule.releaseThresholdMillisecs, Schedule.abnormalReleaseSeconds, hevent]
    obtain rfl | rfl := hline <;> rfl
  have hid : ∀ results object boxes,
      ∀ r ∈ (fun _ : DataLayer => lineReport sch c.moment s.lastActiveTime) results object boxes,
        r.trackId = object.trackId := fun _ _ _ _ => trackId_of_mem_lineReport
  obtain ⟨results, entry, hloop, hnext, hresults⟩ :=
    remembers_loop hthreshold hactive
      (show ([] : List InferObject).map getMidPointFromInferObject = [] from rfl)
      (map_lineUpdate c) hid (fun _ _ _ => rfl) htarget hnodup hpast
  rw [ofTrack, Prod.mk.injEq] at hloop
  rw [check_line hevent hline hclass hactive, lineLoop]
  dsimp only
  rw [hloop.1, hloop.2]
  exact ⟨hnext, hresults⟩

/-- **The entries of `object_history` stand for what the calls have shown**, throughout a run. -/
theorem remembers_after_line (constructed : ℤ) {past : List Call} {t : InferTrackID}
    (hcalls : sch.OnlyTargets past) :
    Remembers sch (fun c => sch.isActive c.moment) t [] observeLine
      (List.map getMidPointFromInferObject) past
      ((sch.after constructed past).objectHistory.historyMap t) := by
  refine remembers_after (fun s => s.objectHistory.historyMap t) rfl ?_ hcalls
  intro c past s hactive htarget hnodup hpast
  exact (remembers_check_line hevent hline hclass hactive htarget hnodup hpast).1

/-- **The results for a track that is present**, throughout a run. -/
theorem filter_resultAt_line (constructed : ℤ) {c : Call} {past : List Call}
    (hcalls : sch.OnlyTargets (c :: past)) (hmem : o ∈ c.inLayer)
    (hactive : sch.isActive c.moment = true) :
    if sch.isWithinExcludeROI o = true then
      (sch.resultAt constructed c past).filter (fun r => r.trackId = o.trackId) = []
    else ∃ boxes : List InferObject, boxes.map getMidPointFromInferObject =
        midPointsSince sch (fun c => sch.isActive c.moment) o.trackId (c :: past) ∧
      (sch.resultAt constructed c past).filter (fun r => r.trackId = o.trackId) =
        lineReport sch c.moment (sch.lastEvent constructed past) o boxes := by
  obtain ⟨htarget, hnodup⟩ := hcalls c List.mem_cons_self
  have hpast := remembers_after_line (t := o.trackId) hevent hline hclass constructed
    fun c' hc' => hcalls c' (List.mem_cons_of_mem c hc')
  have hresults := (remembers_check_line hevent hline hclass hactive htarget hnodup hpast).2
  rw [observation_of_mem hmem hnodup, Schedule.lastActiveTime_after] at hresults
  split_ifs at hresults ⊢ with hexcl
  · exact hresults
  · exact hresults

end Run

/-- **When an intrusion over a line is reported**, over a whole run of a schedule without lines for
one direction in which only objects of its class appear: the calls that count are those at which the
schedule is active. The test on the interval means what it says as long as the milliseconds of the
interval fit an `int`. -/
theorem reportsCrossings (sch : Schedule) (event : EventClass) (constructed : ℤ) (c : Call)
    (past : List Call) (object : InferObject) (hevent : sch.eventClass = some event)
    (hline : event = .lineIntrusion ∨ event = .vehicleIntrusion)
    (hone : sch.schInfo.oneWayRoi = []) (hcalls : sch.OnlyTargets (c :: past))
    (hmem : object ∈ c.inLayer) :
    ReportsCrossings sch (fun c => sch.isActive c.moment) constructed c past object ∧
      (sch.schInfo.notificationMinIntervalSec * 1000 < 2 ^ 31 →
        (sch.getEnoughEventInterval (sch.lastEvent constructed past) c.moment.system = true ↔
          sch.schInfo.notificationMinIntervalSec * 1000 <
            elapsedMillisecs c.moment.system (sch.lastEvent constructed past))) := by
  refine ⟨?_, Schedule.getEnoughEventInterval_iff⟩
  have hclass := (hcalls c List.mem_cons_self).1 object hmem
  have hexists : (∃ r ∈ sch.resultAt constructed c past, r.trackId = object.trackId) ↔
      (sch.resultAt constructed c past).filter (fun r => r.trackId = object.trackId) ≠ [] := by
    simp [List.filter_eq_nil_iff]
  rw [ReportsCrossings, hexists]
  by_cases hactive : sch.isActive c.moment = true
  · have hresults := filter_resultAt_line hevent hline hclass constructed hcalls hmem hactive
    split_ifs at hresults with hexcl
    · simp [hresults, hexcl]
    · obtain ⟨boxes, hboxes, hresults⟩ := hresults
      rw [hresults, lineReport_ne_nil_iff_of_twoWay hone, hboxes, ← hboxes, List.length_map]
      simp only [Bool.not_eq_true] at hexcl
      simp [hactive, hexcl]
  · rw [Schedule.resultAt, Schedule.check_of_inactive _ hactive]
    simp [hactive]

/-- The settings for persons who cross the middle of the picture. -/
def twoWayInfo : AbnormalEventScheduleInfo := { plainInfo 202 with twoWayRoi := [middleLine] }

/-- A person walks in front of a schedule for persons. -/
theorem onlyTargets_walk {info : AbnormalEventScheduleInfo} {h : WellFormed info}
    (hcode : info.eventCode = 202) (xs : List ℤ) : (scheduleOf info h).OnlyTargets (walk xs) := by
  induction xs with
  | nil => exact nofun
  | cons x xs ih =>
    rw [Schedule.OnlyTargets, walk, List.forall_mem_cons]
    refine ⟨⟨?_, List.nodup_singleton _⟩, ih⟩
    intro object hmem
    rw [List.mem_singleton.mp hmem, Schedule.isTarget, Schedule.eventClass]
    dsimp only [scheduleOf]
    rw [hcode]
    rfl

theorem length_walk (xs : List ℤ) : (walk xs).length = xs.length := by
  induction xs with
  | nil => rfl
  | cons x xs ih => rw [walk, List.length_cons, List.length_cons, ih]

theorem atSeconds_walk (xs : List ℤ) : AtSeconds (walk xs) := by
  induction xs with
  | nil => trivial
  | cons x xs ih => exact ⟨⟨[objectAt 0 1 x 50], by rw [length_walk]⟩, ih⟩

/-- A person who crosses the line. -/
theorem reportsCrossings_twoWay :
    ReportsCrossings (scheduleOf twoWayInfo (by decide))
        (fun c => (scheduleOf twoWayInfo (by decide)).isActive c.moment) 0
        (callAt 9 [objectAt 0 1 75 50]) (walk (List.replicate 9 25)) (objectAt 0 1 75 50) ∧
      (scheduleOf twoWayInfo (by decide)).resultAt 0 (callAt 9 [objectAt 0 1 75 50])
        (walk (List.replicate 9 25)) = [withData (objectAt 0 1 75 50) 1] :=
  ⟨(reportsCrossings (scheduleOf twoWayInfo (by decide)) .lineIntrusion 0
    (callAt 9 [objectAt 0 1 75 50]) (walk (List.replicate 9 25)) (objectAt 0 1 75 50) (by decide)
    (.inl rfl) rfl (onlyTargets_walk rfl (75 :: List.replicate 9 25)) List.mem_cons_self).1,
    by decide +kernel⟩

/-- **A schedule that is never active** does not report the same person, so that not every call of a
run counts. -/
theorem not_reportsCrossings :
    ¬∀ (sch : Schedule) (event : EventClass) (constructed : ℤ) (c : Call) (past : List Call)
      (object : InferObject), sch.eventClass = some event →
      (event = .lineIntrusion ∨ event = .vehicleIntrusion) → sch.schInfo.oneWayRoi = [] →
      sch.OnlyTargets (c :: past) → ClocksForward (c :: past) → object ∈ c.inLayer →
      ReportsCrossings sch (fun _ => true) constructed c past object := by
  intro h
  have hoff := h (scheduleOf { twoWayInfo with weekly := List.replicate 7 0 } (by decide))
    .lineIntrusion 0 (callAt 9 [objectAt 0 1 75 50]) (walk (List.replicate 9 25))
    (objectAt 0 1 75 50) (by decide) (.inl rfl) rfl
    (onlyTargets_walk rfl (75 :: List.replicate 9 25))
    (atSeconds_walk (75 :: List.replicate 9 25)).clocksForward List.mem_cons_self
  exact absurd (hoff.mpr ⟨rfl, by decide +kernel, by decide +kernel, by decide +kernel,
    meetsLine_iff.mpr (by decide +kernel)⟩) (by decide +kernel)

end DetectBase.Abnormal
