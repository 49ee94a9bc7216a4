import DetectBase.Abnormal.Track

/-!
# Intrusions into an area

A person is reported for being in an area after having been seen outside of it. Over a whole run of
calls, `DetectBase.Abnormal.reportsEntries` says when: at the calls at which the schedule is active,
the interval between notifications has elapsed, and the person is inside and has been observed
outside since the track last expired. The result is one, whatever the number of areas, and carries
the whole seconds since the latest observation outside.

A call at which the schedule is not active neither reports nor observes. A statement that takes
every call for an observation is wrong already of a schedule that is never active
(`DetectBase.Abnormal.not_reportsEntries`).
-/

namespace DetectBase.Abnormal

/-- What an observation does to the time at which the track was last outside. -/
def observeZone (sch : Schedule) (c : Call) (object : InferObject) (since : Option ℤ) : Option ℤ :=
  if sch.isWithinROI object = false then some c.moment.system else since

/-- **When the track was last observed outside of all areas**, since it last expired. -/
def outsideSince (sch : Schedule) (seen : Call → Bool) (t : InferTrackID) : List Call → Option ℤ :=
  memory sch seen t none (observeZone sch)

/-- **Entries are reported**, once and with the time since the object was outside, when the calls
of which `seen` holds are the ones that count. -/
def ReportsEntries (sch : Schedule) (seen : Call → Bool) (constructed : ℤ) (c : Call)
    (past : List Call) (object : InferObject) : Prop :=
  let results := (sch.resultAt constructed c past).filter fun r => r.trackId = object.trackId
  (results.length = 1 ↔
    seen c = true ∧ sch.isWithinExcludeROI object = false ∧ sch.isWithinROI object = true ∧
      sch.getEnoughEventInterval (sch.lastEvent constructed past) c.moment.system = true ∧
      ∃ since, outsideSince sch seen object.trackId (c :: past) = some since) ∧
  results.length ≤ 1 ∧
  ∀ r ∈ results, ∃ since, outsideSince sch seen object.trackId (c :: past) = some since ∧
    r = withData object (elapsedSeconds c.moment.system since)

/-- What an entry of `roi_state_history` says about the track. -/
def RoiEventInfo.outsideTime (roiCheck : RoiEventInfo) : Option ℤ :=
  if roiCheck.continuous = true then some roiCheck.eventTime else none

theorem outsideTime_zoneUpdate (sch : Schedule) (c : Call) (object : InferObject)
    (roiCheck : RoiEventInfo) :
    (zoneUpdate sch c.moment object roiCheck).outsideTime =
      observeZone sch c object roiCheck.outsideTime := by
  rw [zoneUpdate, observeZone]
  split_ifs <;> rfl

theorem trackId_of_mem_zoneReport {sch : Schedule} {m : Moment} {last : ℤ} {results : DataLayer}
    {object : InferObject} {roiCheck : RoiEventInfo} {r : InferObject}
    (h : r ∈ zoneReport sch m last results object roiCheck) : r.trackId = object.trackId := by
  rw [zoneReport_eq] at h
  split at h
  · rw [List.mem_singleton.mp h]
    rfl
  · cases h

/-- Whether the track is among the results can be seen from the results for the track. -/
theorem zoneReport_filter (sch : Schedule) (m : Moment) (last : ℤ) (results : DataLayer)
    (object : InferObject) (roiCheck : RoiEventInfo) :
    zoneReport sch m last results object roiCheck =
      zoneReport sch m last (results.filter fun r => r.trackId = object.trackId) object
        roiCheck := by
  have hiff : (∀ r ∈ results, r.trackId ≠ object.trackId) ↔
      ∀ r ∈ results.filter fun r => r.trackId = object.trackId, r.trackId ≠ object.trackId := by
    simp [List.mem_filter]
  rw [zoneReport_eq, zoneReport_eq]
  simp only [hiff]

section Run

variable {sch : Schedule} {classEqualChecker : InferClassID → String → Bool}

variable (hevent : sch.eventClass = some .areaIntrusion)
  (hchecker : sch.classEqualChecker = some classEqualChecker)

include hevent hchecker

/-- One active call, seen from a track. -/
theorem remembers_check_zone {c : Call} {past : List Call} {s : ScheduleState sch}
    {t : InferTrackID} (hactive : sch.isActive c.moment = true)
    (htarget : ∀ object ∈ c.inLayer, sch.isTarget object = true)
    (hnodup : (c.inLayer.map InferObject.trackId).Nodup)
    (hpast : Remembers sch (fun c => sch.isActive c.moment) t none (observeZone sch)
      RoiEventInfo.outsideTime past (s.roiStateHistory.historyMap t)) :
    Remembers sch (fun c => sch.isActive c.moment) t none (observeZone sch)
        RoiEventInfo.outsideTime (c :: past)
        ((sch.check c s).2.roiStateHistory.historyMap t) ∧
      match observation sch t c with
      | none => (sch.check c s).1.filter (fun r => r.trackId = t) = []
      | some object => ∃ roiCheck : RoiEventInfo, roiCheck.outsideTime =
            outsideSince sch (fun c => sch.isActive c.moment) t (c :: past) ∧
          (sch.check c s).1.filter (fun r => r.trackId = t) =
            zoneReport sch c.moment s.lastActiveTime [] object roiCheck := by
  have hthreshold : sch.releaseThresholdMillisecs = 10 * 1000 := by
    rw [Schedule.releaseThresholdMillisecs, Schedule.abnormalReleaseSeconds, hevent]
  have hclass : sch.isTarget = fun object => classEqualChecker object.classId "Person" := by
    funext object
    rw [Schedule.isTarget, hchecker, hevent]
    rfl
  have hcheck : sch.check c s = intrusionZone sch c.moment c.inLayer s := by
    rw [Schedule.check, if_pos hactive, hevent]
  rw [hclass] at htarget
  obtain ⟨results, entry, hloop, hnext, hresults⟩ :=
    remembers_loop hthreshold hactive
      (show (RoiEventInfo.mk false c.moment.system).outsideTime = none from rfl)
      (outsideTime_zoneUpdate sch c) (fun _ _ _ _ => trackId_of_mem_zoneReport)
      (zoneReport_filter sch c.moment s.lastActiveTime) htarget hnodup hpast
  rw [ofTrack, Prod.mk.injEq] at hloop
  rw [hcheck, intrusionZone, hchecker]
  dsimp only
  rw [hloop.1, hloop.2]
  exact ⟨hnext, hresults⟩

/-- **The entries of `roi_state_history` stand for what the calls have shown**, throughout a run. -/
theorem remembers_after_zone (constructed : ℤ) {past : List Call} {t : InferTrackID}
    (hcalls : sch.OnlyTargets past) :
    Remembers sch (fun c => sch.isActive c.moment) t none (observeZone sch)
      RoiEventInfo.outsideTime past
      ((sch.after constructed past).roiStateHistory.historyMap t) := by
  refine remembers_after (fun s => s.roiStateHistory.historyMap t) rfl ?_ hcalls
  intro c past s hactive htarget hnodup hpast
  exact (remembers_check_zone hevent hchecker hactive htarget hnodup hpast).1

/-- **The results for a track that is present**, throughout a run. -/
theorem filter_resultAt_zone (constructed : ℤ) {c : Call} {past : List Call} {object : InferObject}
    (hcalls : sch.OnlyTargets (c :: past)) (hmem : object ∈ c.inLayer) :
    (sch.resultAt constructed c past).filter (fun r => r.trackId = object.trackId) =
      if sch.isActive c.moment = true ∧ sch.isWithinExcludeROI object = false ∧
          sch.isWithinROI object = true ∧
          sch.getEnoughEventInterval (sch.lastEvent constructed past) c.moment.system = true then
        (outsideSince sch (fun c => sch.isActive c.moment) object.trackId (c :: past)).toList.map
          fun since => withData object (elapsedSeconds c.moment.system since)
      else [] := by
  by_cases hactive : sch.isActive c.moment = true
  · obtain ⟨htarget, hnodup⟩ := hcalls c List.mem_cons_self
    have hpast := remembers_after_zone (t := object.trackId) hevent hchecker constructed
      fun c' hc' => hcalls c' (List.mem_cons_of_mem c hc')
    have hresults := (remembers_check_zone hevent hchecker hactive htarget hnodup hpast).2
    rw [observation_of_mem hmem hnodup] at hresults
    by_cases hexcl : sch.isWithinExcludeROI object = true
    · rw [if_pos hexcl] at hresults
      rw [if_neg (by rw [hexcl]; simp)]
      exact hresults
    · rw [if_neg hexcl] at hresults
      obtain ⟨roiCheck, houtside, hresults⟩ := hresults
      rw [Schedule.resultAt, hresults, Schedule.lastActiveTime_after, zoneReport_eq, ← houtside,
        RoiEventInfo.outsideTime]
      simp only [hactive, Bool.not_eq_true _ ▸ hexcl, true_and]
      cases roiCheck.continuous with
      | false => simp
      | true => simp [and_comm]
  · rw [Schedule.resultAt, Schedule.check_of_inactive _ hactive, if_neg fun h => hactive h.1]
    rfl

end Run

/-- **When an intrusion into an area is reported**, over a whole run of a schedule in which only
persons appear: the calls that count are those at which the schedule is active. The test on the
interval means what it says as long as the milliseconds of the interval fit an `int`. -/
theorem reportsEntries (sch : Schedule) (constructed : ℤ) (c : Call) (past : List Call)
    (object : InferObject) (hevent : sch.eventClass = some .areaIntrusion)
    (hcalls : sch.OnlyTargets (c :: past)) (hmem : object ∈ c.inLayer) :
    ReportsEntries sch (fun c => sch.isActive c.moment) constructed c past object ∧
      (sch.schInfo.notificationMinIntervalSec * 1000 < 2 ^ 31 →
        (sch.getEnoughEventInterval (sch.lastEvent constructed past) c.moment.system = true ↔
          sch.schInfo.notificationMinIntervalSec * 1000 <
            elapsedMillisecs c.moment.system (sch.lastEvent constructed past))) := by
  refine ⟨?_, Schedule.getEnoughEventInterval_iff⟩
  obtain ⟨classEqualChecker, hchecker⟩ :=
    Schedule.exists_classEqualChecker ((hcalls c List.mem_cons_self).1 object hmem)
  simp only [ReportsEntries, filter_resultAt_zone hevent hchecker constructed hcalls hmem]
  split
  · next hreport =>
    obtain ⟨hactive, hvisible, hinside, hinterval⟩ := hreport
    cases outsideSince sch (fun c => sch.isActive c.moment) object.trackId (c :: past) with
    | none => simp
    | some since => simp [hactive, hvisible, hinside, hinterval]
  · next hreport =>
    refine ⟨⟨fun h => absurd h (by decide), ?_⟩, by decide, fun r hr => absurd hr (by simp)⟩
    rintro ⟨hactive, hvisible, hinside, hinterval, -⟩
    exact absurd ⟨hactive, hvisible, hinside, hinterval⟩ hreport

/-- A person who comes in. -/
theorem reportsEntries_zoneSchedule :
    ReportsEntries zoneSchedule (fun c => zoneSchedule.isActive c.moment) 0
        (callAt 5 [objectAt 0 1 25 50]) [callAt 0 [objectAt 0 1 75 50]] (objectAt 0 1 25 50) ∧
      zoneSchedule.resultAt 0 (callAt 5 [objectAt 0 1 25 50]) [callAt 0 [objectAt 0 1 75 50]] =
        [withData (objectAt 0 1 25 50) 5] := by
  refine ⟨(reportsEntries zoneSchedule 0 _ _ _ (by decide) ?_ List.mem_cons_self).1,
    by decide +kernel⟩
  simp only [Schedule.OnlyTargets, List.forall_mem_cons, callAt, List.not_mem_nil, false_implies,
    implies_true, and_true]
  decide

/-- **A schedule that is never active** does not report the same person, so that not every call of a
run counts. -/
theorem not_reportsEntries :
    ¬∀ (sch : Schedule) (constructed : ℤ) (c : Call) (past : List Call) (object : InferObject),
      sch.eventClass = some .areaIntrusion → sch.OnlyTargets (c :: past) →
      ClocksForward (c :: past) → object ∈ c.inLayer →
      ReportsEntries sch (fun _ => true) constructed c past object := by
  intro h
  have hoff := h (scheduleOf { plainInfo 203 with weekly := List.replicate 7 0 } (by decide)) 0
    (callAt 5 [objectAt 0 1 25 50]) [callAt 0 [objectAt 0 1 75 50]] (objectAt 0 1 25 50)
    (by decide)
    (by simp only [Schedule.OnlyTargets, List.forall_mem_cons, callAt, List.not_mem_nil,
          false_implies, implies_true, and_true]
        decide)
    (by simp [ClocksForward, callAt]) List.mem_cons_self
  exact absurd (hoff.1.mpr ⟨rfl, by decide +kernel, by decide +kernel, by decide +kernel,
    0, by decide +kernel⟩) (by decide +kernel)

end DetectBase.Abnormal
