import DetectBase.Abnormal.Checker
import Mathlib.Data.List.Infix

/-!
# Parked vehicles

A vehicle is reported for having been in an area for some time, which is measured from the first
entry of its history. The history keeps that entry under two assumptions that the check does not
make good, and each leaves its mark.

* Nothing refreshes the time at which the history was created: after two minutes `GetHistory`
  starts anew, and when the history has more than six hundred entries all of them but the first are
  dropped, so that the vehicle has to be seen ten times again. As long as neither happens, a vehicle
  that stays is reported (`DetectBase.Abnormal.reports_parked`). A vehicle that is to be reported
  after more than two minutes is not (`DetectBase.Abnormal.not_reports_parked`).
* Being seen outside of the areas does not end the history. As long as no vehicle is seen outside
  while it has one, the vehicle has been inside whenever it was seen during the reported time
  (`DetectBase.Abnormal.parked_throughout`). A vehicle that leaves and comes back is reported as if
  it had stayed (`DetectBase.Abnormal.not_parked_throughout`).
-/

namespace DetectBase.Abnormal

variable {sch : Schedule}

/-! ### The history of a vehicle -/

/-- The objects of a layer that the loop looks at for a track. -/
def ofVehicle (sch : Schedule) (t : InferTrackID) (layer : DataLayer) : DataLayer :=
  layer.filter fun object => sch.isTarget object = true ∧
    sch.isWithinExcludeROI object = false ∧ object.trackId = t

/-- What the check writes to the history of a vehicle during a call. -/
def parkingUpdates (sch : Schedule) (m : Moment) (objects : DataLayer)
    (history : LoiteringEventInfo) : LoiteringEventInfo :=
  objects.foldl (fun history object => parkingUpdate sch m object history) history

/-- As long as there is room, the objects inside are added. -/
theorem inferObjects_parkingUpdates (m : Moment) (objects : DataLayer) :
    ∀ history : LoiteringEventInfo, history.inferObjects.length + objects.length ≤ 600 →
      (parkingUpdates sch m objects history).inferObjects =
        history.inferObjects ++ (objects.filter sch.isWithinROI).map fun o => (o, m.system) := by
  induction objects with
  | nil =>
    intro history _
    rw [List.filter_nil, List.map_nil, List.append_nil]
    rfl
  | cons object objects ih =>
    intro history hroom
    rw [List.length_cons] at hroom
    have hstep : parkingUpdate sch m object history =
        if sch.isWithinROI object = true then ⟨history.inferObjects ++ [(object, m.system)]⟩
        else history := by
      have hshort : ¬(history.inferObjects ++ [(object, m.system)]).length > dataLayerHistMax := by
        rw [List.length_append, List.length_singleton, dataLayerHistMax]
        omega
      rw [parkingUpdate]
      dsimp only
      rw [if_neg hshort]
    rw [parkingUpdates, List.foldl_cons, ← parkingUpdates, hstep]
    by_cases hin : sch.isWithinROI object = true
    · rw [if_pos hin, ih _ (by simp only [List.length_append, List.length_singleton]; omega),
        List.filter_cons_of_pos hin, List.map_cons, List.append_assoc, List.singleton_append]
    · rw [if_neg hin, ih _ (by omega), List.filter_cons_of_neg hin]

/-- The first entry of a history stays where it is. -/
theorem first_parkingUpdates (m : Moment) {first : InferObject × ℤ} (objects : DataLayer) :
    ∀ history : LoiteringEventInfo, (∃ rest, history.inferObjects = first :: rest) →
      ∃ rest, (parkingUpdates sch m objects history).inferObjects = first :: rest := by
  induction objects with
  | nil => exact fun _ h => h
  | cons object objects ih =>
    rintro history ⟨rest, hrest⟩
    refine ih _ ?_
    change ∃ rest, (parkingUpdate sch m object history).inferObjects = first :: rest
    rw [parkingUpdate]
    dsimp only
    rw [hrest]
    split_ifs
    · exact ⟨[], rfl⟩
    · exact ⟨rest ++ [(object, m.system)], rfl⟩
    · exact ⟨rest, hrest⟩

/-- A history that was empty starts with the call. -/
theorem first_parkingUpdates_of_nil (m : Moment) {first : InferObject × ℤ}
    {rest : List (InferObject × ℤ)} (objects : DataLayer) :
    ∀ history : LoiteringEventInfo, history.inferObjects = [] →
      (parkingUpdates sch m objects history).inferObjects = first :: rest →
      first.2 = m.system := by
  induction objects with
  | nil =>
    intro history hnil hfirst
    rw [show (parkingUpdates sch m [] history).inferObjects = history.inferObjects from rfl,
      hnil] at hfirst
    cases hfirst
  | cons object objects ih =>
    intro history hnil hfirst
    by_cases hin : sch.isWithinROI object = true
    · have hone : parkingUpdate sch m object history = ⟨[(object, m.system)]⟩ := by
        rw [parkingUpdate, if_pos hin, hnil]
        rfl
      rw [parkingUpdates, List.foldl_cons, hone, ← parkingUpdates] at hfirst
      obtain ⟨rest', hrest'⟩ : ∃ rest', (parkingUpdates sch m objects
          ⟨[(object, m.system)]⟩).inferObjects = (object, m.system) :: rest' :=
        first_parkingUpdates m objects _ ⟨[], rfl⟩
      rw [hrest', List.cons.injEq] at hfirst
      rw [← hfirst.1]
    · rw [parkingUpdates, List.foldl_cons, parkingUpdate, if_neg hin, ← parkingUpdates] at hfirst
      exact ih history hnil hfirst

/-! ### One call -/

section Call

variable {c : Call} {s : ScheduleState sch}

variable (hevent : sch.eventClass = some .vehicleParking)

include hevent

theorem releaseThresholdMillisecs_parking : sch.releaseThresholdMillisecs = 120 * 1000 := by
  rw [Schedule.releaseThresholdMillisecs, Schedule.abnormalReleaseSeconds, hevent]

theorem check_parking (hactive : sch.isActive c.moment = true) :
    sch.check c s =
      ((parkingLoop sch sch.isTarget c.moment s c.inLayer).1, { s with
        movingStateHistory := (parkingLoop sch sch.isTarget c.moment s c.inLayer).2
        lastActiveTime := activateTime (parkingLoop sch sch.isTarget c.moment s c.inLayer).1
          c.moment s.lastActiveTime }) := by
  rw [Schedule.check, if_pos hactive, hevent]
  dsimp only
  rw [vehicleParking]
  cases hchecker : sch.classEqualChecker with
  | none =>
    -- nothing is of a class when there is no one to ask
    have hnone : sch.isTarget = fun _ => false := by
      funext object
      rw [Schedule.isTarget, hchecker]
    have hloop : parkingLoop sch sch.isTarget c.moment s c.inLayer =
        ([], s.movingStateHistory) := by
      rw [parkingLoop, ← foldl_visit_filter, hnone, List.filter_false]
      rfl
    rw [hloop]
    rfl
  | some classEqualChecker =>
    have hclass : sch.isTarget = fun object => classEqualChecker object.classId "Car" := by
      funext object
      rw [Schedule.isTarget, hchecker, hevent]
      rfl
    rw [hclass]

/-- **What a call does to the history of a vehicle.** -/
theorem getHistory_check_parking (hactive : sch.isActive c.moment = true) (t : InferTrackID) :
    (sch.check c s).2.movingStateHistory.getHistory ⟨[]⟩ c.moment.steady t =
      (parkingUpdates sch c.moment (ofVehicle sch t c.inLayer)
          (s.movingStateHistory.getHistory ⟨[]⟩ c.moment.steady t).1,
        (s.movingStateHistory.getHistory ⟨[]⟩ c.moment.steady t).2) := by
  rw [check_parking hevent hactive]
  exact getHistory_foldl_visit (by rw [releaseThresholdMillisecs_parking hevent]; decide) c.inLayer
    t _

end Call

/-! ### Vehicles that are reported -/

/-- A vehicle of the track is seen outside of all areas, not excluded. -/
def IsOutside (sch : Schedule) (t : InferTrackID) (c : Call) : Prop :=
  ∃ object ∈ c.inLayer, sch.isTarget object = true ∧ sch.isWithinExcludeROI object = false ∧
    object.trackId = t ∧ sch.isWithinROI object = false

/-- **No vehicle is seen outside while it has a history**: there is none that `GetHistory` would
find at that moment, or it is empty. -/
def Schedule.NoHistoryOutside (sch : Schedule) (s : ScheduleState sch) (c : Call) : Prop :=
  ∀ t, IsOutside sch t c →
    (s.movingStateHistory.getHistory ⟨[]⟩ c.moment.steady t).1.inferObjects = []

/-- **The time that is reported starts inside**: whatever history a later call finds starts at a
call of the run, and no vehicle of the track has been seen outside since. -/
def Schedule.StartsInside (sch : Schedule) (s : ScheduleState sch) (past : List Call) : Prop :=
  ∀ t now, (∀ c ∈ past, c.moment.steady ≤ now) → ∀ first rest,
    (s.movingStateHistory.getHistory ⟨[]⟩ now t).1.inferObjects = first :: rest →
      (∃ c ∈ past, first.2 = c.moment.system) ∧
        ∀ c ∈ past, IsOutside sch t c → c.moment.system ≤ first.2

/-- The clocks of the calls in the past of a call. -/
theorem ClocksForward.le {c c' : Call} {past : List Call} (h : ClocksForward (c :: past))
    (hc' : c' ∈ past) :
    c'.moment.system ≤ c.moment.system ∧ c'.moment.steady ≤ c.moment.steady :=
  List.rel_of_pairwise_cons h hc'

/-- The first entry of a history during a call, when the histories before the call start inside. -/
theorem first_le_of_startsInside {c : Call} {past : List Call} {s : ScheduleState sch}
    {t : InferTrackID} {objects : DataLayer} {first : InferObject × ℤ}
    {rest : List (InferObject × ℤ)} (hclocks : ClocksForward (c :: past))
    (hinside : sch.StartsInside s past)
    (hfirst : (parkingUpdates sch c.moment objects
      (s.movingStateHistory.getHistory ⟨[]⟩ c.moment.steady t).1).inferObjects = first :: rest) :
    (∃ c' ∈ c :: past, first.2 = c'.moment.system) ∧
      ∀ c' ∈ past, IsOutside sch t c' → c'.moment.system ≤ first.2 := by
  cases hold : (s.movingStateHistory.getHistory ⟨[]⟩ c.moment.steady t).1.inferObjects with
  | nil =>
    have htime := first_parkingUpdates_of_nil c.moment objects _ hold hfirst
    refine ⟨⟨c, List.mem_cons_self, htime⟩, fun c' hc' _ => ?_⟩
    rw [htime]
    exact (hclocks.le hc').1
  | cons first' rest' =>
    obtain ⟨rest'', hsame⟩ := first_parkingUpdates c.moment objects _ ⟨rest', hold⟩
    rw [hsame, List.cons.injEq] at hfirst
    rw [← hfirst.1]
    obtain ⟨⟨c', hc', htime⟩, houtside⟩ :=
      hinside t c.moment.steady (fun c' hc' => (hclocks.le hc').2) first' rest' hold
    exact ⟨⟨c', List.mem_cons_of_mem c hc', htime⟩, houtside⟩

/-- **Histories start inside**, throughout a run in which no vehicle is seen outside while it has
one. -/
theorem startsInside_after (hevent : sch.eventClass = some .vehicleParking) (constructed : ℤ)
    {past : List Call} (hclocks : ClocksForward past)
    (h : ∀ c past', c :: past' <:+ past → sch.NoHistoryOutside (sch.after constructed past') c) :
    sch.StartsInside (sch.after constructed past) past := by
  induction past with
  | nil => exact fun t now _ first rest hfirst => nomatch hfirst
  | cons c past ih =>
    have hinside := ih (List.Pairwise.of_cons hclocks)
      fun c' past' hsuffix => h c' past' (hsuffix.trans (List.suffix_cons c past))
    have hc := h c past (List.suffix_refl _)
    intro t now hnow first rest hfirst
    -- what a later call finds, this call has found or left
    obtain hsame | hblank := HistoryChecker.getHistory_of_le
      (h := (sch.after constructed (c :: past)).movingStateHistory)
      (hnow c List.mem_cons_self) t
    · rw [hsame, Schedule.after] at hfirst
      by_cases hactive : sch.isActive c.moment = true
      · rw [getHistory_check_parking hevent hactive] at hfirst
        obtain ⟨hstart, hpast⟩ := first_le_of_startsInside hclocks hinside hfirst
        refine ⟨hstart, fun c' hc' houtside => ?_⟩
        obtain rfl | hc' := List.mem_cons.mp hc'
        · exact (first_parkingUpdates_of_nil _ _ _ (hc t houtside) hfirst).ge
        · exact hpast c' hc' houtside
      · rw [Schedule.check_of_inactive _ hactive] at hfirst
        obtain ⟨⟨c', hc', htime⟩, hpast⟩ :=
          hinside t c.moment.steady (fun c' hc' => (hclocks.le hc').2) first rest hfirst
        refine ⟨⟨c', List.mem_cons_of_mem c hc', htime⟩, fun c' hc' houtside => ?_⟩
        obtain rfl | hc' := List.mem_cons.mp hc'
        · rw [hc t houtside] at hfirst
          cases hfirst
        · exact hpast c' hc' houtside
    · rw [hblank] at hfirst
      cases hfirst

/-- What `VehicleParking` reports, and why. -/
theorem exists_of_mem_parkingReport {m : Moment} {last : ℤ} {object r : InferObject}
    {history : LoiteringEventInfo} (hr : r ∈ parkingReport sch m last object history) :
    ∃ first rest, history.inferObjects = first :: rest ∧
      0 < sch.getDurationIfSatisfyEventRequireSeconds first.2 m.system ∧
      r = withData object (sch.getDurationIfSatisfyEventRequireSeconds first.2 m.system) := by
  rw [parkingReport] at hr
  split at hr
  · cases hr
  · split at hr
    · cases hr
    · split at hr
      · cases hr
      · next o firstTrackedTime rest heq =>
        dsimp only at hr
        split at hr
        · next hduration =>
          exact ⟨(o, firstTrackedTime), rest, heq, hduration.1, List.mem_singleton.mp hr⟩
        · cases hr

/-- What a call of the check for parking reports. -/
theorem exists_of_mem_check_parking (hevent : sch.eventClass = some .vehicleParking) {c : Call}
    {s : ScheduleState sch} {r : InferObject} (hr : r ∈ (sch.check c s).1) :
    ∃ object ∈ c.inLayer, sch.isTarget object = true ∧ ∃ objects first rest,
      (parkingUpdates sch c.moment objects (s.movingStateHistory.getHistory ⟨[]⟩ c.moment.steady
        object.trackId).1).inferObjects = first :: rest ∧
      0 < sch.getDurationIfSatisfyEventRequireSeconds first.2 c.moment.system ∧
      r = withData object
        (sch.getDurationIfSatisfyEventRequireSeconds first.2 c.moment.system) := by
  by_cases hactive : sch.isActive c.moment = true
  · rw [check_parking hevent hactive] at hr
    obtain hr | ⟨pre, object, post, hlayer, htarget, -, hr⟩ :=
      exists_of_mem_foldl_visit c.inLayer _ hr
    · cases hr
    · have hthreshold : 0 ≤ sch.releaseThresholdMillisecs := by
        rw [releaseThresholdMillisecs_parking hevent]
        decide
      rw [getHistory_foldl_visit hthreshold] at hr
      obtain ⟨first, rest, hfirst, hduration, hr⟩ := exists_of_mem_parkingReport hr
      refine ⟨object, by rw [hlayer]; simp, htarget,
        ofVehicle sch object.trackId pre ++ [object], first, rest, ?_, hduration, hr⟩
      rw [parkingUpdates, List.foldl_append]
      exact hfirst
  · rw [Schedule.check_of_inactive _ hactive] at hr
    cases hr

/-- **The vehicle has been inside throughout the time that is reported**, whenever it was seen. -/
def ParkedThroughout (sch : Schedule) (constructed : ℤ) (c : Call) (past : List Call) : Prop :=
  ∀ r ∈ sch.resultAt constructed c past, ∃ object ∈ c.inLayer, sch.isTarget object = true ∧
    ∃ duration, 0 < duration ∧ r = withData object duration ∧
      ∀ c' ∈ past, c.moment.system - duration * 10 ^ 9 < c'.moment.system →
        ¬IsOutside sch object.trackId c'

/-- **A parking event is not false**, in a run in which no vehicle is seen outside while it has a
history. -/
theorem parked_throughout (sch : Schedule) (constructed : ℤ) (c : Call) (past : List Call)
    (hevent : sch.eventClass = some .vehicleParking) (hclocks : ClocksForward (c :: past))
    (h : ∀ c' past', c' :: past' <:+ past →
      sch.NoHistoryOutside (sch.after constructed past') c') :
    ParkedThroughout sch constructed c past := by
  have hinside := startsInside_after hevent constructed (List.Pairwise.of_cons hclocks) h
  intro r hr
  obtain ⟨object, hmem, htarget, objects, first, rest, hfirst, hpos, rfl⟩ :=
    exists_of_mem_check_parking hevent hr
  obtain ⟨⟨c₀, hc₀, htime⟩, hpast⟩ := first_le_of_startsInside hclocks hinside hfirst
  have hle : first.2 ≤ c.moment.system := by
    rw [htime]
    obtain rfl | hc₀ := List.mem_cons.mp hc₀
    · exact le_refl _
    · exact (hclocks.le hc₀).1
  refine ⟨object, hmem, htarget, _, hpos, rfl, fun c' hc' hrecent houtside => ?_⟩
  have hbefore := hpast c' hc' houtside
  have hduration : sch.getDurationIfSatisfyEventRequireSeconds first.2 c.moment.system * 10 ^ 9 ≤
      c.moment.system - first.2 := Schedule.getDuration_le hle
  omega

/-- The schedule for vehicles that stay in the left half of the picture for more than the given
number of seconds. -/
def parkingSchedule (seconds : ℤ) : Schedule :=
  scheduleOf { plainInfo 210 with loiteringRequireDurSec := seconds }
    ⟨by simp [plainInfo], by simp [plainInfo], by simp [plainInfo]⟩

/-- A vehicle that is seen outside, and then inside each second. -/
def arrive : ℕ → List Call
  | 0 => [callAt 0 [objectAt 2 1 75 50]]
  | n + 1 => callAt (n + 1) [objectAt 2 1 25 50] :: arrive n

theorem length_arrive (n : ℕ) : (arrive n).length = n + 1 := by
  induction n with
  | zero => rfl
  | succ n ih => rw [arrive, List.length_cons, ih]

theorem atSeconds_arrive (n : ℕ) : AtSeconds (arrive n) := by
  induction n with
  | zero => exact ⟨⟨[objectAt 2 1 75 50], rfl⟩, trivial⟩
  | succ n ih => exact ⟨⟨[objectAt 2 1 25 50], by rw [length_arrive]; rfl⟩, ih⟩

theorem not_isOutside_inside (n : ℤ) (t : InferTrackID) :
    ¬IsOutside (parkingSchedule 1) t (callAt n [objectAt 2 1 25 50]) := by
  rintro ⟨object, hmem, -, -, -, hout⟩
  rw [List.mem_singleton.mp hmem] at hout
  exact absurd hout (by decide +kernel)

theorem noHistoryOutside_arrive {c : Call} {past : List Call} (n : ℕ)
    (h : c :: past <:+ arrive n) :
    (parkingSchedule 1).NoHistoryOutside ((parkingSchedule 1).after 0 past) c := by
  induction n with
  | zero =>
    intro t _
    have hpast : past = [] := by
      have hlength := h.length_le
      simpa [arrive] using hlength
    rw [hpast]
    rfl
  | succ n ih =>
    obtain heq | h := List.suffix_cons_iff.mp h
    · rw [List.cons.injEq] at heq
      rw [heq.1]
      exact fun t houtside => absurd houtside (not_isOutside_inside _ t)
    · exact ih h

/-- A vehicle that comes and stays. -/
theorem parked_throughout_arrive :
    ParkedThroughout (parkingSchedule 1) 0 (callAt 10 [objectAt 2 1 25 50]) (arrive 9) ∧
      (parkingSchedule 1).resultAt 0 (callAt 10 [objectAt 2 1 25 50]) (arrive 9) =
        [withData (objectAt 2 1 25 50) 9] :=
  ⟨parked_throughout (parkingSchedule 1) 0 (callAt 10 [objectAt 2 1 25 50]) (arrive 9) (by decide)
    (atSeconds_arrive 10).clocksForward fun _ _ => noHistoryOutside_arrive 9,
    by decide +kernel⟩

/-- A vehicle that is seen inside each second. -/
def stay : ℕ → List Call
  | 0 => []
  | n + 1 => callAt n [objectAt 2 1 25 50] :: stay n

theorem length_stay (n : ℕ) : (stay n).length = n := by
  induction n with
  | zero => rfl
  | succ n ih => rw [stay, List.length_cons, ih]

theorem atSeconds_stay (n : ℕ) : AtSeconds (stay n) := by
  induction n with
  | zero => trivial
  | succ n ih => exact ⟨⟨[objectAt 2 1 25 50], by rw [length_stay]⟩, ih⟩

/-- **A vehicle that has been away** for one of the last eleven seconds is reported to have been
there for all of them. -/
theorem not_parked_throughout :
    ¬∀ (sch : Schedule) (constructed : ℤ) (c : Call) (past : List Call),
      sch.eventClass = some .vehicleParking → ClocksForward (c :: past) →
      ParkedThroughout sch constructed c past := by
  intro h
  have hseconds : AtSeconds (callAt 11 [objectAt 2 1 25 50] :: callAt 10 [objectAt 2 1 75 50] ::
      stay 10) := ⟨⟨_, rfl⟩, ⟨_, rfl⟩, atSeconds_stay 10⟩
  have hthroughout := h (parkingSchedule 1) 0 (callAt 11 [objectAt 2 1 25 50])
    (callAt 10 [objectAt 2 1 75 50] :: stay 10) (by decide) hseconds.clocksForward
  obtain ⟨object, hmem, -, duration, hpos, hduration, hinside⟩ :=
    hthroughout (withData (objectAt 2 1 25 50) 11) (by decide +kernel)
  obtain rfl := List.mem_singleton.mp hmem
  -- the number in the result is a duration of more than a second
  have hlong : duration ≠ 1 := by
    rintro rfl
    exact absurd hduration (by decide +kernel)
  refine hinside _ List.mem_cons_self ?_
    ⟨objectAt 2 1 75 50, List.mem_cons_self, by decide, by decide +kernel, rfl, by decide +kernel⟩
  simp only [callAt]
  omega

/-! ### Vehicles that stay -/

/-- A vehicle of the track is inside of an area, not excluded, and the schedule is active. -/
def IsParked (sch : Schedule) (t : InferTrackID) (c : Call) : Prop :=
  sch.isActive c.moment = true ∧ ∃ object ∈ c.inLayer, sch.isTarget object = true ∧
    sch.isWithinExcludeROI object = false ∧ object.trackId = t ∧ sch.isWithinROI object = true

/-- **The history of the track is kept**: it is not older than two minutes, and there is room in it
for what the call adds. -/
structure Schedule.KeepsHistory (sch : Schedule) (t : InferTrackID) (s : ScheduleState sch)
    (c : Call) : Prop where
  /-- `GetHistory` does not start anew. -/
  young : ∀ entry, s.movingStateHistory.historyMap t = some entry →
    elapsedMillisecs c.moment.steady entry.2 ≤ 120 * 1000
  /-- The history does not become too long. -/
  room : (s.movingStateHistory.getHistory ⟨[]⟩ c.moment.steady t).1.inferObjects.length +
    (ofVehicle sch t c.inLayer).length ≤ 600

/-- The history goes back to the first call of the run, and has an entry for every call at least. -/
def TrackedSince (first : Call) (calls : ℕ) (history : LoiteringEventInfo) : Prop :=
  calls ≤ history.inferObjects.length ∧
    ∃ object rest, history.inferObjects = (object, first.moment.system) :: rest

/-- The objects that the loop has looked at for a track when it comes to one more. -/
theorem length_ofVehicle_le {pre post layer : DataLayer} {object : InferObject}
    (hlayer : layer = pre ++ object :: post) (htarget : sch.isTarget object = true)
    (hvisible : sch.isWithinExcludeROI object = false) :
    (ofVehicle sch object.trackId pre ++ [object]).length ≤
      (ofVehicle sch object.trackId layer).length := by
  rw [hlayer, ofVehicle, ofVehicle, List.filter_append,
    List.filter_cons_of_pos (by simp [htarget, hvisible])]
  simp

/-- A vehicle that is parked is among those that the loop looks at. -/
theorem IsParked.exists_mem {t : InferTrackID} {c : Call} (h : IsParked sch t c) :
    ∃ object, object ∈ (ofVehicle sch t c.inLayer).filter sch.isWithinROI := by
  obtain ⟨-, object, hmem, htarget, hvisible, ht, hin⟩ := h
  refine ⟨object, List.mem_filter.mpr ⟨List.mem_filter.mpr ⟨hmem, ?_⟩, hin⟩⟩
  rw [decide_eq_true_eq]
  exact ⟨htarget, hvisible, ht⟩

/-- What objects inside add to a history that is kept. -/
theorem TrackedSince.parkingUpdates {first : Call} {calls : ℕ} {history : LoiteringEventInfo}
    (h : TrackedSince first calls history) (m : Moment) {objects : DataLayer}
    (hroom : history.inferObjects.length + objects.length ≤ 600)
    (hinside : ∃ object, object ∈ objects.filter sch.isWithinROI) :
    TrackedSince first (calls + 1) (Abnormal.parkingUpdates sch m objects history) := by
  obtain ⟨hlength, object, rest, hfirst⟩ := h
  obtain ⟨inside, hmem⟩ := hinside
  have hpos : 0 < (objects.filter sch.isWithinROI).length := List.length_pos_of_mem hmem
  constructor
  · rw [inferObjects_parkingUpdates m objects history hroom, List.length_append, List.length_map]
    omega
  · obtain ⟨rest', hrest'⟩ := first_parkingUpdates m objects history ⟨rest, hfirst⟩
    exact ⟨object, rest', hrest'⟩

/-- The first call starts the history. -/
theorem trackedSince_of_nil {first : Call} {history : LoiteringEventInfo}
    (hnil : history.inferObjects = []) {objects : DataLayer} (hroom : objects.length ≤ 600)
    (hinside : ∃ object, object ∈ objects.filter sch.isWithinROI) :
    TrackedSince first 1 (Abnormal.parkingUpdates sch first.moment objects history) := by
  obtain ⟨inside, hmem⟩ := hinside
  have hlist : (Abnormal.parkingUpdates sch first.moment objects history).inferObjects =
      (objects.filter sch.isWithinROI).map fun o => (o, first.moment.system) := by
    rw [inferObjects_parkingUpdates first.moment objects history (by rw [hnil]; simpa using hroom),
      hnil, List.nil_append]
  cases hfilter : objects.filter sch.isWithinROI with
  | nil =>
    rw [hfilter] at hmem
    cases hmem
  | cons object rest =>
    rw [hfilter, List.map_cons] at hlist
    rw [TrackedSince, hlist]
    exact ⟨by simp, _, _, rfl⟩

section Stay

variable (hevent : sch.eventClass = some .vehicleParking)

include hevent

/-- The entry that a call leaves for a vehicle that is parked. -/
theorem historyMap_check_parking {c : Call} {s : ScheduleState sch} {t : InferTrackID}
    (h : IsParked sch t c) :
    (sch.check c s).2.movingStateHistory.historyMap t =
      some (parkingUpdates sch c.moment (ofVehicle sch t c.inLayer)
          (s.movingStateHistory.getHistory ⟨[]⟩ c.moment.steady t).1,
        (s.movingStateHistory.getHistory ⟨[]⟩ c.moment.steady t).2) := by
  obtain ⟨hactive, object, hmem, htarget, hvisible, ht, -⟩ := h
  rw [← getHistory_check_parking hevent hactive, check_parking hevent hactive]
  refine historyMap_foldl_visit ?_ c.inLayer _ (.inr ⟨object, hmem, htarget, hvisible, ht⟩)
  rw [releaseThresholdMillisecs_parking hevent]
  decide

/-- A history that is kept is what the call finds. -/
theorem getHistory_of_keepsHistory {c : Call} {s : ScheduleState sch} {t : InferTrackID}
    {entry : LoiteringEventInfo × ℤ} (h : sch.KeepsHistory t s c)
    (hentry : s.movingStateHistory.historyMap t = some entry) :
    s.movingStateHistory.getHistory ⟨[]⟩ c.moment.steady t = entry := by
  refine HistoryChecker.getHistory_of_elapsed_le hentry ?_
  rw [releaseThresholdMillisecs_parking hevent]
  exact h.young entry hentry

/-- What the loop reports of a vehicle is among the results of the call. -/
theorem mem_check_parking {c : Call} {s : ScheduleState sch} {pre post : DataLayer}
    {object r : InferObject} (hactive : sch.isActive c.moment = true)
    (hlayer : c.inLayer = pre ++ object :: post) (htarget : sch.isTarget object = true)
    (hvisible : sch.isWithinExcludeROI object = false)
    (hr : r ∈ parkingReport sch c.moment s.lastActiveTime object
      (parkingUpdates sch c.moment (ofVehicle sch object.trackId pre ++ [object])
        (s.movingStateHistory.getHistory ⟨[]⟩ c.moment.steady object.trackId).1)) :
    r ∈ (sch.check c s).1 := by
  rw [check_parking hevent hactive, parkingLoop, hlayer]
  refine mem_foldl_visit htarget hvisible ?_
  rw [getHistory_foldl_visit (by rw [releaseThresholdMillisecs_parking hevent]; decide)]
  rw [parkingUpdates, List.foldl_append] at hr
  exact hr

/-- **The history of a vehicle that stays** goes back to the first call, throughout a run in which
it is kept. -/
theorem trackedSince_after (constructed : ℤ) {t : InferTrackID} {first : Call} {past : List Call}
    (hparked : ∀ c ∈ past ++ [first], IsParked sch t c)
    (hkeeps : ∀ c past', c :: past' <:+ past ++ [first] →
      sch.KeepsHistory t (sch.after constructed past') c) :
    ∃ entry, (sch.after constructed (past ++ [first])).movingStateHistory.historyMap t =
      some entry ∧ TrackedSince first (past.length + 1) entry.1 := by
  induction past with
  | nil =>
    have hfirst := hparked first (by simp)
    have hroom := (hkeeps first [] (List.suffix_refl _)).room
    refine ⟨_, historyMap_check_parking hevent hfirst, ?_⟩
    exact trackedSince_of_nil rfl (by omega) hfirst.exists_mem
  | cons c past ih =>
    have hc := hparked c (by simp)
    have hkept := hkeeps c (past ++ [first]) (List.suffix_refl _)
    obtain ⟨entry, hentry, htracked⟩ := ih (fun c' hc' => hparked c' (List.mem_cons_of_mem c hc'))
      fun c' past' hsuffix => hkeeps c' past' (hsuffix.trans (List.suffix_cons c _))
    have hget := getHistory_of_keepsHistory hevent hkept hentry
    have hroom := hkept.room
    rw [hget] at hroom
    have hnext := historyMap_check_parking (s := sch.after constructed (past ++ [first])) hevent hc
    rw [hget] at hnext
    exact ⟨_, hnext, htracked.parkingUpdates c.moment hroom hc.exists_mem⟩

end Stay

theorem parkingReport_eq {m : Moment} {last : ℤ} {object : InferObject}
    {history : LoiteringEventInfo} {first : InferObject × ℤ} {rest : List (InferObject × ℤ)}
    (hinside : sch.isWithinROI object = true) (hlength : 10 ≤ history.inferObjects.length)
    (hfirst : history.inferObjects = first :: rest)
    (hduration : 0 < sch.getDurationIfSatisfyEventRequireSeconds first.2 m.system)
    (hinterval : sch.getEnoughEventInterval last m.system = true) :
    parkingReport sch m last object history =
      [withData object (sch.getDurationIfSatisfyEventRequireSeconds first.2 m.system)] := by
  rw [parkingReport, if_neg (by rw [hinside]; decide),
    if_neg (by rw [requireMinTrackingCount]; omega), hfirst]
  exact if_pos ⟨hduration, hinterval⟩

/-- **A parked vehicle is reported**, in a run in which its history is kept: at every call at which
it has been there for more than the required time and ten calls, and more than the interval has
passed since the last event. -/
theorem reports_parked (sch : Schedule) (constructed : ℤ) (t : InferTrackID) (c first : Call)
    (past : List Call) (hevent : sch.eventClass = some .vehicleParking)
    (hrequire : 1 ≤ sch.schInfo.loiteringRequireDurSec)
    (hfits : sch.schInfo.loiteringRequireDurSec * 1000 < 2 ^ 31)
    (hparked : ∀ c' ∈ c :: (past ++ [first]), IsParked sch t c')
    (hcalls : 10 ≤ (c :: (past ++ [first])).length)
    (hlong : sch.schInfo.loiteringRequireDurSec * 1000 <
      elapsedMillisecs c.moment.system first.moment.system)
    (hinterval : sch.schInfo.notificationMinIntervalSec * 1000 <
      elapsedMillisecs c.moment.system (sch.lastEvent constructed (past ++ [first])))
    (hshort : elapsedMillisecs c.moment.system first.moment.system < 2 ^ 31 * 1000)
    (hkeeps : ∀ c' past', c' :: past' <:+ c :: (past ++ [first]) →
      sch.KeepsHistory t (sch.after constructed past') c') :
    ∃ object ∈ c.inLayer, sch.isTarget object = true ∧ object.trackId = t ∧
      ∃ duration, withData object duration ∈ sch.resultAt constructed c (past ++ [first]) := by
  have hseconds : sch.abnormalRequireSeconds = sch.schInfo.loiteringRequireDurSec := by
    rw [Schedule.abnormalRequireSeconds, hevent]
  obtain ⟨entry, hentry, htracked⟩ := trackedSince_after hevent constructed
    (fun c' hc' => hparked c' (List.mem_cons_of_mem c hc'))
    fun c' past' hsuffix => hkeeps c' past' (hsuffix.trans (List.suffix_cons c _))
  have hkept := hkeeps c (past ++ [first]) (List.suffix_refl _)
  have hget := getHistory_of_keepsHistory hevent hkept hentry
  have hroom := hkept.room
  rw [hget] at hroom
  obtain ⟨hactive, object, hmem, htarget, hvisible, rfl, hinside⟩ :=
    hparked c List.mem_cons_self
  obtain ⟨pre, post, hlayer⟩ := List.append_of_mem hmem
  -- the history when the loop has come to the vehicle
  have hobjects := length_ofVehicle_le hlayer htarget hvisible
  have hseen : object ∈ (ofVehicle sch object.trackId pre ++ [object]).filter sch.isWithinROI :=
    List.mem_filter.mpr ⟨List.mem_append_right _ List.mem_cons_self, hinside⟩
  obtain ⟨hlength, o, rest, hfirst⟩ :=
    htracked.parkingUpdates c.moment (by omega) ⟨object, hseen⟩
  refine ⟨object, hmem, htarget, rfl, sch.getDurationIfSatisfyEventRequireSeconds
    first.moment.system c.moment.system, ?_⟩
  refine mem_check_parking hevent hactive hlayer htarget hvisible ?_
  rw [hget, Schedule.lastActiveTime_after, parkingReport_eq hinside ?_ hfirst ?_
    (Schedule.getEnoughEventInterval_of_lt hinterval)]
  · exact List.mem_cons_self
  · simp only [List.length_cons, List.length_append, List.length_nil] at hcalls
    omega
  · exact Schedule.getDuration_pos (by omega) (by omega) (by rw [hseconds]; exact hlong) hshort

/-- The calls come every second at least. -/
def EverySecond : List Call → Prop
  | newer :: older :: past =>
    newer.moment.system - older.moment.system ≤ 10 ^ 9 ∧
      newer.moment.steady - older.moment.steady ≤ 10 ^ 9 ∧ EverySecond (older :: past)
  | _ => True

theorem AtSeconds.everySecond {calls : List Call} (h : AtSeconds calls) : EverySecond calls := by
  induction calls with
  | nil => trivial
  | cons newer past ih =>
    cases past with
    | nil => trivial
    | cons older past =>
      obtain ⟨⟨layer, rfl⟩, hpast⟩ := h
      obtain ⟨layer', rfl⟩ := hpast.1
      refine ⟨?_, ?_, ih hpast⟩
      · simp only [callAt, List.length_cons]
        push_cast
        omega
      · simp only [callAt, List.length_cons]
        push_cast
        omega

theorem isParked_of_mem_stay {seconds : ℤ} {n : ℕ} {c : Call} (h : c ∈ stay n) :
    IsParked (parkingSchedule seconds) 1 c := by
  induction n with
  | zero => cases h
  | succ n ih =>
    obtain rfl | h := List.mem_cons.mp h
    · -- the required time is not looked at
      have hinside : (parkingSchedule 0).isWithinROI (objectAt 2 1 25 50) = true := by
        decide +kernel
      exact ⟨rfl, objectAt 2 1 25 50, List.mem_cons_self, rfl, rfl, rfl, hinside⟩
    · exact ih h

/-- The first call of the run. -/
theorem dropLast_stay_append (n : ℕ) :
    (stay (n + 1)).dropLast ++ [callAt 0 [objectAt 2 1 25 50]] = stay (n + 1) := by
  induction n with
  | zero => rfl
  | succ n ih =>
    rw [stay, List.dropLast_cons_of_ne_nil (by simp [stay]), List.cons_append, ih]

/-- The calls of the run and their pasts. -/
theorem exists_of_suffix_stay {n : ℕ} {c : Call} {past : List Call} (h : c :: past <:+ stay n) :
    ∃ k < n, c = callAt k [objectAt 2 1 25 50] ∧ past = stay k := by
  induction n with
  | zero => exact absurd h.length_le (by simp [stay])
  | succ n ih =>
    obtain heq | h := List.suffix_cons_iff.mp h
    · rw [List.cons.injEq] at heq
      exact ⟨n, Nat.lt_succ_self n, heq⟩
    · obtain ⟨k, hk, heq⟩ := ih h
      exact ⟨k, Nat.lt_succ_of_lt hk, heq⟩

/-- The history of a vehicle that is seen each second is kept for as long as it takes to be seen ten
times. -/
theorem keepsHistory_stay {c : Call} {past : List Call} (h : c :: past <:+ stay 10) :
    (parkingSchedule 1).KeepsHistory 1 ((parkingSchedule 1).after 0 past) c := by
  obtain ⟨k, hk, rfl, rfl⟩ := exists_of_suffix_stay h
  have hyoung : ∀ k < 10, (((parkingSchedule 1).after 0 (stay k)).movingStateHistory.historyMap
      1).all (fun entry => elapsedMillisecs (k * 10 ^ 9) entry.2 ≤ 120 * 1000) = true := by
    decide +kernel
  have hroom : ∀ k < 10, (((parkingSchedule 1).after 0 (stay k)).movingStateHistory.getHistory
      ⟨[]⟩ (k * 10 ^ 9) 1).1.inferObjects.length +
        (ofVehicle (parkingSchedule 1) 1 [objectAt 2 1 25 50]).length ≤ 600 := by
    decide +kernel
  refine ⟨fun entry hentry => ?_, hroom k hk⟩
  have hall := hyoung k hk
  rw [hentry] at hall
  exact of_decide_eq_true hall

/-- A vehicle that stays for ten calls. -/
theorem reports_parked_stay :
    ∃ object ∈ (callAt 9 [objectAt 2 1 25 50]).inLayer,
      (parkingSchedule 1).isTarget object = true ∧ object.trackId = 1 ∧
        ∃ duration, withData object duration ∈
          (parkingSchedule 1).resultAt 0 (callAt 9 [objectAt 2 1 25 50])
            ((stay 9).dropLast ++ [callAt 0 [objectAt 2 1 25 50]]) := by
  have hrun : callAt 9 [objectAt 2 1 25 50] ::
      ((stay 9).dropLast ++ [callAt 0 [objectAt 2 1 25 50]]) = stay 10 := by
    rw [dropLast_stay_append, stay]
    rfl
  refine reports_parked (parkingSchedule 1) 0 1 (callAt 9 [objectAt 2 1 25 50])
    (callAt 0 [objectAt 2 1 25 50]) (stay 9).dropLast (by decide) (by decide) (by decide) ?_
    (by decide) (by decide) (by decide +kernel) (by decide) ?_
  · rw [hrun]
    exact fun c' hc' => isParked_of_mem_stay hc'
  · rw [hrun]
    exact fun c' past' => keepsHistory_stay

/-- **A vehicle that is to be reported after more than two minutes** is not, although it stays: the
history has started anew after two minutes. -/
theorem not_reports_parked :
    ¬∀ (sch : Schedule) (constructed : ℤ) (t : InferTrackID) (c first : Call) (past : List Call),
      sch.eventClass = some .vehicleParking → 1 ≤ sch.schInfo.loiteringRequireDurSec →
      sch.schInfo.loiteringRequireDurSec * 1000 < 2 ^ 31 →
      ClocksForward (c :: (past ++ [first])) → EverySecond (c :: (past ++ [first])) →
      (∀ c' ∈ c :: (past ++ [first]), IsParked sch t c') →
      10 ≤ (c :: (past ++ [first])).length →
      sch.schInfo.loiteringRequireDurSec * 1000 <
        elapsedMillisecs c.moment.system first.moment.system →
      sch.schInfo.notificationMinIntervalSec * 1000 <
        elapsedMillisecs c.moment.system (sch.lastEvent constructed (past ++ [first])) →
      ∃ object ∈ c.inLayer, sch.isTarget object = true ∧ object.trackId = t ∧
        ∃ duration, withData object duration ∈ sch.resultAt constructed c (past ++ [first]) := by
  intro h
  have hrun : callAt 126 [objectAt 2 1 25 50] ::
      ((stay 126).dropLast ++ [callAt 0 [objectAt 2 1 25 50]]) = stay 127 := by
    rw [dropLast_stay_append, stay]
    rfl
  have hnone : (parkingSchedule 125).resultAt 0 (callAt 126 [objectAt 2 1 25 50])
      ((stay 126).dropLast ++ [callAt 0 [objectAt 2 1 25 50]]) = [] := by
    decide +kernel
  obtain ⟨object, -, -, -, duration, hresult⟩ := h (parkingSchedule 125) 0 1
    (callAt 126 [objectAt 2 1 25 50]) (callAt 0 [objectAt 2 1 25 50]) (stay 126).dropLast
    (by decide) (by decide) (by decide) (by rw [hrun]; exact (atSeconds_stay 127).clocksForward)
    (by rw [hrun]; exact (atSeconds_stay 127).everySecond)
    (by rw [hrun]; exact fun c' hc' => isParked_of_mem_stay hc') (by decide +kernel) (by decide)
    (by decide +kernel)
  rw [hnone] at hresult
  cases hresult

end DetectBase.Abnormal
