import DetectBase.Abnormal.Checker

/-!
# The interval between notifications

A schedule that has just reported something is to stay silent for
`notification_min_interval_sec` seconds. The test is made for each object within the loop of a
check (`GetEnoughEventInterval`), and what it measures from is written once, after the loop
(`UpdateEventActivateTime`). Both read the clock, which goes on in between, so a call is given here
by all its readings: one when it begins, one for each object, and one when it ends
(`DetectBase.Abnormal.TimedCall`). A call for which the clocks stand still is a call in the sense of
the other modules (`DetectBase.Abnormal.Schedule.timedCheck_ofCall`).

Two facts about a call are all that is needed. It writes the time of its end when it has reported
something, and else nothing (`DetectBase.Abnormal.Schedule.lastActiveTime_timedCheck`); and it has
reported something only when the test let an object through
(`DetectBase.Abnormal.Schedule.letThrough_ne_nil`). The interval is multiplied by a thousand in an
`int`, and the conclusion is for the intervals for which that is harmless.
-/

namespace DetectBase.Abnormal

/-! ### Calls during which the clocks go on -/

/-- A round of the loop of a check: an object, and what the clocks show. -/
structure Look where
  /-- What the clocks show. -/
  moment : Moment
  /-- The object. -/
  object : InferObject

/-- A call of `Check`, with its readings of the clocks. -/
structure TimedCall where
  /-- What the clocks show when the call begins. -/
  begun : Moment
  /-- The rounds of the loop, in turn. -/
  looks : List Look
  /-- What the clocks show after the loop. -/
  ended : Moment

namespace TimedCall

/-- `in_layer`. -/
def inLayer (c : TimedCall) : DataLayer := c.looks.map Look.object

/-- The readings of `system_clock`, in the order in which they are made. -/
def readings (c : TimedCall) : List ℤ :=
  c.begun.system :: c.looks.map (·.moment.system) ++ [c.ended.system]

/-- A call for which the clocks stand still. -/
def ofCall (c : Call) : TimedCall := ⟨c.moment, c.inLayer.map (Look.mk c.moment), c.moment⟩

theorem inLayer_ofCall (c : Call) : (ofCall c).inLayer = c.inLayer := by
  rw [inLayer, ofCall, List.map_map]
  exact List.map_id _

end TimedCall

section TimedVisit

variable {T : Type} {threshold : ℤ} (sch : Schedule) (isTarget : InferObject → Bool)
  (blank : Moment → T) (update : Moment → InferObject → T → T)
  (report : Moment → DataLayer → InferObject → T → DataLayer)

/-- One round of the loop of a check, at its own time. -/
def timedVisit (acc : DataLayer × HistoryChecker threshold T) (look : Look) :
    DataLayer × HistoryChecker threshold T :=
  visit sch isTarget look.moment.steady (blank look.moment) (update look.moment)
    (report look.moment) acc look.object

variable {sch isTarget blank update report}

/-- With one time for all rounds the loop is that of the other modules. -/
theorem foldl_timedVisit_map (m : Moment) (layer : DataLayer)
    (acc : DataLayer × HistoryChecker threshold T) :
    (layer.map (Look.mk m)).foldl (timedVisit sch isTarget blank update report) acc =
      layer.foldl (visit sch isTarget m.steady (blank m) (update m) (report m)) acc :=
  List.foldl_map

/-- **A loop with results has a round with a report.** -/
theorem exists_report_of_foldl_timedVisit (looks : List Look) :
    ∀ acc : DataLayer × HistoryChecker threshold T,
      (looks.foldl (timedVisit sch isTarget blank update report) acc).1 ≠ [] →
      acc.1 ≠ [] ∨ ∃ look ∈ looks, ∃ results history,
        report look.moment results look.object history ≠ [] := by
  induction looks with
  | nil => exact fun _ h => .inl h
  | cons look looks ih =>
    intro acc h
    obtain hround | ⟨look', hmem, hreport⟩ := ih _ h
    · rw [timedVisit, visit] at hround
      split_ifs at hround
      · exact .inl hround
      · exact .inl hround
      · -- the round has added its report to the results
        by_cases hacc : acc.1 = []
        · rw [hacc] at hround
          exact .inr ⟨look, List.mem_cons_self, _, _, hround⟩
        · exact .inl hacc
    · exact .inr ⟨look', List.mem_cons_of_mem _ hmem, hreport⟩

end TimedVisit

/-! ### The checks -/

/-- `VehicleParking`. -/
def timedVehicleParking (sch : Schedule) (c : TimedCall) (s : ScheduleState sch) :
    DataLayer × ScheduleState sch :=
  match sch.classEqualChecker with
  | none => ([], s)
  | some classEqualChecker =>
    let loop := c.looks.foldl
      (timedVisit sch (fun object => classEqualChecker object.classId "Car") (fun _ => ⟨[]⟩)
        (parkingUpdate sch) fun m _ => parkingReport sch m s.lastActiveTime)
      ([], s.movingStateHistory)
    (loop.1, { s with
      movingStateHistory := loop.2
      lastActiveTime := activateTime loop.1 c.ended s.lastActiveTime })

/-- `LineIntrusionBase`. -/
def timedLineIntrusionBase (sch : Schedule) (className : String) (c : TimedCall)
    (s : ScheduleState sch) : DataLayer × ScheduleState sch :=
  match sch.classEqualChecker with
  | none => ([], s)
  | some classEqualChecker =>
    let loop := c.looks.foldl
      (timedVisit sch (fun object => classEqualChecker object.classId className) (fun _ => [])
        (fun _ => lineUpdate) fun m _ => lineReport sch m s.lastActiveTime)
      ([], s.objectHistory.releaseInactiveHistory c.begun.steady c.inLayer)
    (loop.1, { s with
      objectHistory := loop.2
      lastActiveTime := activateTime loop.1 c.ended s.lastActiveTime })

/-- `IntrusionZone`. -/
def timedIntrusionZone (sch : Schedule) (c : TimedCall) (s : ScheduleState sch) :
    DataLayer × ScheduleState sch :=
  match sch.classEqualChecker with
  | none => ([], s)
  | some classEqualChecker =>
    let loop := c.looks.foldl
      (timedVisit sch (fun object => classEqualChecker object.classId "Person")
        (fun m => ⟨false, m.system⟩) (zoneUpdate sch) fun m => zoneReport sch m s.lastActiveTime)
      ([], s.roiStateHistory.releaseInactiveHistory c.begun.steady c.inLayer)
    (loop.1, { s with
      roiStateHistory := loop.2
      lastActiveTime := activateTime loop.1 c.ended s.lastActiveTime })

namespace Schedule

/-- `Schedule::Check`. -/
def timedCheck (sch : Schedule) (c : TimedCall) (s : ScheduleState sch) :
    DataLayer × ScheduleState sch :=
  if sch.isActive c.begun then
    match sch.eventClass with
    | some .lineIntrusion => timedLineIntrusionBase sch "Person" c s
    | some .areaIntrusion => timedIntrusionZone sch c s
    | some .vehicleIntrusion => timedLineIntrusionBase sch "Car" c s
    | some .vehicleParking => timedVehicleParking sch c s
    | none => ([], s)
  else ([], s)

/-- **A call for which the clocks stand still** is a call in the sense of the other modules. -/
theorem timedCheck_ofCall (sch : Schedule) (c : Call) (s : ScheduleState sch) :
    sch.timedCheck (.ofCall c) s = sch.check c s := by
  have hline : ∀ className, timedLineIntrusionBase sch className (.ofCall c) s =
      lineIntrusionBase sch className c.moment c.inLayer s := by
    intro className
    rw [timedLineIntrusionBase, lineIntrusionBase, TimedCall.inLayer_ofCall]
    cases sch.classEqualChecker with
    | none => rfl
    | some f => simp only [TimedCall.ofCall, foldl_timedVisit_map, lineLoop]
  have hzone : timedIntrusionZone sch (.ofCall c) s =
      intrusionZone sch c.moment c.inLayer s := by
    rw [timedIntrusionZone, intrusionZone, TimedCall.inLayer_ofCall]
    cases sch.classEqualChecker with
    | none => rfl
    | some f => simp only [TimedCall.ofCall, foldl_timedVisit_map]
  have hparking : timedVehicleParking sch (.ofCall c) s =
      vehicleParking sch c.moment c.inLayer s := by
    rw [timedVehicleParking, vehicleParking]
    cases sch.classEqualChecker with
    | none => rfl
    | some f => simp only [TimedCall.ofCall, foldl_timedVisit_map, parkingLoop]
  rw [timedCheck, check, hzone, hparking, hline, hline]
  rfl

/-! ### What a call does to the timer -/

/-- **A call that reports something writes the time of its end**, another one nothing. -/
theorem lastActiveTime_timedCheck (sch : Schedule) (c : TimedCall) (s : ScheduleState sch) :
    (sch.timedCheck c s).2.lastActiveTime =
      activateTime (sch.timedCheck c s).1 c.ended s.lastActiveTime := by
  rw [timedCheck]
  split
  · split
    · rw [timedLineIntrusionBase]
      split <;> rfl
    · rw [timedIntrusionZone]
      split <;> rfl
    · rw [timedLineIntrusionBase]
      split <;> rfl
    · rw [timedVehicleParking]
      split <;> rfl
    · rfl
  · rfl

/-- The readings of a call at which the test of the interval lets an object through. -/
def letThrough (sch : Schedule) (lastActiveTime : ℤ) (c : TimedCall) : List ℤ :=
  (c.looks.map (·.moment.system)).filter (sch.getEnoughEventInterval lastActiveTime)

theorem letThrough_ne_nil_of_loop {T : Type} {threshold : ℤ} {sch : Schedule}
    {isTarget : InferObject → Bool} {blank : Moment → T} {update : Moment → InferObject → T → T}
    {report : Moment → DataLayer → InferObject → T → DataLayer} {last : ℤ} {c : TimedCall}
    {histories : HistoryChecker threshold T}
    (hreport : ∀ m results object history, report m results object history ≠ [] →
      sch.getEnoughEventInterval last m.system = true)
    (h : (c.looks.foldl (timedVisit sch isTarget blank update report) ([], histories)).1 ≠ []) :
    sch.letThrough last c ≠ [] := by
  obtain hnil | ⟨look, hmem, results, history, hne⟩ := exists_report_of_foldl_timedVisit _ _ h
  · exact absurd rfl hnil
  · refine List.ne_nil_of_mem (List.mem_filter.mpr ⟨?_, hreport _ _ _ _ hne⟩)
    exact List.mem_map.mpr ⟨look, hmem, rfl⟩

/-- **A call reports something only when the test lets an object through**, for each of the four
events. -/
theorem letThrough_ne_nil {sch : Schedule} {c : TimedCall} {s : ScheduleState sch}
    (h : (sch.timedCheck c s).1 ≠ []) : sch.letThrough s.lastActiveTime c ≠ [] := by
  have hline : ∀ className, (timedLineIntrusionBase sch className c s).1 ≠ [] →
      sch.letThrough s.lastActiveTime c ≠ [] := by
    intro className h
    rw [timedLineIntrusionBase] at h
    split at h
    · exact absurd rfl h
    · refine letThrough_ne_nil_of_loop (fun m _ object history hne => ?_) h
      rw [lineReport] at hne
      split_ifs at hne with hshort henough
      · exact absurd rfl hne
      · exact absurd rfl hne
      · exact Bool.eq_true_of_not_eq_false henough
  rw [timedCheck] at h
  split at h
  · split at h
    · exact hline _ h
    · rw [timedIntrusionZone] at h
      split at h
      · exact absurd rfl h
      · refine letThrough_ne_nil_of_loop (fun m results object history hne => ?_) h
        rw [zoneReport] at hne
        split_ifs at hne with henough
        · exact absurd rfl hne
        · exact Bool.eq_true_of_not_eq_false henough
    · exact hline _ h
    · rw [timedVehicleParking] at h
      split at h
      · exact absurd rfl h
      · refine letThrough_ne_nil_of_loop (fun m _ object history hne => ?_) h
        rw [parkingReport] at hne
        split_ifs at hne
        · exact absurd rfl hne
        · exact absurd rfl hne
        · split at hne
          · exact absurd rfl hne
          · dsimp only at hne
            split_ifs at hne with hboth
            · exact hboth.2
            · exact absurd rfl hne
    · exact absurd rfl h
  · exact absurd rfl h

/-! ### Runs -/

/-- The state after a run, given by the time of the construction and the calls, the newest
first. -/
def timedAfter (sch : Schedule) (constructed : ℤ) : List TimedCall → ScheduleState sch
  | [] => .init sch constructed
  | c :: past => (sch.timedCheck c (timedAfter sch constructed past)).2

/-- **The calls of a run that return something**, the newest first, each with the
`last_active_time` that it finds. -/
def notified (sch : Schedule) (constructed : ℤ) : List TimedCall → List (TimedCall × ℤ)
  | [] => []
  | c :: past =>
    let s := sch.timedAfter constructed past
    if (sch.timedCheck c s).1 ≠ [] then
      (c, s.lastActiveTime) :: notified sch constructed past
    else notified sch constructed past

theorem notified_sublist (sch : Schedule) (constructed : ℤ) (calls : List TimedCall) :
    ((sch.notified constructed calls).map Prod.fst).Sublist calls := by
  induction calls with
  | nil => exact List.Sublist.slnil
  | cons c past ih =>
    rw [notified]
    split_ifs
    · exact ih.cons_cons c
    · exact ih.cons c

end Schedule

/-- **The clock does not go back**: neither within a call nor from one call of the run to the
next. -/
def ClockForward (constructed : ℤ) (calls : List TimedCall) : Prop :=
  (calls.flatMap (·.readings.reverse) ++ [constructed]).Pairwise fun newer older => older ≤ newer

instance (constructed : ℤ) (calls : List TimedCall) :
    Decidable (ClockForward constructed calls) :=
  inferInstanceAs (Decidable (List.Pairwise _ _))

theorem ClockForward.of_cons {constructed : ℤ} {c : TimedCall} {past : List TimedCall}
    (h : ClockForward constructed (c :: past)) : ClockForward constructed past := by
  rw [ClockForward, List.flatMap_cons, List.append_assoc] at h
  exact (List.pairwise_append.mp h).2.1

/-- A call ends after the calls before it have ended. -/
theorem ClockForward.ended_le {constructed : ℤ} {c e : TimedCall} {past : List TimedCall}
    (h : ClockForward constructed (c :: past)) (he : e ∈ past) :
    e.ended.system ≤ c.ended.system := by
  rw [ClockForward, List.flatMap_cons, List.append_assoc] at h
  refine (List.pairwise_append.mp h).2.2 _ ?_ _ (List.mem_append_left _ ?_)
  · simp [TimedCall.readings]
  · exact List.mem_flatMap.mpr ⟨e, he, by simp [TimedCall.readings]⟩

namespace Schedule

/-- **The timer is not behind any call of the run that returned something.** -/
theorem ended_le_lastActiveTime {sch : Schedule} {constructed : ℤ} {calls : List TimedCall}
    (hclock : ClockForward constructed calls) {entry : TimedCall × ℤ}
    (h : entry ∈ sch.notified constructed calls) :
    entry.1.ended.system ≤ (sch.timedAfter constructed calls).lastActiveTime := by
  induction calls with
  | nil => cases h
  | cons c past ih =>
    rw [timedAfter, lastActiveTime_timedCheck]
    rw [notified] at h
    split_ifs at h with hsilent
    · rw [activateTime, if_pos (List.length_pos_of_ne_nil hsilent)]
      obtain rfl | h := List.mem_cons.mp h
      · exact le_rfl
      · exact hclock.ended_le
          ((sch.notified_sublist constructed past).subset (List.mem_map_of_mem h))
    · rw [not_not] at hsilent
      rw [hsilent]
      exact ih hclock.of_cons h

/-- A reading that is let through is later than the timer by more than the interval, when its
milliseconds fit an `int`. -/
theorem lt_of_mem_letThrough {sch : Schedule} {last now : ℤ} {c : TimedCall}
    (hfits : sch.schInfo.notificationMinIntervalSec * 1000 < 2 ^ 31)
    (h : now ∈ sch.letThrough last c) :
    last + sch.schInfo.notificationMinIntervalSec * 10 ^ 9 < now := by
  have hpos := sch.wellFormed.interval_pos
  have henough := (getEnoughEventInterval_iff hfits).mp (List.mem_filter.mp h).2
  have hns := (le_elapsedMillisecs_iff
    (k := sch.schInfo.notificationMinIntervalSec * 1000 + 1) (by omega)).mp henough
  omega

/-- **Two notifications are further apart than the interval**: in a run during which the clock does
not go back, of two calls that return something the later one has tested the interval, and each
reading at which it was let through is more than `notification_min_interval_sec` seconds after the
earlier one. -/
theorem pairwise_notified (sch : Schedule)
    (hfits : sch.schInfo.notificationMinIntervalSec * 1000 < 2 ^ 31) (constructed : ℤ)
    (calls : List TimedCall) (hclock : ClockForward constructed calls) :
    (sch.notified constructed calls).Pairwise fun later earlier =>
      sch.letThrough later.2 later.1 ≠ [] ∧ ∀ now ∈ sch.letThrough later.2 later.1,
        earlier.1.ended.system + sch.schInfo.notificationMinIntervalSec * 10 ^ 9 < now := by
  induction calls with
  | nil => exact List.Pairwise.nil
  | cons c past ih =>
    rw [notified]
    split_ifs with hsilent
    · refine List.Pairwise.cons (fun earlier he => ⟨letThrough_ne_nil hsilent, ?_⟩)
        (ih hclock.of_cons)
      intro now hnow
      have hended := ended_le_lastActiveTime hclock.of_cons he
      have hlong := lt_of_mem_letThrough hfits hnow
      omega
    · exact ih hclock.of_cons

end Schedule

/-! ### An interval that is too long -/

/-- A call for which the clocks stand still, at a number of seconds, at midnight of a Sunday. -/
def timedCallAt (seconds : ℤ) (layer : DataLayer) : TimedCall := .ofCall (callAt seconds layer)

/-- The settings of a schedule for the intrusion of persons into a triangle, as JSON, with the
number of seconds between notifications. -/
def triangleSettings (seconds : ℤ) : Json :=
  let point (x y : ℤ) : Json := .arr [.int x, .int y]
  let triangle : Json := .arr [.arr [point 0 0, point 0 1, point 1 0]]
  .obj [
    ("Data", .obj [
      ("Roi", .arr [.obj [("Points", triangle), ("TypeCode", .int 1)]]),
      ("Rule", .obj [
        ("EventCode", .int 203),
        ("ExtraSettings", .obj [("NotificationDelaySec", .int seconds)]),
        ("LevelCode", .int 1),
        ("TimeRange", .obj [])])]),
    ("Id", .int 1)]

/-- What the parser makes of them. -/
def triangleInfo (seconds : ℤ) : AbnormalEventScheduleInfo :=
  let zero := ofInt binary32 0
  let one := ofInt binary32 1
  { plainInfo 203 with
    roi := [[(zero, zero), (zero, one), (one, zero)]]
    notificationMinIntervalSec := seconds
    loiteringRequireDurSec := 60 }

/-- A person walks into the triangle and stays there. -/
def walkIn : List TimedCall :=
  [timedCallAt 6 [objectAt 0 7 10 10], timedCallAt 5 [objectAt 0 7 10 10],
    timedCallAt 3 [objectAt 0 7 10 10], timedCallAt 0 [objectAt 0 7 90 90]]

/-- With two seconds between notifications, a person that stays is reported after three and after
six seconds. -/
theorem pairwise_notified_walkIn :
    let sch := scheduleOf (triangleInfo 2) (by decide)
    (sch.notified 0 walkIn).length = 2 ∧
      (sch.notified 0 walkIn).Pairwise fun later earlier =>
        sch.letThrough later.2 later.1 ≠ [] ∧ ∀ now ∈ sch.letThrough later.2 later.1,
          earlier.1.ended.system + sch.schInfo.notificationMinIntervalSec * 10 ^ 9 < now :=
  ⟨by decide +kernel, Schedule.pairwise_notified _ (by decide) _ _ (by decide +kernel)⟩

/-- **The milliseconds of a long interval do not fit an `int`**: the parser lets through settings
with more than twenty-four days between notifications, and the person is reported in each call. -/
theorem not_pairwise_notified :
    ¬∀ (j : Json) (info : AbnormalEventScheduleInfo) (h : readSchedule j = .ok (some info))
      (frameW frameH : ℤ) (classEqualChecker : InferClassID → String → Bool) (constructed : ℤ)
      (calls : List TimedCall), ClockForward constructed calls →
      let sch : Schedule :=
        ⟨info, frameW, frameH, some classEqualChecker, wellFormed_of_readSchedule h⟩
      (sch.notified constructed calls).Pairwise fun later earlier =>
        sch.letThrough later.2 later.1 ≠ [] ∧ ∀ now ∈ sch.letThrough later.2 later.1,
          earlier.1.ended.system + sch.schInfo.notificationMinIntervalSec * 10 ^ 9 < now := by
  intro h
  have hapart := h (triangleSettings 2147484) (triangleInfo 2147484) rfl 100 100 twoClasses 0
    walkIn (by decide +kernel)
  exact absurd hapart (by decide +kernel)

end DetectBase.Abnormal
