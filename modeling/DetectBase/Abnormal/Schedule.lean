import DetectBase.Abnormal.Geometry
import DetectBase.Abnormal.History
import DetectBase.Setting.Regions
import DetectBase.Structure.Types

/-!
# Schedules

`MgenSchedule.cpp` without the checks themselves: the constants that a `Schedule` is built with,
the state it keeps between calls, the tests on the calendar that say whether it is active
(`DetectBase.Abnormal.Schedule.isActive`), and the tests on the time since its last event.

A schedule is built from the settings of a camera. Two facts about those settings that the checks
rely on are established by the parser and carried by the type: every line that is to be crossed
has a point, and the interval between notifications is positive
(`DetectBase.Abnormal.wellFormed_of_readSchedule`).

The clocks are read once for each call of `Check`.
-/

namespace DetectBase.Abnormal

/-! ### Clocks -/

/-- `struct tm`. -/
structure Tm where
  /-- `tm_year`, since 1900. -/
  tmYear : ℕ
  /-- `tm_mon`, since January. -/
  tmMon : ℕ
  /-- `tm_mday`. -/
  tmMday : ℕ
  /-- `tm_hour`. -/
  tmHour : ℤ
  /-- `tm_min`. -/
  tmMin : ℤ
  /-- `tm_wday`, since Sunday. -/
  tmWday : Fin 7

/-- What the clocks show during a call. -/
structure Moment where
  /-- `system_clock::now()`, in nanoseconds. -/
  system : ℤ
  /-- `steady_clock::now()`, in nanoseconds. -/
  steady : ℤ
  /-- `localtime_r` of `time(nullptr)`. -/
  localTime : Tm

/-- A number with two digits at least. -/
def padTwo (n : ℕ) : String := if n < 10 then "0" ++ toString n else toString n

/-- `strftime` with `%Y-%m-%d`. -/
def Tm.date (tm : Tm) : String :=
  toString (tm.tmYear + 1900) ++ "-" ++ padTwo (tm.tmMon + 1) ++ "-" ++ padTwo tm.tmMday

/-- `isspace`. -/
def isSpace (c : Char) : Bool := c = ' ' ∨ ('\t' ≤ c ∧ c ≤ '\r')

/-- The conversion `%2d` of `sscanf`: space is skipped, and a sign counts. -/
def scanTwo (text : List Char) : Option (ℤ × List Char) :=
  let start := text.dropWhile isSpace
  let (sign, width, rest) : ℤ × ℕ × List Char := match start with
    | '-' :: rest => (-1, 1, rest)
    | '+' :: rest => (1, 1, rest)
    | _ => (1, 2, start)
  match (rest.take width).takeWhile Char.isDigit with
  | [] => none
  | digits =>
    let n := digits.foldl (fun (n : ℕ) d => 10 * n + (d.toNat - '0'.toNat)) 0
    some (sign * n, rest.drop digits.length)

/-- `sscanf` with `%2d:%2d`, of which both conversions succeed. -/
def scanTime (text : String) : Option (ℤ × ℤ) := do
  let (hour, rest) ← scanTwo (text.toList.takeWhile (· ≠ '\x00'))
  match rest with
  | ':' :: rest =>
    let (min, _) ← scanTwo rest
    return (hour, min)
  | _ => none

/-! ### The constants of a schedule -/

/-- `EventClass`, without the codes that have no check. -/
inductive EventClass where
  /-- A person crosses a line. -/
  | lineIntrusion : EventClass
  /-- A person enters an area. -/
  | areaIntrusion : EventClass
  /-- A vehicle crosses a line. -/
  | vehicleIntrusion : EventClass
  /-- A vehicle stays in an area. -/
  | vehicleParking : EventClass
deriving DecidableEq

/-- The event of a code, `none` for the codes that have no check. -/
def EventClass.ofCode (code : ℤ) : Option EventClass :=
  if code = 202 then some .lineIntrusion
  else if code = 203 then some .areaIntrusion
  else if code = 209 then some .vehicleIntrusion
  else if code = 210 then some .vehicleParking
  else none

/-- **What the parser promises** of the settings of a schedule. -/
structure WellFormed (info : AbnormalEventScheduleInfo) : Prop where
  /-- No line to be crossed in both directions is empty. -/
  twoWay_ne : ∀ area ∈ info.twoWayRoi, area ≠ []
  /-- No line to be crossed in one direction is empty. -/
  oneWay_ne : ∀ area ∈ info.oneWayRoi, area ≠ []
  /-- There is some time between notifications. -/
  interval_pos : 1 ≤ info.notificationMinIntervalSec

instance (info : AbnormalEventScheduleInfo) : Decidable (WellFormed info) :=
  decidable_of_iff ((∀ area ∈ info.twoWayRoi, area ≠ []) ∧ (∀ area ∈ info.oneWayRoi, area ≠ []) ∧
      1 ≤ info.notificationMinIntervalSec)
    ⟨fun ⟨h1, h2, h3⟩ => ⟨h1, h2, h3⟩, fun ⟨h1, h2, h3⟩ => ⟨h1, h2, h3⟩⟩

/-! ### What the parser promises -/

/-- A region of a schedule has a point. -/
theorem ne_nil_of_mem_regions {j : Json} {info : AbnormalEventScheduleInfo}
    (h : readSchedule j = .ok (some info)) (type : RoiType) :
    ∀ area ∈ info.regions type, area ≠ [] := by
  rintro area harea
  rw [regions_of_readSchedule h] at harea
  split_ifs at harea
  · rw [List.mem_singleton.mp harea]
    exact List.cons_ne_nil _ _
  · obtain ⟨pairs, hpairs, rfl⟩ := List.mem_map.mp harea
    rw [readPairs, ne_eq, List.map_eq_nil_iff]
    exact ne_nil_of_mem_pairsOfSchedule hpairs

/-- **The settings that the parser lets through are well formed.** -/
theorem wellFormed_of_readSchedule {j : Json} {info : AbnormalEventScheduleInfo}
    (h : readSchedule j = .ok (some info)) : WellFormed info where
  twoWay_ne := ne_nil_of_mem_regions h .twoWayLine
  oneWay_ne := ne_nil_of_mem_regions h .oneWayLine
  interval_pos := by
    obtain ⟨start, sch, interval, loitering, days, -, -, rfl⟩ := exists_of_readSchedule h
    dsimp only
    split_ifs <;> omega

/-- The constants of a `Schedule`, which its constructor is given. -/
structure Schedule where
  /-- `sch_info`. -/
  schInfo : AbnormalEventScheduleInfo
  /-- `frame_w`. -/
  frameW : ℤ
  /-- `frame_h`. -/
  frameH : ℤ
  /-- `class_equal_checker`, which may be null. -/
  classEqualChecker : Option (InferClassID → String → Bool)
  /-- The settings have passed the parser. -/
  wellFormed : WellFormed schInfo

/-- `MakeCvScaledRoiFromScheduleRoi`. -/
def makeCvScaledRoiFromScheduleRoi (rois : Roi) (frameW frameH : ℤ) : List (List Point) :=
  rois.map fun roiPoints => roiPoints.map fun ratio =>
    ⟨scaleCoordinate frameW ratio.1, scaleCoordinate frameH ratio.2⟩

namespace Schedule

/-- `cv_rois`. -/
def cvRois (sch : Schedule) : List (List Point) :=
  makeCvScaledRoiFromScheduleRoi sch.schInfo.roi sch.frameW sch.frameH

/-- `cv_exclude_rois`. -/
def cvExcludeRois (sch : Schedule) : List (List Point) :=
  makeCvScaledRoiFromScheduleRoi sch.schInfo.excludeRoi sch.frameW sch.frameH

/-- `cv_two_way_rois`. -/
def cvTwoWayRois (sch : Schedule) : List (List Point) :=
  makeCvScaledRoiFromScheduleRoi sch.schInfo.twoWayRoi sch.frameW sch.frameH

/-- `cv_one_way_rois`. -/
def cvOneWayRois (sch : Schedule) : List (List Point) :=
  makeCvScaledRoiFromScheduleRoi sch.schInfo.oneWayRoi sch.frameW sch.frameH

/-- The event that `SelectChecker` selects a check for. -/
def eventClass (sch : Schedule) : Option EventClass :=
  EventClass.ofCode sch.schInfo.eventCode

/-- `GetAbnormalRequireFrame`. -/
def abnormalRequireSeconds (sch : Schedule) : ℤ :=
  match sch.eventClass with
  | some .vehicleParking => sch.schInfo.loiteringRequireDurSec
  | some .lineIntrusion => 1
  | some .areaIntrusion => 1
  | _ => 1

/-- `GetAbnormalReleaseFrame`. -/
def abnormalReleaseSeconds (sch : Schedule) : ℤ :=
  match sch.eventClass with
  | some .vehicleParking => 120
  | some .lineIntrusion => 10
  | some .areaIntrusion => 10
  | _ => 10

/-- `release_threshold_millisecs` of the histories of the schedule. -/
def releaseThresholdMillisecs (sch : Schedule) : ℤ := sch.abnormalReleaseSeconds * 1000

/-- `IsWithinExcludeROI`. -/
def isWithinExcludeROI (sch : Schedule) (object : InferObject) : Bool :=
  sch.cvExcludeRois.any fun excludeRoi =>
    isIncludePoint (getMidPointFromInferObject object) excludeRoi

/-- The loop that looks for an area of the schedule around an object. -/
def isWithinROI (sch : Schedule) (object : InferObject) : Bool :=
  sch.cvRois.any fun roiPoints => isIncludePoint (getMidPointFromInferObject object) roiPoints

/-! ### The calendar -/

/-- `IsWithinBlackList`. -/
def isWithinBlackList (blackList : List String) (tm : Tm) : Bool :=
  blackList.any fun dateString => dateString = tm.date

/-- `IsWithinWeeklyDay`. -/
def isWithinWeeklyDay (weeklyList : List ℤ) (tm : Tm) : Bool :=
  if weeklyList.length ≠ 7 then false else weeklyList[(tm.tmWday : ℕ)]? = some 1

/-- `IsWithinTimeRange`. `mktime` puts both times on one day, so that they differ by the minutes
between them. -/
def isWithinTimeRange (startTime : String) (rangeInMinute : ℤ) (tm : Tm) : Bool :=
  if rangeInMinute ≥ 1440 then true
  else match scanTime startTime with
    | none => false
    | some (targetHour, targetMin) =>
      let durCount := (tm.tmHour * 60 + tm.tmMin) - (targetHour * 60 + targetMin)
      let minutesDiff := if durCount > 0 then durCount else durCount + 1440
      minutesDiff ≤ rangeInMinute

/-- **The schedule is active**: the three tests of `Check` let the call through. -/
def isActive (sch : Schedule) (m : Moment) : Bool :=
  !isWithinBlackList sch.schInfo.blackListDays m.localTime &&
    isWithinWeeklyDay sch.schInfo.weekly m.localTime &&
    isWithinTimeRange sch.schInfo.startTime sch.schInfo.rangeMinutes m.localTime

/-! ### The time since an event -/

/-- `GetEnoughEventInterval`. -/
def getEnoughEventInterval (sch : Schedule) (lastActiveTime now : ℤ) : Bool :=
  elapsedMillisecs now lastActiveTime > toInt32 (sch.schInfo.notificationMinIntervalSec * 1000)

/-- **The interval between notifications**, when its milliseconds fit an `int`. -/
theorem getEnoughEventInterval_iff {sch : Schedule} {lastActiveTime now : ℤ}
    (h : sch.schInfo.notificationMinIntervalSec * 1000 < 2 ^ 31) :
    sch.getEnoughEventInterval lastActiveTime now = true ↔
      sch.schInfo.notificationMinIntervalSec * 1000 < elapsedMillisecs now lastActiveTime := by
  have hpos := sch.wellFormed.interval_pos
  have hfits : toInt32 (sch.schInfo.notificationMinIntervalSec * 1000) =
      sch.schInfo.notificationMinIntervalSec * 1000 :=
    Int.bmod_eq_of_le (by omega) (by omega)
  rw [getEnoughEventInterval, decide_eq_true_eq, hfits, gt_iff_lt]

/-- More than the interval is enough, whatever its milliseconds. -/
theorem getEnoughEventInterval_of_lt {sch : Schedule} {lastActiveTime now : ℤ}
    (h : sch.schInfo.notificationMinIntervalSec * 1000 < elapsedMillisecs now lastActiveTime) :
    sch.getEnoughEventInterval lastActiveTime now = true := by
  have hpos := sch.wellFormed.interval_pos
  have hle : toInt32 (sch.schInfo.notificationMinIntervalSec * 1000) ≤
      sch.schInfo.notificationMinIntervalSec * 1000 := toInt32_le (by omega)
  rw [getEnoughEventInterval, decide_eq_true_eq]
  exact lt_of_le_of_lt hle h

/-- `GetDurationIfSatisfyEventRequireSeconds`. -/
def getDurationIfSatisfyEventRequireSeconds (sch : Schedule) (eventStartTime now : ℤ) : ℤ :=
  if elapsedMillisecs now eventStartTime > toInt32 (sch.abnormalRequireSeconds * 1000) then
    toInt32 ((elapsedMillisecs now eventStartTime).tdiv 1000)
  else 0

/-- A duration that is reported does not exceed the time since the event started. -/
theorem getDuration_le {sch : Schedule} {since now : ℤ} (hle : since ≤ now) :
    sch.getDurationIfSatisfyEventRequireSeconds since now * 10 ^ 9 ≤ now - since := by
  have hms : 0 ≤ elapsedMillisecs now since := Int.tdiv_nonneg (by omega) (by decide)
  have hms' : elapsedMillisecs now since * 10 ^ 6 ≤ now - since := by
    rw [elapsedMillisecs, Int.tdiv_eq_ediv_of_nonneg (by omega)]
    exact Int.ediv_mul_le _ (by decide)
  rw [getDurationIfSatisfyEventRequireSeconds]
  split_ifs
  · have hsec : toInt32 ((elapsedMillisecs now since).tdiv 1000) ≤
        (elapsedMillisecs now since).tdiv 1000 :=
      toInt32_le (Int.tdiv_nonneg hms (by decide))
    rw [Int.tdiv_eq_ediv_of_nonneg hms] at hsec ⊢
    omega
  · omega

/-- After more than the required seconds there is a duration to report, as long as its seconds and
the required milliseconds fit an `int`. -/
theorem getDuration_pos {sch : Schedule} {since now : ℤ} (hrequire : 1 ≤ sch.abnormalRequireSeconds)
    (hfits : sch.abnormalRequireSeconds * 1000 < 2 ^ 31)
    (hlong : sch.abnormalRequireSeconds * 1000 < elapsedMillisecs now since)
    (hshort : elapsedMillisecs now since < 2 ^ 31 * 1000) :
    0 < sch.getDurationIfSatisfyEventRequireSeconds since now := by
  have hinterval : toInt32 (sch.abnormalRequireSeconds * 1000) =
      sch.abnormalRequireSeconds * 1000 := Int.bmod_eq_of_le (by omega) (by omega)
  have hseconds : toInt32 ((elapsedMillisecs now since).tdiv 1000) =
      elapsedMillisecs now since / 1000 := by
    rw [Int.tdiv_eq_ediv_of_nonneg (by omega)]
    exact Int.bmod_eq_of_le (by omega) (by omega)
  rw [getDurationIfSatisfyEventRequireSeconds, hinterval, if_pos hlong, hseconds]
  omega

end Schedule

/-! ### The state of a schedule -/

/-- `RoiEventInfo`. -/
structure RoiEventInfo where
  /-- `continuous`: the object has been outside. -/
  continuous : Bool
  /-- `event_time`. -/
  eventTime : ℤ

/-- `LoiteringEventInfo`. -/
structure LoiteringEventInfo where
  /-- `infer_objects`. -/
  inferObjects : List (InferObject × ℤ)

/-- What a schedule keeps between calls. -/
@[ext] structure ScheduleState (sch : Schedule) where
  /-- `object_history`. -/
  objectHistory : HistoryChecker sch.releaseThresholdMillisecs (List InferObject)
  /-- `roi_state_history`. -/
  roiStateHistory : HistoryChecker sch.releaseThresholdMillisecs RoiEventInfo
  /-- `moving_state_history`. -/
  movingStateHistory : HistoryChecker sch.releaseThresholdMillisecs LoiteringEventInfo
  /-- `last_active_time`. -/
  lastActiveTime : ℤ

/-- The state that the constructor leaves. -/
def ScheduleState.init (sch : Schedule) (now : ℤ) : ScheduleState sch := ⟨.init, .init, .init, now⟩

end DetectBase.Abnormal
