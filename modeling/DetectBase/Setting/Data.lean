import DetectBase.Json.Value

/-!
# Setting data

A setting is an object derived from `ISettingData`: the fields of its type, an emptiness flag,
and an updater that fills the fields from JSON. `ISettingData::UpdateFromJson` is the same for
all of them (`DetectBase.ISettingData.updateFromJson`): it hands the updater the array as a whole
or its first element, depending on the type, and clears the flag when the updater succeeds.

The updaters assign the fields one by one, and a field of the wrong kind throws; what was
assigned before the throw stays assigned. An updater is therefore a state transformer that keeps
its state when it fails (`DetectBase.UpdaterM`).

Three of the types are here: the exclusion of a camera, whose updater cannot fail, the schedules
of a camera, whose updater changes all of them or none (`DetectBase.updateFromJson_schedule`), and
the server setting, which refuses an object without its two keys.
-/

namespace DetectBase

/-- `UpdateMode`: what of a JSON array the updater is given. -/
inductive UpdateMode where
  /-- The whole array. -/
  | fullArray : UpdateMode
  /-- Its first element. -/
  | firstOnly : UpdateMode

/-- The computations of an updater over fields of type `β`. -/
abbrev UpdaterM (β : Type) := ExceptT Json.Exception (StateM β)

/-- A type of setting: its mode, the fields of a fresh object, and its updater. -/
class SettingData (β : Type) where
  /-- The mode given to the constructor of `ISettingData`. -/
  mode : UpdateMode
  /-- The member initialisers. -/
  init : β
  /-- The function given to `SetUpdater`. -/
  updater : Json → UpdaterM β Bool

/-- An object derived from `ISettingData`. -/
structure ISettingData (β : Type) where
  /-- `is_empty_`. -/
  isEmpty : Bool
  /-- The fields of the derived class. -/
  fields : β
deriving DecidableEq

namespace ISettingData

variable {β : Type} [SettingData β]

/-- A freshly constructed object. -/
def new : ISettingData β := ⟨true, SettingData.init⟩

/-- What `UpdateFromJson` hands to the updater. -/
def payload : UpdateMode → Json → Json
  | .firstOnly, .arr (x :: _) => x
  | _, j => j

/-- **`UpdateFromJson`**: the result, or the exception that leaves it, and the object
afterwards. -/
def updateFromJson (d : ISettingData β) (j : Json) :
    Except Json.Exception Bool × ISettingData β :=
  match (SettingData.updater (payload (SettingData.mode β) j)).run d.fields with
  | (.ok true, fields) => (.ok true, ⟨false, fields⟩)
  | (r, fields) => (r, ⟨d.isEmpty, fields⟩)

end ISettingData

/-- Read a field, or leave with the exception. -/
def readField {α β : Type} (r : Except Json.Exception α) : UpdaterM β α := ExceptT.mk (pure r)

/-! ### Exclusion of a camera -/

/-- The fields of `ExcludeCamSettingData`. -/
structure ExcludeCam where
  /-- `is_exclude`. -/
  isExclude : Bool
deriving DecidableEq

/-- `Impl_ExcludeCamSettingData_UpdateFromJsonObject`. -/
def updateExcludeCam (j : Json) : UpdaterM ExcludeCam Bool := do
  set (ExcludeCam.mk (!j.isEmpty))
  return true

instance : SettingData ExcludeCam where
  mode := .firstOnly
  init := ⟨false⟩
  updater := updateExcludeCam

/-- `ExcludeCamSettingData`. -/
abbrev ExcludeCamSettingData := ISettingData ExcludeCam

/-- **An exclusion setting is never refused**: it says whether the payload was empty. -/
theorem updateFromJson_excludeCam (d : ExcludeCamSettingData) (j : Json) :
    d.updateFromJson j =
      (.ok true, ⟨false, ⟨!(ISettingData.payload .firstOnly j).isEmpty⟩⟩) := rfl

/-! ### Schedules -/

/-- `ROI_OnePoint<float>`. -/
abbrev RoiPoint := Single × Single

/-- `ROI_OneArea<float>`. -/
abbrev RoiArea := List RoiPoint

/-- `ROI<float>`. -/
abbrev Roi := List RoiArea

/-- `AbnormalEventScheduleInfo`. Enumerations are held as the integers they are read from. -/
structure AbnormalEventScheduleInfo where
  /-- `schedule_id`. -/
  scheduleId : ℤ
  /-- `event_code`. -/
  eventCode : ℤ
  /-- `level_code`. -/
  levelCode : ℤ
  /-- `start_time`. -/
  startTime : String
  /-- `range_minutes`. -/
  rangeMinutes : ℤ
  /-- `weekly`, from Sunday on. -/
  weekly : List ℤ
  /-- `roi`. -/
  roi : Roi
  /-- `exclude_roi`. -/
  excludeRoi : Roi
  /-- `two_way_roi`. -/
  twoWayRoi : Roi
  /-- `one_way_roi`. -/
  oneWayRoi : Roi
  /-- `black_list_days`. -/
  blackListDays : List String
  /-- `notification_min_interval_sec`. -/
  notificationMinIntervalSec : ℤ
  /-- `loitering_require_dur_sec`. -/
  loiteringRequireDurSec : ℤ
deriving DecidableEq

/-- The field of `ScheduleSettingData`. -/
structure Schedules where
  /-- `schedules`. -/
  schedules : List AbnormalEventScheduleInfo
deriving DecidableEq

/-- A coordinate: a number read as `float`. -/
def readCoordinate (j : Json) : Option Single :=
  if j.isNumber then j.getFloat.toOption else none

/-- A point: an array of at least two elements, the first two of them numbers. -/
def readPoint : Json → Option RoiPoint
  | .arr (x :: y :: _) => do return (← readCoordinate x, ← readCoordinate y)
  | _ => none

/-- An area: an array with at least one point in it. -/
def readArea : Json → Option RoiArea
  | .arr coords =>
    match coords.filterMap readPoint with
    | [] => none
    | area => some area
  | _ => none

/-- One element of `Roi`, added to the areas of its type. An element without an area is
skipped before its type is read. -/
def readRoi (sch : AbnormalEventScheduleInfo) (roi : Json) :
    Except Json.Exception AbnormalEventScheduleInfo :=
  match roi.member? "Points" with
  | some (.arr points) =>
    match points.filterMap readArea with
    | [] => .ok sch
    | rois => do
      let typeCode ← roi.value Json.getEnum "TypeCode" 1
      return if typeCode = 1 then { sch with roi := sch.roi ++ rois }
        else if typeCode = 2 then { sch with excludeRoi := sch.excludeRoi ++ rois }
        else if typeCode = 3 then { sch with twoWayRoi := sch.twoWayRoi ++ rois }
        else if typeCode = 4 then { sch with oneWayRoi := sch.oneWayRoi ++ rois }
        else sch
  | _ => .ok sch

/-- The area that stands for the whole picture. -/
def wholeArea : RoiArea :=
  let zero := ofInt binary32 0
  let one := ofInt binary32 1
  [(zero, zero), (zero, one), (one, one), (one, zero)]

/-- `weekly`: the integers of an array, or every day. -/
def readWeekly (time : Json) : List ℤ :=
  match time.member? "Weekly" with
  | some (.arr days) =>
    days.filterMap fun day => if day.isNumberInteger then day.getInt.toOption else none
  | _ => List.replicate 7 1

/-- `black_list_days`: the strings of `BlackList.Data`. -/
def readBlackList (data : Json) : List String :=
  match (data.member? "BlackList").bind (·.member? "Data") with
  | some (.arr dates) => dates.filterMap fun date => date.getString.toOption
  | _ => []

/-- `NotificationDelaySec` and `LoiteringDurationSec` of the extra settings. -/
def readExtraSettings (rule : Json) : Except Json.Exception (ℤ × ℤ) :=
  match rule.member? "ExtraSettings" with
  | some extra => do
    let interval ← extra.value Json.getInt "NotificationDelaySec" 60
    let loitering ← extra.value Json.getInt "LoiteringDurationSec" 60
    return (interval, loitering)
  | none => .ok (60, 60)

/-- One schedule. `none` is an element that is skipped for want of a required member. -/
def readSchedule (obj : Json) :
    Except Json.Exception (Option AbnormalEventScheduleInfo) :=
  match obj.member? "Id", obj.member? "Data" with
  | some (.int id), some (.obj data) =>
    match (Json.obj data).member? "Rule" with
    | some (.obj rule) =>
      match (Json.obj rule).member? "EventCode", (Json.obj rule).member? "LevelCode",
        (Json.obj rule).member? "TimeRange" with
      | some (.int event), some (.int level), some (.obj time) => do
        let startTime ← (Json.obj time).value Json.getString "Start" "00:00"
        let rangeMinutes ← (Json.obj time).value Json.getInt "Range" 1440
        let sch : AbnormalEventScheduleInfo :=
          { scheduleId := id.bmod (2 ^ 32), eventCode := event.bmod (2 ^ 32),
            levelCode := level.bmod (2 ^ 32), startTime, rangeMinutes,
            weekly := readWeekly (.obj time), roi := [], excludeRoi := [], twoWayRoi := [],
            oneWayRoi := [], blackListDays := [], notificationMinIntervalSec := 0,
            loiteringRequireDurSec := 0 }
        let rois := match (Json.obj data).member? "Roi" with
          | some (.arr rois) => rois
          | _ => []
        let sch ← rois.foldlM readRoi sch
        let (interval, loitering) ← readExtraSettings (.obj rule)
        return some
          { sch with
            -- without an area of its own the schedule is for the whole picture
            roi := if sch.roi = [] then [wholeArea] else sch.roi
            blackListDays := readBlackList (.obj data)
            notificationMinIntervalSec := if interval < 1 then 60 else interval
            loiteringRequireDurSec := loitering }
      | _, _, _ => .ok none
    | _ => .ok none
  | _, _ => .ok none

/-- `Impl_ScheduleSettingData_UpdateFromJsonArray`. An empty array deletes every schedule; the
schedules read from any other array replace the old ones once all of them are read. -/
def updateSchedule : Json → UpdaterM Schedules Bool
  | .arr objs => do
    let schedules ← readField (objs.mapM readSchedule)
    set (Schedules.mk (schedules.filterMap id))
    return true
  | _ => return false

instance : SettingData Schedules where
  mode := .fullArray
  init := ⟨[]⟩
  updater := updateSchedule

/-- `ScheduleSettingData`. -/
abbrev ScheduleSettingData := ISettingData Schedules

/-- **What an update does to the schedules of a camera**: an array replaces all of them or
throws, anything else is refused, and then nothing changes. -/
theorem updateFromJson_schedule (d : ScheduleSettingData) (j : Json) :
    d.updateFromJson j =
      match j with
      | .arr objs =>
        match objs.mapM readSchedule with
        | .ok schedules => (.ok true, ⟨false, ⟨schedules.filterMap id⟩⟩)
        | .error e => (.error e, d)
      | _ => (.ok false, d) := by
  cases j with
  | arr objs =>
    cases h : objs.mapM readSchedule with
    | ok schedules =>
      simp [ISettingData.updateFromJson, ISettingData.payload, SettingData.updater,
        SettingData.mode, updateSchedule, readField, h]
      rfl
    | error e =>
      simp [ISettingData.updateFromJson, ISettingData.payload, SettingData.updater,
        SettingData.mode, updateSchedule, readField, h]
      rfl
  | null | bool | int | float | str | obj => rfl

/-- An update that throws leaves the schedules alone. -/
theorem updateFromJson_schedule_throw (d : ScheduleSettingData) (j : Json) (e : Json.Exception)
    (h : (d.updateFromJson j).1 = .error e) : (d.updateFromJson j).2 = d := by
  rw [updateFromJson_schedule] at h ⊢
  cases j with
  | arr objs =>
    dsimp only at h ⊢
    cases hread : objs.mapM readSchedule with
    | ok schedules =>
      rw [hread] at h
      cases h
    | error e => rfl
  | null | bool | int | float | str | obj => cases h

/-! ### The server setting -/

/-- The fields of `ServerSettingData`. -/
structure ServerFields where
  /-- `service_server_id`. -/
  serviceServerId : ℤ
  /-- `inference_per_cams_fps_limit`. -/
  inferencePerCamsFpsLimit : ℤ
  /-- `tracking_memory_object_limit`. -/
  trackingMemoryObjectLimit : ℤ
  /-- `rtsp_proxies_sync_delay_ms`. -/
  rtspProxiesSyncDelayMs : ℤ
  /-- `rtsp_proxy_publish_port`. -/
  rtspProxyPublishPort : ℤ
  /-- `full_image_save_root_path`. -/
  fullImageSaveRootPath : String
  /-- `crop_image_save_root_path`. -/
  cropImageSaveRootPath : String
deriving DecidableEq

/-- `Impl_ServerSettingData_UpdateFromJsonObject`. -/
def updateServer (j : Json) : UpdaterM ServerFields Bool := do
  match j.member? "Id", j.member? "Setting" with
  | some _, some setting =>
    -- every field is assigned before the next one is read: an exception leaves the earlier ones
    let js := if setting = .null then Json.object else setting
    let id ← readField (j.value Json.getInt "Id" 0)
    modify ({ · with serviceServerId := id })
    let fps ← readField (js.value Json.getInt "InferencePerCamsFpsLimit" 30)
    modify ({ · with inferencePerCamsFpsLimit := fps })
    let limit ← readField (js.value Json.getInt "TrackingMemoryObjectLimit" 200)
    modify ({ · with trackingMemoryObjectLimit := limit })
    let delay ← readField (js.value Json.getInt "RtspProxiesSyncDelayMs" 100)
    modify ({ · with rtspProxiesSyncDelayMs := delay })
    let port ← readField (js.value Json.getInt "RtspPort" 555)
    modify ({ · with rtspProxyPublishPort := port })
    let full ← readField (js.value Json.getString "FullImageSaveRootPath" "/frame")
    modify ({ · with fullImageSaveRootPath := full })
    let crop ← readField (js.value Json.getString "CropImageSaveRootPath" "/crop")
    modify ({ · with cropImageSaveRootPath := crop })
    -- the key of earlier versions
    if !js.contains "InferencePerCamsFpsLimit" && js.contains "DetectFps" then
      let fps ← readField (js.value Json.getInt "DetectFps" 30)
      modify ({ · with inferencePerCamsFpsLimit := fps })
    return true
  | _, _ => return false

instance : SettingData ServerFields where
  mode := .firstOnly
  init :=
    { serviceServerId := 0, inferencePerCamsFpsLimit := 30, trackingMemoryObjectLimit := 200,
      rtspProxiesSyncDelayMs := 100, rtspProxyPublishPort := 555,
      fullImageSaveRootPath := "/frame", cropImageSaveRootPath := "/crop" }
  updater := updateServer

/-- `ServerSettingData`. -/
abbrev ServerSettingData := ISettingData ServerFields

end DetectBase
