import DetectBase.Foundations.Reads
import DetectBase.Setting.Data

/-!
# Parsing schedules, element by element

An array of schedules comes from outside, and nothing is known about the kinds of its values. The
updater skips an element for want of a required member and reads the rest of the fields with
`value()`, which throws when the kind is wrong; one such field discards every schedule of the
array.

`DetectBase.ScheduleFits` lists the fields that are read so, under the tests that come before them.
An element fits exactly when reading it does not throw (`DetectBase.reads_readSchedule_iff`), and an
array is parsed element by element exactly when all of its elements fit
(`DetectBase.updateFromJson_schedule_itemwise_iff`).
-/

namespace DetectBase

namespace Json

/-- `is_boolean()`. -/
def isBoolean : Json → Bool
  | .bool _ => true
  | _ => false

theorem reads_getString_iff (j : Json) : Reads j.getString ↔ j.isString = true := by
  cases j <;> simp [getString, isString]

theorem reads_getInt_iff (j : Json) :
    Reads j.getInt ↔ (j.isNumber || j.isBoolean) = true := by
  cases j <;> simp [getInt, isNumber, isBoolean]

theorem reads_getEnum_iff (j : Json) : Reads j.getEnum ↔ j.isNumber = true := by
  cases j <;> simp [getEnum, isNumber]

/-- **A field of the right kind**: there is none, or its value is of the kind. -/
def FieldFits (ofKind : Json → Bool) (j : Json) (key : String) : Prop :=
  ∀ v, j.member? key = some v → ofKind v = true

/-- `value()` asked of an object. -/
theorem reads_value_iff {α : Type} {get : Json → Except Exception α} {ofKind : Json → Bool}
    (hget : ∀ v, Reads (get v) ↔ ofKind v = true) (j : Json) (key : String) (dflt : α) :
    Reads (j.value get key dflt) ↔ j.isObject = true ∧ j.FieldFits ofKind key := by
  cases j with
  | obj kvs =>
    rw [value]
    cases hlookup : kvs.lookup key with
    | none => simp [isObject, FieldFits, member?, hlookup]
    | some v => simp [isObject, FieldFits, member?, hlookup, hget]
  | null | bool | int | float | str | arr => simp [value, isObject]

end Json

/-! ### Elements that fit -/

open Json

/-- An element of `Roi` with an area in it has a number for its `TypeCode`, if it has one. -/
def RoiFits (roi : Json) : Prop :=
  ∀ points, roi.member? "Points" = some (.arr points) → points.filterMap readArea ≠ [] →
    roi.FieldFits isNumber "TypeCode"

/-- The fields of `TimeRange` are of the right kinds. -/
structure TimeRangeFits (time : Json) : Prop where
  /-- `Start` is a string. -/
  start : time.FieldFits isString "Start"
  /-- `Range` is a number, or a boolean. -/
  range : time.FieldFits (fun v => v.isNumber || v.isBoolean) "Range"

/-- The extra settings are an object, with fields of the right kinds. -/
structure ExtraSettingsFit (extra : Json) : Prop where
  /-- There are fields to be read. -/
  isObject : extra.isObject = true
  /-- `NotificationDelaySec` is a number, or a boolean. -/
  notificationDelaySec : extra.FieldFits (fun v => v.isNumber || v.isBoolean) "NotificationDelaySec"
  /-- `LoiteringDurationSec` is a number, or a boolean. -/
  loiteringDurationSec : extra.FieldFits (fun v => v.isNumber || v.isBoolean) "LoiteringDurationSec"

/-- What is read of the members `Data` and `Rule` of an element is of the right kind. -/
structure DataFits (data rule time : Json) : Prop where
  /-- The time range. -/
  timeRange : TimeRangeFits time
  /-- The areas and lines. -/
  roi : ∀ rois, data.member? "Roi" = some (.arr rois) → ∀ roi ∈ rois, RoiFits roi
  /-- The extra settings. -/
  extraSettings : ∀ extra, rule.member? "ExtraSettings" = some extra → ExtraSettingsFit extra

/-- **An element that fits**: it lacks a required member, or its fields are of the right kinds. -/
def ScheduleFits (obj : Json) : Prop :=
  ∀ id data rule event level time, obj.member? "Id" = some (.int id) →
    obj.member? "Data" = some (.obj data) → (Json.obj data).member? "Rule" = some (.obj rule) →
    (Json.obj rule).member? "EventCode" = some (.int event) →
    (Json.obj rule).member? "LevelCode" = some (.int level) →
    (Json.obj rule).member? "TimeRange" = some (.obj time) →
    DataFits (.obj data) (.obj rule) (.obj time)

/-! ### Reading an element -/

theorem reads_readRoi_iff (sch : AbnormalEventScheduleInfo) (roi : Json) :
    Reads (readRoi sch roi) ↔ RoiFits roi := by
  rw [readRoi]
  split
  · next points hpoints =>
    -- only an object has members
    have hobject : roi.isObject = true := by
      cases roi with
      | obj => rfl
      | null | bool | int | float | str | arr => cases hpoints
    split
    · next hnil =>
      refine ⟨fun _ points' hpoints' hne => absurd ?_ hne, fun _ => reads_ok sch⟩
      rw [hpoints] at hpoints'
      cases hpoints'
      exact hnil
    · next hne =>
      rw [reads_bind_iff (P := True) fun code => ⟨fun _ => trivial, fun _ => reads_pure _⟩,
        reads_value_iff reads_getEnum_iff, and_true]
      refine ⟨fun h points' _ _ => h.2, fun h => ⟨hobject, h points hpoints hne⟩⟩
  · next hnone =>
    exact ⟨fun _ points hpoints => absurd hpoints (hnone points), fun _ => reads_ok sch⟩

theorem reads_readExtraSettings_iff (rule : Json) :
    Reads (readExtraSettings rule) ↔
      ∀ extra, rule.member? "ExtraSettings" = some extra → ExtraSettingsFit extra := by
  rw [readExtraSettings]
  split
  · next extra hextra =>
    rw [reads_bind_iff fun interval => reads_bind_iff (P := True) fun loitering =>
        ⟨fun _ => trivial, fun _ => reads_pure _⟩,
      reads_value_iff reads_getInt_iff, reads_value_iff reads_getInt_iff, hextra, and_true]
    constructor
    · rintro ⟨⟨hobject, hdelay⟩, -, hloitering⟩ _ ⟨⟩
      exact ⟨hobject, hdelay, hloitering⟩
    · intro h
      obtain ⟨hobject, hdelay, hloitering⟩ := h extra rfl
      exact ⟨⟨hobject, hdelay⟩, hobject, hloitering⟩
  · next hnone =>
    refine ⟨fun _ extra hextra => ?_, fun _ => reads_ok _⟩
    rw [hnone] at hextra
    cases hextra

/-- **An element fits when reading it does not throw.** -/
theorem reads_readSchedule_iff (obj : Json) : Reads (readSchedule obj) ↔ ScheduleFits obj := by
  rw [readSchedule]
  split
  · next id data hid hdata =>
    split
    · next rule hrule =>
      split
      · next event level time hevent hlevel htime =>
        rw [reads_bind_iff fun startTime => reads_bind_iff fun rangeMinutes =>
            (reads_bind_iff fun sch => reads_bind_iff (P := True) fun extra =>
              ⟨fun _ => trivial, fun _ => reads_pure _⟩).trans
            (and_congr_left fun _ => reads_foldlM_iff reads_readRoi_iff _ _),
          reads_value_iff reads_getString_iff, reads_value_iff reads_getInt_iff,
          reads_readExtraSettings_iff, and_true]
        constructor
        · rintro ⟨⟨-, hstart⟩, ⟨-, hrange⟩, hroi, hextra⟩ id' data' rule' event' level' time' -
            hdata' hrule' - - htime'
          rw [hdata] at hdata'
          cases hdata'
          rw [hrule] at hrule'
          cases hrule'
          rw [htime] at htime'
          cases htime'
          refine ⟨⟨hstart, hrange⟩, fun rois hrois roi hmem => hroi roi ?_, hextra⟩
          rwa [hrois]
        · intro h
          obtain ⟨⟨hstart, hrange⟩, hroi, hextra⟩ :=
            h id data rule event level time hid hdata hrule hevent hlevel htime
          refine ⟨⟨rfl, hstart⟩, ⟨rfl, hrange⟩, fun roi hmem => ?_, hextra⟩
          split at hmem
          · next rois hrois => exact hroi rois hrois roi hmem
          · cases hmem
      · next hnone =>
        refine ⟨fun _ id' data' rule' event level time _ hdata' hrule' hevent hlevel htime => ?_,
          fun _ => reads_ok none⟩
        rw [hdata] at hdata'
        cases hdata'
        rw [hrule] at hrule'
        cases hrule'
        exact absurd htime (hnone event level time hevent hlevel)
    · next hnone =>
      refine ⟨fun _ id' data' rule event level time _ hdata' hrule => ?_, fun _ => reads_ok none⟩
      rw [hdata] at hdata'
      cases hdata'
      exact absurd hrule (hnone rule)
  · next hnone =>
    exact ⟨fun _ id data rule event level time hid hdata => absurd hdata (hnone id data hid),
      fun _ => reads_ok none⟩

/-! ### The array -/

/-- **What an element of the array is to become, on its own**: its schedule, or nothing when it is
not valid. -/
def parsedElement (obj : Json) : Option AbnormalEventScheduleInfo :=
  (readSchedule obj).toOption.join

/-- **An array is parsed element by element** exactly when its elements fit: the update succeeds and
leaves the schedules of the elements that have one, in their order. -/
theorem updateFromJson_schedule_itemwise_iff (d : ScheduleSettingData) (objs : List Json) :
    d.updateFromJson (.arr objs) = (.ok true, ⟨false, ⟨objs.filterMap parsedElement⟩⟩) ↔
      ∀ obj ∈ objs, ScheduleFits obj := by
  have hfits : (∀ obj ∈ objs, ScheduleFits obj) ↔ Reads (objs.mapM readSchedule) := by
    rw [reads_mapM_iff]
    exact forall₂_congr fun obj _ => (reads_readSchedule_iff obj).symm
  rw [hfits, updateFromJson_schedule]
  dsimp only
  cases hread : objs.mapM readSchedule with
  | ok schedules =>
    refine ⟨fun _ => reads_ok schedules, fun _ => ?_⟩
    dsimp only
    rw [filterMap_of_mapM_eq_ok hread]
    rfl
  | error e =>
    refine ⟨fun h => ?_, fun h => absurd h (not_reads_error e)⟩
    cases h

/-- An element with all the required members and a time range. -/
def elementWith (id : ℤ) (timeRange : List (String × Json)) : Json :=
  .obj [
    ("Data", .obj [("Rule", .obj [
      ("EventCode", .int 203), ("LevelCode", .int 1), ("TimeRange", .obj timeRange)])]),
    ("Id", .int id)]

/-- **A text for the length of the time range discards the other schedules too.** -/
theorem not_updateFromJson_schedule_itemwise :
    ¬∀ (d : ScheduleSettingData) (objs : List Json), (∀ obj ∈ objs, obj.WF) →
      d.updateFromJson (.arr objs) = (.ok true, ⟨false, ⟨objs.filterMap parsedElement⟩⟩) := by
  intro h
  have hwf : ∀ obj ∈ [elementWith 1 [("Range", .str "all day")], elementWith 2 []], obj.WF := by
    simp [elementWith, Json.WF, Json.WFMembers, -String.lt_iff_ltb, String.lt_iff_toList_lt]
    decide
  cases congrArg Prod.fst (h ISettingData.new _ hwf)

end DetectBase
