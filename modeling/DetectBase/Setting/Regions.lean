import DetectBase.Foundations.Reads
import DetectBase.Setting.Data

/-!
# The regions of a schedule

The areas and lines of a schedule come as arrays in arrays, of which the parser skips whatever is
not of the right kind: a point that does not begin with two numbers, an area without a point, an
element without an area. What is left are the pairs of numbers, in the order in which they stand in
the JSON value (`DetectBase.pairsOfSchedule`), and the regions of the schedule are these pairs read
as `float`, for each of the four types on its own (`DetectBase.regions_of_readSchedule`).

Only a schedule that would have no area at all is given one, the whole picture.
-/

namespace DetectBase

/-- `RoiType`. -/
inductive RoiType where
  /-- An area that an object has to be in. -/
  | includeArea : RoiType
  /-- An area that it must not be in. -/
  | excludeArea : RoiType
  /-- A line that is crossed in both directions. -/
  | twoWayLine : RoiType
  /-- A line that is crossed in one direction. -/
  | oneWayLine : RoiType
deriving DecidableEq

/-- The value of the enumerator. -/
def RoiType.code : RoiType → ℤ
  | .includeArea => 1
  | .excludeArea => 2
  | .twoWayLine => 3
  | .oneWayLine => 4

/-- The regions of a schedule that are of the given type. -/
def AbnormalEventScheduleInfo.regions (sch : AbnormalEventScheduleInfo) : RoiType → Roi
  | .includeArea => sch.roi
  | .excludeArea => sch.excludeRoi
  | .twoWayLine => sch.twoWayRoi
  | .oneWayLine => sch.oneWayRoi

/-! ### The pairs of numbers in a JSON value -/

/-- The two numbers that an array begins with. -/
def numberPair : Json → Option (Json × Json)
  | .arr (x :: y :: _) => if x.isNumber && y.isNumber then some (x, y) else none
  | _ => none

/-- The pairs of numbers of an area. -/
def pairsOfArea : Json → List (Json × Json)
  | .arr coords => coords.filterMap numberPair
  | _ => []

/-- The areas of an element of `Roi` with a pair of numbers, if the element is of the given type. -/
def pairsOfRoi (type : RoiType) (roi : Json) : List (List (Json × Json)) :=
  match roi.member? "Points" with
  | some (.arr points) =>
    if (roi.value Json.getEnum "TypeCode" 1).toOption = some type.code then
      (points.map pairsOfArea).filter (· ≠ [])
    else []
  | _ => []

/-- The elements of `Roi`. -/
def roisOf (obj : Json) : List Json :=
  match (obj.member? "Data").bind (·.member? "Roi") with
  | some (.arr rois) => rois
  | _ => []

/-- **The regions of a schedule in its JSON value**, for a type. -/
def pairsOfSchedule (type : RoiType) (obj : Json) : List (List (Json × Json)) :=
  (roisOf obj).flatMap (pairsOfRoi type)

theorem pairsOfRoi_of_points {type : RoiType} {roi : Json} {points : List Json}
    (h : roi.member? "Points" = some (.arr points)) :
    pairsOfRoi type roi = if (roi.value Json.getEnum "TypeCode" 1).toOption = some type.code then
      (points.map pairsOfArea).filter (· ≠ []) else [] := by
  rw [pairsOfRoi, h]

theorem pairsOfRoi_of_noPoints {type : RoiType} {roi : Json}
    (h : ∀ points, roi.member? "Points" ≠ some (.arr points)) : pairsOfRoi type roi = [] := by
  rw [pairsOfRoi.eq_def]
  split
  · next points hpoints => exact absurd hpoints (h points)
  · rfl

theorem ne_nil_of_mem_pairsOfRoi {type : RoiType} {roi : Json} {pairs : List (Json × Json)}
    (h : pairs ∈ pairsOfRoi type roi) : pairs ≠ [] := by
  by_cases hpoints : ∃ points, roi.member? "Points" = some (.arr points)
  · obtain ⟨points, hpoints⟩ := hpoints
    rw [pairsOfRoi_of_points hpoints] at h
    split_ifs at h
    · exact of_decide_eq_true (List.mem_filter.mp h).2
    · cases h
  · rw [pairsOfRoi_of_noPoints (not_exists.mp hpoints)] at h
    cases h

theorem ne_nil_of_mem_pairsOfSchedule {type : RoiType} {obj : Json} {pairs : List (Json × Json)}
    (h : pairs ∈ pairsOfSchedule type obj) : pairs ≠ [] := by
  obtain ⟨roi, -, hpairs⟩ := List.mem_flatMap.mp h
  exact ne_nil_of_mem_pairsOfRoi hpairs

/-! ### Reading them -/

/-- A number as `float`. -/
def Json.toSingle (j : Json) : Single := j.getFloat.toOption.getD (Extended.zero binary32)

/-- Pairs of numbers as points. -/
def readPairs (pairs : List (Json × Json)) : RoiArea :=
  pairs.map (Prod.map Json.toSingle Json.toSingle)

theorem Json.reads_getFloat {j : Json} (h : j.isNumber = true) : Reads j.getFloat := by
  cases j with
  | int n => exact reads_ok _
  | float x => exact reads_ok _
  | null | bool | str | arr | obj => cases h

theorem readCoordinate_eq (j : Json) :
    readCoordinate j = if j.isNumber then some j.toSingle else none := by
  rw [readCoordinate]
  split_ifs with hnumber
  · obtain ⟨x, hx⟩ := Json.reads_getFloat hnumber
    rw [Json.toSingle, hx]
    rfl
  · rfl

theorem readPoint_eq : ∀ j : Json,
    readPoint j = (numberPair j).map (Prod.map Json.toSingle Json.toSingle)
  | .arr (x :: y :: _) => by
    rw [readPoint, numberPair, readCoordinate_eq, readCoordinate_eq]
    cases x.isNumber <;> cases y.isNumber <;> rfl
  | .arr [] | .arr [_] | .null | .bool _ | .int _ | .float _ | .str _ | .obj _ => rfl

theorem readArea_eq (j : Json) :
    readArea j = if pairsOfArea j = [] then none else some (readPairs (pairsOfArea j)) := by
  cases j with
  | arr coords =>
    have hread : coords.filterMap readPoint = readPairs (coords.filterMap numberPair) := by
      rw [readPairs, List.map_filterMap]
      exact List.filterMap_congr fun j _ => readPoint_eq j
    rw [readArea, pairsOfArea, hread]
    cases coords.filterMap numberPair with
    | nil => rfl
    | cons pair pairs => rfl
  | null | bool | int | float | str | obj => rfl

theorem filterMap_readArea (points : List Json) :
    points.filterMap readArea = ((points.map pairsOfArea).filter (· ≠ [])).map readPairs := by
  induction points with
  | nil => rfl
  | cons area points ih =>
    rw [List.filterMap_cons, readArea_eq, List.map_cons, List.filter_cons, ih]
    split_ifs with hnil hne hne
    · simp [hnil] at hne
    · rfl
    · rfl
    · simp [hnil] at hne

/-- **One element of `Roi`** adds its areas to those of its type. -/
theorem regions_of_readRoi {sch sch' : AbnormalEventScheduleInfo} {roi : Json}
    (h : readRoi sch roi = .ok sch') (type : RoiType) :
    sch'.regions type = sch.regions type ++ (pairsOfRoi type roi).map readPairs := by
  rw [readRoi] at h
  split at h
  · next points hpoints =>
    rw [filterMap_readArea] at h
    rw [pairsOfRoi_of_points hpoints]
    split at h
    · next hnil =>
      -- without an area the type is not read
      cases h
      rw [List.map_eq_nil_iff.mp hnil, ite_self, List.map_nil, List.append_nil]
    · obtain ⟨code, hcode, h⟩ := exists_of_bind_eq_ok h
      have htype : (Except.ok code : Except Json.Exception ℤ).toOption = some type.code ↔
          code = type.code := Option.some_inj
      rw [hcode, if_congr htype rfl rfl]
      cases h
      by_cases hsame : code = type.code
      · subst hsame
        rw [if_pos rfl]
        cases type <;> rfl
      · rw [if_neg hsame, List.map_nil, List.append_nil]
        -- another list has grown, or none
        cases type with
        | includeArea | excludeArea | twoWayLine | oneWayLine =>
          split_ifs <;> first | rfl | exact absurd ‹_› hsame
  · next hnone =>
    cases h
    rw [pairsOfRoi_of_noPoints hnone, List.map_nil, List.append_nil]

/-- The loop over `Roi`. -/
theorem regions_of_foldlM {rois : List Json} (type : RoiType) :
    ∀ {sch sch' : AbnormalEventScheduleInfo}, rois.foldlM readRoi sch = .ok sch' →
      sch'.regions type =
        sch.regions type ++ (rois.flatMap (pairsOfRoi type)).map readPairs := by
  induction rois with
  | nil =>
    rintro sch sch' ⟨⟩
    exact (List.append_nil _).symm
  | cons roi rois ih =>
    rintro sch sch' h
    rw [List.foldlM_cons] at h
    obtain ⟨sch₁, hroi, hrois⟩ := exists_of_bind_eq_ok h
    rw [ih hrois, regions_of_readRoi hroi, List.flatMap_cons, List.map_append, List.append_assoc]

/-- **What a schedule that is read is made of**: the loop over `Roi`, and fields that have nothing
to do with it. -/
theorem exists_of_readSchedule {obj : Json} {info : AbnormalEventScheduleInfo}
    (h : readSchedule obj = .ok (some info)) :
    ∃ (start sch : AbnormalEventScheduleInfo) (interval loitering : ℤ) (days : List String),
      (∀ type, start.regions type = []) ∧ (roisOf obj).foldlM readRoi start = .ok sch ∧
      info = { sch with
        roi := if sch.roi = [] then [wholeArea] else sch.roi
        blackListDays := days
        notificationMinIntervalSec := if interval < 1 then 60 else interval
        loiteringRequireDurSec := loitering } := by
  rw [readSchedule] at h
  split at h
  · next id data hid hdata =>
    split at h
    · split at h
      · obtain ⟨startTime, -, h⟩ := exists_of_bind_eq_ok h
        obtain ⟨rangeMinutes, -, h⟩ := exists_of_bind_eq_ok h
        obtain ⟨sch, hfold, h⟩ := exists_of_bind_eq_ok h
        obtain ⟨⟨interval, loitering⟩, -, h⟩ := exists_of_bind_eq_ok h
        cases h
        have hrois : roisOf obj = match (Json.obj data).member? "Roi" with
            | some (.arr rois) => rois
            | _ => [] := by
          rw [roisOf, hdata]
          rfl
        refine ⟨_, sch, interval, loitering, _, ?_,
          (congrArg (List.foldlM readRoi _) hrois).trans hfold, rfl⟩
        rintro type
        cases type <;> rfl
      · cases h
    · cases h
  · cases h

/-- **The regions of a schedule are the pairs of numbers in its JSON value**, read as `float`; an
area for the whole picture stands in for areas when there is none. -/
theorem regions_of_readSchedule {obj : Json} {info : AbnormalEventScheduleInfo}
    (h : readSchedule obj = .ok (some info)) (type : RoiType) :
    info.regions type =
      if type = .includeArea ∧ pairsOfSchedule type obj = [] then [wholeArea]
      else (pairsOfSchedule type obj).map readPairs := by
  obtain ⟨start, sch, interval, loitering, days, hstart, hfold, rfl⟩ := exists_of_readSchedule h
  have hregions : sch.regions type = (pairsOfSchedule type obj).map readPairs := by
    rw [regions_of_foldlM type hfold, hstart, List.nil_append]
    rfl
  cases type with
  | includeArea =>
    rw [AbnormalEventScheduleInfo.regions] at hregions ⊢
    simp only [hregions, List.map_eq_nil_iff, true_and]
  | excludeArea | twoWayLine | oneWayLine =>
    exact hregions.trans (if_neg (by rintro ⟨⟨⟩, -⟩)).symm

end DetectBase
