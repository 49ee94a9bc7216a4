import DetectBase.Abnormal.Schedule
import DetectBase.Foundations.Rounding
import DetectBase.Setting.ScheduleParsing
import Mathlib.Data.Rat.Floor

/-!
# Regions in pixels

What becomes of the regions in a JSON value on their way to the checks: the parser reads them as
fractions of a frame, whatever the numbers are, and `MakeCvScaledRoiFromScheduleRoi` scales them to
the frame and cuts them to it. The polygons and lines that it makes are in the frame, none of them
is empty, and their points are those of the JSON value
(`DetectBase.Abnormal.makeCvScaledRoiExact_spec`).
-/

namespace DetectBase.Abnormal

/-! ### Exact arithmetic -/

/-- A coordinate of a region in pixels, in exact arithmetic. -/
def scaleCoordinateExact (frame : ℤ) : Single → ℤ
  | .finite ratio => clamp 0 (roundHalfAway (frame * ratio.value)) frame
  -- the limit for large numbers
  | .infinite neg => if neg then 0 else frame

/-- `MakeCvScaledRoiFromScheduleRoi`, with the given way to scale a coordinate. -/
def makeCvScaledRoiBy (scale : ℤ → Single → ℤ) (rois : Roi) (frameW frameH : ℤ) :
    List (List Point) :=
  rois.map fun roiPoints => roiPoints.map fun ratio => ⟨scale frameW ratio.1, scale frameH ratio.2⟩

theorem makeCvScaledRoiFromScheduleRoi_eq :
    makeCvScaledRoiFromScheduleRoi = makeCvScaledRoiBy scaleCoordinate := rfl

/-- `MakeCvScaledRoiFromScheduleRoi`, in exact arithmetic. -/
def makeCvScaledRoiExact : Roi → ℤ → ℤ → List (List Point) :=
  makeCvScaledRoiBy scaleCoordinateExact

/-! ### Staying in the frame -/

/-- A way to scale coordinates that does not leave the frame. -/
def StaysInFrame (scale : ℤ → Single → ℤ) : Prop :=
  ∀ ⦃frame : ℤ⦄, 0 ≤ frame → ∀ ratio, 0 ≤ scale frame ratio ∧ scale frame ratio ≤ frame

theorem clamp_mem {frame : ℤ} (h : 0 ≤ frame) (value : ℤ) :
    0 ≤ clamp 0 value frame ∧ clamp 0 value frame ≤ frame :=
  ⟨le_min (le_max_right _ _) h, min_le_right _ _⟩

theorem staysInFrame_scaleCoordinate : StaysInFrame scaleCoordinate :=
  fun _ h _ => clamp_mem h _

theorem staysInFrame_scaleCoordinateExact : StaysInFrame scaleCoordinateExact := by
  rintro frame h (ratio | neg)
  · exact clamp_mem h _
  · rw [scaleCoordinateExact]
    split_ifs
    · exact ⟨le_rfl, h⟩
    · exact ⟨h, le_rfl⟩

/-- **A polygon or line in the frame.** -/
structure InFrame (polygon : List Point) (frameW frameH : ℤ) : Prop where
  /-- It is not empty. -/
  ne_nil : polygon ≠ []
  /-- Its columns. -/
  x : ∀ vertex ∈ polygon, 0 ≤ vertex.x ∧ vertex.x ≤ frameW
  /-- Its rows. -/
  y : ∀ vertex ∈ polygon, 0 ≤ vertex.y ∧ vertex.y ≤ frameH

theorem inFrame_makeCvScaledRoiBy {scale : ℤ → Single → ℤ} (hscale : StaysInFrame scale)
    {rois : Roi} (hrois : ∀ area ∈ rois, area ≠ []) {frameW frameH : ℤ} (hw : 0 ≤ frameW)
    (hh : 0 ≤ frameH) :
    ∀ polygon ∈ makeCvScaledRoiBy scale rois frameW frameH, InFrame polygon frameW frameH := by
  rintro polygon hpolygon
  obtain ⟨area, harea, rfl⟩ := List.mem_map.mp hpolygon
  refine ⟨?_, ?_, ?_⟩
  · rw [ne_eq, List.map_eq_nil_iff]
    exact hrois area harea
  · rintro vertex hvertex
    obtain ⟨ratio, -, rfl⟩ := List.mem_map.mp hvertex
    exact hscale hw ratio.1
  · rintro vertex hvertex
    obtain ⟨ratio, -, rfl⟩ := List.mem_map.mp hvertex
    exact hscale hh ratio.2

/-- The regions that are made of the settings of a schedule, in `float`, are in the frame too. -/
theorem inFrame_makeCvScaledRoiFromScheduleRoi {obj : Json} {info : AbnormalEventScheduleInfo}
    (h : readSchedule obj = .ok (some info)) (type : RoiType) {frameW frameH : ℤ} (hw : 0 ≤ frameW)
    (hh : 0 ≤ frameH) :
    ∀ polygon ∈ makeCvScaledRoiFromScheduleRoi (info.regions type) frameW frameH,
      InFrame polygon frameW frameH := by
  rw [makeCvScaledRoiFromScheduleRoi_eq]
  exact inFrame_makeCvScaledRoiBy staysInFrame_scaleCoordinate (ne_nil_of_mem_regions h type) hw hh

/-! ### The points of the JSON value -/

/-- The vertex for a pair of numbers, in exact arithmetic. -/
def vertexExact (frameW frameH : ℤ) (pair : Json × Json) : Point :=
  ⟨scaleCoordinateExact frameW pair.1.toSingle, scaleCoordinateExact frameH pair.2.toSingle⟩

/-- The corners of the frame. -/
def corners (frameW frameH : ℤ) : List Point := [⟨0, 0⟩, ⟨0, frameH⟩, ⟨frameW, frameH⟩, ⟨frameW, 0⟩]

theorem scaleCoordinateExact_zero {frame : ℤ} (h : 0 ≤ frame) :
    scaleCoordinateExact frame (ofInt binary32 0) = 0 := by
  have hrep : binary32.Representable ((0 : ℤ).natAbs * 2 ^ binary32.scale) :=
    ⟨0, binary32.scale, by simp, rfl, by simp⟩
  obtain ⟨x, hx, hvalue⟩ := ofInt_exact hrep
  rw [hx, scaleCoordinateExact, hvalue, Int.cast_zero, mul_zero, roundHalfAway_zero, clamp,
    max_self, min_eq_left h]

theorem scaleCoordinateExact_one {frame : ℤ} (h : 0 ≤ frame) :
    scaleCoordinateExact frame (ofInt binary32 1) = frame := by
  have hrep : binary32.Representable ((1 : ℤ).natAbs * 2 ^ binary32.scale) :=
    ⟨1, binary32.scale, Nat.one_lt_two_pow (by decide), rfl,
      (Nat.one_mul _).trans_lt (Nat.pow_lt_pow_right (by decide) (by decide))⟩
  obtain ⟨x, hx, hvalue⟩ := ofInt_exact hrep
  rw [hx, scaleCoordinateExact, hvalue, Int.cast_one, mul_one, roundHalfAway_intCast, clamp,
    max_eq_left h, min_self]

theorem makeCvScaledRoiExact_wholeArea {frameW frameH : ℤ} (hw : 0 ≤ frameW) (hh : 0 ≤ frameH) :
    makeCvScaledRoiExact [wholeArea] frameW frameH = [corners frameW frameH] := by
  simp only [makeCvScaledRoiExact, makeCvScaledRoiBy, wholeArea, corners, List.map_cons,
    List.map_nil, scaleCoordinateExact_zero hw, scaleCoordinateExact_zero hh,
    scaleCoordinateExact_one hw, scaleCoordinateExact_one hh]

/-- Every schedule that an accepted array leaves has been read from an element of the array. -/
theorem exists_of_mem_schedules {d : ScheduleSettingData} {objs : List Json}
    (haccepted : (d.updateFromJson (.arr objs)).1 = .ok true) {info : AbnormalEventScheduleInfo}
    (hinfo : info ∈ (d.updateFromJson (.arr objs)).2.fields.schedules) :
    ∃ obj ∈ objs, readSchedule obj = .ok (some info) := by
  rw [updateFromJson_schedule] at haccepted hinfo
  dsimp only at haccepted hinfo
  cases hread : objs.mapM readSchedule with
  | error e =>
    rw [hread] at haccepted
    cases haccepted
  | ok schedules =>
    rw [hread] at hinfo
    dsimp only at hinfo
    rw [filterMap_of_mapM_eq_ok hread] at hinfo
    obtain ⟨obj, hobj, hjoin⟩ := List.mem_filterMap.mp hinfo
    refine ⟨obj, hobj, ?_⟩
    cases hparsed : readSchedule obj with
    | error e =>
      rw [hparsed] at hjoin
      cases hjoin
    | ok parsed =>
      rw [hparsed] at hjoin
      exact congrArg Except.ok hjoin

/-- **The regions of a schedule in the frame**: the polygons and lines that are made of the
schedules of an accepted array are in the frame, none of them is empty, and their vertices are the
pairs of numbers of the JSON value, in their order. Without an area in the JSON value, there is one
of the corners of the frame. -/
theorem makeCvScaledRoiExact_spec (d : ScheduleSettingData) (objs : List Json)
    (haccepted : (d.updateFromJson (.arr objs)).1 = .ok true) {info : AbnormalEventScheduleInfo}
    (hinfo : info ∈ (d.updateFromJson (.arr objs)).2.fields.schedules) {frameW frameH : ℤ}
    (hw : 0 < frameW) (hh : 0 < frameH) (type : RoiType) :
    (∀ polygon ∈ makeCvScaledRoiExact (info.regions type) frameW frameH,
      InFrame polygon frameW frameH) ∧
    ∃ obj ∈ objs, readSchedule obj = .ok (some info) ∧
      makeCvScaledRoiExact (info.regions type) frameW frameH =
        if type = .includeArea ∧ pairsOfSchedule type obj = [] then [corners frameW frameH]
        else (pairsOfSchedule type obj).map fun pairs => pairs.map (vertexExact frameW frameH) := by
  obtain ⟨obj, hobj, hread⟩ := exists_of_mem_schedules haccepted hinfo
  refine ⟨inFrame_makeCvScaledRoiBy staysInFrame_scaleCoordinateExact
    (ne_nil_of_mem_regions hread type) hw.le hh.le, obj, hobj, hread, ?_⟩
  rw [regions_of_readSchedule hread]
  split_ifs
  · exact makeCvScaledRoiExact_wholeArea hw.le hh.le
  · rw [makeCvScaledRoiExact, makeCvScaledRoiBy, List.map_map]
    refine List.map_congr_left fun pairs _ => ?_
    rw [Function.comp_apply, readPairs, List.map_map]
    rfl

/-- A schedule with one line, in an array with other values. -/
def elementWithLine : Json :=
  .obj [
    ("Data", .obj [
      ("Roi", .arr [.obj [
        ("Points", .arr [.arr [.arr [.int 0, .int (-1)], .str "", .arr [.int 2, .int 1, .int 5]]]),
        ("TypeCode", .int 3)]]),
      ("Rule", .obj [
        ("EventCode", .int 203), ("LevelCode", .int 1), ("TimeRange", .obj [])])]),
    ("Id", .int 1)]

/-- Its line has two vertices in the frame. -/
theorem makeCvScaledRoiExact_spec_line :
    ∃ info, readSchedule elementWithLine = .ok (some info) ∧
      ∃ polygon, makeCvScaledRoiExact (info.regions .twoWayLine) 1920 1080 = [polygon] ∧
        polygon.length = 2 ∧ InFrame polygon 1920 1080 := by
  refine ⟨_, rfl, _, rfl, rfl, ?_⟩
  exact (makeCvScaledRoiExact_spec ISettingData.new [elementWithLine] rfl List.mem_cons_self
    (by decide) (by decide) .twoWayLine).1 _ List.mem_cons_self

/-- **A schedule without an area has one nevertheless**, of four vertices. -/
theorem not_makeCvScaledRoiExact_vertices :
    ¬ ∀ (d : ScheduleSettingData) (objs : List Json),
      (d.updateFromJson (.arr objs)).1 = .ok true →
      ∀ info ∈ (d.updateFromJson (.arr objs)).2.fields.schedules, ∀ frameW frameH : ℤ,
        0 < frameW → 0 < frameH → ∀ type : RoiType,
          (∀ polygon ∈ makeCvScaledRoiExact (info.regions type) frameW frameH,
            InFrame polygon frameW frameH) ∧
          ∃ obj ∈ objs, readSchedule obj = .ok (some info) ∧
            (makeCvScaledRoiExact (info.regions type) frameW frameH).map List.length =
              (pairsOfSchedule type obj).map List.length := by
  intro hall
  obtain ⟨-, obj, hobj, -, hlengths⟩ := hall ISettingData.new [elementWith 1 []] rfl _
    List.mem_cons_self 1920 1080 (by decide) (by decide) .includeArea
  rw [List.mem_singleton.mp hobj] at hlengths
  cases hlengths

end DetectBase.Abnormal
