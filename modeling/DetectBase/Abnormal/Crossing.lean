import DetectBase.Abnormal.Checker
import DetectBase.Foundations.Segments
import Mathlib.Data.Real.Basic

/-!
# Crossings

What `checkLineIntersect` and `calcLineCross` find. The first is exact: it is different from
`NotCrossed` when the two closed segments have a point in common
(`DetectBase.Abnormal.checkLineIntersect_ne_iff`). The second returns the first crossing of any kind
in the order of its loops (`DetectBase.Abnormal.calcLineCross_eq`).

For lines that may be crossed in both directions the first crossing is as good as any
(`DetectBase.Abnormal.calcLineCross_ne_iff`). For lines to be crossed in one direction it is not. A
track that crosses such a line against the direction, or ends up on it, and later crosses it in the
direction is not reported (`DetectBase.Abnormal.not_reports_clockwise`): the condition under which a
crossing in the direction is reported is that no other crossing comes before it in the order of the
loops, or that a line for both directions is crossed as well
(`DetectBase.Abnormal.reports_clockwise_iff`).
-/

namespace DetectBase.Abnormal

/-! ### Crossings of two segments -/

/-- A point of the picture, in the plane. -/
def Point.toPlane (p : Point) : ℝ × ℝ := (p.x, p.y)

theorem turn_toPlane (p q r : Point) :
    turn p.toPlane q.toPlane r.toPlane = (orientationValue p q r : ℝ) := by
  simp [turn, Point.toPlane, orientationValue]

theorem turn_toPlane_eq_zero_iff {p q r : Point} :
    turn p.toPlane q.toPlane r.toPlane = 0 ↔ lineOrientation p q r = .onLine := by
  rw [turn_toPlane, Int.cast_eq_zero, lineOrientation]
  split_ifs with h0 hpos
  · exact ⟨fun _ => rfl, fun _ => h0⟩
  · exact ⟨fun h => absurd h h0, nofun⟩
  · exact ⟨fun h => absurd h h0, nofun⟩

/-- Orientations are the same when the turns go to the same side. -/
theorem lineOrientation_eq_iff {p q r p' q' r' : Point} :
    lineOrientation p q r = lineOrientation p' q' r' ↔
      SignType.sign (turn p.toPlane q.toPlane r.toPlane) =
        SignType.sign (turn p'.toPlane q'.toPlane r'.toPlane) := by
  have horient : ∀ a b c : Point, lineOrientation a b c =
      match SignType.sign (orientationValue a b c) with
      | .zero => .onLine
      | .pos => .clockwise
      | .neg => .counterClockwise := by
    intro a b c
    rw [lineOrientation]
    rcases lt_trichotomy (orientationValue a b c) 0 with h | h | h
    · rw [if_neg h.ne, if_neg h.not_gt, sign_neg h]
    · rw [if_pos h, h, sign_zero]
    · rw [if_neg h.ne', if_pos h, sign_pos h]
  rw [turn_toPlane, turn_toPlane, sign_intCast, sign_intCast, horient, horient]
  generalize SignType.sign (orientationValue p q r) = a
  generalize SignType.sign (orientationValue p' q' r') = b
  revert a b
  decide

theorem onLineSegment_iff {p q r : Point} :
    onLineSegment p q r = true ↔ InBox p.toPlane r.toPlane q.toPlane := by
  simp only [onLineSegment, InBox, Point.toPlane, Set.uIcc, Set.mem_Icc, decide_eq_true_eq,
    ge_iff_le, ← Int.cast_min, ← Int.cast_max, Int.cast_le]
  tauto

theorem lineOrientation_ne_notCrossed (p q r : Point) : lineOrientation p q r ≠ .notCrossed := by
  rw [lineOrientation]
  split_ifs <;> nofun

/-- **`checkLineIntersect` finds the segments that have a point in common.** -/
theorem checkLineIntersect_ne_iff {p₁ q₁ p₂ q₂ : Point} :
    checkLineIntersect p₁ q₁ p₂ q₂ ≠ .notCrossed ↔
      ∃ r, r ∈ segment ℝ p₁.toPlane q₁.toPlane ∧ r ∈ segment ℝ p₂.toPlane q₂.toPlane := by
  rw [segments_meet_iff, TurnsMeet]
  simp only [turn_toPlane_eq_zero_iff, ← onLineSegment_iff, ne_eq, ← lineOrientation_eq_iff]
  rw [checkLineIntersect]
  split_ifs with h h1 h2 h3 h4
  · exact ⟨fun _ => .inl h, fun _ => lineOrientation_ne_notCrossed p₂ q₂ q₁⟩
  · exact ⟨fun _ => .inr (.inl h1), fun _ => nofun⟩
  · exact ⟨fun _ => .inr (.inr (.inl h2)), fun _ => nofun⟩
  · exact ⟨fun _ => .inr (.inr (.inr (.inl h3))), fun _ => nofun⟩
  · exact ⟨fun _ => .inr (.inr (.inr (.inr h4))), fun _ => nofun⟩
  · refine ⟨fun hne => absurd rfl hne, ?_⟩
    rintro (h' | h' | h' | h' | h')
    · exact absurd h' h
    · exact absurd h' h1
    · exact absurd h' h2
    · exact absurd h' h3
    · exact absurd h' h4

/-- The orientation seen from the other side. -/
def LineOrientation.opposite : LineOrientation → LineOrientation
  | clockwise => counterClockwise
  | counterClockwise => clockwise
  | o => o

/-- Points strictly on opposite sides of a line have opposite orientations. -/
theorem lineOrientation_opposite {p q r s : Point}
    (h : turn p.toPlane q.toPlane r.toPlane * turn p.toPlane q.toPlane s.toPlane < 0) :
    lineOrientation p q s ≠ .onLine ∧ lineOrientation p q r = (lineOrientation p q s).opposite := by
  rw [turn_toPlane, turn_toPlane] at h
  have hlt : orientationValue p q r * orientationValue p q s < 0 := by exact_mod_cast h
  rw [lineOrientation, lineOrientation]
  rcases mul_neg_iff.mp hlt with ⟨hr, hs⟩ | ⟨hr, hs⟩
  · rw [if_neg hs.ne, if_neg hs.not_gt, if_neg hr.ne', if_pos hr]
    exact ⟨nofun, rfl⟩
  · rw [if_neg hs.ne', if_pos hs, if_neg hr.ne, if_neg hr.not_gt]
    exact ⟨nofun, rfl⟩

theorem LineOrientation.ne_opposite {o : LineOrientation} (honLine : o ≠ .onLine)
    (hnotCrossed : o ≠ .notCrossed) : o.opposite ≠ o := by
  cases o with
  | notCrossed => exact absurd rfl hnotCrossed
  | onLine => exact absurd rfl honLine
  | clockwise | counterClockwise => nofun

/-- Where the segments cross properly, only the general case of the test is looked at. -/
theorem checkLineIntersect_of_crossProperly {p₁ q₁ p₂ q₂ : Point}
    (h : CrossProperly p₁.toPlane q₁.toPlane p₂.toPlane q₂.toPlane) :
    checkLineIntersect p₁ q₁ p₂ q₂ = lineOrientation p₂ q₂ q₁ := by
  obtain ⟨hfirst, hfirst'⟩ := lineOrientation_opposite h.1
  obtain ⟨hsecond, hsecond'⟩ := lineOrientation_opposite h.2
  rw [checkLineIntersect, if_pos]
  constructor
  · rw [hfirst']
    exact LineOrientation.ne_opposite hfirst (lineOrientation_ne_notCrossed _ _ _)
  · rw [hsecond']
    exact LineOrientation.ne_opposite hsecond (lineOrientation_ne_notCrossed _ _ _)

/-- **The test for the intersection of segments is exact**, whatever the segments, and where they
cross properly its result says from which side the first one comes. -/
theorem checkLineIntersect_exact (p₁ q₁ p₂ q₂ : Point) :
    (checkLineIntersect p₁ q₁ p₂ q₂ ≠ .notCrossed ↔
      ∃ r, r ∈ segment ℝ p₁.toPlane q₁.toPlane ∧ r ∈ segment ℝ p₂.toPlane q₂.toPlane) ∧
    (CrossProperly p₁.toPlane q₁.toPlane p₂.toPlane q₂.toPlane →
      checkLineIntersect p₁ q₁ p₂ q₂ = lineOrientation p₂ q₂ q₁ ∧
      (checkLineIntersect p₁ q₁ p₂ q₂ = .clockwise ∧
          checkLineIntersect q₁ p₁ p₂ q₂ = .counterClockwise ∨
        checkLineIntersect p₁ q₁ p₂ q₂ = .counterClockwise ∧
          checkLineIntersect q₁ p₁ p₂ q₂ = .clockwise)) := by
  refine ⟨checkLineIntersect_ne_iff, fun h => ?_⟩
  have hresult := checkLineIntersect_of_crossProperly h
  have hswapped := checkLineIntersect_of_crossProperly h.swap
  obtain ⟨hne, hopposite⟩ := lineOrientation_opposite h.2
  refine ⟨hresult, ?_⟩
  rw [hresult, hswapped, hopposite]
  cases horientation : lineOrientation p₂ q₂ q₁ with
  | notCrossed => exact absurd horientation (lineOrientation_ne_notCrossed _ _ _)
  | onLine => exact absurd horientation hne
  | clockwise => exact .inl ⟨rfl, rfl⟩
  | counterClockwise => exact .inr ⟨rfl, rfl⟩

/-- The diagonals of a square. -/
theorem checkLineIntersect_exact_diagonals :
    checkLineIntersect ⟨0, 0⟩ ⟨2, 2⟩ ⟨0, 2⟩ ⟨2, 0⟩ = lineOrientation ⟨0, 2⟩ ⟨2, 0⟩ ⟨2, 2⟩ := by
  have h := (checkLineIntersect_exact ⟨0, 0⟩ ⟨2, 2⟩ ⟨0, 2⟩ ⟨2, 0⟩).2
    (by norm_num [CrossProperly, turn, Point.toPlane])
  exact h.1

/-! ### The first crossing -/

/-- **All that `calcLineCross` would look at**, in the order of its loops, if it did not stop. -/
def allCrosses (targetHistory : DataLayer) (targetRois : List (List Point)) :
    List LineOrientation :=
  targetRois.flatMap fun roiPoints => (consecutive roiPoints).flatMap fun line =>
    (consecutive targetHistory).map fun track =>
      checkLineIntersect (getMidPointFromInferObject track.1) (getMidPointFromInferObject track.2)
        line.1 line.2

theorem mem_allCrosses {targetHistory : DataLayer} {targetRois : List (List Point)}
    {o : LineOrientation} :
    o ∈ allCrosses targetHistory targetRois ↔
      ∃ roiPoints ∈ targetRois, ∃ line ∈ consecutive roiPoints,
        ∃ track ∈ consecutive targetHistory,
          checkLineIntersect (getMidPointFromInferObject track.1)
            (getMidPointFromInferObject track.2) line.1 line.2 = o := by
  simp only [allCrosses, List.mem_flatMap, List.mem_map]

/-- `calcLineCross` returns the first of them that is a crossing. -/
theorem calcLineCross_eq (targetHistory : DataLayer) (targetRois : List (List Point)) :
    calcLineCross targetHistory targetRois =
      ((allCrosses targetHistory targetRois).find? (· ≠ .notCrossed)).getD .notCrossed := by
  have hinner : ∀ line : Point × Point, ∀ tracks : List (InferObject × InferObject),
      (tracks.findSome? fun track =>
        if checkLineIntersect (getMidPointFromInferObject track.1)
            (getMidPointFromInferObject track.2) line.1 line.2 ≠ .notCrossed then
          some (checkLineIntersect (getMidPointFromInferObject track.1)
            (getMidPointFromInferObject track.2) line.1 line.2)
        else none) =
      (tracks.map fun track => checkLineIntersect (getMidPointFromInferObject track.1)
        (getMidPointFromInferObject track.2) line.1 line.2).find? (· ≠ .notCrossed) := by
    intro line tracks
    induction tracks with
    | nil => rfl
    | cons track tracks ih =>
      rw [List.findSome?_cons, List.map_cons, List.find?_cons, ih]
      split_ifs with h <;> simp [h]
  simp only [calcLineCross, allCrosses, List.find?_flatMap, hinner]

theorem calcLineCross_ne_iff {targetHistory : DataLayer} {targetRois : List (List Point)} :
    calcLineCross targetHistory targetRois ≠ .notCrossed ↔
      ∃ o ∈ allCrosses targetHistory targetRois, o ≠ .notCrossed := by
  rw [calcLineCross_eq]
  cases hfind : (allCrosses targetHistory targetRois).find? (· ≠ .notCrossed) with
  | none =>
    rw [List.find?_eq_none] at hfind
    refine ⟨fun h => absurd rfl h, ?_⟩
    rintro ⟨o, ho, hne⟩
    exact absurd (decide_eq_true hne) (hfind o ho)
  | some o =>
    have hne : o ≠ .notCrossed := by simpa using List.find?_some hfind
    exact ⟨fun _ => ⟨o, List.mem_of_find?_eq_some hfind, hne⟩, fun _ => hne⟩

/-- The first crossing is clockwise when nothing else is crossed before it. -/
theorem calcLineCross_eq_clockwise_iff {targetHistory : DataLayer}
    {targetRois : List (List Point)} :
    calcLineCross targetHistory targetRois = .clockwise ↔
      ∃ before after, allCrosses targetHistory targetRois = before ++ .clockwise :: after ∧
        ∀ o ∈ before, o = .notCrossed := by
  rw [calcLineCross_eq, Option.getD_eq_iff]
  simp only [List.find?_eq_some_iff_append, decide_eq_true_eq, Bool.not_eq_true',
    decide_eq_false_iff_not, not_not, ne_eq, reduceCtorEq, not_false_eq_true, true_and, and_false,
    or_false]

/-! ### What is reported -/

/-- With a history that is long enough and after the interval, an object is reported for a crossing
of a line for both directions, and for a first crossing that is clockwise of the others. -/
theorem lineReport_ne_nil_iff {sch : Schedule} {m : Moment} {last : ℤ} {object : InferObject}
    {boxes : List InferObject} (hlength : requireMinTrackingCount ≤ boxes.length)
    (hinterval : sch.getEnoughEventInterval last m.system = true) :
    lineReport sch m last object boxes ≠ [] ↔
      calcLineCross boxes sch.cvTwoWayRois ≠ .notCrossed ∨
        calcLineCross boxes sch.cvOneWayRois = .clockwise := by
  rw [lineReport, if_neg (by omega), if_neg (by rw [hinterval]; decide)]
  by_cases hone : calcLineCross boxes sch.cvOneWayRois = .clockwise
  · simp [hone]
  · simp [hone]

section Loop

variable (sch : Schedule) (isTarget : InferObject → Bool) (m : Moment) (inLayer : DataLayer)
  (s : ScheduleState sch) (pre : DataLayer) (object : InferObject)

/-- `history_boxes`, when the loop comes to an object after those in `pre` and has put it in. -/
def historyBoxes : List InferObject :=
  lineUpdate object
    ((lineLoop sch isTarget m inLayer s pre).2.getHistory [] m.steady object.trackId).1

/-- The loop reports the object that it comes to after those in `pre`. -/
def IsReported : Prop :=
  ∃ direction, (lineLoop sch isTarget m inLayer s (pre ++ [object])).1 =
    (lineLoop sch isTarget m inLayer s pre).1 ++ [withData object direction]

/-- A pair of consecutive mid-points of the history crosses a segment of a one-way line in its
direction. -/
def CrossesClockwise (boxes : List InferObject) : Prop :=
  ∃ roiPoints ∈ sch.cvOneWayRois, ∃ line ∈ consecutive roiPoints, ∃ track ∈ consecutive boxes,
    checkLineIntersect (getMidPointFromInferObject track.1) (getMidPointFromInferObject track.2)
      line.1 line.2 = .clockwise

/-- **What spoils a crossing in the direction of a one-way line does not happen**: in the order
line, segment, pair of mid-points, the first pair that meets a one-way line meets it clockwise – or
some line for both directions is met as well. -/
def ClockwiseFirst (boxes : List InferObject) : Prop :=
  (∃ o ∈ allCrosses boxes sch.cvTwoWayRois, o ≠ .notCrossed) ∨
    ∃ before after, allCrosses boxes sch.cvOneWayRois = before ++ .clockwise :: after ∧
      ∀ o ∈ before, o = .notCrossed

variable {sch isTarget m inLayer s pre object}

theorem lineLoop_append_singleton (htarget : isTarget object = true)
    (hvisible : sch.isWithinExcludeROI object = false) :
    (lineLoop sch isTarget m inLayer s (pre ++ [object])).1 =
      (lineLoop sch isTarget m inLayer s pre).1 ++
        lineReport sch m s.lastActiveTime object
          (historyBoxes sch isTarget m inLayer s pre object) := by
  rw [lineLoop, List.foldl_append, List.foldl_cons, List.foldl_nil,
    visit_of_visible htarget hvisible]
  rfl

/-- What has been reported stays. -/
theorem exists_lineLoop_append (objects objects' : DataLayer) :
    ∃ added, (lineLoop sch isTarget m inLayer s (objects ++ objects')).1 =
      (lineLoop sch isTarget m inLayer s objects).1 ++ added := by
  rw [lineLoop, List.foldl_append]
  exact exists_results_foldl_visit objects' _

/-- What is reported is one result, with a direction. -/
theorem lineReport_cases (sch : Schedule) (m : Moment) (last : ℤ) (object : InferObject)
    (boxes : List InferObject) :
    lineReport sch m last object boxes = [] ∨
      ∃ direction, lineReport sch m last object boxes = [withData object direction] := by
  unfold lineReport
  split
  · exact .inl rfl
  split
  · exact .inl rfl
  dsimp only
  generalize (if calcLineCross boxes sch.cvOneWayRois = .clockwise then
    calcLineCross boxes sch.cvOneWayRois else calcLineCross boxes sch.cvTwoWayRois) = o
  by_cases ho : o = .notCrossed
  · exact .inl (if_neg (not_not.mpr ho))
  · exact .inr ⟨_, if_pos ho⟩

theorem isReported_iff (htarget : isTarget object = true)
    (hvisible : sch.isWithinExcludeROI object = false) :
    IsReported sch isTarget m inLayer s pre object ↔
      lineReport sch m s.lastActiveTime object
        (historyBoxes sch isTarget m inLayer s pre object) ≠ [] := by
  rw [IsReported, lineLoop_append_singleton htarget hvisible]
  simp only [List.append_cancel_left_eq]
  obtain h | ⟨direction, h⟩ := lineReport_cases sch m s.lastActiveTime object
    (historyBoxes sch isTarget m inLayer s pre object)
  · simp [h]
  · simp [h]

end Loop

/-- The check of a schedule for a line, on the objects of its class. -/
theorem lineIntrusionBase_eq {sch : Schedule} {event : EventClass} {object : InferObject}
    (hevent : sch.eventClass = some event) (htarget : sch.isTarget object = true) (m : Moment)
    (layer : DataLayer) (s : ScheduleState sch) :
    lineIntrusionBase sch event.target m layer s =
      ((lineLoop sch sch.isTarget m layer s layer).1, { s with
        objectHistory := (lineLoop sch sch.isTarget m layer s layer).2
        lastActiveTime :=
          activateTime (lineLoop sch sch.isTarget m layer s layer).1 m s.lastActiveTime }) := by
  obtain ⟨classEqualChecker, hchecker⟩ := Schedule.exists_classEqualChecker htarget
  have hclass : sch.isTarget = fun object => classEqualChecker object.classId event.target := by
    funext object
    rw [Schedule.isTarget, hchecker, hevent]
  rw [hclass, lineIntrusionBase, hchecker]

/-- What the loop reports is among the results of the call. -/
theorem mem_of_isReported {sch : Schedule} {event : EventClass} {m : Moment} {s : ScheduleState sch}
    {pre post : DataLayer} {object : InferObject} (hevent : sch.eventClass = some event)
    (htarget : sch.isTarget object = true)
    (h : IsReported sch sch.isTarget m (pre ++ object :: post) s pre object) :
    ∃ direction, withData object direction ∈
      (lineIntrusionBase sch event.target m (pre ++ object :: post) s).1 := by
  obtain ⟨direction, hdirection⟩ := h
  refine ⟨direction, ?_⟩
  have hsplit : pre ++ object :: post = (pre ++ [object]) ++ post := by
    rw [List.append_assoc, List.singleton_append]
  obtain ⟨added, hadded⟩ : ∃ added,
      (lineLoop sch sch.isTarget m (pre ++ object :: post) s ((pre ++ [object]) ++ post)).1 =
        (lineLoop sch sch.isTarget m (pre ++ object :: post) s (pre ++ [object])).1 ++ added :=
    exists_lineLoop_append (pre ++ [object]) post
  rw [lineIntrusionBase_eq hevent htarget]
  nth_rewrite 2 [hsplit]
  rw [hadded, hdirection]
  simp

/-- **When a crossing in the direction of a one-way line is reported.** The loop of
`LineIntrusionBase` has come to an object of the class that is not excluded, the history is long
enough, and the interval has elapsed. -/
theorem reports_clockwise_iff (sch : Schedule) (event : EventClass) (m : Moment)
    (s : ScheduleState sch) (pre post : DataLayer) (object : InferObject)
    (hevent : sch.eventClass = some event)
    (htarget : sch.isTarget object = true) (hvisible : sch.isWithinExcludeROI object = false)
    (hlength : 10 ≤
      (historyBoxes sch sch.isTarget m (pre ++ object :: post) s pre object).length)
    (hinterval : sch.getEnoughEventInterval s.lastActiveTime m.system = true) :
    ((CrossesClockwise sch (historyBoxes sch sch.isTarget m (pre ++ object :: post) s pre object) →
        IsReported sch sch.isTarget m (pre ++ object :: post) s pre object) ↔
      (CrossesClockwise sch (historyBoxes sch sch.isTarget m (pre ++ object :: post) s pre object) →
        ClockwiseFirst sch
          (historyBoxes sch sch.isTarget m (pre ++ object :: post) s pre object))) ∧
    (IsReported sch sch.isTarget m (pre ++ object :: post) s pre object →
      ∃ direction, withData object direction ∈
        (lineIntrusionBase sch event.target m (pre ++ object :: post) s).1) := by
  have hiff : IsReported sch sch.isTarget m (pre ++ object :: post) s pre object ↔
      ClockwiseFirst sch
        (historyBoxes sch sch.isTarget m (pre ++ object :: post) s pre object) := by
    rw [isReported_iff htarget hvisible, lineReport_ne_nil_iff hlength hinterval,
      calcLineCross_ne_iff, calcLineCross_eq_clockwise_iff, ClockwiseFirst]
  exact ⟨by rw [hiff], mem_of_isReported hevent htarget⟩

/-- The line down the middle of the picture. -/
def middleLine : RoiArea :=
  let half := ofDecimal binary32 false 5 (-1)
  [(half, ofInt binary32 0), (half, ofInt binary32 1)]

/-- The schedule for persons who cross the middle of the picture from left to right. -/
def oneWaySchedule : Schedule :=
  scheduleOf { plainInfo 202 with oneWayRoi := [middleLine] } (by decide)

/-- A person who is seen each second, at the given places, the newest first. -/
def walk : List ℤ → List Call
  | [] => []
  | x :: xs => callAt xs.length [objectAt 0 1 x 50] :: walk xs

/-- A person who crosses the line, and is reported. -/
theorem reports_clockwise_iff_forth :
    IsReported oneWaySchedule oneWaySchedule.isTarget (callAt 9 []).moment [objectAt 0 1 75 50]
      (oneWaySchedule.after 0 (walk [25, 25, 25, 25, 25, 25, 25, 25, 25])) []
      (objectAt 0 1 75 50) := by
  refine (reports_clockwise_iff oneWaySchedule .lineIntrusion (callAt 9 []).moment
    (oneWaySchedule.after 0 (walk [25, 25, 25, 25, 25, 25, 25, 25, 25])) [] []
    (objectAt 0 1 75 50) (by decide) (by decide) (by decide +kernel) (by decide +kernel)
    (by decide +kernel)).1.mpr ?_ (mem_allCrosses.mp (by decide +kernel))
  intro _
  exact .inr ⟨List.replicate 8 .notCrossed, [], by decide +kernel, by decide⟩

/-- **A person who crosses the line the other way before** is not reported. -/
theorem not_reports_clockwise :
    ¬∀ (sch : Schedule) (event : EventClass) (m : Moment) (s : ScheduleState sch)
      (pre post : DataLayer) (object : InferObject), sch.eventClass = some event →
      (event = .lineIntrusion ∨ event = .vehicleIntrusion) → sch.isTarget object = true →
      sch.isWithinExcludeROI object = false →
      10 ≤ (historyBoxes sch sch.isTarget m (pre ++ object :: post) s pre object).length →
      sch.getEnoughEventInterval s.lastActiveTime m.system = true →
      CrossesClockwise sch
        (historyBoxes sch sch.isTarget m (pre ++ object :: post) s pre object) →
      IsReported sch sch.isTarget m (pre ++ object :: post) s pre object := by
  intro h
  have hreported := h oneWaySchedule .lineIntrusion (callAt 9 []).moment
    (oneWaySchedule.after 0 (walk [25, 25, 25, 25, 75, 75, 75, 75, 75])) [] []
    (objectAt 0 1 75 50) (by decide) (.inl rfl) (by decide) (by decide +kernel)
    (by decide +kernel) (by decide +kernel) (mem_allCrosses.mp (by decide +kernel))
  rw [isReported_iff (by decide) (by decide +kernel)] at hreported
  exact hreported (by decide +kernel)

end DetectBase.Abnormal
