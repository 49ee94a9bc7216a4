import DetectBase.Structure.InferObject

/-!
# The geometry of the event checks

`GeometricLogic.cpp`: mid-points of boxes, points in polygons, and crossings of segments, on points
with `int` coordinates. Coordinates are those of a picture of less than `2 ^ 15` pixels a side, so
that the `int` products of `lineOrientation` and `isIncludePoint`, and their differences, do not
overflow: the arithmetic on them is that of the integers.
-/

namespace DetectBase.Abnormal

/-- `cv::Point`. -/
structure Point where
  /-- `x`. -/
  x : ℤ
  /-- `y`. -/
  y : ℤ
deriving DecidableEq

/-- `static_cast<int>` of a `float` that fits: beyond the range of an `int`, where C++ does not say
what it gives, it is the end of the range here. -/
def castInt (x : Single) : ℤ := x.truncate (-2 ^ 31) (2 ^ 31 - 1)

/-- `getMidPointFromInferObject`. -/
def getMidPointFromInferObject (object : InferObject) : Point where
  x := castInt (object.bbox.x.add object.bbox.w.half)
  y := castInt (object.bbox.y.add object.bbox.h.half)

/-! ### Points in polygons -/

section Include

variable (meetsRight : Point → Point → Point → Bool)

/-- The loop of `isIncludePoint` over the edges, with the number of crossings so far. The test that
compares the abscissa of the edge with that of the point is a parameter. -/
def isIncludePointLoop (checkPoint : Point) : List (Point × Point) → ℕ → Bool
  | [], nCrosses => decide (0 < nCrosses % 2)
  | (p, q) :: edges, nCrosses =>
    -- a vertex counts as inside, whatever was counted before
    if p = checkPoint then true
    else if (p.y > checkPoint.y) ≠ (q.y > checkPoint.y) ∧ meetsRight checkPoint p q = true then
      isIncludePointLoop checkPoint edges (nCrosses + 1)
    else isIncludePointLoop checkPoint edges nCrosses

/-- `isIncludePoint`, by the test for a crossing: each vertex goes with the next one, the last with
the first. -/
def isIncludePointBy (checkPoint : Point) (p : List Point) : Bool :=
  isIncludePointLoop meetsRight checkPoint (p.zip (p.rotate 1)) 0

end Include

/-- `checkPoint.x < atX`, in `double`. -/
def isLeftOfEdge (checkPoint p q : Point) : Bool :=
  let atX := (ofQuotient binary64 ((q.x - p.x) * (checkPoint.y - p.y)) (q.y - p.y)).add
    (ofInt binary64 p.x)
  ofInt binary64 checkPoint.x < atX

/-- `isIncludePoint`. -/
def isIncludePoint (checkPoint : Point) (p : List Point) : Bool :=
  isIncludePointBy isLeftOfEdge checkPoint p

/-! ### Crossings of segments -/

/-- `LineOrientation`. -/
inductive LineOrientation where
  /-- The segments have no point in common. -/
  | notCrossed : LineOrientation
  /-- The three points are on a line. -/
  | onLine : LineOrientation
  /-- A turn to the right. -/
  | clockwise : LineOrientation
  /-- A turn to the left. -/
  | counterClockwise : LineOrientation
deriving DecidableEq

/-- `static_cast<int>` of an orientation. -/
def LineOrientation.toInt : LineOrientation → ℤ
  | notCrossed => -1
  | onLine => 0
  | clockwise => 1
  | counterClockwise => 2

/-- `onLineSegment`: `q` is in the box that `p` and `r` span. -/
def onLineSegment (p q r : Point) : Bool :=
  q.x ≤ max p.x r.x ∧ q.x ≥ min p.x r.x ∧ q.y ≤ max p.y r.y ∧ q.y ≥ min p.y r.y

/-- The number whose sign `lineOrientation` looks at. -/
def orientationValue (p q r : Point) : ℤ := (q.y - p.y) * (r.x - q.x) - (q.x - p.x) * (r.y - q.y)

/-- `lineOrientation`. -/
def lineOrientation (p q r : Point) : LineOrientation :=
  if orientationValue p q r = 0 then .onLine
  else if 0 < orientationValue p q r then .clockwise
  else .counterClockwise

/-- `checkLineIntersect`. -/
def checkLineIntersect (p₁ q₁ p₂ q₂ : Point) : LineOrientation :=
  let o₁ := lineOrientation p₁ q₁ p₂
  let o₂ := lineOrientation p₁ q₁ q₂
  let o₃ := lineOrientation p₂ q₂ p₁
  let o₄ := lineOrientation p₂ q₂ q₁
  if o₁ ≠ o₂ ∧ o₃ ≠ o₄ then o₄
  else if o₁ = .onLine ∧ onLineSegment p₁ p₂ q₁ then .onLine
  else if o₂ = .onLine ∧ onLineSegment p₁ q₂ q₁ then .onLine
  else if o₃ = .onLine ∧ onLineSegment p₂ p₁ q₂ then .onLine
  else if o₄ = .onLine ∧ onLineSegment p₂ q₁ q₂ then .onLine
  else .notCrossed

/-! ### Regions in the picture -/

/-- `clamp`. -/
def clamp (minValue originValue maxValue : ℤ) : ℤ := min (max originValue minValue) maxValue

/-- A coordinate of a region, which is a fraction of the frame, in pixels. -/
def scaleCoordinate (frame : ℤ) (ratio : Single) : ℤ :=
  clamp 0 (((ofInt binary32 frame).mul ratio).roundAway (-2 ^ 31) (2 ^ 31 - 1)) frame

end DetectBase.Abnormal
