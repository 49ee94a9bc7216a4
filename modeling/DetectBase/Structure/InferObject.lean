import DetectBase.Foundations.BinaryFloat

/-!
# Detected objects

`InferObject` is what a detection engine reports, what the tracker returns, and what the events are
checked against.
-/

namespace DetectBase

/-- `InferClassID`. -/
abbrev InferClassID := ℤ

/-- `InferTrackID`. -/
abbrev InferTrackID := ℤ

/-- `InferEngineID`. -/
abbrev InferEngineID := ℕ

/-- `BBoxReferenceType`: which point of the box `x` and `y` are. -/
inductive BBoxReferenceType where
  /-- The center. -/
  | cxType : BBoxReferenceType
  /-- The corner at the top left. -/
  | ltxType : BBoxReferenceType
deriving DecidableEq

/-- `BBoxCoordinateFormat`. -/
inductive BBoxCoordinateFormat where
  /-- Between 0 and 1. -/
  | ratioFloat : BBoxCoordinateFormat
  /-- In pixels of the image. -/
  | pixelInt : BBoxCoordinateFormat
deriving DecidableEq

/-- `InferBBox`. -/
structure InferBBox where
  /-- `x`. -/
  x : Single
  /-- `y`. -/
  y : Single
  /-- `w`. -/
  w : Single
  /-- `h`. -/
  h : Single
deriving DecidableEq

/-- `InferObject`. -/
structure InferObject where
  /-- `infer_engine_id`. -/
  inferEngineId : InferEngineID
  /-- `class_id`. -/
  classId : InferClassID
  /-- `track_id`. -/
  trackId : InferTrackID
  /-- `score`. -/
  score : Single
  /-- `bbox`. -/
  bbox : InferBBox
  /-- `xy_ref_type`. -/
  xyRefType : BBoxReferenceType
  /-- `coord_format`. -/
  coordFormat : BBoxCoordinateFormat
  /-- `extend_data`. -/
  extendData : List Single
deriving DecidableEq

end DetectBase
