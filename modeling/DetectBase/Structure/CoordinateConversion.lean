import DetectBase.Structure.InferObject
import Mathlib.Tactic.NormNum

/-!
# Conversion of boxes between coordinate systems

`ConvertInferObjectCoordinate` takes a box from one image to another: from pixels to fractions of
the image or back, from its center to its corner or back, and in or out of a letterbox. It goes by
way of a box in fractions with its corner (`DetectBase.convertToIntermediateRatioLtx`,
`DetectBase.convertFromIntermediateRatioLtx`), and cuts what it gets to the target.

The coordinates are rational numbers here, and nothing is rounded: this is what the conversion is
for, and what it keeps on the way to another image and back. The same with the numbers that the
service computes with is `DetectBase.FloatConversion`. A format or a reference type is missing where
the value is none of its enumeration.

In exact arithmetic the box that it writes is inside of the target, and where it fails it writes
none (`DetectBase.convertInferObjectCoordinate_spec`). It is not written, and not cut, when the two
styles are the same as far as the conversion looks at them.
-/

namespace DetectBase

/-! ### Styles and objects -/

/-- `ImageExpressStyle`, with scale factors in `K`. -/
structure ImageExpressStyle (K : Type) where
  /-- `width`. -/
  width : ℤ
  /-- `height`. -/
  height : ℤ
  /-- `format`. -/
  format : Option BBoxCoordinateFormat
  /-- `ref_type`. -/
  refType : Option BBoxReferenceType
  /-- `is_padded_or_scaled`. -/
  isPaddedOrScaled : Bool
  /-- `scale_factor_from_original`. -/
  scaleFactorFromOriginal : K
  /-- `pad_x_offset`. -/
  padXOffset : ℤ
  /-- `pad_y_offset`. -/
  padYOffset : ℤ
  /-- `original_width`. -/
  originalWidth : ℤ
  /-- `original_height`. -/
  originalHeight : ℤ

/-- `InferBBox`, in exact arithmetic. -/
@[ext] structure ExactBBox where
  /-- `x`. -/
  x : ℚ
  /-- `y`. -/
  y : ℚ
  /-- `w`. -/
  w : ℚ
  /-- `h`. -/
  h : ℚ
deriving DecidableEq

/-- `InferObject`, as far as a conversion reads and writes it. -/
@[ext] structure ExactObject where
  /-- `bbox`. -/
  bbox : ExactBBox
  /-- `xy_ref_type`. -/
  xyRefType : Option BBoxReferenceType
  /-- `coord_format`. -/
  coordFormat : Option BBoxCoordinateFormat
deriving DecidableEq

/-- `are_equal_float`. -/
def areEqualFloat (a b : ℚ) : Bool := |a - b| < 1 / 2 ^ 23

/-! ### By way of fractions -/

namespace ExactBBox

/-- Each coordinate times a factor of its direction. -/
def scale (box : ExactBBox) (factorX factorY : ℚ) : ExactBBox :=
  ⟨box.x * factorX, box.y * factorY, box.w * factorX, box.h * factorY⟩

/-- From the center to the corner. -/
def toCorner (box : ExactBBox) : ExactBBox :=
  ⟨box.x - box.w / 2, box.y - box.h / 2, box.w, box.h⟩

/-- From the corner to the center. -/
def toCenter (box : ExactBBox) : ExactBBox :=
  ⟨box.x + box.w / 2, box.y + box.h / 2, box.w, box.h⟩

end ExactBBox

/-- **`ConvertToIntermediateRatioLtx`**. -/
def convertToIntermediateRatioLtx (bbox : ExactBBox) (refType : Option BBoxReferenceType)
    (format : Option BBoxCoordinateFormat) (srcWidth srcHeight : ℤ) : Option ExactBBox :=
  if srcWidth ≤ 0 ∨ srcHeight ≤ 0 then none
  else do
    let temp ← match format with
      | some .pixelInt => some (bbox.scale (1 / srcWidth) (1 / srcHeight))
      | some .ratioFloat => some bbox
      | none => none
    match refType with
    | some .cxType => some temp.toCorner
    | some .ltxType => some temp
    | none => none

/-- **`ConvertFromIntermediateRatioLtx`**. -/
def convertFromIntermediateRatioLtx (ratio : ExactBBox) (dst : ImageExpressStyle ℚ) :
    Option ExactBBox :=
  if dst.width ≤ 0 ∨ dst.height ≤ 0 then none
  else do
    let temp ← match dst.refType with
      | some .cxType => some ratio.toCenter
      | some .ltxType => some ratio
      | none => none
    match dst.format with
    | some .pixelInt => some (temp.scale dst.width dst.height)
    | some .ratioFloat => some temp
    | none => none

/-! ### In and out of a letterbox -/

/-- The parameters between an original image and a padded one that keep the adjustment from being
made. -/
def invalidParameters (original padded : ImageExpressStyle ℚ) : Bool :=
  padded.scaleFactorFromOriginal ≤ 1 / 10 ^ 6 ∨ original.width ≤ 0 ∨ original.height ≤ 0 ∨
    padded.width ≤ 0 ∨ padded.height ≤ 0 ∨ padded.originalWidth ≤ 0 ∨ padded.originalHeight ≤ 0 ∨
    original.width ≠ padded.originalWidth ∨ original.height ≠ padded.originalHeight

/-- The fractions of the original image, from those of the padded one. -/
def paddedToOriginal (src dst : ImageExpressStyle ℚ) (ratio : ExactBBox) : ExactBBox :=
  if invalidParameters dst src then ratio
  else
    let padded := ratio.scale src.width src.height
    let scaled : ExactBBox :=
      ⟨padded.x - src.padXOffset, padded.y - src.padYOffset, padded.w, padded.h⟩
    let orig := scaled.scale (1 / src.scaleFactorFromOriginal) (1 / src.scaleFactorFromOriginal)
    orig.scale (1 / dst.width) (1 / dst.height)

/-- The fractions of the padded image, from those of the original one. -/
def originalToPadded (src dst : ImageExpressStyle ℚ) (ratio : ExactBBox) : ExactBBox :=
  if invalidParameters src dst then ratio
  else
    let orig := ratio.scale src.width src.height
    let scaled := orig.scale dst.scaleFactorFromOriginal dst.scaleFactorFromOriginal
    let padded : ExactBBox :=
      ⟨scaled.x + dst.padXOffset, scaled.y + dst.padYOffset, scaled.w, scaled.h⟩
    padded.scale (1 / dst.width) (1 / dst.height)

/-- The second stage of the conversion. -/
def adjustPadding (src dst : ImageExpressStyle ℚ) (ratio : ExactBBox) : ExactBBox :=
  if src.isPaddedOrScaled && !dst.isPaddedOrScaled then paddedToOriginal src dst ratio
  else if !src.isPaddedOrScaled && dst.isPaddedOrScaled then originalToPadded src dst ratio
  else ratio

/-! ### Cutting to the target -/

/-- The corner of the box of an object. -/
def cornerOf (refType : Option BBoxReferenceType) (bbox : ExactBBox) : ExactBBox :=
  if refType = some .ltxType then bbox else bbox.toCorner

/-- A side of the box cut to the target: where it begins, and how long it is. -/
def clampSide (low size limit : ℚ) : ℚ × ℚ :=
  let clampedLow := max 0 (min low limit)
  let clampedHigh := max clampedLow (min (low + size) limit)
  (clampedLow, clampedHigh - clampedLow)

/-- The last stage of the conversion: the corners of the box are cut to the target. -/
def clampCorners (refType : Option BBoxReferenceType) (maxX maxY : ℚ) (bbox : ExactBBox) :
    ExactBBox :=
  let corner := cornerOf refType bbox
  let sideX := clampSide corner.x corner.w maxX
  let sideY := clampSide corner.y corner.h maxY
  let clamped : ExactBBox := ⟨sideX.1, sideY.1, sideX.2, sideY.2⟩
  if refType = some .ltxType then clamped else clamped.toCenter

/-- The limits of the coordinates in an image. -/
def limitsOf (format : Option BBoxCoordinateFormat) (width height : ℤ) : ℚ × ℚ :=
  if format = some .pixelInt then (width, height) else (1, 1)

/-! ### The conversion -/

/-- The styles are the same as far as the conversion looks at them. -/
def stylesAreIdentical (object : ExactObject) (src dst : ImageExpressStyle ℚ) : Bool :=
  let basicPropertiesMatch := object.coordFormat = dst.format ∧ object.xyRefType = dst.refType ∧
    src.width = dst.width ∧ src.height = dst.height ∧ src.isPaddedOrScaled = dst.isPaddedOrScaled
  let paddingDetailsMatch :=
    areEqualFloat src.scaleFactorFromOriginal dst.scaleFactorFromOriginal = true ∧
      src.padXOffset = dst.padXOffset ∧ src.padYOffset = dst.padYOffset ∧
      src.originalWidth = dst.originalWidth ∧ src.originalHeight = dst.originalHeight
  basicPropertiesMatch ∧ (src.isPaddedOrScaled = false ∨ paddingDetailsMatch)

/-- **`ConvertInferObjectCoordinate`**: whether it succeeds, and the object afterwards. -/
def convertInferObjectCoordinate (object : ExactObject) (src dst : ImageExpressStyle ℚ) :
    Bool × ExactObject :=
  if stylesAreIdentical object src dst then (true, object)
  else
    match convertToIntermediateRatioLtx object.bbox object.xyRefType object.coordFormat src.width
        src.height with
    | none => (false, object)
    | some ratio =>
      match convertFromIntermediateRatioLtx (adjustPadding src dst ratio) dst with
      | none => (false, object)
      | some finalBbox =>
        let limits := limitsOf dst.format dst.width dst.height
        (true, ⟨clampCorners dst.refType limits.1 limits.2 finalBbox, dst.refType, dst.format⟩)

/-! ### Where the box is -/

/-- **The box of the object is in the image**, which has the given size. -/
structure ExactObject.IsWithin (object : ExactObject) (width height : ℤ) : Prop where
  /-- It has a size. -/
  size : 0 ≤ object.bbox.w ∧ 0 ≤ object.bbox.h
  /-- It begins in the image. -/
  low : 0 ≤ (cornerOf object.xyRefType object.bbox).x ∧
    0 ≤ (cornerOf object.xyRefType object.bbox).y
  /-- It ends in the image. -/
  high : (cornerOf object.xyRefType object.bbox).x + object.bbox.w ≤
      (limitsOf object.coordFormat width height).1 ∧
    (cornerOf object.xyRefType object.bbox).y + object.bbox.h ≤
      (limitsOf object.coordFormat width height).2

theorem ExactBBox.toCorner_toCenter (box : ExactBBox) : box.toCenter.toCorner = box := by
  ext
  · exact add_sub_cancel_right _ _
  · exact add_sub_cancel_right _ _
  · rfl
  · rfl

theorem ExactBBox.toCenter_toCorner (box : ExactBBox) : box.toCorner.toCenter = box := by
  ext
  · exact sub_add_cancel _ _
  · exact sub_add_cancel _ _
  · rfl
  · rfl

@[simp] theorem w_cornerOf (refType : Option BBoxReferenceType) (bbox : ExactBBox) :
    (cornerOf refType bbox).w = bbox.w := by
  rw [cornerOf]
  split_ifs <;> rfl

@[simp] theorem h_cornerOf (refType : Option BBoxReferenceType) (bbox : ExactBBox) :
    (cornerOf refType bbox).h = bbox.h := by
  rw [cornerOf]
  split_ifs <;> rfl

/-- A side that has been cut is in the target. -/
theorem clampSide_within {limit : ℚ} (hlimit : 0 ≤ limit) (low size : ℚ) :
    0 ≤ (clampSide low size limit).1 ∧ 0 ≤ (clampSide low size limit).2 ∧
      (clampSide low size limit).1 + (clampSide low size limit).2 ≤ limit := by
  have hlow : max 0 (min low limit) ≤ limit := max_le hlimit (min_le_right _ _)
  refine ⟨le_max_left _ _, sub_nonneg.mpr (le_max_left _ _), ?_⟩
  rw [clampSide, add_sub_cancel]
  exact max_le hlow (min_le_right _ _)

/-- A side that is in the target is not cut. -/
theorem clampSide_eq {low size limit : ℚ} (hlow : 0 ≤ low) (hsize : 0 ≤ size)
    (hhigh : low + size ≤ limit) : clampSide low size limit = (low, size) := by
  rw [clampSide, min_eq_left (by linarith), max_eq_right hlow, min_eq_left hhigh,
    max_eq_right (by linarith), add_sub_cancel_left]

/-- The corner of a box that has been cut. -/
theorem cornerOf_clampCorners (refType : Option BBoxReferenceType) (maxX maxY : ℚ)
    (bbox : ExactBBox) : cornerOf refType (clampCorners refType maxX maxY bbox) =
      let corner := cornerOf refType bbox
      ⟨(clampSide corner.x corner.w maxX).1, (clampSide corner.y corner.h maxY).1,
        (clampSide corner.x corner.w maxX).2, (clampSide corner.y corner.h maxY).2⟩ := by
  rw [clampCorners]
  by_cases hcorner : refType = some .ltxType
  · simp only [cornerOf, if_pos hcorner]
  · simp only [cornerOf, if_neg hcorner, ExactBBox.toCorner_toCenter]

theorem limitsOf_nonneg (format : Option BBoxCoordinateFormat) {width height : ℤ}
    (hwidth : 0 ≤ width) (hheight : 0 ≤ height) :
    0 ≤ (limitsOf format width height).1 ∧ 0 ≤ (limitsOf format width height).2 := by
  rw [limitsOf]
  split_ifs
  · exact ⟨Int.cast_nonneg hwidth, Int.cast_nonneg hheight⟩
  · exact ⟨zero_le_one, zero_le_one⟩

/-- **A box that has been cut to the target is in it.** -/
theorem isWithin_clampCorners {refType : Option BBoxReferenceType}
    {format : Option BBoxCoordinateFormat} {width height : ℤ} (hwidth : 0 ≤ width)
    (hheight : 0 ≤ height) (bbox : ExactBBox) :
    ExactObject.IsWithin ⟨clampCorners refType (limitsOf format width height).1
      (limitsOf format width height).2 bbox, refType, format⟩ width height := by
  obtain ⟨hlimitX, hlimitY⟩ := limitsOf_nonneg format hwidth hheight
  have hcorner := cornerOf_clampCorners refType (limitsOf format width height).1
    (limitsOf format width height).2 bbox
  have hx := clampSide_within hlimitX (cornerOf refType bbox).x (cornerOf refType bbox).w
  have hy := clampSide_within hlimitY (cornerOf refType bbox).y (cornerOf refType bbox).h
  have hw := congrArg ExactBBox.w hcorner
  have hh := congrArg ExactBBox.h hcorner
  rw [w_cornerOf] at hw
  rw [h_cornerOf] at hh
  refine ⟨?_, ?_, ?_⟩
  · dsimp only
    rw [hw, hh]
    exact ⟨hx.2.1, hy.2.1⟩
  · dsimp only
    rw [hcorner]
    exact ⟨hx.1, hy.1⟩
  · dsimp only
    rw [hcorner, hw, hh]
    exact ⟨hx.2.2, hy.2.2⟩

/-- **A conversion that succeeds leaves a box in the target**, unless the styles are the same and it
leaves the object as it is; a conversion that fails leaves the object as it is. -/
theorem convertInferObjectCoordinate_spec (object : ExactObject) (src dst : ImageExpressStyle ℚ) :
    ((convertInferObjectCoordinate object src dst).1 = true →
      if stylesAreIdentical object src dst = true then
        (convertInferObjectCoordinate object src dst).2 = object
      else (convertInferObjectCoordinate object src dst).2.coordFormat = dst.format ∧
        (convertInferObjectCoordinate object src dst).2.xyRefType = dst.refType ∧
        (convertInferObjectCoordinate object src dst).2.IsWithin dst.width dst.height) ∧
    ((convertInferObjectCoordinate object src dst).1 = false →
      (convertInferObjectCoordinate object src dst).2 = object) := by
  rw [convertInferObjectCoordinate]
  split_ifs with hidentical
  · exact ⟨fun _ => rfl, fun _ => rfl⟩
  · split
    · exact ⟨nofun, fun _ => rfl⟩
    · split
      · exact ⟨nofun, fun _ => rfl⟩
      · next finalBbox hfinal =>
        refine ⟨fun _ => ⟨rfl, rfl, ?_⟩, nofun⟩
        have hpos : ¬ (dst.width ≤ 0 ∨ dst.height ≤ 0) := by
          rintro hle
          rw [convertFromIntermediateRatioLtx, if_pos hle] at hfinal
          cases hfinal
        exact isWithin_clampCorners (by omega) (by omega) finalBbox

/-! ### Conversions that lose nothing -/

namespace ExactBBox

/-- A box with its corner is between zero and the given limits. -/
structure FitsIn (box : ExactBBox) (limitX limitY : ℚ) : Prop where
  /-- It has a size. -/
  size : 0 ≤ box.w ∧ 0 ≤ box.h
  /-- It does not begin too soon. -/
  low : 0 ≤ box.x ∧ 0 ≤ box.y
  /-- It does not end too late. -/
  high : box.x + box.w ≤ limitX ∧ box.y + box.h ≤ limitY

variable {box : ExactBBox} {limitX limitY a b : ℚ}

theorem FitsIn.scale (h : box.FitsIn limitX limitY) (ha : 0 ≤ a) (hb : 0 ≤ b) :
    (box.scale a b).FitsIn (limitX * a) (limitY * b) where
  size := ⟨mul_nonneg h.size.1 ha, mul_nonneg h.size.2 hb⟩
  low := ⟨mul_nonneg h.low.1 ha, mul_nonneg h.low.2 hb⟩
  high := by
    constructor
    · exact le_of_eq_of_le (add_mul _ _ _).symm (mul_le_mul_of_nonneg_right h.high.1 ha)
    · exact le_of_eq_of_le (add_mul _ _ _).symm (mul_le_mul_of_nonneg_right h.high.2 hb)

theorem FitsIn.mono {limitX' limitY' : ℚ} (h : box.FitsIn limitX limitY) (hx : limitX ≤ limitX')
    (hy : limitY ≤ limitY') : box.FitsIn limitX' limitY' :=
  ⟨h.size, h.low, h.high.1.trans hx, h.high.2.trans hy⟩

/-- A box moved away from the corner of the image. -/
theorem FitsIn.shift (h : box.FitsIn limitX limitY) (ha : 0 ≤ a) (hb : 0 ≤ b) :
    FitsIn ⟨box.x + a, box.y + b, box.w, box.h⟩ (limitX + a) (limitY + b) := by
  refine ⟨h.size, ⟨add_nonneg h.low.1 ha, add_nonneg h.low.2 hb⟩, ?_, ?_⟩
  · linarith [h.high.1]
  · linarith [h.high.2]

theorem scale_scale (box : ExactBBox) (a b c d : ℚ) :
    (box.scale a b).scale c d = box.scale (a * c) (b * d) := by
  ext <;> exact mul_assoc _ _ _

@[simp] theorem scale_one (box : ExactBBox) : box.scale 1 1 = box := by
  ext <;> exact mul_one _

theorem scale_back (box : ExactBBox) (ha : a ≠ 0) (hb : b ≠ 0) :
    (box.scale a b).scale (1 / a) (1 / b) = box := by
  rw [scale_scale, mul_one_div_cancel ha, mul_one_div_cancel hb, scale_one]

theorem scale_forth (box : ExactBBox) (ha : a ≠ 0) (hb : b ≠ 0) :
    (box.scale (1 / a) (1 / b)).scale a b = box := by
  rw [scale_scale, one_div_mul_cancel ha, one_div_mul_cancel hb, scale_one]

theorem toCorner_scale (box : ExactBBox) (a b : ℚ) :
    (box.scale a b).toCorner = box.toCorner.scale a b := by
  ext
  · simp only [scale, toCorner]
    ring
  · simp only [scale, toCorner]
    ring
  · rfl
  · rfl

theorem toCenter_scale (box : ExactBBox) (a b : ℚ) :
    (box.scale a b).toCenter = box.toCenter.scale a b := by
  ext
  · simp only [scale, toCenter]
    ring
  · simp only [scale, toCenter]
    ring
  · rfl
  · rfl

end ExactBBox

/-- The box with the given corner. -/
def fromCorner (refType : Option BBoxReferenceType) (corner : ExactBBox) : ExactBBox :=
  if refType = some .ltxType then corner else corner.toCenter

theorem cornerOf_fromCorner (refType : Option BBoxReferenceType) (corner : ExactBBox) :
    cornerOf refType (fromCorner refType corner) = corner := by
  rw [cornerOf, fromCorner]
  split_ifs
  · rfl
  · exact corner.toCorner_toCenter

theorem fromCorner_cornerOf (refType : Option BBoxReferenceType) (bbox : ExactBBox) :
    fromCorner refType (cornerOf refType bbox) = bbox := by
  rw [cornerOf, fromCorner]
  split_ifs
  · rfl
  · exact bbox.toCenter_toCorner

theorem isWithin_iff {object : ExactObject} {width height : ℤ} :
    object.IsWithin width height ↔ (cornerOf object.xyRefType object.bbox).FitsIn
      (limitsOf object.coordFormat width height).1
      (limitsOf object.coordFormat width height).2 := by
  constructor
  · rintro ⟨hsize, hlow, hhigh⟩
    refine ⟨?_, hlow, ?_⟩
    · rwa [w_cornerOf, h_cornerOf]
    · rwa [w_cornerOf, h_cornerOf]
  · rintro ⟨hsize, hlow, hhigh⟩
    rw [w_cornerOf, h_cornerOf] at hsize hhigh
    exact ⟨hsize, hlow, hhigh⟩

/-- A box in the target is not cut. -/
theorem clampCorners_eq {refType : Option BBoxReferenceType} {maxX maxY : ℚ} {bbox : ExactBBox}
    (h : (cornerOf refType bbox).FitsIn maxX maxY) :
    clampCorners refType maxX maxY bbox = bbox := by
  have hcorner := cornerOf_clampCorners refType maxX maxY bbox
  dsimp only at hcorner
  rw [clampSide_eq h.low.1 h.size.1 h.high.1, clampSide_eq h.low.2 h.size.2 h.high.2] at hcorner
  rw [← fromCorner_cornerOf refType (clampCorners refType maxX maxY bbox), hcorner]
  exact fromCorner_cornerOf refType bbox

/-- **The intermediate box of an object**, in fractions of the image and with its corner. -/
def ratioOf (object : ExactObject) (width height : ℤ) : ExactBBox :=
  (cornerOf object.xyRefType object.bbox).scale
    (1 / (limitsOf object.coordFormat width height).1)
    (1 / (limitsOf object.coordFormat width height).2)

/-- **The object with the given intermediate box**, in a style. -/
def objectOf (ratio : ExactBBox) (style : ImageExpressStyle ℚ) : ExactObject where
  bbox := fromCorner style.refType (ratio.scale (limitsOf style.format style.width style.height).1
    (limitsOf style.format style.width style.height).2)
  xyRefType := style.refType
  coordFormat := style.format

theorem limitsOf_pos (format : Option BBoxCoordinateFormat) {width height : ℤ} (hwidth : 0 < width)
    (hheight : 0 < height) :
    0 < (limitsOf format width height).1 ∧ 0 < (limitsOf format width height).2 := by
  rw [limitsOf]
  split_ifs
  · exact ⟨Int.cast_pos.mpr hwidth, Int.cast_pos.mpr hheight⟩
  · exact ⟨one_pos, one_pos⟩

theorem convertToIntermediateRatioLtx_eq {object : ExactObject} {width height : ℤ}
    (hwidth : 0 < width) (hheight : 0 < height) (href : object.xyRefType ≠ none)
    (hformat : object.coordFormat ≠ none) :
    convertToIntermediateRatioLtx object.bbox object.xyRefType object.coordFormat width height =
      some (ratioOf object width height) := by
  rw [convertToIntermediateRatioLtx, if_neg (by omega), ratioOf]
  obtain ⟨bbox, refType, format⟩ := object
  rcases refType with _ | refType
  · exact absurd rfl href
  rcases format with _ | format
  · exact absurd rfl hformat
  cases format <;> cases refType <;> simp [limitsOf, cornerOf, ExactBBox.toCorner_scale]

theorem convertFromIntermediateRatioLtx_eq {style : ImageExpressStyle ℚ} (hwidth : 0 < style.width)
    (hheight : 0 < style.height) (href : style.refType ≠ none) (hformat : style.format ≠ none)
    (ratio : ExactBBox) :
    convertFromIntermediateRatioLtx ratio style = some (objectOf ratio style).bbox := by
  rw [convertFromIntermediateRatioLtx, if_neg (by omega), objectOf]
  obtain ⟨width, height, format, refType, _, _, _, _, _, _⟩ := style
  rcases refType with _ | refType
  · exact absurd rfl href
  rcases format with _ | format
  · exact absurd rfl hformat
  cases format <;> cases refType <;> simp [limitsOf, fromCorner, ExactBBox.toCenter_scale]

/-- The intermediate box of an object in the image is in the unit square. -/
theorem ratioOf_fitsIn {object : ExactObject} {width height : ℤ} (hwidth : 0 < width)
    (hheight : 0 < height) (h : object.IsWithin width height) :
    (ratioOf object width height).FitsIn 1 1 := by
  obtain ⟨hx, hy⟩ := limitsOf_pos object.coordFormat hwidth hheight
  have hfits := (isWithin_iff.mp h).scale (one_div_pos.mpr hx).le (one_div_pos.mpr hy).le
  rwa [mul_one_div_cancel hx.ne', mul_one_div_cancel hy.ne'] at hfits

/-- And the other way around. -/
theorem objectOf_isWithin {ratio : ExactBBox} {style : ImageExpressStyle ℚ}
    (hwidth : 0 < style.width) (hheight : 0 < style.height) (h : ratio.FitsIn 1 1) :
    (objectOf ratio style).IsWithin style.width style.height := by
  obtain ⟨hx, hy⟩ := limitsOf_pos style.format hwidth hheight
  have hfits := h.scale hx.le hy.le
  rw [one_mul, one_mul] at hfits
  refine isWithin_iff.mpr ?_
  rw [objectOf]
  dsimp only
  rwa [cornerOf_fromCorner]

theorem clampCorners_objectOf {ratio : ExactBBox} {style : ImageExpressStyle ℚ}
    (hwidth : 0 < style.width) (hheight : 0 < style.height) (h : ratio.FitsIn 1 1) :
    clampCorners style.refType (limitsOf style.format style.width style.height).1
      (limitsOf style.format style.width style.height).2 (objectOf ratio style).bbox =
        (objectOf ratio style).bbox :=
  clampCorners_eq (isWithin_iff.mp (objectOf_isWithin hwidth hheight h))

theorem ratioOf_objectOf {style : ImageExpressStyle ℚ} (hwidth : 0 < style.width)
    (hheight : 0 < style.height) (ratio : ExactBBox) :
    ratioOf (objectOf ratio style) style.width style.height = ratio := by
  obtain ⟨hx, hy⟩ := limitsOf_pos style.format hwidth hheight
  rw [ratioOf, objectOf]
  dsimp only
  rw [cornerOf_fromCorner, ExactBBox.scale_back _ hx.ne' hy.ne']

theorem objectOf_ratioOf {style : ImageExpressStyle ℚ} (hwidth : 0 < style.width)
    (hheight : 0 < style.height) {object : ExactObject} (href : object.xyRefType = style.refType)
    (hformat : object.coordFormat = style.format) :
    objectOf (ratioOf object style.width style.height) style = object := by
  obtain ⟨hx, hy⟩ := limitsOf_pos style.format hwidth hheight
  rw [ratioOf, objectOf, hformat, ExactBBox.scale_forth _ hx.ne' hy.ne', ← href,
    fromCorner_cornerOf, ← hformat]

/-- **A conversion by its intermediate boxes**, when the second of them is in the unit square. -/
theorem convertInferObjectCoordinate_eq {object : ExactObject} {src dst : ImageExpressStyle ℚ}
    (hne : stylesAreIdentical object src dst = false) (hsrc : 0 < src.width ∧ 0 < src.height)
    (hdst : 0 < dst.width ∧ 0 < dst.height) (hobject : object.xyRefType ≠ none ∧
      object.coordFormat ≠ none) (hstyle : dst.refType ≠ none ∧ dst.format ≠ none)
    (hfits : (adjustPadding src dst (ratioOf object src.width src.height)).FitsIn 1 1) :
    convertInferObjectCoordinate object src dst =
      (true, objectOf (adjustPadding src dst (ratioOf object src.width src.height)) dst) := by
  rw [convertInferObjectCoordinate, if_neg (ne_true_of_eq_false hne),
    convertToIntermediateRatioLtx_eq hsrc.1 hsrc.2 hobject.1 hobject.2]
  dsimp only
  rw [convertFromIntermediateRatioLtx_eq hdst.1 hdst.2 hstyle.1 hstyle.2]
  dsimp only
  rw [clampCorners_objectOf hdst.1 hdst.2 hfits]
  rfl

/-- **Out of the letterbox again.** -/
theorem paddedToOriginal_originalToPadded (src dst : ImageExpressStyle ℚ) (ratio : ExactBBox) :
    paddedToOriginal dst src (originalToPadded src dst ratio) = ratio := by
  rw [paddedToOriginal, originalToPadded]
  split_ifs with hinvalid
  · rfl
  · rw [invalidParameters, decide_eq_true_eq] at hinvalid
    push Not at hinvalid
    obtain ⟨hscale, hsrcW, hsrcH, hdstW, hdstH, -⟩ := hinvalid
    have hs : dst.scaleFactorFromOriginal ≠ 0 := by
      have hpos : (0 : ℚ) < 1 / 10 ^ 6 := by norm_num
      exact (hpos.trans hscale).ne'
    have hw : (src.width : ℚ) ≠ 0 := Int.cast_ne_zero.mpr hsrcW.ne'
    have hh : (src.height : ℚ) ≠ 0 := Int.cast_ne_zero.mpr hsrcH.ne'
    have hw' : (dst.width : ℚ) ≠ 0 := Int.cast_ne_zero.mpr hdstW.ne'
    have hh' : (dst.height : ℚ) ≠ 0 := Int.cast_ne_zero.mpr hdstH.ne'
    dsimp only
    rw [ExactBBox.scale_forth _ hw' hh']
    simp only [add_sub_cancel_right]
    have horig := congrArg (fun orig => orig.scale (1 / (src.width : ℚ)) (1 / (src.height : ℚ)))
      (ExactBBox.scale_back (ratio.scale src.width src.height) hs hs)
    exact horig.trans (ExactBBox.scale_back ratio hw hh)

/-- Styles of which one is padded are not the same. -/
theorem not_stylesAreIdentical {src dst : ImageExpressStyle ℚ}
    (h : src.isPaddedOrScaled ≠ dst.isPaddedOrScaled) (object : ExactObject) :
    stylesAreIdentical object src dst = false := by
  rw [stylesAreIdentical, decide_eq_false_iff_not]
  rintro ⟨⟨-, -, -, -, hsame⟩, -⟩
  exact h hsame

/-- **From an original image to a padded one and back**, when nothing is cut on the way. -/
theorem convertInferObjectCoordinate_roundTrip {object : ExactObject}
    {original padded : ImageExpressStyle ℚ} (horiginal : original.isPaddedOrScaled = false)
    (hpadded : padded.isPaddedOrScaled = true) (hsize : 0 < original.width ∧ 0 < original.height)
    (hsize' : 0 < padded.width ∧ 0 < padded.height)
    (hvalid : original.refType ≠ none ∧ original.format ≠ none)
    (hvalid' : padded.refType ≠ none ∧ padded.format ≠ none)
    (href : object.xyRefType = original.refType) (hformat : object.coordFormat = original.format)
    (hwithin : object.IsWithin original.width original.height)
    (hstays : ∀ ratio : ExactBBox, ratio.FitsIn 1 1 →
      (originalToPadded original padded ratio).FitsIn 1 1) :
    let there := convertInferObjectCoordinate object original padded
    there.1 = true ∧ there.2.coordFormat = padded.format ∧ there.2.xyRefType = padded.refType ∧
      there.2.IsWithin padded.width padded.height ∧
      convertInferObjectCoordinate there.2 padded original = (true, object) := by
  have hratio := ratioOf_fitsIn hsize.1 hsize.2 hwithin
  have hforth : ∀ ratio, adjustPadding original padded ratio =
      originalToPadded original padded ratio := by
    rintro ratio
    rw [adjustPadding, horiginal, hpadded]
    rfl
  have hback : ∀ ratio, adjustPadding padded original ratio =
      paddedToOriginal padded original ratio := by
    rintro ratio
    rw [adjustPadding, horiginal, hpadded]
    rfl
  have hne : original.isPaddedOrScaled ≠ padded.isPaddedOrScaled := by
    rw [horiginal, hpadded]
    nofun
  have hstay := hstays _ hratio
  rw [← hforth] at hstay
  have hthere := convertInferObjectCoordinate_eq (not_stylesAreIdentical hne object) hsize hsize'
    ⟨href ▸ hvalid.1, hformat ▸ hvalid.2⟩ hvalid' hstay
  rw [hforth] at hthere hstay
  rw [hthere]
  refine ⟨rfl, rfl, rfl, objectOf_isWithin hsize'.1 hsize'.2 hstay, ?_⟩
  have hreturn : adjustPadding padded original (ratioOf (objectOf (originalToPadded original padded
      (ratioOf object original.width original.height)) padded) padded.width padded.height) =
        ratioOf object original.width original.height := by
    rw [ratioOf_objectOf hsize'.1 hsize'.2, hback, paddedToOriginal_originalToPadded]
  dsimp only
  rw [convertInferObjectCoordinate_eq (not_stylesAreIdentical hne.symm _) hsize' hsize hvalid'
    hvalid (by rwa [hreturn]), hreturn, objectOf_ratioOf hsize.1 hsize.2 href hformat]

end DetectBase
