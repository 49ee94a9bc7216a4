import DetectBase.Foundations.FloatArithmetic
import DetectBase.Structure.CoordinateConversion
import Mathlib.Algebra.Order.Field.Basic

/-!
# Conversion of boxes in single precision

`ConvertInferObjectCoordinate` with the numbers that the service computes with: every operation is
rounded to a `float`, and infinities and values that are no numbers go through it as well.

The two ends of a side are cut to the target, but the length of the side is rounded once more, and
so is its middle, so that a box may stick out of the target by what rounding does: at its end by
less than one part in `2 ^ 22` of the size of the target, and where it begins by half of the least
positive number, and not at all when the target has the corner of a box
(`DetectBase.FloatConversion.convertInferObjectCoordinate_nearlyWithin`). What the coordinates were
before does not matter.
-/

namespace DetectBase

namespace FloatConversion

/-! ### The conversion -/

/-- `float`. -/
abbrev CxxFloat := Ieee binary32

/-- An `int` as a `float`. -/
abbrev toFloat (z : ℤ) : CxxFloat := Ieee.ofInt binary32 z

/-- `InferBBox`. -/
@[ext] structure FloatBBox where
  /-- `x`. -/
  x : CxxFloat
  /-- `y`. -/
  y : CxxFloat
  /-- `w`. -/
  w : CxxFloat
  /-- `h`. -/
  h : CxxFloat
deriving DecidableEq

/-- `InferObject`, as far as a conversion reads and writes it. -/
@[ext] structure FloatObject where
  /-- `bbox`. -/
  bbox : FloatBBox
  /-- `xy_ref_type`. -/
  xyRefType : Option BBoxReferenceType
  /-- `coord_format`. -/
  coordFormat : Option BBoxCoordinateFormat
deriving DecidableEq

/-- `are_equal_float`, with the distance from one to the next number. -/
def areEqualFloat (a b : CxxFloat) : Bool :=
  (a.sub b).abs.lt (some (ofQuotient binary32 1 (2 ^ 23)))

namespace FloatBBox

/-- Each coordinate times a factor of its direction. -/
def scale (box : FloatBBox) (factorX factorY : CxxFloat) : FloatBBox :=
  ⟨box.x.mul factorX, box.y.mul factorY, box.w.mul factorX, box.h.mul factorY⟩

/-- Each coordinate divided by a size. -/
def divide (box : FloatBBox) (sizeX sizeY : CxxFloat) : FloatBBox :=
  ⟨box.x.div sizeX, box.y.div sizeY, box.w.div sizeX, box.h.div sizeY⟩

end FloatBBox

/-- `ConvertToIntermediateRatioLtx`. -/
def convertToIntermediateRatioLtx (bbox : FloatBBox) (refType : Option BBoxReferenceType)
    (format : Option BBoxCoordinateFormat) (srcWidth srcHeight : ℤ) : Option FloatBBox :=
  if srcWidth ≤ 0 ∨ srcHeight ≤ 0 then none
  else do
    let temp ← match format with
      | some .pixelInt => some (bbox.divide (toFloat srcWidth) (toFloat srcHeight))
      | some .ratioFloat => some bbox
      | none => none
    match refType with
    | some .cxType => some ⟨temp.x.sub temp.w.half, temp.y.sub temp.h.half, temp.w, temp.h⟩
    | some .ltxType => some temp
    | none => none

/-- `ConvertFromIntermediateRatioLtx`. -/
def convertFromIntermediateRatioLtx (ratio : FloatBBox) (dst : ImageExpressStyle CxxFloat) :
    Option FloatBBox :=
  if dst.width ≤ 0 ∨ dst.height ≤ 0 then none
  else do
    let temp ← match dst.refType with
      | some .cxType => some ⟨ratio.x.add ratio.w.half, ratio.y.add ratio.h.half, ratio.w, ratio.h⟩
      | some .ltxType => some ratio
      | none => none
    match dst.format with
    | some .pixelInt => some (temp.scale (toFloat dst.width) (toFloat dst.height))
    | some .ratioFloat => some temp
    | none => none

/-- The parameters between an original image and a padded one that keep the adjustment from being
made. -/
def invalidParameters (original padded : ImageExpressStyle CxxFloat) : Bool :=
  padded.scaleFactorFromOriginal.le (some (ofDecimal binary32 false 1 (-6))) ∨
    original.width ≤ 0 ∨ original.height ≤ 0 ∨ padded.width ≤ 0 ∨ padded.height ≤ 0 ∨
    padded.originalWidth ≤ 0 ∨ padded.originalHeight ≤ 0 ∨
    original.width ≠ padded.originalWidth ∨ original.height ≠ padded.originalHeight

/-- The fractions of the original image, from those of the padded one. -/
def paddedToOriginal (src dst : ImageExpressStyle CxxFloat) (ratio : FloatBBox) : FloatBBox :=
  if invalidParameters dst src then ratio
  else
    let padded := ratio.scale (toFloat src.width) (toFloat src.height)
    -- the offset does not change the size
    let scaled : FloatBBox := ⟨padded.x.sub (toFloat src.padXOffset),
      padded.y.sub (toFloat src.padYOffset), padded.w, padded.h⟩
    let invScale := (toFloat 1).div src.scaleFactorFromOriginal
    let orig := scaled.scale invScale invScale
    orig.scale ((toFloat 1).div (toFloat dst.width)) ((toFloat 1).div (toFloat dst.height))

/-- The fractions of the padded image, from those of the original one. -/
def originalToPadded (src dst : ImageExpressStyle CxxFloat) (ratio : FloatBBox) : FloatBBox :=
  if invalidParameters src dst then ratio
  else
    let orig := ratio.scale (toFloat src.width) (toFloat src.height)
    let scaled := orig.scale dst.scaleFactorFromOriginal dst.scaleFactorFromOriginal
    let padded : FloatBBox := ⟨scaled.x.add (toFloat dst.padXOffset),
      scaled.y.add (toFloat dst.padYOffset), scaled.w, scaled.h⟩
    padded.scale ((toFloat 1).div (toFloat dst.width)) ((toFloat 1).div (toFloat dst.height))

/-- The second stage of the conversion. -/
def adjustPadding (src dst : ImageExpressStyle CxxFloat) (ratio : FloatBBox) : FloatBBox :=
  if src.isPaddedOrScaled && !dst.isPaddedOrScaled then paddedToOriginal src dst ratio
  else if !src.isPaddedOrScaled && dst.isPaddedOrScaled then originalToPadded src dst ratio
  else ratio

/-- The two ends of a side, which is given by its beginning or by its middle. -/
def endsOf (refType : Option BBoxReferenceType) (place size : CxxFloat) : CxxFloat × CxxFloat :=
  if refType = some .ltxType then (place, place.add size)
  else (place.sub size.half, place.add size.half)

/-- A side of the box cut to the target: its beginning or its middle, and its length. -/
def clampSide (refType : Option BBoxReferenceType) (place size limit : CxxFloat) :
    CxxFloat × CxxFloat :=
  let ends := endsOf refType place size
  -- what is no number gets past `std::min`, but not past `std::max`
  let clampedLow := Ieee.max (some (.zero binary32)) (ends.1.min limit)
  let clampedHigh := clampedLow.max (ends.2.min limit)
  let clampedSize := clampedHigh.sub clampedLow
  (if refType = some .ltxType then clampedLow else clampedLow.add clampedSize.half, clampedSize)

/-- The last stage of the conversion: the corners of the box are cut to the target. -/
def clampCorners (refType : Option BBoxReferenceType) (maxX maxY : CxxFloat) (bbox : FloatBBox) :
    FloatBBox :=
  let sideX := clampSide refType bbox.x bbox.w maxX
  let sideY := clampSide refType bbox.y bbox.h maxY
  ⟨sideX.1, sideY.1, sideX.2, sideY.2⟩

/-- The limits of the coordinates in an image. -/
def limitsOf (format : Option BBoxCoordinateFormat) (width height : ℤ) : CxxFloat × CxxFloat :=
  if format = some .pixelInt then (toFloat width, toFloat height) else (toFloat 1, toFloat 1)

/-- The styles are the same as far as the conversion looks at them. -/
def stylesAreIdentical (object : FloatObject) (src dst : ImageExpressStyle CxxFloat) : Bool :=
  let basicPropertiesMatch := object.coordFormat = dst.format ∧ object.xyRefType = dst.refType ∧
    src.width = dst.width ∧ src.height = dst.height ∧ src.isPaddedOrScaled = dst.isPaddedOrScaled
  let paddingDetailsMatch :=
    areEqualFloat src.scaleFactorFromOriginal dst.scaleFactorFromOriginal = true ∧
      src.padXOffset = dst.padXOffset ∧ src.padYOffset = dst.padYOffset ∧
      src.originalWidth = dst.originalWidth ∧ src.originalHeight = dst.originalHeight
  basicPropertiesMatch ∧ (src.isPaddedOrScaled = false ∨ paddingDetailsMatch)

/-- **`ConvertInferObjectCoordinate`**: whether it succeeds, and the object afterwards. -/
def convertInferObjectCoordinate (object : FloatObject) (src dst : ImageExpressStyle CxxFloat) :
    Bool × FloatObject :=
  if stylesAreIdentical object src dst then (true, object)
  else
    match convertToIntermediateRatioLtx object.bbox object.xyRefType object.coordFormat src.width
        src.height with
    | none => (false, object)
    | some ratio =>
      match convertFromIntermediateRatioLtx (adjustPadding src dst ratio) dst with
      | none => (false, object)
      | some finalBbox =>
        let limits := limitsOf dst.format dst.width dst.height
        (true, ⟨clampCorners dst.refType limits.1 limits.2 finalBbox, dst.refType, dst.format⟩)

/-! ### Where the box is -/

/-- The object in exact arithmetic, if its coordinates are finite numbers. -/
def FloatObject.toExact (object : FloatObject) : Option ExactObject := do
  let x ← object.bbox.x.value?
  let y ← object.bbox.y.value?
  let w ← object.bbox.w.value?
  let h ← object.bbox.h.value?
  some ⟨⟨x, y, w, h⟩, object.xyRefType, object.coordFormat⟩

/-- **A side is in the target but for the rounding**: where it begins, how long it is, and where
the target ends. -/
structure NearlyWithin (refType : Option BBoxReferenceType) (corner length limit : ℚ) : Prop where
  /-- It has a length. -/
  size : 0 ≤ length
  /-- It begins in the target, or half of the least positive number before it. -/
  low : -1 / 2 ^ 150 ≤ corner
  /-- It begins in the target when it is given by its beginning. -/
  lowCorner : refType = some .ltxType → 0 ≤ corner
  /-- It ends in the target, or one part in `2 ^ 22` behind it. -/
  high : corner + length ≤ limit * (1 + 1 / 2 ^ 22)

/-- **The box of the object is in the image but for the rounding.** -/
def IsNearlyWithin (object : ExactObject) (width height : ℤ) : Prop :=
  let corner := cornerOf object.xyRefType object.bbox
  let limits := DetectBase.limitsOf object.coordFormat width height
  NearlyWithin object.xyRefType corner.x object.bbox.w limits.1 ∧
    NearlyWithin object.xyRefType corner.y object.bbox.h limits.2

theorem representable_two_pow {k : ℕ} (hk : k < 277) : binary32.Representable (2 ^ k) :=
  ⟨1, k, by decide, (Nat.one_mul _).symm, Nat.pow_lt_pow_right (by decide) hk⟩

/-- A number is rounded up by half a unit in its last place at most. -/
theorem mul_roundUnits_binary32_le (n : ℕ) :
    2 ^ 24 * roundUnits binary32 n 1 ≤ (2 ^ 24 + 1) * n :=
  mul_roundUnits_le binary32 n

/-- **An `int` as a `float`**: a number, which is not farther above than rounding goes. -/
theorem isUnits_toFloat {z : ℤ} (hpos : 0 < z) (hlt : z < 2 ^ 31) :
    ∃ n : ℕ, (toFloat z).IsUnits n ∧ n ≤ 2 ^ 180 ∧
      2 ^ 24 * (n : ℚ) ≤ (2 ^ 24 + 1) * (z * 2 ^ 149) := by
  obtain ⟨m, rfl⟩ : ∃ m : ℕ, z = m := ⟨z.toNat, by omega⟩
  have hle : m * 2 ^ 149 ≤ 2 ^ 180 * 1 := by omega
  have hround := roundUnits_le Nat.one_pos (representable_two_pow (k := 180) (by decide)) hle
  refine ⟨roundUnits binary32 (m * 2 ^ 149) 1, ?_, hround, ?_⟩
  · show Ieee.IsUnits (some (nearest binary32 ((m : ℤ) < 0 : Bool) (m * 2 ^ 149) 1)) _
    rw [decide_eq_false (by omega)]
    exact Ieee.isUnits_nearest (hround.trans_lt (Nat.pow_lt_pow_right (by decide) (by decide)))
  · exact_mod_cast mul_roundUnits_binary32_le (m * 2 ^ 149)

/-- The two ends of a side that has been cut. -/
theorem exists_clampedEnds {limit : CxxFloat} {n : ℕ} (hlimit : limit.IsUnits n)
    (low high : CxxFloat) : ∃ a b : ℕ, a ≤ b ∧ b ≤ n ∧
      (Ieee.max (some (.zero binary32)) (low.min limit)).IsUnits a ∧
      ((Ieee.max (some (.zero binary32)) (low.min limit)).max (high.min limit)).IsUnits b := by
  obtain ⟨a, -, ha, hlow⟩ := Ieee.isUnits_zero.clamp hlimit (Nat.zero_le n) low
  obtain ⟨b, hb, hbn, hhigh⟩ := hlow.clamp hlimit ha high
  exact ⟨a, b, hb, hbn, hlow, hhigh⟩

variable {refType : Option BBoxReferenceType} {limit : CxxFloat} {n : ℕ}

/-- **A side that has been cut**, in units. -/
theorem clampSide_corner (href : refType = some .ltxType) (hlimit : limit.IsUnits n)
    (place size : CxxFloat) : ∃ a w : ℕ, (clampSide refType place size limit).1.IsUnits a ∧
      (clampSide refType place size limit).2.IsUnits w ∧
      2 ^ 24 * (a + w) ≤ (2 ^ 24 + 1) * n := by
  obtain ⟨a, b, hab, hbn, hlow, hhigh⟩ := exists_clampedEnds hlimit
    (endsOf refType place size).1 (endsOf refType place size).2
  refine ⟨a, roundUnits binary32 (b - a) 1, ?_, hlow.sub hhigh hab, ?_⟩
  · rw [clampSide, if_pos href]
    exact hlow
  · -- the ends are in the target, and only the length between them is rounded
    have hsize := mul_roundUnits_binary32_le (b - a)
    omega

/-- **A side that has been cut**, given by its middle, in units. -/
theorem clampSide_center (href : refType ≠ some .ltxType) (hlimit : limit.IsUnits n)
    (hn : n ≤ 2 ^ 180) (place size : CxxFloat) : ∃ c w : ℕ,
      (clampSide refType place size limit).1.IsUnits c ∧
      (clampSide refType place size limit).2.IsUnits w ∧ w ≤ 2 * c + 1 ∧
      2 ^ 48 * (2 * c + w) ≤ (2 ^ 49 + 2 ^ 26) * n + 2 ^ 49 := by
  obtain ⟨a, b, hab, hbn, hlow, hhigh⟩ := exists_clampedEnds hlimit
    (endsOf refType place size).1 (endsOf refType place size).2
  have hsize := hlow.sub hhigh hab
  have hwb : roundUnits binary32 (b - a) 1 ≤ b :=
    roundUnits_le Nat.one_pos hhigh.representable (by omega)
  have hw := mul_roundUnits_binary32_le (b - a)
  generalize roundUnits binary32 (b - a) 1 = w at *
  -- half of the length is rounded only if it is not a number of units
  obtain ⟨hhalf, hhalf'⟩ := roundUnits_half hsize.representable
  have hmiddle := hsize.half
  generalize roundUnits binary32 w 2 = h at *
  have hc := mul_roundUnits_binary32_le (a + h)
  have hch : h ≤ roundUnits binary32 (a + h) 1 :=
    le_roundUnits Nat.one_pos hmiddle.representable (by omega)
  refine ⟨roundUnits binary32 (a + h) 1, w, ?_, hsize, by omega, by omega⟩
  rw [clampSide, if_neg href]
  exact hlow.add hmiddle (representable_two_pow (k := 181) (by decide)) (by omega)

/-- **A side that has been cut is in the target but for the rounding.** -/
theorem nearlyWithin_clampSide {z : ℤ} (hpos : 0 < z) (hlt : z < 2 ^ 31)
    (refType : Option BBoxReferenceType) (place size : CxxFloat) : ∃ p w : ℚ,
      (clampSide refType place size (toFloat z)).1.value? = some p ∧
      (clampSide refType place size (toFloat z)).2.value? = some w ∧
      NearlyWithin refType (if refType = some .ltxType then p else p - w / 2) w z := by
  obtain ⟨n, hlimit, hn, hnear⟩ := isUnits_toFloat hpos hlt
  have hone : (1 : ℚ) ≤ z := by exact_mod_cast hpos
  by_cases href : refType = some .ltxType
  · obtain ⟨a, w, ha, hw, hhigh⟩ := clampSide_corner href hlimit place size
    refine ⟨a / 2 ^ 149, w / 2 ^ 149, ha.value?_eq, hw.value?_eq, ?_⟩
    rw [if_pos href]
    have hhigh' : 2 ^ 24 * ((a : ℚ) + w) ≤ (2 ^ 24 + 1) * n := by exact_mod_cast hhigh
    have hcorner : (0 : ℚ) ≤ a / 2 ^ 149 := by positivity
    refine ⟨by positivity, le_trans (by norm_num) hcorner, fun _ => hcorner, ?_⟩
    rw [← add_div, div_le_iff₀ (by positivity)]
    linarith
  · obtain ⟨c, w, hc, hw, hlow, hhigh⟩ := clampSide_center href hlimit hn place size
    refine ⟨c / 2 ^ 149, w / 2 ^ 149, hc.value?_eq, hw.value?_eq, ?_⟩
    rw [if_neg href]
    have hlow' : (w : ℚ) ≤ 2 * c + 1 := by exact_mod_cast hlow
    have hhigh' : 2 ^ 48 * (2 * (c : ℚ) + w) ≤ (2 ^ 49 + 2 ^ 26) * n + 2 ^ 49 := by
      exact_mod_cast hhigh
    have hcorner : (c : ℚ) / 2 ^ 149 - w / 2 ^ 149 / 2 = (2 * c - w) / 2 ^ 150 := by ring
    refine ⟨by positivity, ?_, fun h => absurd h href, ?_⟩
    · rw [hcorner]
      exact div_le_div_of_nonneg_right (by linarith) (by positivity)
    · have hend : (c : ℚ) / 2 ^ 149 - w / 2 ^ 149 / 2 + w / 2 ^ 149 = (2 * c + w) / 2 ^ 150 := by
        ring
      rw [hend, div_le_iff₀ (by positivity)]
      linarith

/-- The limits of a target, as integers. -/
theorem exists_limitsOf (format : Option BBoxCoordinateFormat) {width height : ℤ}
    (hwidth : 0 < width ∧ width < 2 ^ 31) (hheight : 0 < height ∧ height < 2 ^ 31) :
    ∃ x y : ℤ, (0 < x ∧ x < 2 ^ 31) ∧ (0 < y ∧ y < 2 ^ 31) ∧
      limitsOf format width height = (toFloat x, toFloat y) ∧
      DetectBase.limitsOf format width height = ((x : ℚ), (y : ℚ)) := by
  by_cases hformat : format = some .pixelInt
  · refine ⟨width, height, hwidth, hheight, ?_, ?_⟩
    · rw [limitsOf, if_pos hformat]
    · rw [DetectBase.limitsOf, if_pos hformat]
  · refine ⟨1, 1, by decide, by decide, ?_, ?_⟩
    · rw [limitsOf, if_neg hformat]
    · rw [DetectBase.limitsOf, if_neg hformat, Int.cast_one]

/-- **A box that has been cut to the target is in it but for the rounding.** -/
theorem isNearlyWithin_clampCorners {refType : Option BBoxReferenceType}
    {format : Option BBoxCoordinateFormat} {width height : ℤ}
    (hwidth : 0 < width ∧ width < 2 ^ 31) (hheight : 0 < height ∧ height < 2 ^ 31)
    (bbox : FloatBBox) : ∃ o : ExactObject,
      FloatObject.toExact ⟨clampCorners refType (limitsOf format width height).1
        (limitsOf format width height).2 bbox, refType, format⟩ = some o ∧
      o.coordFormat = format ∧ o.xyRefType = refType ∧ IsNearlyWithin o width height := by
  obtain ⟨limitX, limitY, hx, hy, hlimits, hexact⟩ := exists_limitsOf format hwidth hheight
  obtain ⟨x, w, hx, hw, hsideX⟩ := nearlyWithin_clampSide hx.1 hx.2 refType bbox.x bbox.w
  obtain ⟨y, h, hy, hh, hsideY⟩ := nearlyWithin_clampSide hy.1 hy.2 refType bbox.y bbox.h
  refine ⟨⟨⟨x, y, w, h⟩, refType, format⟩, ?_, rfl, rfl, ?_⟩
  · rw [hlimits]
    simp only [FloatObject.toExact, clampCorners, hx, hy, hw, hh, Option.bind_eq_bind,
      Option.bind_some]
  · rw [IsNearlyWithin]
    dsimp only
    rw [hexact, cornerOf]
    by_cases href : refType = some .ltxType
    · rw [if_pos href] at hsideX hsideY ⊢
      exact ⟨hsideX, hsideY⟩
    · rw [if_neg href] at hsideX hsideY ⊢
      exact ⟨hsideX, hsideY⟩

/-- **A conversion that succeeds leaves a box of finite numbers in the target but for the
rounding**, unless the styles are the same and it leaves the object as it is; a conversion that
fails leaves the object as it is. -/
theorem convertInferObjectCoordinate_nearlyWithin (object : FloatObject)
    (src dst : ImageExpressStyle CxxFloat) (hwidth : dst.width < 2 ^ 31)
    (hheight : dst.height < 2 ^ 31) :
    ((convertInferObjectCoordinate object src dst).1 = true →
      if stylesAreIdentical object src dst = true then
        (convertInferObjectCoordinate object src dst).2 = object
      else ∃ o, (convertInferObjectCoordinate object src dst).2.toExact = some o ∧
        o.coordFormat = dst.format ∧ o.xyRefType = dst.refType ∧
        IsNearlyWithin o dst.width dst.height) ∧
    ((convertInferObjectCoordinate object src dst).1 = false →
      (convertInferObjectCoordinate object src dst).2 = object) := by
  rw [convertInferObjectCoordinate]
  split_ifs with hidentical
  · exact ⟨fun _ => rfl, fun _ => rfl⟩
  · split
    · exact ⟨nofun, fun _ => rfl⟩
    · split
      · exact ⟨nofun, fun _ => rfl⟩
      · next finalBbox hfinal =>
        -- the sizes of the target have been looked at by then
        have hpos : ¬ (dst.width ≤ 0 ∨ dst.height ≤ 0) := by
          rintro hle
          rw [convertFromIntermediateRatioLtx, if_pos hle] at hfinal
          cases hfinal
        exact ⟨fun _ => isNearlyWithin_clampCorners (by omega) (by omega) finalBbox, nofun⟩

/-- An image of the given size that is no part of another one, in pixels from the corner. -/
def plainStyle (width height : ℤ) : ImageExpressStyle CxxFloat :=
  ⟨width, height, some .pixelInt, some .ltxType, false, toFloat 1, 0, 0, 0, 0⟩

/-- A box in pixels that has its corner at `(2 * 10 ^ (-5), 0)`, as wide as an image of 960
pixels. -/
def asWide : FloatObject :=
  ⟨⟨some (ofDecimal binary32 false 2 (-5)), toFloat 0, toFloat 960, toFloat 10⟩, some .ltxType,
    some .pixelInt⟩

/-- In an image of twice the size it is cut. -/
theorem convertInferObjectCoordinate_nearlyWithin_asWide : ∃ o,
    (convertInferObjectCoordinate asWide (plainStyle 960 540) (plainStyle 1920 1080)).2.toExact =
      some o ∧ o.coordFormat = some .pixelInt ∧ o.xyRefType = some .ltxType ∧
      IsNearlyWithin o 1920 1080 :=
  (convertInferObjectCoordinate_nearlyWithin asWide (plainStyle 960 540) (plainStyle 1920 1080)
    (by decide) (by decide)).1 rfl

/-- A box that sticks out of the image at all sides. -/
def sticksOut : FloatObject :=
  ⟨⟨toFloat (-10), toFloat (-10), toFloat 200, toFloat 200⟩, some .ltxType, some .pixelInt⟩

/-- A conversion that succeeds leaves a box in the target, and one that fails leaves the object as
it is. -/
def ConvertsWithin (object : FloatObject) (src dst : ImageExpressStyle CxxFloat) : Prop :=
  ((convertInferObjectCoordinate object src dst).1 = true →
    ∃ o, (convertInferObjectCoordinate object src dst).2.toExact = some o ∧
      o.IsWithin dst.width dst.height) ∧
  ((convertInferObjectCoordinate object src dst).1 = false →
    (convertInferObjectCoordinate object src dst).2 = object)

/-- A box that sticks out of an image stays as it is in an image of the same style, and the one as
wide as the image ends behind the target when it has been cut: its length is rounded to the
whole of it. -/
theorem not_convertInferObjectCoordinate_within :
    ¬ ConvertsWithin sticksOut (plainStyle 100 100) (plainStyle 100 100) ∧
    ¬ ConvertsWithin asWide (plainStyle 960 540) (plainStyle 1920 1080) := by
  constructor
  · rintro ⟨hwithin, -⟩
    obtain ⟨o, ho, hin⟩ := hwithin rfl
    have hlow : ((convertInferObjectCoordinate sticksOut (plainStyle 100 100)
        (plainStyle 100 100)).2.toExact.map fun o =>
          decide (0 ≤ (cornerOf o.xyRefType o.bbox).x)) = some false := by
      decide +kernel
    rw [ho, Option.map_some, Option.some.injEq, decide_eq_false_iff_not] at hlow
    exact hlow hin.low.1
  · rintro ⟨hwithin, -⟩
    obtain ⟨o, ho, hin⟩ := hwithin rfl
    have hhigh : ((convertInferObjectCoordinate asWide (plainStyle 960 540)
        (plainStyle 1920 1080)).2.toExact.map fun o =>
          decide ((cornerOf o.xyRefType o.bbox).x + o.bbox.w ≤
            (DetectBase.limitsOf o.coordFormat 1920 1080).1)) = some false := by
      decide +kernel
    rw [ho, Option.map_some, Option.some.injEq, decide_eq_false_iff_not] at hhigh
    exact hhigh hin.high.1

end FloatConversion

end DetectBase
