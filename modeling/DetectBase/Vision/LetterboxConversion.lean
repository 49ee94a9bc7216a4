import DetectBase.Structure.CoordinateConversion
import DetectBase.Vision.Letterbox

/-!
# Boxes in and out of the letterbox

The styles that `Update` computes are enough to take a box of the frame into the letterboxed picture
and back. The scaled frame with the border before it does not reach past the picture, although the
size that is kept free for it is a rounded one (`DetectBase.scaled_add_left_le`), so nothing is cut
on the way; and what one conversion does, the other undoes
(`DetectBase.letterboxConversion_roundTrip`).
-/

namespace DetectBase

/-! ### The styles -/

/-- `original_style`, with a format and a reference type. -/
def originalStyleExact (srcW srcH : ℤ) (format : BBoxCoordinateFormat)
    (refType : BBoxReferenceType) : ImageExpressStyle ℚ :=
  ⟨srcW, srcH, some format, some refType, false, 1, 0, 0, 0, 0⟩

/-- `inference_style`, with a format and a reference type. -/
def inferenceStyleExact (srcW srcH targetW targetH : ℤ) (format : BBoxCoordinateFormat)
    (refType : BBoxReferenceType) : ImageExpressStyle ℚ where
  width := targetW
  height := targetH
  format := some format
  refType := some refType
  isPaddedOrScaled := true
  scaleFactorFromOriginal := scaleFactorExact srcW srcH targetW targetH
  padXOffset := (letterboxExact srcW srcH targetW targetH).left
  padYOffset := (letterboxExact srcW srcH targetW targetH).top
  originalWidth := srcW
  originalHeight := srcH

variable {srcW srcH targetW targetH : ℤ}

/-! ### Nothing is cut -/

/-- A size that is rounded still fits where the rounded size does, next to the smaller half of what
is left. -/
theorem add_half_le {size : ℚ} {target : ℤ} (hfits : size ≤ target) :
    size + ((target - roundHalfAway size) / 2 : ℤ) ≤ target := by
  have hround := abs_le.mp (abs_roundHalfAway_sub_le size)
  have hle : roundHalfAway size ≤ target := roundHalfAway_le hfits
  rcases hle.lt_or_eq with hlt | heq
  · -- a border of one pixel at least after the frame makes up for the half
    have hhalf : (target - roundHalfAway size) / 2 + 1 ≤ target - roundHalfAway size := by omega
    have hcast : (((target - roundHalfAway size) / 2 + 1 : ℤ) : ℚ) ≤
        (target - roundHalfAway size : ℤ) := Int.cast_le.mpr hhalf
    push_cast at hcast ⊢
    linarith [hround.1]
  · rw [heq, sub_self, Int.zero_ediv, Int.cast_zero, add_zero]
    exact hfits

/-- **The scaled frame and the border before it end in the picture.** -/
theorem scaled_add_left_le (hsrcW : 0 < srcW) (hsrcH : 0 < srcH) (targetW targetH : ℤ) :
    let scaleFactor := scaleFactorExact srcW srcH targetW targetH
    let box := letterboxExact srcW srcH targetW targetH
    (srcW : ℚ) * scaleFactor + box.left ≤ targetW ∧
      (srcH : ℚ) * scaleFactor + box.top ≤ targetH := by
  obtain ⟨hfitsW, hfitsH⟩ := mul_scaleFactorExact_le hsrcW hsrcH targetW targetH
  rw [letterboxExact]
  split_ifs with hsame
  · dsimp only
    rw [Int.cast_zero, add_zero, add_zero]
    exact ⟨hfitsW, hfitsH⟩
  · dsimp only
    rw [roundHalfAway_half_sub (by norm_num) (by norm_num),
      roundHalfAway_half_sub (by norm_num) (by norm_num)]
    exact ⟨add_half_le hfitsW, add_half_le hfitsH⟩

/-- **A box of the frame stays in the picture.** -/
theorem originalToPadded_fitsIn (hsrcW : 0 < srcW) (hsrcH : 0 < srcH) (htargetW : 0 < targetW)
    (htargetH : 0 < targetH) (format format' : BBoxCoordinateFormat)
    (refType refType' : BBoxReferenceType) {ratio : ExactBBox} (h : ratio.FitsIn 1 1) :
    (originalToPadded (originalStyleExact srcW srcH format refType)
      (inferenceStyleExact srcW srcH targetW targetH format' refType') ratio).FitsIn 1 1 := by
  rw [originalToPadded]
  split_ifs with hinvalid
  · exact h
  · have hpos := scaleFactorExact_pos hsrcW hsrcH htargetW htargetH
    obtain ⟨hendW, hendH⟩ := scaled_add_left_le hsrcW hsrcH targetW targetH
    have htiles := letterboxExact_tiles hsrcW hsrcH htargetW htargetH
    have hscaled := (h.scale (Int.cast_nonneg hsrcW.le) (Int.cast_nonneg hsrcH.le)).scale hpos.le
      hpos.le
    rw [one_mul, one_mul] at hscaled
    have hw : (0 : ℚ) < targetW := Int.cast_pos.mpr htargetW
    have hh : (0 : ℚ) < targetH := Int.cast_pos.mpr htargetH
    have hpadded := hscaled.shift (Int.cast_nonneg htiles.nonneg.1)
      (Int.cast_nonneg htiles.nonneg.2.2.1)
    have hratio := (hpadded.mono hendW hendH).scale (one_div_pos.mpr hw).le (one_div_pos.mpr hh).le
    rwa [mul_one_div_cancel hw.ne', mul_one_div_cancel hh.ne'] at hratio

/-- **Into the letterbox and back**: a box of the frame, in any format and with any reference point,
is taken to one in the picture, and from there to itself. -/
theorem letterboxConversion_roundTrip (hsrcW : 0 < srcW) (hsrcH : 0 < srcH) (htargetW : 0 < targetW)
    (htargetH : 0 < targetH) (format format' : BBoxCoordinateFormat)
    (refType refType' : BBoxReferenceType) {object : ExactObject}
    (hformat : object.coordFormat = some format) (href : object.xyRefType = some refType)
    (hwithin : object.IsWithin srcW srcH) :
    let original := originalStyleExact srcW srcH format refType
    let inference := inferenceStyleExact srcW srcH targetW targetH format' refType'
    let padded := convertInferObjectCoordinate object original inference
    padded.1 = true ∧ padded.2.coordFormat = some format' ∧ padded.2.xyRefType = some refType' ∧
      padded.2.IsWithin targetW targetH ∧
      convertInferObjectCoordinate padded.2 inference original = (true, object) := by
  exact convertInferObjectCoordinate_roundTrip rfl rfl ⟨hsrcW, hsrcH⟩ ⟨htargetW, htargetH⟩
    ⟨nofun, nofun⟩ ⟨nofun, nofun⟩ href hformat hwithin fun _ =>
      originalToPadded_fitsIn hsrcW hsrcH htargetW htargetH format format' refType refType'

/-- A box in the middle of a frame of 1920 by 1080, in pixels from its center, in fractions of a
picture of 640 by 640 and back. -/
theorem letterboxConversion_roundTrip_wide :
    convertInferObjectCoordinate
      (convertInferObjectCoordinate ⟨⟨960, 540, 100, 200⟩, some .cxType, some .pixelInt⟩
        (originalStyleExact 1920 1080 .pixelInt .cxType)
        (inferenceStyleExact 1920 1080 640 640 .ratioFloat .ltxType)).2
      (inferenceStyleExact 1920 1080 640 640 .ratioFloat .ltxType)
      (originalStyleExact 1920 1080 .pixelInt .cxType) =
        (true, ⟨⟨960, 540, 100, 200⟩, some .cxType, some .pixelInt⟩) := by
  refine (letterboxConversion_roundTrip (by decide) (by decide) (by decide) (by decide) .pixelInt
    .ratioFloat .cxType .ltxType rfl rfl ⟨?_, ?_, ?_⟩).2.2.2.2
  · norm_num
  all_goals
    rw [cornerOf, if_neg (by decide)]
    norm_num [ExactBBox.toCorner, limitsOf]

end DetectBase
