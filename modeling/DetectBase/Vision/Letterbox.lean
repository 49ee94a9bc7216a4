import DetectBase.Foundations.Rounding
import DetectBase.Vision.FrameFormatting
import Mathlib.Data.Rat.Floor

/-!
# The letterbox in exact arithmetic

What `Update` computes when nothing but `std::round` rounds. The frame is scaled by the smaller of
the two ratios, so that it fits the target; its scaled size is rounded, and what is left of the
target is split into two borders by a half that is moved by a tenth down and up. The sizes add up
for every frame and every target (`DetectBase.letterboxExact_tiles`), and the rectangles that
`Convert` paints cover each pixel of the target once (`DetectBase.letterboxExact_spec`).
-/

namespace DetectBase

/-! ### The letterbox -/

/-- `scale_factor`, in exact arithmetic. -/
def scaleFactorExact (srcW srcH targetW targetH : ℤ) : ℚ :=
  if srcW = targetW ∧ srcH = targetH then 1
  else min ((targetW : ℚ) / srcW) ((targetH : ℚ) / srcH)

/-- **The letterbox** that `Update` computes, in exact arithmetic. -/
def letterboxExact (srcW srcH targetW targetH : ℤ) : Letterbox :=
  if srcW = targetW ∧ srcH = targetH then ⟨false, srcW, srcH, 0, 0, 0, 0⟩
  else
    let scaleFactor := scaleFactorExact srcW srcH targetW targetH
    let scaleW := roundHalfAway (srcW * scaleFactor)
    let scaleH := roundHalfAway (srcH * scaleFactor)
    let totalPadW : ℚ := (targetW - scaleW : ℤ) / 2
    let totalPadH : ℚ := (targetH - scaleH : ℤ) / 2
    { needResize := true
      scaleW := scaleW
      scaleH := scaleH
      left := roundHalfAway (totalPadW - 1 / 10)
      right := roundHalfAway (totalPadW + 1 / 10)
      top := roundHalfAway (totalPadH - 1 / 10)
      bottom := roundHalfAway (totalPadH + 1 / 10) }

/-- The context after `Update` with the given sizes, as far as `Convert` paints by it. -/
def contextExact (srcW srcH targetW targetH : ℤ) : FrameFormattingContext :=
  { FrameFormattingContext.new with
    srcW := srcW
    srcH := srcH
    targetW := targetW
    targetH := targetH
    box := letterboxExact srcW srcH targetW targetH }

variable {srcW srcH targetW targetH : ℤ}

/-! ### The scaled frame fits -/

theorem scaleFactorExact_pos (hsrcW : 0 < srcW) (hsrcH : 0 < srcH) (htargetW : 0 < targetW)
    (htargetH : 0 < targetH) : 0 < scaleFactorExact srcW srcH targetW targetH := by
  rw [scaleFactorExact]
  split_ifs
  · exact one_pos
  · refine lt_min (div_pos ?_ ?_) (div_pos ?_ ?_) <;> exact_mod_cast by assumption

/-- **The scaled frame fits the target.** -/
theorem mul_scaleFactorExact_le (hsrcW : 0 < srcW) (hsrcH : 0 < srcH) (targetW targetH : ℤ) :
    (srcW : ℚ) * scaleFactorExact srcW srcH targetW targetH ≤ targetW ∧
      (srcH : ℚ) * scaleFactorExact srcW srcH targetW targetH ≤ targetH := by
  have hw : (0 : ℚ) < srcW := Int.cast_pos.mpr hsrcW
  have hh : (0 : ℚ) < srcH := Int.cast_pos.mpr hsrcH
  rw [scaleFactorExact]
  split_ifs with hsame
  · rw [mul_one, mul_one, hsame.1, hsame.2]
    exact ⟨le_rfl, le_rfl⟩
  · rw [← le_div_iff₀' hw, ← le_div_iff₀' hh]
    exact ⟨min_le_left _ _, min_le_right _ _⟩

/-! ### The sizes add up -/

/-- One direction of the letterbox: the size of the target, of the scaled frame, and of the borders
before and after it. -/
structure Fitted (target scale before after : ℤ) : Prop where
  /-- They add up. -/
  sum : before + scale + after = target
  /-- None is negative. -/
  nonneg : 0 ≤ scale ∧ 0 ≤ before ∧ 0 ≤ after
  /-- The borders differ by one at most. -/
  balanced : |before - after| ≤ 1

/-- **A letterbox that fits the target**, in both directions. -/
structure Letterbox.Fits (box : Letterbox) (targetW targetH : ℤ) : Prop where
  /-- Its columns. -/
  cols : Fitted targetW box.scaleW box.left box.right
  /-- Its rows. -/
  rows : Fitted targetH box.scaleH box.top box.bottom

/-- A border is the half of what the scaled frame leaves. -/
theorem fitted_of_le {target scale : ℤ} (hscale : 0 ≤ scale) (hle : scale ≤ target) :
    Fitted target scale (roundHalfAway (((target - scale : ℤ) : ℚ) / 2 - 1 / 10))
      (roundHalfAway (((target - scale : ℤ) : ℚ) / 2 + 1 / 10)) := by
  rw [roundHalfAway_half_sub (by norm_num) (by norm_num),
    roundHalfAway_half_add (by norm_num) (by norm_num)]
  refine ⟨by omega, by omega, abs_le.mpr (by omega)⟩

theorem fitted_self {size : ℤ} (h : 0 ≤ size) : Fitted size size 0 0 :=
  ⟨by omega, by omega, by decide⟩

/-- **The letterbox fits the target**, for every frame and every target. -/
theorem letterboxExact_fits (hsrcW : 0 < srcW) (hsrcH : 0 < srcH) (htargetW : 0 < targetW)
    (htargetH : 0 < targetH) :
    (letterboxExact srcW srcH targetW targetH).Fits targetW targetH := by
  rw [letterboxExact]
  split_ifs with hsame
  · rw [← hsame.1, ← hsame.2]
    exact ⟨fitted_self hsrcW.le, fitted_self hsrcH.le⟩
  · have hpos := scaleFactorExact_pos hsrcW hsrcH htargetW htargetH
    obtain ⟨hfitsW, hfitsH⟩ := mul_scaleFactorExact_le hsrcW hsrcH targetW targetH
    have hround : ∀ {size target : ℤ}, 0 < size →
        (size : ℚ) * scaleFactorExact srcW srcH targetW targetH ≤ target →
        0 ≤ roundHalfAway ((size : ℚ) * scaleFactorExact srcW srcH targetW targetH) ∧
          roundHalfAway ((size : ℚ) * scaleFactorExact srcW srcH targetW targetH) ≤ target := by
      rintro size target hsize hfits
      have hnonneg : ((0 : ℤ) : ℚ) ≤ size * scaleFactorExact srcW srcH targetW targetH := by
        rw [Int.cast_zero]
        exact mul_nonneg (by exact_mod_cast hsize.le) hpos.le
      exact ⟨le_roundHalfAway hnonneg, roundHalfAway_le hfits⟩
    exact ⟨fitted_of_le (hround hsrcW hfitsW).1 (hround hsrcW hfitsW).2,
      fitted_of_le (hround hsrcH hfitsH).1 (hround hsrcH hfitsH).2⟩

/-- The letterbox makes up the picture. -/
theorem letterboxExact_tiles (hsrcW : 0 < srcW) (hsrcH : 0 < srcH) (htargetW : 0 < targetW)
    (htargetH : 0 < targetH) :
    (letterboxExact srcW srcH targetW targetH).Tiles targetW targetH := by
  obtain ⟨hw, hh⟩ := letterboxExact_fits hsrcW hsrcH htargetW htargetH
  refine ⟨hw.sum, hh.sum, ⟨hw.nonneg.2.1, hw.nonneg.2.2, hh.nonneg.2⟩, ?_⟩
  rw [letterboxExact]
  split_ifs
  · exact fun _ => ⟨rfl, rfl, rfl, rfl⟩
  · nofun

/-! ### The rectangles -/

/-- What a border contributes to the number of rectangles that contain a pixel. -/
theorem countP_border (ctx : FrameFormattingContext) (thickness : ℤ) (rect : Rect) (x y : ℕ) :
    (ctx.border thickness rect).countP (fun l => l.rect.contains x y) =
      if (ctx.box.needResize = true ∧ thickness > 0) ∧ rect.contains x y = true then 1 else 0 := by
  rw [FrameFormattingContext.border]
  by_cases hpaint : ctx.box.needResize = true ∧ thickness > 0
  · rw [if_pos hpaint, List.countP_singleton]
    simp only [hpaint, true_and]
  · rw [if_neg hpaint, if_neg fun h => hpaint h.1, List.countP_nil]

/-- **Each pixel is in one of the rectangles**, when the sizes add up. -/
theorem countP_layers {ctx : FrameFormattingContext} {w h : ℕ} (hw : ctx.targetW = w)
    (hh : ctx.targetH = h) (htiles : ctx.box.Tiles ctx.targetW ctx.targetH)
    (hscale : 0 ≤ ctx.box.scaleW ∧ 0 ≤ ctx.box.scaleH) {x y : ℕ} (hx : x < w) (hy : y < h)
    (scaled : ℕ → ℕ → Bgr) :
    (ctx.layers scaled).countP (fun l => l.rect.contains x y) = 1 := by
  obtain ⟨hcols, hrows, hnonneg, hplain⟩ := htiles
  rw [FrameFormattingContext.layers, List.countP_cons, FrameFormattingContext.borders,
    List.countP_append, List.countP_append, List.countP_append]
  simp only [countP_border, Rect.contains_iff, FrameFormattingContext.frameLayer]
  have hpainted : ∀ thickness : ℤ, (ctx.box.needResize = false → thickness = 0) →
      0 < thickness → ctx.box.needResize = true := by
    rintro thickness hzero hpos
    rw [← Bool.not_eq_false]
    rintro hfalse
    exact absurd (hzero hfalse) hpos.ne'
  -- the rows above, the rows below, and the three parts of the rows between them
  rcases lt_or_ge (y : ℤ) ctx.box.top with htop | htop
  · have hpaint := hpainted ctx.box.top (fun hf => (hplain hf).2.2.1) (by omega)
    simp only [hpaint, true_and]
    rw [if_pos (by omega), if_neg (by omega), if_neg (by omega), if_neg (by omega),
      if_neg (by omega)]
  · rcases lt_or_ge (y : ℤ) (ctx.box.top + ctx.box.scaleH) with hmid | hbottom
    · rcases lt_or_ge (x : ℤ) ctx.box.left with hleft | hleft
      · have hpaint := hpainted ctx.box.left (fun hf => (hplain hf).1) (by omega)
        simp only [hpaint, true_and]
        rw [if_neg (by omega), if_neg (by omega), if_pos (by omega), if_neg (by omega),
          if_neg (by omega)]
      · rcases lt_or_ge (x : ℤ) (ctx.box.left + ctx.box.scaleW) with hframe | hright
        · rw [if_neg (by omega), if_neg (by omega), if_neg (by omega), if_neg (by omega),
            if_pos (by omega)]
        · have hpaint := hpainted ctx.box.right (fun hf => (hplain hf).2.1) (by omega)
          simp only [hpaint, true_and]
          rw [if_neg (by omega), if_neg (by omega), if_neg (by omega), if_pos (by omega),
            if_neg (by omega)]
    · have hpaint := hpainted ctx.box.bottom (fun hf => (hplain hf).2.2.2) (by omega)
      simp only [hpaint, true_and]
      rw [if_neg (by omega), if_pos (by omega), if_neg (by omega), if_neg (by omega),
        if_neg (by omega)]

/-- **The rectangles are in the picture**, when the sizes add up. -/
theorem accepts_layers {ctx : FrameFormattingContext}
    (htiles : ctx.box.Tiles ctx.targetW ctx.targetH)
    (hscale : 0 ≤ ctx.box.scaleW ∧ 0 ≤ ctx.box.scaleH) (scaled : ℕ → ℕ → Bgr) :
    ∀ l ∈ ctx.layers scaled, ctx.accepts l = true := by
  obtain ⟨hcols, hrows, hnonneg, -⟩ := htiles
  have hborder : ∀ thickness rect, rect.within ctx.targetW ctx.targetH = true →
      ∀ l ∈ ctx.border thickness rect, ctx.accepts l = true := by
    rintro thickness rect hwithin l hl
    rw [FrameFormattingContext.border] at hl
    split_ifs at hl
    · rw [List.mem_singleton.mp hl]
      exact hwithin
    · cases hl
  rintro l hl
  rw [FrameFormattingContext.layers, List.mem_cons, FrameFormattingContext.borders,
    List.mem_append, List.mem_append, List.mem_append] at hl
  rcases hl with rfl | ((hl | hl) | hl) | hl
  · rw [FrameFormattingContext.accepts, FrameFormattingContext.frameLayer, Rect.within,
      decide_eq_true_eq]
    dsimp only
    omega
  all_goals
    refine hborder _ _ ?_ l hl
    simp only [Rect.within, decide_eq_true_eq]
    omega

/-- **The letterbox tiles the target**: its sizes add up, its borders are balanced, and the frame
and the borders that are painted cover each pixel of the target once and nothing else. -/
theorem letterboxExact_spec (hsrcW : 0 < srcW) (hsrcH : 0 < srcH) (htargetW : 0 < targetW)
    (htargetH : 0 < targetH) :
    (letterboxExact srcW srcH targetW targetH).Fits targetW targetH ∧
    ∀ scaled : ℕ → ℕ → Bgr,
      (∀ l ∈ (contextExact srcW srcH targetW targetH).layers scaled,
        l.rect.within targetW targetH = true) ∧
      ∀ x y : ℕ, x < targetW → y < targetH →
        ((contextExact srcW srcH targetW targetH).layers scaled).countP
          (fun l => l.rect.contains x y) = 1 := by
  have hfits := letterboxExact_fits hsrcW hsrcH htargetW htargetH
  have htiles := letterboxExact_tiles hsrcW hsrcH htargetW htargetH
  have hscale := And.intro hfits.cols.nonneg.1 hfits.rows.nonneg.1
  refine ⟨hfits, fun scaled => ⟨accepts_layers htiles hscale scaled, fun x y hx hy => ?_⟩⟩
  obtain ⟨w, hw⟩ := Int.eq_ofNat_of_zero_le htargetW.le
  obtain ⟨h, hh⟩ := Int.eq_ofNat_of_zero_le htargetH.le
  exact countP_layers hw hh htiles hscale (by omega) (by omega) scaled

/-- A frame of 1920 by 1080 in a target of 640 by 641. -/
theorem letterboxExact_spec_wide :
    (letterboxExact 1920 1080 640 641).Fits 640 641 :=
  (letterboxExact_spec (by decide) (by decide) (by decide) (by decide)).1

end DetectBase
