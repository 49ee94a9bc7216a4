import DetectBase.Foundations.Transition
import DetectBase.Structure.CoordinateConversion
import DetectBase.Vision.FrameFormatting

/-!
# Updates of a context, one after the other

`Update` of a `FrameFormattingContext` writes the sizes before it asks for a scaler, and the styles
after it has got one. It does nothing when the context is initialized and the sizes are those that
it has, whatever became of the call that wrote them and whatever the pixel format is.

What the members say of each other holds in every run (`DetectBase.StyledContext.Coherent`): a
scaler, and the styles with it, are those of the sizes. This is not enough for a call that returns
true without doing anything: there may be no scaler, after a call that has failed, and the scaler
may be one for frames of another pixel format. A call is answered as it should be exactly when this
is not the case (`DetectBase.StyledContext.matches_iff_fresh`), and so are all calls of a run
(`DetectBase.StyledContext.guarded_matches_iff`).
-/

namespace DetectBase

/-! ### What is computed for a call -/

/-- `scale_factor`, at the end of `Update`. -/
def scaleFactorOf (srcW srcH targetW targetH : ℤ) : Single :=
  if srcW = targetW ∧ srcH = targetH then ofInt binary32 1
  else
    let wRatio := (ofInt binary32 targetW).div (ofInt binary32 srcW)
    let hRatio := (ofInt binary32 targetH).div (ofInt binary32 srcH)
    if hRatio < wRatio then hRatio else wRatio

/-- The scaler that `Update` asks for. -/
def scalerOf (srcW srcH targetW targetH format : ℤ) : SwsContext where
  srcW := srcW
  srcH := srcH
  srcFormat := format
  dstW := (letterboxOf srcW srcH targetW targetH).scaleW
  dstH := (letterboxOf srcW srcH targetW targetH).scaleH

/-- `ImageExpressStyle( w, h, fmt, ref )`, with the defaults of the other parameters. -/
def ImageExpressStyle.of (w h : ℤ) (fmt : BBoxCoordinateFormat) (ref : BBoxReferenceType) :
    ImageExpressStyle Single :=
  ⟨w, h, some fmt, some ref, false, ofInt binary32 1, 0, 0, 0, 0⟩

/-- The `original_style` that `Update` writes. -/
def originalStyleOf (srcW srcH : ℤ) : ImageExpressStyle Single :=
  .of srcW srcH .pixelInt .ltxType

/-- The `inference_style` that `Update` writes. -/
def inferenceStyleOf (srcW srcH targetW targetH : ℤ) : ImageExpressStyle Single :=
  { ImageExpressStyle.of targetW targetH .ratioFloat .ltxType with
    isPaddedOrScaled := true
    scaleFactorFromOriginal := scaleFactorOf srcW srcH targetW targetH
    padXOffset := (letterboxOf srcW srcH targetW targetH).left
    padYOffset := (letterboxOf srcW srcH targetW targetH).top
    originalWidth := srcW
    originalHeight := srcH }

/-! ### The context with its styles -/

/-- `FrameFormattingContext` with its styles. -/
structure StyledContext where
  /-- The other members. -/
  context : FrameFormattingContext
  /-- `original_style`. -/
  originalStyle : ImageExpressStyle Single
  /-- `inference_style`. -/
  inferenceStyle : ImageExpressStyle Single

/-- A call of `Update`. -/
structure UpdateCall where
  /-- `new_src_w`. -/
  newSrcW : ℤ
  /-- `new_src_h`. -/
  newSrcH : ℤ
  /-- `new_target_w`. -/
  newTargetW : ℤ
  /-- `new_target_h`. -/
  newTargetH : ℤ
  /-- `format`. -/
  format : ℤ
  /-- Whether `sws_getContext` gives a context, if it is asked for one. -/
  created : Bool

namespace StyledContext

/-- The members before the first call. -/
def new : StyledContext :=
  ⟨.new, .of 0 0 .pixelInt .ltxType, .of 0 0 .pixelInt .ltxType⟩

/-- `is_resolution_changed`. -/
def isResolutionChanged (s : StyledContext) (call : UpdateCall) : Bool :=
  s.context.isResolutionChanged call.newSrcW call.newSrcH call.newTargetW call.newTargetH

/-- **`Update`** of the context and its styles. -/
def update (s : StyledContext) (call : UpdateCall) : Bool × StyledContext :=
  let result := s.context.update call.newSrcW call.newSrcH call.newTargetW call.newTargetH
    call.format call.created
  if s.context.isInitialized && !s.isResolutionChanged call then (true, s)
  else if call.created then
    (result.1,
      { context := result.2
        originalStyle := originalStyleOf call.newSrcW call.newSrcH
        inferenceStyle :=
          inferenceStyleOf call.newSrcW call.newSrcH call.newTargetW call.newTargetH })
  else (result.1, { s with context := result.2 })

/-- A call of `Update`, as a step. -/
def step (s : StyledContext) (call : UpdateCall) : Option StyledContext :=
  some (s.update call).2

/-- **The context has what was computed for the call**: its scaler, and its styles. -/
structure IsFor (s : StyledContext) (call : UpdateCall) : Prop where
  /-- The scaler. -/
  scaler : s.context.swsScaleCtx = some (scalerOf call.newSrcW call.newSrcH call.newTargetW
    call.newTargetH call.format)
  /-- `original_style`. -/
  original : s.originalStyle = originalStyleOf call.newSrcW call.newSrcH
  /-- `inference_style`. -/
  inference : s.inferenceStyle =
    inferenceStyleOf call.newSrcW call.newSrcH call.newTargetW call.newTargetH

/-- **A call that returns true** leaves a context that is for the call. -/
def Matches (s : StyledContext) (call : UpdateCall) : Prop :=
  (s.update call).1 = true → (s.update call).2.IsFor call

/-- **There is a scaler for the frames of the call**, if the call finds the context initialized and
with its sizes. -/
def Fresh (s : StyledContext) (call : UpdateCall) : Prop :=
  s.context.isInitialized = true → s.isResolutionChanged call = false →
    s.context.swsScaleCtx.map SwsContext.srcFormat = some call.format

/-! ### One call -/

/-- The sizes of the context are those of the call. -/
def HasSizes (s : StyledContext) (call : UpdateCall) : Prop :=
  s.context.srcW = call.newSrcW ∧ s.context.srcH = call.newSrcH ∧
    s.context.targetW = call.newTargetW ∧ s.context.targetH = call.newTargetH

theorem isResolutionChanged_eq_false {s : StyledContext} {call : UpdateCall} :
    s.isResolutionChanged call = false ↔ s.HasSizes call := by
  rw [isResolutionChanged, FrameFormattingContext.isResolutionChanged, decide_eq_false_iff_not]
  push Not
  rfl

/-- The members that hold what was computed are those of the sizes, or there is no scaler. -/
structure Coherent (s : StyledContext) : Prop where
  /-- The scaler. -/
  scaler : ∀ sws, s.context.swsScaleCtx = some sws →
    sws = scalerOf s.context.srcW s.context.srcH s.context.targetW s.context.targetH sws.srcFormat
  /-- The styles. -/
  styles : s.context.swsScaleCtx ≠ none →
    s.originalStyle = originalStyleOf s.context.srcW s.context.srcH ∧
      s.inferenceStyle = inferenceStyleOf s.context.srcW s.context.srcH s.context.targetW
        s.context.targetH

theorem coherent_new : Coherent new where
  scaler := by
    rintro sws ⟨⟩
  styles h := absurd rfl h

/-- **What a call can do**: nothing, all of it, or only the first half. -/
theorem update_cases (s : StyledContext) (call : UpdateCall) :
    ((s.context.isInitialized = true ∧ s.isResolutionChanged call = false) ∧
        s.update call = (true, s)) ∨
      (¬ (s.context.isInitialized = true ∧ s.isResolutionChanged call = false) ∧
        ((s.update call).1 = true ∧ (s.update call).2.HasSizes call ∧
            (s.update call).2.IsFor call ∨
          (s.update call).1 = false ∧ (s.update call).2.context.swsScaleCtx = none)) := by
  by_cases hkept : s.context.isInitialized = true ∧ s.isResolutionChanged call = false
  · refine .inl ⟨hkept, ?_⟩
    rw [update, if_pos (by rw [hkept.1, hkept.2]; rfl)]
  · refine .inr ⟨hkept, ?_⟩
    have hworks : ¬ (s.context.isInitialized && !s.isResolutionChanged call) = true := by
      rwa [Bool.and_eq_true, Bool.not_eq_true']
    have hworks' := hworks
    rw [isResolutionChanged] at hworks'
    rw [update, if_neg hworks, FrameFormattingContext.update, if_neg hworks']
    cases call.created with
    | true => exact .inl ⟨rfl, ⟨rfl, rfl, rfl, rfl⟩, rfl, rfl, rfl⟩
    | false => exact .inr ⟨rfl, rfl⟩

/-- A context with the sizes of the call, and for it, is coherent. -/
theorem IsFor.coherent {s : StyledContext} {call : UpdateCall} (hsizes : s.HasSizes call)
    (h : s.IsFor call) : s.Coherent := by
  obtain ⟨hsrcW, hsrcH, htargetW, htargetH⟩ := hsizes
  constructor
  · rintro sws hsws
    rw [h.scaler] at hsws
    cases hsws
    rw [hsrcW, hsrcH, htargetW, htargetH]
    rfl
  · rintro -
    rw [hsrcW, hsrcH, htargetW, htargetH]
    exact ⟨h.original, h.inference⟩

/-- **Every call keeps the members coherent.** -/
theorem Coherent.step {s s' : StyledContext} {call : UpdateCall} (h : s.Coherent)
    (hs' : step s call = some s') : s'.Coherent := by
  cases hs'
  rcases s.update_cases call with ⟨-, hsame⟩ | ⟨-, ⟨-, hsizes, hfor⟩ | ⟨-, hnone⟩⟩
  · rwa [hsame]
  · exact hfor.coherent hsizes
  · refine ⟨fun sws hsws => ?_, fun hne => absurd hnone hne⟩
    rw [hnone] at hsws
    cases hsws

/-- A coherent context with the sizes of the call is for it when its scaler is for the frames. -/
theorem Coherent.isFor_iff {s : StyledContext} {call : UpdateCall} (h : s.Coherent)
    (hsizes : s.HasSizes call) :
    s.IsFor call ↔ s.context.swsScaleCtx.map SwsContext.srcFormat = some call.format := by
  obtain ⟨hsrcW, hsrcH, htargetW, htargetH⟩ := hsizes
  constructor
  · rintro hfor
    rw [hfor.scaler]
    rfl
  · rintro hformat
    obtain ⟨sws, hsws, hsrc⟩ := Option.map_eq_some_iff.mp hformat
    have hscaler := h.scaler sws hsws
    have hstyles := h.styles (by rw [hsws]; exact Option.some_ne_none sws)
    rw [hsrcW, hsrcH, htargetW, htargetH, hsrc] at hscaler
    rw [hsrcW, hsrcH, htargetW, htargetH] at hstyles
    exact ⟨hsws.trans (congrArg some hscaler), hstyles.1, hstyles.2⟩

/-- **A call is answered as it should be exactly when it finds no stale scaler.** -/
theorem matches_iff_fresh {s : StyledContext} (h : s.Coherent) (call : UpdateCall) :
    s.Matches call ↔ s.Fresh call := by
  rw [Matches, Fresh]
  rcases s.update_cases call with ⟨⟨hinit, hsame⟩, hkept⟩ | ⟨hworks, hdone⟩
  · have hiff := h.isFor_iff (isResolutionChanged_eq_false.mp hsame)
    rw [hkept]
    constructor
    · rintro hmatches - -
      exact hiff.mp (hmatches rfl)
    · rintro hfresh -
      exact hiff.mpr (hfresh hinit hsame)
  · refine iff_of_true ?_ fun hinit hsame => absurd ⟨hinit, hsame⟩ hworks
    rintro htrue
    rcases hdone with ⟨-, -, hfor⟩ | ⟨hfalse, -⟩
    · exact hfor
    · rw [hfalse] at htrue
      cases htrue

/-! ### Every run -/

/-- **All calls of a run are answered as they should be** exactly when each of them that finds the
context initialized and with its sizes also finds a scaler for its pixel format. -/
theorem guarded_matches_iff (calls : List UpdateCall) :
    Guarded step Matches new calls ↔ Guarded step Fresh new calls :=
  Guarded.congr (fun _ call h => matches_iff_fresh h call) (fun _ _ _ h => h.step) coherent_new

/-- A frame of another size, for which the scaler is not created, and the same frame again. The
second call with it returns true. -/
theorem not_guarded_matches :
    ¬ ∀ calls : List UpdateCall, Guarded step Matches new calls := by
  intro hall
  obtain ⟨-, hrest⟩ := hall [⟨1920, 1080, 640, 640, 0, true⟩, ⟨1280, 720, 640, 640, 0, false⟩,
    ⟨1280, 720, 640, 640, 0, true⟩]
  obtain ⟨-, hrest⟩ := hrest _ rfl
  obtain ⟨hmatches, -⟩ := hrest _ rfl
  have hscaler := (hmatches rfl).scaler
  cases hscaler

end StyledContext

end DetectBase
