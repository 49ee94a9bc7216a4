import DetectBase.Foundations.Planes
import DetectBase.Vision.FrameFormatting

/-!
# The image that the network sees

A frame gets from `FrameFormattingContext::Convert` to the input of the network by way of a request.
`Convert` starts the rows of the picture at multiples of 32 bytes, and puts blue first;
`Preprocess` of the engine takes the bytes as they come, as rows without anything between them, and
puts red first. The pixels therefore arrive where they belong exactly when there is nothing between
the rows, or no second row (`DetectBase.seesFrame_iff`).
-/

namespace DetectBase

/-! ### The channels -/

@[simp] theorem length_bgrToRgbInPlace (data : Buffer) (n : ℕ) :
    (bgrToRgbInPlace data n).length = data.length := by
  fun_induction bgrToRgbInPlace data n with
  | case1 b g r rest n ih => simp [ih]
  | case2 => rfl

/-- The bytes of a pixel change places within it. -/
theorem getElem?_bgrToRgbInPlace {data : Buffer} {n : ℕ} (hn : 3 * n ≤ data.length) {i c : ℕ}
    (hi : i < n) (hc : c < 3) :
    (bgrToRgbInPlace data n)[3 * i + c]? = data[3 * i + (2 - c)]? := by
  induction n generalizing data i with
  | zero => omega
  | succ n ih =>
    obtain ⟨b, g, r, rest, rfl⟩ : ∃ b g r rest, data = b :: g :: r :: rest := by
      match data, hn with
      | b :: g :: r :: rest, _ => exact ⟨b, g, r, rest, rfl⟩
    rw [bgrToRgbInPlace]
    cases i with
    | zero =>
      obtain rfl | rfl | rfl : c = 0 ∨ c = 1 ∨ c = 2 := by omega
      · rfl
      · rfl
      · rfl
    | succ i =>
      have hrest : 3 * n ≤ rest.length := by
        simp only [List.length_cons] at hn
        omega
      have hleft : 3 * (i + 1) + c = 3 * i + c + 1 + 1 + 1 := by omega
      have hright : 3 * (i + 1) + (2 - c) = 3 * i + (2 - c) + 1 + 1 + 1 := by omega
      rw [hleft, hright]
      simp only [List.getElem?_cons_succ]
      exact ih hrest (Nat.lt_of_succ_lt_succ hi)

/-! ### The request -/

/-- **`EngineClient::BuildRequest`**. -/
def buildRequest (requestMeta : EngineStreamMetaData) (ctx : Option FrameFormattingContext)
    (correlationId : ℕ) : InputLayerWrapper where
  metaData := { requestMeta with correlationId := correlationId }
  imageData := (ctx.filter FrameFormattingContext.isReadyForInference).bind (·.sharedInputBlob)

namespace FrameFormattingContext

variable {ctx ctx' : FrameFormattingContext} {w h : ℕ}

theorem lineSize_eq (hw : ctx.targetW = w) : ctx.lineSize = (3 * w + 31) / 32 * 32 := by
  rw [lineSize, hw]
  omega

theorem le_lineSize (hw : ctx.targetW = w) : 3 * w ≤ ctx.lineSize := by
  rw [lineSize_eq hw]
  omega

theorem le_length_takeBuffer (pool : List Buffer) (size : ℕ) :
    size ≤ (takeBuffer pool size).1.length := by
  cases pool with
  | nil => simp [takeBuffer]
  | cons buffer pool =>
    simp only [takeBuffer, List.length_append, List.length_replicate]
    omega

/-- The pixel that a buffer shows. -/
def shownPixel (step : ℕ) (data : Buffer) (x y : ℕ) : Bgr :=
  ⟨data.getD (place step x y 0) 0, data.getD (place step x y 1) 0, data.getD (place step x y 2) 0⟩

theorem getElem?_place {step x y c : ℕ} (hc : c < 3) {data : Buffer}
    (hlt : place step x y c < data.length) :
    data[place step x y c]? = some ((shownPixel step data x y).byte c) := by
  have hget : data[place step x y c]? = some (data.getD (place step x y c) 0) := by
    rw [List.getD_eq_getElem?_getD, List.getElem?_eq_getElem hlt, Option.getD_some]
  rw [hget]
  obtain rfl | rfl | rfl : c = 0 ∨ c = 1 ∨ c = 2 := by omega
  · rfl
  · rfl
  · rfl

/-- **The letterboxed image**: what `Convert` paints, over what the buffer shows before. -/
def letterboxed (ctx : FrameFormattingContext) (scaled : ℕ → ℕ → Bgr) (x y : ℕ) : Bgr :=
  pixelAfter (ctx.layers scaled) x y
    (shownPixel ctx.lineSize (takeBuffer ctx.pool ctx.requiredSize).1 x y)

/-- The blob that `Convert` fills. -/
def blob (ctx : FrameFormattingContext) (scaled : ℕ → ℕ → Bgr) : Buffer :=
  (ctx.layers scaled).foldl (paint ctx.lineSize) (takeBuffer ctx.pool ctx.requiredSize).1

theorem sharedInputBlob_of_convert {frame : Option AVFrame} {capture : Bool} {sws : SwsScale}
    (hconvert : ctx.convert frame capture true sws = (some true, ctx')) :
    ctx'.sharedInputBlob = some (ctx.blob sws.pixel) := by
  have hfill : ctx.fillBlob capture sws = (some true, ctx') := by
    rw [convert] at hconvert
    by_cases hunfit : ctx.isInitialized = false ∨ ctx.swsScaleCtx.isNone ∨ frame.isNone
    · rw [if_pos hunfit] at hconvert
      cases hconvert
    · rwa [if_neg hunfit, if_pos rfl] at hconvert
  rw [fillBlob] at hfill
  dsimp only at hfill
  split at hfill
  · next ended hended => exact absurd (congrArg Prod.fst hfill) (ne_of_makePicture hended)
  · next data hdata =>
    rw [eq_of_makePicture hdata] at hfill
    by_cases hempty : capture = true ∧ ctx.targetW.toNat * ctx.targetH.toNat = 0
    · rw [if_pos hempty] at hfill
      cases hfill
    · rw [if_neg hempty] at hfill
      cases hfill
      rfl

theorem length_blob (scaled : ℕ → ℕ → Bgr) : ctx.requiredSize ≤ (ctx.blob scaled).length := by
  rw [blob, length_foldl_paint]
  exact le_length_takeBuffer _ _

/-- **Each pixel of the letterboxed image has its bytes in the blob**, in the rows as `Convert` lays
them out. -/
theorem getElem?_blob (hw : ctx.targetW = w) (hh : ctx.targetH = h) (scaled : ℕ → ℕ → Bgr)
    {x y c : ℕ} (hx : x < w) (hy : y < h) (hc : c < 3) :
    (ctx.blob scaled)[place ctx.lineSize x y c]? =
      some ((ctx.letterboxed scaled x y).byte c) := by
  have hrow := le_lineSize hw
  refine getElem?_foldl_paint (by omega) hc _ (getElem?_place hc ?_)
  have hlength := le_length_takeBuffer ctx.pool ctx.requiredSize
  have hrows : (y + 1) * ctx.lineSize ≤ ctx.requiredSize := by
    rw [requiredSize, hh, Int.toNat_natCast, Nat.mul_comm]
    exact Nat.mul_le_mul_left _ hy
  rw [Nat.add_mul] at hrows
  rw [place]
  omega

end FrameFormattingContext

/-! ### What the network gets -/

/-- The bytes of a picture `w` pixels wide, without anything between its rows, are the red, the
green and the blue of `p` at a pixel. -/
def HoldsRgb (data : Buffer) (w x y : ℕ) (p : Bgr) : Prop :=
  data[3 * (y * w + x)]? = some p.r ∧ data[3 * (y * w + x) + 1]? = some p.g ∧
    data[3 * (y * w + x) + 2]? = some p.b

namespace YoloV5

variable {κ : Type}

/-- The engine with a network for images of the given size, in three colours. -/
def rgb (E : YoloV5 κ) (w h : ℕ) : YoloV5 κ := { E with modelW := w, modelH := h, modelC := 3 }

/-- **The network sees the frame**: a request with what `Convert` has made of it brings each pixel
of the letterboxed image to the input buffer, where the network expects it. -/
def SeesFrame (E : YoloV5 κ) (ctx : FrameFormattingContext) (frame : Option AVFrame)
    (capture : Bool) (sws : SwsScale) : Prop :=
  ∀ ctx', ctx.convert frame capture true sws = (some true, ctx') →
    ∀ (requestMeta : EngineStreamMetaData) (correlationId : ℕ) (m : Buffers)
      (batch : List InputLayerWrapper), m.rknnInputs.length = E.batchSize →
      ∀ y < E.modelH, ∀ x < E.modelW, ∃ input,
        (E.preprocess m batch (buildRequest requestMeta (some ctx') correlationId)
          none).2.1.rknnInputs[batch.length % E.batchSize]? = some input ∧
        HoldsRgb input E.modelW x y (ctx.letterboxed sws.pixel x y)

/-- **A request with an image is taken in**, if nothing throws. -/
theorem preprocess_of_image {E : YoloV5 κ} {r : InputLayerWrapper} (himage : r.lacksImage = false)
    {m : Buffers} (hm : m.rknnInputs.length = E.batchSize) (batch : List InputLayerWrapper) :
    E.preprocess m batch r none = (some (decide (E.batchSize ≤ batch.length + 1)),
      { m with rknnInputs := m.rknnInputs.set (batch.length % E.batchSize) (E.inputOf r) },
      batch ++ [r]) := by
  have hidx : ¬ m.rknnInputs.length ≤ batch.length % E.batchSize := by
    rw [hm]
    exact Nat.not_le_of_lt (Nat.mod_lt _ E.batchSize_pos)
  rw [preprocess, himage, if_neg (by simp), if_neg hidx]

/-- What `Preprocess` copies of a blob. -/
theorem getElem?_inputOf {E : YoloV5 κ} {w h : ℕ} {r : InputLayerWrapper} {blob : Buffer}
    (hblob : r.imageData = some blob) (hlength : 3 * (w * h) ≤ blob.length) {i c : ℕ}
    (hi : i < w * h) (hc : c < 3) :
    ((E.rgb w h).inputOf r)[3 * i + c]? = blob[3 * i + (2 - c)]? := by
  have hlt : 3 * i + c < w * h * 3 := by omega
  rw [inputOf, hblob]
  show ((bgrToRgbInPlace blob (w * h)).take (w * h * 3))[3 * i + c]? = _
  rw [List.getElem?_take, if_pos hlt, getElem?_bgrToRgbInPlace hlength hi hc]

end YoloV5

open FrameFormattingContext YoloV5

variable {κ : Type}

/-- A request is made of the blob, and taken in. -/
theorem preprocess_buildRequest (E : YoloV5 κ) {ctx ctx' : FrameFormattingContext} {w h : ℕ}
    (hw : ctx.targetW = w) (hh : ctx.targetH = h) {frame : Option AVFrame} {capture : Bool}
    {sws : SwsScale} (hconvert : ctx.convert frame capture true sws = (some true, ctx'))
    (hpos : 0 < w * h) (requestMeta : EngineStreamMetaData) (correlationId : ℕ) {m : Buffers}
    (batch : List InputLayerWrapper) (hm : m.rknnInputs.length = E.batchSize) :
    ∃ r, r.imageData = some (ctx.blob sws.pixel) ∧ 3 * (w * h) ≤ (ctx.blob sws.pixel).length ∧
      ((E.rgb w h).preprocess m batch (buildRequest requestMeta (some ctx') correlationId)
        none).2.1.rknnInputs[batch.length % E.batchSize]? = some ((E.rgb w h).inputOf r) := by
  have hshared := sharedInputBlob_of_convert hconvert
  have hlength : 3 * (w * h) ≤ (ctx.blob sws.pixel).length := by
    refine le_trans ?_ (length_blob sws.pixel)
    rw [requiredSize, hh, Int.toNat_natCast, ← Nat.mul_assoc]
    exact Nat.mul_le_mul_right _ (le_lineSize hw)
  have hready : ctx'.isReadyForInference = true := by
    rw [isReadyForInference, hshared, Option.any_some, Bool.not_eq_true', List.isEmpty_eq_false_iff]
    rintro hnil
    rw [hnil, List.length_nil] at hlength
    omega
  have himage : (buildRequest requestMeta (some ctx') correlationId).imageData =
      some (ctx.blob sws.pixel) := by
    rw [buildRequest, Option.filter_some, if_pos hready, Option.bind_some, hshared]
  have hlacks : (buildRequest requestMeta (some ctx') correlationId).lacksImage = false := by
    rw [InputLayerWrapper.lacksImage, himage, Option.getD_some, List.isEmpty_eq_false_iff]
    rintro hnil
    rw [hnil, List.length_nil] at hlength
    omega
  have hidx : batch.length % E.batchSize < m.rknnInputs.length := by
    rw [hm]
    exact Nat.mod_lt _ E.batchSize_pos
  refine ⟨_, himage, hlength, ?_⟩
  rw [preprocess_of_image hlacks (E := E.rgb w h) hm]
  exact List.getElem?_set_self hidx

/-- A context for frames that have the size of the target already. -/
def sameSizeContext (w h : ℕ) : FrameFormattingContext where
  isInitialized := true
  srcW := w
  srcH := h
  targetW := w
  targetH := h
  box := ⟨false, w, h, 0, 0, 0, 0⟩
  swsScaleCtx := some ⟨w, h, 0, w, h⟩
  pool := []
  sharedInputBlob := none
  saveSnapshotMat := (0, 0, [])

/-- It is what `Update` makes of a new one. -/
theorem update_sameSize {w h : ℕ} (hpos : 0 < w) :
    FrameFormattingContext.new.update w h w h 0 true = (true, sameSizeContext w h) := by
  have hbox : letterboxOf w h w h = ⟨false, w, h, 0, 0, 0, 0⟩ := by
    rw [letterboxOf, if_pos ⟨rfl, rfl⟩]
  have hchanged : FrameFormattingContext.new.isResolutionChanged w h w h = true := by
    rw [isResolutionChanged, decide_eq_true_eq]
    exact .inl (by simp only [FrameFormattingContext.new]; omega)
  rw [update, hchanged, hbox]
  rfl

/-- The library scales the frame to a picture of one colour. -/
def plainPicture (h : ℕ) (p : Bgr) : SwsScale := ⟨h, fun _ _ => p⟩

/-- The frame is converted. -/
theorem convert_sameSize {w h : ℕ} (hrows : 0 < h) (frame : AVFrame) (p : Bgr) :
    ((sameSizeContext w h).convert (some frame) false true (plainPicture h p)).1 = some true := by
  have haccepts : (sameSizeContext w h).accepts
      ((sameSizeContext w h).frameLayer (plainPicture h p).pixel) = true := by
    simp [accepts, frameLayer, sameSizeContext, Rect.within]
  have hmake : ∀ step buffer, (sameSizeContext w h).makePicture step (plainPicture h p) buffer =
      .ok (((sameSizeContext w h).layers (plainPicture h p).pixel).foldl (paint step) buffer) := by
    intro step buffer
    rw [makePicture, haccepts, if_neg (by simp), if_neg (by simp [plainPicture]; omega),
      if_neg (by simp [borders, border, sameSizeContext])]
  rw [convert, if_neg (by simp [sameSizeContext]), if_pos rfl, fillBlob]
  simp only [hmake]
  rfl

/-- It has that colour everywhere. -/
theorem letterboxed_sameSize {w h x y : ℕ} (hx : x < w) (hy : y < h) (p : Bgr) :
    (sameSizeContext w h).letterboxed (plainPicture h p).pixel x y = p := by
  have hin : ((sameSizeContext w h).frameLayer (plainPicture h p).pixel).rect.contains x y =
      true := by
    simp [frameLayer, sameSizeContext, Rect.contains, hx, hy]
  have hborders : (sameSizeContext w h).borders = [] := by
    simp [borders, border, sameSizeContext]
  rw [letterboxed, layers, hborders, pixelAfter, List.foldl_cons, if_pos hin]
  rfl

/-- Between its rows the buffer stays as it was, which is zero. -/
theorem getElem?_blob_sameSize {w h : ℕ} (hrows : 0 < h) (hdvd : ¬ 32 ∣ 3 * w) (p : Bgr) :
    ((sameSizeContext w h).blob (plainPicture h p).pixel)[3 * w]? = some 0 := by
  have hstep : 3 * w < (sameSizeContext w h).lineSize := by
    rw [lineSize_eq rfl]
    omega
  have hlayers : ∀ l ∈ (sameSizeContext w h).layers (plainPicture h p).pixel,
      l.rect.within w h = true := by
    simp [layers, borders, border, frameLayer, sameSizeContext, Rect.within]
  have hsize : 3 * w < (sameSizeContext w h).requiredSize :=
    lt_of_lt_of_le hstep (Nat.le_mul_of_pos_right _ (by simpa [sameSizeContext] using hrows))
  have hkept := getElem?_foldl_paint_of_le (Nat.le_refl (3 * w)) hstep 0 hlayers
  simp only [Nat.zero_mul, Nat.zero_add] at hkept
  rw [blob, hkept]
  exact List.getElem?_replicate_of_lt hsize

/-- **A byte from between the rows gets into the picture**, where the second row begins. -/
theorem not_seesFrame_sameSize (E : YoloV5 κ) {w h : ℕ} (hdvd : ¬ 32 ∣ 3 * w) (hrows : 1 < h) :
    ¬ (E.rgb w h).SeesFrame (sameSizeContext w h) (some ⟨w, h, 0⟩) false
      (plainPicture h ⟨255, 255, 255⟩) := by
  intro hsees
  have hcols : 0 < w := by
    by_contra hzero
    exact hdvd (by rw [Nat.eq_zero_of_not_pos hzero]; exact dvd_zero _)
  have hconvert : (sameSizeContext w h).convert (some ⟨w, h, 0⟩) false true
      (plainPicture h ⟨255, 255, 255⟩) = (some true, _) :=
    Prod.ext (convert_sameSize (by omega) _ _) rfl
  have hbuffers : (E.allocateBuffers [] fun _ => []).rknnInputs.length = E.batchSize := by
    rw [allocateBuffers, List.length_replicate]
  obtain ⟨input, hinput, -, -, hblue⟩ := hsees _ hconvert ⟨0, 0, w, h, 0⟩ 0 _ [] hbuffers 1 hrows 0
    hcols
  have hlt : 1 * w + 0 < w * h := index_lt hcols hrows
  obtain ⟨r, hblob, hlength, hinput'⟩ := preprocess_buildRequest E rfl rfl hconvert (by omega)
    ⟨0, 0, w, h, 0⟩ 0 [] hbuffers
  cases hinput.symm.trans hinput'
  change ((E.rgb w h).inputOf r)[3 * (1 * w + 0) + 2]? = some _ at hblue
  rw [getElem?_inputOf hblob hlength hlt (by omega), letterboxed_sameSize hcols hrows] at hblue
  have hzero := getElem?_blob_sameSize (h := h) (by omega) hdvd ⟨255, 255, 255⟩
  rw [show 3 * (1 * w + 0) + (2 - 2) = 3 * w by omega, hzero] at hblue
  exact absurd hblue (by decide)

/-- **Where the rows come without anything between them**, a pixel is where the network expects
it. -/
theorem place_lineSize {ctx : FrameFormattingContext} {w h : ℕ} (hw : ctx.targetW = w)
    (htight : 32 ∣ 3 * w ∨ h ≤ 1) {x y : ℕ} (hy : y < h) (c : ℕ) :
    place ctx.lineSize x y c = 3 * (y * w + x) + c := by
  have hstart : y * ctx.lineSize = 3 * (y * w) := by
    rw [lineSize_eq hw]
    obtain hdvd | hone := htight
    · have hstep : (3 * w + 31) / 32 * 32 = 3 * w := by omega
      rw [hstep]
      ring
    · have hfirst : y = 0 := by omega
      rw [hfirst]
      simp
  rw [place]
  omega

/-- **The network sees the frames**, whatever they are, exactly when the rows of the picture have no
bytes between them or there is one row at most. -/
theorem seesFrame_iff (E : YoloV5 κ) (w h : ℕ) :
    (∀ (ctx : FrameFormattingContext) (frame : Option AVFrame) (capture : Bool) (sws : SwsScale),
      ctx.targetW = w → ctx.targetH = h → (E.rgb w h).SeesFrame ctx frame capture sws) ↔
      32 ∣ 3 * w ∨ h ≤ 1 := by
  constructor
  · intro hsees
    by_contra! hcon
    exact not_seesFrame_sameSize E hcon.1 hcon.2 (hsees _ _ _ _ rfl rfl)
  · rintro htight ctx frame capture sws hw hh ctx' hconvert requestMeta correlationId m batch hm y
      hy x hx
    change y < h at hy
    change x < w at hx
    have hlt := index_lt hx hy
    obtain ⟨r, hblob, hlength, hinput⟩ := preprocess_buildRequest E hw hh hconvert (by omega)
      requestMeta correlationId batch hm
    have hbyte : ∀ c < 3, ((E.rgb w h).inputOf r)[3 * (y * w + x) + c]? =
        some ((ctx.letterboxed sws.pixel x y).byte (2 - c)) := by
      intro c hc
      rw [getElem?_inputOf hblob hlength hlt hc, ← place_lineSize hw htight hy,
        getElem?_blob hw hh _ hx hy (by omega)]
    exact ⟨_, hinput, hbyte 0 (by omega), hbyte 1 (by omega), hbyte 2 (by omega)⟩

/-- **A network for images 300 pixels wide** does not see a white frame as it is. -/
theorem not_seesFrame : ¬ ∀ (κ : Type) (E : YoloV5 κ) (w h : ℕ) (ctx : FrameFormattingContext)
    (frame : Option AVFrame) (capture : Bool) (sws : SwsScale),
    ctx.targetW = w → ctx.targetH = h → (E.rgb w h).SeesFrame ctx frame capture sws := by
  intro h
  let E : YoloV5 Unit :=
    ⟨(1, 0), 1, by decide, 3, 0, 0, 0, fun _ _ => [], fun _ _ => [], fun _ => []⟩
  exact not_seesFrame_sameSize E (w := 300) (h := 300) (by decide) (by decide)
    (h Unit E 300 300 _ _ _ _ rfl rfl)

end DetectBase
