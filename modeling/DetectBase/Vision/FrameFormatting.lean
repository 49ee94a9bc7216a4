import DetectBase.Engine.Npu

/-!
# Frames made ready for an engine

`FrameFormattingContext` brings a frame to the size that an engine wants. `Update` computes where
the scaled frame goes in the target picture, and how wide the grey borders around it are; `Convert`
scales the frame into a buffer and paints the borders.

The buffer is a list of bytes, and a picture is a way to read it: a pixel is three bytes, blue
first, and a row starts every `step` bytes (`DetectBase.place`). `Convert` rounds the length of a
row up to a multiple of 32, so that there are bytes between two rows that belong to no pixel. What
it paints is a list of layers, each on a rectangle (`DetectBase.FrameFormattingContext.layers`), and
painting the bytes of a layer is painting its pixels (`DetectBase.getElem?_foldl_paint`). The layers
are the frame and what it leaves of the picture, as long as their sizes add up
(`DetectBase.FrameFormattingContext.pixelAfter_layers`).

The scaling itself is done by a library. It may give no scaling context, and a call of it may fail;
what it puts into the picture is a parameter.
-/

namespace DetectBase

/-! ### Pictures in a buffer -/

/-- A pixel of `AV_PIX_FMT_BGR24`. -/
structure Bgr where
  /-- Blue. -/
  b : UInt8
  /-- Green. -/
  g : UInt8
  /-- Red. -/
  r : UInt8
deriving DecidableEq

/-- The bytes of a pixel, in their order. -/
def Bgr.byte (p : Bgr) : ℕ → UInt8
  | 0 => p.b
  | 1 => p.g
  | _ => p.r

/-- `grey_color`. -/
def greyColor : Bgr := ⟨114, 114, 114⟩

/-- `cv::Rect`. -/
structure Rect where
  /-- `x`. -/
  x : ℤ
  /-- `y`. -/
  y : ℤ
  /-- `width`. -/
  width : ℤ
  /-- `height`. -/
  height : ℤ

namespace Rect

/-- The pixel is in the rectangle. -/
def contains (rect : Rect) (x y : ℕ) : Bool :=
  rect.x ≤ x ∧ x < rect.x + rect.width ∧ rect.y ≤ y ∧ y < rect.y + rect.height

/-- What `cv::Mat` asserts of a rectangle in a picture of the given size. -/
def within (rect : Rect) (cols rows : ℤ) : Bool :=
  0 ≤ rect.x ∧ 0 ≤ rect.width ∧ rect.x + rect.width ≤ cols ∧
    0 ≤ rect.y ∧ 0 ≤ rect.height ∧ rect.y + rect.height ≤ rows

theorem contains_iff {rect : Rect} {x y : ℕ} : rect.contains x y = true ↔
    rect.x ≤ x ∧ x < rect.x + rect.width ∧ rect.y ≤ y ∧ y < rect.y + rect.height := by
  rw [contains, decide_eq_true_eq]

theorem lt_of_contains {rect : Rect} {cols rows : ℕ} (h : rect.within cols rows = true) {x y : ℕ}
    (hin : rect.contains x y = true) : x < cols ∧ y < rows := by
  simp only [within, contains, decide_eq_true_eq] at h hin
  omega

end Rect

/-- Pixels on a rectangle, each given by its column and row there. -/
structure Layer where
  /-- The rectangle. -/
  rect : Rect
  /-- The pixels. -/
  pixel : ℕ → ℕ → Bgr

/-- The pixel that a layer shows at a place of the picture. -/
def Layer.at (l : Layer) (x y : ℕ) : Bgr := l.pixel (x - l.rect.x).toNat (y - l.rect.y).toNat

/-- The picture shows what was painted last. -/
def pixelAfter (layers : List Layer) (x y : ℕ) (old : Bgr) : Bgr :=
  layers.foldl (fun p l => if l.rect.contains x y then l.at x y else p) old

/-- Layers of one colour. -/
theorem pixelAfter_const {layers : List Layer} {p : Bgr} (x y : ℕ)
    (h : ∀ l ∈ layers, l.at x y = p) (old : Bgr) :
    pixelAfter layers x y old = if layers.any (fun l => l.rect.contains x y) then p else old := by
  induction layers generalizing old with
  | nil => rfl
  | cons l layers ih =>
    have hrest := ih fun l' hl' => h l' (List.mem_cons_of_mem _ hl')
    rw [pixelAfter, List.foldl_cons, List.any_cons]
    refine (hrest _).trans ?_
    cases hcontains : l.rect.contains x y with
    | false => rfl
    | true =>
      rw [if_pos rfl, h l List.mem_cons_self, ite_self]
      rfl

/-- Where a byte of a pixel is in the buffer of a picture whose rows are `step` bytes apart. -/
def place (step x y c : ℕ) : ℕ := y * step + 3 * x + c

/-- A layer painted into the buffer of a picture. -/
def paint (step : ℕ) (data : Buffer) (l : Layer) : Buffer :=
  data.mapIdx fun i old =>
    if l.rect.contains (i % step / 3) (i / step) then
      (l.at (i % step / 3) (i / step)).byte (i % step % 3)
    else old

@[simp] theorem length_paint (step : ℕ) (data : Buffer) (l : Layer) :
    (paint step data l).length = data.length := List.length_mapIdx

/-- What a byte of a pixel is after a layer has been painted. -/
theorem getElem?_paint {step x y c : ℕ} (hx : 3 * x + c < step) (hc : c < 3) (data : Buffer)
    (l : Layer) : (paint step data l)[place step x y c]? =
      if l.rect.contains x y then data[place step x y c]?.map fun _ => (l.at x y).byte c
      else data[place step x y c]? := by
  have hrow : place step x y c / step = y := by
    rw [place, Nat.add_assoc, Nat.add_comm, Nat.add_mul_div_right _ _ (by omega),
      Nat.div_eq_of_lt hx, Nat.zero_add]
  have hcol : place step x y c % step = 3 * x + c := by
    rw [place, Nat.add_assoc, Nat.add_comm, Nat.add_mul_mod_self_right, Nat.mod_eq_of_lt hx]
  have hpixel : (3 * x + c) / 3 = x ∧ (3 * x + c) % 3 = c := by omega
  rw [paint, List.getElem?_mapIdx, hrow, hcol, hpixel.1, hpixel.2]
  split_ifs
  · rfl
  · exact Option.map_id'

/-- **Painting the bytes is painting the pixels.** -/
theorem getElem?_foldl_paint {step x y c : ℕ} (hx : 3 * x + c < step) (hc : c < 3)
    (layers : List Layer) : ∀ {data : Buffer} {old : Bgr},
      data[place step x y c]? = some (old.byte c) →
      (layers.foldl (paint step) data)[place step x y c]? =
        some ((pixelAfter layers x y old).byte c) := by
  induction layers with
  | nil => exact fun h => h
  | cons l layers ih =>
    intro data old h
    rw [List.foldl_cons, pixelAfter, List.foldl_cons]
    refine ih ?_
    rw [getElem?_paint hx hc, h]
    split_ifs
    · rfl
    · rfl

@[simp] theorem length_foldl_paint (step : ℕ) (layers : List Layer) : ∀ data : Buffer,
    (layers.foldl (paint step) data).length = data.length := by
  induction layers with
  | nil => exact fun _ => rfl
  | cons l layers ih => exact fun data => (ih _).trans (length_paint step data l)

/-- A byte that belongs to no pixel of the picture is not painted over. -/
theorem getElem?_foldl_paint_of_le {step cols rows k : ℕ} (hk : 3 * cols ≤ k) (hstep : k < step)
    (y : ℕ) {layers : List Layer} (hin : ∀ l ∈ layers, l.rect.within cols rows = true) :
    ∀ data : Buffer, (layers.foldl (paint step) data)[y * step + k]? = data[y * step + k]? := by
  induction layers with
  | nil => exact fun _ => rfl
  | cons l layers ih =>
    intro data
    rw [List.foldl_cons, ih (fun l' hl' => hin l' (List.mem_cons_of_mem _ hl')), paint,
      List.getElem?_mapIdx]
    have hcol : (y * step + k) % step = k := by
      rw [Nat.add_comm, Nat.add_mul_mod_self_right, Nat.mod_eq_of_lt hstep]
    have hout : l.rect.contains (k / 3) ((y * step + k) / step) = false := by
      rw [Bool.eq_false_iff]
      intro hcontains
      have := (Rect.lt_of_contains (hin l List.mem_cons_self) hcontains).1
      omega
    rw [hcol, hout]
    exact Option.map_id'

/-! ### The context -/

/-- `SwsContext`: what it was asked for. -/
structure SwsContext where
  /-- The width of the frames. -/
  srcW : ℤ
  /-- Their height. -/
  srcH : ℤ
  /-- Their pixel format. -/
  srcFormat : ℤ
  /-- The width of the scaled frame. -/
  dstW : ℤ
  /-- Its height. -/
  dstH : ℤ

/-- Where the scaled frame goes in the target picture. -/
structure Letterbox where
  /-- `need_resize`. -/
  needResize : Bool
  /-- `scale_w`. -/
  scaleW : ℤ
  /-- `scale_h`. -/
  scaleH : ℤ
  /-- `left`. -/
  left : ℤ
  /-- `right`. -/
  right : ℤ
  /-- `top`. -/
  top : ℤ
  /-- `bottom`. -/
  bottom : ℤ

/-- **The frame and the borders make up the picture.** -/
structure Letterbox.Tiles (box : Letterbox) (targetW targetH : ℤ) : Prop where
  /-- Its columns. -/
  cols : box.left + box.scaleW + box.right = targetW
  /-- Its rows. -/
  rows : box.top + box.scaleH + box.bottom = targetH
  /-- No border is missing. -/
  nonneg : 0 ≤ box.left ∧ 0 ≤ box.right ∧ 0 ≤ box.top ∧ 0 ≤ box.bottom
  /-- A frame of the right size has no borders. -/
  plain : box.needResize = false → box.left = 0 ∧ box.right = 0 ∧ box.top = 0 ∧ box.bottom = 0

/-- `static_cast<int>( std::round( x ) )`. -/
def roundToInt (x : Single) : ℤ := x.roundAway (-2 ^ 31) (2 ^ 31 - 1)

/-- `0.1f`, with the given sign. -/
def tenth (neg : Bool) : Single := ofDecimal binary32 neg 1 (-1)

/-- **The letterbox** that `Update` computes. -/
def letterboxOf (srcW srcH targetW targetH : ℤ) : Letterbox :=
  if srcW = targetW ∧ srcH = targetH then ⟨false, srcW, srcH, 0, 0, 0, 0⟩
  else
    let wRatio := (ofInt binary32 targetW).div (ofInt binary32 srcW)
    let hRatio := (ofInt binary32 targetH).div (ofInt binary32 srcH)
    let scaleFactor := if hRatio < wRatio then hRatio else wRatio
    let scaleW := roundToInt ((ofInt binary32 srcW).mul scaleFactor)
    let scaleH := roundToInt ((ofInt binary32 srcH).mul scaleFactor)
    let totalPadW := (ofInt binary32 (targetW - scaleW)).half
    let totalPadH := (ofInt binary32 (targetH - scaleH)).half
    { needResize := true
      scaleW := scaleW
      scaleH := scaleH
      left := roundToInt (totalPadW.add (tenth true))
      right := roundToInt (totalPadW.add (tenth false))
      top := roundToInt (totalPadH.add (tenth true))
      bottom := roundToInt (totalPadH.add (tenth false)) }

/-- `FrameFormattingContext`. -/
structure FrameFormattingContext where
  /-- `is_initialized`. -/
  isInitialized : Bool
  /-- `src_w`. -/
  srcW : ℤ
  /-- `src_h`. -/
  srcH : ℤ
  /-- `target_w`. -/
  targetW : ℤ
  /-- `target_h`. -/
  targetH : ℤ
  /-- What was computed from them. -/
  box : Letterbox
  /-- `sws_scale_ctx`, or nothing for a null pointer. -/
  swsScaleCtx : Option SwsContext
  /-- `pool` of `pool_container`. -/
  pool : List Buffer
  /-- `shared_input_blob`, or nothing for a null pointer. -/
  sharedInputBlob : Option Buffer
  /-- `save_snapshot_mat`: its size, and its rows without anything between them. -/
  saveSnapshotMat : ℤ × ℤ × Buffer

/-- `AVFrame`, as far as it is looked at here. -/
structure AVFrame where
  /-- `width`. -/
  width : ℤ
  /-- `height`. -/
  height : ℤ
  /-- `format`. -/
  format : ℤ
deriving DecidableEq

/-- A call of `sws_scale`. -/
structure SwsScale where
  /-- What it returns. -/
  processedH : ℤ
  /-- The pixels that it writes. -/
  pixel : ℕ → ℕ → Bgr

namespace FrameFormattingContext

/-- The members before the first call. -/
def new : FrameFormattingContext where
  isInitialized := false
  srcW := 0
  srcH := 0
  targetW := 0
  targetH := 0
  box := ⟨true, 0, 0, 0, 0, 0, 0⟩
  swsScaleCtx := none
  pool := []
  sharedInputBlob := none
  saveSnapshotMat := (0, 0, [])

/-- **`IsResolutionChanged`**. -/
def isResolutionChanged (ctx : FrameFormattingContext) (srcW srcH targetW targetH : ℤ) : Bool :=
  ctx.srcW ≠ srcW ∨ ctx.srcH ≠ srcH ∨ ctx.targetW ≠ targetW ∨ ctx.targetH ≠ targetH

/-- **`Update`**, with what `sws_getContext` gives: whether it is a context. -/
def update (ctx : FrameFormattingContext) (srcW srcH targetW targetH format : ℤ)
    (created : Bool) : Bool × FrameFormattingContext :=
  let changed := ctx.isResolutionChanged srcW srcH targetW targetH
  if ctx.isInitialized && !changed then (true, ctx)
  else
    let box := letterboxOf srcW srcH targetW targetH
    let ctx := { ctx with
      pool := if changed then [] else ctx.pool
      srcW := srcW
      srcH := srcH
      targetW := targetW
      targetH := targetH
      box := box
      swsScaleCtx := if created then some ⟨srcW, srcH, format, box.scaleW, box.scaleH⟩ else none }
    -- a context that was initialized before stays so
    if created then (true, { ctx with isInitialized := true }) else (false, ctx)

/-- `line_size`: the bytes of a row, up to the next multiple of 32. -/
def lineSize (ctx : FrameFormattingContext) : ℕ := ((ctx.targetW * 3 + 31) / 32 * 32).toNat

/-- `av_image_get_buffer_size`. -/
def requiredSize (ctx : FrameFormattingContext) : ℕ := ctx.lineSize * ctx.targetH.toNat

/-- The scaled frame. -/
def frameLayer (ctx : FrameFormattingContext) (scaled : ℕ → ℕ → Bgr) : Layer :=
  ⟨⟨ctx.box.left, ctx.box.top, ctx.box.scaleW, ctx.box.scaleH⟩, scaled⟩

/-- A border, if there is one. -/
def border (ctx : FrameFormattingContext) (thickness : ℤ) (rect : Rect) : List Layer :=
  if ctx.box.needResize ∧ thickness > 0 then [⟨rect, fun _ _ => greyColor⟩] else []

/-- The borders, in the order in which they are painted. -/
def borders (ctx : FrameFormattingContext) : List Layer :=
  let box := ctx.box
  ctx.border box.top ⟨0, 0, ctx.targetW, box.top⟩ ++
    ctx.border box.bottom ⟨0, ctx.targetH - box.bottom, ctx.targetW, box.bottom⟩ ++
    ctx.border box.left ⟨0, box.top, box.left, box.scaleH⟩ ++
    ctx.border box.right ⟨ctx.targetW - box.right, box.top, box.right, box.scaleH⟩

/-- What `Convert` paints into the picture, in turn. -/
def layers (ctx : FrameFormattingContext) (scaled : ℕ → ℕ → Bgr) : List Layer :=
  ctx.frameLayer scaled :: ctx.borders

/-- The borders are what the frame leaves of the picture. -/
theorem any_borders {ctx : FrameFormattingContext} {w h : ℕ} (hw : ctx.targetW = w)
    (hh : ctx.targetH = h) (htiles : ctx.box.Tiles ctx.targetW ctx.targetH) {x y : ℕ} (hx : x < w)
    (hy : y < h) (scaled : ℕ → ℕ → Bgr) :
    (ctx.borders.any fun l => l.rect.contains x y) =
      !(ctx.frameLayer scaled).rect.contains x y := by
  obtain ⟨hcols, hrows, hnonneg, hplain⟩ := htiles
  have hborder : ∀ thickness rect, ((ctx.border thickness rect).any fun l =>
      l.rect.contains x y) = true ↔
        (ctx.box.needResize = true ∧ 0 < thickness) ∧ rect.contains x y = true := by
    intro thickness rect
    rw [border]
    split_ifs with hpaint
    · simp [hpaint.1, hpaint.2]
    · simp only [List.any_nil, Bool.false_eq_true, false_iff]
      exact fun ⟨hthick, _⟩ => hpaint hthick
  rw [Bool.eq_iff_iff, borders, List.any_append, List.any_append, List.any_append, Bool.or_eq_true,
    Bool.or_eq_true, Bool.or_eq_true, hborder, hborder, hborder, hborder, Bool.not_eq_true',
    ← Bool.not_eq_true]
  simp only [Rect.contains_iff, frameLayer]
  cases hresize : ctx.box.needResize with
  | false =>
    have := hplain hresize
    simp only [Bool.false_eq_true, false_and, or_self, false_iff, not_not]
    omega
  | true =>
    simp only [true_and]
    omega

/-- `cv::Mat` accepts the rectangle of a layer. -/
def accepts (ctx : FrameFormattingContext) (l : Layer) : Bool :=
  l.rect.within ctx.targetW ctx.targetH

/-- A buffer of at least the given size: one that was used before, or a new one. -/
def takeBuffer (pool : List Buffer) (size : ℕ) : Buffer × List Buffer :=
  match pool with
  | [] => (List.replicate size 0, [])
  | buffer :: pool => (buffer ++ List.replicate (size - buffer.length) 0, pool)

/-- The rows of a picture without the bytes between them: a copy of `cv::Mat` has none. -/
def tight (step cols rows : ℕ) (data : Buffer) : Buffer :=
  (List.range rows).flatMap fun y => (data.drop (y * step)).take (3 * cols)

/-- **The picture shows the frame, and is grey around it**, if the sizes add up. -/
theorem pixelAfter_layers {ctx : FrameFormattingContext} {w h : ℕ} (hw : ctx.targetW = w)
    (hh : ctx.targetH = h) (htiles : ctx.box.Tiles ctx.targetW ctx.targetH) {x y : ℕ} (hx : x < w)
    (hy : y < h) (scaled : ℕ → ℕ → Bgr) (old : Bgr) :
    pixelAfter (ctx.layers scaled) x y old =
      if (ctx.frameLayer scaled).rect.contains x y then (ctx.frameLayer scaled).at x y
      else greyColor := by
  have hgrey : ∀ l ∈ ctx.borders, l.at x y = greyColor := by
    intro l hl
    simp only [borders, border, List.mem_append] at hl
    obtain ((hl | hl) | hl) | hl := hl
    all_goals
      split_ifs at hl
      · rw [List.mem_singleton.mp hl]
        rfl
      · cases hl
  rw [layers, pixelAfter, List.foldl_cons]
  refine (pixelAfter_const x y hgrey _).trans ?_
  rw [any_borders hw hh htiles hx hy scaled]
  cases (ctx.frameLayer scaled).rect.contains x y with
  | false => rfl
  | true => rfl

/-- The picture of `Convert`: the buffer with the layers painted into it, or how the call ends
otherwise, which is by an exception of `cv::Mat` for nothing. -/
def makePicture (ctx : FrameFormattingContext) (step : ℕ) (sws : SwsScale) (buffer : Buffer) :
    Except (Option Bool) Buffer :=
  if ctx.accepts (ctx.frameLayer sws.pixel) = false then .error none
  else if sws.processedH ≤ 0 then .error (some false)
  else if ctx.borders.all ctx.accepts = false then .error none
  else .ok ((ctx.layers sws.pixel).foldl (paint step) buffer)

/-- A picture that is made has all the layers. -/
theorem eq_of_makePicture {ctx : FrameFormattingContext} {step : ℕ} {sws : SwsScale}
    {buffer data : Buffer} (h : ctx.makePicture step sws buffer = .ok data) :
    data = (ctx.layers sws.pixel).foldl (paint step) buffer := by
  rw [makePicture] at h
  split_ifs at h
  cases h
  rfl

/-- A picture that is not made does not end the call with success. -/
theorem ne_of_makePicture {ctx : FrameFormattingContext} {step : ℕ} {sws : SwsScale}
    {buffer : Buffer} {ended : Option Bool} (h : ctx.makePicture step sws buffer = .error ended) :
    ended ≠ some true := by
  rw [makePicture] at h
  split_ifs at h
  · cases h
    simp
  · cases h
    simp
  · cases h
    simp

/-- `Convert` with a blob for the inference, and possibly a copy of the picture. -/
def fillBlob (ctx : FrameFormattingContext) (captureSaveImage : Bool) (sws : SwsScale) :
    Option Bool × FrameFormattingContext :=
  let cols := ctx.targetW.toNat
  let rows := ctx.targetH.toNat
  let taken := takeBuffer ctx.pool ctx.requiredSize
  match ctx.makePicture ctx.lineSize sws taken.1 with
  | .error ended => (ended, { ctx with pool := taken.2 })
  | .ok data =>
    let snapshot := if captureSaveImage then
        (ctx.targetW, ctx.targetH, tight ctx.lineSize cols rows data)
      else ctx.saveSnapshotMat
    let ctx := { ctx with pool := taken.2, saveSnapshotMat := snapshot }
    -- an empty copy ends the call
    if captureSaveImage = true ∧ cols * rows = 0 then (some false, ctx)
    else (some true, { ctx with sharedInputBlob := some data })

/-- `Convert` with a picture to be saved only. -/
def fillSnapshot (ctx : FrameFormattingContext) (sws : SwsScale) :
    Option Bool × FrameFormattingContext :=
  let cols := ctx.targetW.toNat
  let rows := ctx.targetH.toNat
  -- `create` keeps the matrix if it has the size already
  let old := if ctx.saveSnapshotMat.1 = ctx.targetW ∧ ctx.saveSnapshotMat.2.1 = ctx.targetH
    then ctx.saveSnapshotMat.2.2 else List.replicate (3 * cols * rows) 0
  let ctx := { ctx with sharedInputBlob := none }
  match ctx.makePicture (3 * cols) sws old with
  | .error ended => (ended, { ctx with saveSnapshotMat := (ctx.targetW, ctx.targetH, old) })
  | .ok data => (some true, { ctx with saveSnapshotMat := (ctx.targetW, ctx.targetH, data) })

/-- **`Convert`**: what it returns, or nothing when it throws. -/
def convert (ctx : FrameFormattingContext) (frame : Option AVFrame)
    (captureSaveImage generateInferenceBlob : Bool) (sws : SwsScale) :
    Option Bool × FrameFormattingContext :=
  if ctx.isInitialized = false ∨ ctx.swsScaleCtx.isNone ∨ frame.isNone then (some false, ctx)
  else if generateInferenceBlob then ctx.fillBlob captureSaveImage sws
  else if captureSaveImage then ctx.fillSnapshot sws
  else (some true, ctx)

/-- **`IsReadyForInference`**. -/
def isReadyForInference (ctx : FrameFormattingContext) : Bool :=
  ctx.sharedInputBlob.any fun blob => !blob.isEmpty

end FrameFormattingContext

end DetectBase
