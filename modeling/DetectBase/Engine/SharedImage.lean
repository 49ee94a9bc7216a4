import DetectBase.Engine.InputImage
import Mathlib.Logic.Function.Iterate

/-!
# An image for several engines

The engines that want images of one size share the picture of a frame: each request holds a pointer
to the blob that `Convert` has filled, and there is one blob. `Preprocess` exchanges red and blue in
the blob itself and copies the result into an input buffer of its handler. The next handler finds
the channels exchanged already, and exchanges them back.

A handler gets what it should if it is the first, the third, and so on
(`DetectBase.SharedImages.getElem?_run`); every one does exactly when there is only one, or when
red and blue are the same throughout (`DetectBase.SharedImages.receivesRgb_iff`).
-/

namespace DetectBase

/-- `InputLayerWrapper`, with the pointer to its image. -/
structure SharedRequest where
  /-- `meta_data`. -/
  metaData : EngineStreamMetaData
  /-- The address of the image, or nothing for a null pointer. -/
  imageData : Option ℕ
deriving DecidableEq

/-- The images that requests point to, and the handlers. -/
structure SharedImages where
  /-- The blobs, by address. -/
  blobs : ℕ → Buffer
  /-- The buffers of each handler. -/
  buffers : ℕ → YoloV5.Buffers
  /-- `current_batch_inputs_` of each handler. -/
  batches : ℕ → List SharedRequest

/-- **`EngineClient::BuildRequest`**, when the blob of the context is at the given address. -/
def buildSharedRequest (requestMeta : EngineStreamMetaData) (ctx : FrameFormattingContext)
    (address correlationId : ℕ) : SharedRequest where
  metaData := { requestMeta with correlationId := correlationId }
  imageData := if ctx.isReadyForInference then some address else none

namespace SharedImages

variable {κ : Type}

/-- The request with what its image holds. -/
def load (s : SharedImages) (r : SharedRequest) : InputLayerWrapper :=
  ⟨r.metaData, r.imageData.map s.blobs⟩

/-- `Preprocess` of the handler `k` takes the request in. -/
def takesIn (E : YoloV5 κ) (s : SharedImages) (k : ℕ) (r : SharedRequest) : Bool :=
  !(s.load r).lacksImage && (s.batches k).length % E.batchSize < (s.buffers k).rknnInputs.length

/-- **`Preprocess`** of the handler `k`, on an image that others may point to. -/
def preprocess (E : YoloV5 κ) (s : SharedImages) (k : ℕ) (r : SharedRequest) : SharedImages :=
  let out := E.preprocess (s.buffers k) ((s.batches k).map s.load) (s.load r) none
  if s.takesIn E k r then
    { blobs := (r.imageData.map fun address => Function.update s.blobs address
        (bgrToRgbInPlace (s.blobs address) (E.modelW * E.modelH))).getD s.blobs
      buffers := Function.update s.buffers k out.2.1
      batches := Function.update s.batches k (s.batches k ++ [r]) }
  else { s with buffers := Function.update s.buffers k out.2.1 }

/-- The handlers run `Preprocess` on their requests, in the given order. -/
def run (E : ℕ → YoloV5 κ) (request : ℕ → SharedRequest) (s : SharedImages) (order : List ℕ) :
    SharedImages :=
  order.foldl (fun s k => s.preprocess (E k) k (request k)) s

/-- The input buffer that the next request of the handler goes to. -/
def slot (E : ℕ → YoloV5 κ) (s : SharedImages) (k : ℕ) : ℕ :=
  (s.batches k).length % (E k).batchSize

/-- Each handler has its input buffers. -/
def Allocated (E : ℕ → YoloV5 κ) (s : SharedImages) : Prop :=
  ∀ k, (s.buffers k).rknnInputs.length = (E k).batchSize

/-! ### One handler -/

variable {s : SharedImages} {w h : ℕ} {address : ℕ}

/-- The engines with networks for images of one size. -/
def sized (E : ℕ → YoloV5 κ) (w h : ℕ) (k : ℕ) : YoloV5 κ := (E k).rgb w h

/-- What a handler copies of an image. -/
def copied (w h : ℕ) (image : Buffer) : Buffer := image.take (w * h * 3)

/-- The exchange of red and blue. -/
def exchange (w h : ℕ) (image : Buffer) : Buffer := bgrToRgbInPlace image (w * h)

/-- **What a step does**: the channels are exchanged in the image, and the handler gets a copy. -/
theorem preprocess_eq {E : ℕ → YoloV5 κ} (hs : s.Allocated E) {k : ℕ} {r : SharedRequest}
    (hr : r.imageData = some address) (himage : s.blobs address ≠ []) :
    s.preprocess (sized E w h k) k r =
      { blobs := Function.update s.blobs address (exchange w h (s.blobs address))
        buffers := Function.update s.buffers k
          { s.buffers k with
            rknnInputs := (s.buffers k).rknnInputs.set (s.slot E k)
              (copied w h (exchange w h (s.blobs address))) }
        batches := Function.update s.batches k (s.batches k ++ [r]) } := by
  have hload : (s.load r).imageData = some (s.blobs address) := by
    rw [load, hr, Option.map_some]
  have hlacks : (s.load r).lacksImage = false := by
    rw [InputLayerWrapper.lacksImage, hload, Option.getD_some, List.isEmpty_eq_false_iff]
    exact himage
  have hslot : s.slot E k < (s.buffers k).rknnInputs.length := by
    rw [hs k]
    exact Nat.mod_lt _ (E k).batchSize_pos
  have htakes : s.takesIn (sized E w h k) k r = true := by
    rw [takesIn, hlacks, Bool.not_false, Bool.true_and]
    exact decide_eq_true hslot
  have hinput : (sized E w h k).inputOf (s.load r) =
      copied w h (exchange w h (s.blobs address)) := by
    rw [YoloV5.inputOf, hload]
    rfl
  rw [preprocess, if_pos htakes, YoloV5.preprocess_of_image hlacks (E := sized E w h k) (hs k),
    hinput, hr, List.length_map]
  rfl

/-! ### All handlers -/

/-- The bytes of a pixel after the channels have been exchanged a number of times. -/
theorem getElem?_exchange {image : Buffer} (hlength : 3 * (w * h) ≤ image.length) {i c : ℕ}
    (hi : i < w * h) (hc : c < 3) (n : ℕ) :
    ((exchange w h)^[n] image)[3 * i + c]? =
      image[3 * i + if n % 2 = 0 then c else 2 - c]? := by
  induction n generalizing c with
  | zero => rfl
  | succ n ih =>
    have hkept : 3 * (w * h) ≤ ((exchange w h)^[n] image).length := by
      clear ih
      induction n with
      | zero => exact hlength
      | succ n ih =>
        rw [Function.iterate_succ_apply', exchange, length_bgrToRgbInPlace]
        exact ih
    rw [Function.iterate_succ_apply', exchange, getElem?_bgrToRgbInPlace hkept hi hc,
      ih (by omega)]
    congr 2
    split_ifs
    · omega
    · rfl
    · omega
    · omega

/-- A handler that does not run keeps its buffers. -/
theorem buffers_run_of_notMem (E : ℕ → YoloV5 κ) (request : ℕ → SharedRequest) {order : List ℕ}
    {k : ℕ} (hk : k ∉ order) : ∀ s : SharedImages,
    (s.run E request order).buffers k = s.buffers k := by
  induction order with
  | nil => exact fun _ => rfl
  | cons k' order ih =>
    intro s
    rw [List.mem_cons, not_or] at hk
    obtain ⟨hne, hrest⟩ := hk
    refine (ih hrest _).trans ?_
    unfold SharedImages.preprocess
    dsimp only
    split_ifs
    · exact Function.update_of_ne hne _ _
    · exact Function.update_of_ne hne _ _

/-- **What each handler gets**: the image after as many exchanges as there were handlers up to it.
-/
theorem getElem?_run {E : ℕ → YoloV5 κ} {request : ℕ → SharedRequest}
    (hrequest : ∀ k, (request k).imageData = some address) {order : List ℕ} :
    ∀ {s : SharedImages}, s.Allocated E → s.blobs address ≠ [] → order.Nodup →
      ∀ {j k : ℕ}, order[j]? = some k →
        ((s.run (sized E w h) request order).buffers k).rknnInputs[s.slot E k]? =
          some (copied w h ((exchange w h)^[j + 1] (s.blobs address))) := by
  induction order with
  | nil =>
    intro s _ _ _ j k hj
    cases hj
  | cons k₀ order ih =>
    intro s hs himage hnodup j k hj
    obtain ⟨hfirst, hnodup⟩ := List.nodup_cons.mp hnodup
    have hstep := preprocess_eq (w := w) (h := h) (k := k₀) hs (hrequest k₀) himage
    rw [run, List.foldl_cons, hstep]
    cases j with
    | zero =>
      cases hj
      -- the others leave this handler alone
      have hkept := buffers_run_of_notMem (sized E w h) request hfirst
      rw [← run, hkept]
      dsimp only
      rw [Function.update_self]
      refine List.getElem?_set_self ?_
      rw [hs k₀]
      exact Nat.mod_lt _ (E k₀).batchSize_pos
    | succ j =>
      have hne : k ≠ k₀ := by
        rintro rfl
        exact hfirst (List.mem_of_getElem? hj)
      have hslot : s.slot E k = SharedImages.slot E
          { blobs := Function.update s.blobs address (exchange w h (s.blobs address))
            buffers := Function.update s.buffers k₀
              { s.buffers k₀ with
                rknnInputs := (s.buffers k₀).rknnInputs.set (s.slot E k₀)
                  (copied w h (exchange w h (s.blobs address))) }
            batches := Function.update s.batches k₀ (s.batches k₀ ++ [request k₀]) } k := by
        rw [slot, slot]
        dsimp only
        rw [Function.update_of_ne hne]
      rw [hslot]
      refine (ih (fun k' => ?_) ?_ hnodup hj).trans ?_
      · dsimp only
        by_cases hk : k' = k₀
        · rw [hk, Function.update_self, List.length_set, hs]
        · rw [Function.update_of_ne hk, hs]
      · dsimp only
        rw [Function.update_self, exchange, ← List.length_pos_iff, length_bgrToRgbInPlace,
          List.length_pos_iff]
        exact himage
      · dsimp only
        rw [Function.update_self, ← Function.iterate_succ_apply]

/-! ### The requests of one frame -/

open FrameFormattingContext

variable {ctx ctx' : FrameFormattingContext} {frame : Option AVFrame} {capture : Bool}
  {sws : SwsScale}

/-- A request with a pointer is one with an image. -/
theorem load_buildSharedRequest (hblob : ctx'.sharedInputBlob = some (s.blobs address))
    (requestMeta : EngineStreamMetaData) (correlationId : ℕ) :
    s.load (buildSharedRequest requestMeta ctx' address correlationId) =
      buildRequest requestMeta (some ctx') correlationId := by
  rw [load, buildSharedRequest, buildRequest, Option.filter_some]
  by_cases hready : ctx'.isReadyForInference
  · rw [if_pos hready, if_pos hready, Option.map_some, Option.bind_some, hblob]
  · rw [if_neg hready, if_neg hready, Option.map_none, Option.bind_none]

/-- The handler gets the picture in RGB: the pixels of the letterboxed image are in the input buffer
that its request goes to. -/
def ReceivesRgb (E : ℕ → YoloV5 κ) (request : ℕ → SharedRequest) (s : SharedImages)
    (order : List ℕ) (w h : ℕ) (p : ℕ → ℕ → Bgr) (k : ℕ) : Prop :=
  ∀ y < h, ∀ x < w, ∃ input,
    ((s.run (sized E w h) request order).buffers k).rknnInputs[s.slot E k]? = some input ∧
      HoldsRgb input w x y (p x y)

/-- The bytes of a picture are those of the pixels, red and blue exchanged. -/
theorem getElem?_copied (sws : SwsScale) (hw : ctx.targetW = w) (hh : ctx.targetH = h)
    (htight : 32 ∣ 3 * w) {x y c : ℕ} (hx : x < w) (hy : y < h) (hc : c < 3) (n : ℕ) :
    (copied w h ((exchange w h)^[n] (ctx.blob sws.pixel)))[3 * (y * w + x) + c]? =
      some ((ctx.letterboxed sws.pixel x y).byte (if n % 2 = 0 then c else 2 - c)) := by
  have hlt := index_lt hx hy
  have hlength : 3 * (w * h) ≤ (ctx.blob sws.pixel).length := by
    refine le_trans ?_ (length_blob sws.pixel)
    rw [requiredSize, hh, Int.toNat_natCast, ← Nat.mul_assoc]
    exact Nat.mul_le_mul_right _ (le_lineSize hw)
  rw [copied, List.getElem?_take, if_pos (by omega), getElem?_exchange hlength hlt hc,
    ← place_lineSize hw (.inl htight) hy, getElem?_blob hw hh _ hx hy (by split_ifs <;> omega)]

/-- **A handler gets the picture in RGB** if as many have run before it as restore the channels, or
red and blue are the same. -/
theorem receivesRgb_getElem? {E : ℕ → YoloV5 κ} (sws : SwsScale) (hw : ctx.targetW = w)
    (hh : ctx.targetH = h) (htight : 32 ∣ 3 * w) (hs : s.Allocated E)
    (himage : s.blobs address = ctx.blob sws.pixel) {request : ℕ → SharedRequest}
    (hrequest : 0 < w * h → ∀ k, (request k).imageData = some address)
    {order : List ℕ} (hnodup : order.Nodup) {j k : ℕ} (hj : order[j]? = some k) :
    s.ReceivesRgb E request order w h (ctx.letterboxed sws.pixel) k ↔
      j % 2 = 0 ∨ ∀ y < h, ∀ x < w,
        (ctx.letterboxed sws.pixel x y).b = (ctx.letterboxed sws.pixel x y).r := by
  -- what the handler finds at a pixel
  have hinput : ∀ y < h, ∀ x < w,
      ((s.run (sized E w h) request order).buffers k).rknnInputs[s.slot E k]? =
        some (copied w h ((exchange w h)^[j + 1] (ctx.blob sws.pixel))) := by
    intro y hy x hx
    have hpos : 0 < w * h := Nat.mul_pos (by omega) (by omega)
    have hne : s.blobs address ≠ [] := by
      rw [himage, ← List.length_pos_iff]
      refine lt_of_lt_of_le ?_ (length_blob sws.pixel)
      rw [requiredSize, hh, Int.toNat_natCast]
      exact Nat.mul_pos (lt_of_lt_of_le (by omega) (le_lineSize hw)) (by omega)
    rw [getElem?_run (hrequest hpos) hs hne hnodup hj, himage]
  constructor
  · intro hreceives
    by_contra! hcon
    obtain ⟨hodd, y, hy, x, hx, hdiffer⟩ := hcon
    obtain ⟨input, hslot, hred, -, -⟩ := hreceives y hy x hx
    cases hslot.symm.trans (hinput y hy x hx)
    have hbyte := getElem?_copied sws hw hh htight hx hy (c := 0) (by omega) (j + 1)
    rw [if_pos (by omega)] at hbyte
    exact hdiffer (Option.some.inj (hbyte.symm.trans hred))
  · intro hright y hy x hx
    have hbyte : ∀ c < 3, (copied w h ((exchange w h)^[j + 1] (ctx.blob sws.pixel)))[
        3 * (y * w + x) + c]? = some ((ctx.letterboxed sws.pixel x y).byte (2 - c)) := by
      intro c hc
      rw [getElem?_copied sws hw hh htight hx hy hc]
      split_ifs with heven
      · -- the channels are exchanged twice, which nobody sees
        have hsame := (hright.resolve_left (by omega)) y hy x hx
        obtain rfl | rfl | rfl : c = 0 ∨ c = 1 ∨ c = 2 := by omega
        · exact congrArg some hsame
        · rfl
        · exact congrArg some hsame.symm
      · rfl
    exact ⟨_, hinput y hy x hx, hbyte 0 (by omega), hbyte 1 (by omega), hbyte 2 (by omega)⟩

/-- A request for a picture of some size points to the blob. -/
theorem imageData_buildSharedRequest (hw : ctx.targetW = w) (hh : ctx.targetH = h)
    (hconvert : ctx.convert frame capture true sws = (some true, ctx')) (hpos : 0 < w * h)
    (requestMeta : EngineStreamMetaData) (correlationId : ℕ) :
    (buildSharedRequest requestMeta ctx' address correlationId).imageData = some address := by
  rw [buildSharedRequest, if_pos]
  rw [isReadyForInference, sharedInputBlob_of_convert hconvert, Option.any_some,
    Bool.not_eq_true', List.isEmpty_eq_false_iff, ← List.length_pos_iff]
  refine lt_of_lt_of_le (Nat.mul_pos ?_ ?_) (length_blob sws.pixel)
  · exact lt_of_lt_of_le (Nat.mul_pos (by omega) (Nat.pos_of_mul_pos_right hpos)) (le_lineSize hw)
  · rw [hh, Int.toNat_natCast]
    exact Nat.pos_of_mul_pos_left hpos

/-- **Every handler gets the picture in RGB**, whatever the order, exactly when there is one handler
at most, or red and blue are the same in all pixels. A handler takes one request of the frame. -/
theorem receivesRgb_iff (E : ℕ → YoloV5 κ) (htight : 32 ∣ 3 * w) (hw : ctx.targetW = w)
    (hh : ctx.targetH = h) (hconvert : ctx.convert frame capture true sws = (some true, ctx'))
    (hs : s.Allocated E) (hblob : ctx'.sharedInputBlob = some (s.blobs address))
    (requestMeta : ℕ → EngineStreamMetaData) (correlationId : ℕ → ℕ) {order : List ℕ}
    (hnodup : order.Nodup) :
    (∀ k ∈ order, s.ReceivesRgb E
      (fun k => buildSharedRequest (requestMeta k) ctx' address (correlationId k)) order w h
      (ctx.letterboxed sws.pixel) k) ↔
      order.length ≤ 1 ∨ ∀ y < h, ∀ x < w,
        (ctx.letterboxed sws.pixel x y).b = (ctx.letterboxed sws.pixel x y).r := by
  have himage : s.blobs address = ctx.blob sws.pixel :=
    Option.some.inj (hblob.symm.trans (sharedInputBlob_of_convert hconvert))
  have hrequest : 0 < w * h → ∀ k,
      (buildSharedRequest (requestMeta k) ctx' address (correlationId k)).imageData =
        some address :=
    fun hpos _ => imageData_buildSharedRequest hw hh hconvert hpos _ _
  constructor
  · intro hall
    by_contra! hcon
    obtain ⟨hmany, y, hy, x, hx, hdiffer⟩ := hcon
    have hsecond : order[1]? = some order[1] := List.getElem?_eq_getElem hmany
    have hright := (receivesRgb_getElem? sws hw hh htight hs himage hrequest hnodup hsecond).mp
      (hall _ (List.getElem_mem hmany))
    exact hdiffer ((hright.resolve_left (by decide)) y hy x hx)
  · intro hright k hk
    obtain ⟨j, hj⟩ := List.mem_iff_getElem?.mp hk
    refine (receivesRgb_getElem? sws hw hh htight hs himage hrequest hnodup hj).mpr
      (hright.imp_left fun hone => ?_)
    have hlt : j < order.length := by
      by_contra hge
      rw [List.getElem?_eq_none (Nat.le_of_not_lt hge)] at hj
      cases hj
    omega

/-- Handlers that have not run yet, with the given image in all blobs. -/
def fresh (E : ℕ → YoloV5 κ) (image : Buffer) : SharedImages where
  blobs := fun _ => image
  buffers := fun k => (E k).allocateBuffers [] fun _ => []
  batches := fun _ => []

theorem allocated_fresh (E : ℕ → YoloV5 κ) (image : Buffer) : (fresh E image).Allocated E := by
  intro k
  simp only [fresh, YoloV5.allocateBuffers, List.length_replicate]

/-- Engines with one input buffer each. -/
def singleEngines (_ : ℕ) : YoloV5 Unit :=
  ⟨(1, 0), 1, by decide, 3, 0, 0, 0, fun _ _ => [], fun _ _ => [], fun _ => []⟩

/-- A grey picture of one row. -/
def greyRow : SwsScale := plainPicture 1 ⟨90, 90, 90⟩

/-- Two engines get a grey picture as it is. -/
theorem receivesRgb_grey :
    let image := (sameSizeContext 32 1).blob greyRow.pixel
    let request (_ : ℕ) := buildSharedRequest ⟨0, 0, 32, 1, 0⟩
      ((sameSizeContext 32 1).convert (some ⟨32, 1, 0⟩) false true greyRow).2 0 0
    let picture := (sameSizeContext 32 1).letterboxed greyRow.pixel
    (fresh singleEngines image).ReceivesRgb singleEngines request [0, 1] 32 1 picture 0 ∧
      (fresh singleEngines image).ReceivesRgb singleEngines request [0, 1] 32 1 picture 1 := by
  have hconvert : (sameSizeContext 32 1).convert (some ⟨32, 1, 0⟩) false true greyRow =
      (some true, _) := Prod.ext (convert_sameSize (by decide) _ _) rfl
  have hall : ∀ k ∈ [0, 1], (fresh singleEngines
      ((sameSizeContext 32 1).blob greyRow.pixel)).ReceivesRgb singleEngines
        (fun _ => buildSharedRequest ⟨0, 0, 32, 1, 0⟩
          ((sameSizeContext 32 1).convert (some ⟨32, 1, 0⟩) false true greyRow).2 0 0) [0, 1] 32 1
        ((sameSizeContext 32 1).letterboxed greyRow.pixel) k := by
    refine (receivesRgb_iff singleEngines (by decide) rfl rfl hconvert (allocated_fresh _ _)
      (sharedInputBlob_of_convert hconvert) (fun _ => ⟨0, 0, 32, 1, 0⟩) (fun _ => 0)
      (by decide)).mpr (.inr fun y hy x hx => ?_)
    rw [greyRow, letterboxed_sameSize hx hy]
  exact ⟨hall 0 (by decide), hall 1 (by decide)⟩

/-- **The second engine gets the picture with red and blue exchanged.** -/
theorem not_receivesRgb : ¬ ∀ (E : ℕ → YoloV5 Unit) (w h : ℕ)
    (ctx ctx' : FrameFormattingContext) (frame : Option AVFrame) (capture : Bool) (sws : SwsScale)
    (s : SharedImages) (address : ℕ) (request : ℕ → SharedRequest) (order : List ℕ),
    32 ∣ 3 * w → ctx.targetW = w → ctx.targetH = h →
      ctx.convert frame capture true sws = (some true, ctx') → s.Allocated E →
      ctx'.sharedInputBlob = some (s.blobs address) →
      (∀ k, ∃ requestMeta correlationId,
        request k = buildSharedRequest requestMeta ctx' address correlationId) → order.Nodup →
      ∀ k ∈ order, s.ReceivesRgb E request order w h (ctx.letterboxed sws.pixel) k := by
  intro hall
  have hconvert : (sameSizeContext 32 1).convert (some ⟨32, 1, 0⟩) false true
      (plainPicture 1 ⟨0, 0, 255⟩) = (some true, _) :=
    Prod.ext (convert_sameSize (by decide) _ _) rfl
  have hshared := sharedInputBlob_of_convert hconvert
  have hsecond := hall singleEngines 32 1 _ _ _ _ _
    (fresh singleEngines ((sameSizeContext 32 1).blob (plainPicture 1 ⟨0, 0, 255⟩).pixel)) 0
    (fun _ => buildSharedRequest ⟨0, 0, 32, 1, 0⟩ _ 0 0) [0, 1] (by decide) rfl rfl hconvert
    (allocated_fresh _ _) hshared (fun _ => ⟨_, _, rfl⟩) (by decide) 1 (by decide)
  have hright := (receivesRgb_getElem? (E := singleEngines) (plainPicture 1 ⟨0, 0, 255⟩) rfl rfl
    (by decide) (allocated_fresh _ _) rfl
    (fun hpos _ => imageData_buildSharedRequest rfl rfl hconvert hpos _ _) (by decide) (j := 1)
    rfl).mp hsecond
  have hsame := hright.resolve_left (by decide) 0 (by decide) 0 (by decide)
  rw [letterboxed_sameSize (by decide) (by decide)] at hsame
  exact absurd hsame (by decide)

end SharedImages

end DetectBase
