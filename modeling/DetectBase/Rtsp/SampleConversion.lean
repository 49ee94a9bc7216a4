import DetectBase.Foundations.Planes

/-!
# Frames from samples

`ConvertSampleToAVFrame`: the sample that the pipeline hands over is a row of bytes with three
planes in it, and the frame for the detector has three planes of its own. The planes are copied in
one piece each, by their sizes in pixels. In the sample the rows of a plane are a multiple of four
bytes apart, in the frame a multiple of thirty-two, and no stride is read.

The pixels come out right for the widths for which there is nothing between the rows
(`DetectBase.Gst.pixelExact_iff`).
-/

namespace DetectBase.Gst

/-- A plane of a picture. -/
inductive PlaneId where
  /-- `data[ 0 ]`, the brightness. -/
  | luma : PlaneId
  /-- `data[ 1 ]`, half as wide and half as high. -/
  | chromaU : PlaneId
  /-- `data[ 2 ]`, of the same size. -/
  | chromaV : PlaneId
deriving DecidableEq

/-- `GST_VIDEO_INFO_FORMAT`. -/
inductive GstVideoFormat where
  /-- `GST_VIDEO_FORMAT_I420`. -/
  | i420 : GstVideoFormat
  /-- Any other format. -/
  | other : GstVideoFormat
deriving DecidableEq

/-- `GstVideoInfo`, as far as it is read. -/
structure GstVideoInfo where
  /-- `GST_VIDEO_INFO_FORMAT( &info )`. -/
  format : GstVideoFormat
  /-- `info.width`. -/
  width : ℕ
  /-- `info.height`. -/
  height : ℕ

/-- `GstMapInfo`. -/
structure GstMapInfo where
  /-- `map.size`. -/
  size : ℕ
  /-- `map.data`. -/
  data : ℕ → UInt8

/-- `GstBuffer`. -/
structure GstBuffer where
  /-- What `gst_buffer_map` gives, or nothing when it fails. -/
  map : Option GstMapInfo
  /-- `GST_BUFFER_PTS`, or nothing when it is not valid. -/
  pts : Option ℕ

/-- `GstSample`. -/
structure GstSample where
  /-- `gst_sample_get_buffer`, or nothing for a null pointer. -/
  buf : Option GstBuffer
  /-- What `gst_video_info_from_caps` makes of `gst_sample_get_caps`: nothing for a null pointer,
  and nothing inside when it fails. -/
  caps : Option (Option GstVideoInfo)

/-- `AVFrame`. -/
structure AVFrame where
  /-- `width`. -/
  width : ℕ
  /-- `height`. -/
  height : ℕ
  /-- `linesize`. -/
  linesize : PlaneId → ℕ
  /-- `data`. -/
  data : PlaneId → ℕ → UInt8
  /-- `pts`. -/
  pts : Option ℕ

/-- What the allocator of the frames does. -/
structure FrameAllocator where
  /-- `av_frame_alloc` does not return a null pointer. -/
  alloc : Bool
  /-- What is in the planes after `av_frame_get_buffer`, or nothing when it fails. -/
  getBuffer : Option (PlaneId → ℕ → UInt8)

/-! ### The layouts -/

namespace PlaneId

/-- The pixels in a row of a plane. -/
def cols (width : ℕ) : PlaneId → ℕ
  | luma => width
  | chromaU | chromaV => width / 2

/-- The rows of a plane. -/
def rows (height : ℕ) : PlaneId → ℕ
  | luma => height
  | chromaU | chromaV => height / 2

/-- `linesize` after `av_frame_get_buffer( frame, 32 )`. -/
def linesize (width : ℕ) (p : PlaneId) : ℕ := roundUp 32 (p.cols width)

/-- The stride of a plane in a sample. -/
def stride (width : ℕ) (p : PlaneId) : ℕ := roundUp 4 (p.cols width)

/-- Where a plane begins in a sample: the planes lie one behind the other. -/
def offset (width height : ℕ) : PlaneId → ℕ
  | luma => 0
  | chromaU => luma.stride width * height
  | chromaV => luma.stride width * height + chromaU.stride width * (height / 2)

end PlaneId

/-! ### The conversion -/

/-- The frame that is returned: what has been copied into its planes, which held `fresh`. -/
def frameOf (info : GstVideoInfo) (map : GstMapInfo) (fresh : PlaneId → ℕ → UInt8)
    (pts : Option ℕ) : AVFrame :=
  let ySz := info.width * info.height
  let uSz := info.width / 2 * (info.height / 2)
  let vSz := uSz
  { width := info.width
    height := info.height
    linesize := PlaneId.linesize info.width
    data := fun
      | .luma => memcpy (fresh .luma) map.data ySz
      | .chromaU => memcpy (fresh .chromaU) (fun i => map.data (ySz + i)) uSz
      | .chromaV => memcpy (fresh .chromaV) (fun i => map.data (ySz + uSz + i)) vSz
    pts }

/-- **`ConvertSampleToAVFrame`**, or nothing for a null pointer. -/
def convertSampleToAVFrame (sample : GstSample) (allocator : FrameAllocator) : Option AVFrame :=
  match sample.buf, sample.caps with
  | some buf, some caps =>
    match caps with
    | none => none
    | some info =>
      if info.format ≠ .i420 then none
      else if allocator.alloc = false then none
      else
        match allocator.getBuffer with
        | none => none
        | some fresh =>
          match buf.map with
          | none => none
          | some map =>
            let ySz := info.width * info.height
            let uSz := info.width / 2 * (info.height / 2)
            let vSz := uSz
            if map.size < ySz + uSz + vSz then none
            else some (frameOf info map fresh buf.pts)
  | _, _ => none

/-- **When there is a frame.** -/
theorem convertSampleToAVFrame_eq_some {sample : GstSample} {allocator : FrameAllocator}
    {frame : AVFrame} (h : convertSampleToAVFrame sample allocator = some frame) :
    ∃ buf info map fresh, sample.buf = some buf ∧ sample.caps = some (some info) ∧
      buf.map = some map ∧ allocator.getBuffer = some fresh ∧
      info.width * info.height + info.width / 2 * (info.height / 2) +
        info.width / 2 * (info.height / 2) ≤ map.size ∧
      frame = frameOf info map fresh buf.pts := by
  rcases sample with ⟨- | buf, - | - | info⟩
  all_goals first | cases h | skip
  rw [convertSampleToAVFrame] at h
  dsimp only at h
  split_ifs at h with hformat halloc
  cases hfresh : allocator.getBuffer with
  | none => rw [hfresh] at h; cases h
  | some fresh =>
    cases hmap : buf.map with
    | none => rw [hfresh, hmap] at h; cases h
    | some map =>
      rw [hfresh, hmap] at h
      dsimp only at h
      split_ifs at h with hsize
      exact ⟨buf, info, map, fresh, rfl, rfl, hmap, rfl, Nat.not_lt.mp hsize,
        (Option.some.inj h).symm⟩

/-! ### When the pixels come out right -/

/-- Where a plane is taken from: behind the pixels of the planes before it. -/
def PlaneId.taken (width height : ℕ) : PlaneId → ℕ
  | luma => 0
  | chromaU => width * height
  | chromaV => width * height + width / 2 * (height / 2)

/-- The width and the height of the pictures in a sample. -/
def GstSample.HasSize (sample : GstSample) (width height : ℕ) : Prop :=
  ∃ info, sample.caps = some (some info) ∧ info.width = width ∧ info.height = height

/-- **Each byte of each plane** of the frame is the byte of the sample at its row and column. -/
def PixelExact (sample : GstSample) (width height : ℕ) (frame : AVFrame) : Prop :=
  ∃ buf map, sample.buf = some buf ∧ buf.map = some map ∧
    ∀ p : PlaneId, ∀ y < p.rows height, ∀ x < p.cols width,
      frame.data p (y * frame.linesize p + x) =
        map.data (p.offset width height + y * p.stride width + x)

variable {width height : ℕ}

/-- A plane of the frame is a copy in one piece. -/
theorem frameOf_data (info : GstVideoInfo) (map : GstMapInfo) (fresh : PlaneId → ℕ → UInt8)
    (pts : Option ℕ) (p : PlaneId) :
    (frameOf info map fresh pts).data p =
      memcpy (fresh p) (fun i => map.data (p.taken info.width info.height + i))
        (p.cols info.width * p.rows info.height) := by
  cases p with
  | luma =>
    simp only [PlaneId.taken, Nat.zero_add]
    rfl
  | chromaU => rfl
  | chromaV => rfl

/-- Where there is nothing between the rows of the sample, its planes are taken from where they
begin. -/
theorem offset_eq_taken (h : 32 ∣ width) (p : PlaneId) :
    p.offset width height = p.taken width height := by
  have hluma : PlaneId.luma.stride width = width :=
    (roundUp_eq_self_iff (by decide)).mpr (Nat.dvd_trans (by decide) h)
  have hchroma : PlaneId.chromaU.stride width = width / 2 := by
    refine (roundUp_eq_self_iff (by decide)).mpr ?_
    show 4 ∣ width / 2
    omega
  cases p with
  | luma => rfl
  | chromaU => rw [PlaneId.offset, hluma]; rfl
  | chromaV => rw [PlaneId.offset, hluma, hchroma]; rfl

/-- The condition for one plane, wherever it begins. -/
theorem forall_plane_iff (dst : ℕ → UInt8) (p : PlaneId) :
    (∀ src : ℕ → UInt8, ∀ y < p.rows height, ∀ x < p.cols width,
      memcpy dst src (p.cols width * p.rows height) (y * p.linesize width + x) =
        src (y * p.stride width + x)) ↔
      p.cols width = 0 ∨ p.rows height ≤ 1 ∨ 32 ∣ p.cols width := by
  have : Nontrivial UInt8 := ⟨0, 1, by decide⟩
  refine (forall_memcpy_iff (s := p.stride width) (d := p.linesize width)
    (le_roundUp (by decide) _) (le_roundUp (by decide) _) dst).trans ?_
  rw [PlaneId.stride, PlaneId.linesize, roundUp_eq_self_iff (by decide),
    roundUp_eq_self_iff (by decide)]
  constructor
  · rintro (h | h | ⟨-, h⟩)
    · exact .inl h
    · exact .inr (.inl h)
    · exact .inr (.inr h)
  · rintro (h | h | h)
    · exact .inl h
    · exact .inr (.inl h)
    · exact .inr (.inr ⟨Nat.dvd_trans (by decide) h, h⟩)

/-- The condition for all planes. -/
theorem forall_planes_iff (hw : 2 ∣ width) (hh : 2 ∣ height) :
    (∀ p : PlaneId, p.cols width = 0 ∨ p.rows height ≤ 1 ∨ 32 ∣ p.cols width) ↔
      width = 0 ∨ height = 0 ∨ 64 ∣ width ∨ 32 ∣ width ∧ height = 2 := by
  constructor
  · intro h
    have hluma : width = 0 ∨ height ≤ 1 ∨ 32 ∣ width := h .luma
    have hchroma : width / 2 = 0 ∨ height / 2 ≤ 1 ∨ 32 ∣ width / 2 := h .chromaU
    omega
  · intro h p
    cases p with
    | luma =>
      show width = 0 ∨ height ≤ 1 ∨ 32 ∣ width
      omega
    | chromaU | chromaV =>
      show width / 2 = 0 ∨ height / 2 ≤ 1 ∨ 32 ∣ width / 2
      omega

/-- A sample that holds the given bytes. -/
def sampleOf (width height : ℕ) (data : ℕ → UInt8) : GstSample :=
  ⟨some ⟨some ⟨width * height + width / 2 * (height / 2) + width / 2 * (height / 2), data⟩, none⟩,
    some (some ⟨.i420, width, height⟩)⟩

theorem convertSampleToAVFrame_sampleOf (data : ℕ → UInt8) (fresh : PlaneId → ℕ → UInt8) :
    convertSampleToAVFrame (sampleOf width height data) ⟨true, some fresh⟩ =
      some (frameOf ⟨.i420, width, height⟩
        ⟨width * height + width / 2 * (height / 2) + width / 2 * (height / 2), data⟩ fresh
        none) := by
  simp only [convertSampleToAVFrame, sampleOf, ne_eq, not_true_eq_false, if_false,
    Bool.true_eq_false, Nat.lt_irrefl]

/-- A plane of which each byte is at its place, whatever the bytes are, has nothing between its
rows. -/
theorem plane_of_pixelExact
    (hall : ∀ sample allocator frame, sample.HasSize width height →
      convertSampleToAVFrame sample allocator = some frame →
      PixelExact sample width height frame)
    {p : PlaneId} (hoffset : p.offset width height = p.taken width height) :
    p.cols width = 0 ∨ p.rows height ≤ 1 ∨ 32 ∣ p.cols width := by
  rw [← forall_plane_iff fun _ => 0]
  intro src y hy x hx
  obtain ⟨buf, map, hbuf, hmap, hexact⟩ :=
    hall (sampleOf width height fun i => src (i - p.taken width height))
      ⟨true, some fun _ _ => 0⟩ _ ⟨_, rfl, rfl, rfl⟩ (convertSampleToAVFrame_sampleOf _ _)
  obtain rfl := Option.some.inj hbuf
  obtain rfl := Option.some.inj hmap
  have hbyte := hexact p y hy x hx
  have hsrc : (fun i => src (p.taken width height + i - p.taken width height)) = src := by
    funext i
    rw [Nat.add_sub_cancel_left]
  rw [frameOf_data] at hbyte
  dsimp only at hbyte
  rw [hsrc, hoffset, Nat.add_assoc (p.taken width height), Nat.add_sub_cancel_left] at hbyte
  exact hbyte

/-- **When the pixels come out right**, whatever they are: if there is nothing between the rows of
any plane, neither in the sample nor in the frame, or if there is but one row. -/
theorem pixelExact_iff (hw : 2 ∣ width) (hh : 2 ∣ height) :
    (∀ sample allocator frame, GstSample.HasSize sample width height →
      convertSampleToAVFrame sample allocator = some frame →
      PixelExact sample width height frame) ↔
      width = 0 ∨ height = 0 ∨ 64 ∣ width ∨ 32 ∣ width ∧ height = 2 := by
  constructor
  · intro hall
    have hluma : width = 0 ∨ height ≤ 1 ∨ 32 ∣ width :=
      plane_of_pixelExact hall (p := .luma) rfl
    rcases hluma with hzero | hone | hdvd
    · exact .inl hzero
    · exact .inr (.inl (by omega))
    · have hchroma : width / 2 = 0 ∨ height / 2 ≤ 1 ∨ 32 ∣ width / 2 :=
        plane_of_pixelExact hall (p := .chromaU) (offset_eq_taken hdvd .chromaU)
      omega
  · rintro hcond sample allocator frame ⟨info, hcaps, rfl, rfl⟩ hsome
    obtain ⟨buf, info', map, fresh, hbuf, hcaps', hmap, -, -, rfl⟩ :=
      convertSampleToAVFrame_eq_some hsome
    obtain rfl : info' = info := by
      rw [hcaps] at hcaps'
      exact (Option.some.inj (Option.some.inj hcaps')).symm
    refine ⟨buf, map, hbuf, hmap, fun p y hy x hx => ?_⟩
    have hoffset : p.offset info'.width info'.height = p.taken info'.width info'.height := by
      rcases hcond with hzero | hzero | hdvd | ⟨hdvd, -⟩
      · cases p <;> simp [PlaneId.cols, hzero] at hx
      · cases p <;> simp [PlaneId.rows, hzero] at hy
      · exact offset_eq_taken (Nat.dvd_trans (by decide) hdvd) p
      · exact offset_eq_taken hdvd p
    have hplane := (forall_planes_iff hw hh).mpr hcond p
    have hbyte := (forall_plane_iff (fresh p) p).mpr hplane
      (fun i => map.data (p.taken info'.width info'.height + i)) y hy x hx
    rw [frameOf_data, hoffset, Nat.add_assoc]
    exact hbyte

/-- A picture of 1920 times 1080 comes out right. -/
theorem pixelExact_iff_fullHd :
    (∀ sample allocator frame, GstSample.HasSize sample 1920 1080 →
      convertSampleToAVFrame sample allocator = some frame →
      PixelExact sample 1920 1080 frame) ↔
      1920 = 0 ∨ 1080 = 0 ∨ 64 ∣ 1920 ∨ 32 ∣ 1920 ∧ 1080 = 2 :=
  pixelExact_iff (by decide) (by decide)

/-- A picture of 1440 times 1080 does not: the rows of its colours are 736 bytes apart in the frame,
and 720 in the sample. -/
theorem not_pixelExact :
    ¬∀ width height : ℕ, 2 ∣ width → 2 ∣ height → ∀ sample allocator frame,
      GstSample.HasSize sample width height →
      convertSampleToAVFrame sample allocator = some frame →
      PixelExact sample width height frame := by
  intro hall
  have hchroma : 720 = 0 ∨ 540 ≤ 1 ∨ 32 ∣ 720 :=
    plane_of_pixelExact (hall 1440 1080 (by decide) (by decide)) (p := .chromaU)
      (offset_eq_taken (by decide) .chromaU)
  omega

end DetectBase.Gst
