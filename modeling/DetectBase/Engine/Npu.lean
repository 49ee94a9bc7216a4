import DetectBase.Structure.InferObject
import DetectBase.Structure.Types

/-!
# The detection engine on the NPU

`YoloV5_Torch_Onnx_RKNN_NPU` does the three parts of an inference for the handler it is derived
from. `Preprocess` copies the image of a request into the next input buffer and adds the request to
the batch; `DoInference` hands the buffers to the device, runs the network and fetches its outputs;
`Postprocess` decodes the outputs, once for the whole batch.

The runtime of the device is not part of the repository. It keeps the inputs that were set last and
the outputs of the last run, and a call that fails leaves both as they are
(`DetectBase.YoloV5.doInference`). The network is a function of the inputs, and the arithmetic of
the decoding one of the outputs; nothing is assumed of either. What is kept of the decoding is which
buffers it reads, since a buffer that was not fetched is a null pointer.

The images of two requests are not shared here, although `bgrToRgbInPlace` writes into the image of
the sender.
-/

namespace DetectBase

/-- `InferDeviceID`. -/
abbrev InferDeviceID := ℤ

/-- `EngineHandleUUID`. -/
abbrev EngineHandleUUID := InferEngineID × InferDeviceID

/-- `EngineStreamMetaData`. -/
structure EngineStreamMetaData where
  /-- `requester_unit_id`. -/
  requesterUnitId : UnitID
  /-- `requestee_engine_uuid`. -/
  requesteeEngineUuid : InferEngineID
  /-- `request_image_pixel_w`. -/
  requestImagePixelW : ℕ
  /-- `request_image_pixel_h`. -/
  requestImagePixelH : ℕ
  /-- `correlation_id`. -/
  correlationId : ℕ
deriving DecidableEq

/-- `InputLayerWrapper`, a request. -/
structure InputLayerWrapper where
  /-- `meta_data`. -/
  metaData : EngineStreamMetaData
  /-- `image_data`, or nothing for a null pointer. -/
  imageData : Option (List UInt8)
deriving DecidableEq

/-- `OutputLayerWrapper`, the response to a request. -/
structure OutputLayerWrapper where
  /-- `meta_data`. -/
  metaData : EngineStreamMetaData
  /-- `engine_handle_uuid`. -/
  engineHandleUuid : EngineHandleUUID
  /-- `infer_objects`. -/
  inferObjects : List InferObject
deriving DecidableEq

/-- `!request.image_data || request.image_data->empty()`. -/
def InputLayerWrapper.lacksImage (r : InputLayerWrapper) : Bool := (r.imageData.getD []).isEmpty

/-- `YOLOV5_RKNN::Detection`. -/
structure Detection where
  /-- `bbox`. -/
  bbox : InferBBox
  /-- `conf`. -/
  conf : Single
  /-- `class_id`. -/
  classId : Single
deriving DecidableEq

/-- The content of a buffer of the device. -/
abbrev Buffer := List UInt8

/-- `YoloV5_Torch_Onnx_RKNN_NPU`, as far as it does not change once the model has been loaded.
`LoadModelEngineFile` refuses a model whose `n_input` is not `batch_size_`. -/
structure YoloV5 (κ : Type) where
  /-- `GetEngineHandleUUID()`. -/
  handleUuid : EngineHandleUUID
  /-- `batch_size_`, and `io_num.n_input`. -/
  batchSize : ℕ
  /-- A batch is not empty. -/
  batchSize_pos : 0 < batchSize
  /-- `output_index_num_`, which is `io_num.n_output`. -/
  outputIndexNum : ℕ
  /-- `rknn_model_w`. -/
  modelW : ℕ
  /-- `rknn_model_h`. -/
  modelH : ℕ
  /-- `rknn_model_c`. -/
  modelC : ℕ
  /-- What a run makes of the inputs: the output with the given number. -/
  network : List Buffer → ℕ → Buffer
  /-- The candidates that `rknn_process_impl` finds in an output, at the given stride. -/
  candidates : ℕ → Buffer → List κ
  /-- The rest of `PostProcessImplRKNN`: `sort_by_confidence_desc`, `nms` and the results. -/
  emit : List κ → List Detection

/-- What the members of the engine hold, and what the device holds. -/
structure YoloV5.Buffers where
  /-- `rknn_inputs_`. -/
  rknnInputs : List Buffer
  /-- `rknn_outputs_`, or nothing for a null pointer. -/
  rknnOutputs : ℕ → Option Buffer
  /-- The inputs on the device. -/
  deviceInputs : List Buffer
  /-- The outputs on the device. -/
  deviceOutputs : ℕ → Buffer

/-- Where `Preprocess` throws. -/
inductive PreprocessThrow where
  /-- `rknn_input_lock_` cannot be locked. -/
  | atLock : PreprocessThrow
  /-- The batch cannot grow. -/
  | atPushBack : PreprocessThrow

/-- Which calls of the runtime return `RKNN_SUCC`. -/
structure RknnCodes where
  /-- `rknn_inputs_set`. -/
  inputsSet : Bool
  /-- `rknn_run`. -/
  run : Bool
  /-- `rknn_outputs_get`. -/
  outputsGet : Bool

/-- **`bgrToRgbInPlace`**: the first and the third byte of each pixel change places. -/
def bgrToRgbInPlace : List UInt8 → ℕ → List UInt8
  | b :: g :: r :: rest, n + 1 => r :: g :: b :: bgrToRgbInPlace rest n
  | data, _ => data

namespace YoloV5

variable {κ : Type} (E : YoloV5 κ)

/-- What `Preprocess` copies into the input buffer. -/
def inputOf (r : InputLayerWrapper) : Buffer :=
  (bgrToRgbInPlace (r.imageData.getD []) (E.modelW * E.modelH)).take
    (E.modelW * E.modelH * E.modelC)

/-- After `AllocateBuffers`. Nothing has been fetched, and what is on the device is arbitrary. -/
def allocateBuffers (deviceInputs : List Buffer) (deviceOutputs : ℕ → Buffer) : Buffers where
  rknnInputs := List.replicate E.batchSize (List.replicate (E.modelW * E.modelH * E.modelC) 0)
  rknnOutputs := fun _ => none
  deviceInputs := deviceInputs
  deviceOutputs := deviceOutputs

/-- **`Preprocess`**: what it returns, or nothing when it throws, the buffers and the batch. -/
def preprocess (m : Buffers) (batch : List InputLayerWrapper) (r : InputLayerWrapper)
    (throws : Option PreprocessThrow) : Option Bool × Buffers × List InputLayerWrapper :=
  let idx := batch.length % E.batchSize
  if r.lacksImage then (some false, m, batch)
  else if m.rknnInputs.length ≤ idx then (some false, m, batch)
  else
    let m' := { m with rknnInputs := m.rknnInputs.set idx (E.inputOf r) }
    match throws with
    | some .atLock => (none, m, batch)
    | some .atPushBack => (none, m', batch)
    | none => (some (decide (E.batchSize ≤ batch.length + 1)), m', batch ++ [r])

/-- **`DoInference`**, which returns `true` whatever the calls return. -/
def doInference (m : Buffers) (codes : RknnCodes) : Bool × Buffers :=
  let inputs := if codes.inputsSet then m.rknnInputs.take E.batchSize else m.deviceInputs
  let outputs := if codes.run then E.network inputs else m.deviceOutputs
  (true, { m with
    deviceInputs := inputs
    deviceOutputs := outputs
    -- the descriptors are zeroed before the run
    rknnOutputs := if codes.outputsGet then fun i => some (outputs i) else fun _ => none })

/-- **`rknn_process_impl`**: the candidates in an output, or nothing when it reads a null
pointer. -/
def rknnProcessImpl (stride : ℕ) (input : Option Buffer) : Option (List κ) :=
  -- a grid without a cell is not read
  if E.modelH / stride * (E.modelW / stride) = 0 then some []
  else input.map (E.candidates stride)

/-- **`PostProcessImplRKNN`**. -/
def postProcessImplRKNN (input0 input1 input2 : Option Buffer) : Option (List Detection) :=
  (E.rknnProcessImpl 8 input0).bind fun c0 =>
    (E.rknnProcessImpl 16 input1).bind fun c1 =>
      (if E.outputIndexNum = 3 ∧ input2.isSome then E.rknnProcessImpl 32 input2
        else some []).map fun c2 => E.emit (c0 ++ c1 ++ c2)

/-- `raw_results` of `Postprocess`, or nothing when a null pointer is read. -/
def rawResults (outputs : ℕ → Option Buffer) : Option (List Detection) :=
  if E.outputIndexNum = 3 then E.postProcessImplRKNN (outputs 0) (outputs 1) (outputs 2)
  else if E.outputIndexNum = 2 then E.postProcessImplRKNN (outputs 0) (outputs 1) none
  else some []

/-- An object of a response. -/
def toInferObject (d : Detection) : InferObject where
  inferEngineId := E.handleUuid.1
  classId := d.classId.truncate (-2 ^ 31) (2 ^ 31 - 1)
  trackId := -2
  score := d.conf
  bbox := d.bbox
  xyRefType := .ltxType
  coordFormat := .pixelInt
  extendData := []

/-- **`Postprocess`**: a response for each request of the batch, or nothing when a null pointer is
read. -/
def postprocess (m : Buffers) (batch : List InputLayerWrapper) :
    Option (List (InputLayerWrapper × OutputLayerWrapper)) :=
  if batch = [] then some []
  else (E.rawResults m.rknnOutputs).map fun raw =>
    batch.map fun r => (r, ⟨r.metaData, E.handleUuid, raw.map E.toInferObject⟩)

/-! ### What the three parts do -/

variable {E} {m : Buffers} {r : InputLayerWrapper}

/-- **A request with an image is taken in, or `Preprocess` throws.** -/
theorem preprocess_cases (batch : List InputLayerWrapper) (himage : r.lacksImage = false)
    (hbuf : m.rknnInputs.length = E.batchSize) (throws : Option PreprocessThrow) :
    (E.preprocess m batch r throws).1 = none ∧
        (E.preprocess m batch r throws).2.2 = batch ∧
        ((E.preprocess m batch r throws).2.1 = m ∨
          (E.preprocess m batch r throws).2.1 =
            { m with rknnInputs := m.rknnInputs.set (batch.length % E.batchSize) (E.inputOf r) }) ∨
      E.preprocess m batch r throws =
        (some (decide (E.batchSize ≤ batch.length + 1)),
          { m with rknnInputs := m.rknnInputs.set (batch.length % E.batchSize) (E.inputOf r) },
          batch ++ [r]) := by
  have hidx : ¬ m.rknnInputs.length ≤ batch.length % E.batchSize := by
    have := Nat.mod_lt batch.length E.batchSize_pos
    omega
  rw [preprocess, himage, if_neg (by simp), if_neg hidx]
  cases throws with
  | none => exact .inr rfl
  | some t =>
    cases t with
    | atLock => exact .inl ⟨rfl, rfl, .inl rfl⟩
    | atPushBack => exact .inl ⟨rfl, rfl, .inr rfl⟩

/-- The detections in the outputs of a run. -/
def decode (E : YoloV5 κ) (outputs : ℕ → Buffer) : List InferObject :=
  ((E.rawResults fun i => some (outputs i)).getD []).map E.toInferObject

/-- Outputs that were fetched can be read. -/
theorem rawResults_isSome (outputs : ℕ → Buffer) :
    (E.rawResults fun i => some (outputs i)).isSome := by
  have hread : ∀ stride b, ∃ c, E.rknnProcessImpl stride (some b) = some c := by
    intro stride b
    rw [rknnProcessImpl]
    split_ifs
    · exact ⟨_, rfl⟩
    · exact ⟨_, rfl⟩
  obtain ⟨c0, h0⟩ := hread 8 (outputs 0)
  obtain ⟨c1, h1⟩ := hread 16 (outputs 1)
  obtain ⟨c2, h2⟩ := hread 32 (outputs 2)
  rw [rawResults]
  split_ifs with h3 h2'
  · simp [postProcessImplRKNN, h0, h1, h2, h3]
  · simp [postProcessImplRKNN, h0, h1, h2']
  · rfl

end YoloV5

end DetectBase
