import DetectBase.Abnormal.RateLimit
import DetectBase.Foundations.Transition
import DetectBase.Json.Value
import DetectBase.Structure.SafeQueue
import DetectBase.Vision.FrameFormatting

/-!
# The event thread

`RtspDetectorUnit::EventThreadRunner` takes the tracked objects of a frame, lets each schedule check
them, converts the frame to a picture that is to be saved, and emits a notification for each
schedule that has reported something. The checks come first, and a check that reports something
restarts the interval of its schedule; the conversion comes after them, and when it fails, the cycle
is given up together with its notifications.

A cycle is a function of what the environment decides: the item, the clocks, whether the directory
can be made, and what the library does with the frame. Between two cycles other threads may replace
the schedules. Every cycle of a run sends its notifications exactly when in every cycle in which a
check reports something the frame can be converted (`DetectBase.EventThread.notifies_iff`). That is
a condition on the context that the cycle finds and on the calls of the library
(`DetectBase.FrameFormattingContext.CanConvert`).
-/

namespace DetectBase

open Abnormal

/-! ### Frames converted in their own size -/

namespace FrameFormattingContext

variable {ctx : FrameFormattingContext} {frame : AVFrame} {created : Bool} {sws : SwsScale}

/-- The frame is converted to a picture of its own size, to be saved: the calls of `Update` and
`Convert` that are made for it. -/
def convertOrigin (ctx : FrameFormattingContext) (frame : AVFrame) (created : Bool)
    (sws : SwsScale) : Option Bool × FrameFormattingContext :=
  -- when `Update` fails, a line is logged
  (ctx.update frame.width frame.height frame.width frame.height frame.format created).2.convert
    (some frame) true false sws

/-- The context has been used for frames in their own size only. -/
structure SameSize (ctx : FrameFormattingContext) : Prop where
  /-- The picture has the size of the frames. -/
  target : ctx.targetW = ctx.srcW ∧ ctx.targetH = ctx.srcH
  /-- A context that can be used scales nothing. -/
  box : ctx.isInitialized = true → ctx.box = ⟨false, ctx.srcW, ctx.srcH, 0, 0, 0, 0⟩

/-- The context is there for frames of the size that the next frame has. -/
def KeepsContext (ctx : FrameFormattingContext) (frame : AVFrame) : Prop :=
  ctx.isInitialized = true ∧ ctx.srcW = frame.width ∧ ctx.srcH = frame.height

instance (ctx : FrameFormattingContext) (frame : AVFrame) : Decidable (ctx.KeepsContext frame) :=
  inferInstanceAs (Decidable (_ ∧ _))

/-- **The frame can be converted**: `Update` keeps a context of the library or gets a new one, the
frame has a size, and `sws_scale` gives some rows. -/
structure CanConvert (ctx : FrameFormattingContext) (frame : AVFrame) (created : Bool)
    (sws : SwsScale) : Prop where
  /-- There is a context. -/
  context : if ctx.KeepsContext frame then ctx.swsScaleCtx.isSome else created
  /-- The picture is one that `cv::Mat` accepts. -/
  size : 0 ≤ frame.width ∧ 0 ≤ frame.height
  /-- Some rows are scaled. -/
  rows : 0 < sws.processedH

theorem sameSize_new : FrameFormattingContext.new.SameSize := ⟨⟨rfl, rfl⟩, nofun⟩

theorem letterboxOf_same (w h : ℤ) : letterboxOf w h w h = ⟨false, w, h, 0, 0, 0, 0⟩ := by
  rw [letterboxOf, if_pos ⟨rfl, rfl⟩]

theorem isResolutionChanged_same (hctx : ctx.SameSize) :
    ctx.isResolutionChanged frame.width frame.height frame.width frame.height = false ↔
      ctx.srcW = frame.width ∧ ctx.srcH = frame.height := by
  rw [isResolutionChanged, hctx.target.1, hctx.target.2, decide_eq_false_iff_not]
  omega

/-- What `Update` leaves. -/
theorem update_origin (frame : AVFrame) (created : Bool) (hctx : ctx.SameSize) :
    (ctx.update frame.width frame.height frame.width frame.height frame.format created).2.SameSize ∧
      let ctx' := (ctx.update frame.width frame.height frame.width frame.height frame.format
        created).2
      ctx'.srcW = frame.width ∧ ctx'.srcH = frame.height ∧
        ((ctx'.isInitialized = true ∧ ctx'.swsScaleCtx.isSome = true) ↔
          if ctx.KeepsContext frame then ctx.swsScaleCtx.isSome = true else created = true) := by
  by_cases hkeep : ctx.KeepsContext frame
  · have hsame := (isResolutionChanged_same hctx).mpr hkeep.2
    rw [update, hkeep.1, hsame]
    refine ⟨hctx, hkeep.2.1, hkeep.2.2, ?_⟩
    rw [if_pos hkeep]
    exact and_iff_right hkeep.1
  · have hmake : (ctx.isInitialized &&
        !ctx.isResolutionChanged frame.width frame.height frame.width frame.height) = false := by
      rw [← Bool.not_eq_true, Bool.and_eq_true, Bool.not_eq_true', isResolutionChanged_same hctx]
      exact hkeep
    rw [update, hmake, if_neg hkeep]
    cases created with
    | true =>
      refine ⟨⟨⟨rfl, rfl⟩, fun _ => letterboxOf_same _ _⟩, rfl, rfl, ?_⟩
      exact iff_of_true ⟨rfl, rfl⟩ rfl
    | false =>
      refine ⟨⟨⟨rfl, rfl⟩, fun _ => letterboxOf_same _ _⟩, rfl, rfl, ?_⟩
      exact iff_of_false (fun h => Bool.false_ne_true h.2) Bool.false_ne_true

/-- A picture is made exactly when its size is one that `cv::Mat` accepts and some rows are
scaled. -/
theorem makePicture_iff (hctx : ctx.SameSize) (hinit : ctx.isInitialized = true) {step : ℕ}
    {buffer : Buffer} : (∃ data, ctx.makePicture step sws buffer = .ok data) ↔
      (0 ≤ ctx.srcW ∧ 0 ≤ ctx.srcH) ∧ 0 < sws.processedH := by
  have hbox := hctx.box hinit
  have haccepts : ctx.accepts (ctx.frameLayer sws.pixel) = true ↔ 0 ≤ ctx.srcW ∧ 0 ≤ ctx.srcH := by
    rw [accepts, frameLayer, hctx.target.1, hctx.target.2, hbox, Rect.within, decide_eq_true_eq]
    dsimp only
    omega
  have hborders : ctx.borders = [] := by simp [borders, border, hbox]
  rw [makePicture, hborders]
  split_ifs with hout hrows hall
  · refine iff_of_false ?_ fun h => Bool.false_ne_true (hout.symm.trans (haccepts.mpr h.1))
    rintro ⟨_, ⟨⟩⟩
  · refine iff_of_false ?_ fun h => absurd h.2 (not_lt.mpr hrows)
    rintro ⟨_, ⟨⟩⟩
  · cases hall
  · exact iff_of_true ⟨_, rfl⟩ ⟨haccepts.mp (Bool.eq_true_of_not_eq_false hout), not_le.mp hrows⟩

/-- A picture to be saved is filled exactly when it is made. -/
theorem fillSnapshot_iff (hctx : ctx.SameSize) (hinit : ctx.isInitialized = true) :
    (ctx.fillSnapshot sws).1 = some true ↔ (0 ≤ ctx.srcW ∧ 0 ≤ ctx.srcH) ∧ 0 < sws.processedH := by
  have hcleared : SameSize { ctx with sharedInputBlob := none } := ⟨hctx.target, hctx.box⟩
  rw [fillSnapshot]
  dsimp only
  split
  · next ended hended =>
    refine iff_of_false (ne_of_makePicture hended) fun h => ?_
    obtain ⟨data, hdata⟩ := (makePicture_iff hcleared hinit).mpr h
    cases hended.symm.trans hdata
  · next data hdata => exact iff_of_true rfl ((makePicture_iff hcleared hinit).mp ⟨data, hdata⟩)

/-- `Convert` changes nothing that the size depends on. -/
theorem sameSize_convert (hctx : ctx.SameSize) :
    (ctx.convert (some frame) true false sws).2.SameSize := by
  rw [convert]
  split_ifs
  · exact hctx
  · contradiction
  · rw [fillSnapshot]
    dsimp only
    split
    · exact ⟨hctx.target, hctx.box⟩
    · exact ⟨hctx.target, hctx.box⟩
  · contradiction

/-- **When the conversion succeeds.** -/
theorem convertOrigin_iff (hctx : ctx.SameSize) :
    (ctx.convertOrigin frame created sws).1 = some true ↔ ctx.CanConvert frame created sws := by
  obtain ⟨hsame, hw, hh, husable⟩ := update_origin frame created hctx
  rw [convertOrigin]
  generalize (ctx.update frame.width frame.height frame.width frame.height frame.format
    created).2 = ctx' at hsame hw hh husable
  rw [convert]
  split_ifs with hunfit hblob hsave
  · refine iff_of_false nofun fun hcan => ?_
    obtain ⟨hinit, hsome⟩ := husable.mpr (by simpa using hcan.context)
    obtain h | h | h := hunfit
    · exact Bool.false_ne_true (h.symm.trans hinit)
    · rw [Option.isNone_iff_eq_none] at h
      rw [h] at hsome
      cases hsome
    · cases h
  · contradiction
  · rw [not_or, not_or, Bool.not_eq_false] at hunfit
    rw [fillSnapshot_iff hsame hunfit.1, hw, hh]
    have hsome : ctx'.swsScaleCtx.isSome = true :=
      Option.isSome_iff_ne_none.mpr fun h => hunfit.2.1 (Option.isNone_iff_eq_none.mpr h)
    constructor
    · rintro ⟨hsize, hrows⟩
      exact ⟨by simpa using husable.mp ⟨hunfit.1, hsome⟩, hsize, hrows⟩
    · exact fun hcan => ⟨hcan.size, hcan.rows⟩
  · contradiction

theorem sameSize_convertOrigin (frame : AVFrame) (created : Bool) (sws : SwsScale)
    (hctx : ctx.SameSize) :
    (ctx.convertOrigin frame created sws).2.SameSize :=
  sameSize_convert (update_origin frame created hctx).1

end FrameFormattingContext

/-! ### Messages -/

namespace Json

/-- `operator[]` with a key, and what is done to the value there: a null value becomes an object,
and a member that is missing is null at first. -/
def subscript (key : String) (f : Json → Json) : Json → Json
  | .null => .obj [(key, f .null)]
  | .obj kvs => .obj (assign key (f ((kvs.lookup key).getD .null)) kvs)
  | j => j

/-- A value to which members have been assigned, in turn. -/
def ofFields (fields : List (String × Json)) : Json :=
  fields.foldl (fun j field => j.subscript field.1 fun _ => field.2) .null

end Json

/-- `struct tm`, with its seconds. -/
structure EventTime extends Tm where
  /-- `tm_sec`. -/
  tmSec : ℤ

namespace EventTime

/-- Hours, minutes and seconds. -/
def clock (t : EventTime) (separator : String) : String :=
  padTwo t.tmHour.toNat ++ separator ++ padTwo t.tmMin.toNat ++ separator ++ padTwo t.tmSec.toNat

/-- `strftime` with `%Y-%m-%d %H:%M:%S`. -/
def dateTime (t : EventTime) : String := t.date ++ " " ++ t.clock ":"

/-- `strftime` with `%Y%m%d_%H%M%S`. -/
def stamp (t : EventTime) : String :=
  toString (t.tmYear + 1900) ++ padTwo (t.tmMon + 1) ++ padTwo t.tmMday ++ "_" ++ t.clock ""

end EventTime

/-- The conversions `%04d` and `%02d` of `snprintf`. -/
def zeroPadded (width : ℕ) (z : ℤ) : String :=
  let sign := if z < 0 then "-" else ""
  let digits := toString z.natAbs
  sign ++ String.ofList (List.replicate (width - sign.length - digits.length) '0') ++ digits

/-- `SetExtendedDataToJson`. -/
def setExtendedDataToJson (object : Json) (inferObject : InferObject) (event : Option EventClass) :
    Json :=
  match inferObject.extendData with
  | [] => object
  | val :: _ =>
    let val : Json := .int (val.truncate (-2 ^ 31) (2 ^ 31 - 1))
    match event with
    | some .lineIntrusion => object.subscript "Direction" fun _ => val
    | some .areaIntrusion => object.subscript "Duration" fun _ => val
    | some .vehicleParking => object.subscript "Duration" fun _ => val
    | _ => object

/-! ### The thread -/

/-- `EventItem`. -/
structure EventItem where
  /-- `frame`, or nothing for a null pointer. -/
  frame : Option AVFrame
  /-- `track_results`. -/
  trackResults : DataLayer

/-- `IOWorkItem`. -/
structure IOWorkItem where
  /-- `frame_path`. -/
  framePath : String
  /-- `image_mat`. -/
  imageMat : ℤ × ℤ × Buffer

/-- An element of `scheduler_`. -/
structure ActiveSchedule where
  /-- Its constants. -/
  sch : Schedule
  /-- Its state. -/
  state : ScheduleState sch

/-- The members of `RtspDetectorUnit` that the thread uses, and its local variables. -/
structure EventThread where
  /-- `id_`. -/
  id : ℤ
  /-- `socket_io_server_id_`. -/
  socketIoServerId : ℤ
  /-- `stable_frame_w_`. -/
  stableFrameW : ℤ
  /-- `stable_frame_h_`. -/
  stableFrameH : ℤ
  /-- `scheduler_`. -/
  scheduler : List ActiveSchedule
  /-- `evt_origin_ctx`. -/
  evtOriginCtx : FrameFormattingContext
  /-- `io_work_queue_`, or nothing for a null pointer. -/
  ioWorkQueue : Option (SafeQueue IOWorkItem)
  /-- `sio_handler_` is not null. -/
  sioHandler : Bool
  /-- `network_manager_` has a gRPC client. -/
  grpcClient : Bool
  /-- No exception has ended the thread. -/
  running : Bool

/-- What the clocks show during a call of `Check`. -/
structure ClockReadings where
  /-- When the call begins. -/
  begun : Moment
  /-- At each object. -/
  look : ℕ → Moment
  /-- After the loop. -/
  ended : Moment

/-- The call of `Check` for a layer. -/
def ClockReadings.call (r : ClockReadings) (layer : DataLayer) : TimedCall where
  begun := r.begun
  looks := layer.mapIdx fun i object => ⟨r.look i, object⟩
  ended := r.ended

/-- What the environment decides in a cycle. -/
structure CycleInput where
  /-- What is taken from `event_q_`. -/
  item : EventItem
  /-- `localtime_r` of `time(nullptr)`. -/
  time : EventTime
  /-- What the clocks show during the check of each schedule. -/
  readings : ℕ → ClockReadings
  /-- What the generator of identifiers gives: for the picture, and then for each schedule. -/
  uuid : ℕ → String
  /-- `MakeDirectoryWhenNotExist` succeeds. -/
  directory : Bool
  /-- `sws_getContext` gives a context, if it is asked for one. -/
  created : Bool
  /-- The call of `sws_scale`, if there is one. -/
  sws : SwsScale

/-- A call of `Check` and what it returns. -/
structure Checked where
  /-- The schedule. -/
  sch : Schedule
  /-- `on_event_results`. -/
  results : DataLayer

/-- What a cycle does. -/
structure EventCycle where
  /-- The thread after it. -/
  thread : EventThread
  /-- The calls of `Check`, in turn. -/
  checked : List Checked
  /-- What is passed to `Emit`, in turn. -/
  emitted : List Json
  /-- What is sent to the gRPC peers, in turn. -/
  broadcast : List Json

namespace EventThread

/-- The path that `MakeImageSavePath` gives, if the directory can be made. -/
def imagePath (t : EventThread) (c : CycleInput) : String :=
  "/frame" ++ "/" ++ zeroPadded 4 (c.time.tmYear + 1900) ++ "/" ++ padTwo (c.time.tmMon + 1) ++
    "/" ++ padTwo c.time.tmMday ++ "/" ++ zeroPadded 4 t.id ++ "_" ++ c.time.clock "" ++ "_" ++
    c.uuid 0 ++ ".jpg"

/-- **`MakeImageSavePath`**. -/
def makeImageSavePath (t : EventThread) (c : CycleInput) : Option String :=
  if c.directory then some (t.imagePath c) else none

/-- `BuildNotifyJsonBase`, for a broadcast. -/
def buildNotifyJsonBase (t : EventThread) (messageType : String) (time : EventTime)
    (destination : String) : Json :=
  let data := Json.ofFields [("MessageType", .str messageType), ("Message", .null)]
  Json.ofFields [("TransmissionMethod", .int 1), ("Time", .str time.dateTime),
    ("Source", .str (toString t.socketIoServerId)), ("Destination", .str destination),
    ("Data", data)]

/-- An element of `Objects`. -/
def notifyObject (t : EventThread) (sch : Schedule) (result : InferObject) : Json :=
  let toInt (x : Single) : Json := .int (x.truncate (-2 ^ 31) (2 ^ 31 - 1))
  let bbox := result.bbox
  setExtendedDataToJson (Json.ofFields [("Confidence", .float (result.score.convert binary64)),
    ("ClassId", .int result.classId), ("TrackId", .int result.trackId),
    ("VideoWidth", .int t.stableFrameW), ("VideoHeight", .int t.stableFrameH),
    ("Box", .arr [toInt bbox.x, toInt bbox.y, toInt (bbox.x.add bbox.w),
      toInt (bbox.y.add bbox.h)])])
    result sch.eventClass

/-- **`BuildNotifyJsonImpl_Analysis`**. -/
def buildNotifyJsonImpl (t : EventThread) (sch : Schedule) (abnormalResults : DataLayer)
    (time : EventTime) (imagePath uuid : String) : Json :=
  let uid := time.stamp ++ "_" ++ toString t.id ++ "_" ++ toString sch.schInfo.eventCode ++ "_" ++
    uuid
  let trackId := (abnormalResults.head?.map InferObject.trackId).getD (-1)
  let analysis := Json.ofFields [("Time", .str time.dateTime), ("Uid", .str uid),
    ("TrackId", .int trackId), ("CameraId", .int t.id), ("EventCode", .int sch.schInfo.eventCode),
    ("LevelCode", .int sch.schInfo.levelCode), ("ScheduleId", .int sch.schInfo.scheduleId),
    ("ServerId", .int t.socketIoServerId), ("ImagePath", .str imagePath),
    ("Objects", .arr (abnormalResults.map (t.notifyObject sch))), ("Confirm", .int 0),
    ("Checker", .str "")]
  (t.buildNotifyJsonBase "EventNotifycation" time "").subscript "Data" fun data =>
    data.subscript "Message" fun message => message.subscript "Analysis" fun _ => analysis

/-- The loop over the schedules: what each check returns, and the schedule after it. -/
def checkAll (t : EventThread) (c : CycleInput) : List (Checked × ActiveSchedule) :=
  t.scheduler.mapIdx fun i schedule =>
    let out := schedule.sch.timedCheck ((c.readings i).call c.item.trackResults) schedule.state
    (⟨schedule.sch, out.1⟩, ⟨schedule.sch, out.2⟩)

/-- The messages for the schedules that have reported something. -/
def eventList (t : EventThread) (c : CycleInput) (checked : List Checked) (framePath : String) :
    List Json :=
  (checked.zipIdx.filter fun each => !each.1.results.isEmpty).map fun each =>
    t.buildNotifyJsonImpl each.1.sch each.1.results c.time framePath (c.uuid (each.2 + 1))

/-- The cycle is given up before the checks. -/
def skip (t : EventThread) : EventCycle := ⟨t, [], [], []⟩

/-- A cycle from the checks on. -/
def checkAndSend (t : EventThread) (c : CycleInput) (frame : AVFrame) (framePath : String) :
    EventCycle :=
  let results := t.checkAll c
  let checked := results.map Prod.fst
  let events := t.eventList c checked framePath
  let t := { t with scheduler := results.map Prod.snd }
  if events.isEmpty then ⟨t, checked, [], []⟩
  else
    let converted := t.evtOriginCtx.convertOrigin frame c.created c.sws
    let t := { t with evtOriginCtx := converted.2 }
    match converted.1 with
    | some true =>
      let t := { t with
        ioWorkQueue := t.ioWorkQueue.map (·.enqueue ⟨framePath, t.evtOriginCtx.saveSnapshotMat⟩) }
      ⟨t, checked, if t.sioHandler then events else [], if t.grpcClient then events else []⟩
    | some false => ⟨t, checked, [], []⟩
    -- nothing catches the exception
    | none => ⟨{ t with running := false }, checked, [], []⟩

/-- **A cycle of `EventThreadRunner`** with an item. -/
def cycle (t : EventThread) (c : CycleInput) : EventCycle :=
  match c.item.frame with
  | none => t.skip
  | some frame =>
    if t.scheduler.isEmpty then t.skip
    else match t.makeImageSavePath c with
      | none => t.skip
      | some framePath => t.checkAndSend c frame framePath

/-- What happens in a run. -/
inductive Action where
  /-- The thread goes through a cycle. -/
  | cycle (c : CycleInput) : Action
  /-- The thread of the inferences has replaced the schedules, and the size that they are for. -/
  | reschedule (scheduler : List ActiveSchedule) (frameW frameH : ℤ) : Action

/-- **One step of a run.** -/
def step (t : EventThread) : Action → Option EventThread
  | .cycle c => if t.running then some (t.cycle c).thread else none
  | .reschedule scheduler frameW frameH =>
    some { t with scheduler := scheduler, stableFrameW := frameW, stableFrameH := frameH }

/-- **Each result that a check has returned is sent**, once, in the cycle of the check. -/
def Notifies (t : EventThread) : Action → Prop
  | .cycle c => (t.cycle c).emitted = t.eventList c (t.cycle c).checked (t.imagePath c)
  | .reschedule _ _ _ => True

/-- **If a check has something to report, the frame can be converted.** -/
def ConvertsEvents (t : EventThread) : Action → Prop
  | .cycle c => ∀ frame, c.item.frame = some frame → c.directory = true →
      (∃ each ∈ t.checkAll c, each.1.results ≠ []) →
      t.evtOriginCtx.CanConvert frame c.created c.sws
  | .reschedule _ _ _ => True

/-- What the cycles of a run keep: notifications can be sent, and the context is for frames in their
own size. -/
structure Ready (t : EventThread) : Prop where
  /-- The handler is there. -/
  handler : t.sioHandler = true
  /-- The context is for frames in their own size. -/
  sameSize : t.evtOriginCtx.SameSize

/-! ### One cycle -/

variable {t t' : EventThread} {c : CycleInput} {frame : AVFrame} {framePath : String}

/-- There is nothing to send exactly when no check has reported anything. -/
theorem eventList_eq_nil_iff {checked : List Checked} :
    t.eventList c checked framePath = [] ↔ ∀ each ∈ checked, each.results = [] := by
  rw [eventList, List.map_eq_nil_iff, List.filter_eq_nil_iff]
  constructor
  · intro h each heach
    obtain ⟨i, hi⟩ := List.mem_iff_getElem?.mp heach
    simpa using h (each, i) (List.mk_mem_zipIdx_iff_getElem?.mpr hi)
  · rintro h ⟨each, i⟩ heach
    have hi := List.mk_mem_zipIdx_iff_getElem?.mp heach
    simp [h each (List.mem_of_getElem? hi)]

/-- The checks of a cycle that is not given up before them. -/
theorem checked_checkAndSend :
    (t.checkAndSend c frame framePath).checked = (t.checkAll c).map Prod.fst := by
  rw [checkAndSend]
  split_ifs
  · rfl
  · dsimp only
    split <;> rfl

/-- What is sent in such a cycle: everything if the frame is converted, and nothing if not. -/
theorem emitted_checkAndSend (hready : t.Ready) :
    (t.checkAndSend c frame framePath).emitted =
      if (t.evtOriginCtx.convertOrigin frame c.created c.sws).1 = some true then
        t.eventList c ((t.checkAll c).map Prod.fst) framePath
      else [] := by
  rw [checkAndSend]
  split_ifs with hnone hconv hconv
  · exact (List.isEmpty_iff.mp hnone).symm
  · rfl
  · simp only [hconv, hready.handler, if_true]
  · dsimp only
    split
    · contradiction
    · rfl
    · rfl

/-- **A cycle sends its notifications exactly when the frame can be converted**, or there is nothing
to send. -/
theorem notifies_iff_convertsEvents (hready : t.Ready) (a : Action) :
    t.Notifies a ↔ t.ConvertsEvents a := by
  cases a with
  | reschedule scheduler frameW frameH => exact Iff.rfl
  | cycle c =>
    rw [Notifies, ConvertsEvents, cycle]
    have hskip : t.skip.emitted = t.eventList c t.skip.checked (t.imagePath c) := rfl
    cases hframe : c.item.frame with
    | none => exact iff_of_true hskip (by simp)
    | some frame =>
      cases hdirectory : c.directory with
      | false =>
        refine iff_of_true ?_ (by simp)
        dsimp only
        rw [makeImageSavePath, hdirectory]
        split_ifs
        · exact hskip
        · contradiction
        · exact hskip
      | true =>
        by_cases hempty : t.scheduler.isEmpty
        · dsimp only
          rw [if_pos hempty]
          refine iff_of_true hskip ?_
          rintro frame' - - ⟨each, heach, -⟩
          rw [checkAll, List.isEmpty_iff.mp hempty] at heach
          cases heach
        · dsimp only
          rw [if_neg hempty, makeImageSavePath, if_pos hdirectory]
          dsimp only
          rw [checked_checkAndSend, emitted_checkAndSend hready]
          split_ifs with hconv
          · refine iff_of_true rfl fun frame' hframe' _ _ => ?_
            cases hframe'
            exact (FrameFormattingContext.convertOrigin_iff hready.sameSize).mp hconv
          · rw [eq_comm, eventList_eq_nil_iff]
            constructor
            · rintro hsilent frame' - - ⟨each, heach, hreport⟩
              exact absurd (hsilent each.1 (List.mem_map_of_mem heach)) hreport
            · intro hcan each heach
              by_contra hreport
              obtain ⟨pair, hpair, rfl⟩ := List.mem_map.mp heach
              exact hconv ((FrameFormattingContext.convertOrigin_iff hready.sameSize).mpr
                (hcan frame rfl rfl ⟨pair, hpair, hreport⟩))

/-! ### Runs -/

/-- A cycle leaves the handler alone, and the context for frames in their own size. -/
theorem ready_checkAndSend (hready : t.Ready) :
    (t.checkAndSend c frame framePath).thread.Ready := by
  have hsame := FrameFormattingContext.sameSize_convertOrigin frame c.created c.sws
    hready.sameSize
  rw [checkAndSend]
  split_ifs
  · exact ⟨hready.handler, hready.sameSize⟩
  · dsimp only
    split
    · exact ⟨hready.handler, hsame⟩
    · exact ⟨hready.handler, hsame⟩
    · exact ⟨hready.handler, hsame⟩

theorem ready_step (hready : t.Ready) {a : Action} (h : t.step a = some t') : t'.Ready := by
  cases a with
  | reschedule scheduler frameW frameH =>
    cases h
    exact ⟨hready.handler, hready.sameSize⟩
  | cycle c =>
    rw [step] at h
    split_ifs at h
    cases h
    rw [cycle]
    split
    · exact hready
    · split_ifs
      · exact hready
      · split
        · exact hready
        · exact ready_checkAndSend hready

/-- The thread when it starts. -/
def start (id socketIoServerId : ℤ) (grpcClient : Bool) : EventThread where
  id := id
  socketIoServerId := socketIoServerId
  stableFrameW := 0
  stableFrameH := 0
  scheduler := []
  evtOriginCtx := .new
  ioWorkQueue := some (.new 30)
  sioHandler := true
  grpcClient := grpcClient
  running := true

/-- **Every result that starts an interval is sent**, in every cycle of a run, exactly when in every
cycle in which a check reports something the frame can be converted. -/
theorem notifies_iff (id socketIoServerId : ℤ) (grpcClient : Bool) (as : List Action) :
    Guarded step Notifies (start id socketIoServerId grpcClient) as ↔
      Guarded step ConvertsEvents (start id socketIoServerId grpcClient) as := by
  refine Guarded.congr (I := Ready) (fun t a hready => notifies_iff_convertsEvents hready a)
    (fun t a t' hready h => ready_step hready h) ?_
  exact ⟨rfl, FrameFormattingContext.sameSize_new⟩

/-! ### A frame that cannot be converted -/

/-- A cycle at a number of seconds, in which the library gives a scaling context or none. -/
def cycleAt (seconds : ℤ) (layer : DataLayer) (created : Bool) : Action :=
  let moment := (callAt seconds layer).moment
  .cycle {
    item := ⟨some ⟨100, 100, 0⟩, layer⟩
    time := ⟨moment.localTime, seconds⟩
    readings := fun _ => ⟨moment, fun _ => moment, moment⟩
    uuid := fun _ => ""
    directory := true
    created := created
    sws := ⟨100, fun _ _ => greyColor⟩ }

/-- A schedule for the intrusion of persons into a triangle, as it is when it has been built. -/
def triangleSchedule : ActiveSchedule :=
  ⟨scheduleOf (triangleInfo 2) (by decide), .init _ 0⟩

/-- A person walks into the triangle, and there is no scaling context for the frame. -/
def walkInUnscaled : List Action :=
  [.reschedule [triangleSchedule] 100 100, cycleAt 0 [objectAt 0 7 90 90] true,
    cycleAt 3 [objectAt 0 7 10 10] false]

/-- **The intrusion is not reported**, though the interval of the schedule has been started. -/
theorem not_notifies : ¬ ∀ (id socketIoServerId : ℤ) (grpcClient : Bool) (as : List Action),
    Guarded step Notifies (start id socketIoServerId grpcClient) as := by
  intro h
  obtain ⟨-, hrest⟩ := h 1 1 false walkInUnscaled
  obtain ⟨-, hrest⟩ := hrest _ rfl
  obtain ⟨hlast, -⟩ := hrest _ rfl
  exact absurd (congrArg List.length hlast) (by decide +kernel)

end EventThread

end DetectBase
