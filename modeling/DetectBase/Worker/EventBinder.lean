import DetectBase.Json.Text
import DetectBase.Setting.Reset

/-!
# Settings updated on an event

A Socket.IO event tells the service that settings have changed; the service then asks the REST
service for the new ones and stores them. `SioEventBinder::Run` is the whole of it, and there are
four layers in it:

* `DetectBase.getJsonFromRespBody` – a body that is empty or does not parse becomes an empty
  object;
* `DetectBase.ApiHandler.bcGetInternal` – a status from 200 to 700 is passed on, with the body;
* `DetectBase.filterJsonArray` – what is not an array becomes the empty array;
* the updaters, for which the empty array means that there are no settings any more.

Put together, an error of the REST service is stored as the absence of settings. It does no harm
exactly when the lookup never gets that far, or when the units concerned have nobody who listens
and nothing to lose (`DetectBase.run_unchanged_iff`).
-/

namespace DetectBase

/-! ### The lookup -/

/-- `RestClient::Response`. -/
structure Response where
  /-- `code`. -/
  code : ℤ
  /-- `body`. -/
  body : ByteArray

/-- The characters of a body from a position on. A byte that is not UTF-8 is an error wherever
the lexer meets it, and is read as a control character, which is one as well. -/
def bodyChars (body : ByteArray) : ℕ → ℕ → List Char
  | 0, _ => []
  | n + 1, i =>
    if i < body.size then
      match body.utf8DecodeChar? i with
      | some c => c :: bodyChars body n (i + c.utf8Size)
      | none => ['\x01']
    else []

/-- The value at the start of a body. -/
def parseBody (body : ByteArray) : Option Json :=
  parseStream (String.ofList (bodyChars body body.size 0))

/-- **`get_json_from_resp_body`**. -/
def getJsonFromRespBody (body : ByteArray) : Json :=
  if body.isEmpty then .object else (parseBody body).getD .object

namespace ApiHandler

/-- `IsKnownResponseCode`. -/
def isKnownResponseCode (code : ℤ) : Bool := 200 ≤ code ∧ code ≤ 700

/-- `GET_or_throw_if_timeout`, for the answers of the REST service. A timeout is an answer with a
code that is not positive. -/
def getOrThrowIfTimeout (conn : String → Response) (url : String) : ℤ × Json :=
  let resp := conn url
  if isKnownResponseCode resp.code then (resp.code, getJsonFromRespBody resp.body)
  else (resp.code, .object)

/-- **`_BC_GET_Internal`**, the function that `BuildCallback_GET` makes of a check of the request
and a builder of its address. -/
def bcGetInternal (conn : String → Response) (checker : Json → Bool) (urlBuilder : Json → String)
    (reqData : Json) : Option Json :=
  if checker reqData = false then none
  else
    let req := urlBuilder reqData
    if req.isEmpty then none
    else
      let (code, body) := getOrThrowIfTimeout conn req
      if isKnownResponseCode code = false then none else some body

end ApiHandler

/-! ### The event -/

/-- `SioEventBinder` of the only type of event there is: the functions it was given. -/
structure SioEventBinder where
  /-- The check of the request. -/
  checker : Json → Bool
  /-- The builder of the address. -/
  urlBuilder : Json → String
  /-- `update_units_extractor`. -/
  updateUnitsExtractor : Json → List UnitID

/-- What a call leaves behind: how it ended, the manager, and the callbacks that were called. -/
abbrev Outcome (α β : Type) :=
  Except Json.Exception α × SettingManagerBase β × List (Uuid × ISettingData β)

section Run

variable {β : Type} [SettingData β]

/-- The loop over the target units. An exception leaves it. -/
def updateUnits (key : String) (target : Json) :
    List UnitID → SettingManagerBase β → Outcome Unit β
  | [], m => (.ok (), m, [])
  | u :: us, m =>
    match filterJsonArray target key u with
    | .error e => (.error e, m, [])
    | .ok objs =>
      match m.updateTargetUnit u (.arr objs) with
      | (.error e, m, calls) => (.error e, m, calls)
      | (.ok _, m, calls) =>
        let rest := updateUnits key target us m
        (rest.1, rest.2.1, calls ++ rest.2.2)

/-- **`SioEventBinder::Run`**, for the answers of the REST service. -/
def SioEventBinder.run (b : SioEventBinder) (conn : String → Response)
    (m : SettingManagerBase β) (js : Json) : Outcome Bool β :=
  match ApiHandler.bcGetInternal conn b.checker b.urlBuilder js with
  | none => (.ok false, m, [])
  | some target =>
    let out := updateUnits m.unitKeyName target (b.updateUnitsExtractor js) m
    (out.1.map fun _ => true, out.2)

end Run

/-! ### What an update of one unit does -/

/-- A type of setting that an array replaces, or throws at. -/
class ReplacedByArray (β : Type) [SettingData β] where
  /-- The fields that an array stands for. -/
  read : List Json → Except Json.Exception β
  /-- The updater stores them, and nothing if they cannot be read. -/
  updateFromJson_arr : ∀ (d : ISettingData β) (objs : List Json),
    d.updateFromJson (.arr objs) =
      match read objs with
      | .ok fields => (.ok true, ⟨false, fields⟩)
      | .error e => (.error e, d)

instance : ReplacedByArray ExcludeCam where
  read objs := .ok ⟨!(ISettingData.payload .firstOnly (.arr objs)).isEmpty⟩
  updateFromJson_arr d objs := updateFromJson_excludeCam d (.arr objs)

instance : ReplacedByArray Schedules where
  read objs := (objs.mapM readSchedule).map fun schedules => ⟨schedules.filterMap id⟩
  updateFromJson_arr d objs := by
    rw [updateFromJson_schedule]
    change (match objs.mapM readSchedule with
      | .ok schedules => _
      | .error e => _) = _
    cases objs.mapM readSchedule with
    | ok schedules => rfl
    | error e => rfl

open SettingManagerBase ReplacedByArray

section Units

variable {β : Type} [SettingData β] [ReplacedByArray β] {m : SettingManagerBase β} {u : UnitID}
  {objs : List Json}

omit [ReplacedByArray β] in
/-- An update is one of the setter of the unit, which is there by then. -/
theorem exists_updateTargetUnit (hwf : m.WF) (hu : u ≠ missingUnitId) (j : Json) :
    ∃ p m₁, SameUnits m m₁ ∧ m₁.settings.lookup u = some p ∧ m₁.WF ∧
      m.updateTargetUnit u j = (((m₁.heap p).update j).1,
        m₁.modifySetter p fun _ => ((m₁.heap p).update j).2.1, ((m₁.heap p).update j).2.2) := by
  refine ⟨_, _, sameUnits_findOrCreate hwf u, lookup_findOrCreate m u, hwf.findOrCreate u, ?_⟩
  rw [updateTargetUnit, if_neg hu]

/-- **An update with entries that can be read** stores them, and calls the callbacks of the
unit with them. -/
theorem updateTargetUnit_ok (hwf : m.WF) (hu : u ≠ missingUnitId) {fields : β}
    (hread : read objs = .ok fields) :
    ∃ m', m.updateTargetUnit u (.arr objs) =
        (.ok true, m', (m.callbacksOf u).map fun c => (c, ⟨false, fields⟩)) ∧ m'.WF ∧
      m'.getSetting u = some ⟨false, fields⟩ ∧ (∀ v, m'.callbacksOf v = m.callbacksOf v) ∧
      ∀ v, v ≠ u → m'.getSetting v = m.getSetting v := by
  obtain ⟨p, m₁, hsame, hlook, hwf₁, hout⟩ := exists_updateTargetUnit hwf hu (.arr objs)
  have hup : (m₁.heap p).updateInternal (.arr objs) =
      (.ok true, { m₁.heap p with settingData := ⟨false, fields⟩, isInitialized := true }) := by
    rw [SetterBase.updateInternal, updateFromJson_arr, hread]
  have hcalls : (m₁.heap p).callbacks = m.callbacksOf u := by
    rw [← (hsame u).2, callbacksOf, hlook]
    rfl
  simp only [SetterBase.update, hup, SetterBase.invocations, hcalls] at hout
  refine ⟨_, hout, hwf₁.modifySetter _ _, ?_, fun v => ?_, fun v hv => ?_⟩
  · simp [getSetting, hlook, SetterBase.getSetting]
  · rcases eq_or_ne v u with rfl | hne
    · simp [callbacksOf, hlook]
    · rw [← (hsame v).2]
      exact (units_modifySetter hwf₁ hlook hne _).2
  · rw [← (hsame v).1]
    exact (units_modifySetter hwf₁ hlook hv _).1

/-- **An update with entries that throw** changes nothing and calls nobody. -/
theorem updateTargetUnit_error (hwf : m.WF) (hu : u ≠ missingUnitId) {e : Json.Exception}
    (hread : (read objs : Except _ β) = .error e) :
    ∃ m', m.updateTargetUnit u (.arr objs) = (.error e, m', []) ∧ SameUnits m m' := by
  obtain ⟨p, m₁, hsame, hlook, hwf₁, hout⟩ := exists_updateTargetUnit hwf hu (.arr objs)
  have hup : (m₁.heap p).updateInternal (.arr objs) = (.error e, m₁.heap p) := by
    rw [SetterBase.updateInternal, updateFromJson_arr, hread]
  simp only [SetterBase.update, hup] at hout
  refine ⟨_, hout, fun v => ?_⟩
  rcases eq_or_ne v u with rfl | hne
  · rw [← (hsame v).1, ← (hsame v).2]
    simp [getSetting, callbacksOf, hlook]
  · rw [← (hsame v).1, ← (hsame v).2]
    exact units_modifySetter hwf₁ hlook hne _

/-- The three ways an update with an array can go. -/
theorem updateTargetUnit_arr_cases (hwf : m.WF) (u : UnitID) (objs : List Json) :
    (u = missingUnitId ∧ m.updateTargetUnit u (.arr objs) = (.ok false, m, [])) ∨
    (u ≠ missingUnitId ∧ ∃ e m', (read objs : Except _ β) = .error e ∧
      m.updateTargetUnit u (.arr objs) = (.error e, m', []) ∧ SameUnits m m') ∨
    (u ≠ missingUnitId ∧ ∃ fields m', read objs = .ok fields ∧
      m.updateTargetUnit u (.arr objs) =
        (.ok true, m', (m.callbacksOf u).map fun c => (c, ⟨false, fields⟩)) ∧ m'.WF ∧
      m'.getSetting u = some ⟨false, fields⟩ ∧ (∀ v, m'.callbacksOf v = m.callbacksOf v) ∧
      ∀ v, v ≠ u → m'.getSetting v = m.getSetting v) := by
  by_cases hu : u = missingUnitId
  · exact Or.inl ⟨hu, by rw [updateTargetUnit, if_pos hu]⟩
  · refine Or.inr ?_
    cases hread : (read objs : Except _ β) with
    | error e =>
      obtain ⟨m', hout, hsame⟩ := updateTargetUnit_error hwf hu hread
      exact Or.inl ⟨hu, e, m', rfl, hout, hsame⟩
    | ok fields =>
      obtain ⟨m', hout, hrest⟩ := updateTargetUnit_ok hwf hu hread
      exact Or.inr ⟨hu, fields, m', rfl, hout, hrest⟩

/-! ### The loop over the units -/

variable {key : String} {target : Json}

/-- **The target units have nothing to lose**: as far as the loop gets, each of them has no
callback and already stores what it would be given. -/
def Settled (key : String) (target : Json) (m : SettingManagerBase β) : List UnitID → Prop
  | [] => True
  | u :: us =>
    match filterJsonArray target key u with
    | .error _ => True
    | .ok objs =>
      if u = missingUnitId then Settled key target m us
      else
        match read objs with
        | .error _ => True
        | .ok (fields : β) =>
          m.callbacksOf u = [] ∧ m.getSetting u = some ⟨false, fields⟩ ∧
            Settled key target m us

/-- The settings of all units are as they were, and no callback was called. -/
def Unchanged {α : Type} (m : SettingManagerBase β) (out : Outcome α β) : Prop :=
  (∀ v, out.2.1.getSetting v = m.getSetting v) ∧ out.2.2 = []

theorem settled_congr {m' : SettingManagerBase β} (hsame : SameUnits m m') {us : List UnitID} :
    Settled key target m' us ↔ Settled key target m us := by
  induction us with
  | nil => exact Iff.rfl
  | cons u us ih => simp only [Settled, (hsame u).1, (hsame u).2, ih]

/-- A unit that stores what its entries stand for stores it to the end. -/
theorem getSetting_updateUnits {fields : β} (hfilter : filterJsonArray target key u = .ok objs)
    (hread : read objs = .ok fields) {us : List UnitID} :
    ∀ {m : SettingManagerBase β}, m.WF → m.getSetting u = some ⟨false, fields⟩ →
      (updateUnits key target us m).2.1.getSetting u = some ⟨false, fields⟩ := by
  induction us with
  | nil => intro m _ h; exact h
  | cons v us ih =>
    intro m hwf h
    rw [updateUnits]
    cases hfilter' : filterJsonArray target key v with
    | error e => exact h
    | ok objs' =>
      dsimp only
      rcases updateTargetUnit_arr_cases hwf v objs' with
        ⟨-, hout⟩ | ⟨-, e, m', -, hout, hsame⟩ | ⟨-, fields', m', hread', hout, hwf', hnew, -, hold⟩
      · rw [hout]
        exact ih hwf h
      · rw [hout]
        exact (hsame u).1.trans h
      · rw [hout]
        refine ih hwf' ?_
        rcases eq_or_ne u v with rfl | hne
        · -- the unit occurs again, with the same entries
          cases hfilter.symm.trans hfilter'
          cases hread.symm.trans hread'
          exact hnew
        · exact (hold u hne).trans h

/-- **The loop changes nothing exactly when the units have nothing to lose.** -/
theorem updateUnits_unchanged_iff {us : List UnitID} : ∀ {m : SettingManagerBase β}, m.WF →
    (Unchanged m (updateUnits key target us m) ↔ Settled key target m us) := by
  induction us with
  | nil => intro m _; exact ⟨fun _ => trivial, fun _ => ⟨fun v => rfl, rfl⟩⟩
  | cons u us ih =>
    intro m hwf
    rw [updateUnits, Settled]
    cases hfilter : filterJsonArray target key u with
    | error e => exact ⟨fun _ => trivial, fun _ => ⟨fun v => rfl, rfl⟩⟩
    | ok objs =>
      dsimp only
      rcases updateTargetUnit_arr_cases hwf u objs with
        ⟨hu, hout⟩ | ⟨hu, e, m', hread, hout, hsame⟩ |
          ⟨hu, fields, m', hread, hout, hwf', hnew, hcalls, hold⟩
      · rw [hout, if_pos hu]
        exact ih hwf
      · rw [hout, if_neg hu, hread]
        exact ⟨fun _ => trivial, fun _ => ⟨fun v => (hsame v).1, rfl⟩⟩
      · rw [hout, if_neg hu, hread]
        dsimp only
        -- what was stored stays, so that the unit must have stored it before
        have hlast : (updateUnits key target us m').2.1.getSetting u = some ⟨false, fields⟩ :=
          getSetting_updateUnits hfilter hread hwf' hnew
        have hsame : m.getSetting u = some ⟨false, fields⟩ → SameUnits m m' := by
          intro hbefore v
          refine ⟨?_, hcalls v⟩
          rcases eq_or_ne v u with rfl | hne
          · rw [hnew, hbefore]
          · exact hold v hne
        constructor
        · rintro ⟨hget, hnone⟩
          obtain ⟨hnone, hrest⟩ := List.append_eq_nil_iff.mp hnone
          have hbefore : m.getSetting u = some ⟨false, fields⟩ := (hget u).symm.trans hlast
          refine ⟨List.map_eq_nil_iff.mp hnone, hbefore, ?_⟩
          rw [← settled_congr (hsame hbefore), ← ih hwf']
          exact ⟨fun v => (hget v).trans (hsame hbefore v).1.symm, hrest⟩
        · rintro ⟨hnone, hbefore, hrest⟩
          rw [← settled_congr (hsame hbefore), ← ih hwf'] at hrest
          refine ⟨fun v => (hrest.1 v).trans (hsame hbefore v).1, ?_⟩
          dsimp only
          rw [hnone, List.map_nil, List.nil_append]
          exact hrest.2

end Units

/-! ### Failed lookups -/

/-- The answer is a success, and its body is an array. -/
def Response.IsGood (resp : Response) : Prop :=
  resp.code = 200 ∧ ∃ objs, parseBody resp.body = some (.arr objs)

/-- **The answer is passed on** to the settings: the request is accepted, and the status is a
known one. -/
def SioEventBinder.PassesOn (b : SioEventBinder) (conn : String → Response) (js : Json) : Prop :=
  b.checker js = true ∧ (b.urlBuilder js).isEmpty = false ∧
    ApiHandler.isKnownResponseCode (conn (b.urlBuilder js)).code = true

section FailedLookup

variable {β : Type} [SettingData β]

theorem bcGetInternal_of_not_passesOn {b : SioEventBinder} {conn : String → Response} {js : Json}
    (h : ¬ b.PassesOn conn js) :
    ApiHandler.bcGetInternal conn b.checker b.urlBuilder js = none := by
  rw [ApiHandler.bcGetInternal]
  by_cases hcheck : b.checker js = false
  · rw [if_pos hcheck]
  by_cases hurl : (b.urlBuilder js).isEmpty = true
  · rw [if_neg hcheck, if_pos hurl]
  have hcode : ApiHandler.isKnownResponseCode (conn (b.urlBuilder js)).code = false := by
    by_contra hcode
    exact h ⟨by simpa using hcheck, by simpa using hurl, by simpa using hcode⟩
  simp [hcheck, hurl, ApiHandler.getOrThrowIfTimeout, hcode]

theorem bcGetInternal_of_passesOn {b : SioEventBinder} {conn : String → Response} {js : Json}
    (h : b.PassesOn conn js) :
    ApiHandler.bcGetInternal conn b.checker b.urlBuilder js =
      some (getJsonFromRespBody (conn (b.urlBuilder js)).body) := by
  obtain ⟨hcheck, hurl, hcode⟩ := h
  simp [ApiHandler.bcGetInternal, hcheck, hurl, ApiHandler.getOrThrowIfTimeout, hcode]

theorem run_of_not_passesOn {b : SioEventBinder} {conn : String → Response} {js : Json}
    (h : ¬ b.PassesOn conn js) (m : SettingManagerBase β) :
    b.run conn m js = (.ok false, m, []) := by
  rw [SioEventBinder.run, bcGetInternal_of_not_passesOn h]

theorem run_of_passesOn {b : SioEventBinder} {conn : String → Response} {js : Json}
    (h : b.PassesOn conn js) (m : SettingManagerBase β) :
    (b.run conn m js).2 =
      (updateUnits m.unitKeyName (getJsonFromRespBody (conn (b.urlBuilder js)).body)
        (b.updateUnitsExtractor js) m).2 := by
  rw [SioEventBinder.run, bcGetInternal_of_passesOn h]

/-- **An event changes nothing exactly when its answer is not passed on or the units have nothing
to lose.** -/
theorem run_unchanged_iff [ReplacedByArray β] (b : SioEventBinder) (conn : String → Response)
    (m : ManagerState β) (js : Json) :
    Unchanged m.1 (b.run conn m.1 js) ↔
      (b.PassesOn conn js → Settled m.1.unitKeyName
        (getJsonFromRespBody (conn (b.urlBuilder js)).body) m.1 (b.updateUnitsExtractor js)) := by
  by_cases h : b.PassesOn conn js
  · rw [← updateUnits_unchanged_iff m.2, Unchanged, run_of_passesOn h]
    exact ⟨fun hun _ => hun, fun hun => hun h⟩
  · rw [run_of_not_passesOn h]
    exact ⟨fun _ hpass => absurd hpass h, fun _ => ⟨fun v => rfl, rfl⟩⟩

end FailedLookup

/-- The stores that events update. -/
structure SettingStores where
  /-- `exclude_settings`. -/
  exclude : ManagerState ExcludeCam
  /-- `schedule_settings`. -/
  schedule : ManagerState Schedules

/-- The events of `SocketIOEventBind`. -/
inductive SioEvent where
  /-- `ExceptionUpdate`. -/
  | exceptionUpdate : SioEvent
  /-- `ScheduleUpdate`. -/
  | scheduleUpdate : SioEvent

namespace SettingStores

/-- What an event leaves behind. -/
structure AfterEvent where
  exclude : SettingManagerBase ExcludeCam
  schedule : SettingManagerBase Schedules
  excludeCalls : List (Uuid × ExcludeCamSettingData)
  scheduleCalls : List (Uuid × ScheduleSettingData)

/-- An event and the answer to its lookup, handled by the binder of the event. -/
def handle (s : SettingStores) (b : SioEventBinder) (conn : String → Response) (js : Json) :
    SioEvent → AfterEvent
  | .exceptionUpdate =>
    let out := b.run conn s.exclude.1 js
    ⟨out.2.1, s.schedule.1, out.2.2, []⟩
  | .scheduleUpdate =>
    let out := b.run conn s.schedule.1 js
    ⟨s.exclude.1, out.2.1, [], out.2.2⟩

/-- All settings are as they were, and no callback was called. -/
def KeptBy (s : SettingStores) (after : AfterEvent) : Prop :=
  ((∀ v, after.exclude.getSetting v = s.exclude.1.getSetting v) ∧ after.excludeCalls = []) ∧
    ((∀ v, after.schedule.getSetting v = s.schedule.1.getSetting v) ∧ after.scheduleCalls = [])

/-- The target units of the event have nothing to lose by the body. -/
def NothingToLose (s : SettingStores) (body : ByteArray) (us : List UnitID) : SioEvent → Prop
  | .exceptionUpdate =>
    Settled s.exclude.1.unitKeyName (getJsonFromRespBody body) s.exclude.1 us
  | .scheduleUpdate =>
    Settled s.schedule.1.unitKeyName (getJsonFromRespBody body) s.schedule.1 us

theorem keptBy_handle_iff (s : SettingStores) (b : SioEventBinder) (conn : String → Response)
    (js : Json) (event : SioEvent) :
    s.KeptBy (s.handle b conn js event) ↔
      (b.PassesOn conn js →
        s.NothingToLose (conn (b.urlBuilder js)).body (b.updateUnitsExtractor js) event) := by
  cases event with
  | exceptionUpdate =>
    rw [NothingToLose, ← run_unchanged_iff b conn s.exclude js]
    exact ⟨fun h => h.1, fun h => ⟨h, fun v => rfl, rfl⟩⟩
  | scheduleUpdate =>
    rw [NothingToLose, ← run_unchanged_iff b conn s.schedule js]
    exact ⟨fun h => h.2, fun h => ⟨⟨fun v => rfl, rfl⟩, h⟩⟩

end SettingStores

open SettingStores in
/-- **When a failed lookup changes no setting.** For every event, request and answer: a bad answer
leaves all settings alone and calls nobody if and only if the answer is good after all, it is not
passed on, or the target units have nothing to lose by it. -/
theorem failed_lookup_kept_iff (s : SettingStores) (b : SioEventBinder) (conn : String → Response)
    (js : Json) (event : SioEvent) :
    (¬ (conn (b.urlBuilder js)).IsGood → s.KeptBy (s.handle b conn js event)) ↔
      (conn (b.urlBuilder js)).IsGood ∨ ¬ b.PassesOn conn js ∨
        s.NothingToLose (conn (b.urlBuilder js)).body (b.updateUnitsExtractor js) event := by
  rw [keptBy_handle_iff]
  tauto

/-- A camera with one schedule, as the REST service describes it. -/
def oneSchedule : Json :=
  .obj [("CameraId", .int 1), ("Data", .obj [("Rule", .obj [("EventCode", .int 202),
    ("LevelCode", .int 1), ("TimeRange", .obj [])])]), ("Id", .int 7)]

/-- The stores with the schedule of camera 1. -/
def scheduledCamera : SettingStores where
  exclude := ⟨SettingManagerBase.new "CameraId" true, WF.new "CameraId" true⟩
  schedule := ⟨((SettingManagerBase.new "CameraId" true).updateTargetUnit 1
    (.arr [oneSchedule])).2.1, (WF.new "CameraId" true).updateTargetUnit 1 _⟩

/-- What the binder of `ScheduleUpdate` makes of a request for camera 1. -/
def cameraOneBinder : SioEventBinder :=
  ⟨fun _ => true, fun _ => "/schedule?camera_id=1", fun _ => [1]⟩

/-- **An answer "not found" with an empty body deletes the schedules of the camera.** -/
theorem not_failed_lookup_kept :
    ¬ ∀ (s : SettingStores) (b : SioEventBinder) (conn : String → Response) (js : Json)
        (event : SioEvent), ¬ (conn (b.urlBuilder js)).IsGood →
          s.KeptBy (s.handle b conn js event) := by
  intro h
  have hkept := h scheduledCamera cameraOneBinder (fun _ => ⟨404, ⟨#[]⟩⟩)
    (.obj [("Argument", .arr [.obj [("camera_id", .arr [.int 1])]]),
      ("TableName", .str "schedule")])
    .scheduleUpdate (fun hgood => absurd hgood.1 (by decide))
  have hcount := congrArg (Option.map fun d => d.fields.schedules.length) (hkept.2.1 1)
  revert hcount
  decide

end DetectBase
