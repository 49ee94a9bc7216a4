import DetectBase.Foundations.Assignments
import DetectBase.Setting.Camera
import DetectBase.Setting.Setter

/-!
# Rejected updates

An update that does not succeed is to leave no trace. `UpdateInternal` puts the old setting back
when the updater returns `false`; it does not when the updater throws, and the updaters of the
server setting and of the camera setting throw after they have assigned some of the fields.

Those two updaters are lists of assignments (`DetectBase.serverAssignments`,
`DetectBase.cameraAssignments`), and what a throw leaves behind is a question about such lists. An
exclusion is never rejected, and schedules are assigned all at once, so the other two types keep
their settings (`DetectBase.rejectionKeeps_iff`).
-/

namespace DetectBase

/-! ### What a rejected update may change -/

section Keeps

variable {β : Type} [SettingData β]

/-- **A rejected update changes nothing**: if `Update` does not return `true`, the data with their
emptiness flag, `is_initialized_` and what `GetSetting` returns are as before, and no callback has
been called. -/
def RejectionKeeps (s : SetterBase β) (j : Json) : Prop :=
  (s.update j).1 ≠ .ok true →
    (s.update j).2.1.settingData = s.settingData ∧
      (s.update j).2.1.isInitialized = s.isInitialized ∧
      (s.update j).2.1.getSetting = s.getSetting ∧ (s.update j).2.2 = []

/-- For a type whose updater leaves the object alone when it refuses, a throw is what matters. -/
theorem rejectionKeeps_iff_of_refused {s : SetterBase β} {j : Json}
    (hrefused : (s.settingData.updateFromJson j).1 = .ok false →
      (s.settingData.updateFromJson j).2 = s.settingData) :
    RejectionKeeps s j ↔ ((s.settingData.updateFromJson j).1 ≠ .ok true →
      (s.settingData.updateFromJson j).2 = s.settingData) := by
  rw [RejectionKeeps, SetterBase.update, SetterBase.updateInternal]
  revert hrefused
  obtain ⟨r, d⟩ := s.settingData.updateFromJson j
  intro hrefused
  cases r with
  | ok accepted =>
    cases accepted with
    | true => simp
    | false =>
      obtain rfl : d = s.settingData := hrefused rfl
      simp [SetterBase.getSetting]
  | error e =>
    constructor
    · intro h _
      exact (h (by simp)).1
    · intro h _
      obtain rfl : d = s.settingData := h (by simp)
      exact ⟨rfl, rfl, rfl, rfl⟩

omit [SettingData β]

/-- Two parts of an updater in a row. -/
theorem run_bind_updaterM {α α' : Type} (x : UpdaterM β α) (f : α → UpdaterM β α') (b : β) :
    (x >>= f).run b =
      match x.run b with
      | (.ok a, b') => (f a).run b'
      | (.error e, b') => (.error e, b') := by
  show ExceptT.bindCont f (x.run b).1 (x.run b).2 = _
  obtain ⟨r, b'⟩ := x.run b
  cases r with
  | ok a => rfl
  | error e => rfl

/-- An assignment, as the updaters make it. -/
def assignField (a : Assignment Json.Exception β) : UpdaterM β Unit := do
  let v ← readField a.read
  modify (a.field.set v)

theorem run_forM_assignField (as : List (Assignment Json.Exception β)) :
    ∀ b : β, (forM as assignField).run b = runAssignments as b := by
  induction as with
  | nil => exact fun _ => rfl
  | cons a as ih =>
    intro b
    rw [List.forM_cons, run_bind_updaterM, runAssignments, assignField, run_bind_updaterM]
    cases hread : a.read with
    | ok v => exact ih (a.field.set v b)
    | error e => rfl

variable [SettingData β]

/-- **An updater that is a list of assignments** keeps the setting exactly when the fields before
the first misfit have the values that are assigned to them. -/
theorem rejectionKeeps_iff_of_assignments {s : SetterBase β} {j : Json}
    {as : List (Assignment Json.Exception β)} (hapart : as.dropLast.Pairwise Assignment.Apart)
    (hupdater : SettingData.updater (ISettingData.payload (SettingData.mode β) j) =
      forM as assignField >>= fun _ => return true) :
    RejectionKeeps s j ↔
      ∀ pre, FirstMisfit as pre → ∀ a ∈ pre, a.Holds s.settingData.fields := by
  have hrun : s.settingData.updateFromJson j =
      match runAssignments as s.settingData.fields with
      | (.ok _, fields) => (.ok true, ⟨false, fields⟩)
      | (.error e, fields) => (.error e, ⟨s.settingData.isEmpty, fields⟩) := by
    rw [ISettingData.updateFromJson, hupdater, run_bind_updaterM, run_forM_assignField]
    obtain ⟨r, fields⟩ := runAssignments as s.settingData.fields
    cases r with
    | ok _ => rfl
    | error e => rfl
  rw [← runAssignments_snd_eq_iff hapart, rejectionKeeps_iff_of_refused, hrun]
  · obtain ⟨r, fields⟩ := runAssignments as s.settingData.fields
    cases r with
    | ok _ => simp
    | error e =>
      obtain ⟨isInit, lock, ⟨isEmpty, fields'⟩, callbacks⟩ := s
      simp
  · rw [hrun]
    obtain ⟨r, fields⟩ := runAssignments as s.settingData.fields
    cases r with
    | ok _ => simp
    | error e => simp

end Keeps

/-! ### The server setting -/

namespace ServerFields

/-- `service_server_id`. -/
def serviceServerIdField : RecordField ServerFields ℤ :=
  ⟨(·.serviceServerId), fun v f => { f with serviceServerId := v }, fun _ _ => rfl, fun _ => rfl⟩

/-- `inference_per_cams_fps_limit`. -/
def inferencePerCamsFpsLimitField : RecordField ServerFields ℤ :=
  ⟨(·.inferencePerCamsFpsLimit), fun v f => { f with inferencePerCamsFpsLimit := v },
    fun _ _ => rfl, fun _ => rfl⟩

/-- `tracking_memory_object_limit`. -/
def trackingMemoryObjectLimitField : RecordField ServerFields ℤ :=
  ⟨(·.trackingMemoryObjectLimit), fun v f => { f with trackingMemoryObjectLimit := v },
    fun _ _ => rfl, fun _ => rfl⟩

/-- `rtsp_proxies_sync_delay_ms`. -/
def rtspProxiesSyncDelayMsField : RecordField ServerFields ℤ :=
  ⟨(·.rtspProxiesSyncDelayMs), fun v f => { f with rtspProxiesSyncDelayMs := v },
    fun _ _ => rfl, fun _ => rfl⟩

/-- `rtsp_proxy_publish_port`. -/
def rtspProxyPublishPortField : RecordField ServerFields ℤ :=
  ⟨(·.rtspProxyPublishPort), fun v f => { f with rtspProxyPublishPort := v },
    fun _ _ => rfl, fun _ => rfl⟩

/-- `full_image_save_root_path`. -/
def fullImageSaveRootPathField : RecordField ServerFields String :=
  ⟨(·.fullImageSaveRootPath), fun v f => { f with fullImageSaveRootPath := v },
    fun _ _ => rfl, fun _ => rfl⟩

/-- `crop_image_save_root_path`. -/
def cropImageSaveRootPathField : RecordField ServerFields String :=
  ⟨(·.cropImageSaveRootPath), fun v f => { f with cropImageSaveRootPath := v },
    fun _ _ => rfl, fun _ => rfl⟩

end ServerFields

open ServerFields in
/-- **The assignments of the updater of the server setting**, in turn; none for what it refuses. -/
def serverAssignments (j : Json) : List (Assignment Json.Exception ServerFields) :=
  match j.member? "Id", j.member? "Setting" with
  | some _, some setting =>
    let js := setting.orObject
    [⟨_, serviceServerIdField, j.value Json.getInt "Id" 0⟩,
      ⟨_, inferencePerCamsFpsLimitField, js.value Json.getInt "InferencePerCamsFpsLimit" 30⟩,
      ⟨_, trackingMemoryObjectLimitField, js.value Json.getInt "TrackingMemoryObjectLimit" 200⟩,
      ⟨_, rtspProxiesSyncDelayMsField, js.value Json.getInt "RtspProxiesSyncDelayMs" 100⟩,
      ⟨_, rtspProxyPublishPortField, js.value Json.getInt "RtspPort" 555⟩,
      ⟨_, fullImageSaveRootPathField, js.value Json.getString "FullImageSaveRootPath" "/frame"⟩,
      ⟨_, cropImageSaveRootPathField, js.value Json.getString "CropImageSaveRootPath" "/crop"⟩] ++
    if !js.contains "InferencePerCamsFpsLimit" && js.contains "DetectFps" then
      [⟨_, inferencePerCamsFpsLimitField, js.value Json.getInt "DetectFps" 30⟩]
    else []
  | _, _ => []

/-- Only the last assignment may be to a field that has been assigned before. -/
theorem pairwise_apart_serverAssignments (j : Json) :
    (serverAssignments j).dropLast.Pairwise Assignment.Apart := by
  rw [serverAssignments]
  split
  · dsimp only
    split_ifs
    all_goals simp [Assignment.Apart, ServerFields.serviceServerIdField,
      ServerFields.inferencePerCamsFpsLimitField, ServerFields.trackingMemoryObjectLimitField,
      ServerFields.rtspProxiesSyncDelayMsField, ServerFields.rtspProxyPublishPortField,
      ServerFields.fullImageSaveRootPathField, ServerFields.cropImageSaveRootPathField]
  · exact List.Pairwise.nil

/-- The updater of the server setting is its list of assignments. -/
theorem updateServer_of_members {j id setting : Json} (hid : j.member? "Id" = some id)
    (hsetting : j.member? "Setting" = some setting) :
    updateServer j = forM (serverAssignments j) assignField >>= fun _ => return true := by
  simp only [updateServer, serverAssignments, hid, hsetting, Json.orObject]
  split_ifs
  all_goals
    simp only [List.cons_append, List.nil_append, List.forM_cons, List.forM_nil, assignField,
      bind_assoc, pure_bind, ServerFields.serviceServerIdField,
      ServerFields.inferencePerCamsFpsLimitField, ServerFields.trackingMemoryObjectLimitField,
      ServerFields.rtspProxiesSyncDelayMsField, ServerFields.rtspProxyPublishPortField,
      ServerFields.fullImageSaveRootPathField, ServerFields.cropImageSaveRootPathField]

/-! ### The setting of a camera -/

namespace CameraFields

/-- `camera_id`. -/
def cameraIdField : RecordField CameraFields ℤ :=
  ⟨(·.cameraId), fun v f => { f with cameraId := v }, fun _ _ => rfl, fun _ => rfl⟩

/-- `url`. -/
def urlField : RecordField CameraFields String :=
  ⟨(·.url), fun v f => { f with url := v }, fun _ _ => rfl, fun _ => rfl⟩

/-- `access_ip`. -/
def accessIpField : RecordField CameraFields String :=
  ⟨(·.accessIp), fun v f => { f with accessIp := v }, fun _ _ => rfl, fun _ => rfl⟩

/-- `access_id`. -/
def accessIdField : RecordField CameraFields String :=
  ⟨(·.accessId), fun v f => { f with accessId := v }, fun _ _ => rfl, fun _ => rfl⟩

/-- `access_pw`. -/
def accessPwField : RecordField CameraFields String :=
  ⟨(·.accessPw), fun v f => { f with accessPw := v }, fun _ _ => rfl, fun _ => rfl⟩

/-- `extend_data`. -/
def extendDataField : RecordField CameraFields Json :=
  ⟨(·.extendData), fun v f => { f with extendData := v }, fun _ _ => rfl, fun _ => rfl⟩

end CameraFields

/-- The extended data before the setting is looked at: the survey data unless they are empty, else
`ExtendData`. -/
def surveyedData (j : Json) : Json :=
  let extendData := (j.member? (getStringRegardlessOfCase j "ExtendData")).getD Json.object
  match j.member? (getStringRegardlessOfCase j "SurveyData") with
  | some survey => if !survey.orObject.isEmpty then survey.orObject else extendData
  | none => extendData

open CameraFields in
/-- **The assignments of the updater of the camera setting**, in turn; none for what it refuses. The
two assignments to the extended data that cannot throw are one. -/
def cameraAssignments (j : Json) : List (Assignment Json.Exception CameraFields) :=
  if j.isObject = false then []
  else
    let key := getStringRegardlessOfCase j
    [⟨_, cameraIdField, j.value Json.getInt (key "CameraId") 0⟩,
      ⟨_, urlField, j.value Json.getString (key "Url") "None"⟩,
      ⟨_, accessIpField, j.value Json.getString (key "AccessIp") "None"⟩,
      ⟨_, accessIdField, j.value Json.getString (key "AccessId") "None"⟩,
      ⟨_, accessPwField, j.value Json.getString (key "AccessPassword") "None"⟩,
      ⟨_, extendDataField, .ok (surveyedData j)⟩] ++
    match j.member? (key "setting"), j.member? (key "roi") with
    | some setting, some roi =>
      if !roi.orObject.isEmpty then
        [⟨_, extendDataField, setting.orObject.setMember (key "roi") roi.orObject⟩]
      else []
    | some setting, none =>
      if !setting.orObject.isEmpty then [⟨_, extendDataField, .ok setting.orObject⟩] else []
    | none, _ => []

/-- Only the last assignment may be to a field that has been assigned before. -/
theorem pairwise_apart_cameraAssignments (j : Json) :
    (cameraAssignments j).dropLast.Pairwise Assignment.Apart := by
  rw [cameraAssignments]
  dsimp only
  split_ifs with hobject
  · exact List.Pairwise.nil
  · split
    · split_ifs
      all_goals simp [Assignment.Apart, CameraFields.cameraIdField, CameraFields.urlField,
        CameraFields.accessIpField, CameraFields.accessIdField, CameraFields.accessPwField,
        CameraFields.extendDataField]
    · split_ifs
      all_goals simp [Assignment.Apart, CameraFields.cameraIdField, CameraFields.urlField,
        CameraFields.accessIpField, CameraFields.accessIdField, CameraFields.accessPwField,
        CameraFields.extendDataField]
    · simp [Assignment.Apart, CameraFields.cameraIdField, CameraFields.urlField,
        CameraFields.accessIpField, CameraFields.accessIdField, CameraFields.accessPwField]

/-- The second of two assignments to the extended data has the last word. -/
theorem modify_extendData_bind {α : Type} (v w : Json) (k : Unit → UpdaterM CameraFields α) :
    ((modify ({ · with extendData := v }) : UpdaterM CameraFields Unit) >>= fun _ =>
      (modify ({ · with extendData := w }) : UpdaterM CameraFields Unit) >>= k) =
      (modify ({ · with extendData := w }) >>= k) := rfl

/-- The updater of the camera setting is its list of assignments. -/
theorem updateCamera_of_isObject {j : Json} (hobject : j.isObject = true) :
    updateCamera j = forM (cameraAssignments j) assignField >>= fun _ => return true := by
  obtain ⟨kvs, rfl⟩ : ∃ kvs, j = .obj kvs := by
    cases j with
    | obj kvs => exact ⟨kvs, rfl⟩
    | null | bool | int | float | str | arr => cases hobject
  have hextend : ∀ key : String, (Json.obj kvs).value .ok key Json.object =
      (.ok (((Json.obj kvs).member? key).getD Json.object) : Except Json.Exception Json) := by
    intro key
    rw [Json.value, Json.member?]
    cases kvs.lookup key with
    | none => rfl
    | some v => rfl
  have hpure : ∀ v : Json, (readField (.ok v) : UpdaterM CameraFields Json) = pure v :=
    fun v => rfl
  simp only [updateCamera, cameraAssignments, hobject, hextend, hpure, surveyedData, assignField,
    Bool.true_eq_false, if_false, List.cons_append, List.nil_append, List.forM_cons, bind_assoc,
    pure_bind]
  generalize (Json.obj kvs).member? (getStringRegardlessOfCase (Json.obj kvs) "SurveyData") = survey
  generalize (Json.obj kvs).member? (getStringRegardlessOfCase (Json.obj kvs) "setting") = setting
  generalize (Json.obj kvs).member? (getStringRegardlessOfCase (Json.obj kvs) "roi") = roi
  rcases survey with _ | survey <;> rcases setting with _ | setting <;> rcases roi with _ | roi <;>
    dsimp only <;> try split_ifs
  all_goals
    simp only [CameraFields.cameraIdField, CameraFields.urlField, CameraFields.accessIpField,
      CameraFields.accessIdField, CameraFields.accessPwField, CameraFields.extendDataField,
      modify_extendData_bind, List.forM_cons, List.forM_nil, assignField, hpure, bind_assoc,
      pure_bind]

/-! ### The four types -/

/-- **What a rejected update of the server setting needs to leave no trace**: the fields that are
assigned before the first value of a wrong kind have the values that are assigned to them. -/
def ServerHarmless (f : ServerFields) (j : Json) : Prop :=
  ∀ pre, FirstMisfit (serverAssignments (ISettingData.payload .firstOnly j)) pre →
    ∀ a ∈ pre, a.Holds f

/-- **What a rejected update of the camera setting needs to leave no trace**: the same for its
fields. -/
def CameraHarmless (f : CameraFields) (j : Json) : Prop :=
  ∀ pre, FirstMisfit (cameraAssignments (ISettingData.payload .firstOnly j)) pre →
    ∀ a ∈ pre, a.Holds f

/-- An updater that refuses, without an assignment. -/
theorem rejectionKeeps_of_refuses {β : Type} [SettingData β] {s : SetterBase β} {j : Json}
    (h : SettingData.updater (ISettingData.payload (SettingData.mode β) j) =
      (return false : UpdaterM β Bool)) : RejectionKeeps s j := by
  have hrun : s.settingData.updateFromJson j = (.ok false, s.settingData) := by
    rw [ISettingData.updateFromJson, h]
    rfl
  rw [rejectionKeeps_iff_of_refused fun _ => congrArg Prod.snd hrun]
  exact fun _ => congrArg Prod.snd hrun

theorem not_firstMisfit_nil {ε β : Type} {pre : List (Assignment ε β)} : ¬FirstMisfit [] pre := by
  rintro ⟨bad, post, hsplit, -⟩
  exact List.append_ne_nil_of_right_ne_nil pre (List.cons_ne_nil bad post) hsplit.symm

theorem rejectionKeeps_server_iff (s : SetterBase ServerFields) (j : Json) :
    RejectionKeeps s j ↔ ServerHarmless s.settingData.fields j := by
  generalize hp : ISettingData.payload .firstOnly j = p
  rw [ServerHarmless, hp]
  cases hid : p.member? "Id" with
  | some id =>
    cases hsetting : p.member? "Setting" with
    | some setting =>
      refine rejectionKeeps_iff_of_assignments (pairwise_apart_serverAssignments p) ?_
      show updateServer (ISettingData.payload .firstOnly j) = _
      rw [hp]
      exact updateServer_of_members hid hsetting
    | none =>
      have hnil : serverAssignments p = [] := by rw [serverAssignments, hid, hsetting]
      rw [hnil]
      refine ⟨fun _ pre h => absurd h not_firstMisfit_nil, fun _ => rejectionKeeps_of_refuses ?_⟩
      show updateServer (ISettingData.payload .firstOnly j) = _
      rw [hp, updateServer, hid, hsetting]
  | none =>
    have hnil : serverAssignments p = [] := by rw [serverAssignments, hid]
    rw [hnil]
    refine ⟨fun _ pre h => absurd h not_firstMisfit_nil, fun _ => rejectionKeeps_of_refuses ?_⟩
    show updateServer (ISettingData.payload .firstOnly j) = _
    rw [hp, updateServer, hid]

theorem rejectionKeeps_camera_iff (s : SetterBase CameraFields) (j : Json) :
    RejectionKeeps s j ↔ CameraHarmless s.settingData.fields j := by
  generalize hp : ISettingData.payload .firstOnly j = p
  rw [CameraHarmless, hp]
  cases hobject : p.isObject with
  | true =>
    refine rejectionKeeps_iff_of_assignments (pairwise_apart_cameraAssignments p) ?_
    show updateCamera (ISettingData.payload .firstOnly j) = _
    rw [hp]
    exact updateCamera_of_isObject hobject
  | false =>
    have hnil : cameraAssignments p = [] := by rw [cameraAssignments, if_pos hobject]
    rw [hnil]
    refine ⟨fun _ pre h => absurd h not_firstMisfit_nil, fun _ => rejectionKeeps_of_refuses ?_⟩
    show updateCamera (ISettingData.payload .firstOnly j) = _
    rw [hp, updateCamera, if_pos hobject]

/-- **When a rejected update leaves no trace**, for the four types of settings, whether or not there
was a setting before: always for exclusions and schedules, and for the other two exactly when the
fields before the first misfit have their values already. -/
theorem rejectionKeeps_iff (j : Json) (exclude : SetterBase ExcludeCam)
    (schedule : SetterBase Schedules) (server : SetterBase ServerFields)
    (camera : SetterBase CameraFields) :
    RejectionKeeps exclude j ∧ RejectionKeeps schedule j ∧
      (RejectionKeeps server j ↔ ServerHarmless server.settingData.fields j) ∧
      (RejectionKeeps camera j ↔ CameraHarmless camera.settingData.fields j) := by
  refine ⟨?_, ?_, rejectionKeeps_server_iff server j, rejectionKeeps_camera_iff camera j⟩
  · rw [rejectionKeeps_iff_of_refused]
    · exact fun h => absurd rfl h
    · rintro ⟨⟩
  · have hkeeps : (schedule.settingData.updateFromJson j).1 ≠ .ok true →
        (schedule.settingData.updateFromJson j).2 = schedule.settingData := by
      intro h
      rw [updateFromJson_schedule] at h ⊢
      cases j with
      | arr objs =>
        dsimp only at h ⊢
        cases hread : objs.mapM readSchedule with
        | ok schedules =>
          rw [hread] at h
          exact absurd rfl h
        | error e => rfl
      | null | bool | int | float | str | obj => rfl
    rw [rejectionKeeps_iff_of_refused fun h => hkeeps (by rw [h]; simp)]
    exact hkeeps

/-- A setter of a camera that has had a setting. -/
def cameraSetter : SetterBase CameraFields :=
  ((SetterBase.new true).update (.obj [("CameraId", .int 1), ("Url", .str "rtsp://10.0.0.1")])).2.1

/-- **A null address is rejected, and the new number of the camera stays.** -/
theorem not_rejectionKeeps :
    ¬((∀ (s : SetterBase ExcludeCam) j, RejectionKeeps s j) ∧
      (∀ (s : SetterBase Schedules) j, RejectionKeeps s j) ∧
      (∀ (s : SetterBase ServerFields) j, RejectionKeeps s j) ∧
      ∀ (s : SetterBase CameraFields) j, RejectionKeeps s j) := by
  rintro ⟨-, -, -, h⟩
  have hkeeps := h cameraSetter (.obj [("CameraId", .int 2), ("Url", .null)])
  have hid := congrArg (·.fields.cameraId) (hkeeps (by rintro ⟨⟩)).1
  exact absurd hid (by decide)

end DetectBase
