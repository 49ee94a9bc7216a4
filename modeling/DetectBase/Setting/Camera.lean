import DetectBase.Setting.Data

/-!
# The setting of a camera

The fourth type of setting, `CameraSettingData`. Its updater takes any object: each of its keys may
be spelt in four ways (`DetectBase.getStringRegardlessOfCase`), what is missing has a default, and
the extended data come from one of three places, the last of them the setting of the camera with its
regions put in.

A field of the wrong kind throws, and so does a setting that is neither null nor an object when
there are regions to put into it.
-/

namespace DetectBase

/-! ### Ways to spell a key -/

/-- What the loop of `ConvertToCamelCase` makes of the rest of a key. -/
def camelRest : Bool → List Char → List Char
  | _, [] => []
  | nextUpper, c :: cs =>
    if c = '_' then camelRest true cs
    else (if nextUpper then c.toUpper else c) :: camelRest false cs

/-- `ConvertToCamelCase`. -/
def convertToCamelCase (key : String) : String :=
  match key.toList with
  | [] => ""
  | c :: cs =>
    if c = '_' then .ofList (camelRest true cs) else .ofList (c.toLower :: camelRest false cs)

/-- What the loop of `ConvertToPascalCase` makes of the rest of a key. -/
def pascalRest : Bool → List Char → List Char
  | _, [] => []
  | nextUpper, c :: cs =>
    if c = '_' then pascalRest true cs
    else (if nextUpper then c.toUpper else c.toLower) :: pascalRest false cs

/-- `ConvertToPascalCase`. All letters but the first of a word are put in lower case. -/
def convertToPascalCase (key : String) : String := .ofList (pascalRest true key.toList)

/-- `ConvertToSnakeCase`. -/
def convertToSnakeCase (key : String) : String :=
  match key.toList with
  | [] => ""
  | c :: cs =>
    .ofList (c.toLower :: cs.flatMap fun c => if c.isUpper then ['_', c.toLower] else [c.toLower])

/-- `GetStringRegardlessOfCase`: the first of the four spellings that the object has. -/
def getStringRegardlessOfCase (j : Json) (key : String) : String :=
  let possibleKeys :=
    [key, convertToCamelCase key, convertToPascalCase key, convertToSnakeCase key]
  (possibleKeys.find? j.contains).getD key

/-! ### The updater -/

namespace Json

/-- `operator[]` with a key, and an assignment to what it returns. -/
def setMember (j : Json) (key : String) (v : Json) : Except Exception Json :=
  match j with
  | .obj kvs => .ok (.obj (assign key v kvs))
  | .null => .ok (.obj [(key, v)])
  | _ => .error .typeError305

/-- The value, or an empty object for null. -/
def orObject (j : Json) : Json := if j = .null then object else j

end Json

/-- The fields of `CameraSettingData`. -/
structure CameraFields where
  /-- `camera_id`. -/
  cameraId : ℤ
  /-- `url`. -/
  url : String
  /-- `access_ip`. -/
  accessIp : String
  /-- `access_id`. -/
  accessId : String
  /-- `access_pw`. -/
  accessPw : String
  /-- `extend_data`. -/
  extendData : Json
deriving DecidableEq

/-- `Impl_CameraSettingData_UpdateFromJsonObject`. -/
def updateCamera (j : Json) : UpdaterM CameraFields Bool := do
  if j.isObject = false then return false
  let key := getStringRegardlessOfCase j
  let cameraId ← readField (j.value Json.getInt (key "CameraId") 0)
  modify ({ · with cameraId := cameraId })
  let url ← readField (j.value Json.getString (key "Url") "None")
  modify ({ · with url := url })
  let accessIp ← readField (j.value Json.getString (key "AccessIp") "None")
  modify ({ · with accessIp := accessIp })
  let accessId ← readField (j.value Json.getString (key "AccessId") "None")
  modify ({ · with accessId := accessId })
  let accessPw ← readField (j.value Json.getString (key "AccessPassword") "None")
  modify ({ · with accessPw := accessPw })
  let extendData ← readField (j.value .ok (key "ExtendData") Json.object)
  modify ({ · with extendData := extendData })
  match j.member? (key "SurveyData") with
  | some survey =>
    if !survey.orObject.isEmpty then modify ({ · with extendData := survey.orObject })
  | none => pure ()
  match j.member? (key "setting") with
  | some setting =>
    match j.member? (key "roi") with
    | some roi =>
      if !roi.orObject.isEmpty then
        let settingWithRoi ← readField (setting.orObject.setMember (key "roi") roi.orObject)
        modify ({ · with extendData := settingWithRoi })
    | none =>
      if !setting.orObject.isEmpty then modify ({ · with extendData := setting.orObject })
  | none => pure ()
  return true

instance : SettingData CameraFields where
  mode := .firstOnly
  init :=
    { cameraId := 0, url := "", accessIp := "", accessId := "", accessPw := "",
      extendData := .null }
  updater := updateCamera

/-- `CameraSettingData`. -/
abbrev CameraSettingData := ISettingData CameraFields

end DetectBase
