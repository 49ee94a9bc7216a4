import DetectBase.Foundations.StdSort
import DetectBase.Profile.NetworkProfile
import Mathlib.Data.List.Range
import Mathlib.Data.List.Sort
import Mathlib.Data.Prod.Lex

/-!
# The profiles of the engines

`EngineProfileParser` reads `EngineSettings.json` and, for each engine that is switched on there, a
file with its profile. Each profile gets an identifier from a counter that goes on from one `Parse`
to the next; a profile that cannot be read takes its identifier with it. What is returned is one
profile for each engine that is switched on, in the order of the file and with identifiers in a row
(`DetectBase.EngineProfileParser.spec_parse`).

The units ask for an engine by its magic name. `SearchEngineUUID` walks over a hash map, whose order
is unspecified, and sorts what it finds; the engine that is taken has the least priority number
among those with the name, and the least identifier among these
(`DetectBase.getAvailableInferEngineID_spec`). As identifiers are in a row, it is the first in the
file of those with the least priority number, whatever the order of the map
(`DetectBase.getAvailableInferEngineID_of_parse`).

Paths are as in the file system of the service: what is at a path is given, and so is whether there
is a file there, which may throw.
-/

namespace DetectBase

open Json (Exception)

/-! ### The model -/

/-- `ToUpperCase`. -/
def toUpperCase (s : String) : String := .ofList (s.toList.map Char.toUpper)

/-- `ModelMajorType`. -/
inductive ModelMajorType where
  /-- `None`. -/
  | none : ModelMajorType
  /-- `Detection`. -/
  | detection : ModelMajorType
  deriving DecidableEq

/-- `ModelMinorType`. -/
inductive ModelMinorType where
  /-- `None`. -/
  | none : ModelMinorType
  /-- `YoloV5`. -/
  | yoloV5 : ModelMinorType
  /-- `YoloV7`. -/
  | yoloV7 : ModelMinorType
  /-- `YoloV8`. -/
  | yoloV8 : ModelMinorType
  /-- `YoloV10`. -/
  | yoloV10 : ModelMinorType
  deriving DecidableEq

/-- `ModelOptimizeType`. -/
inductive ModelOptimizeType where
  /-- `None`. -/
  | none : ModelOptimizeType
  /-- `Torch_Onnx_RKNN`. -/
  | torchOnnxRknn : ModelOptimizeType
  deriving DecidableEq

/-- **`EngineProfile`**. -/
structure EngineProfile where
  /-- `uuid`. -/
  uuid : ℕ
  /-- `profile_name`. -/
  profileName : String
  /-- `engine_file_path`. -/
  engineFilePath : String
  /-- `classes_yml_path`. -/
  classesYmlPath : String
  /-- `model_major_type`. -/
  modelMajorType : ModelMajorType
  /-- `model_minor_type`. -/
  modelMinorType : ModelMinorType
  /-- `model_magic_type`. -/
  modelMagicType : String
  /-- `priority`. -/
  priority : ℕ
  /-- `inference_weight`. -/
  inferenceWeight : ℕ
  /-- `input_size_mutable`. -/
  inputSizeMutable : Bool
  /-- `input_image_w`. -/
  inputImageW : ℕ
  /-- `input_image_h`. -/
  inputImageH : ℕ
  /-- `inference_batch_size`. -/
  inferenceBatchSize : ℕ
  /-- `opt_type`. -/
  optType : ModelOptimizeType
  /-- `input_layer_binding_name`. -/
  inputLayerBindingName : String
  /-- `output_layer_binding_name`. -/
  outputLayerBindingName : String
  /-- `confidence_threshold`. -/
  confidenceThreshold : Single
  /-- `nms_threshold`. -/
  nmsThreshold : Single
  deriving DecidableEq

/-- What the parser can throw. -/
inductive ProfileException where
  /-- An exception of an accessor. -/
  | json (e : Exception) : ProfileException
  /-- The text of a profile is no JSON. -/
  | parseError : ProfileException
  /-- An exception of the file system. -/
  | filesystem : ProfileException
  deriving DecidableEq

/-- The files that the parser looks at. -/
structure EngineFiles where
  /-- What is at the path of the settings. -/
  settings : SettingsFile
  /-- `IsValidFile( GetAbsolutePath( path ) )`. -/
  isValidFile : String → Except ProfileException Bool
  /-- What `std::ifstream` finds at a path. -/
  content : String → SettingsFile

namespace EngineProfileParser

/-- `std::filesystem::path::operator/=`. -/
def concatPath (dir file : String) : String :=
  if file.toList.head? = some '/' then file
  else if dir = "" ∨ dir.toList.getLast? = some '/' then dir ++ file
  else dir ++ "/" ++ file

/-- `ResolvePath`. -/
def resolvePath (rawPath detectbaseRoot : String) : String :=
  if "DETECTBASE_ENGINE_FILES_ROOT_PATH/".toList <+: rawPath.toList then
    concatPath detectbaseRoot
      (.ofList (rawPath.toList.drop "DETECTBASE_ENGINE_FILES_ROOT_PATH/".toList.length))
  else rawPath

/-- `ParseModelMajorType`. -/
def parseModelMajorType (type : String) : ModelMajorType :=
  if toUpperCase type = toUpperCase "Detection" then .detection else .none

/-- `ParseModelMinorType`. -/
def parseModelMinorType (type : String) : ModelMinorType :=
  if toUpperCase type = toUpperCase "YoloV5" then .yoloV5
  else if toUpperCase type = toUpperCase "YoloV7" then .yoloV7
  else if toUpperCase type = toUpperCase "YoloV8" then .yoloV8
  else if toUpperCase type = toUpperCase "YoloV10" then .yoloV10
  else .none

/-- `ParseModelOptimizeType`. -/
def parseModelOptimizeType (type : String) : ModelOptimizeType :=
  if toUpperCase type = toUpperCase "Torch_Onnx_RKNN" then .torchOnnxRknn else .none

/-- An accessor, among the other things that can throw. -/
def accessor {α : Type} (read : Except Exception α) : Except ProfileException α :=
  read.mapError .json

/-- The paths of an engine. -/
structure EnginePaths where
  /-- `ProfilePath`. -/
  profile : String
  /-- `ClassesPath`. -/
  classes : String
  /-- `EngineFilePath`. -/
  engine : String
  deriving DecidableEq

/-- The paths of an engine, resolved. -/
def readPaths (root : String) (entry : Json) : Except Exception EnginePaths := do
  let profile ← entry.value Json.getString "ProfilePath" ""
  let classes ← entry.value Json.getString "ClassesPath" ""
  let engine ← entry.value Json.getString "EngineFilePath" ""
  return ⟨resolvePath profile root, resolvePath classes root, resolvePath engine root⟩

/-- The first message of some checks in a row. -/
def firstMessage : List (Except ProfileException (Option String)) →
    Except ProfileException (Option String)
  | [] => .ok none
  | check :: checks =>
    match check with
    | .error e => .error e
    | .ok (some msg) => .ok (some msg)
    | .ok none => firstMessage checks

/-- A path has to be that of a file. -/
def checkPath (files : EngineFiles) (msg path : String) :
    Except ProfileException (Option String) := do
  if ← files.isValidFile path then return none else return some (msg ++ path)

/-- The checks of an element of `Engines`. -/
def checkEntry (files : EngineFiles) (root : String) (entry : Json) :
    Except ProfileException (Option String) := do
  if ← accessor (entry.value Json.getBool "Enable" false) then
    let paths ← accessor (readPaths root entry)
    firstMessage [
      checkPath files "CheckParsable(), ProfilePath 경로의 파일이 존재하지 않습니다: " paths.profile,
      checkPath files "CheckParsable(), EngineFilePath 경로의 파일이 존재하지 않습니다: " paths.engine,
      checkPath files "CheckParsable(), ClassesPath 경로의 파일이 존재하지 않습니다: " paths.classes]
  else return none

/-- `CheckParsable`, from the first `value` on. -/
def checkSettings (files : EngineFiles) (settings : Json) :
    Except ProfileException (Option String) := do
  let root ← accessor (settings.value Json.getString "DETECTBASE_ENGINE_FILES_ROOT_PATH" "")
  if root = "" then
    return some "CheckParsable(), DETECTBASE_ENGINE_FILES_ROOT_PATH 키가 누락되었거나 값이 비어 있습니다."
  else
    match settings.member? "Engines" with
    | some (.arr engines) => firstMessage (engines.map (checkEntry files root))
    | _ => return some "CheckParsable(), 'Engines' 배열이 존재하지 않거나 형식이 올바르지 않습니다."

/-- **`CheckParsable`**: a message, or `nullopt`. -/
def checkParsable (what path : String) (files : EngineFiles) :
    Except ProfileException (Option String) :=
  match files.settings with
  | .missing =>
    .ok (some ("CheckParsable(), EngineSettings 파일이 존재하지 않거나 잘못된 경로입니다: " ++ path))
  | .locked => .ok (some ("CheckParsable(), EngineSettings 파일을 열 수 없습니다: " ++ path))
  | .text s =>
    match parseStream s with
    | none => .ok (some ("CheckParsable(), JSON 파싱 오류: " ++ what))
    | some settings => checkSettings files settings

/-- The profile of an engine, with an identifier. -/
def readConfig (uuid : ℕ) (paths : EnginePaths) (profile : Json) :
    Except Exception EngineProfile := do
  let profileName ← profile.value Json.getString "ProfileName" ""
  let major ← profile.value Json.getString "ModelMajorType" ""
  let minor ← profile.value Json.getString "ModelMinorType" ""
  let magic ← profile.value Json.getString "ModelMagicType" ""
  let priority ← profile.value Json.getInt "Priority" 99
  let weight ← profile.value Json.getInt "InferenceWeight" 100
  let inputSizeMutable ← profile.value Json.getBool "InputSizeMutable" false
  let width ← profile.value Json.getInt "InputImageWidth" 640
  let height ← profile.value Json.getInt "InputImageHeight" 640
  let batch ← profile.value Json.getInt "InferenceBatchSize" 1
  let opt ← profile.value Json.getString "ModelOptimizeType" "None"
  let input ← profile.value Json.getString "InputLayerBindingName" "images"
  let output ← profile.value Json.getString "OutputLayerBindingName" "output"
  let confidence ←
    profile.value Json.getFloat "ConfidenceThreshold" (ofDecimal binary32 false 45 (-2))
  let nms ← profile.value Json.getFloat "NmsThreshold" (ofDecimal binary32 false 5 (-1))
  return {
    uuid, profileName
    engineFilePath := paths.engine
    classesYmlPath := paths.classes
    modelMajorType := parseModelMajorType major
    modelMinorType := parseModelMinorType minor
    modelMagicType := magic
    priority := toUnsigned priority
    inferenceWeight := toUnsigned weight
    inputSizeMutable
    inputImageW := toUnsigned width
    inputImageH := toUnsigned height
    inferenceBatchSize := toUnsigned batch
    optType := parseModelOptimizeType opt
    inputLayerBindingName := input
    outputLayerBindingName := output
    confidenceThreshold := confidence
    nmsThreshold := nms }

/-- What comes of an element of `Engines` before it gets an identifier. -/
inductive Opened where
  /-- It is not switched on. -/
  | skipped : Opened
  /-- Its profile cannot be opened. -/
  | unopened : Opened
  /-- Its paths and its profile. -/
  | opened (paths : EnginePaths) (profile : Json) : Opened

/-- The body of the loop of `Parse`, up to `GenerateUniqueID`. -/
def openEntry (files : EngineFiles) (root : String) (entry : Json) :
    Except ProfileException Opened := do
  if ← accessor (entry.value Json.getBool "Enable" false) then
    let paths ← accessor (readPaths root entry)
    match files.content paths.profile with
    | .text s =>
      match parseStream s with
      | some profile => return .opened paths profile
      | none => throw .parseError
    | _ => return .unopened
  else return .skipped

/-- **The loop of `Parse`**, with the profiles so far and `unique_id_counter`, which is an
`unsigned int`. -/
def parseEngines (files : EngineFiles) (root : String) : List Json → List EngineProfile → ℕ →
    Except ProfileException (Option (List EngineProfile)) × ℕ
  | [], result, counter => (.ok (some result), counter)
  | entry :: entries, result, counter =>
    match openEntry files root entry with
    | .error e => (.error e, counter)
    | .ok .skipped => parseEngines files root entries result counter
    | .ok .unopened => (.ok none, counter)
    | .ok (.opened paths profile) =>
      match readConfig (counter % 2 ^ 32) paths profile with
      | .error e => (.error (.json e), counter + 1)
      | .ok p => parseEngines files root entries (result ++ [p]) (counter + 1)

/-- **`Parse`**, with `unique_id_counter` before and after. -/
def parse (what path : String) (files : EngineFiles) (counter : ℕ) :
    Except ProfileException (Option (List EngineProfile)) × ℕ :=
  match checkParsable what path files with
  | .error e => (.error e, counter)
  | .ok (some _) => (.ok none, counter)
  | .ok none =>
    match files.settings.load with
    | some settings =>
      match accessor (settings.value Json.getString "DETECTBASE_ENGINE_FILES_ROOT_PATH" ""),
        settings.member? "Engines" with
      | .error e, _ => (.error e, counter)
      | .ok root, some (.arr engines) => parseEngines files root engines [] counter
      | .ok _, _ => (.ok none, counter)
    | none => (.ok none, counter)

end EngineProfileParser

/-- `InferRequestRequirements`. -/
structure InferRequestRequirements where
  /-- `major_type`. -/
  majorType : ModelMajorType
  /-- `minor_type`. -/
  minorType : ModelMinorType
  /-- `magic_type`. -/
  magicType : String
  /-- `model_uuid`. -/
  modelUuid : ℕ
  deriving DecidableEq

/-- `InferRequestRequireOneType`. -/
inductive InferRequestRequireOneType where
  /-- A `ModelMagicType`. -/
  | magicType (m : String) : InferRequestRequireOneType
  /-- An `InferEngineID`. -/
  | engineId (id : ℕ) : InferRequestRequireOneType
  deriving DecidableEq

/-- `ModelMagicTypeDontCare`. -/
def modelMagicTypeDontCare : String := "DontCareMagic"

/-- `InferModelUUIDDontCare`. -/
def inferModelUUIDDontCare : ℕ := 0xffffff

/-- `INFER_ENGINE_ID_NOT_SET`. -/
def inferEngineIdNotSet : ℕ := 0

/-- `INFER_ENGINE_ID_INITIAL`. -/
def inferEngineIdInitial : ℕ := 1

/-- `CreateRequirementsFromSingle`. -/
def createRequirementsFromSingle : InferRequestRequireOneType → InferRequestRequirements
  | .magicType m => ⟨.none, .none, m, inferModelUUIDDontCare⟩
  | .engineId id => ⟨.none, .none, modelMagicTypeDontCare, id⟩

/-- `IsRequireAtLeastOne`. -/
def isRequireAtLeastOne (r : InferRequestRequirements) : Bool :=
  r.majorType ≠ .none || r.minorType ≠ .none || r.magicType ≠ modelMagicTypeDontCare ||
    r.modelUuid ≠ inferModelUUIDDontCare

/-- `EngineProfileMap`, in the order of its buckets. -/
abbrev EngineProfileMap := List (ℕ × EngineProfile)

/-- **`CreateProfileMap`**, with the entries in the order in which they have come. -/
def createProfileMap (profiles : List EngineProfile) : EngineProfileMap :=
  profiles.foldl (fun map profile =>
    if map.any fun c => c.1 = profile.uuid then map else map ++ [(profile.uuid, profile)]) []

/-- One of the requirements is met. -/
def matchFound (r : InferRequestRequirements) (candidate : ℕ × EngineProfile) : Bool :=
  (r.majorType ≠ .none && r.majorType = candidate.2.modelMajorType) ||
  (r.minorType ≠ .none && r.minorType = candidate.2.modelMinorType) ||
  (r.magicType ≠ modelMagicTypeDontCare && r.magicType = candidate.2.modelMagicType) ||
  (r.modelUuid ≠ inferModelUUIDDontCare && r.modelUuid = candidate.1)

/-- `operator<` on pairs of a priority and an identifier. -/
def comesFirst (a b : ℕ × ℕ) : Prop := toLex a < toLex b

/-- `candidate_pairs`. -/
def candidatePairs (profiles : EngineProfileMap) (r : InferRequestRequirements) : List (ℕ × ℕ) :=
  (profiles.filter (matchFound r)).map fun c => (c.2.priority, c.1)

/-- **`SearchEngineUUID`**. -/
def searchEngineUUID (S : StdSort comesFirst) (profiles : EngineProfileMap)
    (r : InferRequestRequirements) : List ℕ :=
  if isRequireAtLeastOne r then (S.sort (candidatePairs profiles r)).map Prod.snd else []

/-- **`GetAvailableInferEngineID`**. -/
def getAvailableInferEngineID (S : StdSort comesFirst) (profiles : EngineProfileMap)
    (require : InferRequestRequireOneType) : ℕ :=
  (searchEngineUUID S profiles (createRequirementsFromSingle require)).head?.getD
    inferEngineIdNotSet

/-! ### What `Parse` returns -/

namespace EngineProfileParser

/-- The engine is switched on. -/
def isEnabled (entry : Json) : Bool := entry.member? "Enable" = some (.bool true)

/-- The profile has been read for the element. -/
def ReadFrom (files : EngineFiles) (root : String) (entry : Json) (p : EngineProfile) : Prop :=
  ∃ paths profile, openEntry files root entry = .ok (.opened paths profile) ∧
    readConfig p.uuid paths profile = .ok p

theorem accessor_eq_ok {α : Type} {read : Except Exception α} {a : α} :
    accessor read = .ok a ↔ read = .ok a := by
  rcases read with e | b
  · exact ⟨nofun, nofun⟩
  · rw [accessor, Except.mapError, Except.ok.injEq, Except.ok.injEq]

theorem isEnabled_of_openEntry {files : EngineFiles} {root : String} {entry : Json} {o : Opened}
    (h : openEntry files root entry = .ok o) : isEnabled entry = true ↔ o ≠ .skipped := by
  rw [openEntry] at h
  obtain ⟨enabled, henabled, h⟩ := exists_of_bind_eq_ok h
  have hflag := NetworkProfileParser.value_getBool (accessor_eq_ok.mp henabled)
  rw [isEnabled, decide_eq_true_eq, ← hflag]
  rcases enabled
  · cases h
    simp
  · rw [if_pos rfl] at h
    obtain ⟨paths, -, h⟩ := exists_of_bind_eq_ok h
    simp only [true_iff]
    rintro rfl
    rcases hcontent : files.content paths.profile with _ | _ | s
    · rw [hcontent] at h
      cases h
    · rw [hcontent] at h
      cases h
    · rw [hcontent] at h
      rcases hparse : parseStream s with _ | profile
      · simp only [hparse] at h
        cases h
      · simp only [hparse] at h
        cases h

theorem uuid_of_readConfig {uuid : ℕ} {paths : EnginePaths} {profile : Json} {p : EngineProfile}
    (h : readConfig uuid paths profile = .ok p) : p.uuid = uuid := by
  rw [readConfig] at h
  iterate 15 obtain ⟨_, -, h⟩ := exists_of_bind_eq_ok h
  cases h
  rfl

/-- **What the loop has made of the elements.** -/
theorem spec_parseEngines {files : EngineFiles} {root : String} {entries : List Json}
    {result ps : List EngineProfile} {counter counter' : ℕ}
    (h : parseEngines files root entries result counter = (.ok (some ps), counter')) :
    ∃ new, ps = result ++ new ∧ counter' = counter + new.length ∧
      List.Forall₂ (ReadFrom files root) (entries.filter isEnabled) new ∧
      new.map (·.uuid) = (List.range' counter new.length).map (· % 2 ^ 32) := by
  induction entries generalizing result counter with
  | nil =>
    cases h
    exact ⟨[], (List.append_nil _).symm, rfl, List.Forall₂.nil, rfl⟩
  | cons entry entries ih =>
    rw [parseEngines] at h
    rcases hopen : openEntry files root entry with e | o
    · rw [hopen] at h
      cases h
    have henabled := isEnabled_of_openEntry hopen
    rcases o with _ | _ | ⟨paths, profile⟩
    · rw [hopen] at h
      obtain ⟨new, hps, hcounter, hread, huuid⟩ := ih h
      rw [List.filter_cons_of_neg (by rw [henabled]; simp)]
      exact ⟨new, hps, hcounter, hread, huuid⟩
    · rw [hopen] at h
      cases h
    · simp only [hopen] at h
      rcases hconfig : readConfig (counter % 2 ^ 32) paths profile with e | p
      · rw [hconfig] at h
        cases h
      · rw [hconfig] at h
        obtain ⟨new, hps, hcounter, hread, huuid⟩ := ih h
        have hp := uuid_of_readConfig hconfig
        refine ⟨p :: new, by rw [hps, List.append_assoc]; rfl, ?_, ?_, ?_⟩
        · rw [hcounter, List.length_cons]
          omega
        · rw [List.filter_cons_of_pos (henabled.mpr nofun)]
          exact List.Forall₂.cons ⟨paths, profile, hopen, hp ▸ hconfig⟩ hread
        · rw [List.map_cons, List.length_cons, List.range'_succ, List.map_cons, huuid, hp]

/-- What the loop has been given. -/
theorem exists_of_parse {what path : String} {files : EngineFiles} {counter counter' : ℕ}
    {ps : List EngineProfile} (h : parse what path files counter = (.ok (some ps), counter')) :
    ∃ settings root engines, files.settings.load = some settings ∧
      settings.value Json.getString "DETECTBASE_ENGINE_FILES_ROOT_PATH" "" = .ok root ∧
      settings.member? "Engines" = some (.arr engines) ∧
      parseEngines files root engines [] counter = (.ok (some ps), counter') := by
  rw [parse] at h
  split at h
  · cases h
  · cases h
  split at h
  · next settings hload =>
    split at h
    · cases h
    · next root engines hroot hengines =>
      exact ⟨settings, root, engines, hload, accessor_eq_ok.mp hroot, hengines, h⟩
    · cases h
  · cases h

/-- **What `Parse` returns**: a profile for each engine that is switched on, in the order of the
file, with identifiers in a row. -/
theorem spec_parse {what path : String} {files : EngineFiles} {counter counter' : ℕ}
    {ps : List EngineProfile} (h : parse what path files counter = (.ok (some ps), counter')) :
    ∃ settings root engines, files.settings.load = some settings ∧
      settings.value Json.getString "DETECTBASE_ENGINE_FILES_ROOT_PATH" "" = .ok root ∧
      settings.member? "Engines" = some (.arr engines) ∧
      List.Forall₂ (ReadFrom files root) (engines.filter isEnabled) ps ∧
      ps.map (·.uuid) = (List.range' counter ps.length).map (· % 2 ^ 32) ∧
      counter' = counter + ps.length := by
  obtain ⟨settings, root, engines, hload, hroot, hengines, hloop⟩ := exists_of_parse h
  obtain ⟨new, hps, hcounter, hread, huuid⟩ := spec_parseEngines hloop
  rw [List.nil_append] at hps
  subst hps
  exact ⟨settings, root, engines, hload, hroot, hengines, hread, huuid, hcounter⟩

/-- An engine that is switched off between two that are switched on. -/
def sampleFiles : EngineFiles where
  settings := .text "\x7b\"DETECTBASE_ENGINE_FILES_ROOT_PATH\": \"r\", \"Engines\": [
    \x7b\"Enable\": true, \"ProfilePath\": \"a\"\x7d, \x7b\"ProfilePath\": \"b\"\x7d,
    \x7b\"Enable\": true, \"ProfilePath\": \"DETECTBASE_ENGINE_FILES_ROOT_PATH/c\"\x7d]\x7d"
  isValidFile _ := .ok true
  content path :=
    if path = "r/c" then .text "\x7b\"ModelMagicType\": \"m\", \"Priority\": 1\x7d"
    else .text "\x7b\"ModelMagicType\": \"m\", \"Priority\": 2\x7d"

/-- A profile of the sample. -/
def sampleProfile (uuid priority : ℕ) : EngineProfile where
  uuid
  profileName := ""
  engineFilePath := ""
  classesYmlPath := ""
  modelMajorType := .none
  modelMinorType := .none
  modelMagicType := "m"
  priority
  inferenceWeight := 100
  inputSizeMutable := false
  inputImageW := 640
  inputImageH := 640
  inferenceBatchSize := 1
  optType := .none
  inputLayerBindingName := "images"
  outputLayerBindingName := "output"
  confidenceThreshold := ofDecimal binary32 false 45 (-2)
  nmsThreshold := ofDecimal binary32 false 5 (-1)

theorem parse_sampleFiles :
    parse "" "" sampleFiles 1 = (.ok (some [sampleProfile 1 2, sampleProfile 2 1]), 3) := by
  decide +kernel

theorem spec_parse_sampleFiles : [sampleProfile 1 2, sampleProfile 2 1].map (·.uuid) =
    (List.range' 1 2).map (· % 2 ^ 32) := by
  obtain ⟨_, _, _, -, -, -, -, huuid, -⟩ := spec_parse parse_sampleFiles
  exact huuid

end EngineProfileParser

/-! ### The engine that is taken -/

theorem createProfileMap_of_nodup {ps : List EngineProfile} (h : (ps.map (·.uuid)).Nodup) :
    createProfileMap ps = ps.map fun p => (p.uuid, p) := by
  have hfold : ∀ (qs : List EngineProfile) (map : EngineProfileMap),
      (map.map Prod.fst ++ qs.map (·.uuid)).Nodup →
      qs.foldl (fun map p => if map.any fun c => c.1 = p.uuid then map
        else map ++ [(p.uuid, p)]) map = map ++ qs.map fun p => (p.uuid, p) := by
    intro qs
    induction qs with
    | nil => exact fun map _ => (List.append_nil map).symm
    | cons q qs ih =>
      intro map hnodup
      have hfresh : ¬(map.any fun c => c.1 = q.uuid) = true := by
        intro hany
        obtain ⟨c, hc, heq⟩ := List.any_eq_true.mp hany
        have hdisjoint := (List.nodup_append.mp hnodup).2.2
        exact hdisjoint c.1 (List.mem_map_of_mem hc) q.uuid (by simp) (by simpa using heq)
      rw [List.foldl_cons, if_neg hfresh, ih, List.map_cons, List.append_assoc]
      · rfl
      · simpa using hnodup
  exact hfold ps [] (by simpa using h)

theorem searchEngineUUID_dontCare (S : StdSort comesFirst) (profiles : EngineProfileMap) :
    searchEngineUUID S profiles
      (createRequirementsFromSingle (.magicType modelMagicTypeDontCare)) = [] := by
  rw [searchEngineUUID, if_neg (by decide)]

theorem mem_candidatePairs {m : String} (hm : m ≠ modelMagicTypeDontCare)
    {profiles : EngineProfileMap} {pair : ℕ × ℕ} :
    pair ∈ candidatePairs profiles (createRequirementsFromSingle (.magicType m)) ↔
      ∃ c ∈ profiles, c.2.modelMagicType = m ∧ pair = (c.2.priority, c.1) := by
  have hfound : ∀ c : ℕ × EngineProfile,
      matchFound (createRequirementsFromSingle (.magicType m)) c = true ↔
        c.2.modelMagicType = m := by
    intro c
    simp only [matchFound, createRequirementsFromSingle, ne_eq, hm, not_true, not_false_iff,
      decide_true, decide_false, Bool.false_and, Bool.true_and, Bool.false_or, Bool.or_false]
    exact decide_eq_true_iff.trans eq_comm
  simp only [candidatePairs, List.mem_map, List.mem_filter, hfound]
  constructor
  · rintro ⟨c, ⟨hc, hmagic⟩, rfl⟩
    exact ⟨c, hc, hmagic, rfl⟩
  · rintro ⟨c, hc, hmagic, rfl⟩
    exact ⟨c, ⟨hc, hmagic⟩, rfl⟩

/-- **The engine that is taken** for a magic name: of the engines with the name, the one with the
least pair of a priority and an identifier. -/
theorem getAvailableInferEngineID_spec (S : StdSort comesFirst) (profiles : EngineProfileMap)
    {m : String} (hm : m ≠ modelMagicTypeDontCare) :
    (getAvailableInferEngineID S profiles (.magicType m) = inferEngineIdNotSet ∧
      ∀ c ∈ profiles, c.2.modelMagicType ≠ m) ∨
    ∃ c ∈ profiles, c.2.modelMagicType = m ∧
      getAvailableInferEngineID S profiles (.magicType m) = c.1 ∧
      ∀ d ∈ profiles, d.2.modelMagicType = m →
        toLex (c.2.priority, c.1) ≤ toLex (d.2.priority, d.1) := by
  have hrequire : isRequireAtLeastOne (createRequirementsFromSingle (.magicType m)) = true := by
    simp [isRequireAtLeastOne, createRequirementsFromSingle, hm]
  rw [getAvailableInferEngineID, searchEngineUUID, if_pos hrequire, List.head?_map]
  rcases hhead : (S.sort (candidatePairs profiles
    (createRequirementsFromSingle (.magicType m)))).head? with _ | first
  · left
    rw [StdSort.head?_sort_eq_none] at hhead
    refine ⟨rfl, fun c hc hmagic => ?_⟩
    have hcandidate := (mem_candidatePairs hm).mpr ⟨c, hc, hmagic, rfl⟩
    rw [hhead] at hcandidate
    exact List.not_mem_nil hcandidate
  · right
    obtain ⟨hmem, hleast⟩ := S.head?_sort hhead
    obtain ⟨c, hc, hmagic, rfl⟩ := (mem_candidatePairs hm).mp hmem
    refine ⟨c, hc, hmagic, rfl, fun d hd hmagic' => ?_⟩
    have hcandidate := (mem_candidatePairs hm).mpr ⟨d, hd, hmagic', rfl⟩
    rcases hleast _ hcandidate with heq | hnot
    · rw [heq]
    · exact not_lt.mp hnot

/-- Identifiers in a row stand in increasing order as long as the counter does not overflow. -/
theorem pairwise_uuid {ps : List EngineProfile} {counter : ℕ}
    (h : ps.map (·.uuid) = (List.range' counter ps.length).map (· % 2 ^ 32))
    (hfits : counter + ps.length ≤ 2 ^ 32) :
    ps.Pairwise (fun p q => p.uuid < q.uuid) ∧ ∀ p ∈ ps, counter ≤ p.uuid := by
  have hrange : ps.map (·.uuid) = List.range' counter ps.length := by
    rw [h]
    refine List.map_congr_left (g := id) (fun n hn => ?_) |>.trans (List.map_id _)
    have hlt := (List.mem_range'_1.mp hn).2
    exact Nat.mod_eq_of_lt (by omega)
  constructor
  · have hsorted : (ps.map (·.uuid)).Pairwise (· < ·) := hrange ▸ List.pairwise_lt_range'
    exact List.pairwise_map.mp hsorted
  · intro p hp
    have hmem : p.uuid ∈ List.range' counter ps.length := hrange ▸ List.mem_map_of_mem hp
    exact (List.mem_range'_1.mp hmem).1

/-- **From the file to the engine that is taken**: whatever the order of the map, it is the first
in the file of those with the name that have the least priority number. There is none exactly if no
engine that is switched on has the name, and for the name `ModelMagicTypeDontCare`. The identifiers
are those of a counter that has not wrapped around. -/
theorem getAvailableInferEngineID_of_parse {what path : String} {files : EngineFiles}
    {counter counter' : ℕ} {ps : List EngineProfile}
    (h : EngineProfileParser.parse what path files counter = (.ok (some ps), counter'))
    (hcounter : inferEngineIdInitial ≤ counter) (hfits : counter' ≤ 2 ^ 32)
    {profiles : EngineProfileMap} (hmap : profiles.Perm (createProfileMap ps))
    (S : StdSort comesFirst) (m : String) :
    (getAvailableInferEngineID S profiles (.magicType m) = inferEngineIdNotSet ∧
      (m = modelMagicTypeDontCare ∨ ∀ p ∈ ps, p.modelMagicType ≠ m)) ∨
    m ≠ modelMagicTypeDontCare ∧
      ∃ before p after, ps = before ++ p :: after ∧ p.modelMagicType = m ∧
      getAvailableInferEngineID S profiles (.magicType m) = p.uuid ∧
      p.uuid ≠ inferEngineIdNotSet ∧
      (∀ q ∈ before, q.modelMagicType = m → p.priority < q.priority) ∧
      ∀ q ∈ after, q.modelMagicType = m → p.priority ≤ q.priority := by
  obtain ⟨_, _, _, -, -, -, hloop⟩ := EngineProfileParser.exists_of_parse h
  obtain ⟨new, hps, hcounter', -, huuid⟩ := EngineProfileParser.spec_parseEngines hloop
  rw [List.nil_append] at hps
  subst hps
  obtain ⟨hsorted, hge⟩ := pairwise_uuid huuid (hcounter' ▸ hfits)
  have hnodup : (ps.map (·.uuid)).Nodup :=
    List.pairwise_map.mpr (hsorted.imp fun hlt => hlt.ne)
  rw [createProfileMap_of_nodup hnodup] at hmap
  have hentry : ∀ c, c ∈ profiles ↔ ∃ p ∈ ps, (p.uuid, p) = c :=
    fun c => hmap.mem_iff.trans List.mem_map
  by_cases hm : m = modelMagicTypeDontCare
  · left
    subst hm
    refine ⟨?_, Or.inl rfl⟩
    rw [getAvailableInferEngineID, searchEngineUUID_dontCare]
    rfl
  rcases getAvailableInferEngineID_spec S profiles hm with
    ⟨hnone, hno⟩ | ⟨c, hc, hmagic, htaken, hleast⟩
  · exact Or.inl ⟨hnone, Or.inr fun p hp => hno _ ((hentry _).mpr ⟨p, hp, rfl⟩)⟩
  · right
    obtain ⟨p, hp, rfl⟩ := (hentry c).mp hc
    obtain ⟨before, after, rfl⟩ := List.append_of_mem hp
    have hle : ∀ q ∈ before ++ p :: after, q.modelMagicType = m →
        p.priority < q.priority ∨ p.priority = q.priority ∧ p.uuid ≤ q.uuid :=
      fun q hq hq' => Prod.Lex.le_iff.mp (hleast _ ((hentry _).mpr ⟨q, hq, rfl⟩) hq')
    refine ⟨hm, before, p, after, rfl, hmagic, htaken, ?_, fun q hq hq' => ?_,
      fun q hq hq' => ?_⟩
    · have := hge p hp
      simp only [inferEngineIdInitial, inferEngineIdNotSet] at *
      omega
    · -- An engine that stands earlier has the smaller identifier, so the priority must decide.
      have hearlier := (List.pairwise_append.mp hsorted).2.2 q hq p List.mem_cons_self
      rcases hle q (by simp [hq]) hq' with hlt | ⟨-, hge'⟩
      · exact hlt
      · exact absurd hearlier (not_lt.mpr hge')
    · rcases hle q (by simp [hq]) hq' with hlt | ⟨heq, -⟩
      · exact hlt.le
      · exact heq.le

/-- `std::sort` of pairs, as an insertion sort. -/
def pairSort : StdSort comesFirst := StdSort.byKey toLex

theorem getAvailableInferEngineID_of_parse_sampleFiles :
    getAvailableInferEngineID pairSort
      [(2, EngineProfileParser.sampleProfile 2 1), (1, EngineProfileParser.sampleProfile 1 2)]
      (.magicType "m") ≠ inferEngineIdNotSet := by
  rcases getAvailableInferEngineID_of_parse EngineProfileParser.parse_sampleFiles (by decide)
    (by decide) (List.Perm.swap _ _ []) pairSort "m" with ⟨-, hdontCare | hno⟩ | h
  · exact absurd hdontCare (by decide)
  · exact absurd rfl (hno (EngineProfileParser.sampleProfile 1 2) List.mem_cons_self)
  · obtain ⟨-, _, p, _, -, -, htaken, hset, -⟩ := h
    exact htaken ▸ hset

end DetectBase
