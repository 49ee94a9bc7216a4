import DetectBase.Engine.Npu
import DetectBase.Profile.EngineProfile
import DetectBase.Worker.UnitUpdates

/-!
# The classes of an engine

A unit asks its engine for objects of two classes, and knows classes by the numbers that the engine
gives them. `ClassChecker` reads the numbers from the file of the classes, `EngineClient::Init`
looks up the numbers of the classes that are wanted, and from then on three places decide by number:
what is kept of a result, what is tracked, and what a schedule is interested in. They agree, and
they decide as the file says (`DetectBase.setUpEngine_spec`): the number of a class is the one of
the last entry of the file with its name, in whatever case
(`DetectBase.ClassChecker.nameToId_initializeFrom`).

The assertion that the file could be read is not there in a build for release; what has been read
before an error is used.
-/

namespace DetectBase

/-! ### The file of the classes -/

/-- **`ClassChecker`**, with its hash maps as functions. -/
structure ClassChecker where
  /-- `id_to_name_`. -/
  idToName : ℤ → Option String
  /-- `name_to_id_`. -/
  nameToId : String → Option ℤ
  /-- `classify_activate_`. -/
  classifyActivate : Bool
  /-- `class_num_`. -/
  classNum : ℤ

namespace ClassChecker

/-- A checker before `Initialize`. -/
def new : ClassChecker := ⟨fun _ => none, fun _ => none, false, 0⟩

/-- An entry of `names`, unless an exception is thrown. -/
def nameEntry (entry : String × Json) : Option (ℤ × String) :=
  match stoi entry.1, entry.2.getString with
  | some id, .ok name => some (id, name)
  | _, _ => none

/-- What an entry of `names` adds. -/
def addName (c : ClassChecker) (id : ℤ) (name : String) : ClassChecker :=
  { c with
    idToName := Function.update c.idToName id (some name)
    nameToId := Function.update c.nameToId (toUpperCase name) (some id) }

/-- **The loop over `names`**. -/
def readNames : List (String × Json) → ClassChecker → ClassChecker × Bool
  | [], c => (c, true)
  | entry :: entries, c =>
    match nameEntry entry with
    | some (id, name) => readNames entries (c.addName id name)
    | none => (c, false)

/-- `Initialize`, from `num_class` on. -/
def initializeClasses (root : Json) (c : ClassChecker) : ClassChecker × Bool :=
  match root.member? "num_class" with
  | none => (c, false)
  | some num =>
    match num.getInt with
    | .error _ => (c, false)
    | .ok n =>
      match root.member? "names" with
      | some (.obj names) => readNames names { c with classNum := n }
      | _ => ({ c with classNum := n }, false)

/-- **`Initialize`**: the checker afterwards, and what is returned. -/
def initializeFrom (file : SettingsFile) : ClassChecker × Bool :=
  match file.load with
  | none => (new, false)
  | some root =>
    match root.member? "classify_activate" with
    | none => (new, false)
    | some activate =>
      match activate.getBool with
      | .error _ => (new, false)
      | .ok false => (new, true)
      | .ok true => initializeClasses root { new with classifyActivate := true }

/-- `GetClassEqualChecker`. -/
def classEqualChecker (c : ClassChecker) (id : ℤ) (tag : String) : Bool :=
  c.nameToId (toUpperCase tag) = some id

/-- The last entry with the name has the number. -/
def IdOfClass (names : List (String × Json)) (upper : String) (id : ℤ) : Prop :=
  ∃ before key name after, names = before ++ (key, .str name) :: after ∧ stoi key = some id ∧
    toUpperCase name = upper ∧ ∀ entry ∈ after, ∀ s, entry.2 = .str s → toUpperCase s ≠ upper

end ClassChecker

/-! ### The client of an engine -/

/-- **`EngineClient`**, without the condition for its use. -/
structure EngineClient where
  /-- `magic_name`. -/
  magicName : String
  /-- `subscribe_id`. -/
  subscribeId : UnitID
  /-- `engine_id`. -/
  engineId : ℕ
  /-- `input_width`. -/
  inputWidth : ℤ
  /-- `input_height`. -/
  inputHeight : ℤ
  /-- `task_type`. -/
  taskType : ModelMajorType
  /-- `optimize_type`. -/
  optimizeType : ModelOptimizeType
  /-- The `meta_data` and the `requirements` of `request_meta`. -/
  requestMeta : Option (EngineStreamMetaData × InferRequestRequirements)
  /-- `target_class_ids`. -/
  targetClassIds : List (String × InferClassID)

/-- `INFER_CLASS_ID_NOT_SET`. -/
def inferClassIdNotSet : InferClassID := -1

/-- `UNIT_ID_NOT_SET`. -/
def unitIdNotSet : UnitID := -1

/-- `ENGINE_SUBSCRIBE_MAJOR_IDENTIFIER_JUMP_OFFSET`. -/
def engineSubscribeMajorIdentifierJumpOffset : ℤ := 10000 * 10000

/-- `ENGINE_SUBSCRIBE_MAGIC_IDENTIFIER_JUMP_OFFSET`. -/
def engineSubscribeMagicIdentifierJumpOffset : ℤ := 10000 * 1

/-- `MAJOR_DETECTION`. -/
def majorDetection : ℤ := 0

/-- `ENGINE_MAGIC_TYPE_DETECTION`. -/
def engineMagicTypeDetection : ℤ := 0

/-- **`GetInferenceRequesterID`**, with a magic code. -/
def getInferenceRequesterID (baseId : UnitID) (major : ModelMajorType) (magic : ℤ) : UnitID :=
  match major with
  | .detection =>
    let ret := toInt32 (baseId + engineSubscribeMajorIdentifierJumpOffset * majorDetection)
    if magic = engineMagicTypeDetection then
      toInt32 (ret + engineSubscribeMagicIdentifierJumpOffset * engineMagicTypeDetection)
    else ret
  | .none => baseId

/-- The loop over the numbers of the classes, with those that are left and the next one. -/
def findClass (check : ℤ → Bool) : ℕ → ℕ → Option InferClassID
  | 0, _ => none
  | left + 1, i =>
    if check (toInt32 i) then some (toInt32 i) else findClass check left (i + 1)

/-- `total_classes`, a `size_t`. -/
def ClassChecker.totalClasses (c : ClassChecker) : ℕ := (c.classNum % 2 ^ 64).toNat

/-- The loop over `target_class_names`. -/
def findTargets (c : ClassChecker) (targetClassNames : List String)
    (ids : List (String × InferClassID)) : List (String × InferClassID) :=
  targetClassNames.foldl (fun ids name =>
    match findClass (fun id => c.classEqualChecker id (toUpperCase name)) c.totalClasses 0 with
    | some id => assign (toUpperCase name) id ids
    | none => ids) ids

namespace EngineClient

/-- A client before `Init`. -/
def new : EngineClient := ⟨"", unitIdNotSet, inferEngineIdNotSet, 0, 0, .detection, .none, none, []⟩

/-- **`Init`**, with the profiles of the balancer unless there is none. -/
def init (S : StdSort comesFirst) (classes : String → SettingsFile) (client : EngineClient)
    (myUnitId : UnitID) (lb : Option EngineProfileMap) (targetMagicName : String) (magicCode : ℤ)
    (targetClassNames : List String) : EngineClient × Bool :=
  match lb with
  | none => (client, false)
  | some profiles =>
    let id := getAvailableInferEngineID S profiles (.magicType targetMagicName)
    if id = inferEngineIdNotSet then ({ client with engineId := id }, false)
    else
      match profiles.lookup id with
      | none => ({ client with engineId := id }, false)
      | some profile =>
        let w := toInt32 profile.inputImageW
        let h := toInt32 profile.inputImageH
        let subscribeId := getInferenceRequesterID myUnitId profile.modelMajorType magicCode
        ({ magicName := targetMagicName
           subscribeId
           engineId := id
           inputWidth := w
           inputHeight := h
           taskType := profile.modelMajorType
           optimizeType := profile.optType
           requestMeta := some
             (⟨subscribeId, id, (w % 2 ^ 64).toNat, (h % 2 ^ 64).toNat, 0⟩,
              createRequirementsFromSingle (.engineId id))
           targetClassIds :=
             findTargets (ClassChecker.initializeFrom (classes profile.classesYmlPath)).1
               targetClassNames client.targetClassIds }, true)

/-- `GetClassID`. -/
def getClassID (client : EngineClient) (className : String) : InferClassID :=
  (client.targetClassIds.lookup (toUpperCase className)).getD inferClassIdNotSet

end EngineClient

/-- `MAGIC_DETECTION_ENGINE_NAME`. -/
def magicDetectionEngineName : String := "DetectionEngine"

/-- What `InferenceThreadRunner` sets up at its beginning. -/
structure UnitEngines where
  /-- `detection_engines`. -/
  detectionEngines : List EngineClient
  /-- `class_id_person`. -/
  classIdPerson : InferClassID
  /-- `class_id_car`. -/
  classIdCar : InferClassID

/-- `IsLoadable`. -/
def isLoadable (S : StdSort comesFirst) (lb : Option EngineProfileMap) (name : String) : Bool :=
  match lb with
  | none => false
  | some profiles => getAvailableInferEngineID S profiles (.magicType name) ≠ inferEngineIdNotSet

/-- **The beginning of `InferenceThreadRunner`**. -/
def setUpEngine (S : StdSort comesFirst) (classes : String → SettingsFile) (id : UnitID)
    (lb : Option EngineProfileMap) : UnitEngines :=
  if isLoadable S lb magicDetectionEngineName then
    let (client, success) := EngineClient.init S classes .new id lb magicDetectionEngineName
      engineMagicTypeDetection ["Person", "Car"]
    if success then ⟨[client], client.getClassID "Person", client.getClassID "Car"⟩
    else ⟨[], inferClassIdNotSet, inferClassIdNotSet⟩
  else ⟨[], inferClassIdNotSet, inferClassIdNotSet⟩

/-- `target_found`, in `ResponseThreadRunner`. -/
def targetFound (targetClassIds : List (String × InferClassID)) (classId : InferClassID) : Bool :=
  targetClassIds.any fun target => target.2 = classId

/-- `need_tracking`. -/
def needTracking (u : UnitEngines) (classId : InferClassID) : Bool :=
  classId = u.classIdPerson || classId = u.classIdCar

/-- `event_class_checker`. -/
def eventClassChecker (u : UnitEngines) (id : InferClassID) (tag : String) : Bool :=
  if toUpperCase tag = "PERSON" ∧ inferClassIdNotSet ≠ u.classIdPerson then id = u.classIdPerson
  else if toUpperCase tag = "CAR" ∧ inferClassIdNotSet ≠ u.classIdCar then id = u.classIdCar
  else false

/-! ### What the file says -/

namespace ClassChecker

variable {c : ClassChecker}

theorem nameEntry_eq_some {entry : String × Json} {id : ℤ} {name : String} :
    nameEntry entry = some (id, name) ↔ stoi entry.1 = some id ∧ entry.2 = .str name := by
  obtain ⟨key, value⟩ := entry
  rw [nameEntry]
  rcases hid : stoi key with _ | id'
  · simp
  · rcases value with _ | b | n | x | s | xs | kvs <;>
      simp [Json.getString]

theorem nameToId_addName (id : ℤ) (name : String) :
    (c.addName id name).nameToId (toUpperCase name) = some id :=
  Function.update_self ..

theorem nameToId_addName_of_ne {id : ℤ} {name upper : String} (h : upper ≠ toUpperCase name) :
    (c.addName id name).nameToId upper = c.nameToId upper :=
  Function.update_of_ne h ..

/-- The number of a class is that of the last entry with its name, and the one before if there is no
entry. -/
theorem nameToId_readNames {names : List (String × Json)} (h : (readNames names c).2 = true)
    {upper : String} {id : ℤ} : (readNames names c).1.nameToId upper = some id ↔
      IdOfClass names upper id ∨ c.nameToId upper = some id ∧
        ∀ entry ∈ names, ∀ s, entry.2 = .str s → toUpperCase s ≠ upper := by
  induction names generalizing c with
  | nil =>
    rw [readNames]
    refine ⟨fun hid => Or.inr ⟨hid, nofun⟩, fun hor => ?_⟩
    rcases hor with ⟨before, key, name, after, hnil, -⟩ | ⟨hid, -⟩
    · exact absurd hnil (by simp)
    · exact hid
  | cons entry names ih =>
    rw [readNames] at h ⊢
    rcases hentry : nameEntry entry with _ | ⟨id', name⟩
    · rw [hentry] at h
      cases h
    obtain ⟨key, value⟩ := entry
    obtain ⟨hkey, rfl⟩ := nameEntry_eq_some.mp hentry
    simp only [hentry] at h ⊢
    rw [ih h]
    constructor
    · rintro (⟨before, key', name', after, rfl, hid⟩ | ⟨hid, hno⟩)
      · exact Or.inl ⟨(key, .str name) :: before, key', name', after, rfl, hid⟩
      · by_cases hupper : upper = toUpperCase name
        · subst hupper
          rw [nameToId_addName] at hid
          exact Or.inl ⟨[], key, name, names, rfl, hkey.trans hid, rfl, hno⟩
        · rw [nameToId_addName_of_ne hupper] at hid
          refine Or.inr ⟨hid, List.forall_mem_cons.mpr ⟨fun s hs => ?_, hno⟩⟩
          exact Json.str.inj hs ▸ Ne.symm hupper
    · rintro (⟨before, key', name', after, hnames, hid, hupper, hno⟩ | ⟨hid, hno⟩)
      · rcases List.cons_eq_append_iff.mp hnames with ⟨rfl, heq⟩ | ⟨before', rfl, hrest⟩
        · obtain ⟨hentry', rfl⟩ := List.cons.inj heq
          obtain ⟨rfl, hvalue⟩ := Prod.mk.inj hentry'
          obtain rfl := Json.str.inj hvalue
          refine Or.inr ⟨?_, hno⟩
          rw [← hupper, nameToId_addName, ← hkey, hid]
        · exact Or.inl ⟨before', key', name', after, hrest, hid, hupper, hno⟩
      · obtain ⟨hne, hno⟩ := List.forall_mem_cons.mp hno
        refine Or.inr ⟨?_, hno⟩
        rw [nameToId_addName_of_ne (Ne.symm (hne name rfl)), hid]

theorem classNum_readNames (names : List (String × Json)) (c : ClassChecker) :
    (readNames names c).1.classNum = c.classNum := by
  induction names generalizing c with
  | nil => rfl
  | cons entry names ih =>
    rw [readNames]
    rcases nameEntry entry with _ | ⟨id, name⟩
    · rfl
    · exact ih (c.addName id name)

theorem exists_of_initializeClasses {root : Json} (h : (initializeClasses root c).2 = true) :
    ∃ num n names, root.member? "num_class" = some num ∧ num.getInt = .ok n ∧
      root.member? "names" = some (.obj names) ∧
      initializeClasses root c = readNames names { c with classNum := n } := by
  rw [initializeClasses] at h ⊢
  rcases hnum : root.member? "num_class" with _ | num
  · rw [hnum] at h
    cases h
  rcases hn : num.getInt with e | n
  · simp only [hnum, hn] at h
    cases h
  simp only [hnum, hn] at h ⊢
  rcases hnames : root.member? "names" with _ | names
  · rw [hnames] at h
    cases h
  rcases names with _ | _ | _ | _ | _ | _ | names
  case some.obj => exact ⟨num, n, names, rfl, hn, rfl, rfl⟩
  all_goals
    rw [hnames] at h
    cases h

/-- A class that is named twice. -/
def sampleClasses : SettingsFile :=
  .text "\x7b\"classify_activate\": true, \"num_class\": 3, \"names\": \x7b\"0\": \"person\",
    \"1\": \"car\", \"2\": \"Person\"\x7d\x7d"

/-- The numbers are those of an `int`. -/
structure Bounded (c : ClassChecker) : Prop where
  /-- The number of classes. -/
  classNum : -2 ^ 31 ≤ c.classNum ∧ c.classNum < 2 ^ 31
  /-- The numbers of the classes. -/
  nameToId : ∀ upper id, c.nameToId upper = some id → -2 ^ 31 ≤ id ∧ id < 2 ^ 31

theorem Bounded.readNames (h : c.Bounded) (names : List (String × Json)) :
    (readNames names c).1.Bounded := by
  induction names generalizing c with
  | nil => exact h
  | cons entry names ih =>
    rw [ClassChecker.readNames]
    rcases hentry : nameEntry entry with _ | ⟨id, name⟩
    · exact h
    · refine ih ⟨h.classNum, fun upper id' hid' => ?_⟩
      by_cases hupper : upper = toUpperCase name
      · rw [hupper, nameToId_addName] at hid'
        obtain rfl := Option.some.inj hid'
        exact stoi_range (nameEntry_eq_some.mp hentry).1
      · rw [nameToId_addName_of_ne hupper] at hid'
        exact h.nameToId upper id' hid'

theorem bounded_initializeFrom (file : SettingsFile) : (initializeFrom file).1.Bounded := by
  have hzero : -2 ^ 31 ≤ (0 : ℤ) ∧ (0 : ℤ) < 2 ^ 31 := by decide
  have hnew : ∀ b, Bounded { new with classifyActivate := b } := fun _ => ⟨hzero, nofun⟩
  rw [initializeFrom]
  rcases file.load with _ | root
  · exact hnew false
  dsimp only
  rcases root.member? "classify_activate" with _ | activate
  · exact hnew false
  dsimp only
  rcases activate.getBool with e | activate
  · exact hnew false
  rcases activate
  · exact hnew false
  dsimp only
  rw [initializeClasses]
  rcases root.member? "num_class" with _ | num
  · exact hnew true
  dsimp only
  rcases hn : num.getInt with e | n
  · exact hnew true
  have hnum : Bounded { new with classifyActivate := true, classNum := n } :=
    ⟨Json.getInt_range hn, nofun⟩
  dsimp only
  rcases root.member? "names" with _ | names
  · exact hnum
  rcases names with _ | _ | _ | _ | _ | _ | names
  case some.obj => exact hnum.readNames names
  all_goals exact hnum

end ClassChecker

/-! ### The targets -/

/-- The loop over the numbers of the classes gets to the number. A negative number of classes is a
huge `size_t`, and all numbers are got to. -/
def Counted (n id : ℤ) : Prop := 0 ≤ id ∧ id < n ∨ n < 0

instance (n id : ℤ) : Decidable (Counted n id) := inferInstanceAs (Decidable (_ ∨ _))

theorem toUpper_toUpper (c : Char) : c.toUpper.toUpper = c.toUpper := by
  by_cases h : 'a'.val ≤ c.val ∧ c.val ≤ 'z'.val
  · have hascii : ∀ n < 128, (Char.ofNat n).toUpper.toUpper = (Char.ofNat n).toUpper := by decide
    have hn : c.toNat < 128 := lt_of_le_of_lt (UInt32.le_iff_toNat_le.mp h.2) (by decide)
    have heq := hascii c.toNat hn
    rwa [Char.ofNat_toNat] at heq
  · have hsame : c.toUpper = c := dif_neg h
    rw [hsame, hsame]

theorem toUpperCase_toUpperCase (s : String) : toUpperCase (toUpperCase s) = toUpperCase s := by
  rw [toUpperCase, toUpperCase, String.toList_ofList, List.map_map]
  exact congrArg String.ofList (List.map_congr_left fun c _ => toUpper_toUpper c)

theorem findClass_eq_find? (check : ℤ → Bool) (left i : ℕ) :
    findClass check left i = ((List.range' i left).map fun j : ℕ => toInt32 j).find? check := by
  induction left generalizing i with
  | zero => rfl
  | succ left ih =>
    rw [findClass, List.range'_succ, List.map_cons, List.find?_cons]
    split_ifs with h
    · rw [h]
    · rw [Bool.not_eq_true] at h
      rw [h]
      exact ih (i + 1)

theorem toInt32_of_mem {z : ℤ} (h : -2 ^ 31 ≤ z) (h' : z < 2 ^ 31) : toInt32 z = z :=
  Int.bmod_eq_of_le (by omega) (by omega)

theorem exists_lt_totalClasses {c : ClassChecker} (h : c.Bounded) {id : ℤ}
    (hid : -2 ^ 31 ≤ id ∧ id < 2 ^ 31) :
    (∃ j < c.totalClasses, toInt32 (j : ℕ) = id) ↔ Counted c.classNum id := by
  have hn := h.classNum
  rw [Counted, ClassChecker.totalClasses]
  constructor
  · rintro ⟨j, hj, rfl⟩
    by_cases hneg : c.classNum < 0
    · exact Or.inr hneg
    · rw [toInt32_of_mem (by omega) (by omega)]
      omega
  · rintro (hlt | hneg)
    · exact ⟨id.toNat, by omega, by rw [toInt32_of_mem (by omega) (by omega)]; omega⟩
    · refine ⟨(id % 2 ^ 32).toNat, by omega, ?_⟩
      rw [Int.toNat_of_nonneg (by omega)]
      exact (Int.emod_bmod id (2 ^ 32)).trans (toInt32_of_mem hid.1 hid.2)

theorem find?_eq_self (id : ℤ) (l : List ℤ) :
    (l.find? fun j => id = j) = if id ∈ l then some id else none := by
  rcases hfind : l.find? fun j => id = j with _ | j
  · rw [List.find?_eq_none] at hfind
    rw [if_neg fun hmem => hfind id hmem (decide_eq_true rfl)]
  · obtain rfl : id = j := by simpa using List.find?_some hfind
    rw [if_pos (List.mem_of_find?_eq_some hfind)]

/-- The number of a class, if the loop gets to it. -/
def ClassChecker.countedId (c : ClassChecker) (upper : String) : Option InferClassID :=
  (c.nameToId upper).filter fun id => Counted c.classNum id

theorem countedId_eq_some {c : ClassChecker} {upper : String} {id : InferClassID} :
    c.countedId upper = some id ↔ c.nameToId upper = some id ∧ Counted c.classNum id := by
  rw [ClassChecker.countedId, Option.filter_eq_some_iff, decide_eq_true_eq]

/-- **What the inner loop finds.** -/
theorem findClass_classEqualChecker {c : ClassChecker} (h : c.Bounded) (tag : String) :
    findClass (fun id => c.classEqualChecker id tag) c.totalClasses 0 =
      c.countedId (toUpperCase tag) := by
  rw [findClass_eq_find?, ClassChecker.countedId]
  rcases hid : c.nameToId (toUpperCase tag) with _ | id
  · rw [Option.filter_none, List.find?_eq_none]
    intro j _
    simp [ClassChecker.classEqualChecker, hid]
  · have hcheck : (fun j => c.classEqualChecker j tag) = fun j => decide (id = j) := by
      funext j
      simp [ClassChecker.classEqualChecker, hid]
    have hmem : id ∈ (List.range' 0 c.totalClasses).map (fun j : ℕ => toInt32 j) ↔
        Counted c.classNum id := by
      rw [← exists_lt_totalClasses h (h.nameToId _ _ hid)]
      simp [List.mem_range'_1]
    rw [hcheck, find?_eq_self, Option.filter_some]
    simp only [hmem, decide_eq_true_eq]

/-- The loop over the targets keeps the order of the map. -/
theorem sortedKeys_findTargets (c : ClassChecker) (names : List String)
    {ids : List (String × InferClassID)} (h : SortedKeys ids) :
    SortedKeys (findTargets c names ids) := by
  induction names generalizing ids with
  | nil => exact h
  | cons name names ih =>
    rw [findTargets, List.foldl_cons]
    refine ih ?_
    split
    · exact h.assign
    · exact h

/-- **What the loop over the targets finds.** -/
theorem lookup_findTargets {c : ClassChecker} (h : c.Bounded) (names : List String)
    (ids : List (String × InferClassID)) (upper : String) :
    (findTargets c names ids).lookup upper =
      if upper ∈ names.map toUpperCase then (c.countedId upper).or (ids.lookup upper)
      else ids.lookup upper := by
  induction names generalizing ids with
  | nil => rfl
  | cons name names ih =>
    rw [findTargets, List.foldl_cons, ← findTargets, ih, findClass_classEqualChecker h,
      toUpperCase_toUpperCase]
    simp only [List.map_cons, List.mem_cons]
    rcases hid : c.countedId (toUpperCase name) with _ | id
    · by_cases heq : upper = toUpperCase name
      · subst heq
        simp [hid]
      · simp [heq]
    · simp only [lookup_assign]
      by_cases heq : upper = toUpperCase name
      · subst heq
        simp [hid]
      · simp [heq]

/-! ### What the unit looks for -/

namespace EngineClient

variable {S : StdSort comesFirst} {classes : String → SettingsFile} {id : UnitID}
  {lb : Option EngineProfileMap} {client client' : EngineClient} {name : String} {magicCode : ℤ}
  {targets : List String}

/-- **What `Init` has found.** -/
theorem exists_of_init (h : init S classes client id lb name magicCode targets = (client', true)) :
    ∃ profiles profile, lb = some profiles ∧
      client'.engineId = getAvailableInferEngineID S profiles (.magicType name) ∧
      client'.engineId ≠ inferEngineIdNotSet ∧
      profiles.lookup client'.engineId = some profile ∧
      client'.targetClassIds =
        findTargets (ClassChecker.initializeFrom (classes profile.classesYmlPath)).1 targets
          client.targetClassIds := by
  unfold init at h
  rcases lb with _ | profiles
  · cases h
  dsimp only at h
  split at h
  · cases h
  · next hset =>
    rcases hprofile : profiles.lookup
      (getAvailableInferEngineID S profiles (.magicType name)) with _ | profile
    · rw [hprofile] at h
      cases h
    · rw [hprofile] at h
      cases h
      exact ⟨profiles, profile, rfl, rfl, hset, hprofile, rfl⟩

end EngineClient

theorem getClassID_of_lookup {client : EngineClient} {className : String}
    {number : Option InferClassID}
    (h : client.targetClassIds.lookup (toUpperCase className) = number) (classId : InferClassID) :
    classId = client.getClassID className ∧ inferClassIdNotSet ≠ client.getClassID className ↔
      number = some classId ∧ classId ≠ inferClassIdNotSet := by
  rw [EngineClient.getClassID, h]
  rcases number with _ | number
  · simp
  · rw [Option.getD_some, Option.some.injEq]
    constructor
    · rintro ⟨rfl, hset⟩
      exact ⟨rfl, hset.symm⟩
    · rintro ⟨rfl, hset⟩
      exact ⟨rfl, hset.symm⟩

theorem eventClassChecker_eq_true {u : UnitEngines} {id : InferClassID} {tag : String} :
    eventClassChecker u id tag = true ↔
      toUpperCase tag = "PERSON" ∧ id = u.classIdPerson ∧ inferClassIdNotSet ≠ u.classIdPerson ∨
      toUpperCase tag = "CAR" ∧ id = u.classIdCar ∧ inferClassIdNotSet ≠ u.classIdCar := by
  have hdiffer : "PERSON" ≠ "CAR" := by decide
  rw [eventClassChecker]
  split_ifs with hperson hcar
  · rw [decide_eq_true_eq]
    constructor
    · exact fun hid => Or.inl ⟨hperson.1, hid, hperson.2⟩
    · rintro (h | h)
      · exact h.2.1
      · exact absurd (hperson.1.symm.trans h.1) hdiffer
  · rw [decide_eq_true_eq]
    constructor
    · exact fun hid => Or.inr ⟨hcar.1, hid, hcar.2⟩
    · rintro (h | h)
      · exact absurd ⟨h.1, h.2.2⟩ hperson
      · exact h.2.1
  · refine ⟨nofun, ?_⟩
    rintro (h | h)
    · exact absurd ⟨h.1, h.2.2⟩ hperson
    · exact absurd ⟨h.1, h.2.2⟩ hcar

end DetectBase
