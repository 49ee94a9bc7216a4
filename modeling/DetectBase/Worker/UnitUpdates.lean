import DetectBase.Foundations.Reads
import DetectBase.Worker.EventBinder
import DetectBase.Worker.EventRequest

/-!
# Updates unit by unit

`SioEventBinder::Run` with the functions that `SocketIOEventBind` gives it: the request decides
which units are updated, and the answer to its lookup is one array for all of them, from which
`filterJsonArray` takes the elements of a unit before `UpdateTargetUnit` is called with them.

The units are meant to be independent of each other, and so they are as long as the unit key of
every object of the array is read as what it is. But it is read by `get<int>()`: an object whose key
is a string or null throws, and ends the updates of all units, whichever it is meant for; and one
whose key is a fraction, a boolean or a number of more than 32 bits counts for the unit that it is
cut down to. The elements of a unit that its setting cannot be read from end the updates as well.
`DetectBase.updatesUnits_iff` says when none of this happens.
-/

namespace DetectBase

open ApiHandler (bcGetInternal isKnownResponseCode)
open SettingManagerBase ReplacedByArray

/-! ### The elements of a unit -/

namespace Json

/-- The elements of an array. There are none in anything else. -/
def elements : Json → List Json
  | .arr xs => xs
  | _ => []

theorem byValue_float_eq_int {x : Double} {n : ℤ} (h : (Json.float x).byValue = .int n)
    (hrange : -2 ^ 31 ≤ n ∧ n < 2 ^ 31) : (Json.float x).getInt = .ok n := by
  have hvalue : (Json.float x).byValue = byValueLeaf (.float x) := rfl
  rw [hvalue] at h
  cases x with
  | infinite neg => cases h
  | finite x =>
    rw [byValueLeaf] at h
    split_ifs at h with hmod
    have hn := Json.int.inj h
    rw [getInt, truncTo, Int.tdiv_eq_ediv_of_dvd (Int.dvd_of_emod_eq_zero hmod), hn]
    exact congrArg Except.ok (by omega)

/-- A number that is an `int` is read as it is, however it is held. -/
theorem getInt_of_byValue {v : Json} {n : ℤ} (h : v.byValue = .int n)
    (hrange : -2 ^ 31 ≤ n ∧ n < 2 ^ 31) : v.getInt = .ok n := by
  cases v with
  | int m =>
    obtain rfl : m = n := Json.int.inj h
    rw [getInt, Int.bmod_eq_of_le (by omega) (by omega)]
  | float x => exact byValue_float_eq_int h hrange
  | arr xs =>
    rw [byValue, mapLeaves_arr] at h
    cases h
  | obj kvs =>
    rw [byValue, mapLeaves_obj] at h
    cases h
  | null | bool b | str s => cases h

end Json

/-- The object is one of the unit: its unit key is that integer. -/
def isOfUnit (key : String) (u : UnitID) (obj : Json) : Bool :=
  match obj.member? key with
  | some v => v.byValue = .int u
  | none => false

/-- The sub-array of a unit. -/
def unitElements (key : String) (target : Json) (u : UnitID) : List Json :=
  target.elements.filter (isOfUnit key u)

/-- The unit key of an object, if it has one, is read; and as the unit only if it is that integer.
-/
def Legible (key : String) (u : UnitID) (obj : Json) : Prop :=
  ∀ v ∈ obj.member? key, Reads v.getInt ∧ (v.getInt = .ok u → v.byValue = .int u)

/-- An object whose unit key is an `int` is legible for every unit. -/
theorem legible_of_int {key : String} {obj : Json} {n : ℤ}
    (hmember : obj.member? key = some (.int n)) (hrange : -2 ^ 31 ≤ n ∧ n < 2 ^ 31) (u : UnitID) :
    Legible key u obj := by
  intro v hv
  cases hmember.symm.trans hv
  have hread := Json.getInt_of_byValue (v := .int n) rfl hrange
  refine ⟨⟨n, hread⟩, fun h => ?_⟩
  cases hread.symm.trans h
  rfl

theorem filterJsonArray_elements (target : Json) (key : String) (u : UnitID) :
    filterJsonArray target key u = filterJsonArray (.arr target.elements) key u := by
  cases target with
  | arr objs => rfl
  | null | bool b | int n | float x | str s | obj kvs => rfl

/-- The unit that an object is taken for. -/
def isReadAs (key : String) (u : UnitID) (obj : Json) : Bool :=
  match obj.member? key with
  | some v => v.getInt.toOption = some u
  | none => false

/-- **What `filterJsonArray` keeps**, if it does not throw. -/
theorem filterJsonArray_arr {objs : List Json} {key : String} (u : UnitID)
    (h : ∀ obj ∈ objs, ∀ v ∈ obj.member? key, Reads v.getInt) :
    filterJsonArray (.arr objs) key u = .ok (objs.filter (isReadAs key u)) := by
  rw [filterJsonArray]
  refine filterM_eq_ok fun obj hobj => ?_
  have hread := h obj hobj
  rw [isReadAs]
  cases hmember : obj.member? key with
  | none => rfl
  | some v =>
    obtain ⟨n, hn⟩ := hread v hmember
    simp [hn, bind, Except.bind, pure, Except.pure, Except.toOption]

theorem reads_filterJsonArray_iff {objs : List Json} {key : String} (u : UnitID) :
    Reads (filterJsonArray (.arr objs) key u) ↔
      ∀ obj ∈ objs, ∀ v ∈ obj.member? key, Reads v.getInt := by
  rw [filterJsonArray, reads_filterM_iff]
  refine forall₂_congr fun obj _ => ?_
  cases obj.member? key with
  | none => simp
  | some v =>
    rw [reads_bind_iff (P := True) fun n => ⟨fun _ => trivial, fun _ => reads_pure _⟩, and_true]
    exact ⟨fun h w hw => Option.some.inj hw ▸ h, fun h => h v rfl⟩

/-- Filters keep the same if they say the same about every element. -/
theorem filter_eq_filter_iff {α : Type} {p q : α → Bool} {l : List α} :
    l.filter p = l.filter q ↔ ∀ a ∈ l, p a = q a := by
  refine ⟨fun h a ha => Bool.eq_iff_iff.mpr ?_, List.filter_congr⟩
  have hmem : a ∈ l.filter p ↔ a ∈ l.filter q := by rw [h]
  rwa [List.mem_filter, List.mem_filter, and_iff_right ha, and_iff_right ha] at hmem

/-- **The elements that a unit is given are its own** exactly when all objects are legible for it.
-/
theorem filterJsonArray_eq_ok_iff {target : Json} {key : String} {u : UnitID}
    (hrange : -2 ^ 31 ≤ u ∧ u < 2 ^ 31) :
    filterJsonArray target key u = .ok (unitElements key target u) ↔
      ∀ obj ∈ target.elements, Legible key u obj := by
  rw [filterJsonArray_elements, unitElements]
  have hsame : ∀ obj : Json, (∀ v ∈ obj.member? key, Reads v.getInt) →
      (isReadAs key u obj = isOfUnit key u obj ↔
        ∀ v ∈ obj.member? key, v.getInt = .ok u → v.byValue = .int u) := by
    intro obj hreads
    rw [isReadAs, isOfUnit]
    cases hmember : obj.member? key with
    | none => simp
    | some v =>
      obtain ⟨n, hn⟩ := hreads v hmember
      have hown : v.byValue = .int u → n = u := fun h =>
        Except.ok.inj (hn.symm.trans (Json.getInt_of_byValue h hrange))
      simp only [Option.mem_some_iff, forall_eq', hn, Except.toOption, Option.some.injEq,
        decide_eq_decide, Except.ok.injEq]
      exact ⟨fun h => h.mp, fun h => ⟨h, hown⟩⟩
  constructor
  · intro h obj hobj v hv
    have hreads := (reads_filterJsonArray_iff u).mp ⟨_, h⟩
    rw [filterJsonArray_arr u hreads, Except.ok.injEq, filter_eq_filter_iff] at h
    exact ⟨hreads obj hobj v hv, (hsame obj (hreads obj hobj)).mp (h obj hobj) v hv⟩
  · intro h
    have hreads : ∀ obj ∈ target.elements, ∀ v ∈ obj.member? key, Reads v.getInt :=
      fun obj hobj v hv => (h obj hobj v hv).1
    rw [filterJsonArray_arr u hreads, Except.ok.injEq, filter_eq_filter_iff]
    exact fun obj hobj => (hsame obj (hreads obj hobj)).mpr fun v hv => (h obj hobj v hv).2

/-! ### The units of a request -/

theorem stoi_range {s : String} {n : ℤ} (h : stoi s = some n) : -2 ^ 31 ≤ n ∧ n < 2 ^ 31 := by
  rw [stoi] at h
  dsimp only at h
  split at h
  · cases h
  · split_ifs at h with hrange
    exact Option.some.inj h ▸ hrange

namespace Json

theorem getInt_range {v : Json} {n : ℤ} (h : v.getInt = .ok n) : -2 ^ 31 ≤ n ∧ n < 2 ^ 31 := by
  cases v with
  | int m =>
    obtain rfl := Except.ok.inj h
    exact ⟨Int.le_bmod (by decide), Int.bmod_lt (by decide)⟩
  | float x =>
    obtain rfl := Except.ok.inj h
    cases x with
    | finite x =>
      rw [truncTo]
      omega
    | infinite neg => cases neg <;> exact ⟨by decide, by decide⟩
  | bool b =>
    obtain rfl := Except.ok.inj h
    cases b <;> exact ⟨by decide, by decide⟩
  | null | str s | arr xs | obj kvs => cases h

theorem readNumber_range {v : Json} {n : ℤ} (h : v.readNumber = some n) :
    -2 ^ 31 ≤ n ∧ n < 2 ^ 31 := by
  cases v with
  | str s => exact stoi_range h
  | int m =>
    obtain rfl := Option.some.inj h
    exact getInt_range (v := .int m) rfl
  | float x =>
    obtain rfl := Option.some.inj h
    exact getInt_range (v := .float x) rfl
  | null | bool b | arr xs | obj kvs => cases h

end Json

/-- A unit is an `int`. -/
theorem extractUnitFromJson_range {js : Json} {key : String} {u : UnitID}
    (h : u ∈ extractUnitFromJson js key) : -2 ^ 31 ≤ u ∧ u < 2 ^ 31 := by
  rw [extractUnitFromJson] at h
  split_ifs at h
  · cases h
  split at h
  · split_ifs at h
    · cases h
    obtain ⟨object, -, hu⟩ := List.mem_flatMap.mp h
    split at hu
    · obtain ⟨v, -, hv⟩ := List.mem_filterMap.mp hu
      exact Json.readNumber_range hv
    · cases hu
  · cases h

/-! ### The loop over the units -/

section Loop

variable {β : Type} [SettingData β]

/-- `DetectBase.updateUnits`, with the arguments of its calls of `UpdateTargetUnit`. -/
def tracedUpdates (key : String) (target : Json) :
    List UnitID → SettingManagerBase β → List (UnitID × Json) × Outcome Unit β
  | [], m => ([], .ok (), m, [])
  | u :: us, m =>
    match filterJsonArray target key u with
    | .error e => ([], .error e, m, [])
    | .ok objs =>
      match m.updateTargetUnit u (.arr objs) with
      | (.error e, m, calls) => ([(u, .arr objs)], .error e, m, calls)
      | (.ok _, m, calls) =>
        let rest := tracedUpdates key target us m
        ((u, .arr objs) :: rest.1, rest.2.1, rest.2.2.1, calls ++ rest.2.2.2)

variable {key : String} {target : Json}

/-- Without the arguments it is the loop. -/
theorem snd_tracedUpdates (us : List UnitID) :
    ∀ m : SettingManagerBase β,
      (tracedUpdates key target us m).2 = updateUnits key target us m := by
  induction us with
  | nil => exact fun m => rfl
  | cons u us ih =>
    intro m
    rw [tracedUpdates, updateUnits]
    cases filterJsonArray target key u with
    | error e => rfl
    | ok objs =>
      dsimp only
      obtain ⟨result, m', calls⟩ := m.updateTargetUnit u (.arr objs)
      cases result with
      | error e => rfl
      | ok updated =>
        dsimp only
        rw [← ih m']

variable [ReplacedByArray β]

/-- **A unit that is not among them keeps its setting**, wherever the loop ends. -/
theorem getSetting_tracedUpdates {v : UnitID} (us : List UnitID) (hv : v ∉ us) :
    ∀ {m : SettingManagerBase β}, m.WF →
      (tracedUpdates key target us m).2.2.1.getSetting v = m.getSetting v := by
  induction us with
  | nil => exact fun _ => rfl
  | cons u us ih =>
    obtain ⟨hne, hv⟩ := List.ne_and_not_mem_of_not_mem_cons hv
    intro m hwf
    rw [tracedUpdates]
    cases filterJsonArray target key u with
    | error e => rfl
    | ok objs =>
      dsimp only
      rcases updateTargetUnit_arr_cases hwf u objs with
        ⟨-, hout⟩ | ⟨-, e, m', -, hout, hsame⟩ | ⟨-, fields, m', -, hout, hwf', -, -, hold⟩
      · rw [hout]
        exact ih hv hwf
      · rw [hout]
        exact (hsame v).1
      · rw [hout]
        exact (ih hv hwf').trans (hold v hne)

/-- A unit can be updated: all objects are legible for it, and its setting can be read from its
elements. -/
structure Separable (β : Type) [SettingData β] [ReplacedByArray β] (key : String) (target : Json)
    (u : UnitID) : Prop where
  legible : ∀ obj ∈ target.elements, Legible key u obj
  loadable : u ≠ missingUnitId → Reads (read (unitElements key target u) : Except _ β)

/-- The setting that an update leaves the unit with. -/
def settingAfter (m : SettingManagerBase β) (u : UnitID) (objs : List Json) :
    Option (ISettingData β) :=
  if u = missingUnitId then m.getSetting u
  else (read objs).toOption.map fun fields => ⟨false, fields⟩

/-- An update whose elements can be read does not throw, and it is about its unit alone. -/
theorem updateTargetUnit_of_reads {m : SettingManagerBase β} (hwf : m.WF) {u : UnitID}
    {objs : List Json} (hread : u ≠ missingUnitId → Reads (read objs : Except _ β)) :
    ∃ updated m' calls, m.updateTargetUnit u (.arr objs) = (.ok updated, m', calls) ∧ m'.WF ∧
      m'.getSetting u = settingAfter m u objs ∧ ∀ v, v ≠ u → m'.getSetting v = m.getSetting v := by
  rcases updateTargetUnit_arr_cases hwf u objs with
    ⟨hu, hout⟩ | ⟨hu, e, m', herror, -, -⟩ | ⟨hu, fields, m', hfields, hout, hwf', hget, -, hold⟩
  · exact ⟨_, _, _, hout, hwf, by rw [settingAfter, if_pos hu], fun v _ => rfl⟩
  · rw [herror] at hread
    exact absurd (hread hu) (not_reads_error e)
  · refine ⟨_, _, _, hout, hwf', ?_, hold⟩
    rw [settingAfter, if_neg hu, hfields]
    exact hget

variable {us : List UnitID}

/-- **If all units can be updated**, the loop ends, each of them is given its own elements, and is
left with what an update with these alone would leave it with. -/
theorem tracedUpdates_of_separable (hrange : ∀ u ∈ us, -2 ^ 31 ≤ u ∧ u < 2 ^ 31)
    (h : ∀ u ∈ us, Separable β key target u) : ∀ {m : SettingManagerBase β}, m.WF →
      (tracedUpdates key target us m).2.1 = .ok () ∧
      (tracedUpdates key target us m).1 = us.map (fun u => (u, .arr (unitElements key target u))) ∧
      ∀ u ∈ us, (tracedUpdates key target us m).2.2.1.getSetting u =
        settingAfter m u (unitElements key target u) := by
  induction us with
  | nil => exact fun _ => ⟨rfl, rfl, nofun⟩
  | cons u us ih =>
    obtain ⟨hrange, hranges⟩ := List.forall_mem_cons.mp hrange
    obtain ⟨hu, hus⟩ := List.forall_mem_cons.mp h
    intro m hwf
    have hfilter := (filterJsonArray_eq_ok_iff hrange).mpr hu.legible
    obtain ⟨updated, m', calls, hout, hwf', hfirst, hold⟩ :=
      updateTargetUnit_of_reads hwf hu.loadable
    obtain ⟨hend, htrace, hget⟩ := ih hranges hus hwf'
    rw [tracedUpdates, hfilter]
    dsimp only
    rw [hout]
    refine ⟨hend, congrArg _ htrace, fun v hv => ?_⟩
    rcases eq_or_ne v u with rfl | hne
    · by_cases hmem : v ∈ us
      · -- the unit occurs again, with the same elements
        refine (hget v hmem).trans ?_
        rw [settingAfter, settingAfter, hfirst, settingAfter]
        split_ifs
        · rfl
        · rfl
      · exact (getSetting_tracedUpdates us hmem hwf').trans hfirst
    · refine (hget v ((List.mem_cons.mp hv).resolve_left hne)).trans ?_
      rw [settingAfter, settingAfter, hold v hne]

/-- **Only then** does the loop end with each unit given its own elements. -/
theorem separable_of_tracedUpdates (hrange : ∀ u ∈ us, -2 ^ 31 ≤ u ∧ u < 2 ^ 31) :
    ∀ {m : SettingManagerBase β}, m.WF → (tracedUpdates key target us m).2.1 = .ok () →
      (tracedUpdates key target us m).1 = us.map (fun u => (u, .arr (unitElements key target u))) →
        ∀ u ∈ us, Separable β key target u := by
  induction us with
  | nil => exact fun _ _ _ => nofun
  | cons u us ih =>
    obtain ⟨hrange, hranges⟩ := List.forall_mem_cons.mp hrange
    intro m hwf hend htrace
    rw [tracedUpdates] at hend htrace
    cases hfilter : filterJsonArray target key u with
    | error e =>
      rw [hfilter] at hend
      cases hend
    | ok objs =>
      rw [hfilter] at hend htrace
      dsimp only at hend htrace
      rcases updateTargetUnit_arr_cases hwf u objs with
        ⟨hu, hout⟩ | ⟨-, e, m', -, hout, -⟩ | ⟨-, fields, m', hread, hout, hwf', -, -, -⟩
      · rw [hout] at hend htrace
        obtain ⟨hfirst, hrest⟩ := List.cons.inj htrace
        obtain rfl := Json.arr.inj (Prod.mk.inj hfirst).2
        refine List.forall_mem_cons.mpr ⟨?_, ih hranges hwf hend hrest⟩
        exact ⟨(filterJsonArray_eq_ok_iff hrange).mp hfilter, fun hne => absurd hu hne⟩
      · rw [hout] at hend
        cases hend
      · rw [hout] at hend htrace
        obtain ⟨hfirst, hrest⟩ := List.cons.inj htrace
        obtain rfl := Json.arr.inj (Prod.mk.inj hfirst).2
        refine List.forall_mem_cons.mpr ⟨?_, ih hranges hwf' hend hrest⟩
        exact ⟨(filterJsonArray_eq_ok_iff hrange).mp hfilter, fun _ => ⟨fields, hread⟩⟩

end Loop

/-! ### The run of an event -/

/-- What the run of an event leaves behind, with the arguments of its calls of `UpdateTargetUnit`.
-/
structure EventOutcome (β : Type) where
  /-- How the run ended. -/
  result : Except RequestException Bool
  /-- The settings. -/
  manager : SettingManagerBase β
  /-- The units that were updated, and the arrays they were given. -/
  updates : List (UnitID × Json)
  /-- The callbacks that were called. -/
  calls : List (Uuid × ISettingData β)

/-- The binder of `ExceptionUpdate` and of `ScheduleUpdate`, for a request with an address. -/
def cameraEventBinder (url : String) : SioEventBinder where
  checker js := checkInterProcJsonValid js "camera_id"
  urlBuilder _ := url
  updateUnitsExtractor js := extractUnitFromJson js "camera_id"

section Run

variable {β : Type} [SettingData β]

/-- **`SioEventBinder::Run`** with the functions of `SocketIOEventBind`. An exception of
`GetAPICommandFromJson` leaves it, as one of the loop does. -/
def runCameraEvent (conn : String → Response) (m : SettingManagerBase β) (js : Json) :
    EventOutcome β :=
  match if checkInterProcJsonValid js "camera_id" then getAPICommandFromJson js "" else .ok "" with
  | .error e => ⟨.error e, m, [], []⟩
  | .ok url =>
    let b := cameraEventBinder url
    match bcGetInternal conn b.checker b.urlBuilder js with
    | none => ⟨.ok false, m, [], []⟩
    | some target =>
      let out := tracedUpdates m.unitKeyName target (b.updateUnitsExtractor js) m
      ⟨(out.2.1.map fun _ => true).mapError .json, out.2.2.1, out.1, out.2.2.2⟩

variable {conn : String → Response} {m : SettingManagerBase β} {js : Json} {url : String}

/-- It is the run of the binder. -/
theorem runCameraEvent_eq_run (hurl : getAPICommandFromJson js "" = .ok url) :
    let out := (cameraEventBinder url).run conn m js
    (runCameraEvent conn m js).result = out.1.mapError .json ∧
      (runCameraEvent conn m js).manager = out.2.1 ∧
        (runCameraEvent conn m js).calls = out.2.2 := by
  dsimp only
  rw [runCameraEvent, SioEventBinder.run]
  cases hvalid : checkInterProcJsonValid js "camera_id" with
  | false => simp [bcGetInternal, cameraEventBinder, hvalid, Except.mapError]
  | true =>
    rw [if_pos rfl, hurl]
    dsimp only
    cases bcGetInternal conn (cameraEventBinder url).checker
      (cameraEventBinder url).urlBuilder js with
    | none => exact ⟨rfl, rfl, rfl⟩
    | some target =>
      dsimp only
      rw [← snd_tracedUpdates]
      exact ⟨rfl, rfl, rfl⟩

/-- The lookup of the request is answered, and the answer is passed on. -/
def Answers (conn : String → Response) (js target : Json) : Prop :=
  ∃ url, getAPICommandFromJson js "" = .ok url ∧ (cameraEventBinder url).PassesOn conn js ∧
    getJsonFromRespBody (conn url).body = target

/-- **The settings are updated unit by unit**: there is no exception; each unit of the request is
updated, with its own elements of the answer, and is left with what an update with these alone
leaves it with; and the other units keep their settings. -/
structure UpdatesUnits (conn : String → Response) (m : SettingManagerBase β) (js : Json) :
    Prop where
  returns : ∃ updated, (runCameraEvent conn m js).result = .ok updated
  received : ∀ target, Answers conn js target → (runCameraEvent conn m js).updates =
    (extractUnitFromJson js "camera_id").map fun u =>
      (u, .arr (unitElements m.unitKeyName target u))
  independent : ∀ target, Answers conn js target → ∀ u ∈ extractUnitFromJson js "camera_id",
    (runCameraEvent conn m js).manager.getSetting u =
      (m.updateTargetUnit u (.arr (unitElements m.unitKeyName target u))).2.1.getSetting u
  kept : ∀ u, u ∉ extractUnitFromJson js "camera_id" →
    (runCameraEvent conn m js).manager.getSetting u = m.getSetting u

/-- The three ways an accepted request can go. -/
theorem runCameraEvent_cases (conn : String → Response) (m : SettingManagerBase β)
    (hvalid : checkInterProcJsonValid js "camera_id" = true) :
    (∃ e, getAPICommandFromJson js "" = .error e ∧
        runCameraEvent conn m js = ⟨.error e, m, [], []⟩) ∨
      ((∃ url, getAPICommandFromJson js "" = .ok url) ∧ (∀ target, ¬ Answers conn js target) ∧
        runCameraEvent conn m js = ⟨.ok false, m, [], []⟩) ∨
      ((∃ url, getAPICommandFromJson js "" = .ok url) ∧ ∃ target,
        (∀ target', Answers conn js target' ↔ target' = target) ∧
        let out := tracedUpdates m.unitKeyName target (extractUnitFromJson js "camera_id") m
        runCameraEvent conn m js =
          ⟨(out.2.1.map fun _ => true).mapError .json, out.2.2.1, out.1, out.2.2.2⟩) := by
  rw [runCameraEvent, if_pos hvalid]
  cases hurl : getAPICommandFromJson js "" with
  | error e => exact .inl ⟨e, rfl, rfl⟩
  | ok url =>
    dsimp only
    by_cases hpass : (cameraEventBinder url).PassesOn conn js
    · refine .inr (.inr ⟨⟨url, rfl⟩, getJsonFromRespBody (conn url).body, fun target' => ?_, ?_⟩)
      · constructor
        · rintro ⟨url', hurl', -, rfl⟩
          cases hurl.symm.trans hurl'
          rfl
        · rintro rfl
          exact ⟨url, hurl, hpass, rfl⟩
      · rw [bcGetInternal_of_passesOn hpass]
        rfl
    · refine .inr (.inl ⟨⟨url, rfl⟩, ?_, ?_⟩)
      · rintro target ⟨url', hurl', hpass', -⟩
        cases hurl.symm.trans hurl'
        exact hpass hpass'
      · rw [bcGetInternal_of_not_passesOn hpass]

/-- **When the settings are updated unit by unit.** For every accepted request and every answer to
its lookup: the request has an address, and the answer, if there is one, can be told apart for each
of the units. -/
theorem updatesUnits_iff [ReplacedByArray β] (js : Json) (conn : String → Response)
    (m : ManagerState β) (hvalid : checkInterProcJsonValid js "camera_id" = true) :
    UpdatesUnits conn m.1 js ↔ Addressable js ∧ ∀ target, Answers conn js target →
      ∀ u ∈ extractUnitFromJson js "camera_id", Separable β m.1.unitKeyName target u := by
  have hrange : ∀ u ∈ extractUnitFromJson js "camera_id", -2 ^ 31 ≤ u ∧ u < 2 ^ 31 :=
    fun u hu => extractUnitFromJson_range hu
  rw [← exists_getAPICommandFromJson_iff hvalid]
  rcases runCameraEvent_cases conn m.1 hvalid with
    ⟨e, herror, hrun⟩ | ⟨hurl, hnone, hrun⟩ | ⟨hurl, target, htarget, hrun⟩
  · refine iff_of_false (fun h => ?_) ?_
    · obtain ⟨updated, hreturns⟩ := h.returns
      rw [hrun] at hreturns
      cases hreturns
    · rintro ⟨⟨url, hurl⟩, -⟩
      cases herror.symm.trans hurl
  · refine iff_of_true ?_ ⟨hurl, fun target h => absurd h (hnone target)⟩
    exact {
      returns := ⟨false, by rw [hrun]⟩
      received := fun target h => absurd h (hnone target)
      independent := fun target h => absurd h (hnone target)
      kept := fun u _ => by rw [hrun] }
  · simp only [htarget, forall_eq, and_iff_right hurl]
    constructor
    · intro h
      obtain ⟨updated, hreturns⟩ := h.returns
      have hreceived := h.received target ((htarget target).mpr rfl)
      rw [hrun] at hreturns hreceived
      refine separable_of_tracedUpdates hrange m.2 ?_ hreceived
      dsimp only at hreturns
      cases hend : (tracedUpdates m.1.unitKeyName target
          (extractUnitFromJson js "camera_id") m.1).2.1 with
      | ok => rfl
      | error e =>
        rw [hend] at hreturns
        cases hreturns
    · intro h
      obtain ⟨hend, htrace, hget⟩ := tracedUpdates_of_separable hrange h m.2
      refine ⟨⟨true, ?_⟩, fun target' h' => ?_, fun target' h' u hu => ?_, fun u hu => ?_⟩
      · rw [hrun]
        dsimp only
        rw [hend]
        rfl
      · obtain rfl := (htarget target').mp h'
        rw [hrun]
        exact htrace
      · obtain rfl := (htarget target').mp h'
        obtain ⟨updated, m', calls, hout, -, hafter, -⟩ :=
          updateTargetUnit_of_reads m.2 (h u hu).loadable
        rw [hrun, hout]
        exact (hget u hu).trans hafter.symm
      · rw [hrun]
        exact getSetting_tracedUpdates _ hu m.2

end Run

/-- A service that answers everything with this text. -/
def answering (body : String) : String → Response := fun _ => ⟨200, body.toUTF8⟩

/-- Cameras 1 and 3. -/
def numberedCameras : String := "[\x7b\"CameraId\":1\x7d,\x7b\"CameraId\":3\x7d]"

/-- Camera 1, and one that has a name instead of a number. -/
def namedCamera : String := "[\x7b\"CameraId\":1\x7d,\x7b\"CameraId\":\"x\"\x7d]"

/-- An empty store of excluded cameras. -/
def noCameras : ManagerState ExcludeCam := ⟨.new "CameraId" true, WF.new "CameraId" true⟩

/-- Cameras 1 and 2 are updated, the first of them with an element. -/
theorem updatesUnits_numberedCameras :
    UpdatesUnits (answering numberedCameras) noCameras.1 (cameraRequest []) := by
  have htarget : getJsonFromRespBody numberedCameras.toUTF8 =
      .arr [.obj [("CameraId", .int 1)], .obj [("CameraId", .int 3)]] := by decide +kernel
  refine (updatesUnits_iff _ _ noCameras (by decide)).mpr
    ⟨⟨"schedule", _, ⟨rfl, rfl⟩, by decide⟩, ?_⟩
  rintro target ⟨url, -, -, rfl⟩ u -
  refine ⟨?_, fun _ => ⟨_, rfl⟩⟩
  rw [answering, htarget]
  exact List.forall_mem_cons.mpr ⟨legible_of_int rfl (by decide) u,
    List.forall_mem_singleton.mpr (legible_of_int rfl (by decide) u)⟩

/-- **An object whose unit key is a string ends the updates of all units.** -/
theorem not_updatesUnits : ¬ ∀ (js : Json) (conn : String → Response) (m : ManagerState ExcludeCam),
    checkInterProcJsonValid js "camera_id" = true →
      (∀ target, Answers conn js target → target.isArray = true) → UpdatesUnits conn m.1 js := by
  intro h
  have htarget : getJsonFromRespBody namedCamera.toUTF8 =
      .arr [.obj [("CameraId", .int 1)], .obj [("CameraId", .str "x")]] := by decide +kernel
  have hthrows : (runCameraEvent (answering namedCamera) noCameras.1
      (cameraRequest [])).result.isOk = false := by decide +kernel
  have hupdates := h (cameraRequest []) (answering namedCamera) noCameras (by decide) ?_
  · obtain ⟨updated, hreturns⟩ := hupdates.returns
    rw [hreturns] at hthrows
    cases hthrows
  · rintro target ⟨url, -, -, rfl⟩
    exact congrArg Json.isArray htarget

end DetectBase
