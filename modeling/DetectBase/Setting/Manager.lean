import DetectBase.Setting.Setter
import DetectBase.Structure.Types
import Mathlib.Logic.Function.Basic

/-!
# The setting manager

`SettingManagerBase<T>` keeps one setter for each unit, behind shared pointers: a thread that has
looked a setter up goes on working on it after the map has changed. The model therefore has a
heap of setters, and the map holds addresses.

The definitions of the first two sections are what single critical sections do, so that the same
ones serve a thread that is alone (here) and threads that interleave
(`DetectBase.Setting.Concurrent`):

* the map mutex: `DetectBase.SettingManagerBase.findOrCreate`, lookups, the swap of a reset;
* the steps of `RenewAfterReset` on one unit: `prepareUnit`, `restoreUnit`, `attachUnit`.

`DetectBase.SettingManagerBase.updateTargetUnit` and
`DetectBase.SettingManagerBase.renewAfterReset` put them together for a thread that is alone. A hash
map is walked in an order that is not specified; the order is a parameter of the latter.

The invariant that everything else rests on is that distinct units have distinct setters
(`DetectBase.SettingManagerBase.WF`); every operation keeps it, and under it what is done to the
setter of one unit does not show at another.
-/

namespace DetectBase

/-- `MISSING_UNIT_ID`. -/
def missingUnitId : UnitID := -99

/-- An order in which the keys of a hash map may be walked. -/
structure HashOrder (γ : Type) where
  /-- The keys in that order. -/
  walk : UnitMap γ → List UnitID
  /-- Every key comes exactly once. -/
  perm : ∀ m : UnitMap γ, (walk m).Perm m.keys

/-- `SettingManagerBase<T>`, with the setters it has made. -/
structure SettingManagerBase (β : Type) where
  /-- `unit_key_name_`. -/
  unitKeyName : String
  /-- `need_setter_data_lock_`. -/
  needSetterDataLock : Bool
  /-- The setters, by address. -/
  heap : ℕ → SetterBase β
  /-- The first address that is not in use. -/
  next : ℕ
  /-- `settings_`. -/
  settings : UnitMap ℕ

namespace SettingManagerBase

variable {β : Type}

/-- A critical section of the setter at an address. -/
@[simps]
def modifySetter (m : SettingManagerBase β) (p : ℕ) (f : SetterBase β → SetterBase β) :
    SettingManagerBase β :=
  { m with heap := Function.update m.heap p (f (m.heap p)) }

/-- A setter put at the next free address. -/
@[simps]
def allocate (m : SettingManagerBase β) (x : SetterBase β) : SettingManagerBase β :=
  { m with heap := Function.update m.heap m.next x, next := m.next + 1 }

/-- `GetSetting`. -/
def getSetting (m : SettingManagerBase β) (u : UnitID) : Option (ISettingData β) :=
  (m.settings.lookup u).bind fun p => (m.heap p).getSetting

/-- The callbacks registered for a unit. -/
def callbacksOf (m : SettingManagerBase β) (u : UnitID) : List Uuid :=
  (m.settings.lookup u).elim [] fun p => (m.heap p).callbacks

/-- `RemoveTargetUnit`. -/
def removeTargetUnit (m : SettingManagerBase β) (u : UnitID) : SettingManagerBase β :=
  if u = missingUnitId then m else { m with settings := m.settings.erase u }

/-- `GetUnitID`. A key whose value is not a number throws. -/
def getUnitID (key : String) (j : Json) : Except Json.Exception UnitID :=
  if key.isEmpty then .ok missingUnitId
  else if j.contains key then j.value Json.getInt key missingUnitId
  else .ok missingUnitId

section Create

variable [SettingData β]

/-- An empty manager. -/
def new (unitKeyName : String) (needSetterDataLock : Bool) : SettingManagerBase β :=
  ⟨unitKeyName, needSetterDataLock, fun _ => SetterBase.new needSetterDataLock, 0, ∅⟩

/-- The lookup that starts `UpdateTargetUnit` and `RegisterCallback`: the setter of the unit,
made if there is none. -/
def findOrCreate (m : SettingManagerBase β) (u : UnitID) : ℕ × SettingManagerBase β :=
  match m.settings.lookup u with
  | some p => (p, m)
  | none =>
    (m.next, { m.allocate (SetterBase.new m.needSetterDataLock) with
      settings := m.settings.insert u m.next })

end Create

/-! ### The steps of a reset -/

/-- The entries of a reset, clustered by unit: those that are objects with the key of the manager
and name a unit. -/
def clusterByUnit (key : String) :
    List Json → UnitMap (List Json) → Except Json.Exception (UnitMap (List Json))
  | [], clusters => .ok clusters
  | obj :: objs, clusters =>
    if obj.contains key then do
      let u ← getUnitID key obj
      clusterByUnit key objs
        (if u = missingUnitId then clusters
          else clusters.insert u ((clusters.lookup u).getD [] ++ [obj]))
    else clusterByUnit key objs clusters

/-- The local variables of `RenewAfterReset`. -/
structure Renewal where
  /-- `map_for_swap`. -/
  mapForSwap : UnitMap ℕ
  /-- `stolen_callbacks_map`. -/
  stolen : UnitMap (List Uuid)

/-- No unit prepared yet. -/
def Renewal.empty : Renewal := ⟨∅, ∅⟩

/-- Phase 2 on one unit: the callbacks go back to the old setter. -/
def restoreUnit (m : SettingManagerBase β) (u : UnitID) (cs : List Uuid) :
    SettingManagerBase β :=
  match m.settings.lookup u with
  | some p => m.modifySetter p (SetterBase.setCallbacks cs)
  | none => m

/-- Phase 3 on one unit: the callbacks that were taken over go to the new setter, if there are
any. -/
def attachUnit (m : SettingManagerBase β) (p : ℕ) (stolen : Option (List Uuid)) :
    SettingManagerBase β :=
  match stolen with
  | some (c :: cs) => m.modifySetter p (SetterBase.setCallbacks (c :: cs))
  | _ => m

section Operations

variable [SettingData β]

/-- The setter that a reset makes for a unit: the outcome of its first update, and the setter.
It has no callbacks yet, so there is nobody to invoke. -/
def freshSetter (m : SettingManagerBase β) (objs : List Json) :
    Except Json.Exception Bool × SetterBase β :=
  (SetterBase.new m.needSetterDataLock).updateInternal (.arr objs)

/-- Phase 1 on one unit: a new setter, and the callbacks of the old one taken over. A unit whose
entries are refused is left out, and an exception leaves the loop. -/
def prepareUnit (m : SettingManagerBase β) (r : Renewal) (u : UnitID) (objs : List Json) :
    Except Json.Exception (SettingManagerBase β × Renewal) :=
  match m.freshSetter objs with
  | (.error e, _) => .error e
  -- logged and skipped by the source: the other units are still renewed
  | (.ok false, _) => .ok (m, r)
  | (.ok true, x) =>
    let swap := r.mapForSwap.insert u m.next
    match m.settings.lookup u with
    | some old =>
      -- `StealCallbacks`: the old setter is left without any
      .ok ((m.modifySetter old (SetterBase.setCallbacks [])).allocate x,
        ⟨swap, r.stolen.insert u (m.heap old).callbacks⟩)
    | none => .ok (m.allocate x, ⟨swap, r.stolen⟩)

/-- What a successful step of the preparation does. -/
theorem prepareUnit_ok {m m' : SettingManagerBase β} {r r' : Renewal} {u : UnitID}
    {objs : List Json} (h : m.prepareUnit r u objs = .ok (m', r')) :
    ((m.freshSetter objs).1 = .ok false ∧ m' = m ∧ r' = r) ∨
    ((m.freshSetter objs).1 = .ok true ∧ r'.mapForSwap = r.mapForSwap.insert u m.next ∧
      ((∃ old, m.settings.lookup u = some old ∧
        m' = (m.modifySetter old (SetterBase.setCallbacks [])).allocate (m.freshSetter objs).2 ∧
        r'.stolen = r.stolen.insert u (m.heap old).callbacks) ∨
      (m.settings.lookup u = none ∧ m' = m.allocate (m.freshSetter objs).2 ∧
        r'.stolen = r.stolen))) := by
  rw [prepareUnit] at h
  split at h
  · cases h
  · next heq =>
    cases h
    exact Or.inl ⟨by rw [heq], rfl, rfl⟩
  · next x heq =>
    refine Or.inr ⟨by rw [heq], ?_⟩
    rw [heq]
    split at h
    · next old hold =>
      cases h
      exact ⟨rfl, Or.inl ⟨old, hold, rfl, rfl⟩⟩
    · next hnone =>
      cases h
      exact ⟨rfl, Or.inr ⟨hnone, rfl, rfl⟩⟩

/-! ### A thread that is alone -/

/-- **`UpdateTargetUnit`**: the result, the manager afterwards, and the invocations. -/
def updateTargetUnit (m : SettingManagerBase β) (u : UnitID) (j : Json) :
    Except Json.Exception Bool × SettingManagerBase β × List (Uuid × ISettingData β) :=
  if u = missingUnitId then (.ok false, m, [])
  else
    let found := m.findOrCreate u
    let out := (found.2.heap found.1).update j
    (out.1, found.2.modifySetter found.1 fun _ => out.2.1, out.2.2)

/-- `RegisterCallback`, for the identifier that was generated. -/
def registerCallback (m : SettingManagerBase β) (u : UnitID) (c : Uuid) :
    SettingManagerBase β :=
  if u = missingUnitId then m
  else
    let found := m.findOrCreate u
    found.2.modifySetter found.1 (SetterBase.registerCallback c)

/-- Phase 1 over the units in the given order, up to the first exception. -/
def prepare (clusters : UnitMap (List Json)) :
    List UnitID → SettingManagerBase β → Renewal →
      Option Json.Exception × SettingManagerBase β × Renewal
  | [], m, r => (none, m, r)
  | u :: us, m, r =>
    match m.prepareUnit r u ((clusters.lookup u).getD []) with
    | .error e => (some e, m, r)
    | .ok (m, r) => prepare clusters us m r

/-- Phase 2. -/
def rollback (m : SettingManagerBase β) (stolen : UnitMap (List Uuid)) : SettingManagerBase β :=
  stolen.keys.foldl (fun m u => m.restoreUnit u ((stolen.lookup u).getD [])) m

/-- Phase 3. -/
def attach (m : SettingManagerBase β) (r : Renewal) : SettingManagerBase β :=
  r.mapForSwap.entries.foldl (fun m e => m.attachUnit e.2 (r.stolen.lookup e.1)) m

/-- Phase 5: the callbacks of every setter of the map that has a setting. -/
def trigger (m : SettingManagerBase β) : List (Uuid × ISettingData β) :=
  m.settings.entries.flatMap fun e =>
    if (m.heap e.2).isInitialized then (m.heap e.2).invocations else []

/-- **`RenewAfterReset`**: the result, the manager afterwards, and the invocations. -/
def renewAfterReset (order : HashOrder (List Json)) (m : SettingManagerBase β) :
    Json → Bool × SettingManagerBase β × List (Uuid × ISettingData β)
  | .arr objs =>
    match clusterByUnit m.unitKeyName objs ∅ with
    -- the preparation has not begun, and there is nothing to give back
    | .error _ => (false, m, [])
    | .ok clusters =>
      match prepare clusters (order.walk clusters) m .empty with
      | (some _, m, r) => (false, m.rollback r.stolen, [])
      | (none, m, r) =>
        -- the map is replaced as a whole: a unit that was not prepared is gone
        let m := { m.attach r with settings := r.mapForSwap }
        (true, m, m.trigger)
  | _ => (false, m, [])

end Operations

/-! ### The invariant of a manager -/

/-- Every unit has a setter of its own. -/
structure WF (m : SettingManagerBase β) : Prop where
  /-- The addresses of the map are in use. -/
  lt_next : ∀ {u : UnitID} {p : ℕ}, m.settings.lookup u = some p → p < m.next
  /-- No two units share a setter. -/
  injective : ∀ {u v : UnitID} {p : ℕ}, m.settings.lookup u = some p →
    m.settings.lookup v = some p → u = v

theorem WF.modifySetter {m : SettingManagerBase β} (h : m.WF) (p : ℕ)
    (f : SetterBase β → SetterBase β) : (m.modifySetter p f).WF :=
  ⟨h.lt_next, h.injective⟩

/-- Only the map and the addresses in use matter. -/
theorem WF.of_le {m m' : SettingManagerBase β} (h : m.WF) (hset : m'.settings = m.settings)
    (hnext : m.next ≤ m'.next) : m'.WF where
  lt_next hu := lt_of_lt_of_le (h.lt_next (hset ▸ hu)) hnext
  injective hu hv := h.injective (hset ▸ hu) (hset ▸ hv)

/-- A unit may be given the next free address. -/
theorem WF.insert_next {m m' : SettingManagerBase β} (h : m.WF) {u : UnitID}
    (hset : m'.settings = m.settings.insert u m.next) (hnext : m'.next = m.next + 1) :
    m'.WF := by
  have hcases : ∀ {v p}, m'.settings.lookup v = some p →
      (v = u ∧ p = m.next) ∨ (v ≠ u ∧ m.settings.lookup v = some p) := by
    intro v p hv
    rw [hset] at hv
    rcases eq_or_ne v u with rfl | hne
    · rw [AList.lookup_insert] at hv
      exact Or.inl ⟨rfl, (Option.some.inj hv).symm⟩
    · rw [AList.lookup_insert_ne hne] at hv
      exact Or.inr ⟨hne, hv⟩
  refine ⟨fun {v p} hv => ?_, fun {v w p} hv hw => ?_⟩
  · rcases hcases hv with ⟨-, rfl⟩ | ⟨-, hv⟩
    · omega
    · have := h.lt_next hv
      omega
  · rcases hcases hv with ⟨rfl, rfl⟩ | ⟨-, hv⟩
    · rcases hcases hw with ⟨rfl, -⟩ | ⟨-, hw⟩
      · rfl
      · exact absurd (h.lt_next hw) (lt_irrefl _)
    · rcases hcases hw with ⟨rfl, rfl⟩ | ⟨-, hw⟩
      · exact absurd (h.lt_next hv) (lt_irrefl _)
      · exact h.injective hv hw

theorem WF.removeTargetUnit {m : SettingManagerBase β} (h : m.WF) (u : UnitID) :
    (m.removeTargetUnit u).WF := by
  have hsub : ∀ {v : UnitID} {p : ℕ}, (m.settings.erase u).lookup v = some p →
      m.settings.lookup v = some p := by
    intro v p hv
    rcases eq_or_ne v u with rfl | hne
    · rw [AList.lookup_erase] at hv
      cases hv
    · rwa [AList.lookup_erase_ne hne] at hv
  rw [SettingManagerBase.removeTargetUnit]
  split_ifs
  · exact h
  · exact ⟨fun hv => h.lt_next (hsub hv), fun hv hw => h.injective (hsub hv) (hsub hw)⟩

/-- The settings and callbacks of every unit are the same. -/
def SameUnits (m m' : SettingManagerBase β) : Prop :=
  ∀ v, m'.getSetting v = m.getSetting v ∧ m'.callbacksOf v = m.callbacksOf v

/-- What is done to the setter of a unit does not show at another. -/
theorem units_modifySetter {m : SettingManagerBase β} (hwf : m.WF) {u v : UnitID} {p : ℕ}
    (hu : m.settings.lookup u = some p) (hne : v ≠ u) (f : SetterBase β → SetterBase β) :
    (m.modifySetter p f).getSetting v = m.getSetting v ∧
      (m.modifySetter p f).callbacksOf v = m.callbacksOf v := by
  simp only [getSetting, callbacksOf, modifySetter_settings]
  cases hv : m.settings.lookup v with
  | none => exact ⟨rfl, rfl⟩
  | some q =>
    have hq : q ≠ p := fun heq => hne (hwf.injective hv (heq ▸ hu))
    simp [Function.update_of_ne hq]

theorem units_modifySetter_self {m : SettingManagerBase β} {u : UnitID} {p : ℕ}
    (hu : m.settings.lookup u = some p) (f : SetterBase β → SetterBase β) :
    (m.modifySetter p f).getSetting u = (f (m.heap p)).getSetting ∧
      (m.modifySetter p f).callbacksOf u = (f (m.heap p)).callbacks := by
  simp [getSetting, callbacksOf, hu]

variable [SettingData β]

theorem WF.new (key : String) (lock : Bool) : (new key lock : SettingManagerBase β).WF :=
  ⟨nofun, nofun⟩

theorem WF.findOrCreate {m : SettingManagerBase β} (h : m.WF) (u : UnitID) :
    (m.findOrCreate u).2.WF := by
  rw [SettingManagerBase.findOrCreate]
  split
  · exact h
  · exact h.insert_next rfl rfl

theorem WF.updateTargetUnit {m : SettingManagerBase β} (h : m.WF) (u : UnitID) (j : Json) :
    (m.updateTargetUnit u j).2.1.WF := by
  rw [SettingManagerBase.updateTargetUnit]
  split_ifs
  · exact h
  · exact ⟨(h.findOrCreate u).lt_next, (h.findOrCreate u).injective⟩

theorem WF.registerCallback {m : SettingManagerBase β} (h : m.WF) (u : UnitID) (c : Uuid) :
    (m.registerCallback u c).WF := by
  rw [SettingManagerBase.registerCallback]
  split_ifs
  · exact h
  · exact (h.findOrCreate u).modifySetter _ _

/-- Making a setter for a unit that has none shows nowhere. -/
theorem sameUnits_findOrCreate {m : SettingManagerBase β} (hwf : m.WF) (u : UnitID) :
    SameUnits m (m.findOrCreate u).2 := by
  intro v
  rw [findOrCreate]
  cases hu : m.settings.lookup u with
  | some p => exact ⟨rfl, rfl⟩
  | none =>
    rcases eq_or_ne v u with rfl | hne
    · simp [getSetting, callbacksOf, hu, SetterBase.new, SetterBase.getSetting]
    · cases hv : m.settings.lookup v with
      | none => simp [getSetting, callbacksOf, AList.lookup_insert_ne hne, hv]
      | some p =>
        have hp : p ≠ m.next := (hwf.lt_next hv).ne
        simp [getSetting, callbacksOf, AList.lookup_insert_ne hne, hv, Function.update_of_ne hp]

/-- The first phase of an update changes no set of callbacks. -/
theorem callbacksOf_updateInternal {m : SettingManagerBase β} {u : UnitID} {p : ℕ} {j : Json}
    {r : Except Json.Exception Bool} {x : SetterBase β} (hu : m.settings.lookup u = some p)
    (hres : (m.heap p).updateInternal j = (r, x)) :
    (m.modifySetter p fun _ => x).callbacksOf u = m.callbacksOf u := by
  have hkept := SetterBase.callbacks_updateInternal (m.heap p) j
  rw [hres] at hkept
  rw [(units_modifySetter_self hu fun _ => x).2, callbacksOf, hu]
  exact hkept

theorem findOrCreate_of_lookup {m : SettingManagerBase β} {u : UnitID} {p : ℕ}
    (hu : m.settings.lookup u = some p) : m.findOrCreate u = (p, m) := by
  rw [findOrCreate, hu]

theorem lookup_findOrCreate (m : SettingManagerBase β) (u : UnitID) :
    (m.findOrCreate u).2.settings.lookup u = some (m.findOrCreate u).1 := by
  rw [findOrCreate]
  cases hu : m.settings.lookup u with
  | some p => exact hu
  | none => exact AList.lookup_insert _

end SettingManagerBase

/-- A manager in which every unit has a setter of its own. -/
abbrev ManagerState (β : Type) := { m : SettingManagerBase β // m.WF }

end DetectBase
