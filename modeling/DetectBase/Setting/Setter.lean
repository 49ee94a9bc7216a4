import DetectBase.Setting.Data

/-!
# Setters

`SetterBase<T>` holds one setting and the callbacks that want to hear of its changes. It has two
mutexes, one for the data and one for the callbacks, and each of the definitions below is what
one critical section does:

* `DetectBase.SetterBase.updateInternal` – the first phase of `Update`, under the data mutex;
* `DetectBase.SetterBase.registerCallback`, `unregisterCallback`, `stealCallbacks`,
  `setCallbacks` – under the callback mutex;
* `DetectBase.SetterBase.getSetting` – under the data mutex.

`DetectBase.SetterBase.update` is the call of `Update` by a thread that is alone. Callbacks are
identified by the `UUID` that registration returns; a null callback is refused by the source
and not modelled.
-/

namespace DetectBase

/-- The identifier of a registered callback. -/
abbrev Uuid := ℕ

/-- `SetterBase<T>`. -/
structure SetterBase (β : Type) where
  /-- `is_initialized_`: an update has succeeded at least once. -/
  isInitialized : Bool
  /-- `need_data_update_lock_`. -/
  needDataUpdateLock : Bool
  /-- `setting_data_`. -/
  settingData : ISettingData β
  /-- The keys of `callbacks_`. -/
  callbacks : List Uuid

namespace SetterBase

variable {β : Type}

/-- `GetSetting`. -/
def getSetting (s : SetterBase β) : Option (ISettingData β) :=
  if s.isInitialized then some s.settingData else none

/-- The critical section of `RegisterCallback`. -/
@[simps]
def registerCallback (c : Uuid) (s : SetterBase β) : SetterBase β :=
  { s with callbacks := s.callbacks.insert c }

/-- The critical section of `UnregisterCallback`. -/
@[simps]
def unregisterCallback (c : Uuid) (s : SetterBase β) : SetterBase β :=
  { s with callbacks := s.callbacks.filter (· ≠ c) }

/-- `SetCallbacks`. `StealCallbacks` is `SetCallbacks` of the empty map, and returns the old
one. -/
@[simps]
def setCallbacks (cs : List Uuid) (s : SetterBase β) : SetterBase β :=
  { s with callbacks := cs }

/-- What the invocation phase of `Update` or `TriggerCallbacks` does when nothing intervenes: each
callback is called with the snapshot. -/
def invocations (s : SetterBase β) : List (Uuid × ISettingData β) :=
  s.callbacks.map fun c => (c, s.settingData)

/-- Data that can be read and have not changed are the same data. -/
theorem settingData_of_getSetting {x y : SetterBase β} (hget : y.getSetting = x.getSetting)
    (hinit : x.isInitialized = true) : y.settingData = x.settingData := by
  rw [getSetting, getSetting, if_pos hinit] at hget
  split_ifs at hget
  exact Option.some.inj hget

variable [SettingData β]

/-- The constructor without JSON. -/
def new (needDataUpdateLock : Bool) : SetterBase β :=
  ⟨false, needDataUpdateLock, ISettingData.new, []⟩

/-- `UpdateInternal`. A refused update is undone if there was a setting before; one that throws
is not. -/
def updateInternal (s : SetterBase β) (j : Json) : Except Json.Exception Bool × SetterBase β :=
  match s.settingData.updateFromJson j with
  | (.ok true, d) => (.ok true, { s with settingData := d, isInitialized := true })
  | (.ok false, d) =>
    (.ok false, { s with settingData := if s.isInitialized then s.settingData else d })
  | (.error e, d) => (.error e, { s with settingData := d })

/-- **`Update`** by a thread that is alone: the result, the setter afterwards, and the
invocations. -/
def update (s : SetterBase β) (j : Json) :
    Except Json.Exception Bool × SetterBase β × List (Uuid × ISettingData β) :=
  match s.updateInternal j with
  | (.ok true, s') => (.ok true, s', s'.invocations)
  | (r, s') => (r, s', [])

/-! ### What an update changes -/

@[simp] theorem callbacks_updateInternal (s : SetterBase β) (j : Json) :
    (s.updateInternal j).2.callbacks = s.callbacks := by
  rw [updateInternal]
  split <;> rfl

/-- An update that succeeds leaves a setting behind. -/
theorem isInitialized_of_updateInternal {s x : SetterBase β} {j : Json}
    (h : s.updateInternal j = (.ok true, x)) : x.isInitialized = true := by
  rw [updateInternal] at h
  split at h <;> cases h
  rfl

/-- Only a successful update makes a setter initialised. -/
theorem isInitialized_eq_of_updateInternal {s x : SetterBase β} {j : Json}
    {r : Except Json.Exception Bool} (h : s.updateInternal j = (r, x)) (hr : r ≠ .ok true) :
    x.isInitialized = s.isInitialized := by
  rw [updateInternal] at h
  split at h <;> cases h
  · exact absurd rfl hr
  · rfl
  · rfl

/-- An update that is refused does not change the setting. -/
theorem getSetting_of_refused {s x : SetterBase β} {j : Json}
    (h : s.updateInternal j = (.ok false, x)) : x.getSetting = s.getSetting := by
  rw [updateInternal] at h
  split at h <;> cases h
  rw [getSetting, getSetting]
  by_cases hinit : s.isInitialized = true
  · simp [hinit]
  · simp [hinit]

/-- An update that fails does not change the setting, if the updater changes nothing before it
throws. -/
theorem getSetting_of_failed {s x : SetterBase β} {j : Json} {r : Except Json.Exception Bool}
    (hthrow : ∀ (d : ISettingData β) j e, (d.updateFromJson j).1 = .error e →
      (d.updateFromJson j).2 = d)
    (h : s.updateInternal j = (r, x)) (hr : r ≠ .ok true) : x.getSetting = s.getSetting := by
  match r with
  | .ok true => exact absurd rfl hr
  | .ok false => exact getSetting_of_refused h
  | .error e =>
    have hsame := hthrow s.settingData j e
    rw [updateInternal] at h
    split at h <;> cases h
    next d hd =>
      rw [hd] at hsame
      obtain rfl : d = s.settingData := hsame rfl
      rfl

end SetterBase

end DetectBase
