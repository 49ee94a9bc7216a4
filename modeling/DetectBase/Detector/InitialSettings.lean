import DetectBase.Foundations.Transition
import DetectBase.Setting.Manager

/-!
# The settings a unit starts with

`RtspDetectorUnit::Init` reads the exclusion and the schedules of its camera into copies of its
own, and only then registers the callbacks that keep the copies up to date. Meanwhile another
thread may be updating the settings. Each of the two settings is a `DetectBase.Feed`: the manager,
the copy, where `Init` stands with it, and where the updating thread stands. `Init` goes through
the two feeds in the order of the source, and the other thread makes one call after the other
(`DetectBase.InitSystem.step`).

An update that collects the callbacks after the reading and before the registration is lost on
the unit, unless it brings what `Init` has read. Where that does not happen, the copies are right
in the end (`DetectBase.copies_eq_settings`). The invariant (`DetectBase.Feed.Synced`) is that the
copy is right whenever the unit is owed nothing, and it is owed something only by an update that
has not collected yet, or has collected its callback.
-/

namespace DetectBase

open SettingManagerBase

/-! ### One setting of the unit -/

/-- Where `Init` stands with a setting. -/
inductive Reading (β : Type) where
  /-- Before the lookup of `GetSetting`. -/
  | start : Reading β
  /-- `GetSetting`, before the setter is read. -/
  | found (p : ℕ) : Reading β
  /-- Before the copy is made. -/
  | got (d : Option (ISettingData β)) : Reading β
  /-- Before `SubscribeSetting`. -/
  | copied : Reading β
  /-- `RegisterCallback`, before the insertion. -/
  | attaching (p : ℕ) : Reading β
  /-- `SubscribeSetting` has returned. -/
  | subscribed : Reading β

/-- Where the other thread stands with a setting. -/
inductive Updating (β : Type) where
  /-- Not in `UpdateTargetUnit`. -/
  | idle : Updating β
  /-- Before the lookup. -/
  | find (j : Json) : Updating β
  /-- Before phase 1 of `Update`. -/
  | store (p : ℕ) (j : Json) : Updating β
  /-- Before phase 2. -/
  | collect (p : ℕ) (d : ISettingData β) : Updating β
  /-- Phase 3, with the callbacks that remain. -/
  | invoke (d : ISettingData β) (pending : List Uuid) : Updating β

/-- The address that `Init` works on. -/
def Reading.address {β : Type} : Reading β → Option ℕ
  | found p => some p
  | attaching p => some p
  | _ => none

namespace Updating

variable {β : Type}

/-- The address that the other thread works on. -/
def address : Updating β → Option ℕ
  | store p _ => some p
  | collect p _ => some p
  | _ => none

/-- The data that the other thread delivers. -/
def data : Updating β → Option (ISettingData β)
  | collect _ d => some d
  | invoke d _ => some d
  | _ => none

/-- The other thread has the callback still to invoke, or has yet to see whether it has. -/
def Owes (c : Uuid) : Updating β → Prop
  | collect _ _ => True
  | invoke _ pending => c ∈ pending
  | _ => False

end Updating

/-- What the other thread does when it is scheduled. -/
inductive UpdateAct where
  /-- Calls `UpdateTargetUnit` for the unit. -/
  | call (j : Json) : UpdateAct
  /-- Goes on to the next boundary. -/
  | go : UpdateAct
  /-- Invokes a collected callback. -/
  | invoke (c : Uuid) : UpdateAct

/-- A setting of the unit, with the two threads that work on it. -/
structure Feed (β : Type) where
  /-- The manager. -/
  manager : SettingManagerBase β
  /-- The copy of the unit. -/
  copy : ISettingData β
  /-- Where `Init` stands. -/
  reading : Reading β
  /-- Where the other thread stands. -/
  updating : Updating β

/-- A unit as far as one of its settings goes: its identifier, the one that its callback gets, and
what it does to the data it copies. -/
structure Subscriber (β : Type) where
  /-- `id_`. -/
  id : UnitID
  /-- The identifier of the callback. -/
  callback : Uuid
  /-- What the copy is made from the data. -/
  dress : ISettingData β → ISettingData β

namespace Feed

variable {β : Type} [SettingData β] (w : Subscriber β)

/-- The next step of `Init` with this setting. -/
def initStep (s : Feed β) : Option (Feed β) :=
  match s.reading with
  | .start =>
    match s.manager.settings.lookup w.id with
    | some p => some { s with reading := .found p }
    | none => some { s with reading := .got none }
  | .found p => some { s with reading := .got (s.manager.heap p).getSetting }
  | .got d => some { s with copy := w.dress (d.getD s.copy), reading := .copied }
  | .copied =>
    if w.id = missingUnitId then some { s with reading := .subscribed }
    else
      some { s with
        manager := (s.manager.findOrCreate w.id).2
        reading := .attaching (s.manager.findOrCreate w.id).1 }
  | .attaching p =>
    some { s with
      manager := s.manager.modifySetter p (SetterBase.registerCallback w.callback)
      reading := .subscribed }
  | .subscribed => none

/-- The next step of the other thread with this setting. -/
def updateStep (s : Feed β) (a : UpdateAct) : Option (Feed β) :=
  match a, s.updating with
  | .call j, .idle =>
    some { s with updating := if w.id = missingUnitId then .idle else .find j }
  | .go, .find j =>
    some { s with
      manager := (s.manager.findOrCreate w.id).2
      updating := .store (s.manager.findOrCreate w.id).1 j }
  | .go, .store p j =>
    match (s.manager.heap p).updateInternal j with
    | (.ok true, x) =>
      some { s with
        manager := s.manager.modifySetter p fun _ => x
        updating := .collect p x.settingData }
    | (_, x) =>
      some { s with manager := s.manager.modifySetter p fun _ => x, updating := .idle }
  | .go, .collect p d => some { s with updating := .invoke d (s.manager.heap p).callbacks }
  | .go, .invoke _ [] => some { s with updating := .idle }
  | .invoke c, .invoke d pending =>
    if c ∈ pending then
      some { s with
        copy := if c = w.callback then w.dress d else s.copy
        updating := .invoke d (pending.erase c) }
    else none
  | _, _ => none

/-- What `Init` has read while the callback is not registered yet. -/
def taken (s : Feed β) : Option (ISettingData β) :=
  match s.reading with
  | .got d => some (w.dress (d.getD s.copy))
  | .copied => some s.copy
  | .attaching _ => some s.copy
  | _ => none

/-- **The guard on the other thread**: an update that collects the callbacks between the reading
and the registration brings what `Init` has read. -/
def Announced (s : Feed β) (a : UpdateAct) : Prop :=
  ∀ p d x, a = .go → s.updating = .collect p d → s.taken w = some x → x = w.dress d

/-! ### The copy is right unless something is owed -/

/-- The copy that the data of the manager stand for. -/
def expected (s : Feed β) : ISettingData β :=
  w.dress ((s.manager.getSetting w.id).getD ISettingData.new)

/-- **The invariant of a feed.** -/
structure Synced (s : Feed β) : Prop where
  wf : s.manager.WF
  /-- The threads work on the setter of the unit. -/
  reading_address : ∀ p, s.reading.address = some p → s.manager.settings.lookup w.id = some p
  updating_address : ∀ p, s.updating.address = some p → s.manager.settings.lookup w.id = some p
  /-- What is being delivered is the current setting. -/
  data : ∀ d, s.updating.data = some d → s.manager.getSetting w.id = some d
  missing : w.id = missingUnitId → s.updating = .idle
  /-- The callback is registered when `Init` has done so, and not before. -/
  registered : s.reading = .subscribed → w.id ≠ missingUnitId →
    w.callback ∈ s.manager.callbacksOf w.id
  unregistered : s.reading ≠ .subscribed → w.callback ∉ s.manager.callbacksOf w.id ∧
    ∀ d pending, s.updating = .invoke d pending → w.callback ∉ pending
  /-- Before the reading the copy is a fresh object. -/
  unread : (s.reading = .start ∨ ∃ p, s.reading = .found p) → s.copy = ISettingData.new
  /-- What has been read is right unless something is owed. -/
  taken : ¬ s.updating.Owes w.callback → ∀ x, s.taken w = some x → x = s.expected w
  copy : ¬ s.updating.Owes w.callback → s.reading = .subscribed → s.copy = s.expected w

variable {w}

/-- `Init` moves on without touching the manager. -/
theorem Synced.move {s : Feed β} (h : s.Synced w) {r : Reading β} {copy : ISettingData β}
    (hfrom : s.reading ≠ .subscribed) (hto : r ≠ .subscribed)
    (haddr : ∀ p, r.address = some p → s.manager.settings.lookup w.id = some p)
    (hunread : (r = .start ∨ ∃ p, r = .found p) → copy = ISettingData.new)
    (htaken : ¬ s.updating.Owes w.callback → ∀ x,
      ({ s with reading := r, copy := copy } : Feed β).taken w = some x → x = s.expected w) :
    ({ s with reading := r, copy := copy } : Feed β).Synced w :=
  ⟨h.wf, haddr, h.updating_address, h.data, h.missing, fun hsub => absurd hsub hto,
    fun _ => h.unregistered hfrom, hunread, htaken, fun _ hsub => absurd hsub hto⟩

/-- `Init` moves on to where it holds data, and no setter. -/
theorem Synced.hold {s : Feed β} (h : s.Synced w) {r : Reading β} {copy : ISettingData β}
    (hfrom : s.reading ≠ .subscribed) (hr : r = .copied ∨ ∃ d, r = .got d)
    (htaken : ¬ s.updating.Owes w.callback → ∀ x,
      ({ s with reading := r, copy := copy } : Feed β).taken w = some x → x = s.expected w) :
    ({ s with reading := r, copy := copy } : Feed β).Synced w := by
  obtain rfl | ⟨d, rfl⟩ := hr
  · refine h.move hfrom (by rintro ⟨⟩) ?_ ?_ htaken
    · rintro q ⟨⟩
    · rintro (heq | ⟨q, heq⟩) <;> cases heq
  · refine h.move hfrom (by rintro ⟨⟩) ?_ ?_ htaken
    · rintro q ⟨⟩
    · rintro (heq | ⟨q, heq⟩) <;> cases heq

/-- The manager changes, but not for the unit. -/
theorem Synced.sameUnit {s : Feed β} (h : s.Synced w) {m : SettingManagerBase β} (hwf : m.WF)
    (hlook : ∀ p, s.manager.settings.lookup w.id = some p → m.settings.lookup w.id = some p)
    (hget : m.getSetting w.id = s.manager.getSetting w.id)
    (hcalls : m.callbacksOf w.id = s.manager.callbacksOf w.id) :
    ({ s with manager := m } : Feed β).Synced w := by
  have hexp : ({ s with manager := m } : Feed β).expected w = s.expected w := by
    rw [expected, hget, expected]
  refine ⟨hwf, fun p hp => hlook p (h.reading_address p hp),
    fun p hp => hlook p (h.updating_address p hp), fun d hd => hget.trans (h.data d hd), h.missing,
    fun hsub hne => ?_, fun hne => ⟨?_, (h.unregistered hne).2⟩, h.unread,
    fun howes x hx => ?_, fun howes hsub => ?_⟩
  · rw [hcalls]
    exact h.registered hsub hne
  · rw [hcalls]
    exact (h.unregistered hne).1
  · rw [hexp]
    exact h.taken howes x hx
  · rw [hexp]
    exact h.copy howes hsub

/-- The setter of the unit is looked up, and created where there was none. -/
theorem Synced.findOrCreate {s : Feed β} (h : s.Synced w) :
    ({ s with manager := (s.manager.findOrCreate w.id).2 } : Feed β).Synced w := by
  obtain ⟨hget, hcalls⟩ := sameUnits_findOrCreate h.wf w.id w.id
  refine h.sameUnit (h.wf.findOrCreate w.id) (fun p hp => ?_) hget hcalls
  rw [findOrCreate_of_lookup hp]
  exact hp

/-- The callback is registered. -/
theorem Synced.attach {s : Feed β} (h : s.Synced w) {p : ℕ} (hr : s.reading = .attaching p) :
    ({ s with
      manager := s.manager.modifySetter p (SetterBase.registerCallback w.callback)
      reading := .subscribed } : Feed β).Synced w := by
  have hlook := h.reading_address p (by rw [hr]; rfl)
  obtain ⟨hget, hcalls⟩ := units_modifySetter_self hlook (SetterBase.registerCallback w.callback)
  have hsame : (s.manager.modifySetter p (SetterBase.registerCallback w.callback)).getSetting
      w.id = s.manager.getSetting w.id := by
    rw [hget, getSetting, hlook, Option.bind_some]
    rfl
  refine ⟨h.wf.modifySetter _ _, ?_, h.updating_address, fun d hd => ?_, h.missing,
    fun _ _ => ?_, fun hne => absurd rfl hne, ?_, ?_, fun howes _ => ?_⟩
  · rintro q ⟨⟩
  · exact hsame.trans (h.data d hd)
  · rw [hcalls]
    exact List.mem_insert_self
  · rintro (heq | ⟨q, heq⟩) <;> cases heq
  · rintro - x ⟨⟩
  · rw [expected, hsame]
    exact h.taken howes _ (by rw [Feed.taken, hr])

/-- A step of `Init` keeps the invariant. -/
theorem Synced.initStep {s s' : Feed β} (h : s.Synced w) (hstep : s.initStep w = some s') :
    s'.Synced w := by
  rw [Feed.initStep] at hstep
  cases hr : s.reading with
  | start =>
    have hfresh : s.copy = ISettingData.new := h.unread (Or.inl hr)
    simp only [hr] at hstep
    cases hlook : s.manager.settings.lookup w.id with
    | some p =>
      rw [hlook] at hstep
      cases hstep
      refine h.move (by simp [hr]) (by rintro ⟨⟩) ?_ (fun _ => hfresh) ?_
      · rintro q ⟨⟩
        exact hlook
      · rintro - x ⟨⟩
    | none =>
      rw [hlook] at hstep
      cases hstep
      refine h.hold (by simp [hr]) (.inr ⟨none, rfl⟩) fun _ x hx => ?_
      have hnone : s.manager.getSetting w.id = none := by rw [getSetting, hlook, Option.bind_none]
      rw [expected, hnone]
      cases hx
      rw [← hfresh]
  | found p =>
    have hfresh : s.copy = ISettingData.new := h.unread (Or.inr ⟨p, hr⟩)
    have hlook := h.reading_address p (by rw [hr]; rfl)
    simp only [hr] at hstep
    cases hstep
    refine h.hold (by simp [hr]) (.inr ⟨_, rfl⟩) fun _ x hx => ?_
    have hread : s.manager.getSetting w.id = (s.manager.heap p).getSetting := by
      rw [getSetting, hlook, Option.bind_some]
    rw [expected, hread, ← hfresh]
    cases hx
    rfl
  | got d =>
    have htaken : ¬ s.updating.Owes w.callback → w.dress (d.getD s.copy) = s.expected w :=
      fun howes => h.taken howes _ (by rw [Feed.taken, hr])
    simp only [hr] at hstep
    cases hstep
    refine h.hold (by simp [hr]) (.inl rfl) fun howes x hx => ?_
    cases hx
    exact htaken howes
  | copied =>
    have htaken : ¬ s.updating.Owes w.callback → s.copy = s.expected w :=
      fun howes => h.taken howes _ (by rw [Feed.taken, hr])
    simp only [hr] at hstep
    split_ifs at hstep with hid
    · -- no callback is registered, and there is nobody to invoke it
      cases hstep
      have hno : s.updating.Owes w.callback → False := by
        rw [h.missing hid]
        exact id
      refine ⟨h.wf, ?_, h.updating_address, h.data, h.missing, fun _ hne => absurd hid hne,
        fun hne => absurd rfl hne, ?_, ?_, fun _ _ => htaken hno⟩
      · rintro q ⟨⟩
      · rintro (heq | ⟨q, heq⟩) <;> cases heq
      · rintro - x ⟨⟩
    · cases hstep
      refine h.findOrCreate.move (by simp [hr]) (by rintro ⟨⟩) ?_
        (by rintro (heq | ⟨q, heq⟩) <;> cases heq) fun howes x hx => ?_
      · rintro p ⟨⟩
        exact lookup_findOrCreate s.manager w.id
      · exact h.findOrCreate.taken howes x (by rw [← hx, Feed.taken, hr]; rfl)
  | attaching p =>
    simp only [hr] at hstep
    cases hstep
    exact h.attach hr
  | subscribed =>
    rw [hr] at hstep
    cases hstep

/-- The other thread moves on without touching the manager, and owes nothing new. -/
theorem Synced.proceed {s : Feed β} (h : s.Synced w) {up : Updating β}
    (hid : w.id = missingUnitId → up = .idle)
    (haddr : ∀ p, up.address = some p → s.manager.settings.lookup w.id = some p)
    (hdata : ∀ d, up.data = some d → s.manager.getSetting w.id = some d)
    (hpending : ∀ d pending, up = .invoke d pending → s.reading ≠ .subscribed →
      w.callback ∉ pending)
    (hright : ¬ up.Owes w.callback → (∀ x, s.taken w = some x → x = s.expected w) ∧
      (s.reading = .subscribed → s.copy = s.expected w)) :
    ({ s with updating := up } : Feed β).Synced w :=
  ⟨h.wf, h.reading_address, haddr, hdata, hid, h.registered,
    fun hne => ⟨(h.unregistered hne).1, fun d pending hup => hpending d pending hup hne⟩,
    h.unread, fun howes => (hright howes).1, fun howes => (hright howes).2⟩

variable (w) in
/-- What a step of the other thread can do. -/
inductive UpdateStep (s : Feed β) : UpdateAct → Feed β → Prop where
  /-- The call. -/
  | call {j : Json} (hup : s.updating = .idle) :
      UpdateStep s (.call j)
        { s with updating := if w.id = missingUnitId then .idle else .find j }
  /-- The lookup. -/
  | find {j : Json} (hup : s.updating = .find j) :
      UpdateStep s .go
        { s with
          manager := (s.manager.findOrCreate w.id).2
          updating := .store (s.manager.findOrCreate w.id).1 j }
  /-- Phase 1, when it succeeds. -/
  | stored {p : ℕ} {j : Json} {x : SetterBase β} (hup : s.updating = .store p j)
      (hres : (s.manager.heap p).updateInternal j = (.ok true, x)) :
      UpdateStep s .go
        { s with
          manager := s.manager.modifySetter p fun _ => x
          updating := .collect p x.settingData }
  /-- Phase 1, when the update is refused or throws. -/
  | failed {p : ℕ} {j : Json} {x : SetterBase β} {r : Except Json.Exception Bool}
      (hup : s.updating = .store p j) (hres : (s.manager.heap p).updateInternal j = (r, x))
      (hne : r ≠ .ok true) :
      UpdateStep s .go { s with manager := s.manager.modifySetter p fun _ => x, updating := .idle }
  /-- Phase 2. -/
  | collect {p : ℕ} {d : ISettingData β} (hup : s.updating = .collect p d) :
      UpdateStep s .go { s with updating := .invoke d (s.manager.heap p).callbacks }
  /-- The return. -/
  | done {d : ISettingData β} (hup : s.updating = .invoke d []) :
      UpdateStep s .go { s with updating := .idle }
  /-- The invocation of a callback. -/
  | invoke {c : Uuid} {d : ISettingData β} {pending : List Uuid}
      (hup : s.updating = .invoke d pending) (hc : c ∈ pending) :
      UpdateStep s (.invoke c)
        { s with
          copy := if c = w.callback then w.dress d else s.copy
          updating := .invoke d (pending.erase c) }

theorem updateStep_sound {s s' : Feed β} {a : UpdateAct} (h : s.updateStep w a = some s') :
    UpdateStep w s a s' := by
  unfold updateStep at h
  split at h
  · next hup =>
    cases h
    exact .call hup
  · next hup =>
    cases h
    exact .find hup
  · next hup =>
    split at h
    · next hres =>
      cases h
      exact .stored hup hres
    · next hne hres =>
      cases h
      exact .failed hup hres hne
  · next hup =>
    cases h
    exact .collect hup
  · next hup =>
    cases h
    exact .done hup
  · next c d pending hup =>
    by_cases hc : c ∈ pending
    · rw [if_pos hc] at h
      cases h
      exact .invoke hup hc
    · rw [if_neg hc] at h
      cases h
  · cases h

/-- A unit that is being updated has an identifier. -/
theorem Synced.id_ne {s : Feed β} (h : s.Synced w) (hup : s.updating ≠ .idle) :
    w.id ≠ missingUnitId := fun hid => hup (h.missing hid)

/-- Phase 1 of an update has stored. -/
theorem Synced.stored {s : Feed β} (h : s.Synced w) {p : ℕ} {j : Json} {x : SetterBase β}
    (hup : s.updating = .store p j)
    (hres : (s.manager.heap p).updateInternal j = (.ok true, x)) :
    ({ s with
      manager := s.manager.modifySetter p fun _ => x
      updating := .collect p x.settingData } : Feed β).Synced w := by
  have hlook := h.updating_address p (by rw [hup]; rfl)
  have hget : (s.manager.modifySetter p fun _ => x).getSetting w.id = some x.settingData := by
    rw [(units_modifySetter_self hlook fun _ => x).1, SetterBase.getSetting,
      SetterBase.isInitialized_of_updateInternal hres]
    rfl
  have hcalls := callbacksOf_updateInternal hlook hres
  -- from here on until the callbacks are collected the update owes the unit its data
  refine ⟨h.wf.modifySetter p fun _ => x, h.reading_address, fun q hq => ?_, fun d hd => ?_,
    fun hid => absurd hid (h.id_ne (by simp [hup])), fun hsub hne => ?_,
    fun hne => ⟨?_, by rintro d pending ⟨⟩⟩, h.unread, fun howes => absurd trivial howes,
    fun howes => absurd trivial howes⟩
  · cases hq
    exact hlook
  · cases hd
    exact hget
  · rw [hcalls]
    exact h.registered hsub hne
  · rw [hcalls]
    exact (h.unregistered hne).1

/-- Phase 1 of an update has failed, and has left the data as they were. -/
theorem Synced.failed {s : Feed β} (h : s.Synced w)
    (hthrow : ∀ (d : ISettingData β) j e, (d.updateFromJson j).1 = .error e →
      (d.updateFromJson j).2 = d)
    {p : ℕ} {j : Json} {x : SetterBase β} {r : Except Json.Exception Bool}
    (hup : s.updating = .store p j) (hres : (s.manager.heap p).updateInternal j = (r, x))
    (hne : r ≠ .ok true) :
    ({ s with
      manager := s.manager.modifySetter p fun _ => x
      updating := .idle } : Feed β).Synced w := by
  have howes : ¬ s.updating.Owes w.callback := by rw [hup]; exact id
  have hlook := h.updating_address p (by rw [hup]; rfl)
  have hget : (s.manager.modifySetter p fun _ => x).getSetting w.id =
      s.manager.getSetting w.id := by
    rw [(units_modifySetter_self hlook fun _ => x).1, getSetting, hlook]
    exact SetterBase.getSetting_of_failed hthrow hres hne
  have hsame := h.sameUnit (h.wf.modifySetter p fun _ => x) (fun _ hp => hp) hget
    (callbacksOf_updateInternal hlook hres)
  exact hsame.proceed (fun _ => rfl) (by rintro q ⟨⟩) (by rintro d ⟨⟩) (by rintro d pending ⟨⟩)
    fun _ => ⟨hsame.taken howes, hsame.copy howes⟩

/-- Phase 2 of an update. -/
theorem Synced.collect {s : Feed β} (h : s.Synced w) {p : ℕ} {d : ISettingData β}
    (hup : s.updating = .collect p d) (hok : s.Announced w .go) :
    ({ s with updating := .invoke d (s.manager.heap p).callbacks } : Feed β).Synced w := by
  have hlook := h.updating_address p (by rw [hup]; rfl)
  have hdata := h.data d (by rw [hup]; rfl)
  have hcalls : s.manager.callbacksOf w.id = (s.manager.heap p).callbacks := by
    rw [callbacksOf, hlook]
    rfl
  have hid : w.id ≠ missingUnitId := h.id_ne (by simp [hup])
  refine h.proceed (fun heq => absurd heq hid) (by rintro q ⟨⟩) (fun d' hd' => ?_)
    (fun d' pending heq hne => ?_) fun howes => ⟨fun x hx => ?_, fun hsub => ?_⟩
  · cases hd'
    exact hdata
  · cases heq
    exact hcalls ▸ (h.unregistered hne).1
  · -- nothing is owed: the callback was not registered, and the guard applies
    rw [expected, hdata]
    exact hok p d x rfl hup hx
  · exact absurd (hcalls ▸ h.registered hsub hid) howes

/-- The callback of the unit is invoked: the copy becomes the current setting. -/
theorem Synced.invokeSelf {s : Feed β} (h : s.Synced w) {d : ISettingData β}
    {pending : List Uuid} (hup : s.updating = .invoke d pending) (hc : w.callback ∈ pending) :
    ({ s with
      copy := w.dress d
      updating := .invoke d (pending.erase w.callback) } : Feed β).Synced w := by
  have hdata := h.data d (by rw [hup]; rfl)
  have hsub : s.reading = .subscribed := by
    by_contra hne
    exact (h.unregistered hne).2 d pending hup hc
  have hexp : s.expected w = w.dress d := by
    rw [expected, hdata]
    rfl
  refine ⟨h.wf, h.reading_address, nofun, fun d' hd' => ?_,
    fun hid => absurd hid (h.id_ne (by simp [hup])), h.registered, fun hne => absurd hsub hne,
    fun hread => ?_, fun _ x hx => ?_, fun _ _ => hexp.symm⟩
  · cases hd'
    exact hdata
  · rw [hsub] at hread
    rcases hread with hread | ⟨p, hread⟩ <;> cases hread
  · rw [Feed.taken, hsub] at hx
    cases hx

/-- The callback of somebody else is invoked. -/
theorem Synced.invokeOther {s : Feed β} (h : s.Synced w) {c : Uuid} {d : ISettingData β}
    {pending : List Uuid} (hup : s.updating = .invoke d pending) (hne : c ≠ w.callback) :
    ({ s with updating := .invoke d (pending.erase c) } : Feed β).Synced w := by
  have hid : w.id ≠ missingUnitId := h.id_ne (by simp [hup])
  refine h.proceed (fun heq => absurd heq hid) nofun (fun d' hd' => ?_)
    (fun d' pending' heq hne' hmem => ?_) fun howes => ?_
  · cases hd'
    exact h.data d (by rw [hup]; rfl)
  · cases heq
    exact (h.unregistered hne').2 d pending hup (List.mem_of_mem_erase hmem)
  · have howes' : ¬ s.updating.Owes w.callback := by
      rw [hup]
      exact fun hmem => howes ((List.mem_erase_of_ne hne.symm).mpr hmem)
    exact ⟨h.taken howes', h.copy howes'⟩

/-- A step of the other thread keeps the invariant, if an update that throws leaves the data as
they were. -/
theorem Synced.updateStep {s s' : Feed β} {a : UpdateAct} (h : s.Synced w)
    (hthrow : ∀ (d : ISettingData β) j e, (d.updateFromJson j).1 = .error e →
      (d.updateFromJson j).2 = d)
    (hok : s.Announced w a) (hstep : s.updateStep w a = some s') : s'.Synced w := by
  cases updateStep_sound hstep with
  | call hup =>
    have howes : ¬ s.updating.Owes w.callback := by rw [hup]; exact id
    refine h.proceed (fun hid => if_pos hid) ?_ ?_ ?_ fun _ => ⟨h.taken howes, h.copy howes⟩
    · intro p hp
      split_ifs at hp <;> cases hp
    · intro d hd
      split_ifs at hd <;> cases hd
    · intro d pending heq
      split_ifs at heq
  | find hup =>
    have howes : ¬ s.updating.Owes w.callback := by rw [hup]; exact id
    have hid : w.id ≠ missingUnitId := h.id_ne (by simp [hup])
    refine h.findOrCreate.proceed (fun heq => absurd heq hid) (fun p hp => ?_) nofun nofun
      fun _ => ⟨h.findOrCreate.taken howes, h.findOrCreate.copy howes⟩
    cases hp
    exact lookup_findOrCreate s.manager w.id
  | stored hup hres => exact h.stored hup hres
  | failed hup hres hne => exact h.failed hthrow hup hres hne
  | collect hup => exact h.collect hup hok
  | done hup =>
    have howes : ¬ s.updating.Owes w.callback := by rw [hup]; exact List.not_mem_nil
    exact h.proceed (fun _ => rfl) nofun nofun nofun fun _ => ⟨h.taken howes, h.copy howes⟩
  | @invoke c d pending hup hc =>
    rcases eq_or_ne c w.callback with rfl | hne
    · rw [if_pos rfl]
      exact h.invokeSelf hup hc
    · rw [if_neg hne]
      exact h.invokeOther hup hne

/-- `Init` has not begun, and nothing is being updated. -/
structure Untouched (w : Subscriber β) (s : Feed β) : Prop where
  wf : s.manager.WF
  reading : s.reading = .start
  updating : s.updating = .idle
  copy : s.copy = ISettingData.new
  callback : w.callback ∉ s.manager.callbacksOf w.id

theorem Untouched.synced {s : Feed β} (h : s.Untouched w) : s.Synced w := by
  refine ⟨h.wf, fun p hp => ?_, fun p hp => ?_, fun d hd => ?_, fun _ => h.updating,
    fun hsub => ?_, fun _ => ⟨h.callback, fun d pending hup => ?_⟩, fun _ => h.copy,
    fun _ x hx => ?_, fun _ hsub => ?_⟩
  · rw [h.reading] at hp
    cases hp
  · rw [h.updating] at hp
    cases hp
  · rw [h.updating] at hd
    cases hd
  · rw [h.reading] at hsub
    cases hsub
  · rw [h.updating] at hup
    cases hup
  · rw [Feed.taken, h.reading] at hx
    cases hx
  · rw [h.reading] at hsub
    cases hsub

end Feed

/-! ### The two settings of a unit -/

/-- The lines that `AddDebugVirtualLines_REMOVABLE` draws: three across, three down. -/
def debugLines : Roi :=
  let zero := ofInt binary32 0
  let one := ofInt binary32 1
  let hundredths := fun n => ofDecimal binary32 false n (-2)
  [[(zero, hundredths 25), (one, hundredths 25)], [(zero, hundredths 50), (one, hundredths 50)],
    [(zero, hundredths 75), (one, hundredths 75)], [(hundredths 25, zero), (hundredths 25, one)],
    [(hundredths 50, zero), (hundredths 50, one)], [(hundredths 75, zero), (hundredths 75, one)]]

/-- A schedule of `AddDebugVirtualLines_REMOVABLE`. -/
def debugSchedule (scheduleId eventCode : ℤ) : AbnormalEventScheduleInfo where
  scheduleId := scheduleId
  eventCode := eventCode
  levelCode := 1
  startTime := "00:00"
  rangeMinutes := 24 * 60
  weekly := [1, 1, 1, 1, 1, 1, 1]
  roi := []
  excludeRoi := []
  twoWayRoi := debugLines
  oneWayRoi := []
  blackListDays := []
  notificationMinIntervalSec := 1
  loiteringRequireDurSec := 0

/-- `AddDebugVirtualLines_REMOVABLE`: a schedule for the intrusion of persons and one for that of
vehicles. -/
def addDebugVirtualLines (d : ScheduleSettingData) : ScheduleSettingData :=
  { d with fields := ⟨d.fields.schedules ++ [debugSchedule 99999 202, debugSchedule 99998 209]⟩ }

/-- A unit: its identifier, and those that its callbacks get. -/
structure RtspDetectorUnit where
  /-- `id_`. -/
  id : UnitID
  excludeCallback : Uuid
  scheduleCallback : Uuid

/-- The unit as a subscriber of the exclusion: the data are copied as they are. -/
def RtspDetectorUnit.excludeCam (w : RtspDetectorUnit) : Subscriber ExcludeCam :=
  ⟨w.id, w.excludeCallback, fun d => d⟩

/-- The unit as a subscriber of the schedules. -/
def RtspDetectorUnit.schedules (w : RtspDetectorUnit) : Subscriber Schedules :=
  ⟨w.id, w.scheduleCallback, addDebugVirtualLines⟩

/-- The copy has been made. -/
def Reading.isCopied {β : Type} : Reading β → Bool
  | start | found _ | got _ => false
  | copied | attaching _ | subscribed => true

/-- `SubscribeSetting` has returned. -/
def Reading.isSubscribed {β : Type} : Reading β → Bool
  | subscribed => true
  | _ => false

/-- The thread is not in `UpdateTargetUnit`. -/
def Updating.isIdle {β : Type} : Updating β → Bool
  | idle => true
  | _ => false

/-- The two settings of a unit while it is initialised. -/
structure InitSystem where
  exclude : Feed ExcludeCam
  schedule : Feed Schedules

/-- Who moves. -/
inductive InitAct where
  /-- `Init`. -/
  | init : InitAct
  /-- The other thread, in a call for the exclusion. -/
  | exclude (a : UpdateAct) : InitAct
  /-- The other thread, in a call for the schedules. -/
  | schedule (a : UpdateAct) : InitAct

namespace InitSystem

variable (w : RtspDetectorUnit)

/-- **One step.** `Init` copies the exclusion, copies the schedules, subscribes to the first and
subscribes to the second; the other thread begins a call when the last one has returned. -/
def step (s : InitSystem) : InitAct → Option InitSystem
  | .init =>
    if !s.exclude.reading.isCopied then
      (s.exclude.initStep w.excludeCam).map ({ s with exclude := · })
    else if !s.schedule.reading.isCopied then
      (s.schedule.initStep w.schedules).map ({ s with schedule := · })
    else if !s.exclude.reading.isSubscribed then
      (s.exclude.initStep w.excludeCam).map ({ s with exclude := · })
    else (s.schedule.initStep w.schedules).map ({ s with schedule := · })
  | .exclude a =>
    if s.schedule.updating.isIdle then
      (s.exclude.updateStep w.excludeCam a).map ({ s with exclude := · })
    else none
  | .schedule a =>
    if s.exclude.updating.isIdle then
      (s.schedule.updateStep w.schedules a).map ({ s with schedule := · })
    else none

/-- The guard on the other thread. -/
def Announced (s : InitSystem) : InitAct → Prop
  | .init => True
  | .exclude a => s.exclude.Announced w.excludeCam a
  | .schedule a => s.schedule.Announced w.schedules a

/-- Nothing has happened yet. -/
def Untouched (s : InitSystem) : Prop :=
  s.exclude.Untouched w.excludeCam ∧ s.schedule.Untouched w.schedules

/-- `Init` and all updates have finished. -/
structure Finished (s : InitSystem) : Prop where
  exclude_reading : s.exclude.reading = .subscribed
  schedule_reading : s.schedule.reading = .subscribed
  exclude_updating : s.exclude.updating = .idle
  schedule_updating : s.schedule.updating = .idle

/-- The invariant of both feeds. -/
def Synced (s : InitSystem) : Prop :=
  s.exclude.Synced w.excludeCam ∧ s.schedule.Synced w.schedules

variable {w}

theorem Synced.step {s s' : InitSystem} {a : InitAct} (h : s.Synced w) (hok : s.Announced w a)
    (hstep : s.step w a = some s') : s'.Synced w := by
  have hexclude : ∀ {x}, (s.exclude.initStep w.excludeCam).map ({ s with exclude := · }) = some x →
      x.Synced w := by
    intro x hx
    obtain ⟨f, hf, rfl⟩ := Option.map_eq_some_iff.mp hx
    exact ⟨h.1.initStep hf, h.2⟩
  have hschedule : ∀ {x}, (s.schedule.initStep w.schedules).map ({ s with schedule := · }) =
      some x → x.Synced w := by
    intro x hx
    obtain ⟨f, hf, rfl⟩ := Option.map_eq_some_iff.mp hx
    exact ⟨h.1, h.2.initStep hf⟩
  cases a with
  | init =>
    rw [InitSystem.step] at hstep
    split_ifs at hstep
    · exact hexclude hstep
    · exact hschedule hstep
    · exact hexclude hstep
    · exact hschedule hstep
  | exclude a =>
    rw [InitSystem.step] at hstep
    split_ifs at hstep
    obtain ⟨f, hf, rfl⟩ := Option.map_eq_some_iff.mp hstep
    exact ⟨h.1.updateStep (fun d j e he => nomatch he) hok hf, h.2⟩
  | schedule a =>
    rw [InitSystem.step] at hstep
    split_ifs at hstep
    obtain ⟨f, hf, rfl⟩ := Option.map_eq_some_iff.mp hstep
    exact ⟨h.1, h.2.updateStep updateFromJson_schedule_throw hok hf⟩

end InitSystem

/-- **A unit starts with the current settings**, if every update that collects the callbacks
between the reading and the registration brings what `Init` has read: once `Init` and all updates
have finished, the copies are the settings of the manager – the schedules with the debug schedules
added – or a fresh object where there is no setting. -/
theorem copies_eq_settings (w : RtspDetectorUnit) (s₀ s : InitSystem) (as : List InitAct)
    (hstart : s₀.Untouched w) (hok : Guarded (InitSystem.step w) (InitSystem.Announced w) s₀ as)
    (hrun : runFrom (InitSystem.step w) s₀ as = some s) (hend : s.Finished) :
    s.exclude.copy = (s.exclude.manager.getSetting w.id).getD ISettingData.new ∧
      s.schedule.copy =
        addDebugVirtualLines ((s.schedule.manager.getSetting w.id).getD ISettingData.new) := by
  have h : s.Synced w :=
    hok.invariant (fun _ _ _ hinv hguard hstep => hinv.step hguard hstep)
      ⟨hstart.1.synced, hstart.2.synced⟩ hrun
  refine ⟨h.1.copy ?_ hend.exclude_reading, h.2.copy ?_ hend.schedule_reading⟩
  · rw [hend.exclude_updating]
    exact id
  · rw [hend.schedule_updating]
    exact id

/-- A unit for camera 1 over empty managers. -/
def cameraOneUnit : RtspDetectorUnit := ⟨1, 0, 0⟩

/-- Its two settings before `Init`. -/
def beforeInit : InitSystem :=
  ⟨⟨.new "CameraId" true, .new, .start, .idle⟩, ⟨.new "CameraId" true, .new, .start, .idle⟩⟩

theorem untouched_beforeInit : beforeInit.Untouched cameraOneUnit :=
  ⟨⟨WF.new _ _, rfl, rfl, rfl, List.not_mem_nil⟩, ⟨WF.new _ _, rfl, rfl, rfl, List.not_mem_nil⟩⟩

/-- The update that excludes the camera. -/
def excludeUpdate : InitAct := .exclude (.call (.arr [.obj [("CameraId", .int 1)]]))

/-- The update is stored after the exclusion has been read, and collects the callbacks when that
of the unit is among them. -/
def updateInTime : List InitAct :=
  [excludeUpdate, .exclude .go, .init, .init, .init, .init, .init, .exclude .go, .init, .init,
    .exclude .go, .exclude (.invoke 0), .exclude .go, .init, .init]

/-- Where that leads. -/
def afterInit : InitSystem :=
  (runFrom (InitSystem.step cameraOneUnit) beforeInit updateInTime).get rfl

theorem copies_eq_settings_updateInTime :
    afterInit.exclude.copy =
        (afterInit.exclude.manager.getSetting cameraOneUnit.id).getD ISettingData.new ∧
      afterInit.schedule.copy = addDebugVirtualLines
        ((afterInit.schedule.manager.getSetting cameraOneUnit.id).getD ISettingData.new) := by
  refine copies_eq_settings cameraOneUnit beforeInit afterInit updateInTime untouched_beforeInit
    ?_ rfl ⟨rfl, rfl, rfl, rfl⟩
  -- the only collection comes when `Init` has subscribed
  refine ⟨fun p d x ha => (nomatch ha), fun s' hs => ?_⟩
  cases hs
  refine ⟨fun p d x _ hup => (nomatch hup), fun s' hs => ?_⟩
  cases hs
  iterate 5
    refine ⟨trivial, fun s' hs => ?_⟩
    cases hs
  refine ⟨fun p d x _ hup => (nomatch hup), fun s' hs => ?_⟩
  cases hs
  iterate 2
    refine ⟨trivial, fun s' hs => ?_⟩
    cases hs
  refine ⟨fun p d x _ _ hx => (nomatch hx), fun s' hs => ?_⟩
  cases hs
  refine ⟨fun p d x ha => (nomatch ha), fun s' hs => ?_⟩
  cases hs
  refine ⟨fun p d x _ hup => (nomatch hup), fun s' hs => ?_⟩
  cases hs
  iterate 2
    refine ⟨trivial, fun s' hs => ?_⟩
    cases hs
  trivial

/-- An update that comes between the reading and the subscription is lost on the unit. -/
theorem not_copies_eq_settings :
    ¬ ∀ (w : RtspDetectorUnit) (s₀ s : InitSystem) (as : List InitAct), s₀.Untouched w →
        runFrom (InitSystem.step w) s₀ as = some s → s.Finished →
          s.exclude.copy = (s.exclude.manager.getSetting w.id).getD ISettingData.new ∧
            s.schedule.copy =
              addDebugVirtualLines ((s.schedule.manager.getSetting w.id).getD .new) := by
  intro h
  have hcopies := h cameraOneUnit beforeInit _
    [.init, .init, .init, .init, excludeUpdate, .exclude .go, .exclude .go, .exclude .go,
      .exclude .go, .init, .init, .init, .init] untouched_beforeInit rfl ⟨rfl, rfl, rfl, rfl⟩
  have hexclude := hcopies.1
  revert hexclude
  decide

end DetectBase
