import DetectBase.Foundations.Transition
import DetectBase.Setting.Reset

/-!
# The exclusion of a camera

A unit of the detector keeps a copy of the exclusion setting of its camera. The copy is written by
the callback that `Init` registers, and the inference loop reads it before each frame: it skips
the frame when the copy is not *empty*. Emptiness is a flag of the base class, which every
successful update clears; whether the camera is excluded is a field of the derived class, which an
update with an empty payload sets to `false`.

The two agree after every delivered update exactly when no update with an empty payload is
delivered (`DetectBase.skipsFrames_iff_isExclude`). Resets do no harm: their entries are objects
with a key in them (`DetectBase.invoked_of_renewAfterReset`).
-/

namespace DetectBase

open SettingManagerBase

/-- What the store of exclusion settings can be asked to do. -/
inductive ExclusionCall where
  /-- `UpdateTargetUnit`. -/
  | updateTargetUnit (u : UnitID) (j : Json) : ExclusionCall
  /-- `RenewAfterReset`, with the order in which it walks its units. -/
  | renewAfterReset (order : HashOrder (List Json)) (j : Json) : ExclusionCall

/-- The store of exclusion settings, and a unit that subscribes to it. -/
structure ExclusionState where
  /-- The manager of exclusion settings. -/
  manager : SettingManagerBase ExcludeCam
  /-- The identifier of the callback that the unit registered. -/
  callback : Uuid
  /-- `exclude_setting_` of the unit. -/
  excludeSetting : ExcludeCamSettingData

namespace ExclusionState

/-- The test of `InferenceThreadRunner`: the frame is skipped. -/
def skipsFrames (s : ExclusionState) : Bool := !s.excludeSetting.isEmpty

/-- The callbacks are called one after the other, and the one of the unit takes its copy. -/
def deliver (c : Uuid) :
    List (Uuid × ExcludeCamSettingData) → ExcludeCamSettingData → ExcludeCamSettingData
  | [], copy => copy
  | (c', d) :: calls, copy => deliver c calls (if c' = c then d else copy)

/-- The manager after a call, and the callbacks that are called with their data. -/
def perform (m : SettingManagerBase ExcludeCam) :
    ExclusionCall → SettingManagerBase ExcludeCam × List (Uuid × ExcludeCamSettingData)
  | .updateTargetUnit u j => (m.updateTargetUnit u j).2
  | .renewAfterReset order j => (m.renewAfterReset order j).2

/-- One call, with its callbacks. -/
def step (s : ExclusionState) (call : ExclusionCall) : Option ExclusionState :=
  let out := perform s.manager call
  some { s with manager := out.1, excludeSetting := deliver s.callback out.2 s.excludeSetting }

/-- The call is delivered to the unit. -/
def Delivered (s : ExclusionState) (call : ExclusionCall) : Prop :=
  ∃ d, (s.callback, d) ∈ (perform s.manager call).2

/-- The call does not deliver an update with nothing in it. -/
def NonemptyPayload (s : ExclusionState) : ExclusionCall → Prop
  | .updateTargetUnit u j => u ≠ missingUnitId → s.callback ∈ s.manager.callbacksOf u →
    (ISettingData.payload .firstOnly j).isEmpty = false
  | .renewAfterReset _ _ => True

end ExclusionState

open ExclusionState

/-- The copy is the data of one of the calls, or what it was. -/
theorem deliver_cases {c : Uuid} {calls : List (Uuid × ExcludeCamSettingData)} :
    ∀ {copy : ExcludeCamSettingData},
      (c, deliver c calls copy) ∈ calls ∨ deliver c calls copy = copy := by
  induction calls with
  | nil => exact Or.inr rfl
  | cons call calls ih =>
    obtain ⟨c', d⟩ := call
    intro copy
    rw [deliver]
    rcases ih with hmem | heq
    · exact Or.inl (List.mem_cons_of_mem _ hmem)
    · rw [heq]
      by_cases hc : c' = c
      · rw [if_pos hc, hc]
        exact Or.inl List.mem_cons_self
      · rw [if_neg hc]
        exact Or.inr rfl

theorem mem_of_deliver {c : Uuid} {calls : List (Uuid × ExcludeCamSettingData)} :
    ∀ {copy : ExcludeCamSettingData}, (∃ d, (c, d) ∈ calls) →
      (c, deliver c calls copy) ∈ calls := by
  induction calls with
  | nil =>
    rintro copy ⟨d, hd⟩
    cases hd
  | cons call calls ih =>
    obtain ⟨c', d'⟩ := call
    rintro copy ⟨d, hd⟩
    rw [deliver]
    rcases List.mem_cons.mp hd with heq | hd
    · cases heq
      rw [if_pos rfl]
      rcases deliver_cases with hmem | heq
      · exact List.mem_cons_of_mem _ hmem
      · rw [heq]
        exact List.mem_cons_self
    · exact List.mem_cons_of_mem _ (ih ⟨d, hd⟩)

/-- **What an update of a unit invokes**: every callback of the unit, with the exclusion set to
whether there was a payload. -/
theorem invoked_of_updateTargetUnit {m : SettingManagerBase ExcludeCam} {u : UnitID} {j : Json}
    {c : Uuid} {d : ExcludeCamSettingData} :
    (c, d) ∈ (m.updateTargetUnit u j).2.2 ↔ u ≠ missingUnitId ∧ c ∈ m.callbacksOf u ∧
      d = ⟨false, ⟨!(ISettingData.payload .firstOnly j).isEmpty⟩⟩ := by
  rw [updateTargetUnit]
  split_ifs with hu
  · simp [hu]
  have hcalls : (((m.findOrCreate u).2.heap (m.findOrCreate u).1).update j).2.2 =
      (m.callbacksOf u).map
        fun c => (c, ⟨false, ⟨!(ISettingData.payload .firstOnly j).isEmpty⟩⟩) := by
    rw [findOrCreate, callbacksOf]
    cases m.settings.lookup u with
    | none => simp; rfl
    | some p => rfl
  simp only [hcalls, List.mem_map, Prod.mk.injEq]
  constructor
  · rintro ⟨c', hc', rfl, rfl⟩
    exact ⟨hu, hc', rfl⟩
  · rintro ⟨-, hc, rfl⟩
    exact ⟨c, hc, rfl, rfl⟩

/-- **A reset delivers exclusions only.** -/
theorem invoked_of_renewAfterReset {order : HashOrder (List Json)}
    {m : SettingManagerBase ExcludeCam} {j : Json} {c : Uuid} {d : ExcludeCamSettingData}
    (h : (c, d) ∈ (m.renewAfterReset order j).2.2) : d = ⟨false, ⟨true⟩⟩ := by
  obtain ⟨u, objs, hobjs, rfl⟩ := of_mem_invocations_renewAfterReset h
  obtain ⟨o, os, rfl, ho⟩ := entriesOf_contains hobjs
  have hpayload : o.isEmpty = false := by
    cases o with
    | obj kvs =>
      cases kvs with
      | nil => cases ho
      | cons => rfl
    | null | bool | int | float | str | arr => cases ho
  change (⟨false, ⟨!o.isEmpty⟩⟩ : ExcludeCamSettingData) = _
  rw [hpayload]
  rfl

/-- One delivered call leaves the test right exactly when it has a payload. -/
theorem skipsFrames_step {s s' : ExclusionState} {call : ExclusionCall}
    (h : s.step call = some s') :
    (s.Delivered call → (s'.skipsFrames = true ↔ s'.excludeSetting.fields.isExclude = true)) ↔
      s.NonemptyPayload call := by
  -- after a delivered call the copy is the data of one of its invocations
  have hcopy : s.Delivered call →
      (s.callback, s'.excludeSetting) ∈ (perform s.manager call).2 := by
    intro hdel
    cases h
    exact mem_of_deliver hdel
  cases call with
  | updateTargetUnit u j =>
    constructor
    · intro hfollow hu hc
      have hdel : s.Delivered (.updateTargetUnit u j) :=
        ⟨_, invoked_of_updateTargetUnit.mpr ⟨hu, hc, rfl⟩⟩
      obtain ⟨-, -, heq⟩ := invoked_of_updateTargetUnit.mp (hcopy hdel)
      have hskip := hfollow hdel
      rw [skipsFrames, heq] at hskip
      simpa using hskip
    · intro hok hdel
      obtain ⟨hu, hc, heq⟩ := invoked_of_updateTargetUnit.mp (hcopy hdel)
      rw [skipsFrames, heq, hok hu hc]
  | renewAfterReset order j =>
    refine ⟨fun _ => trivial, fun _ hdel => ?_⟩
    rw [skipsFrames, invoked_of_renewAfterReset (hcopy hdel)]
    simp

/-- **The inference loop follows the setting exactly when no empty update is delivered.** Over
every sequence of calls: after each call that is delivered to the unit the loop skips frames if
and only if the data it delivered exclude the camera, just in case every `UpdateTargetUnit` that
finds the callback of the unit has a payload. -/
theorem skipsFrames_iff_isExclude (s₀ : ExclusionState) (calls : List ExclusionCall) :
    (∀ pre call post s s', calls = pre ++ call :: post →
        runFrom ExclusionState.step s₀ pre = some s → s.step call = some s' → s.Delivered call →
          (s'.skipsFrames = true ↔ s'.excludeSetting.fields.isExclude = true)) ↔
      Guarded ExclusionState.step NonemptyPayload s₀ calls := by
  rw [guarded_iff]
  constructor
  · intro h pre call post s heq hrun
    exact (skipsFrames_step rfl).mp (h pre call post s _ heq hrun rfl)
  · intro h pre call post s s' heq hrun hstep
    exact (skipsFrames_step hstep).mpr (h pre call post s heq hrun)

/-- An excluded camera with one unit. -/
def excludedCamera : ExclusionState :=
  ⟨(((SettingManagerBase.new "CameraId" true).updateTargetUnit 1
    (.arr [.obj [("CameraId", .int 1)]])).2.1).registerCallback 1 0, 0, ⟨false, ⟨true⟩⟩⟩

/-- The update that clears an exclusion leaves the unit skipping frames. -/
theorem not_skipsFrames_iff_isExclude :
    ¬ ∀ (s₀ : ExclusionState) (calls : List ExclusionCall) (pre post : List ExclusionCall)
        (call : ExclusionCall) (s s' : ExclusionState), calls = pre ++ call :: post →
          runFrom ExclusionState.step s₀ pre = some s → s.step call = some s' →
            s.Delivered call →
              (s'.skipsFrames = true ↔ s'.excludeSetting.fields.isExclude = true) := by
  intro h
  have hfollow := h excludedCamera [.updateTargetUnit 1 .array] [] [] (.updateTargetUnit 1 .array)
    excludedCamera _ rfl rfl rfl ⟨⟨false, ⟨false⟩⟩, by decide⟩
  revert hfollow
  decide

end DetectBase
