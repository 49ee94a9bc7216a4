import DetectBase.Setting.Concurrent

/-!
# Do subscribers end with the stored setting?

`Update` stores the new data and takes a snapshot under the data mutex, collects the callbacks under
the callback mutex, and invokes them with the snapshot outside both. Two updates of one setter may
therefore deliver in the opposite order to the one in which they stored, and a subscriber may be
left with the older data for good.

The condition that decides is on the single invocation: a callback is not handed a snapshot when it
has already been handed a newer one. Under it, a callback that is registered throughout ends with
the data that `GetSetting` returns (`DetectBase.delivered_eq_getSetting`). The invariant behind it
(`DetectBase.Converging`) says where the newest data is at any time: it was the last to be
delivered, or some thread still owes it to the callback.

There is a second way to be left behind, and the guard has to exclude it too: an updater that throws
after it has changed the data leaves it changed, and nobody is told.
-/

namespace DetectBase

open SettingManagerBase SettingSystem

variable {β : Type}

/-! ### What a callback is owed and has been given -/

namespace Position

/-- The snapshot of the setter `p` that a thread is delivering. -/
def carries (p : ℕ) : Position β → Option (Snapshot β)
  | updateCollect q d => if q = p then some d else none
  | invoke q d _ _ => if q = p then some d else none
  | _ => none

/-- The snapshot of the setter `p` that a thread is going to hand to the callback `c`, provided that
`c` stays registered. -/
def owes (p : ℕ) (c : Uuid) : Position β → Option (Snapshot β)
  | updateCollect q d => if q = p then some d else none
  | invoke q d pending _ => if q = p ∧ c ∈ pending then some d else none
  | _ => none

theorem owes_of_carries_eq_none {p : ℕ} {c : Uuid} {pos : Position β}
    (h : pos.carries p = none) : pos.owes p c = none := by
  cases pos with
  | updateCollect q d => exact h
  | invoke q d pending rest =>
    rw [carries] at h
    rw [owes]
    by_cases hq : q = p
    · rw [if_pos hq] at h
      cases h
    · exact if_neg fun hcon => hq hcon.1
  | _ => rfl

@[simp] theorem owes_entry (p : ℕ) (c : Uuid) (op : Operation) :
    (op.entry : Position β).owes p c = none := by
  cases op <;> simp only [Operation.entry] <;> try split_ifs
  all_goals rfl

end Position

/-- What the callback `c` has been handed by the setter `p`, the latest first. -/
def SettingSystem.delivered (s : SettingSystem β) (p : ℕ) (c : Uuid) : List (Snapshot β) :=
  s.log.filterMap fun
    | .invoked q c' d => if q = p ∧ c' = c then some d else none
    | _ => none

/-! ### Steps that store nothing -/

/-- A manager has become another without any update: the data of the setters in use are the
same. -/
structure SameData (m m' : SettingManagerBase β) : Prop where
  next_le : m.next ≤ m'.next
  isInitialized : ∀ p < m.next, (m'.heap p).isInitialized = (m.heap p).isInitialized
  settingData : ∀ p < m.next, (m'.heap p).settingData = (m.heap p).settingData

namespace SameData

variable {m m' m'' : SettingManagerBase β}

theorem refl (m : SettingManagerBase β) : SameData m m := ⟨le_rfl, fun _ _ => rfl, fun _ _ => rfl⟩

theorem trans (h : SameData m m') (h' : SameData m' m'') : SameData m m'' where
  next_le := h.next_le.trans h'.next_le
  isInitialized p hp :=
    (h'.isInitialized p (lt_of_lt_of_le hp h.next_le)).trans (h.isInitialized p hp)
  settingData p hp := (h'.settingData p (lt_of_lt_of_le hp h.next_le)).trans (h.settingData p hp)

theorem modifySetter (m : SettingManagerBase β) (q : ℕ) {f : SetterBase β → SetterBase β}
    (hinit : ∀ x, (f x).isInitialized = x.isInitialized)
    (hdata : ∀ x, (f x).settingData = x.settingData) : SameData m (m.modifySetter q f) where
  next_le := le_rfl
  isInitialized p _ := by
    rcases eq_or_ne p q with rfl | hne
    · simp [hinit]
    · simp [Function.update_of_ne hne]
  settingData p _ := by
    rcases eq_or_ne p q with rfl | hne
    · simp [hdata]
    · simp [Function.update_of_ne hne]

theorem allocate (m : SettingManagerBase β) (x : SetterBase β) : SameData m (m.allocate x) where
  next_le := Nat.le_succ _
  isInitialized p hp := by simp [Function.update_of_ne (ne_of_lt hp)]
  settingData p hp := by simp [Function.update_of_ne (ne_of_lt hp)]

theorem restoreUnit (m : SettingManagerBase β) (u : UnitID) (cs : List Uuid) :
    SameData m (m.restoreUnit u cs) := by
  rw [SettingManagerBase.restoreUnit]
  split
  · exact modifySetter m _ (fun _ => rfl) fun _ => rfl
  · exact refl m

theorem attachUnit (m : SettingManagerBase β) (p : ℕ) (stolen : Option (List Uuid)) :
    SameData m (m.attachUnit p stolen) := by
  unfold SettingManagerBase.attachUnit
  split
  · exact modifySetter m _ (fun _ => rfl) fun _ => rfl
  · exact refl m

theorem removeTargetUnit (m : SettingManagerBase β) (u : UnitID) :
    SameData m (m.removeTargetUnit u) := by
  rw [SettingManagerBase.removeTargetUnit]
  split_ifs
  · exact refl m
  · exact ⟨le_rfl, fun _ _ => rfl, fun _ _ => rfl⟩

variable [SettingData β]

theorem findOrCreate (m : SettingManagerBase β) (u : UnitID) :
    SameData m (m.findOrCreate u).2 := by
  rw [SettingManagerBase.findOrCreate]
  split
  · exact refl m
  · have h := allocate m (SetterBase.new m.needSetterDataLock)
    exact ⟨h.next_le, h.isInitialized, h.settingData⟩

theorem prepareUnit {r r' : Renewal} {u : UnitID} {objs : List Json}
    (h : m.prepareUnit r u objs = .ok (m', r')) : SameData m m' := by
  rcases prepareUnit_ok h with ⟨-, rfl, -⟩ | ⟨-, -, ⟨old, -, rfl, -⟩ | ⟨-, rfl, -⟩⟩
  · exact refl m'
  · have hsteal : SameData m (m.modifySetter old (SetterBase.setCallbacks [])) :=
      modifySetter m old (fun _ => rfl) fun _ => rfl
    exact hsteal.trans (allocate _ _)
  · exact allocate m _

end SameData

section Steps

variable [SettingData β] {s s' : SettingSystem β} {t p : ℕ} {c : Uuid}

/-- A step stores an update, or fails to, or leaves all data alone. -/
theorem Step.sameData {a : Act} (h : Step s t a s') :
    (SameData s.manager s'.manager ∧ s'.version = s.version ∧
      ∀ q j, s.threads t ≠ .updateStore q j) ∨
    ∃ q j x r, s.threads t = .updateStore q j ∧
      (s.manager.heap q).updateInternal j = (r, x) ∧
      s'.manager = s.manager.modifySetter q (fun _ => x) ∧
      ((r = .ok true ∧ s'.version = Function.update s.version q (s.version q + 1) ∧
        s'.threads t = .updateCollect q ⟨x.settingData, s.version q + 1⟩) ∨
      (r ≠ .ok true ∧ s'.version = s.version ∧ s'.threads t = .idle)) := by
  cases h with
  | @updateStored q j x hpos hres =>
    exact Or.inr ⟨q, j, x, .ok true, hpos, hres, rfl, Or.inl ⟨rfl, rfl, by simp⟩⟩
  | @updateFailed q j x r hpos hres hne =>
    exact Or.inr ⟨q, j, x, r, hpos, hres, rfl, Or.inr ⟨hne, rfl, by simp⟩⟩
  | updateFind hpos | registerFind hpos =>
    exact Or.inl ⟨SameData.findOrCreate _ _, rfl, by simp [hpos]⟩
  | registerInsert hpos | unregisterErase hpos | unregisterNone hpos =>
    exact Or.inl ⟨SameData.modifySetter _ _ (fun _ => rfl) fun _ => rfl, rfl, by simp [hpos]⟩
  | remove hpos => exact Or.inl ⟨SameData.removeTargetUnit _ _, rfl, by simp [hpos]⟩
  | prepareUnit hpos hu hres => exact Or.inl ⟨SameData.prepareUnit hres, rfl, by simp [hpos]⟩
  | restoreUnit hpos => exact Or.inl ⟨SameData.restoreUnit _ _ _, rfl, by simp [hpos]⟩
  | attachUnit hpos => exact Or.inl ⟨SameData.attachUnit _ _ _, rfl, by simp [hpos]⟩
  | swap hpos => exact Or.inl ⟨⟨le_rfl, fun _ _ => rfl, fun _ _ => rfl⟩, rfl, by simp [hpos]⟩
  | call hpos | updateCollect hpos | invoke hpos | updateDone hpos | triggered hpos
  | unregisterDone hpos | unregisterMiss hpos | unregisterFind hpos | unregisterReturn hpos
  | renewNoArray hpos | renewNoUnits hpos | renewStart hpos | prepareThrow hpos | prepared hpos
  | rollbackNone hpos | rollback hpos | restored hpos | attached hpos | gather hpos
  | trigger hpos | renewed hpos => exact Or.inl ⟨SameData.refl _, rfl, by simp [hpos]⟩

/-- A delivery: the step hands a snapshot of `p` to `c`. -/
def Delivers (p : ℕ) (c : Uuid) (s : SettingSystem β) (ta : ℕ × Act) (d : Snapshot β) : Prop :=
  ta.2 = .invoke c ∧ ∃ pending rest, s.threads ta.1 = .invoke p d pending rest

/-- What has been delivered grows by deliveries only. -/
theorem Step.delivered_cases {a : Act} (h : Step s t a s') :
    (s'.delivered p c = s.delivered p c ∧ ∀ d, ¬ Delivers p c s (t, a) d) ∨
      ∃ d, Delivers p c s (t, a) d ∧ s'.delivered p c = d :: s.delivered p c := by
  cases h with
  | @invoke q d pending rest c' hpos hc =>
    by_cases hq : q = p ∧ c' = c
    · obtain ⟨rfl, rfl⟩ := hq
      refine Or.inr ⟨d, ⟨rfl, pending, rest, hpos⟩, ?_⟩
      simp [SettingSystem.delivered]
    · refine Or.inl ⟨by simp [SettingSystem.delivered, hq], ?_⟩
      rintro d' ⟨hact, pending', rest', hpos'⟩
      cases hact
      cases hpos.symm.trans hpos'
      exact hq ⟨rfl, rfl⟩
  | registerInsert | unregisterReturn | renewNoArray | rollbackNone | restored | renewed =>
    exact Or.inl ⟨by simp [SettingSystem.delivered], fun d hd => nomatch hd.1⟩
  | _ => exact Or.inl ⟨rfl, fun d hd => nomatch hd.1⟩

/-- What is owed to a registered callback stays owed until it is delivered, and the only new
debts are those of a stored update and of a reset. -/
theorem Step.owes {a : Act} (h : Step s t a s') (hreg : c ∈ (s.manager.heap p).callbacks)
    (t' : ℕ) :
    (s'.threads t').owes p c = (s.threads t').owes p c ∨
    (t' = t ∧ (∃ j, s.threads t = .updateStore p j)) ∨
    (t' = t ∧ ∃ d, Delivers p c s (t, a) d) ∨
    (t' = t ∧ (s.threads t').owes p c = none ∧ (s.manager.heap p).isInitialized = true ∧
      (s'.threads t').owes p c = some (s.snapshot p)) := by
  rcases eq_or_ne t' t with rfl | hne
  · cases h with
    | @updateStored q j x hpos hres =>
      rcases eq_or_ne q p with rfl | hq
      · exact Or.inr (Or.inl ⟨rfl, j, hpos⟩)
      · exact Or.inl (by simp [Position.owes, hpos, hq])
    | @updateCollect q d hpos =>
      left
      rcases eq_or_ne q p with rfl | hq
      · simp [Position.owes, hpos, hreg]
      · simp [Position.owes, hpos, hq]
    | @invoke q d pending rest c' hpos hc =>
      by_cases hq : q = p ∧ c' = c
      · obtain ⟨rfl, rfl⟩ := hq
        exact Or.inr (Or.inr (Or.inl ⟨rfl, d, rfl, pending, rest, hpos⟩))
      · left
        rcases eq_or_ne q p with rfl | hq'
        · have hne : c ≠ c' := fun heq => hq ⟨rfl, heq.symm⟩
          simp [Position.owes, hpos, List.mem_erase_of_ne hne]
        · simp [Position.owes, hpos, hq']
    | @trigger rest q hpos hq =>
      by_cases hp : q = p ∧ (s.manager.heap q).isInitialized = true
      · obtain ⟨rfl, hinit⟩ := hp
        exact Or.inr (Or.inr (Or.inr ⟨rfl, by simp [Position.owes, hpos], hinit, by
          simp [Position.owes, hinit, hreg]⟩))
      · left
        rcases eq_or_ne q p with rfl | hq'
        · have hinit : ¬ (s.manager.heap q).isInitialized = true := fun h => hp ⟨rfl, h⟩
          simp [Position.owes, hpos, hinit]
        · simp [Position.owes, hpos, hq']
    | call hpos =>
      left
      simp only [goto_threads, Function.update_self, Position.owes_entry, hpos]
      rfl
    | updateFind hpos | updateFailed hpos | updateDone hpos | triggered hpos | registerFind hpos
    | registerInsert hpos | unregisterDone hpos | unregisterMiss hpos | unregisterFind hpos
    | unregisterErase hpos | unregisterNone hpos | unregisterReturn hpos | remove hpos
    | renewNoArray hpos | renewNoUnits hpos | renewStart hpos | prepareUnit hpos
    | prepareThrow hpos | prepared hpos | rollbackNone hpos | rollback hpos | restoreUnit hpos
    | restored hpos | attachUnit hpos | attached hpos | swap hpos | gather hpos | renewed hpos =>
      exact Or.inl (by simp [Position.owes, hpos])
  · exact Or.inl (by rw [h.threads_ne hne])

end Steps

/-! ### Convergence -/

/-- **The guard on updates**, for a setter and a callback: a snapshot is not handed over when a
newer one has been already, and an update that does not succeed leaves the setting as it was. -/
structure InOrder [SettingData β] (p : ℕ) (c : Uuid) (s : SettingSystem β) (ta : ℕ × Act) :
    Prop where
  overtakes : ∀ d, Delivers p c s ta d → ∀ e ∈ s.delivered p c, e.version ≤ d.version
  undone : ∀ j, s.threads ta.1 = .updateStore p j →
    ∀ e, ((s.manager.heap p).updateInternal j).1 = .error e →
      ((s.manager.heap p).updateInternal j).2.getSetting = (s.manager.heap p).getSetting

/-- Where the newest data of the setter `p` is, in a run that started in `s₀`. -/
structure Converging (s₀ : SettingSystem β) (p : ℕ) (c : Uuid) (s : SettingSystem β) : Prop where
  lt_next : p < s.manager.next
  le_version : s₀.version p ≤ s.version p
  /-- Before the first update nothing changes. -/
  unchanged : s.version p = s₀.version p →
    (s.manager.heap p).getSetting = (s₀.manager.heap p).getSetting
  /-- After it there is a setting. -/
  isInitialized : s₀.version p < s.version p → (s.manager.heap p).isInitialized = true
  /-- A snapshot with the stamp of the last update holds the current data. -/
  current : ∀ d, (d ∈ s.delivered p c ∨ ∃ t, (s.threads t).owes p c = some d) →
    d.version ≤ s.version p ∧ (s₀.version p < d.version → d.version = s.version p →
      d.data = (s.manager.heap p).settingData)
  /-- The newest data was the last to be delivered, or is owed. -/
  newest : s₀.version p < s.version p →
    (∃ d, (s.delivered p c).head? = some d ∧ d.version = s.version p) ∨
      ∃ t d, (s.threads t).owes p c = some d ∧ d.version = s.version p

namespace Converging

variable {s₀ s s' : SettingSystem β} {p : ℕ} {c : Uuid}

/-- A step that stores nothing keeps the invariant, provided that deliveries come in order. -/
theorem of_same (h : Converging s₀ p c s) (hnext : p < s'.manager.next)
    (hver : s'.version p = s.version p)
    (hget : (s'.manager.heap p).getSetting = (s.manager.heap p).getSetting)
    (hinit : (s'.manager.heap p).isInitialized = (s.manager.heap p).isInitialized)
    (hdel : s'.delivered p c = s.delivered p c ∨ ∃ d t, s'.delivered p c = d :: s.delivered p c ∧
      (s.threads t).owes p c = some d ∧ ∀ e ∈ s.delivered p c, e.version ≤ d.version)
    (hnew : ∀ t d, (s'.threads t).owes p c = some d → (s.threads t).owes p c = some d ∨
      ((s.manager.heap p).isInitialized = true ∧ d = s.snapshot p))
    (hkeep : ∀ t d, (s.threads t).owes p c = some d → (s'.threads t).owes p c = some d ∨
      (s'.delivered p c).head? = some d) : Converging s₀ p c s' := by
  have hdata : s₀.version p < s.version p →
      (s'.manager.heap p).settingData = (s.manager.heap p).settingData :=
    fun hlt => SetterBase.settingData_of_getSetting hget (h.isInitialized hlt)
  refine ⟨hnext, hver ▸ h.le_version, fun heq => hget.trans (h.unchanged (hver ▸ heq)),
    fun hlt => hinit.trans (h.isInitialized (hver ▸ hlt)), fun d hd => ?_, fun hlt => ?_⟩
  · -- a snapshot that is new to the callback was owed before, or has just been taken
    have hold : (d ∈ s.delivered p c ∨ ∃ t, (s.threads t).owes p c = some d) ∨
        ((s.manager.heap p).isInitialized = true ∧ d = s.snapshot p) := by
      rcases hd with hd | ⟨t, hd⟩
      · rcases hdel with heq | ⟨d', t, heq, howed, -⟩
        · exact Or.inl (Or.inl (heq ▸ hd))
        · rw [heq, List.mem_cons] at hd
          rcases hd with rfl | hd
          · exact Or.inl (Or.inr ⟨t, howed⟩)
          · exact Or.inl (Or.inl hd)
      · exact (hnew t d hd).imp (fun howed => Or.inr ⟨t, howed⟩) id
    rw [hver]
    rcases hold with hold | ⟨hinit', rfl⟩
    · obtain ⟨hle, hcur⟩ := h.current d hold
      refine ⟨hle, fun hlt heq => ?_⟩
      rw [hdata (heq ▸ hlt)]
      exact hcur hlt heq
    · exact ⟨le_rfl, fun _ _ => (SetterBase.settingData_of_getSetting hget hinit').symm⟩
  · rw [hver] at hlt ⊢
    rcases h.newest hlt with ⟨e, he, hev⟩ | ⟨t, d, hd, hdv⟩
    · rcases hdel with heq | ⟨d, t, heq, howed, hord⟩
      · exact Or.inl ⟨e, by rw [heq]; exact he, hev⟩
      · have hle : e.version ≤ d.version := hord e (List.mem_of_head? he)
        have hge : d.version ≤ s.version p := (h.current d (Or.inr ⟨t, howed⟩)).1
        exact Or.inl ⟨d, by rw [heq]; rfl, by omega⟩
    · rcases hkeep t d hd with hd' | hd'
      · exact Or.inr ⟨t, d, hd', hdv⟩
      · exact Or.inl ⟨d, hd', hdv⟩

variable [SettingData β] {t : ℕ} {a : Act}

/-- A thread that is about to store delivers nothing. -/
theorem delivered_of_store (hstep : Step s t a s') {j : Json}
    (hpos : s.threads t = .updateStore p j) : s'.delivered p c = s.delivered p c := by
  rcases hstep.delivered_cases with ⟨heq, -⟩ | ⟨d, ⟨-, pending, rest, hpos'⟩, -⟩
  · exact heq
  · cases hpos.symm.trans hpos'

/-- An update that is stored: the thread owes the newest data. -/
theorem stored (h : Converging s₀ p c s) (hstep : Step s t a s') {j : Json} {x : SetterBase β}
    (hpos : s.threads t = .updateStore p j)
    (hres : (s.manager.heap p).updateInternal j = (.ok true, x))
    (hm : s'.manager = s.manager.modifySetter p fun _ => x)
    (hver : s'.version = Function.update s.version p (s.version p + 1))
    (hthread : s'.threads t = .updateCollect p ⟨x.settingData, s.version p + 1⟩) :
    Converging s₀ p c s' := by
  have hheap : s'.manager.heap p = x := by rw [hm, modifySetter_heap, Function.update_self]
  have hversion : s'.version p = s.version p + 1 := by rw [hver, Function.update_self]
  have howes : (s'.threads t).owes p c = some ⟨x.settingData, s.version p + 1⟩ := by
    simp [hthread, Position.owes]
  have hle := h.le_version
  refine ⟨by rw [hm]; exact h.lt_next, by omega, fun heq => by omega, fun _ => ?_,
    fun d hd => ?_, fun _ => Or.inr ⟨t, _, howes, hversion.symm⟩⟩
  · rw [hheap]
    exact SetterBase.isInitialized_of_updateInternal hres
  · have hold : (d ∈ s.delivered p c ∨ ∃ t, (s.threads t).owes p c = some d) ∨
        d = ⟨x.settingData, s.version p + 1⟩ := by
      rcases hd with hd | ⟨t', hd⟩
      · exact Or.inl (Or.inl (delivered_of_store hstep hpos ▸ hd))
      · rcases eq_or_ne t' t with rfl | hne
        · exact Or.inr (Option.some.inj (hd.symm.trans howes))
        · exact Or.inl (Or.inr ⟨t', hstep.threads_ne hne ▸ hd⟩)
    rcases hold with hold | rfl
    · have hlt := (h.current d hold).1
      exact ⟨by omega, fun _ heq => by omega⟩
    · exact ⟨hversion.ge, fun _ _ => by rw [hheap]⟩

/-- An update that fails changes nothing that can be seen. -/
theorem failed (h : Converging s₀ p c s) (hstep : Step s t a s') {j : Json} {x : SetterBase β}
    {r : Except Json.Exception Bool} (hok : InOrder p c s (t, a))
    (hpos : s.threads t = .updateStore p j)
    (hres : (s.manager.heap p).updateInternal j = (r, x)) (hr : r ≠ .ok true)
    (hm : s'.manager = s.manager.modifySetter p fun _ => x) (hver : s'.version = s.version)
    (hthread : s'.threads t = .idle) : Converging s₀ p c s' := by
  have hheap : s'.manager.heap p = x := by rw [hm, modifySetter_heap, Function.update_self]
  have hget : x.getSetting = (s.manager.heap p).getSetting := by
    rcases r with e | b
    · have hundone := hok.undone j hpos e
      rw [hres] at hundone
      exact hundone rfl
    · cases b with
      | false => exact SetterBase.getSetting_of_refused hres
      | true => exact absurd rfl hr
  have howes : ∀ t', (s'.threads t').owes p c = (s.threads t').owes p c := by
    intro t'
    rcases eq_or_ne t' t with rfl | hne
    · rw [hthread, hpos]
      rfl
    · rw [hstep.threads_ne hne]
  refine h.of_same (by rw [hm]; exact h.lt_next) (by rw [hver]) (by rw [hheap]; exact hget) ?_
    (Or.inl (delivered_of_store hstep hpos)) (fun t' d hd => Or.inl (howes t' ▸ hd))
    fun t' d hd => Or.inl ((howes t').symm ▸ hd)
  rw [hheap]
  exact SetterBase.isInitialized_eq_of_updateInternal hres hr

/-- A step whose effect on `p` is not an update. -/
theorem quiet (h : Converging s₀ p c s) (hstep : Step s t a s')
    (hreg : c ∈ (s.manager.heap p).callbacks) (hok : InOrder p c s (t, a))
    (hnot : ∀ j, s.threads t ≠ .updateStore p j) (hnext : p < s'.manager.next)
    (hver : s'.version p = s.version p)
    (hinit : (s'.manager.heap p).isInitialized = (s.manager.heap p).isInitialized)
    (hdata : (s'.manager.heap p).settingData = (s.manager.heap p).settingData) :
    Converging s₀ p c s' := by
  have hget : (s'.manager.heap p).getSetting = (s.manager.heap p).getSetting := by
    rw [SetterBase.getSetting, SetterBase.getSetting, hinit, hdata]
  -- a delivery needs a thread that owes the snapshot
  have howed : ∀ d, Delivers p c s (t, a) d → (s.threads t).owes p c = some d := by
    rintro d ⟨hact, pending, rest, hpos⟩
    cases hact
    cases hstep with
    | invoke hpos' hc =>
      cases hpos.symm.trans hpos'
      simp [Position.owes, hpos, hc]
  refine h.of_same hnext hver hget hinit ?_ (fun t' d hd => ?_) fun t' d hd => ?_
  · rcases hstep.delivered_cases with ⟨heq, -⟩ | ⟨d, hd, heq⟩
    · exact Or.inl heq
    · exact Or.inr ⟨d, t, heq, howed d hd, hok.overtakes d hd⟩
  · rcases hstep.owes hreg t' with heq | ⟨-, j, hpos⟩ | ⟨rfl, d', hd'⟩ | ⟨-, -, hinit', hsnap⟩
    · exact Or.inl (heq ▸ hd)
    · exact absurd hpos (hnot j)
    · obtain ⟨hact, pending, rest, hpos⟩ := hd'
      cases hact
      cases hstep with
      | invoke hpos' hc =>
        cases hpos.symm.trans hpos'
        simp only [goto_threads, Function.update_self, Position.owes] at hd
        split_ifs at hd with hmem
        cases hd
        exact Or.inl (howed d ⟨rfl, pending, rest, hpos⟩)
    · exact Or.inr ⟨hinit', Option.some.inj (hd.symm.trans hsnap)⟩
  · rcases hstep.owes hreg t' with heq | ⟨-, j, hpos⟩ | ⟨rfl, d', hd'⟩ | ⟨-, hnone, -⟩
    · exact Or.inl (heq ▸ hd)
    · exact absurd hpos (hnot j)
    · rcases hstep.delivered_cases with ⟨-, hno⟩ | ⟨d'', hd'', heq⟩
      · exact absurd hd' (hno d')
      · cases (howed d'' hd'').symm.trans hd
        exact Or.inr (by rw [heq]; rfl)
    · rw [hnone] at hd
      cases hd

theorem step {ta : ℕ × Act} (h : Converging s₀ p c s)
    (hreg : c ∈ (s.manager.heap p).callbacks) (hok : InOrder p c s ta)
    (hrun : s.step ta = some s') : Converging s₀ p c s' := by
  obtain ⟨t, a⟩ := ta
  have hstep : Step s t a s' := step_sound hrun
  rcases hstep.sameData with ⟨hsame, hver, hnot⟩ | ⟨q, j, x, r, hpos, hres, hm, hcase⟩
  · exact h.quiet hstep hreg hok (hnot p) (lt_of_lt_of_le h.lt_next hsame.next_le)
      (by rw [hver]) (hsame.isInitialized p h.lt_next) (hsame.settingData p h.lt_next)
  · have hnext : p < s'.manager.next := by rw [hm]; exact h.lt_next
    rcases eq_or_ne q p with rfl | hq
    · rcases hcase with ⟨rfl, hver, hthread⟩ | ⟨hr, hver, hthread⟩
      · exact h.stored hstep hpos hres hm hver hthread
      · exact h.failed hstep hok hpos hres hr hm hver hthread
    · -- an update of another setter
      have hheap : s'.manager.heap p = s.manager.heap p := by
        rw [hm, modifySetter_heap, Function.update_of_ne hq.symm]
      refine h.quiet hstep hreg hok (fun j' hj' => ?_) hnext ?_ (by rw [hheap]) (by rw [hheap])
      · cases hpos.symm.trans hj'
        exact hq rfl
      · rcases hcase with ⟨-, hver, -⟩ | ⟨-, hver, -⟩
        · rw [hver, Function.update_of_ne hq.symm]
        · rw [hver]

end Converging

/-- Nothing has been delivered yet, and no update of the setter `p` is under way that has stored
its data. -/
structure AtRest (p : ℕ) (s : SettingSystem β) : Prop where
  lt_next : p < s.manager.next
  carries : ∀ t, (s.threads t).carries p = none
  log : s.log = []

theorem AtRest.converging {p : ℕ} {s : SettingSystem β} (h : AtRest p s) (c : Uuid) :
    Converging s p c s := by
  have hdel : s.delivered p c = [] := by rw [SettingSystem.delivered, h.log]; rfl
  have howes : ∀ t, (s.threads t).owes p c = none :=
    fun t => Position.owes_of_carries_eq_none (h.carries t)
  refine ⟨h.lt_next, le_rfl, fun _ => rfl, fun hlt => absurd hlt (lt_irrefl _), fun d hd => ?_,
    fun hlt => absurd hlt (lt_irrefl _)⟩
  rcases hd with hd | ⟨t, hd⟩
  · rw [hdel] at hd
    cases hd
  · rw [howes t] at hd
    cases hd

variable [SettingData β]

/-- **A subscriber ends with the stored setting.** Take a run in which the callback `c` is
registered at the setter `p` throughout, no snapshot of `p` is handed to `c` after a newer one, and
no update of `p` throws after it has changed the data. Once no update that has stored is still
under way, the last data that `c` was invoked with are those that `GetSetting` returns – or no
update has been stored, and the setting is what it was. -/
theorem delivered_eq_getSetting (p : ℕ) (c : Uuid) (s₀ s : SettingSystem β)
    (as : List (ℕ × Act)) (hstart : AtRest p s₀)
    (hreg : Guarded step (fun s _ => c ∈ (s.manager.heap p).callbacks) s₀ as)
    (hok : Guarded step (InOrder p c) s₀ as) (hrun : runFrom step s₀ as = some s)
    (hend : ∀ t, (s.threads t).carries p = none) :
    (s.version p = s₀.version p ∧
        (s.manager.heap p).getSetting = (s₀.manager.heap p).getSetting) ∨
      ∃ d, (s.delivered p c).head? = some d ∧ (s.manager.heap p).getSetting = some d.data := by
  have h : Converging s₀ p c s :=
    (hreg.and hok).invariant (fun _ _ _ hinv hguard hstep => hinv.step hguard.1 hguard.2 hstep)
      (hstart.converging c) hrun
  rcases eq_or_lt_of_le h.le_version with heq | hlt
  · exact Or.inl ⟨heq.symm, h.unchanged heq.symm⟩
  · rcases h.newest hlt with ⟨d, hd, hdv⟩ | ⟨t, d, hd, -⟩
    · refine Or.inr ⟨d, hd, ?_⟩
      have hcur := (h.current d (Or.inl (List.mem_of_head? hd))).2 (hdv ▸ hlt) hdv
      rw [SetterBase.getSetting, if_pos (h.isInitialized hlt), hcur]
    · rw [Position.owes_of_carries_eq_none (hend t)] at hd
      cases hd

theorem atRest_oneSubscriber : AtRest 0 oneSubscriber :=
  ⟨Nat.one_pos, fun _ => rfl, rfl⟩

/-- Two updates of the unit 1: the first includes the camera, the second excludes it. The threads
store in this order, and deliver in the order given. -/
def twoUpdates (first second : ℕ) : List (ℕ × Act) :=
  [(1, .call (.updateTargetUnit 1 .array)), (2, .call (.updateTargetUnit 1 (.arr [.bool true]))),
    (1, .go), (2, .go), (1, .go), (2, .go), (1, .go), (2, .go),
    (first, .invoke 0), (second, .invoke 0), (1, .go), (2, .go)]

/-- Two updates that deliver in the order in which they have stored. -/
theorem delivered_eq_getSetting_twoUpdates :
    ((runFrom step oneSubscriber (twoUpdates 1 2)).get rfl).version 0 = oneSubscriber.version 0 ∧
        (((runFrom step oneSubscriber (twoUpdates 1 2)).get rfl).manager.heap 0).getSetting =
          (oneSubscriber.manager.heap 0).getSetting ∨
      ∃ d, (((runFrom step oneSubscriber (twoUpdates 1 2)).get rfl).delivered 0 0).head? = some d ∧
        (((runFrom step oneSubscriber (twoUpdates 1 2)).get rfl).manager.heap 0).getSetting =
          some d.data := by
  refine delivered_eq_getSetting 0 0 oneSubscriber _ (twoUpdates 1 2) atRest_oneSubscriber ?_ ?_
    rfl fun t => ?_
  · iterate 12 refine ⟨by decide, fun s' hs => ?_⟩; cases hs
    trivial
  · -- the exclusion updater never throws, and of the two deliveries the second is the newer
    have hundone : ∀ (x : SetterBase ExcludeCam) (j : Json) (e : Json.Exception),
        (x.updateInternal j).1 ≠ .error e := nofun
    iterate 8
      refine ⟨⟨fun d hd => (nomatch hd.1), fun j _ e he => absurd he (hundone _ j e)⟩,
        fun s' hs => ?_⟩
      cases hs
    refine ⟨⟨fun d _ e he => (nomatch he), fun j _ e he => absurd he (hundone _ j e)⟩,
      fun s' hs => ?_⟩
    cases hs
    refine ⟨⟨?_, fun j _ e he => absurd he (hundone _ j e)⟩, fun s' hs => ?_⟩
    · rintro d ⟨-, pending, rest, hpos⟩ e he
      cases hpos
      rw [List.mem_singleton.mp he]
      decide
    cases hs
    iterate 2
      refine ⟨⟨fun d hd => (nomatch hd.1), fun j _ e he => absurd he (hundone _ j e)⟩,
        fun s' hs => ?_⟩
      cases hs
    trivial
  · match t with
    | 0 => rfl
    | 1 => rfl
    | 2 => rfl
    | t + 3 => rfl

/-- When the second update overtakes the first, the subscriber is left with the first. -/
theorem not_delivered_eq_getSetting :
    ¬ ∀ (p : ℕ) (c : Uuid) (s₀ s : SettingSystem ExcludeCam) (as : List (ℕ × Act)),
      AtRest p s₀ → Guarded step (fun s _ => c ∈ (s.manager.heap p).callbacks) s₀ as →
        runFrom step s₀ as = some s → (∀ t, (s.threads t).carries p = none) →
          ∀ d, (s.delivered p c).head? = some d →
            (s.manager.heap p).getSetting = some d.data := by
  intro h
  have hlast := h 0 0 oneSubscriber _ (twoUpdates 2 1) atRest_oneSubscriber ?_ rfl ?_ _ rfl
  · revert hlast
    decide
  · iterate 12 refine ⟨by decide, fun s' hs => ?_⟩; cases hs
    trivial
  · intro t
    match t with
    | 0 => rfl
    | 1 => rfl
    | 2 => rfl
    | t + 3 => rfl

end DetectBase
