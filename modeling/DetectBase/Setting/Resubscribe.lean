import DetectBase.Setting.Concurrent
import DetectBase.Setting.Reset

/-!
# Subscriptions across a reset

`RenewAfterReset` makes new setters and carries the callbacks of the old ones over. The map mutex is
released between the preparation and the swap, and other threads go on registering and updating.

A unit that the new data leave out, or whose entries are refused, is dropped together with its
callbacks: the comments of the source say so. For every other unit the callbacks that its setter
holds when the reset takes the map mutex arrive in the new setter, whatever the other threads do
meanwhile, and when the reset fails they are back in the old one; those registered after the swap
stay as well (`DetectBase.callback_survives_reset`). The run may contain any registrations, updates,
removals of other units and cancellations of other callbacks; it must not contain a second reset.

The proof follows the callback. `DetectBase.Tracks` says where it is for each position of the thread
that resets, `DetectBase.Preserves` what the other threads cannot do to it.
-/

namespace DetectBase

open SettingManagerBase SettingSystem

variable {β : Type}

/-! ### What other threads can do to a callback -/

/-- The callback `c` is registered for the unit `u`. -/
def Subscribed (m : SettingManagerBase β) (u : UnitID) (c : Uuid) : Prop :=
  ∃ p, m.settings.lookup u = some p ∧ c ∈ (m.heap p).callbacks

theorem subscribed_iff {m : SettingManagerBase β} {u : UnitID} {c : Uuid} :
    Subscribed m u c ↔ c ∈ m.callbacksOf u := by
  rw [Subscribed, callbacksOf]
  cases m.settings.lookup u with
  | none => simp
  | some p => simp

theorem lookup_of_keys_nil {γ : Type} {l : UnitMap γ} (h : l.keys = []) (v : UnitID) :
    l.lookup v = none :=
  AList.lookup_eq_none.mpr fun hmem => by
    rw [AList.mem_keys, h] at hmem
    cases hmem

/-- Setting the callbacks of another setter does not touch the unit `u`. -/
theorem Subscribed.setCallbacks {m : SettingManagerBase β} {u : UnitID} {c : Uuid} {q : ℕ}
    {cs : List Uuid} (h : Subscribed m u c) (hq : m.settings.lookup u ≠ some q) :
    Subscribed (m.modifySetter q (SetterBase.setCallbacks cs)) u c := by
  obtain ⟨p, hp, hc⟩ := h
  have hne : p ≠ q := fun heq => hq (heq ▸ hp)
  exact ⟨p, hp, by simpa [Function.update_of_ne hne] using hc⟩

/-- A change of the manager that moves neither the unit `u` nor the callback `c`. -/
structure Preserves (u : UnitID) (c : Uuid) (m m' : SettingManagerBase β) : Prop where
  next_le : m.next ≤ m'.next
  lookup : ∀ p, m.settings.lookup u = some p → m'.settings.lookup u = some p
  callbacks : ∀ p < m.next, c ∈ (m.heap p).callbacks → c ∈ (m'.heap p).callbacks
  needSetterDataLock : m'.needSetterDataLock = m.needSetterDataLock
  unitKeyName : m'.unitKeyName = m.unitKeyName

namespace Preserves

variable {u : UnitID} {c : Uuid} {m m' : SettingManagerBase β}

theorem refl (m : SettingManagerBase β) : Preserves u c m m :=
  ⟨le_rfl, fun _ h => h, fun _ _ h => h, rfl, rfl⟩

theorem subscribed (h : Preserves u c m m') (hwf : m.WF) (hs : Subscribed m u c) :
    Subscribed m' u c := by
  obtain ⟨p, hp, hc⟩ := hs
  exact ⟨p, h.lookup p hp, h.callbacks p (hwf.lt_next hp) hc⟩

theorem modifySetter (m : SettingManagerBase β) (q : ℕ) {f : SetterBase β → SetterBase β}
    (hf : c ∈ (m.heap q).callbacks → c ∈ (f (m.heap q)).callbacks) :
    Preserves u c m (m.modifySetter q f) where
  next_le := le_rfl
  lookup _ h := h
  callbacks p _ hc := by
    rcases eq_or_ne p q with rfl | hne
    · simpa using hf hc
    · simpa [Function.update_of_ne hne] using hc
  needSetterDataLock := rfl
  unitKeyName := rfl

theorem allocate (m : SettingManagerBase β) (x : SetterBase β) :
    Preserves u c m (m.allocate x) where
  next_le := Nat.le_succ _
  lookup _ h := h
  callbacks p hp hc := by simpa [Function.update_of_ne (ne_of_lt hp)] using hc
  needSetterDataLock := rfl
  unitKeyName := rfl

theorem removeTargetUnit (m : SettingManagerBase β) {v : UnitID} (hv : v ≠ u) :
    Preserves u c m (m.removeTargetUnit v) := by
  rw [SettingManagerBase.removeTargetUnit]
  split_ifs
  · exact refl m
  · exact ⟨le_rfl, fun p hp => by rw [← hp]; exact AList.lookup_erase_ne hv.symm,
      fun _ _ hc => hc, rfl, rfl⟩

variable [SettingData β]

theorem update {q : ℕ} {j : Json} {r : Except Json.Exception Bool} {x : SetterBase β}
    (hres : (m.heap q).updateInternal j = (r, x)) :
    Preserves u c m (m.modifySetter q fun _ => x) := by
  have hcb : x.callbacks = (m.heap q).callbacks := by
    rw [← SetterBase.callbacks_updateInternal (m.heap q) j, hres]
  exact modifySetter m q fun hc => hcb ▸ hc

theorem findOrCreate (m : SettingManagerBase β) (v : UnitID) :
    Preserves u c m (m.findOrCreate v).2 := by
  rw [SettingManagerBase.findOrCreate]
  split
  · exact refl m
  · next hnone =>
    have h : Preserves u c m (m.allocate (SetterBase.new m.needSetterDataLock)) := allocate m _
    refine ⟨h.next_le, fun p hp => ?_, h.callbacks, rfl, rfl⟩
    have hne : u ≠ v := by
      rintro rfl
      rw [hp] at hnone
      cases hnone
    rw [← hp]
    exact AList.lookup_insert_ne hne

end Preserves

namespace Position

/-- A position from which a thread neither resets nor cancels `c` nor removes `u`. -/
def Harmless (u : UnitID) (c : Uuid) : Position β → Prop
  | unregister subs => ∀ sub ∈ subs, sub.2 ≠ c
  | unregisterErase _ c' subs => c' ≠ c ∧ ∀ sub ∈ subs, sub.2 ≠ c
  | unregisterReturn _ subs => ∀ sub ∈ subs, sub.2 ≠ c
  | remove v => v ≠ u
  | renewStart _ | renewPrepare _ _ | renewRollback _ | renewRestore _ | renewAttach _ _
  | renewSwap _ | renewGather | renewTrigger _ | invoke _ _ _ (some _) => False
  | _ => True

end Position

/-- **The guard on the other threads**: none of them starts a reset, cancels `c` or removes `u`. -/
def Undisturbed (u : UnitID) (c : Uuid) (_ : SettingSystem β) (ta : ℕ × Act) : Prop :=
  ∀ op, ta.2 = .call op → (op.entry : Position β).Harmless u c

section Steps

variable [SettingData β] {s s' : SettingSystem β} {t : ℕ} {u : UnitID} {c : Uuid}

/-- A thread in a harmless position preserves the callback, finishes no reset, and stays
harmless. -/
theorem Step.harmless {a : Act} (h : Step s t a s') (hpos : (s.threads t).Harmless u c)
    (hok : Undisturbed u c s (t, a)) :
    Preserves u c s.manager s'.manager ∧
      (∀ b, .renewed t b ∈ s'.log → .renewed t b ∈ s.log) ∧ (s'.threads t).Harmless u c := by
  cases h with
  | @call op _ => exact ⟨.refl _, fun b hb => hb, by simpa using hok op rfl⟩
  | updateFind | registerFind =>
    exact ⟨.findOrCreate _ _, fun b hb => hb, by simp [Position.Harmless]⟩
  | updateStored _ hres | updateFailed _ hres =>
    exact ⟨.update hres, fun b hb => hb, by simp [Position.Harmless]⟩
  | registerInsert =>
    refine ⟨.modifySetter _ _ fun hc => List.mem_insert_of_mem hc, fun b hb => ?_, by
      simp [Position.Harmless]⟩
    exact (List.mem_cons.mp hb).resolve_left nofun
  | unregisterMiss h =>
    rw [h] at hpos
    refine ⟨.refl _, fun b hb => hb, ?_⟩
    simpa [Position.Harmless] using (List.forall_mem_cons.mp hpos).2
  | unregisterFind h =>
    rw [h] at hpos
    exact ⟨.refl _, fun b hb => hb, by simpa [Position.Harmless] using hpos⟩
  | unregisterErase h | unregisterNone h =>
    rw [h] at hpos
    refine ⟨.modifySetter _ _ fun hc => ?_, fun b hb => hb, by
      simpa [Position.Harmless] using hpos.2⟩
    exact List.mem_filter.mpr ⟨hc, by simpa using hpos.1.symm⟩
  | unregisterReturn h =>
    rw [h] at hpos
    refine ⟨.refl _, fun b hb => (List.mem_cons.mp hb).resolve_left nofun, ?_⟩
    simpa [Position.Harmless] using hpos
  | remove h =>
    rw [h] at hpos
    exact ⟨.removeTargetUnit _ hpos, fun b hb => hb, by simp [Position.Harmless]⟩
  | @invoke p d pending rest c' h =>
    rw [h] at hpos
    refine ⟨.refl _, fun b hb => (List.mem_cons.mp hb).resolve_left nofun, ?_⟩
    cases rest with
    | none => simp [Position.Harmless]
    | some rest => exact hpos.elim
  | triggered h | renewNoArray h | renewNoUnits h | renewStart h | prepareUnit h | prepareThrow h
  | prepared h | rollbackNone h | rollback h | restoreUnit h | restored h | attachUnit h
  | attached h | swap h | gather h | trigger h | renewed h =>
    rw [h] at hpos
    exact hpos.elim
  | updateCollect | updateDone | unregisterDone =>
    exact ⟨.refl _, fun b hb => hb, by simp [Position.Harmless]⟩

/-- The manager stays well formed, provided that a reset swaps a well-formed map in. -/
theorem Step.wf {a : Act} (h : Step s t a s') (hwf : s.manager.WF)
    (hswap : ∀ swap, s.threads t = .renewSwap swap →
      ({ s.manager with settings := swap } : SettingManagerBase β).WF) : s'.manager.WF := by
  cases h with
  | updateFind | registerFind => exact hwf.findOrCreate _
  | remove => exact hwf.removeTargetUnit _
  | prepareUnit _ _ hres =>
    rcases prepareUnit_ok hres with ⟨-, rfl, -⟩ | ⟨-, -, ⟨_, -, rfl, -⟩ | ⟨-, rfl, -⟩⟩
    · exact hwf
    · exact hwf.of_le rfl (Nat.le_succ _)
    · exact hwf.of_le rfl (Nat.le_succ _)
  | @restoreUnit _ u cs =>
    refine hwf.of_le ?_ ?_
    · simp only [goto_manager, update_manager, SettingManagerBase.restoreUnit]
      split <;> rfl
    · simp only [goto_manager, update_manager, SettingManagerBase.restoreUnit]
      split <;> exact le_rfl
  | @attachUnit _ r u p =>
    refine hwf.of_le ?_ ?_
    · simp only [goto_manager, update_manager]
      unfold SettingManagerBase.attachUnit
      split <;> rfl
    · simp only [goto_manager, update_manager]
      unfold SettingManagerBase.attachUnit
      split <;> exact le_rfl
  | swap hpos => exact hswap _ hpos
  | _ => exact hwf.of_le rfl le_rfl

/-- The events that a step adds are those of its thread. -/
theorem Step.renewed_ne {a : Act} (h : Step s t a s') {t' : ℕ} (hne : t' ≠ t) {b : Bool}
    (hb : .renewed t' b ∈ s'.log) : .renewed t' b ∈ s.log := by
  cases h with
  | invoke | registerInsert | unregisterReturn => exact (List.mem_cons.mp hb).resolve_left nofun
  | renewNoArray | rollbackNone | restored | renewed =>
    refine (List.mem_cons.mp hb).resolve_left fun heq => hne ?_
    cases heq
    rfl
  | _ => exact hb

end Steps

/-! ### Where the callback is during a reset -/

section Tracking

variable [SettingData β]

/-- The entries of the unit `u` in the data of a reset are accepted. -/
def SettingManagerBase.Accepts (m : SettingManagerBase β) (u : UnitID) (j : Json) : Prop :=
  ∃ objs, m.entriesOf u j = some objs ∧ (m.freshSetter objs).1 = .ok true

/-- Where the callback `c` of the unit `u` is, for each position of the thread that resets. `acc`
says that the entries of the unit are accepted. -/
def Tracks (acc : Prop) (u : UnitID) (c : Uuid) (m : SettingManagerBase β) : Position β → Prop
  | .renewStart j => (acc ↔ m.Accepts u j) ∧ Subscribed m u c
  | .renewPrepare clusters r =>
    ({ m with settings := r.mapForSwap } : SettingManagerBase β).WF ∧
      ((r.stolen.lookup u = none ∧ Subscribed m u c ∧ (acc ↔ ∃ objs,
          clusters.lookup u = some objs ∧ (m.freshSetter objs).1 = .ok true)) ∨
        (clusters.lookup u = none ∧ (∃ p, m.settings.lookup u = some p) ∧
          (∃ cs, r.stolen.lookup u = some cs ∧ c ∈ cs) ∧ ∃ p, r.mapForSwap.lookup u = some p))
  | .renewRollback stolen | .renewRestore stolen =>
    (stolen.lookup u = none ∧ Subscribed m u c) ∨
      ((∃ p, m.settings.lookup u = some p) ∧ ∃ cs, stolen.lookup u = some cs ∧ c ∈ cs)
  | .renewAttach todo r =>
    ({ m with settings := r.mapForSwap } : SettingManagerBase β).WF ∧
      (∀ v p, todo.lookup v = some p → r.mapForSwap.lookup v = some p) ∧
      (acc → ∃ p, r.mapForSwap.lookup u = some p ∧
        ((todo.lookup u = some p ∧ ∃ cs, r.stolen.lookup u = some cs ∧ c ∈ cs) ∨
          (todo.lookup u = none ∧ c ∈ (m.heap p).callbacks)))
  | .renewSwap swap =>
    ({ m with settings := swap } : SettingManagerBase β).WF ∧
      (acc → Subscribed { m with settings := swap } u c)
  | .renewGather | .renewTrigger _ | .invoke _ _ _ (some _) => acc → Subscribed m u c
  | _ => False

variable {acc : Prop} {u : UnitID} {c : Uuid} {m m' : SettingManagerBase β}

/-- What is accepted depends on the constants of the manager only. -/
theorem Preserves.accepts_iff (hm : Preserves u c m m') {j : Json} :
    m'.Accepts u j ↔ m.Accepts u j := by
  have hentries : m'.entriesOf u j = m.entriesOf u j := by
    cases j with
    | arr objs => simp only [entriesOf, hm.unitKeyName]
    | null | bool | int | float | str | obj => rfl
  simp only [Accepts, freshSetter, hentries, hm.needSetterDataLock]

/-- What preserves the callback does not lose track of it. -/
theorem Tracks.mono {pos : Position β} (h : Tracks acc u c m pos) (hwf : m.WF)
    (hm : Preserves u c m m') : Tracks acc u c m' pos := by
  have hfresh : m'.freshSetter = (m.freshSetter : List Json → _) := by
    funext objs
    simp only [freshSetter, hm.needSetterDataLock]
  have hswap : ∀ {swap : UnitMap ℕ},
      ({ m with settings := swap } : SettingManagerBase β).WF →
        ({ m' with settings := swap } : SettingManagerBase β).WF :=
    fun h => h.of_le rfl hm.next_le
  have hfind : (∃ p, m.settings.lookup u = some p) → ∃ p, m'.settings.lookup u = some p :=
    fun ⟨p, hp⟩ => ⟨p, hm.lookup p hp⟩
  cases pos with
  | renewStart j => exact ⟨h.1.trans hm.accepts_iff.symm, hm.subscribed hwf h.2⟩
  | renewPrepare clusters r =>
    obtain ⟨hs, ⟨hst, hsub, hacc⟩ | ⟨hcl, hset, hst⟩⟩ := h
    · exact ⟨hswap hs, Or.inl ⟨hst, hm.subscribed hwf hsub, by rw [hfresh]; exact hacc⟩⟩
    · exact ⟨hswap hs, Or.inr ⟨hcl, hfind hset, hst⟩⟩
  | renewRollback stolen | renewRestore stolen =>
    exact h.imp (fun h => ⟨h.1, hm.subscribed hwf h.2⟩) fun h => ⟨hfind h.1, h.2⟩
  | renewAttach todo r =>
    obtain ⟨hs, htodo, hacc⟩ := h
    refine ⟨hswap hs, htodo, fun ha => ?_⟩
    obtain ⟨p, hp, hwhere⟩ := hacc ha
    exact ⟨p, hp, hwhere.imp id fun hc => ⟨hc.1, hm.callbacks p (hs.lt_next hp) hc.2⟩⟩
  | renewSwap swap =>
    refine ⟨hswap h.1, fun ha => ?_⟩
    obtain ⟨p, hp, hc⟩ := h.2 ha
    exact ⟨p, hp, hm.callbacks p (h.1.lt_next hp) hc⟩
  | renewGather | renewTrigger rest => exact fun ha => hm.subscribed hwf (h ha)
  | invoke p d pending rest =>
    cases rest with
    | none => exact h.elim
    | some rest => exact fun ha => hm.subscribed hwf (h ha)
  | _ => exact h.elim

/-- The preparation of one unit keeps track of the callback. -/
theorem Tracks.prepareUnit {clusters : UnitMap (List Json)} {r r' : Renewal} {v : UnitID}
    {objs : List Json} (h : Tracks acc u c m (.renewPrepare clusters r)) (hwf : m.WF)
    (hv : clusters.lookup v = some objs) (hres : m.prepareUnit r v objs = .ok (m', r')) :
    Tracks acc u c m' (.renewPrepare (clusters.erase v) r') := by
  have hfresh := freshSetter_of_prepareUnit hres
  obtain ⟨hs, hwhere⟩ := h
  rcases prepareUnit_ok hres with ⟨hno, rfl, rfl⟩ | ⟨hyes, hswap, hold⟩
  · refine ⟨hs, ?_⟩
    rcases hwhere with ⟨hst, hsub, hacc⟩ | ⟨hcl, hset, hst⟩
    · refine Or.inl ⟨hst, hsub, hacc.trans ?_⟩
      rcases eq_or_ne u v with rfl | hne
      · simp [AList.lookup_erase, hv, hno]
      · rw [AList.lookup_erase_ne hne]
    · refine Or.inr ⟨?_, hset, hst⟩
      rcases eq_or_ne u v with rfl | hne
      · exact AList.lookup_erase _ _
      · rwa [AList.lookup_erase_ne hne]
  · have hnext : m'.next = m.next + 1 := by
      rcases hold with ⟨_, -, rfl, -⟩ | ⟨-, rfl, -⟩
      · rfl
      · rfl
    have hset' : m'.settings = m.settings := by
      rcases hold with ⟨_, -, rfl, -⟩ | ⟨-, rfl, -⟩
      · rfl
      · rfl
    refine ⟨hs.insert_next hswap hnext, ?_⟩
    rcases eq_or_ne u v with rfl | hne
    · rcases hwhere with ⟨hst, ⟨p, hp, hc⟩, hacc⟩ | ⟨hcl, -⟩
      · rcases hold with ⟨old, hold, rfl, hst'⟩ | ⟨hnone, -⟩
        · cases hp.symm.trans hold
          refine Or.inr ⟨AList.lookup_erase _ _, ⟨p, hp⟩, ⟨_, ?_, hc⟩, m.next, ?_⟩
          · rw [hst', AList.lookup_insert]
          · rw [hswap, AList.lookup_insert]
        · rw [hp] at hnone
          cases hnone
      · rw [hv] at hcl
        cases hcl
    · have hst' : r'.stolen.lookup u = r.stolen.lookup u := by
        rcases hold with ⟨_, -, -, hst'⟩ | ⟨-, -, hst'⟩
        · rw [hst', AList.lookup_insert_ne hne]
        · rw [hst']
      rw [AList.lookup_erase_ne hne, hst', hset', hswap, AList.lookup_insert_ne hne, hfresh]
      rcases hwhere with ⟨hst, hsub, hacc⟩ | hstolen
      · refine Or.inl ⟨hst, ?_, hacc⟩
        rcases hold with ⟨old, hold, rfl, -⟩ | ⟨-, rfl, -⟩
        · have hsub' : Subscribed (m.modifySetter old (SetterBase.setCallbacks [])) u c :=
            hsub.setCallbacks fun hu => hne (hwf.injective hu hold)
          exact (Preserves.allocate _ _).subscribed (hwf.of_le rfl le_rfl) hsub'
        · exact (Preserves.allocate _ _).subscribed hwf hsub
      · exact Or.inr hstolen

/-- Giving back the callbacks of one unit keeps track of the callback. -/
theorem Tracks.restoreUnit {stolen : UnitMap (List Uuid)} {v : UnitID} {cs : List Uuid}
    (h : Tracks acc u c m (.renewRestore stolen)) (hwf : m.WF)
    (hv : stolen.lookup v = some cs) :
    Tracks acc u c (m.restoreUnit v cs) (.renewRestore (stolen.erase v)) := by
  have hset : (m.restoreUnit v cs).settings = m.settings := by
    rw [SettingManagerBase.restoreUnit]
    split <;> rfl
  rcases eq_or_ne u v with rfl | hne
  · rcases h with ⟨hnone, -⟩ | ⟨⟨p, hp⟩, cs', hcs', hc⟩
    · rw [hv] at hnone
      cases hnone
    · cases hv.symm.trans hcs'
      refine Or.inl ⟨AList.lookup_erase _ _, p, hset ▸ hp, ?_⟩
      rw [SettingManagerBase.restoreUnit, hp]
      simpa using hc
  · rw [Tracks, AList.lookup_erase_ne hne, hset]
    rcases h with ⟨hnone, hsub⟩ | hstolen
    · refine Or.inl ⟨hnone, ?_⟩
      rw [SettingManagerBase.restoreUnit]
      split
      · next q hq => exact hsub.setCallbacks fun hu => hne (hwf.injective hu hq)
      · exact hsub
    · exact Or.inr hstolen

/-- Handing the callbacks of one unit over keeps track of the callback. -/
theorem Tracks.attachUnit {todo : UnitMap ℕ} {r : Renewal} {v : UnitID} {p : ℕ}
    (h : Tracks acc u c m (.renewAttach todo r)) (hv : todo.lookup v = some p) :
    Tracks acc u c (m.attachUnit p (r.stolen.lookup v))
      (.renewAttach (todo.erase v) ⟨r.mapForSwap, r.stolen.erase v⟩) := by
  obtain ⟨hs, htodo, hacc⟩ := h
  refine ⟨hs.of_le rfl ?_, fun w q hw => ?_, fun ha => ?_⟩
  · unfold SettingManagerBase.attachUnit
    split <;> exact le_rfl
  · rcases eq_or_ne w v with rfl | hne
    · rw [AList.lookup_erase] at hw
      cases hw
    · exact htodo w q (by rwa [AList.lookup_erase_ne hne] at hw)
  · obtain ⟨q, hq, hwhere⟩ := hacc ha
    refine ⟨q, hq, ?_⟩
    rcases eq_or_ne u v with rfl | hne
    · cases hq.symm.trans (htodo u p hv)
      rcases hwhere with ⟨-, cs, hcs, hc⟩ | ⟨hnone, -⟩
      · refine Or.inr ⟨AList.lookup_erase _ _, ?_⟩
        cases cs with
        | nil => cases hc
        | cons c' cs => simpa [hcs, SettingManagerBase.attachUnit] using hc
      · rw [hv] at hnone
        cases hnone
    · have hpq : q ≠ p := fun heq => hne (hs.injective hq (heq ▸ htodo v p hv))
      simp only [AList.lookup_erase_ne hne]
      refine hwhere.imp id fun hc => ⟨hc.1, ?_⟩
      unfold SettingManagerBase.attachUnit
      split
      · simpa [Function.update_of_ne hpq] using hc.2
      · exact hc.2

/-- **The thread that resets keeps track of the callback**, up to its return. -/
theorem Tracks.step {s s' : SettingSystem β} {t : ℕ} {a : Act}
    (h : Tracks acc u c s.manager (s.threads t)) (hwf : s.manager.WF)
    (hstep : Step s t a s') :
    (Tracks acc u c s'.manager (s'.threads t) ∧
        ∀ b, .renewed t b ∈ s'.log → .renewed t b ∈ s.log) ∨
      ∃ b, s'.log = .renewed t b :: s.log ∧ s'.threads t = .idle ∧
        ((b = true → acc) → Subscribed s'.manager u c) := by
  have hself : ∀ (s₁ : SettingSystem β) {pos : Position β}, Tracks acc u c s₁.manager pos →
      Tracks acc u c (s₁.goto t pos).manager ((s₁.goto t pos).threads t) :=
    fun s₁ pos h => by simpa using h
  cases hstep with
  | renewNoArray hpos hj =>
    rw [hpos] at h
    exact Or.inr ⟨false, rfl, by simp, fun _ => h.2⟩
  | renewNoUnits hpos hclusters =>
    rw [hpos] at h
    exact Or.inl ⟨hself _ (Or.inl ⟨rfl, h.2⟩), fun b hb => hb⟩
  | @renewStart objs clusters hpos hclusters hmap =>
    rw [hpos] at h
    obtain ⟨hacc, hsub⟩ := h
    refine Or.inl ⟨hself _ ?_, fun b hb => hb⟩
    refine ⟨⟨by rintro v p ⟨⟩, by rintro v v' p ⟨⟩⟩, Or.inl ⟨rfl, hsub, hacc.trans ?_⟩⟩
    simp only [Accepts, entriesOf, hclusters]
    rfl
  | prepareUnit hpos hv hres =>
    rw [hpos] at h
    exact Or.inl ⟨hself _ (h.prepareUnit hwf hv hres), fun b hb => hb⟩
  | prepareThrow hpos hv hres =>
    rw [hpos] at h
    refine Or.inl ⟨hself _ ?_, fun b hb => hb⟩
    exact h.2.imp (fun h => ⟨h.1, h.2.1⟩) fun h => ⟨h.2.1, h.2.2.1⟩
  | prepared hpos hempty =>
    rw [hpos] at h
    refine Or.inl ⟨hself _ ?_, fun b hb => hb⟩
    refine ⟨h.1, fun v p hv => hv, fun ha => ?_⟩
    rcases h.2 with ⟨-, -, hiff⟩ | ⟨-, -, hst, p, hp⟩
    · obtain ⟨objs, hobjs, -⟩ := hiff.mp ha
      rw [lookup_of_keys_nil hempty] at hobjs
      cases hobjs
    · exact ⟨p, hp, Or.inl ⟨hp, hst⟩⟩
  | rollbackNone hpos hempty | restored hpos hempty =>
    rw [hpos] at h
    refine Or.inr ⟨false, rfl, by simp, fun _ => ?_⟩
    rcases h with ⟨-, hsub⟩ | ⟨-, cs, hcs, -⟩
    · exact hsub
    · rw [lookup_of_keys_nil hempty] at hcs
      cases hcs
  | rollback hpos hmap =>
    rw [hpos] at h
    exact Or.inl ⟨hself _ h, fun b hb => hb⟩
  | restoreUnit hpos hv =>
    rw [hpos] at h
    exact Or.inl ⟨hself _ (h.restoreUnit hwf hv), fun b hb => hb⟩
  | attachUnit hpos hv =>
    rw [hpos] at h
    exact Or.inl ⟨hself _ (h.attachUnit hv), fun b hb => hb⟩
  | attached hpos hempty =>
    rw [hpos] at h
    refine Or.inl ⟨hself _ ?_, fun b hb => hb⟩
    refine ⟨h.1, fun ha => ?_⟩
    obtain ⟨p, hp, ⟨hcon, -⟩ | ⟨-, hc⟩⟩ := h.2.2 ha
    · rw [lookup_of_keys_nil hempty] at hcon
      cases hcon
    · exact ⟨p, hp, hc⟩
  | swap hpos hmap =>
    rw [hpos] at h
    exact Or.inl ⟨hself _ h.2, fun b hb => hb⟩
  | gather hpos hmap | trigger hpos | triggered hpos =>
    rw [hpos] at h
    exact Or.inl ⟨hself _ h, fun b hb => hb⟩
  | @invoke p d pending rest c' hpos hc =>
    rw [hpos] at h
    cases rest with
    | none => exact h.elim
    | some rest =>
      refine Or.inl ⟨hself _ h, fun b hb => ?_⟩
      exact (List.mem_cons.mp hb).resolve_left (by rintro ⟨⟩)
  | renewed hpos =>
    rw [hpos] at h
    exact Or.inr ⟨true, rfl, by simp, fun ha => h (ha rfl)⟩
  | call hpos | updateFind hpos | updateStored hpos | updateFailed hpos | updateCollect hpos
  | updateDone hpos | registerFind hpos | registerInsert hpos | unregisterDone hpos
  | unregisterMiss hpos | unregisterFind hpos | unregisterErase hpos | unregisterNone hpos
  | unregisterReturn hpos | remove hpos =>
    rw [hpos] at h
    exact h.elim

end Tracking

/-! ### The subscription survives -/

section Survival

variable [SettingData β]

/-- The reset has not taken the map mutex yet, or has swapped the map. -/
def Position.OutsideWindow : Position β → Prop
  | renewStart _ | renewGather | renewTrigger _ | invoke _ _ _ (some _) => True
  | _ => False

/-- The thread `r` is resetting, outside its window; the callback `c` is registered for the unit
`u`, and no other thread is resetting, cancelling `c` or removing `u`. The log is kept from here
on. -/
structure DuringReset (r : ℕ) (u : UnitID) (c : Uuid) (s : SettingSystem β) : Prop where
  wf : s.manager.WF
  position : (s.threads r).OutsideWindow
  others : ∀ t, t ≠ r → (s.threads t).Harmless u c
  subscribed : c ∈ s.manager.callbacksOf u
  log : ∀ b, .renewed r b ∉ s.log

/-- The data of a reset that is still to be prepared have accepted entries for the unit `u`. -/
def SettingSystem.Retains (s : SettingSystem β) (r : ℕ) (u : UnitID) : Prop :=
  ∀ j, s.threads r = .renewStart j → s.manager.Accepts u j

/-- What holds along a run that begins so. -/
structure Surviving (acc : Prop) (r : ℕ) (u : UnitID) (c : Uuid) (s : SettingSystem β) :
    Prop where
  wf : s.manager.WF
  others : ∀ t, t ≠ r → (s.threads t).Harmless u c
  /-- The reset is under way and the callback is where it should be, or it has returned. -/
  phase : ((∀ b, .renewed r b ∉ s.log) ∧ Tracks acc u c s.manager (s.threads r)) ∨
    ((s.threads r).Harmless u c ∧ ∀ b, .renewed r b ∈ s.log → (b = true → acc) →
      Subscribed s.manager u c)

variable {s₀ s s' : SettingSystem β} {acc : Prop} {r : ℕ} {u : UnitID} {c : Uuid}

theorem DuringReset.surviving (h : DuringReset r u c s) :
    Surviving (s.Retains r u) r u c s := by
  have hsub := subscribed_iff.mpr h.subscribed
  refine ⟨h.wf, h.others, Or.inl ⟨h.log, ?_⟩⟩
  have hposition := h.position
  cases hpos : s.threads r with
  | renewStart j =>
    refine ⟨⟨fun hret => hret j hpos, fun hacc j' hj' => ?_⟩, hsub⟩
    cases hpos.symm.trans hj'
    exact hacc
  | renewGather | renewTrigger rest => exact fun _ => hsub
  | invoke p d pending rest =>
    cases rest with
    | some rest => exact fun _ => hsub
    | none =>
      rw [hpos] at hposition
      exact hposition.elim
  | _ =>
    rw [hpos] at hposition
    exact hposition.elim

theorem Surviving.step {ta : ℕ × Act} (h : Surviving acc r u c s) (hok : Undisturbed u c s ta)
    (hrun : s.step ta = some s') : Surviving acc r u c s' := by
  obtain ⟨t, a⟩ := ta
  have hstep : Step s t a s' := step_sound hrun
  rcases eq_or_ne t r with rfl | hne
  · -- the thread that resets, or has done so
    have hothers : ∀ t', t' ≠ t → (s'.threads t').Harmless u c :=
      fun t' ht' => (hstep.threads_ne ht').symm ▸ h.others t' ht'
    rcases h.phase with ⟨hlog, htrack⟩ | ⟨hharm, hlog⟩
    · have hwf : s'.manager.WF := hstep.wf h.wf fun swap hpos => by
        rw [hpos] at htrack
        exact htrack.1
      refine ⟨hwf, hothers, ?_⟩
      rcases htrack.step h.wf hstep with ⟨htrack', hlog'⟩ | ⟨b, heq, hidle, hsub⟩
      · exact Or.inl ⟨fun b hb => hlog b (hlog' b hb), htrack'⟩
      · refine Or.inr ⟨by rw [hidle]; trivial, fun b' hb' hacc => ?_⟩
        rw [heq, List.mem_cons] at hb'
        rcases hb' with hb' | hb'
        · cases hb'
          exact hsub hacc
        · exact absurd hb' (hlog b')
    · obtain ⟨hpres, hlog', hharm'⟩ := hstep.harmless hharm hok
      have hwf : s'.manager.WF := hstep.wf h.wf fun swap hpos => by
        rw [hpos] at hharm
        exact hharm.elim
      exact ⟨hwf, hothers,
        Or.inr ⟨hharm', fun b hb hacc => hpres.subscribed h.wf (hlog b (hlog' b hb) hacc)⟩⟩
  · -- another thread
    obtain ⟨hpres, -, hharm'⟩ := hstep.harmless (h.others t hne) hok
    have hothers : ∀ t', t' ≠ r → (s'.threads t').Harmless u c := by
      intro t' ht'
      rcases eq_or_ne t' t with rfl | hne'
      · exact hharm'
      · exact (hstep.threads_ne hne').symm ▸ h.others t' ht'
    have hwf : s'.manager.WF := hstep.wf h.wf fun swap hpos => by
      have hharm := h.others t hne
      rw [hpos] at hharm
      exact hharm.elim
    refine ⟨hwf, hothers, ?_⟩
    rw [hstep.threads_ne hne.symm]
    rcases h.phase with ⟨hlog, htrack⟩ | ⟨hharm, hlog⟩
    · exact Or.inl ⟨fun b hb => hlog b (hstep.renewed_ne hne.symm hb), htrack.mono h.wf hpres⟩
    · exact Or.inr ⟨hharm, fun b hb hacc =>
        hpres.subscribed h.wf (hlog b (hstep.renewed_ne hne.symm hb) hacc)⟩

/-- The next successful update of a unit invokes all its callbacks. -/
theorem mem_invocations_of_mem_callbacksOf {m : SettingManagerBase β} {u : UnitID} {c : Uuid}
    {j : Json} (hc : c ∈ m.callbacksOf u) (hres : (m.updateTargetUnit u j).1 = .ok true) :
    ∃ d, (c, d) ∈ (m.updateTargetUnit u j).2.2 := by
  obtain ⟨p, hp, hmem⟩ := subscribed_iff.mpr hc
  by_cases hu : u = missingUnitId
  · rw [updateTargetUnit, if_pos hu] at hres
    cases hres
  have hfind : m.findOrCreate u = (p, m) := by rw [findOrCreate, hp]
  rw [updateTargetUnit, if_neg hu] at hres ⊢
  simp only [hfind, SetterBase.update] at hres ⊢
  have hcb := SetterBase.callbacks_updateInternal (m.heap p) j
  split at hres
  · next x hx =>
    rw [hx] at hcb
    exact ⟨x.settingData, List.mem_map.mpr ⟨c, hcb ▸ hmem, rfl⟩⟩
  · next r x hne hx => exact absurd hres hne

/-- **A subscription survives a reset.** The callback `c` is registered for the unit `u` when the
reset takes the map mutex, or is registered after the swap; other threads register, update, cancel
other callbacks and remove other units in any interleaving. When the reset has returned – with
`false`, or with `true` and the entries of `u` accepted – the callback is registered for `u`, and
the next successful update of `u` invokes it. -/
theorem callback_survives_reset (s₀ s : SettingSystem β) (as : List (ℕ × Act)) (r : ℕ)
    (u : UnitID) (c : Uuid) (b : Bool) (hstart : DuringReset r u c s₀)
    (hok : Guarded step (Undisturbed u c) s₀ as) (hrun : runFrom step s₀ as = some s)
    (hret : .renewed r b ∈ s.log) (hacc : b = true → s₀.Retains r u) :
    c ∈ s.manager.callbacksOf u ∧
      ∀ j', (s.manager.updateTargetUnit u j').1 = .ok true →
        ∃ d, (c, d) ∈ (s.manager.updateTargetUnit u j').2.2 := by
  have h : Surviving (s₀.Retains r u) r u c s :=
    hok.invariant (fun _ _ _ hinv hguard hstep => hinv.step hguard hstep) hstart.surviving hrun
  have hsub : c ∈ s.manager.callbacksOf u := by
    rcases h.phase with ⟨hlog, -⟩ | ⟨-, hlog⟩
    · exact absurd hret (hlog b)
    · exact subscribed_iff.mp (hlog b hret hacc)
  exact ⟨hsub, fun j' hres => mem_invocations_of_mem_callbacksOf hsub hres⟩

/-- One subscriber, and a thread about to reset with the given entries. -/
def resetting (objs : List Json) : SettingSystem ExcludeCam :=
  oneSubscriber.goto 0 (.renewStart (.arr objs))

theorem duringReset_resetting (objs : List Json) : DuringReset 0 1 0 (resetting objs) where
  wf := (WF.new "CameraId" true).registerCallback 1 0
  position := trivial
  others t ht := by
    simp only [resetting, goto_threads, Function.update_of_ne ht]
    trivial
  subscribed := (by decide : 0 ∈ oneSubscriber.manager.callbacksOf 1)
  log b := List.not_mem_nil

/-- The entry that excludes camera 1. -/
def excludeOne : Json := .obj [("CameraId", .int 1)]

/-- A reset that is interrupted between its preparation and its swap by an update. -/
def interruptedReset : List (ℕ × Act) :=
  [(0, .go), (0, .unit 1), (0, .go), (1, .call (.updateTargetUnit 1 .array)), (1, .go), (1, .go),
    (0, .unit 1), (0, .go), (0, .go), (0, .go), (0, .trigger 1), (0, .invoke 0), (0, .go), (0, .go)]

/-- Where the interrupted reset ends. -/
def afterInterruptedReset : SettingSystem ExcludeCam :=
  (runFrom step (resetting [excludeOne]) interruptedReset).get rfl

theorem callback_survives_reset_interrupted :
    0 ∈ afterInterruptedReset.manager.callbacksOf 1 ∧
      ∀ j', (afterInterruptedReset.manager.updateTargetUnit 1 j').1 = .ok true →
        ∃ d, (0, d) ∈ (afterInterruptedReset.manager.updateTargetUnit 1 j').2.2 := by
  refine callback_survives_reset (resetting [excludeOne]) _ interruptedReset 0 1 0 true
    (duringReset_resetting _) ?_ rfl ?_ fun _ j hj => ?_
  · iterate 14
      refine ⟨fun op hop => by cases hop <;> trivial, fun s' hs => ?_⟩
      cases hs
    trivial
  · exact List.mem_cons_self
  · cases hj
    exact ⟨[excludeOne], by decide, by decide⟩

/-- A reset with data that leave the camera out drops the subscription. -/
theorem not_callback_survives_reset :
    ¬ ∀ (s₀ s : SettingSystem ExcludeCam) (as : List (ℕ × Act)) (r : ℕ) (u : UnitID) (c : Uuid)
        (b : Bool), DuringReset r u c s₀ →
          Guarded step (Undisturbed u c) s₀ as → runFrom step s₀ as = some s →
            .renewed r b ∈ s.log → c ∈ s.manager.callbacksOf u := by
  intro h
  have hgone := h (resetting []) _ [(0, .go), (0, .go), (0, .go), (0, .go), (0, .go), (0, .go)] 0
    1 0 true (duringReset_resetting []) ?_ rfl List.mem_cons_self
  · revert hgone
    decide
  · iterate 6
      refine ⟨fun op hop => (nomatch hop), fun s' hs => ?_⟩
      cases hs
    trivial

end Survival

end DetectBase
