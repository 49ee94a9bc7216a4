import DetectBase.Setting.Manager

/-!
# What a reset does with bad data

`RenewAfterReset` replaces all settings of a manager by those of a JSON array. Its preparation
makes a new setter for each unit of the array and takes over the callbacks of the old one; the map
is swapped at the end. Two things can go wrong with the entries of a unit, and they end
differently:

* the updater throws – the preparation stops, the callbacks taken over so far go back, and the
  reset returns `false` with everything as it was
  (`DetectBase.SettingManagerBase.rollback_prepare`);
* the updater returns `false` – the unit is left out and the others go on, so that the reset can
  return `true` with the unit gone.

Both are in `DetectBase.renewAfterReset_rejected`. The result rests on the invariant that
distinct units have distinct setters (`DetectBase.SettingManagerBase.WF`), which every operation
keeps.
-/

namespace DetectBase

namespace SettingManagerBase

variable {β : Type}

/-- The manager and the local variables of a reset in the course of its preparation, compared
with the manager `m₀` that it started from. -/
structure Prepared (m₀ m : SettingManagerBase β) (r : Renewal) : Prop where
  /-- The map is untouched, and so is the kind of setter to make. -/
  settings : m.settings = m₀.settings
  needSetterDataLock : m.needSetterDataLock = m₀.needSetterDataLock
  le_next : m₀.next ≤ m.next
  /-- A unit whose callbacks were not taken over has its setter as it was. -/
  kept : ∀ {u : UnitID} {p : ℕ}, m₀.settings.lookup u = some p → r.stolen.lookup u = none →
    m.heap p = m₀.heap p
  /-- Otherwise only the callbacks are missing, and they are in the map of stolen ones. -/
  stolen : ∀ {u : UnitID} {p : ℕ} {cs : List Uuid}, m₀.settings.lookup u = some p →
    r.stolen.lookup u = some cs → (m.heap p).setCallbacks cs = m₀.heap p

theorem Prepared.refl (m : SettingManagerBase β) : Prepared m m .empty :=
  ⟨rfl, rfl, le_rfl, fun _ _ => rfl, nofun⟩

/-- Giving back the callbacks of the units `us` undoes the preparation, if the other units are as
they were. -/
theorem restore_units {m₀ : SettingManagerBase β} (hwf : m₀.WF) {stolen : UnitMap (List Uuid)}
    {us : List UnitID} (hus : us.Nodup) :
    ∀ {m : SettingManagerBase β}, m.settings = m₀.settings →
      (∀ {u p}, m₀.settings.lookup u = some p → u ∉ us → m.heap p = m₀.heap p) →
      (∀ {u p}, m₀.settings.lookup u = some p → u ∈ us →
        (m.heap p).setCallbacks ((stolen.lookup u).getD []) = m₀.heap p) →
      (us.foldl (fun m u => m.restoreUnit u ((stolen.lookup u).getD [])) m).settings =
          m₀.settings ∧
        ∀ {u p}, m₀.settings.lookup u = some p →
          (us.foldl (fun m u => m.restoreUnit u ((stolen.lookup u).getD [])) m).heap p =
            m₀.heap p := by
  induction us with
  | nil =>
    intro m hset hkept _
    exact ⟨hset, fun hu => hkept hu List.not_mem_nil⟩
  | cons v us ih =>
    intro m hset hkept hstolen
    obtain ⟨hv, hus⟩ := List.nodup_cons.mp hus
    rw [List.foldl_cons, restoreUnit, hset]
    cases hlook : m₀.settings.lookup v with
    | none =>
      refine ih hus hset (fun {u p} hu hmem => hkept hu ?_)
        fun {u p} hu hmem => hstolen hu (by simp [hmem])
      rintro (_ | ⟨_, hmem'⟩)
      · rw [hu] at hlook
        cases hlook
      · exact hmem hmem'
    | some q =>
      have hq : ∀ {u p}, m₀.settings.lookup u = some p → u ≠ v → p ≠ q :=
        fun hu hne hpq => hne (hwf.injective hu (hpq ▸ hlook))
      refine ih hus hset (fun {u p} hu hmem => ?_) fun {u p} hu hmem => ?_
      · rcases eq_or_ne u v with rfl | hne
        · cases hu.symm.trans hlook
          simp only [modifySetter, Function.update_self]
          exact hstolen hu (by simp)
        · simp only [modifySetter, Function.update_of_ne (hq hu hne)]
          exact hkept hu (by simp [hne, hmem])
      · have hne : u ≠ v := fun heq => hv (heq ▸ hmem)
        simp only [modifySetter, Function.update_of_ne (hq hu hne)]
        exact hstolen hu (by simp [hmem])

/-- Attaching the callbacks leaves all data alone. -/
theorem settingData_attach (m : SettingManagerBase β) (r : Renewal) (p : ℕ) :
    ((m.attach r).heap p).settingData = (m.heap p).settingData := by
  rw [attach]
  induction r.mapForSwap.entries generalizing m with
  | nil => rfl
  | cons e es ih =>
    rw [List.foldl_cons, ih]
    unfold attachUnit
    split
    · rcases eq_or_ne p e.2 with rfl | hne
      · rw [modifySetter_heap, Function.update_self]
        rfl
      · rw [modifySetter_heap, Function.update_of_ne hne]
    · rfl

variable [SettingData β]

/-! ### Taking back a preparation -/

theorem Prepared.prepareUnit {m₀ m m' : SettingManagerBase β} {r r' : Renewal} {u : UnitID}
    {objs : List Json} (hwf : m₀.WF) (h : Prepared m₀ m r) (hu : r.stolen.lookup u = none)
    (hstep : m.prepareUnit r u objs = .ok (m', r')) : Prepared m₀ m' r' := by
  rcases prepareUnit_ok hstep with ⟨-, rfl, rfl⟩ | ⟨-, -, ⟨old, hold, rfl, hst⟩ | ⟨-, rfl, hst⟩⟩
  · exact h
  · rw [h.settings] at hold
    have hlt : ∀ {v : UnitID} {p : ℕ}, m₀.settings.lookup v = some p → p ≠ m.next :=
      fun hv => ne_of_lt (lt_of_lt_of_le (hwf.lt_next hv) h.le_next)
    refine ⟨h.settings, h.needSetterDataLock, Nat.le_succ_of_le h.le_next,
      fun {v p} hv hnone => ?_, fun {v p cs} hv hsome => ?_⟩
    · have hne : v ≠ u := by
        rintro rfl
        rw [hst, AList.lookup_insert] at hnone
        cases hnone
      have hp : p ≠ old := fun hp => hne (hwf.injective hv (hp ▸ hold))
      rw [hst, AList.lookup_insert_ne hne] at hnone
      simp only [allocate, modifySetter, Function.update_of_ne (hlt hv), Function.update_of_ne hp]
      exact h.kept hv hnone
    · rcases eq_or_ne v u with rfl | hne
      · rw [hst, AList.lookup_insert] at hsome
        cases hsome
        cases hv.symm.trans hold
        simp only [allocate, modifySetter, Function.update_of_ne (hlt hv), Function.update_self]
        rw [← h.kept hv hu]
        rfl
      · have hp : p ≠ old := fun hp => hne (hwf.injective hv (hp ▸ hold))
        rw [hst, AList.lookup_insert_ne hne] at hsome
        simp only [allocate, modifySetter, Function.update_of_ne (hlt hv),
          Function.update_of_ne hp]
        exact h.stolen hv hsome
  · have hlt : ∀ {v : UnitID} {p : ℕ}, m₀.settings.lookup v = some p → p ≠ m.next :=
      fun hv => ne_of_lt (lt_of_lt_of_le (hwf.lt_next hv) h.le_next)
    refine ⟨h.settings, h.needSetterDataLock, Nat.le_succ_of_le h.le_next,
      fun {v p} hv hnone => ?_, fun {v p cs} hv hsome => ?_⟩
    · rw [hst] at hnone
      simp only [allocate, Function.update_of_ne (hlt hv)]
      exact h.kept hv hnone
    · rw [hst] at hsome
      simp only [allocate, Function.update_of_ne (hlt hv)]
      exact h.stolen hv hsome

theorem Prepared.prepare {m₀ : SettingManagerBase β} (hwf : m₀.WF)
    {clusters : UnitMap (List Json)} {us : List UnitID} (hus : us.Nodup) :
    ∀ {m : SettingManagerBase β} {r : Renewal}, Prepared m₀ m r →
      (∀ u ∈ us, r.stolen.lookup u = none) →
        Prepared m₀ (prepare clusters us m r).2.1 (prepare clusters us m r).2.2 := by
  induction us with
  | nil => intro m r h _; exact h
  | cons u us ih =>
    intro m r h hnone
    rw [SettingManagerBase.prepare]
    split
    · exact h
    · next m' r' hstep =>
      obtain ⟨hu, hus⟩ := List.nodup_cons.mp hus
      refine ih hus (h.prepareUnit hwf (hnone u (by simp)) hstep) fun v hv => ?_
      have hne : v ≠ u := fun heq => hu (heq ▸ hv)
      have hv' := hnone v (by simp [hv])
      rcases prepareUnit_ok hstep with ⟨-, -, rfl⟩ | ⟨-, -, ⟨_, -, -, hst⟩ | ⟨-, -, hst⟩⟩
      · exact hv'
      · rw [hst, AList.lookup_insert_ne hne]
        exact hv'
      · rw [hst]
        exact hv'

/-- **The rollback of a preparation restores the manager**, as far as anyone can see. -/
theorem rollback_prepare {m : SettingManagerBase β} (hwf : m.WF)
    {clusters : UnitMap (List Json)} {us : List UnitID} (hus : us.Nodup) :
    ((prepare clusters us m .empty).2.1.rollback
        (prepare clusters us m .empty).2.2.stolen).settings = m.settings ∧
      ∀ {u p}, m.settings.lookup u = some p →
        ((prepare clusters us m .empty).2.1.rollback
          (prepare clusters us m .empty).2.2.stolen).heap p = m.heap p := by
  have h : Prepared m (prepare clusters us m .empty).2.1 (prepare clusters us m .empty).2.2 :=
    (Prepared.refl m).prepare hwf hus fun u _ => rfl
  refine restore_units hwf (AList.keys_nodup _) h.settings (fun {u p} hu hmem => ?_)
    fun {u p} hu hmem => ?_
  · exact h.kept hu (AList.lookup_eq_none.mpr hmem)
  · obtain ⟨cs, hcs⟩ := Option.isSome_iff_exists.mp (AList.lookup_isSome.mpr hmem)
    rw [hcs]
    exact h.stolen hu hcs

/-! ### The outcome of a preparation -/

theorem freshSetter_of_prepareUnit {m m' : SettingManagerBase β} {r r' : Renewal} {u : UnitID}
    {objs : List Json} (h : m.prepareUnit r u objs = .ok (m', r')) :
    m'.freshSetter = (m.freshSetter : List Json → _) := by
  rcases prepareUnit_ok h with ⟨-, rfl, -⟩ | ⟨-, -, ⟨_, -, rfl, -⟩ | ⟨-, rfl, -⟩⟩
  · rfl
  · rfl
  · rfl

/-- A preparation that reaches its end met no entries that throw, and a unit whose entries were
not accepted is not in the new map. -/
theorem prepare_none {clusters : UnitMap (List Json)} {us : List UnitID} :
    ∀ {m : SettingManagerBase β} {r : Renewal}, (prepare clusters us m r).1 = none →
      (∀ u ∈ us, ∃ b, (m.freshSetter ((clusters.lookup u).getD [])).1 = .ok b) ∧
      ∀ u, (m.freshSetter ((clusters.lookup u).getD [])).1 ≠ .ok true →
        r.mapForSwap.lookup u = none →
          (prepare clusters us m r).2.2.mapForSwap.lookup u = none := by
  induction us with
  | nil =>
    intro m r _
    exact ⟨by simp, fun u _ hu => hu⟩
  | cons v us ih =>
    intro m r h
    rw [prepare] at h ⊢
    split at h
    · cases h
    · next m' r' hstep =>
      obtain ⟨hok, hgone⟩ := ih h
      rw [freshSetter_of_prepareUnit hstep] at hok hgone
      refine ⟨fun u hu => ?_, fun u hu hr => ?_⟩
      · rcases List.mem_cons.mp hu with rfl | hu
        · rcases prepareUnit_ok hstep with ⟨hres, -⟩ | ⟨hres, -⟩
          · exact ⟨false, hres⟩
          · exact ⟨true, hres⟩
        · exact hok u hu
      · refine hgone u hu ?_
        rcases prepareUnit_ok hstep with ⟨-, -, rfl⟩ | ⟨hres, hswap, -⟩
        · exact hr
        · have hne : u ≠ v := fun heq => hu (heq ▸ hres)
          rw [hswap, AList.lookup_insert_ne hne]
          exact hr

/-- What a preparation has put into the new map: setters with the data of accepted entries. -/
structure Fresh (m₀ : SettingManagerBase β) (clusters : UnitMap (List Json))
    (m : SettingManagerBase β) (r : Renewal) : Prop where
  freshSetter : (m.freshSetter : List Json → _) = m₀.freshSetter
  lt_next : ∀ {u p}, r.mapForSwap.lookup u = some p → p < m.next
  data : ∀ {u p}, r.mapForSwap.lookup u = some p → ∃ objs, clusters.lookup u = some objs ∧
    (m.heap p).settingData = (m₀.freshSetter objs).2.settingData

theorem Fresh.prepareUnit {m₀ m m' : SettingManagerBase β} {clusters : UnitMap (List Json)}
    {r r' : Renewal} {u : UnitID} {objs : List Json} (h : Fresh m₀ clusters m r)
    (hobjs : clusters.lookup u = some objs) (hstep : m.prepareUnit r u objs = .ok (m', r')) :
    Fresh m₀ clusters m' r' := by
  have hfresh := (freshSetter_of_prepareUnit hstep).trans h.freshSetter
  rcases prepareUnit_ok hstep with ⟨-, rfl, rfl⟩ | ⟨-, hswap, hcases⟩
  · exact h
  -- the setters made before keep their data, and the one just made is at the next address
  have hnew : m'.next = m.next + 1 ∧ (m'.heap m.next) = (m₀.freshSetter objs).2 ∧
      ∀ p, p < m.next → (m'.heap p).settingData = (m.heap p).settingData := by
    rw [← h.freshSetter]
    rcases hcases with ⟨old, -, rfl, -⟩ | ⟨-, rfl, -⟩
    · refine ⟨rfl, by simp, fun p hp => ?_⟩
      simp only [allocate, modifySetter, Function.update_of_ne hp.ne]
      rcases eq_or_ne p old with rfl | hne
      · rw [Function.update_self]
        rfl
      · rw [Function.update_of_ne hne]
    · refine ⟨rfl, by simp, fun p hp => ?_⟩
      simp only [allocate, Function.update_of_ne hp.ne]
  obtain ⟨hnext, hself, hkept⟩ := hnew
  have hlook : ∀ {v p}, r'.mapForSwap.lookup v = some p →
      (v = u ∧ p = m.next) ∨ r.mapForSwap.lookup v = some p := by
    intro v p hv
    rw [hswap] at hv
    rcases eq_or_ne v u with rfl | hne
    · rw [AList.lookup_insert] at hv
      exact Or.inl ⟨rfl, (Option.some.inj hv).symm⟩
    · rw [AList.lookup_insert_ne hne] at hv
      exact Or.inr hv
  refine ⟨hfresh, fun {v p} hv => ?_, fun {v p} hv => ?_⟩
  · rcases hlook hv with ⟨-, rfl⟩ | hv
    · omega
    · have := h.lt_next hv
      omega
  · rcases hlook hv with ⟨rfl, rfl⟩ | hv
    · exact ⟨objs, hobjs, by rw [hself]⟩
    · rw [hkept p (h.lt_next hv)]
      exact h.data hv

theorem Fresh.prepare {m₀ : SettingManagerBase β} {clusters : UnitMap (List Json)}
    {us : List UnitID} (hus : ∀ u ∈ us, u ∈ clusters) :
    ∀ {m : SettingManagerBase β} {r : Renewal}, Fresh m₀ clusters m r →
      Fresh m₀ clusters (prepare clusters us m r).2.1 (prepare clusters us m r).2.2 := by
  induction us with
  | nil => intro m r h; exact h
  | cons u us ih =>
    intro m r h
    rw [SettingManagerBase.prepare]
    split
    · exact h
    · next m' r' hstep =>
      obtain ⟨objs, hobjs⟩ :=
        Option.isSome_iff_exists.mp (AList.lookup_isSome.mpr (hus u List.mem_cons_self))
      rw [hobjs, Option.getD_some] at hstep
      exact ih (fun v hv => hus v (List.mem_cons_of_mem u hv)) (h.prepareUnit hobjs hstep)

/-- The entries of a unit in a reset. -/
def entriesOf (m : SettingManagerBase β) (u : UnitID) : Json → Option (List Json)
  | .arr objs =>
    match clusterByUnit m.unitKeyName objs ∅ with
    | .ok clusters => clusters.lookup u
    | .error _ => none
  | _ => none

/-- **The three ways a reset can go**: it never starts, it throws in its preparation, or it goes
through. -/
theorem renewAfterReset_cases (order : HashOrder (List Json)) (m : SettingManagerBase β)
    (j : Json) :
    (m.renewAfterReset order j = (false, m, []) ∧ ∀ u, m.entriesOf u j = none) ∨
    ∃ clusters : UnitMap (List Json), (∀ u, m.entriesOf u j = clusters.lookup u) ∧
      ((∃ e, (prepare clusters (order.walk clusters) m .empty).1 = some e ∧
        m.renewAfterReset order j =
          (false, (prepare clusters (order.walk clusters) m .empty).2.1.rollback
            (prepare clusters (order.walk clusters) m .empty).2.2.stolen, [])) ∨
      ((prepare clusters (order.walk clusters) m .empty).1 = none ∧
        ∃ m', m'.settings = (prepare clusters (order.walk clusters) m .empty).2.2.mapForSwap ∧
          (∀ p, (m'.heap p).settingData =
            ((prepare clusters (order.walk clusters) m .empty).2.1.heap p).settingData) ∧
          m.renewAfterReset order j = (true, m', m'.trigger))) := by
  cases j with
  | null | bool | int | float | str | obj => exact Or.inl ⟨rfl, fun u => rfl⟩
  | arr objs =>
    simp only [renewAfterReset, entriesOf]
    cases clusterByUnit m.unitKeyName objs ∅ with
    | error e => exact Or.inl ⟨rfl, fun u => rfl⟩
    | ok clusters =>
      refine Or.inr ⟨clusters, fun u => rfl, ?_⟩
      dsimp only
      split
      · next e m' r hprep =>
        rw [hprep]
        exact Or.inl ⟨e, rfl, rfl⟩
      · next m' r hprep =>
        rw [hprep]
        refine Or.inr ⟨rfl, { m'.attach r with settings := r.mapForSwap }, rfl, fun p => ?_, rfl⟩
        exact settingData_attach m' r p

/-- The clusters of a reset have an entry each, with the key of the manager. -/
theorem clusterByUnit_contains {key : String} {objs : List Json} :
    ∀ {clusters clusters' : UnitMap (List Json)},
      (∀ {u os}, clusters.lookup u = some os → ∃ o os', os = o :: os' ∧ o.contains key) →
      clusterByUnit key objs clusters = .ok clusters' →
      ∀ {u os}, clusters'.lookup u = some os → ∃ o os', os = o :: os' ∧ o.contains key := by
  induction objs with
  | nil =>
    intro clusters clusters' h heq
    cases heq
    exact h
  | cons obj objs ih =>
    intro clusters clusters' h heq
    rw [clusterByUnit] at heq
    split_ifs at heq with hkey
    · cases hid : getUnitID key obj with
      | error e =>
        rw [hid] at heq
        cases heq
      | ok u =>
        rw [hid] at heq
        refine ih (fun {v os} hv => ?_) heq
        split_ifs at hv
        · exact h hv
        · rcases eq_or_ne v u with rfl | hne
          · rw [AList.lookup_insert] at hv
            cases hv
            cases hold : clusters.lookup v with
            | none => exact ⟨obj, [], rfl, hkey⟩
            | some os =>
              obtain ⟨o, os', rfl, ho⟩ := h hold
              exact ⟨o, os' ++ [obj], rfl, ho⟩
          · rw [AList.lookup_insert_ne hne] at hv
            exact h hv
    · exact ih h heq

omit [SettingData β] in
theorem entriesOf_contains {m : SettingManagerBase β} {u : UnitID} {j : Json} {objs : List Json}
    (h : m.entriesOf u j = some objs) :
    ∃ o os, objs = o :: os ∧ o.contains m.unitKeyName := by
  cases j with
  | null | bool | int | float | str | obj => cases h
  | arr all =>
    rw [entriesOf] at h
    split at h
    · next clusters hclusters =>
      refine clusterByUnit_contains (fun {v os} hv => ?_) hclusters h
      cases hv
    · cases h

/-- **A reset invokes callbacks with the data of its entries only.** -/
theorem of_mem_invocations_renewAfterReset {order : HashOrder (List Json)}
    {m : SettingManagerBase β} {j : Json} {c : Uuid} {d : ISettingData β}
    (h : (c, d) ∈ (m.renewAfterReset order j).2.2) :
    ∃ u objs, m.entriesOf u j = some objs ∧ d = (m.freshSetter objs).2.settingData := by
  rcases renewAfterReset_cases order m j with
    ⟨hout, -⟩ | ⟨clusters, hentries, ⟨e, -, hout⟩ | ⟨-, m', hset, hdata, hout⟩⟩
  · rw [hout] at h
    cases h
  · rw [hout] at h
    cases h
  · have hfresh : Fresh m clusters (prepare clusters (order.walk clusters) m .empty).2.1
        (prepare clusters (order.walk clusters) m .empty).2.2 :=
      Fresh.prepare (fun u hu => AList.mem_keys.mpr ((order.perm clusters).mem_iff.mp hu))
        ⟨rfl, nofun, nofun⟩
    rw [hout] at h
    obtain ⟨⟨u, p⟩, hmem, hin⟩ := List.mem_flatMap.mp h
    have hd : d = (m'.heap p).settingData := by
      dsimp only at hin
      split_ifs at hin
      · obtain ⟨_, -, hpair⟩ := List.mem_map.mp hin
        exact (congrArg Prod.snd hpair).symm
      · cases hin
    rw [hset] at hmem
    obtain ⟨objs, hobjs, heq⟩ := hfresh.data (AList.mem_lookup_iff.mpr hmem)
    exact ⟨u, objs, (hentries u).trans hobjs, by rw [hd, hdata, heq]⟩

end SettingManagerBase

section Rejected

open SettingManagerBase

variable {β : Type} [SettingData β]

/-- **What a reset does with entries that are rejected.** When it returns `false`, every setting
and every set of callbacks is as it was, and nothing is invoked. Entries that throw make it return
`false`. Entries that are refused leave the unit out: when the reset returns `true`, the unit has
no setting any more. -/
theorem renewAfterReset_rejected (order : HashOrder (List Json)) (m : ManagerState β) (j : Json) :
    ((m.1.renewAfterReset order j).1 = false →
      (m.1.renewAfterReset order j).2.2 = [] ∧
      ∀ u, (m.1.renewAfterReset order j).2.1.getSetting u = m.1.getSetting u ∧
        (m.1.renewAfterReset order j).2.1.callbacksOf u = m.1.callbacksOf u) ∧
    ∀ u objs, m.1.entriesOf u j = some objs →
      (∀ e, (m.1.freshSetter objs).1 = .error e → (m.1.renewAfterReset order j).1 = false) ∧
      ((m.1.freshSetter objs).1 = .ok false → (m.1.renewAfterReset order j).1 = true →
        (m.1.renewAfterReset order j).2.1.getSetting u = none) := by
  obtain ⟨m, hwf⟩ := m
  rcases renewAfterReset_cases order m j with
    ⟨hout, hnone⟩ | ⟨clusters, hentries, ⟨e, -, hout⟩ | ⟨hok, m', hset, -, hout⟩⟩
  · simp only [hout, hnone]
    exact ⟨fun _ => ⟨trivial, fun u => ⟨trivial, trivial⟩⟩, by rintro u objs ⟨⟩⟩
  · have hnodup : (order.walk clusters).Nodup :=
      (order.perm clusters).nodup_iff.mpr (AList.keys_nodup clusters)
    obtain ⟨hset, hheap⟩ := @rollback_prepare β _ m hwf clusters _ hnodup
    simp only [hout]
    refine ⟨fun _ => ⟨trivial, fun u => ?_⟩, fun u objs _ => ⟨fun _ _ => trivial, ?_⟩⟩
    · simp only [getSetting, callbacksOf, hset]
      cases hu : m.settings.lookup u with
      | none => exact ⟨rfl, rfl⟩
      | some p =>
        simp only [Option.bind_some, Option.elim_some, hheap hu]
        exact ⟨trivial, trivial⟩
    · rintro - ⟨⟩
  · obtain ⟨hends, hgone⟩ := prepare_none hok
    simp only [hout, hentries]
    refine ⟨by rintro ⟨⟩, fun u objs hobjs => ⟨fun e he => ?_, fun hfalse _ => ?_⟩⟩
    · have hmem : u ∈ order.walk clusters := by
        rw [(order.perm clusters).mem_iff]
        exact AList.mem_keys.mp (AList.lookup_isSome.mp (by rw [hobjs]; rfl))
      obtain ⟨b, hb⟩ := hends u hmem
      rw [hobjs, Option.getD_some, he] at hb
      cases hb
    · have hlook := hgone u (by rw [hobjs, Option.getD_some, hfalse]; simp) rfl
      rw [getSetting, hset, hlook, Option.bind_none]

/-- A manager of server settings, keyed by their identifier, with one for the unit 1. -/
def oneServer : ManagerState ServerFields :=
  ⟨((SettingManagerBase.new "Id" true).updateTargetUnit 1
    (.obj [("Id", .int 1), ("Setting", .obj [])])).2.1, (WF.new "Id" true).updateTargetUnit 1 _⟩

/-- An entry without its setting is refused, the reset succeeds, and the setting that was there
is gone. -/
theorem not_renewAfterReset_keeps_rejected :
    ¬ ∀ (order : HashOrder (List Json)) (m : ManagerState ServerFields) (j : Json) (u : UnitID)
        (d : ServerSettingData) (objs : List Json), m.1.getSetting u = some d →
          m.1.entriesOf u j = some objs → (m.1.freshSetter objs).1 ≠ .ok true →
            (m.1.renewAfterReset order j).2.1.getSetting u = some d := by
  intro h
  have h1 := h ⟨AList.keys, fun _ => List.Perm.refl _⟩ oneServer (.arr [.obj [("Id", .int 1)]]) 1
    ⟨false, ⟨1, 30, 200, 100, 555, "/frame", "/crop"⟩⟩ [.obj [("Id", .int 1)]] (by decide)
    (by decide) (by decide)
  revert h1
  decide

end Rejected

end DetectBase
