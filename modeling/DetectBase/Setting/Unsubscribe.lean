import DetectBase.Foundations.Tokens
import DetectBase.Setting.Concurrent

/-!
# Invocations after an unsubscription

A callback that `UnregisterCallback` has removed should not be invoked any more: callbacks hold a
raw pointer to the unit that registered them, and the destructor of the unit relies on it. But a
callback is collected under a lock and invoked after the lock is released, so an update in
progress may still hold it when the call that removed it returns.

What is true is `DetectBase.no_late_invocation`: in a run in which each such return finds the
callback in nobody's hands, no invocation ever comes after the return. In particular a reset does
not bring it back. That is where the invariant lies: a callback is in one place at a time – in the
map of one setter, or among those that a reset has stolen for one unit – so that the call that
removed it has removed it from everywhere (`DetectBase.Step.handled`, with the lemmas on
`DetectBase.Handled`).
-/

namespace DetectBase

open SettingManagerBase SettingSystem

variable {β : Type}

/-! ### Where a callback can be -/

namespace Position

/-- The callbacks that a reset has stolen and not handed over yet. -/
def stolen : Position β → UnitMap (List Uuid)
  | renewPrepare _ r => r.stolen
  | renewRollback st => st
  | renewRestore st => st
  | renewAttach _ r => r.stolen
  | _ => ∅

/-- The callbacks that have been collected and not invoked yet. -/
def pending : Position β → List Uuid
  | invoke _ _ cs _ => cs
  | _ => []

@[simp] theorem stolen_entry (op : Operation) : (op.entry : Position β).stolen = ∅ := by
  cases op <;> simp only [Operation.entry] <;> try split_ifs
  all_goals rfl

@[simp] theorem pending_entry (op : Operation) : (op.entry : Position β).pending = [] := by
  cases op <;> simp only [Operation.entry] <;> try split_ifs
  all_goals rfl

end Position

/-- The places that a callback can be registered in. -/
inductive Place where
  /-- The map of a setter. -/
  | setter (p : ℕ) : Place
  /-- The stolen callbacks of a unit, in the hands of a thread. -/
  | stolen (t : ℕ) (u : UnitID) : Place
deriving DecidableEq

/-- The callbacks in a place. -/
def SettingSystem.holds (s : SettingSystem β) : Place → List Uuid
  | .setter p => (s.manager.heap p).callbacks
  | .stolen t u => ((s.threads t).stolen.lookup u).getD []

section Steps

variable {s s' : SettingSystem β} {t : ℕ}

/-- A step of the thread `t` that adds no callback to a setter and steals none keeps all
callbacks where they are. -/
theorem holds_keep (hheap : ∀ p, (s'.manager.heap p).callbacks ⊆ (s.manager.heap p).callbacks)
    (hthreads : ∀ t', t' ≠ t → s'.threads t' = s.threads t')
    (hstolen : ∀ u, ((s'.threads t).stolen.lookup u).getD [] ⊆
      ((s.threads t).stolen.lookup u).getD []) (l : Place) : s'.holds l ⊆ s.holds l := by
  cases l with
  | setter p => exact hheap p
  | stolen t' u =>
    rcases eq_or_ne t' t with rfl | hne
    · exact hstolen u
    · simp only [holds, hthreads t' hne]
      exact List.Subset.refl _

/-- Setting the callbacks of a setter to those stolen for a unit hands them over. -/
theorem handled_handOver {pos : Position β} {u : UnitID} {p : ℕ} {cs : List Uuid} {n : ℕ}
    (hcs : (s.threads t).stolen.lookup u = some cs)
    (hpos : pos.stolen = (s.threads t).stolen.erase u) :
    Handled n s.holds n
      ((s.update (s.manager.modifySetter p (.setCallbacks cs))).goto t pos).holds := by
  refine .move (.stolen t u) (.setter p) (fun l hl => ?_) ?_ ?_
  · cases l with
    | setter q =>
      have hq : q ≠ p := fun heq => hl (heq ▸ rfl)
      simp [holds, Function.update_of_ne hq]
    | stolen t' v =>
      rcases eq_or_ne t' t with rfl | ht
      · rcases eq_or_ne v u with rfl | hv
        · simp [holds, hpos]
        · simp [holds, hpos, AList.lookup_erase_ne hv]
      · simp [holds, Function.update_of_ne ht]
  · simp [holds, hpos]
  · simp [holds, hcs]

/-- Forgetting the callbacks stolen for a unit only loses them. -/
theorem handled_forget {pos : Position β} {u : UnitID} {n : ℕ}
    (hpos : pos.stolen = (s.threads t).stolen.erase u) :
    Handled n s.holds n ((s.update s.manager).goto t pos).holds := by
  have hthreads : ∀ t', t' ≠ t →
      ((s.update s.manager).goto t pos).threads t' = s.threads t' :=
    fun t' ht => by simp [Function.update_of_ne ht]
  refine .keep (holds_keep (fun p => List.Subset.refl _) hthreads fun v => ?_)
  rcases eq_or_ne v u with rfl | hv
  · simp [hpos]
  · simp [hpos, AList.lookup_erase_ne hv]

/-- Erasing a callback only loses it. -/
theorem holds_unregister {pos : Position β} {p : ℕ} {c : Uuid} (hpos : pos.stolen = ∅)
    (l : Place) :
    ((s.update (s.manager.modifySetter p (.unregisterCallback c))).goto t pos).holds l ⊆
      s.holds l := by
  have hthreads : ∀ t', t' ≠ t → ((s.update (s.manager.modifySetter p
      (.unregisterCallback c))).goto t pos).threads t' = s.threads t' :=
    fun t' ht => by simp [Function.update_of_ne ht]
  refine holds_keep (fun q => ?_) hthreads (fun u => by simp [hpos]) l
  simp only [goto_manager, update_manager, modifySetter_heap, Function.update_apply]
  split_ifs with hq
  · rw [hq, SetterBase.unregisterCallback_callbacks]
    exact List.filter_subset_self _
  · exact List.Subset.refl _

theorem Operation.entry_ne_unregisterReturn (op : Operation) (c : Uuid)
    (subs : List (UnitID × Uuid)) : (op.entry : Position β) ≠ .unregisterReturn c subs := by
  cases op <;> simp only [Operation.entry] <;> try split_ifs
  all_goals nofun

variable [SettingData β]

theorem callbacks_findOrCreate (m : SettingManagerBase β) (u : UnitID) (p : ℕ) :
    ((m.findOrCreate u).2.heap p).callbacks ⊆ (m.heap p).callbacks := by
  rw [findOrCreate]
  split
  · exact List.Subset.refl _
  · rcases eq_or_ne p m.next with rfl | hne
    · simp [SetterBase.new]
    · simp [Function.update_of_ne hne]

theorem callbacks_freshSetter (m : SettingManagerBase β) (objs : List Json) :
    (m.freshSetter objs).2.callbacks = [] := by
  rw [freshSetter, SetterBase.callbacks_updateInternal]
  rfl

/-- An update of a setter leaves all callbacks where they are. -/
theorem callbacks_updateInternal_subset {m : SettingManagerBase β} {p : ℕ} {j : Json}
    {r : Except Json.Exception Bool} {x : SetterBase β}
    (hres : (m.heap p).updateInternal j = (r, x)) (q : ℕ) :
    ((m.modifySetter p fun _ => x).heap q).callbacks ⊆ (m.heap q).callbacks := by
  have hx : x.callbacks = (m.heap p).callbacks := by
    rw [← SetterBase.callbacks_updateInternal (m.heap p) j, hres]
  rcases eq_or_ne q p with rfl | hne
  · simp [hx]
  · simp [Function.update_of_ne hne]

/-- The preparation of a unit takes over the callbacks of its old setter. -/
theorem handled_prepareUnit {clusters clusters' : UnitMap (List Json)} {r r' : Renewal}
    {u : UnitID} {objs : List Json} {m : SettingManagerBase β} {n : ℕ}
    (hpos : s.threads t = .renewPrepare clusters r)
    (hres : s.manager.prepareUnit r u objs = .ok (m, r')) :
    Handled n s.holds n ((s.update m).goto t (.renewPrepare clusters' r')).holds := by
  have hthreads : ∀ t', t' ≠ t →
      ((s.update m).goto t (.renewPrepare clusters' r')).threads t' = s.threads t' :=
    fun t' ht => by simp [Function.update_of_ne ht]
  rcases prepareUnit_ok hres with ⟨-, rfl, rfl⟩ | ⟨-, -, ⟨old, hold, rfl, hst⟩ | ⟨-, rfl, hst⟩⟩
  · exact .keep (holds_keep (fun p => List.Subset.refl _) hthreads fun v => by
      simp [Position.stolen, hpos])
  · refine .move (.setter old) (.stolen t u) (fun l hl => ?_) ?_ ?_
    · cases l with
      | setter q =>
        simp only [holds, goto_manager, update_manager, allocate_heap, modifySetter_next,
          modifySetter_heap, Function.update_apply]
        split_ifs with h1 h2
        · simp [callbacks_freshSetter]
        · simp
        · exact List.Subset.refl _
      | stolen t' v =>
        rcases eq_or_ne t' t with rfl | ht
        · have hv : v ≠ u := fun heq => hl (heq ▸ rfl)
          simp [holds, Position.stolen, hpos, hst, AList.lookup_insert_ne hv]
        · simp [holds, Function.update_of_ne ht]
    · simp only [holds, goto_manager, update_manager, allocate_heap, modifySetter_next,
        modifySetter_heap, Function.update_apply]
      split_ifs with h1
      · exact callbacks_freshSetter _ _
      · rfl
    · simp [holds, Position.stolen, hst]
  · refine .keep (holds_keep (fun q => ?_) hthreads fun v => by
      simp [Position.stolen, hpos, hst])
    simp only [goto_manager, update_manager, allocate_heap, Function.update_apply]
    split_ifs with h1
    · simp [callbacks_freshSetter]
    · exact List.Subset.refl _

/-- **Every step handles callbacks like tokens**: it drops some, registers a new one, or moves
those of a unit between a setter and the hands of a reset. -/
theorem Step.handled {a : Act} (h : Step s t a s') :
    Handled s.nextUuid s.holds s'.nextUuid s'.holds := by
  have hne : ∀ {pos : Position β} (s₁ : SettingSystem β) (t' : ℕ), t' ≠ t →
      (s₁.goto t pos).threads t' = s₁.threads t' := fun s₁ t' hne => by
    simp [Function.update_of_ne hne]
  cases h with
  | call hpos =>
    exact .keep (holds_keep (fun p => List.Subset.refl _) (hne s) fun u => by simp)
  | updateFind hpos | registerFind hpos =>
    exact .keep (holds_keep (callbacks_findOrCreate _ _) (hne _) fun u => by
      simp [Position.stolen])
  | updateStored hpos hres | updateFailed hpos hres =>
    exact .keep (holds_keep (callbacks_updateInternal_subset hres) (hne _) fun u => by
      simp [Position.stolen])
  | updateCollect hpos | invoke hpos | updateDone hpos | triggered hpos | unregisterDone hpos
  | unregisterMiss hpos | unregisterFind hpos | unregisterReturn hpos | renewNoArray hpos
  | renewNoUnits hpos | rollbackNone hpos | restored hpos | attached hpos | swap hpos
  | gather hpos | trigger hpos | renewed hpos =>
    exact .keep (holds_keep (fun p => List.Subset.refl _) (hne _) fun u => by
      simp [Position.stolen])
  | renewStart hpos =>
    exact .keep (holds_keep (fun p => List.Subset.refl _) (hne _) fun u => by
      simp [Position.stolen, Renewal.empty])
  | remove hpos =>
    refine .keep (holds_keep (fun p => ?_) (hne _) fun u => by simp [Position.stolen])
    simp only [goto_manager, update_manager, removeTargetUnit]
    split_ifs <;> exact List.Subset.refl _
  | prepareThrow hpos | prepared hpos | rollback hpos =>
    exact .keep (holds_keep (fun p => List.Subset.refl _) (hne _) fun u => by
      simp [Position.stolen, hpos])
  | unregisterErase hpos | unregisterNone hpos => exact .keep (holds_unregister rfl)
  | @registerInsert u p hpos =>
    refine .mint (.setter p) (fun l hl => ?_) ?_
    · cases l with
      | setter q =>
        have hq : q ≠ p := fun heq => hl (heq ▸ rfl)
        simp [holds, Function.update_of_ne hq]
      | stolen t' v =>
        rcases eq_or_ne t' t with rfl | ht
        · simp [holds, Position.stolen]
        · simp [holds, Function.update_of_ne ht]
    · intro c hc
      simp only [holds, goto_manager, emit_manager, update_manager, modifySetter_heap,
        Function.update_self, SetterBase.registerCallback_callbacks, List.mem_insert_iff] at hc
      exact List.mem_cons.mpr hc
  | prepareUnit hpos hu hres => exact handled_prepareUnit hpos hres
  | @restoreUnit stolen u cs hpos hu =>
    rw [SettingManagerBase.restoreUnit]
    split
    · exact handled_handOver (by rw [hpos]; exact hu) (by rw [hpos]; rfl)
    · exact handled_forget (by rw [hpos]; rfl)
  | @attachUnit todo r u p hpos hu =>
    cases hcs : r.stolen.lookup u with
    | none => exact handled_forget (by rw [hpos]; rfl)
    | some cs =>
      cases cs with
      | nil => exact handled_forget (by rw [hpos]; rfl)
      | cons c cs => exact handled_handOver (by rw [hpos]; exact hcs) (by rw [hpos]; rfl)

/-- A callback that is waiting to be invoked was waiting before, or was registered. -/
theorem Step.pending {a : Act} (h : Step s t a s') {t' : ℕ} {c : Uuid}
    (hc : c ∈ (s'.threads t').pending) :
    c ∈ (s.threads t').pending ∨ ∃ l, c ∈ s.holds l := by
  rcases eq_or_ne t' t with rfl | hne
  · cases h with
    | updateCollect hpos =>
      simp only [goto_threads, Function.update_self] at hc
      exact Or.inr ⟨.setter _, hc⟩
    | invoke hpos hmem =>
      simp only [goto_threads, Function.update_self] at hc
      rw [hpos]
      exact Or.inl (List.mem_of_mem_erase hc)
    | trigger hpos =>
      simp only [goto_threads, Function.update_self, Position.pending] at hc
      split_ifs at hc
      · exact Or.inr ⟨.setter _, hc⟩
      · cases hc
    | call =>
      simp only [goto_threads, Function.update_self, Position.pending_entry] at hc
      cases hc
    | _ =>
      simp only [goto_threads, Function.update_self, Position.pending, List.not_mem_nil] at hc
  · rw [h.threads_ne hne] at hc
    exact Or.inl hc

/-- The `UnregisterCallback` that removed a callback has returned, or is about to. -/
def SettingSystem.Removed (s : SettingSystem β) (c : Uuid) : Prop :=
  .unregistered c ∈ s.log ∨ ∃ t subs, s.threads t = .unregisterReturn c subs

/-- A callback counts as removed from the moment it is erased. -/
theorem Step.removed {a : Act} (h : Step s t a s') {c : Uuid} (hc : s'.Removed c) :
    s.Removed c ∨ ∃ p, c ∈ s.holds (.setter p) ∧ c ∉ s'.holds (.setter p) ∧
      ∀ l, s'.holds l ⊆ s.holds l := by
  rcases hc with hlog | ⟨t', subs, ht'⟩
  · cases h with
    | unregisterReturn hpos =>
      rcases List.mem_cons.mp hlog with heq | hlog
      · cases heq
        exact Or.inl (Or.inr ⟨t, _, hpos⟩)
      · exact Or.inl (Or.inl hlog)
    | invoke | registerInsert | renewNoArray | rollbackNone | restored | renewed =>
      exact Or.inl (Or.inl (by simpa using hlog))
    | _ => exact Or.inl (Or.inl hlog)
  · rcases eq_or_ne t' t with rfl | hne
    · cases h with
      | @unregisterErase p c' subs' hpos hmem =>
        simp only [goto_threads, Function.update_self] at ht'
        cases ht'
        exact Or.inr ⟨p, hmem, by simp [holds], holds_unregister rfl⟩
      | call =>
        simp only [goto_threads, Function.update_self] at ht'
        exact absurd ht' (Operation.entry_ne_unregisterReturn _ _ _)
      | _ => simp at ht'
    · exact Or.inl (Or.inr ⟨t', subs, h.threads_ne hne ▸ ht'⟩)

end Steps

/-! ### No invocation after the return -/

/-- No invocation of a callback comes after the return of the `UnregisterCallback` that removed
it. The latest event stands first. -/
def NoLateInvocation (log : List (Event β)) : Prop :=
  log.Pairwise fun later earlier => ∀ p c d, later = .invoked p c d → earlier ≠ .unregistered c

variable [SettingData β]

/-- **The guard on the return of `UnregisterCallback`**: the callback it has removed is not in the
hands of an update or of a reset that has collected it and not invoked it yet. -/
def ReturnsClean (s : SettingSystem β) (ta : ℕ × Act) : Prop :=
  ∀ c subs, ta.2 = .go → s.threads ta.1 = .unregisterReturn c subs →
    ∀ t, c ∉ (s.threads t).pending

/-- What holds in every state of a run that meets the guard. -/
structure CleanInv (s : SettingSystem β) : Prop where
  unshared : Unshared s.holds
  minted : Minted s.nextUuid s.holds
  /-- A removed callback is registered nowhere, and will not be again. -/
  removed : ∀ c, s.Removed c → c < s.nextUuid ∧ ∀ l, c ∉ s.holds l
  /-- Once the call has returned nobody is going to invoke it. -/
  silent : ∀ c, .unregistered c ∈ s.log → ∀ t, c ∉ (s.threads t).pending
  clean : NoLateInvocation s.log

theorem cleanInv_start (key : String) (lock : Bool) :
    CleanInv (start key lock : SettingSystem β) where
  unshared c l l' hc := by
    cases l with
    | setter p => cases hc
    | stolen t u => cases hc
  minted c l hc := by
    cases l with
    | setter p => cases hc
    | stolen t u => cases hc
  removed c hc := by
    rcases hc with hc | ⟨t, subs, hc⟩
    · cases hc
    · cases hc
  silent c hc := by cases hc
  clean := List.Pairwise.nil

/-- The events after a step. -/
theorem Step.log_eq {s s' : SettingSystem β} {t : ℕ} {a : Act} (h : Step s t a s') :
    s'.log = s.log ∨ (∃ p c d, s'.log = .invoked p c d :: s.log ∧
      c ∈ (s.threads t).pending) ∨
    (∃ c subs, s'.log = .unregistered c :: s.log ∧ a = .go ∧
      s.threads t = .unregisterReturn c subs) ∨
    ∃ e, s'.log = e :: s.log ∧ (∀ p c d, e ≠ .invoked p c d) ∧ ∀ c, e ≠ .unregistered c := by
  cases h with
  | @invoke p d pending rest c hpos hc =>
    exact Or.inr (Or.inl ⟨p, c, d, rfl, by rw [hpos]; exact hc⟩)
  | @unregisterReturn c subs hpos => exact Or.inr (Or.inr (Or.inl ⟨c, subs, rfl, rfl, hpos⟩))
  | registerInsert | renewNoArray | rollbackNone | restored | renewed =>
    exact Or.inr (Or.inr (Or.inr ⟨_, rfl, nofun, nofun⟩))
  | _ => exact Or.inl rfl

theorem cleanInv_step {s s' : SettingSystem β} {ta : ℕ × Act} (hinv : CleanInv s)
    (hok : ReturnsClean s ta) (hstep : s.step ta = some s') : CleanInv s' := by
  obtain ⟨t, a⟩ := ta
  have h : Step s t a s' := step_sound hstep
  have hremoved : ∀ c, s'.Removed c → c < s'.nextUuid ∧ ∀ l, c ∉ s'.holds l := by
    intro c hc
    rcases h.removed hc with hc | ⟨p, hmem, hgone, hsub⟩
    · obtain ⟨hlt, hno⟩ := hinv.removed c hc
      exact ⟨lt_of_lt_of_le hlt h.handled.le, h.handled.absent hlt hno⟩
    · refine ⟨lt_of_lt_of_le (hinv.minted hmem) h.handled.le, fun l hl => hgone ?_⟩
      rwa [← hinv.unshared (hsub l hl) hmem]
  -- what is removed is not collected again, so it is enough that nobody has it yet
  have hsilent : ∀ c, s.Removed c → (∀ t, c ∉ (s.threads t).pending) →
      ∀ t, c ∉ (s'.threads t).pending := by
    intro c hc hnone t' hmem
    rcases h.pending hmem with hpend | ⟨l, hl⟩
    · exact hnone t' hpend
    · exact (hinv.removed c hc).2 l hl
  have hold : ∀ c, .unregistered c ∈ s.log → ∀ t, c ∉ (s'.threads t).pending :=
    fun c hc => hsilent c (Or.inl hc) (hinv.silent c hc)
  refine ⟨hinv.unshared.handled hinv.minted h.handled, hinv.minted.handled h.handled, hremoved,
    fun c hc => ?_, ?_⟩
  · rcases h.log_eq with heq | ⟨p, c', d, heq, -⟩ | ⟨c', subs, heq, hgo, hpos⟩ | ⟨e, heq, -, hne⟩
    · exact hold c (heq ▸ hc)
    · rw [heq, List.mem_cons] at hc
      exact hold c (hc.resolve_left nofun)
    · rw [heq, List.mem_cons] at hc
      rcases hc with hc | hc
      · cases hc
        exact hsilent c (Or.inr ⟨t, subs, hpos⟩) (hok c subs hgo hpos)
      · exact hold c hc
    · rw [heq, List.mem_cons] at hc
      exact hold c (hc.resolve_left fun h => hne c h.symm)
  · rcases h.log_eq with heq | ⟨p, c', d, heq, hpend⟩ | ⟨c', subs, heq, -⟩ | ⟨e, heq, hne, -⟩
    · rw [heq]
      exact hinv.clean
    · rw [heq]
      refine List.pairwise_cons.mpr ⟨fun e he p' c d' hc hcon => ?_, hinv.clean⟩
      cases hc
      rw [hcon] at he
      exact hinv.silent _ he t hpend
    · rw [heq]
      exact List.pairwise_cons.mpr ⟨fun e he p' c d' hc => (nomatch hc), hinv.clean⟩
    · rw [heq]
      exact List.pairwise_cons.mpr ⟨fun e' he p' c d' hc => absurd hc (hne _ _ _), hinv.clean⟩

/-- **No callback is invoked after its unsubscription**, in any run from an empty manager in which
each `UnregisterCallback` that has removed its callback returns while no update and no reset still
has it to invoke. -/
theorem no_late_invocation (key : String) (lock : Bool) (as : List (ℕ × Act))
    (s : SettingSystem β) (hok : Guarded step ReturnsClean (start key lock : SettingSystem β) as)
    (hrun : runFrom step (start key lock) as = some s) : NoLateInvocation s.log :=
  (hok.invariant (fun _ _ _ hinv hguard hstep => cleanInv_step hinv hguard hstep)
    (cleanInv_start key lock) hrun).clean

/-- A registration by thread 0, and an update by thread 1 up to the collection of callbacks. -/
def collectSchedule : List (ℕ × Act) :=
  [(0, .call (.registerCallback 1)), (0, .go), (0, .go),
    (1, .call (.updateTargetUnit 1 .array)), (1, .go), (1, .go), (1, .go)]

/-- The callback is removed by thread 0. -/
def removeSchedule : List (ℕ × Act) :=
  [(0, .call (.unregisterCallback 1 0)), (0, .go), (0, .go), (0, .go)]

/-- A schedule that delivers the update before the callback is removed. -/
def cleanSchedule : List (ℕ × Act) :=
  collectSchedule ++ [(1, .invoke 0), (1, .go)] ++ removeSchedule

theorem no_late_invocation_clean :
    NoLateInvocation ((runFrom step (start "CameraId" true : SettingSystem ExcludeCam)
      cleanSchedule).get rfl).log := by
  refine no_late_invocation "CameraId" true cleanSchedule _ ?_ rfl
  iterate 12 refine ⟨nofun, fun s' hs => ?_⟩; cases hs
  refine ⟨fun c subs _ _ t => ?_, fun _ _ => trivial⟩
  match t with
  | 0 => exact List.not_mem_nil
  | 1 => exact List.not_mem_nil
  | t + 2 => exact List.not_mem_nil

/-- A schedule that delivers the update after the callback was removed. -/
def lateSchedule : List (ℕ × Act) := collectSchedule ++ removeSchedule ++ [(1, .invoke 0)]

/-- An update that has collected the callback invokes it after its removal has returned. -/
theorem not_no_late_invocation :
    ¬ ∀ (as : List (ℕ × Act)) (s : SettingSystem ExcludeCam),
      runFrom step (start "CameraId" true) as = some s → NoLateInvocation s.log := by
  intro h
  have hlate := h lateSchedule _ rfl
  exact (List.pairwise_cons.mp hlate).1 (.unregistered 0) (by simp) 0 0 _ rfl rfl

end DetectBase
