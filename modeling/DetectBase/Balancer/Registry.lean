import DetectBase.Balancer.LoadBalancer

/-!
# The registry of the subscribers

A subscriber is in three places: in `subscribers_`, in the counter of the inferences, and, with its
queue, in `cam_result_qs_`. The first two change in one critical section, and the third in another.
So a `Subscribe` that is overtaken by an `Unsubscribe` of the same unit leaves a queue that belongs
to nobody, and an `Unsubscribe` that is overtaken by a `Subscribe` removes the new queue.
`DestroySubscribersAll`, besides, clears the subscribers without taking them out of the counter.

`DetectBase.registry_consistent`: in a run in which every section comes in time
(`DetectBase.EngineLoadBalancer.Timely`), the three places agree whenever no call is in
progress, and no queue of the map is terminated. `DetectBase.not_registry_consistent` is a run of
one `Subscribe` and one `DestroySubscribersAll` after which they do not.
-/

namespace DetectBase

/-- The position is inside one of the operations that change the registry. -/
def BalancerCall.Updates : BalancerCall → Prop
  | .idle | .respondFind _ | .respondDequeue _ _ => False
  | .subscribeUnit _ | .subscribeQueue _ | .unsubscribeQueue _ | .destroyUnits
  | .destroyQueues => True

namespace EngineLoadBalancer

variable {β : Type}

/-- Some thread stands at `c`. -/
def Pending (s : EngineLoadBalancer β) (c : BalancerCall) : Prop := ∃ t, s.threads t = c

/-- No `Subscribe`, `Unsubscribe` or `DestroySubscribersAll` is in progress. -/
def Quiet (s : EngineLoadBalancer β) : Prop := ∀ t, ¬ (s.threads t).Updates

/-- **The three places agree**, and no queue of the map is terminated. -/
structure RegistryConsistent (s : EngineLoadBalancer β) : Prop where
  counters : s.subscribers = s.counters
  queues : ∀ u, u ∈ s.subscribers ↔ u ∈ s.camResultQs
  working : ∀ u q, s.camResultQs.lookup u = some q →
    ∃ x, s.queues[q]? = some x ∧ x.terminated = false

/-- **The guard**: a section that changes the queues finds the subscribers as the section before it
has left them, or another call is still to make up for it; and `DestroySubscribersAll` finds no
subscriber to clear. -/
structure Timely (s : EngineLoadBalancer β) (a : BalancerAct β) : Prop where
  store : ∀ t u, a = .advance t → s.threads t = .subscribeQueue u →
    u ∈ s.subscribers ∨ s.Pending (.unsubscribeQueue u)
  remove : ∀ t u, a = .advance t → s.threads t = .unsubscribeQueue u →
    u ∉ s.subscribers ∨ s.Pending (.subscribeQueue u)
  clearUnits : ∀ t, a = .advance t → s.threads t = .destroyUnits → s.subscribers = ∅
  clearQueues : ∀ t, a = .advance t → s.threads t = .destroyQueues →
    ∀ u ∈ s.subscribers, s.Pending (.subscribeQueue u)

/-- `b_terminate` of a queue. -/
def isTerminated (s : EngineLoadBalancer β) (q : ℕ) : Option Bool :=
  (s.queues[q]?).map (·.terminated)

/-- A `DestroySubscribersAll` has terminated the queues and is still to remove them. -/
def Destroying (s : EngineLoadBalancer β) : Prop :=
  s.Pending .destroyUnits ∨ s.Pending .destroyQueues

end EngineLoadBalancer

/-- **The invariant**: where the three places do not agree, a call is still to make them. -/
structure RegistryInvariant {β : Type} (s : EngineLoadBalancer β) : Prop where
  counted : s.subscribers = s.counters
  stored : ∀ u ∈ s.subscribers, u ∈ s.camResultQs ∨ s.Pending (.subscribeQueue u)
  removed : ∀ u ∉ s.subscribers, u ∉ s.camResultQs ∨ s.Pending (.unsubscribeQueue u)
  /-- No two units share a queue. -/
  own : ∀ u v q, s.camResultQs.lookup u = some q → s.camResultQs.lookup v = some q → u = v
  working : ∀ u q, s.camResultQs.lookup u = some q →
    ∃ b, s.isTerminated q = some b ∧ (b = true → s.Destroying)

section Invariant

open EngineLoadBalancer

variable {β : Type} {s s' : EngineLoadBalancer β} {a : BalancerAct β} {t : ℕ} {c c' : BalancerCall}

theorem pending_goto : (s.goto t c).Pending c := ⟨t, by simp⟩

theorem EngineLoadBalancer.Pending.goto (h : s.Pending c) (hne : s.threads t ≠ c) :
    (s.goto t c').Pending c := by
  obtain ⟨t', ht'⟩ := h
  have hne' : t' ≠ t := by
    rintro rfl
    exact hne ht'
  exact ⟨t', by rw [threads_goto, Function.update_of_ne hne', ht']⟩

theorem EngineLoadBalancer.Destroying.goto (h : s.Destroying) (hunits : s.threads t ≠ .destroyUnits)
    (hqueues : s.threads t ≠ .destroyQueues) : (s.goto t c).Destroying :=
  h.imp (fun hp => hp.goto hunits) fun hp => hp.goto hqueues

/-- A thread goes on that is not destroying the subscribers. -/
theorem RegistryInvariant.working_goto (h : RegistryInvariant s)
    (hpos : s.threads t ≠ .destroyUnits ∧ s.threads t ≠ .destroyQueues) {u : UnitID} {q : ℕ}
    (hq : s.camResultQs.lookup u = some q) :
    ∃ b, s.isTerminated q = some b ∧ (b = true → (s.goto t c).Destroying) := by
  obtain ⟨b, hb, hdestroy⟩ := h.working u q hq
  exact ⟨b, hb, fun hterm => (hdestroy hterm).goto hpos.1 hpos.2⟩

/-- The registry stays as it is, and the calls that are still to change it are still to do so. -/
theorem RegistryInvariant.same (h : RegistryInvariant s)
    (hsubs : s'.subscribers = s.subscribers) (hcounters : s'.counters = s.counters)
    (hqs : s'.camResultQs = s.camResultQs) (hterm : ∀ q, s'.isTerminated q = s.isTerminated q)
    (hpending : ∀ c, c.Updates → (∀ u, c ≠ .subscribeUnit u) → s.Pending c → s'.Pending c) :
    RegistryInvariant s' where
  counted := by rw [hsubs, hcounters, h.counted]
  stored u hu := by
    rw [hsubs] at hu
    rw [hqs]
    exact (h.stored u hu).imp_right (hpending _ trivial nofun)
  removed u hu := by
    rw [hsubs] at hu
    rw [hqs]
    exact (h.removed u hu).imp_right (hpending _ trivial nofun)
  own := by
    rw [hqs]
    exact h.own
  working u q hq := by
    rw [hqs] at hq
    obtain ⟨b, hb, hdestroy⟩ := h.working u q hq
    exact ⟨b, (hterm q).trans hb, fun h => (hdestroy h).imp (hpending _ trivial nofun)
      (hpending _ trivial nofun)⟩

/-- A thread goes on from where it has nothing to change. -/
theorem RegistryInvariant.goto (h : RegistryInvariant s)
    (hpos : (s.threads t).Updates → ∃ u, s.threads t = .subscribeUnit u) :
    RegistryInvariant (s.goto t c) := by
  refine h.same rfl rfl rfl (fun _ => rfl) fun c hc hne hpending => hpending.goto ?_
  intro heq
  obtain ⟨u, hu⟩ := hpos (heq ▸ hc)
  exact hne u (heq ▸ hu)

/-- A queue changes, but goes on working as before. -/
theorem isTerminated_set {q : ℕ} {x x' : SafeQueue (OutputLayer β)} (hx : s.queues[q]? = some x)
    (hterm : x'.terminated = x.terminated) (hqs : s'.queues = s.queues.set q x') (p : ℕ) :
    s'.isTerminated p = s.isTerminated p := by
  rw [isTerminated, isTerminated, hqs, List.getElem?_set]
  split_ifs with heq hlt
  · subst heq
    rw [hx, Option.map_some, Option.map_some, hterm]
  · subst heq
    rw [List.getElem?_eq_none (not_lt.mp hlt)]
  · rfl

theorem RegistryInvariant.subscribeUnit (h : RegistryInvariant s) {u : UnitID}
    (hpos : s.threads t = .subscribeUnit u) : RegistryInvariant
      { s.goto t (.subscribeQueue u) with
        subscribers := insert u s.subscribers
        counters := insert u s.counters } where
  counted := by rw [h.counted]
  stored v hv := by
    rcases Finset.mem_insert.mp hv with rfl | hv
    · exact Or.inr (pending_goto (s := s))
    · exact (h.stored v hv).imp_right fun hp => hp.goto (by simp [hpos])
  removed v hv :=
    (h.removed v fun hmem => hv (Finset.mem_insert_of_mem hmem)).imp_right
      fun hp => hp.goto (by simp [hpos])
  own := h.own
  working v q hq := h.working_goto (by simp [hpos]) hq

theorem RegistryInvariant.subscribeQueue (h : RegistryInvariant s) {u : UnitID}
    (hpos : s.threads t = .subscribeQueue u)
    (hok : u ∈ s.subscribers ∨ s.Pending (.unsubscribeQueue u)) :
    RegistryInvariant (s.subscribeQueue t u) where
  counted := h.counted
  stored v hv := by
    rcases eq_or_ne v u with rfl | hne
    · exact Or.inl ((AList.mem_insert _).mpr (Or.inl rfl))
    · refine (h.stored v hv).imp (fun hmem => (AList.mem_insert _).mpr (Or.inr hmem)) fun hp => ?_
      refine hp.goto ?_
      rw [hpos]
      exact fun heq => hne (BalancerCall.subscribeQueue.inj heq).symm
  removed v hv := by
    rcases eq_or_ne v u with rfl | hne
    · exact Or.inr ((hok.resolve_left hv).goto (by simp [hpos]))
    · refine (h.removed v hv).imp (fun hmem hmem' => ?_) fun hp => hp.goto (by simp [hpos])
      exact ((AList.mem_insert _).mp hmem').elim hne hmem
  own v w q hv hw := by
    -- the number of the new queue is larger than all others
    have hold : ∀ v, s.camResultQs.lookup v = some s.queues.length → False := by
      intro v hv
      obtain ⟨b, hb, -⟩ := h.working v _ hv
      simp [isTerminated] at hb
    simp only [EngineLoadBalancer.subscribeQueue] at hv hw
    rcases eq_or_ne v u with rfl | hvu
    · rcases eq_or_ne w v with rfl | hwu
      · rfl
      · rw [AList.lookup_insert] at hv
        rw [AList.lookup_insert_ne hwu, ← hv] at hw
        exact (hold w hw).elim
    · rw [AList.lookup_insert_ne hvu] at hv
      rcases eq_or_ne w u with rfl | hwu
      · rw [AList.lookup_insert] at hw
        rw [← hw] at hv
        exact (hold v hv).elim
      · rw [AList.lookup_insert_ne hwu] at hw
        exact h.own v w q hv hw
  working v q hq := by
    simp only [EngineLoadBalancer.subscribeQueue] at hq
    rcases eq_or_ne v u with rfl | hne
    · rw [AList.lookup_insert, Option.some_inj] at hq
      subst hq
      exact ⟨false, by simp [isTerminated, EngineLoadBalancer.subscribeQueue, SafeQueue.new],
        nofun⟩
    · rw [AList.lookup_insert_ne hne] at hq
      obtain ⟨b, hb, hdestroy⟩ := h.working_goto (t := t) (c := .idle) (by simp [hpos]) hq
      refine ⟨b, ?_, hdestroy⟩
      obtain ⟨x, hx, rfl⟩ := Option.map_eq_some_iff.mp hb
      have hlt : q < s.queues.length := (List.getElem?_eq_some_iff.mp hx).1
      rw [isTerminated, EngineLoadBalancer.subscribeQueue, List.getElem?_append_left hlt, hx]
      rfl

theorem RegistryInvariant.unsubscribeUnit (h : RegistryInvariant s) {u : UnitID}
    (hpos : s.threads t = .idle) : RegistryInvariant
      { (s.goto t (.unsubscribeQueue u)).record (.unsubscribe u) with
        subscribers := s.subscribers.erase u
        counters := s.counters.erase u } where
  counted := by rw [h.counted]
  stored v hv :=
    (h.stored v (Finset.mem_of_mem_erase hv)).imp_right fun hp => hp.goto (by simp [hpos])
  removed v hv := by
    rcases eq_or_ne v u with rfl | hne
    · exact Or.inr (pending_goto (s := s))
    · exact (h.removed v fun hmem => hv (Finset.mem_erase.mpr ⟨hne, hmem⟩)).imp_right
        fun hp => hp.goto (by simp [hpos])
  own := h.own
  working v q hq := h.working_goto (by simp [hpos]) hq

theorem RegistryInvariant.unsubscribeQueue (h : RegistryInvariant s) {u : UnitID} {q : ℕ}
    (hpos : s.threads t = .unsubscribeQueue u) (hq : s.camResultQs.lookup u = some q)
    (hok : u ∉ s.subscribers ∨ s.Pending (.subscribeQueue u)) : RegistryInvariant
      { (s.goto t .idle).record (.unsubscribe u) with
        camResultQs := s.camResultQs.erase u
        queues := s.queues.modify q SafeQueue.terminate } where
  counted := h.counted
  stored v hv := by
    rcases eq_or_ne v u with rfl | hne
    · exact Or.inr ((hok.resolve_left (not_not.mpr hv)).goto (by simp [hpos]))
    · exact (h.stored v hv).imp (fun hmem => AList.mem_erase.mpr ⟨hne, hmem⟩)
        fun hp => hp.goto (by simp [hpos])
  removed v hv := by
    rcases eq_or_ne v u with rfl | hne
    · exact Or.inl fun hmem => (AList.mem_erase.mp hmem).1 rfl
    · refine (h.removed v hv).imp (fun hmem hmem' => hmem (AList.mem_erase.mp hmem').2) fun hp => ?_
      refine hp.goto ?_
      rw [hpos]
      exact fun heq => hne (BalancerCall.unsubscribeQueue.inj heq).symm
  own v w p hv hw := by
    dsimp only at hv hw
    have hne : ∀ {v}, (s.camResultQs.erase u).lookup v = some p → v ≠ u := by
      rintro v hv rfl
      rw [AList.lookup_erase] at hv
      cases hv
    rw [AList.lookup_erase_ne (hne hv)] at hv
    rw [AList.lookup_erase_ne (hne hw)] at hw
    exact h.own v w p hv hw
  working v p hp := by
    dsimp only at hp
    rcases eq_or_ne v u with rfl | hne
    · rw [AList.lookup_erase] at hp
      cases hp
    · rw [AList.lookup_erase_ne hne] at hp
      obtain ⟨b, hb, hdestroy⟩ := h.working_goto (t := t) (c := .idle) (by simp [hpos]) hp
      refine ⟨b, ?_, hdestroy⟩
      -- the queue that is terminated is that of no other unit
      have hpq : q ≠ p := by
        rintro rfl
        exact hne (h.own v u q hp hq)
      rw [isTerminated, List.getElem?_modify_ne _ _ hpq]
      exact hb

theorem RegistryInvariant.noQueue (h : RegistryInvariant s) {u : UnitID}
    (hpos : s.threads t = .unsubscribeQueue u) (hq : s.camResultQs.lookup u = none) :
    RegistryInvariant ((s.goto t .idle).record (.unsubscribe u)) where
  counted := h.counted
  stored v hv := (h.stored v hv).imp_right fun hp => hp.goto (by simp [hpos])
  removed v hv := by
    rcases eq_or_ne v u with rfl | hne
    · exact Or.inl (AList.lookup_eq_none.mp hq)
    · refine (h.removed v hv).imp_right fun hp => hp.goto ?_
      rw [hpos]
      exact fun heq => hne (BalancerCall.unsubscribeQueue.inj heq).symm
  own := h.own
  working v q hq := h.working_goto (by simp [hpos]) hq

theorem RegistryInvariant.terminateQueues (h : RegistryInvariant s) (hpos : s.threads t = .idle) :
    RegistryInvariant (s.terminateQueues t) where
  counted := h.counted
  stored v hv := (h.stored v hv).imp_right fun hp => hp.goto (by simp [hpos])
  removed v hv := (h.removed v hv).imp_right fun hp => hp.goto (by simp [hpos])
  own := h.own
  working v q hq := by
    obtain ⟨b, hb, -⟩ := h.working v q hq
    obtain ⟨x, hx, -⟩ := Option.map_eq_some_iff.mp hb
    refine ⟨(if s.InUse q then x.terminate else x).terminated, ?_, fun _ => Or.inl pending_goto⟩
    simp [isTerminated, EngineLoadBalancer.terminateQueues, List.getElem?_mapIdx, hx]

theorem RegistryInvariant.destroyUnits (h : RegistryInvariant s)
    (hpos : s.threads t = .destroyUnits) (hok : s.subscribers = ∅) :
    RegistryInvariant { s.goto t .destroyQueues with subscribers := ∅ } where
  counted := hok ▸ h.counted
  stored v hv := absurd hv (Finset.notMem_empty v)
  removed v hv := (h.removed v (by rw [hok]; exact hv)).imp_right fun hp => hp.goto (by simp [hpos])
  own := h.own
  working v q hq := by
    obtain ⟨b, hb, -⟩ := h.working v q hq
    exact ⟨b, hb, fun _ => Or.inr (pending_goto (s := s))⟩

theorem RegistryInvariant.destroyQueues (h : RegistryInvariant s)
    (hpos : s.threads t = .destroyQueues)
    (hok : ∀ u ∈ s.subscribers, s.Pending (.subscribeQueue u)) :
    RegistryInvariant { s.goto t .idle with camResultQs := ∅ } where
  counted := h.counted
  stored v hv := Or.inr ((hok v hv).goto (by simp [hpos]))
  removed v _ := Or.inl (AList.notMem_empty v)
  own v w q hv := by simp at hv
  working v q hq := by simp at hq

/-- **A timely step keeps the invariant.** -/
theorem RegistryInvariant.step (h : RegistryInvariant s) (hok : s.Timely a)
    (hstep : s.step a = some s') : RegistryInvariant s' := by
  -- a step of the dispatcher, or of the receiver, leaves the threads alone
  have hsame : ∀ {x d b l}, RegistryInvariant
      { s with isTerminateInstance := b, receiver := x, dispatcher := d, log := l } :=
    fun {_ _ _ _} => h.same rfl rfl rfl (fun _ => rfl) fun _ _ _ hp => hp
  cases balancerStep_sound hstep with
  | refused => exact h
  | subscribe hpos | respondAsync hpos => exact h.goto (by rw [hpos]; exact False.elim)
  | alreadySubscribed hpos => exact h.goto fun _ => ⟨_, hpos⟩
  | subscribeUnit hpos => exact h.subscribeUnit hpos
  | subscribeQueue hpos => exact h.subscribeQueue hpos (hok.store _ _ rfl hpos)
  | unsubscribeUnit hpos => exact h.unsubscribeUnit hpos
  | notSubscribed hpos =>
    refine (h.goto (c := .unsubscribeQueue _) (by rw [hpos]; exact False.elim)).same rfl rfl rfl
      (fun _ => rfl) fun _ _ _ hp => hp
  | unsubscribeQueue hpos hq => exact h.unsubscribeQueue hpos hq (hok.remove _ _ rfl hpos)
  | noQueue hpos hq => exact h.noQueue hpos hq
  | terminateQueues hpos => exact h.terminateQueues hpos
  | destroyUnits hpos => exact h.destroyUnits hpos (hok.clearUnits _ rfl hpos)
  | destroyQueues hpos => exact h.destroyQueues hpos (hok.clearQueues _ rfl hpos)
  | respondFind hpos => exact h.goto (by rw [hpos]; exact False.elim)
  | respond hpos hx hr =>
    have hterm := SafeQueue.terminated_of_dequeue hr
    exact (h.goto (c := .idle) (by rw [hpos]; exact False.elim)).same rfl rfl rfl
      (isTerminated_set hx (hterm.2.trans hterm.1.symm) rfl) fun _ _ _ hp => hp
  | respondNothing hpos =>
    refine h.goto fun hup => ?_
    rcases hpos with hpos | ⟨q, hpos⟩
    · rw [hpos] at hup
      exact hup.elim
    · rw [hpos] at hup
      exact hup.elim
  | receiver | receive | find | discard | terminate => exact hsame
  | push hpos hx =>
    exact h.same rfl rfl rfl (isTerminated_set hx (SafeQueue.terminated_enqueue _ _) rfl)
      fun _ _ _ hp => hp

end Invariant

/-! ### Runs -/

section Runs

open EngineLoadBalancer

variable {β : Type}

theorem registryInvariant_new : RegistryInvariant (new : EngineLoadBalancer β) where
  counted := rfl
  stored _ hu := absurd hu (Finset.notMem_empty _)
  removed u _ := Or.inl (AList.notMem_empty u)
  own u v q hu := by simp [new] at hu
  working u q hq := by simp [new] at hq

/-- **The registry is consistent whenever no call is in progress**, in every run whose sections come
in time. -/
theorem registry_consistent (s : EngineLoadBalancer β) (as : List (BalancerAct β))
    (hok : Guarded step Timely new as) (hrun : runFrom step new as = some s) (hquiet : s.Quiet) :
    s.RegistryConsistent := by
  have h : RegistryInvariant s :=
    hok.invariant (fun _ _ _ hs ha hstep => hs.step ha hstep) registryInvariant_new hrun
  have hnone : ∀ c, c.Updates → ¬ s.Pending c := by
    rintro c hc ⟨t, rfl⟩
    exact hquiet t hc
  refine ⟨h.counted, fun u => ⟨fun hu => ?_, fun hu => ?_⟩, fun u q hq => ?_⟩
  · exact (h.stored u hu).resolve_right (hnone _ trivial)
  · by_contra hu'
    exact (h.removed u hu').elim (fun hno => hno hu) (hnone _ trivial)
  · obtain ⟨b, hb, hdestroy⟩ := h.working u q hq
    obtain ⟨x, hx, rfl⟩ := Option.map_eq_some_iff.mp hb
    refine ⟨x, hx, Bool.eq_false_iff.mpr fun hterm => ?_⟩
    exact (hdestroy hterm).elim (hnone _ trivial) (hnone _ trivial)

theorem EngineLoadBalancer.Timely.of_ne {s : EngineLoadBalancer β} {a : BalancerAct β}
    (h : ∀ t, a ≠ .advance t) : s.Timely a :=
  ⟨fun t _ ha => absurd ha (h t), fun t _ ha => absurd ha (h t), fun t ha => absurd ha (h t),
    fun t ha => absurd ha (h t)⟩

/-- One unit subscribes. -/
def subscribeOne : List (BalancerAct Unit) := [.subscribe 0 7, .advance 0, .advance 0]

/-- After one `Subscribe` the unit is in all three places. -/
theorem registry_consistent_subscribeOne : ∃ s : EngineLoadBalancer Unit,
    runFrom step new subscribeOne = some s ∧ s.Quiet ∧ s.subscribers = {7} ∧
      s.RegistryConsistent := by
  refine ⟨_, rfl, ?quiet, rfl, registry_consistent _ subscribeOne ?_ rfl ?quiet⟩
  case quiet =>
    intro t
    rcases eq_or_ne t 0 with rfl | hne
    · exact id
    · simp [EngineLoadBalancer.subscribeQueue, EngineLoadBalancer.subscribeUnit, new,
        BalancerCall.Updates]
  refine ⟨.of_ne (by simp), fun s hs => ?_⟩
  cases hs
  refine ⟨⟨?_, ?_, ?_, ?_⟩, fun s hs => ?_⟩
  iterate 2 rintro t u ⟨⟩ ⟨⟩
  iterate 2 rintro t ⟨⟩ ⟨⟩
  cases hs
  refine ⟨⟨?_, ?_, ?_, ?_⟩, fun s hs => trivial⟩
  · rintro t u ⟨⟩ ⟨⟩
    exact Or.inl (by decide)
  · rintro t u ⟨⟩ ⟨⟩
  iterate 2 rintro t ⟨⟩ ⟨⟩

/-- When all subscribers are destroyed, the unit keeps its counter. -/
theorem not_registry_consistent :
    ¬ ∀ (s : EngineLoadBalancer Unit) (as : List (BalancerAct Unit)),
      runFrom step new as = some s → s.Quiet → s.RegistryConsistent := by
  intro h
  have hcounters := (h _ (subscribeOne ++ [.destroySubscribersAll 0, .advance 0, .advance 0]) rfl
    ?quiet).counters
  · exact absurd hcounters (by decide)
  case quiet =>
    intro t
    rcases eq_or_ne t 0 with rfl | hne
    · exact id
    · simp [EngineLoadBalancer.terminateQueues, EngineLoadBalancer.subscribeQueue,
        EngineLoadBalancer.subscribeUnit, new, hne, BalancerCall.Updates]

end Runs

end DetectBase
