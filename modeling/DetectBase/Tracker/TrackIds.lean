import DetectBase.Foundations.Transition
import DetectBase.Tracker.Conservation

/-!
# The identifiers of the trackers

Every tracker gets the next value of a counter as its identifier. New trackers come last in
`kalmans_`, and what is erased leaves the others in their places, so that what a call leaves of the
identifiers is a part of what there was before it, and of the ones that it has given
(`DetectBase.Later`).

The counter has 32 bits and an identifier is an `int`. A call sets the counter back well before it
leaves the range of `int`, but only at its end, where the calls that start the first trackers do
not get to. As long as none of these goes past the range, all identifiers are in order, and none
comes again (`DetectBase.trackIds_unique`).
-/

namespace DetectBase

open SORTTracker

variable {K : Type}

/-- The identifiers, in the order of `kalmans_`. -/
def SORTTracker.trackIds (s : SORTTracker K) : List ℤ := s.kalmans.map (·.trackId)

/-- The identifiers of `n` trackers, the first of which gets the value `count` of the counter. -/
def idsFrom (count n : ℕ) : List ℤ := (List.range' count n).map fun i : ℕ => toInt32 i

/-! ### Values of the counter -/

section Values

variable {count n : ℕ}

@[simp] theorem idsFrom_zero : idsFrom count 0 = [] := rfl

theorem idsFrom_one : idsFrom count 1 = [toInt32 count] := by
  rw [idsFrom, List.range'_one, List.map_singleton]

theorem idsFrom_add (count n n' : ℕ) :
    idsFrom count (n + n') = idsFrom count n ++ idsFrom (count + n) n' := by
  rw [idsFrom, idsFrom, idsFrom, ← List.map_append, List.range'_append_1]

theorem toInt32_eq {i : ℕ} (h : i < 2 ^ 32) :
    toInt32 i = if i < 2 ^ 31 then (i : ℤ) else i - 2 ^ 32 := by
  rw [toInt32, Int.bmod_def]
  split_ifs <;> omega

/-- **Where identifiers are in order**: as long as they are of the same sign. -/
theorem pairwise_idsFrom (h : count + n ≤ 2 ^ 32) :
    (idsFrom count n).Pairwise fun a b => (0 ≤ a ↔ 0 ≤ b) → a < b := by
  refine List.pairwise_map.mpr (List.Pairwise.imp_of_mem ?_ List.pairwise_lt_range')
  intro i j hi hj hlt hsign
  have hi' := List.mem_range'_1.mp hi
  have hj' := List.mem_range'_1.mp hj
  rw [toInt32_eq (by omega), toInt32_eq (by omega)] at hsign ⊢
  split_ifs at hsign ⊢ <;> omega

/-- No identifier is given twice. -/
theorem nodup_idsFrom (h : count + n ≤ 2 ^ 32) : (idsFrom count n).Nodup := by
  refine (pairwise_idsFrom h).imp ?_
  rintro a b hlt rfl
  exact lt_irrefl a (hlt Iff.rfl)

theorem lt_of_mem_idsFrom {id : ℤ} (h : id ∈ idsFrom count n) : id < count + n := by
  obtain ⟨i, hi, rfl⟩ := List.mem_map.mp h
  have hi' := List.mem_range'_1.mp hi
  have hle := toInt32_le (Int.natCast_nonneg i)
  omega

theorem nonneg_of_mem_idsFrom {id : ℤ} (hn : count + n ≤ 2 ^ 31)
    (h : id ∈ idsFrom count n) : 0 ≤ id := by
  obtain ⟨i, hi, rfl⟩ := List.mem_map.mp h
  have hi' := List.mem_range'_1.mp hi
  rw [toInt32_eq (by omega), if_pos (by omega)]
  omega

theorem neg_of_mem_idsFrom {id : ℤ} (hcount : 2 ^ 31 ≤ count)
    (hn : count + n ≤ 2 ^ 32) (h : id ∈ idsFrom count n) : id < 0 := by
  obtain ⟨i, hi, rfl⟩ := List.mem_map.mp h
  have hi' := List.mem_range'_1.mp hi
  rw [toInt32_eq (by omega), if_neg (by omega)]
  omega

end Values

/-! ### What a call leaves -/

section Calls

variable {m : Motion K} {solve : List (List Double) → List ℤ} {s s' s'' : SORTTracker K}
  {objects : List InferObject}

/-- **The tracker has come from an earlier state**: the counter has not been set back, and the
identifiers are some of those there were, followed by some of those given since. -/
structure Later (s s' : SORTTracker K) : Prop where
  /-- The counter has not been set back. -/
  count_le : s.createCount ≤ s'.createCount
  /-- Nothing has been moved. -/
  trackIds : s'.trackIds.Sublist
    (s.trackIds ++ idsFrom s.createCount (s'.createCount - s.createCount))

theorem Later.refl (s : SORTTracker K) : Later s s :=
  ⟨Nat.le_refl _, List.sublist_append_left _ _⟩

theorem Later.trans (h : Later s s') (h' : Later s' s'') : Later s s'' := by
  refine ⟨h.count_le.trans h'.count_le, h'.trackIds.trans ?_⟩
  have hle := h.count_le
  have hle' := h'.count_le
  have hsplit : s''.createCount - s.createCount =
      (s'.createCount - s.createCount) + (s''.createCount - s'.createCount) := by omega
  have hnext : s.createCount + (s'.createCount - s.createCount) = s'.createCount := by omega
  rw [hsplit, idsFrom_add, hnext, ← List.append_assoc]
  exact h.trackIds.append_right _

/-- What becomes of the trackers without new ones. -/
theorem Later.of_sublist {kalmans : List (KalmanTracker K)}
    (h : (kalmans.map (·.trackId)).Sublist s.trackIds) : Later s ⟨kalmans, s.createCount⟩ :=
  ⟨Nat.le_refl _, h.trans (List.sublist_append_left _ _)⟩

theorem trackIds_predictLoop (ks : List (KalmanTracker K)) :
    ((predictLoop m ks).map (·.1.trackId)).Sublist (ks.map (·.trackId)) := by
  induction ks with
  | nil => exact List.Sublist.refl _
  | cons k ks ih =>
    rw [predictLoop]
    split_ifs
    · exact ih.cons _
    · exact ih.cons_cons _

theorem trackId_update (k : KalmanTracker K) (object : InferObject) :
    (k.update m object).trackId = k.trackId := by
  rw [KalmanTracker.update]
  split_ifs <;> rfl

theorem trackIds_updateAll (ks : List (KalmanTracker K)) (pairs : List (ℕ × ℕ)) :
    (updateAll m objects ks pairs).map (·.trackId) = ks.map (·.trackId) := by
  induction pairs generalizing ks with
  | nil => rfl
  | cons p pairs ih =>
    rw [updateAll, List.foldl_cons]
    refine (ih _).trans ?_
    cases objects[p.2]? with
    | none => rfl
    | some object =>
      refine List.ext_getElem? fun i => ?_
      rw [List.getElem?_map, List.getElem?_map, Option.elim, List.getElem?_modify,
        Option.map_eq_map, Option.map_map]
      refine Option.map_congr fun k _ => ?_
      rw [Function.comp_apply]
      split_ifs
      · exact trackId_update k object
      · rfl

theorem trackId_new (uuid : ℕ) (object : InferObject) :
    (KalmanTracker.new m uuid object).trackId = toInt32 uuid := by
  rw [KalmanTracker.new]

/-- The trackers that are started get the next values of the counter. -/
theorem trackIds_foldl_spawn (objects : List InferObject) (s : SORTTracker K)
    (h : s.createCount < 2 ^ 32) :
    (objects.foldl (spawn m) s).trackIds =
        s.trackIds ++ idsFrom s.createCount objects.length ∧
      (objects.foldl (spawn m) s).createCount = (s.createCount + objects.length) % 2 ^ 32 := by
  induction objects generalizing s with
  | nil => exact ⟨(List.append_nil _).symm, (Nat.mod_eq_of_lt h).symm⟩
  | cons object objects ih =>
    obtain ⟨hids, hcount⟩ := ih (s.spawn m object) (Nat.mod_lt _ (by decide))
    have hspawn : (s.spawn m object).createCount = (s.createCount + 1) % 2 ^ 32 := rfl
    have hfirst : (s.spawn m object).trackIds = s.trackIds ++ idsFrom s.createCount 1 := by
      rw [idsFrom_one, SORTTracker.trackIds, SORTTracker.trackIds, spawn, List.map_append,
        List.map_singleton, trackId_new]
    have hrest : idsFrom ((s.createCount + 1) % 2 ^ 32) objects.length =
        idsFrom (s.createCount + 1) objects.length := by
      rw [idsFrom, idsFrom, List.range'_eq_map_range, List.range'_eq_map_range, List.map_map,
        List.map_map]
      refine List.map_congr_left fun i _ => ?_
      rw [Function.comp_apply, Function.comp_apply]
      refine toInt32_of_mod ?_
      rw [Nat.mod_add_mod]
    rw [List.foldl_cons, List.length_cons, Nat.add_comm objects.length 1]
    constructor
    · rw [idsFrom_add, hids, hfirst, hspawn, hrest, List.append_assoc]
    · rw [hcount, hspawn, Nat.mod_add_mod, Nat.add_assoc]

/-- No call starts more trackers than it has detections and pairs that are given up. -/
theorem length_unmatchedIndices_le (costs : List (List Double)) (assignment : List ℤ)
    (trkNum detNum : ℕ) :
    (unmatchedIndices costs assignment trkNum detNum).length ≤ detNum + trkNum := by
  rw [unmatchedIndices, List.length_map, Finset.length_sort, unmatchedItems]
  refine (Finset.card_union_le _ _).trans (Nat.add_le_add ?_ ?_)
  · split_ifs
    · refine (Finset.card_le_card Finset.sdiff_subset).trans (Finset.card_image_le.trans ?_)
      rw [Finset.card_range]
    · exact Nat.zero_le _
  · refine (List.toFinset_card_le _).trans ((List.length_filterMap_le _ _).trans ?_)
    rw [List.length_range]

/-- **The identifiers after the new trackers**, in a call that does not set the counter back. -/
theorem later_associate (hpos : 1 ≤ s.createCount) (hcount : s.createCount < 2 ^ 32)
    (htrk : (predictLoop m s.kalmans).length ≤ 200)
    (hdet : objects.length ≤ 200)
    (hcycled : s.createCount ≤
      (associate m solve s (predictLoop m s.kalmans) objects).retire.cycle.createCount) :
    Later s (associate m solve s (predictLoop m s.kalmans) objects) ∧
      (associate m solve s (predictLoop m s.kalmans) objects).createCount ≤
        trackIdCycleThreshold := by
  rw [associate, spawnAll_eq_foldl] at hcycled ⊢
  set costs := costMatrix m ((predictLoop m s.kalmans).map Prod.snd) objects
  set items := unmatchedIndices costs (solve costs) (predictLoop m s.kalmans).length objects.length
  set updated : SORTTracker K := ⟨updateAll m objects ((predictLoop m s.kalmans).map Prod.fst)
    (matchedPairs costs (solve costs) (predictLoop m s.kalmans).length), s.createCount⟩
    with hupdated
  set started := items.filterMap (objects[·]?) with hstarted
  have hitems : started.length ≤ objects.length + (predictLoop m s.kalmans).length :=
    (List.length_filterMap_le _ _).trans (length_unmatchedIndices_le _ _ _ _)
  have hkept : updated.trackIds.Sublist s.trackIds := by
    rw [hupdated, SORTTracker.trackIds, trackIds_updateAll, List.map_map]
    exact trackIds_predictLoop s.kalmans
  obtain ⟨hids, hnext⟩ := trackIds_foldl_spawn (m := m) started updated hcount
  set s₁ := started.foldl (spawn m) updated
  have hcountU : updated.createCount = s.createCount := rfl
  rw [hcountU] at hids hnext
  -- the counter has been set back if it has passed the threshold, or has gone around
  have hsmall : s₁.createCount ≤ trackIdCycleThreshold ∧
      s₁.createCount = s.createCount + started.length := by
    have hback : s.createCount ≤
        if trackIdCycleThreshold < s₁.createCount then 0 else s₁.createCount := hcycled
    rw [trackIdCycleThreshold] at hback ⊢
    split_ifs at hback <;> omega
  refine ⟨⟨by omega, ?_⟩, hsmall.1⟩
  rw [hids, hsmall.2, Nat.add_sub_cancel_left]
  exact hkept.append_right _

end Calls

/-! ### Runs -/

namespace SORTTracker

/-- One call, with its detections and its number. -/
def call (m : Motion K) (solve : List (List Double) → List ℤ) (s : SORTTracker K)
    (c : List InferObject × ℤ) : Option (SORTTracker K) :=
  some (s.trackObjects m solve c.1 c.2).2

/-- The call does not set the counter back. -/
def NotCycled (m : Motion K) (solve : List (List Double) → List ℤ) (s : SORTTracker K)
    (c : List InferObject × ℤ) : Prop :=
  s.createCount ≤ (s.trackObjects m solve c.1 c.2).2.createCount

/-- **The guard**: the identifiers of the trackers that a call starts when there is none do not go
past the range of `int`, nor past that of the counter. -/
def IdsFit (s : SORTTracker K) (c : List InferObject × ℤ) : Prop :=
  s.kalmans = [] → s.createCount + c.1.length ≤ 2 ^ 31 ∨
    2 ^ 31 ≤ s.createCount ∧ s.createCount + c.1.length < 2 ^ 32

end SORTTracker

section Runs

variable {m : Motion K} {solve : List (List Double) → List ℤ} {s s' : SORTTracker K}
  {c : List InferObject × ℤ}

/-- **The invariant**: what has been given has not been given twice, and the identifiers of the
trackers that are there are of the same sign. -/
structure IdsInOrder (s : SORTTracker K) : Prop where
  /-- The identifiers have been given in this order. -/
  later : Later new s
  /-- The counter is an `unsigned int`. -/
  count_lt : s.createCount < 2 ^ 32
  /-- None has gone past the range of `int`, or all have. -/
  oneSided : (∀ id ∈ s.trackIds, 0 ≤ id) ∨ ∀ id ∈ s.trackIds, id < 0

theorem IdsInOrder.sublist (h : IdsInOrder s) :
    s.trackIds.Sublist (idsFrom 1 (s.createCount - 1)) := h.later.trackIds

theorem IdsInOrder.one_le (h : IdsInOrder s) : 1 ≤ s.createCount := h.later.count_le

theorem idsInOrder_new : IdsInOrder (new : SORTTracker K) :=
  ⟨Later.refl _, (by decide : 1 < 2 ^ 32), .inl nofun⟩

/-- The identifiers are in order. -/
theorem IdsInOrder.pairwise (h : IdsInOrder s) : s.trackIds.Pairwise (· < ·) := by
  have hone := h.one_le
  have hlt := h.count_lt
  refine ((pairwise_idsFrom (by omega)).sublist h.sublist).imp_of_mem ?_
  intro a b ha hb hab
  rcases h.oneSided with hside | hside
  · exact hab (iff_of_true (hside a ha) (hside b hb))
  · exact hab (iff_of_false (not_le.mpr (hside a ha)) (not_le.mpr (hside b hb)))

theorem IdsInOrder.lt_createCount (h : IdsInOrder s) : ∀ id ∈ s.trackIds, id < s.createCount := by
  intro id hid
  have hone := h.one_le
  have hlt := lt_of_mem_idsFrom (h.sublist.subset hid)
  omega

/-- As long as the counter is small, no identifier is negative. -/
theorem IdsInOrder.of_small (h : Later new s) (hsmall : s.createCount ≤ 2 ^ 31) : IdsInOrder s := by
  have hone : 1 ≤ s.createCount := h.count_le
  refine ⟨h, by omega, .inl fun id hid => ?_⟩
  have hn : 1 + (s.createCount - 1) ≤ 2 ^ 31 := by omega
  exact nonneg_of_mem_idsFrom hn (h.trackIds.subset hid)

/-- What is erased leaves the rest in order. -/
theorem IdsInOrder.of_sublist (h : IdsInOrder s) {kalmans : List (KalmanTracker K)}
    (hsub : (kalmans.map (·.trackId)).Sublist s.trackIds) : IdsInOrder ⟨kalmans, s.createCount⟩ :=
  ⟨h.later.trans (.of_sublist hsub), h.count_lt,
    h.oneSided.imp (fun hside id hid => hside id (hsub.subset hid))
      fun hside id hid => hside id (hsub.subset hid)⟩

/-- The first trackers. -/
theorem IdsInOrder.first (h : IdsInOrder s) (hnil : s.kalmans = []) (hfit : s.IdsFit c) :
    Later s (c.1.foldl (spawn m) s) ∧ IdsInOrder (c.1.foldl (spawn m) s) := by
  obtain ⟨hids, hcount⟩ := trackIds_foldl_spawn (m := m) c.1 s h.count_lt
  have hnone : s.trackIds = [] := by rw [SORTTracker.trackIds, hnil, List.map_nil]
  rw [hnone, List.nil_append] at hids
  have hlt : s.createCount + c.1.length < 2 ^ 32 := by
    rcases hfit hnil with hsmall | hlarge <;> omega
  rw [Nat.mod_eq_of_lt hlt] at hcount
  have hlater : Later s (c.1.foldl (spawn m) s) := by
    refine ⟨by omega, ?_⟩
    rw [hids, hcount, Nat.add_sub_cancel_left]
    exact List.sublist_append_right _ _
  refine ⟨hlater, h.later.trans hlater, by omega, ?_⟩
  rw [hids]
  rcases hfit hnil with hsmall | ⟨hlarge, -⟩
  · exact .inl fun id => nonneg_of_mem_idsFrom hsmall
  · exact .inr fun id => neg_of_mem_idsFrom hlarge (by omega)

theorem trackIds_retire (s : SORTTracker K) : s.retire.trackIds.Sublist s.trackIds :=
  List.filter_sublist.map _

theorem cycle_of_le (h : s.createCount ≤ trackIdCycleThreshold) : s.cycle = s := by
  rw [cycle, if_neg (not_lt.mpr h)]

/-- **One call that does not set the counter back** keeps the invariant. -/
theorem IdsInOrder.trackObjects (h : IdsInOrder s) (hcycled : s.NotCycled m solve c)
    (hfit : s.IdsFit c) :
    Later s (s.trackObjects m solve c.1 c.2).2 ∧ IdsInOrder (s.trackObjects m solve c.1 c.2).2 := by
  have hpredictions : ((predictLoop m s.kalmans).map Prod.fst |>.map (·.trackId)).Sublist
      s.trackIds := by
    rw [List.map_map]
    exact trackIds_predictLoop s.kalmans
  rw [NotCycled] at hcycled
  rw [SORTTracker.trackObjects] at hcycled ⊢
  dsimp only at hcycled ⊢
  split_ifs at hcycled ⊢ with hnone hfirst hlimit hbad
  · exact ⟨.refl s, h⟩
  · exact h.first hfirst hfit
  · have hkept := (trackIds_retire ⟨(predictLoop m s.kalmans).map Prod.fst,
      s.createCount⟩).trans hpredictions
    exact ⟨.of_sublist hkept, h.of_sublist hkept⟩
  · have hkept : (([] : List (KalmanTracker K)).map (·.trackId)).Sublist s.trackIds :=
      List.nil_sublist _
    exact ⟨.of_sublist hkept, h.of_sublist hkept⟩
  · rw [sortTrackingMaxNum] at hlimit
    obtain ⟨hlater, hsmall⟩ := later_associate h.one_le h.count_lt (by omega) (by omega) hcycled
    set s₁ := associate m solve s (predictLoop m s.kalmans) c.1
    have hkept : (s₁.retire.kalmans.map (·.trackId)).Sublist s₁.trackIds := trackIds_retire s₁
    have hnumbered : IdsInOrder s₁ := by
      refine .of_small (h.later.trans hlater) (hsmall.trans ?_)
      rw [trackIdCycleThreshold]
      decide
    rw [cycle_of_le (s := s₁.retire) hsmall]
    exact ⟨hlater.trans (.of_sublist hkept), hnumbered.of_sublist hkept⟩

/-- What is reported stays: it has just got a detection. -/
theorem trackIds_report (s : SORTTracker K) (requestSeq : ℤ) :
    ((s.report m requestSeq).map (·.trackId)).Sublist s.retire.trackIds := by
  rw [report, List.map_map]
  refine List.Sublist.map (·.trackId) (List.monotone_filter_right s.kalmans ?_)
  intro k hk
  rw [KalmanTracker.isDetectedTrackObject, Bool.and_eq_true, decide_eq_true_eq] at hk
  have hyoung : k.timeSinceUpdate ≤ sortTrackerMaxAge := by
    rw [sortTrackerMaxAge]
    omega
  simp [KalmanTracker.isOverAge, hyoung]

/-- **What a call returns** is among the trackers that it leaves, in their order. -/
theorem trackIds_results {results : List InferObject}
    (h : (s.trackObjects m solve c.1 c.2).1 = some results) :
    (results.map (·.trackId)).Sublist (s.trackObjects m solve c.1 c.2).2.trackIds := by
  rw [SORTTracker.trackObjects] at h ⊢
  dsimp only at h ⊢
  split_ifs at h ⊢
  rw [← Option.some.inj h]
  exact trackIds_report _ _

/-- The calls of a guarded run, one after the other. -/
theorem idsInOrder_run {calls : List (List InferObject × ℤ)}
    (hok : Guarded (call m solve) (fun s c => s.NotCycled m solve c ∧ s.IdsFit c) s calls)
    (h : IdsInOrder s) (hrun : runFrom (call m solve) s calls = some s') :
    Later s s' ∧ IdsInOrder s' := by
  refine hok.invariant (I := fun s' => Later s s' ∧ IdsInOrder s') ?_ ⟨.refl s, h⟩ hrun
  rintro s₁ c s₂ ⟨hlater, hs₁⟩ ⟨hcycled, hfit⟩ hstep
  obtain rfl := Option.some.inj hstep
  obtain ⟨hlater', hs₂⟩ := hs₁.trackObjects hcycled hfit
  exact ⟨hlater.trans hlater', hs₂⟩

/-- What is gone does not come again. -/
theorem IdsInOrder.notMem_of_notMem (h : IdsInOrder s) {s₁ s₂ : SORTTracker K}
    (h₂ : IdsInOrder s₂) (hlater : Later s s₁) (hlater' : Later s₁ s₂) {id : ℤ}
    (hid : id ∈ s.trackIds) (hgone : id ∉ s₁.trackIds) : id ∉ s₂.trackIds := by
  intro hback
  have hone := h.one_le
  have hlt := h₂.count_lt
  have hle := hlater.count_le
  have hle' := hlater'.count_le
  -- it would have to be one that has been given since
  have hgiven := (List.mem_append.mp (hlater'.trackIds.subset hback)).resolve_left hgone
  have hfirst := h.sublist.subset hid
  have hnodup : (idsFrom 1 (s.createCount - 1 + (s₂.createCount - s.createCount))).Nodup :=
    nodup_idsFrom (by omega)
  have hsplit : 1 + (s.createCount - 1) = s.createCount := by omega
  have hsince : s₂.createCount - s.createCount =
      (s₁.createCount - s.createCount) + (s₂.createCount - s₁.createCount) := by omega
  have hfrom : s.createCount + (s₁.createCount - s.createCount) = s₁.createCount := by omega
  rw [idsFrom_add, hsplit] at hnodup
  refine List.disjoint_of_nodup_append hnodup hfirst ?_
  rw [hsince, idsFrom_add, hfrom]
  exact List.mem_append_right _ hgiven

/-- **The identifiers are unique and in order**, in every run of calls in which the counter is not
set back, as long as no call that starts the first trackers goes past the range of `int`: those of
the trackers are increasing and below the counter, those of every result are increasing, and what is
gone is neither there nor returned again. -/
theorem trackIds_unique (m : Motion K) (solve : List (List Double) → List ℤ)
    (calls : List (List InferObject × ℤ)) (s : SORTTracker K)
    (hcycled : Guarded (call m solve) (·.NotCycled m solve ·) new calls)
    (hok : Guarded (call m solve) IdsFit new calls)
    (hrun : runFrom (call m solve) new calls = some s) :
    s.trackIds.Pairwise (· < ·) ∧ (∀ id ∈ s.trackIds, id < s.createCount) ∧
      (∀ before c after s₁ results, calls = before ++ c :: after →
        runFrom (call m solve) new before = some s₁ →
        (s₁.trackObjects m solve c.1 c.2).1 = some results →
        (results.map (·.trackId)).Pairwise (· < ·) ∧
          ∀ r ∈ results, r.trackId ∈ (s₁.trackObjects m solve c.1 c.2).2.trackIds) ∧
      ∀ before between after s₁ s₂, calls = before ++ between ++ after →
        runFrom (call m solve) new before = some s₁ →
        runFrom (call m solve) s₁ between = some s₂ →
        ∀ id ∈ s₁.trackIds, id ∉ s₂.trackIds → id ∉ s.trackIds := by
  have hboth := hcycled.and hok
  have hs : IdsInOrder s := (idsInOrder_run hboth idsInOrder_new hrun).2
  refine ⟨hs.pairwise, hs.lt_createCount, ?_, ?_⟩
  · rintro before c after s₁ results rfl hbefore hresults
    obtain ⟨hfirst, hrest⟩ := hboth.append
    have hs₁ := (idsInOrder_run hfirst idsInOrder_new hbefore).2
    obtain ⟨hcycled₁, hfit₁⟩ := (hrest s₁ hbefore).1
    have hsub := trackIds_results hresults
    refine ⟨(hs₁.trackObjects hcycled₁ hfit₁).2.pairwise.sublist hsub, fun r hr => ?_⟩
    exact hsub.subset (List.mem_map_of_mem hr)
  · rintro before between after s₁ s₂ rfl hbefore hbetween id hid hgone
    obtain ⟨hfirst, hlast⟩ := hboth.append
    obtain ⟨hfirst, hmiddle⟩ := hfirst.append
    have hs₂run := runFrom_append.mpr ⟨s₁, hbefore, hbetween⟩
    have hs₁ := (idsInOrder_run hfirst idsInOrder_new hbefore).2
    obtain ⟨hlater₁, hs₂⟩ := idsInOrder_run (hmiddle s₁ hbefore) hs₁ hbetween
    obtain ⟨s₂', hs₂', hrest⟩ := runFrom_append.mp hrun
    obtain rfl := Option.some.inj (hs₂run.symm.trans hs₂')
    obtain ⟨hlater₂, -⟩ := idsInOrder_run (hlast s₂ hs₂run) hs₂ hrest
    exact hs₁.notMem_of_notMem hs hlater₁ hlater₂ hid hgone

/-- A person who is seen in two frames. -/
theorem trackIds_unique_twoFrames : ∃ s : SORTTracker InferBBox,
    runFrom (call restingMotion fun _ => [0]) new
        [([personAt (.zero _)], 1), ([personAt (.zero _)], 2)] = some s ∧
      s.trackIds = [1] ∧ s.trackIds.Pairwise (· < ·) := by
  refine ⟨_, rfl, by decide +kernel, (trackIds_unique restingMotion (fun _ => [0])
    [([personAt (.zero _)], 1), ([personAt (.zero _)], 2)] _ ?_ ?_ rfl).1⟩
  · refine ⟨by unfold NotCycled; decide +kernel, fun s hs => ?_⟩
    cases hs
    exact ⟨by unfold NotCycled; decide +kernel, fun _ _ => trivial⟩
  · refine ⟨fun _ => .inl (by decide), fun s hs => ?_⟩
    cases hs
    exact ⟨fun hnil => absurd hnil (List.cons_ne_nil _ _), fun _ _ => trivial⟩

/-! ### Past the range of `int` -/

/-- One who rests is expected where he was. -/
theorem x_predict_restingMotion (uuid : ℕ) (x : Single) :
    ((KalmanTracker.new restingMotion uuid (personAt x)).predict restingMotion).2.x = x := rfl

/-- A person partly beyond the left border, who is seen in two frames again and again, and then two
persons at once. -/
def beyondLeftBorder : ℕ → List (List InferObject × ℤ)
  | 0 => [([personAt (.zero _), personAt (ofInt _ 100)], 1)]
  | n + 1 => ([personAt (ofInt _ (-1))], 1) :: ([personAt (ofInt _ (-1))], 2) :: beyondLeftBorder n

theorem call_first (m : Motion K) (solve : List (List Double) → List ℤ) (count : ℕ)
    {objects : List InferObject} (hne : objects ≠ []) (requestSeq : ℤ) :
    call m solve ⟨[], count⟩ (objects, requestSeq) =
      some (objects.foldl (spawn m) ⟨[], count⟩) := by
  rw [call, SORTTracker.trackObjects, if_neg hne, if_pos rfl]

theorem spawn_eq {count : ℕ} (h : count < 2 ^ 31) (kalmans : List (KalmanTracker K))
    (object : InferObject) : spawn m ⟨kalmans, count⟩ object =
      ⟨kalmans ++ [.new m count object], count + 1⟩ := by
  rw [spawn]
  dsimp only
  rw [increment, Nat.mod_eq_of_lt (by omega)]

theorem notCycled_of_call (h : call m solve s c = some s') (hle : s.createCount ≤ s'.createCount) :
    s.NotCycled m solve c := by
  rw [← Option.some.inj h] at hle
  exact hle

/-- A tracker whose box is beyond the left border is erased. -/
theorem call_erased {count : ℕ} {objects : List InferObject} {k : KalmanTracker K}
    (hne : objects ≠ []) (hdet : objects.length ≤ 200) (hx : (k.predict m).2.x < .zero _)
    (requestSeq : ℤ) : call m solve ⟨[k], count⟩ (objects, requestSeq) = some ⟨[], count⟩ := by
  have hloop : predictLoop m [k] = [] := by rw [predictLoop, if_pos (.inl hx), predictLoop]
  rw [call, SORTTracker.trackObjects, if_neg hne, if_neg (List.cons_ne_nil _ _)]
  dsimp only
  rw [hloop, sortTrackingMaxNum, List.length_nil, if_neg (by omega), if_pos rfl]

/-- **What the run leads to**, from any value of the counter: two trackers on both sides of the end
of the range. -/
theorem runFrom_beyondLeftBorder (n count : ℕ) (h : count + n = 2 ^ 31 - 1) :
    Guarded (call restingMotion fun _ => []) (·.NotCycled restingMotion (fun _ => []) ·)
        ⟨[], count⟩ (beyondLeftBorder n) ∧
      ∃ s, runFrom (call restingMotion fun _ => []) ⟨[], count⟩ (beyondLeftBorder n) = some s ∧
        s.trackIds = [2147483647, -2147483648] := by
  induction n generalizing count with
  | zero =>
    have hne : [personAt (.zero _), personAt (ofInt _ 100)] ≠ [] := List.cons_ne_nil _ _
    have hcall := call_first restingMotion (fun _ => []) count hne 1
    obtain ⟨hids, hcount⟩ := trackIds_foldl_spawn (m := restingMotion)
      [personAt (.zero _), personAt (ofInt _ 100)] ⟨[], count⟩ (by dsimp only; omega)
    obtain rfl : count = 2147483647 := by omega
    rw [beyondLeftBorder]
    have hvalues : idsFrom 2147483647 2 = [2147483647, -2147483648] := by decide
    refine ⟨⟨notCycled_of_call hcall ?_, fun _ _ => trivial⟩, _,
      runFrom_cons.mpr ⟨_, hcall, rfl⟩, hids.trans hvalues⟩
    rw [hcount]
    decide
  | succ n ih =>
    have hne : [personAt (ofInt _ (-1))] ≠ [] := List.cons_ne_nil _ _
    have hleft : ((KalmanTracker.new restingMotion count (personAt (ofInt _ (-1)))).predict
        restingMotion).2.x < .zero _ := by
      rw [x_predict_restingMotion]
      decide +kernel
    have hfirst := call_first restingMotion (fun _ => []) count hne 1
    rw [List.foldl_cons, List.foldl_nil, spawn_eq (by omega), List.nil_append] at hfirst
    have hsecond : call restingMotion (fun _ => [])
        ⟨[.new restingMotion count (personAt (ofInt _ (-1)))], count + 1⟩
        ([personAt (ofInt _ (-1))], 2) = some ⟨[], count + 1⟩ :=
      call_erased hne (by decide) hleft 2
    obtain ⟨hguarded, s, hrun, hids⟩ := ih (count + 1) (by omega)
    rw [beyondLeftBorder]
    refine ⟨⟨notCycled_of_call hfirst (Nat.le_succ _), fun s₁ hs₁ => ?_⟩, s, ?_, hids⟩
    · obtain rfl := Option.some.inj (hfirst.symm.trans hs₁)
      refine ⟨notCycled_of_call hsecond (Nat.le_refl _), fun s₂ hs₂ => ?_⟩
      obtain rfl := Option.some.inj (hsecond.symm.trans hs₂)
      exact hguarded
    · rw [runFrom_cons]
      refine ⟨_, hfirst, ?_⟩
      rw [runFrom_cons]
      exact ⟨_, hsecond, hrun⟩

/-- **The identifiers are not in order** when the first trackers go past the range of `int`. -/
theorem not_trackIds_unique :
    ¬∀ (calls : List (List InferObject × ℤ)) (s : SORTTracker InferBBox),
      Guarded (call restingMotion fun _ => []) (·.NotCycled restingMotion (fun _ => []) ·) new
        calls → runFrom (call restingMotion fun _ => []) new calls = some s →
      s.trackIds.Pairwise (· < ·) := by
  intro h
  obtain ⟨hguarded, s, hrun, hids⟩ := runFrom_beyondLeftBorder (2 ^ 31 - 2) 1 (by decide)
  have hpairwise := h _ s hguarded hrun
  rw [hids] at hpairwise
  exact absurd hpairwise (by decide)

end Runs

end DetectBase
