import DetectBase.Tracker.Sort
import Mathlib.Data.Finset.Card

/-!
# Every detection has one tracker

A call of `TrackObjects` that gets to the assignment neither loses nor doubles a detection: it
corrects one tracker, or it starts one. The detections without a tracker come from two sources –
those that nothing was assigned to, which the source computes only when detections outnumber
trackers, and those whose pair was too expensive – and `DetectBase.perm_range` shows that with the
accepted pairs they make up the list of the detections, whichever of the two there are more of.

`DetectBase.trackObjects_conserves` is the result for a call from any reachable state. All it asks
of the solver is an assignment in the usual sense (`DetectBase.IsAssignment`).
-/

namespace DetectBase

open SORTTracker

variable {K : Type}

/-- **An assignment** of trackers to detections: every tracker has the index of a detection or -1,
no two have the same, and as many are assigned as can be. -/
structure IsAssignment (assignment : List ℤ) (trkNum detNum : ℕ) : Prop where
  length : assignment.length = trkNum
  range : ∀ i < trkNum, assigned assignment i = -1 ∨ ∃ j < detNum, assigned assignment i = (j : ℤ)
  injective : ∀ i < trkNum, ∀ i' < trkNum, assigned assignment i = assigned assignment i' →
    assigned assignment i ≠ -1 → i = i'
  complete : ((List.range trkNum).filter (assigned assignment · ≠ -1)).length = min trkNum detNum

/-- **What a call does to the trackers that have survived the prediction**, when `pairs` are the
trackers and detections that it brings together and `spawned` the detections that start a new
one. -/
structure Conserves (m : Motion K) (s : SORTTracker K)
    (predictions : List (KalmanTracker K × StateXYWH)) (objects : List InferObject)
    (pairs : List (ℕ × ℕ)) (spawned : List ℕ) (s' : SORTTracker K) : Prop where
  /-- Every detection is in one pair, or starts one tracker, and not both. -/
  detections : (pairs.map Prod.snd ++ spawned).Perm (List.range objects.length)
  /-- No tracker is updated by two detections. -/
  trackers : (pairs.map Prod.fst).Nodup
  /-- A pair is not too expensive, and its tracker is corrected by its detection. -/
  updated : ∀ i j, (i, j) ∈ pairs → ∃ k box object, predictions[i]? = some (k, box) ∧
    objects[j]? = some object ∧ ¬ iouThreshold < m.cost box object ∧
      k.classId = object.classId ∧ s'.kalmans[i]? = some (k.update m object)
  /-- The other trackers stay as they are. -/
  kept : ∀ (i : ℕ) (k : KalmanTracker K) (box : StateXYWH), predictions[i]? = some (k, box) →
    i ∉ pairs.map Prod.fst → s'.kalmans[i]? = some k
  /-- The detections in `spawned` start the trackers that follow. -/
  started : ∀ n j : ℕ, spawned[n]? = some j → ∃ object, objects[j]? = some object ∧
    s'.kalmans[predictions.length + n]? =
      some (.new m (s.createCount + n) object)
  /-- There are no more trackers. -/
  size : s'.kalmans.length = predictions.length + spawned.length

/-! ### The indices -/

section Indices

variable {costs : List (List Double)} {assignment : List ℤ} {trkNum detNum : ℕ}

theorem mem_matchedPairs (h : IsAssignment assignment trkNum detNum) {i j : ℕ} :
    (i, j) ∈ matchedPairs costs assignment trkNum ↔
      i < trkNum ∧ assigned assignment i = j ∧ isRejected costs assignment i = false := by
  simp only [matchedPairs, List.mem_filterMap, List.mem_range]
  constructor
  · rintro ⟨i', hi', heq⟩
    split_ifs at heq with hnone hrej
    cases heq
    obtain ⟨j, -, hj⟩ := (h.range i hi').resolve_left hnone
    exact ⟨hi', by rw [hj]; rfl, by simpa using hrej⟩
  · rintro ⟨hi, hj, hrej⟩
    refine ⟨i, hi, ?_⟩
    rw [if_neg (by rw [hj]; omega), hrej, hj]
    rfl

theorem mem_rejectedItems {x : ℤ} : x ∈ rejectedItems costs assignment trkNum ↔
    ∃ i < trkNum, assigned assignment i = x ∧ x ≠ -1 ∧ isRejected costs assignment i = true := by
  simp only [rejectedItems, List.mem_toFinset, List.mem_filterMap, List.mem_range]
  constructor
  · rintro ⟨i, hi, heq⟩
    split_ifs at heq with hnone hrej
    cases heq
    exact ⟨i, hi, rfl, hnone, hrej⟩
  · rintro ⟨i, hi, rfl, hnone, hrej⟩
    exact ⟨i, hi, by rw [if_neg hnone, if_pos hrej]⟩

theorem mem_unmatchedItems (h : IsAssignment assignment trkNum detNum) {x : ℤ} :
    x ∈ unmatchedItems costs assignment trkNum detNum ↔ ∃ j < detNum, x = (j : ℤ) ∧
      ((trkNum < detNum ∧ ∀ i < trkNum, assigned assignment i ≠ j) ∨
        ∃ i < trkNum, assigned assignment i = j ∧ isRejected costs assignment i = true) := by
  rw [unmatchedItems, Finset.mem_union, mem_rejectedItems]
  constructor
  · rintro (hfree | ⟨i, hi, rfl, hnone, hrej⟩)
    · split_ifs at hfree with hlt
      · simp only [Finset.mem_sdiff, Finset.mem_image, Finset.mem_range, List.mem_toFinset,
          List.mem_map, List.mem_range] at hfree
        obtain ⟨⟨j, hj, rfl⟩, hno⟩ := hfree
        exact ⟨j, hj, rfl, Or.inl ⟨hlt, fun i hi heq => hno ⟨i, hi, heq⟩⟩⟩
      · cases Finset.notMem_empty x hfree
    · obtain ⟨j, hj, heq⟩ := (h.range i hi).resolve_left hnone
      exact ⟨j, hj, heq, Or.inr ⟨i, hi, heq, hrej⟩⟩
  · rintro ⟨j, hj, rfl, ⟨hlt, hno⟩ | ⟨i, hi, heq, hrej⟩⟩
    · left
      rw [if_pos hlt]
      simp only [Finset.mem_sdiff, Finset.mem_image, Finset.mem_range, List.mem_toFinset,
        List.mem_map, List.mem_range]
      exact ⟨⟨j, hj, rfl⟩, fun ⟨i, hi, heq⟩ => hno i hi heq⟩
    · exact Or.inr ⟨i, hi, heq, by omega, hrej⟩

/-- When there are not more detections than trackers, every detection is assigned. -/
theorem exists_assigned (h : IsAssignment assignment trkNum detNum) (hle : detNum ≤ trkNum) {j : ℕ}
    (hj : j < detNum) : ∃ i < trkNum, assigned assignment i = j := by
  -- the indices of the assigned trackers go injectively into those of the detections
  set used := (Finset.range trkNum).filter (assigned assignment · ≠ -1) with hused
  have hcard : used.card = detNum := by
    have hlen := h.complete
    rw [min_eq_right hle] at hlen
    rw [← hlen]
    rfl
  have hinto : ∀ i ∈ used, (assigned assignment i).toNat ∈ Finset.range detNum := by
    intro i hi
    obtain ⟨hi, hne⟩ := Finset.mem_filter.mp hi
    obtain ⟨j, hj, heq⟩ := (h.range i (Finset.mem_range.mp hi)).resolve_left hne
    rw [heq]
    exact Finset.mem_range.mpr hj
  have hinj : ∀ i ∈ used, ∀ i' ∈ used,
      (assigned assignment i).toNat = (assigned assignment i').toNat → i = i' := by
    intro i hi i' hi' heq
    obtain ⟨hi, hne⟩ := Finset.mem_filter.mp hi
    obtain ⟨hi', hne'⟩ := Finset.mem_filter.mp hi'
    obtain ⟨j, -, hj⟩ := (h.range i (Finset.mem_range.mp hi)).resolve_left hne
    obtain ⟨j', -, hj'⟩ := (h.range i' (Finset.mem_range.mp hi')).resolve_left hne'
    refine h.injective i (Finset.mem_range.mp hi) i' (Finset.mem_range.mp hi') ?_ hne
    rw [hj, hj'] at heq ⊢
    exact congrArg _ heq
  obtain ⟨i, hi, heq⟩ := Finset.surj_on_of_inj_on_of_card_le
    (fun i _ => (assigned assignment i).toNat) hinto (fun i i' hi hi' => hinj i hi i' hi')
    (by simp [hcard]) j (Finset.mem_range.mpr hj)
  obtain ⟨hi, hne⟩ := Finset.mem_filter.mp hi
  obtain ⟨j', -, hj'⟩ := (h.range i (Finset.mem_range.mp hi)).resolve_left hne
  refine ⟨i, Finset.mem_range.mp hi, ?_⟩
  rw [hj'] at heq ⊢
  exact congrArg _ heq.symm

theorem nodup_matchedPairs : ((matchedPairs costs assignment trkNum).map Prod.fst).Nodup := by
  have hsub : ((matchedPairs costs assignment trkNum).map Prod.fst).Sublist
      (List.range trkNum) := by
    rw [matchedPairs, List.map_filterMap]
    have hfst : ∀ i j, Option.map Prod.fst
        (if assigned assignment i = -1 then none
        else if isRejected costs assignment i then none
        else some (i, (assigned assignment i).toNat)) = some j → i = j := by
      intro i j
      split_ifs <;> simp
    induction List.range trkNum with
    | nil => exact List.Sublist.refl _
    | cons i is ih =>
      rw [List.filterMap_cons]
      split
      · exact ih.cons i
      · next j hj => exact hfst i j hj ▸ ih.cons_cons i
  exact hsub.nodup List.nodup_range

theorem mem_unmatchedIndices (h : IsAssignment assignment trkNum detNum) {j : ℕ} :
    j ∈ unmatchedIndices costs assignment trkNum detNum ↔
      (j : ℤ) ∈ unmatchedItems costs assignment trkNum detNum := by
  simp only [unmatchedIndices, List.mem_map, Finset.mem_sort]
  constructor
  · rintro ⟨x, hx, rfl⟩
    obtain ⟨j, -, rfl, -⟩ := (mem_unmatchedItems h).mp hx
    exact hx
  · exact fun hj => ⟨j, hj, rfl⟩

theorem nodup_unmatchedIndices (h : IsAssignment assignment trkNum detNum) :
    (unmatchedIndices costs assignment trkNum detNum).Nodup := by
  refine (List.nodup_map_iff_inj_on (Finset.sort_nodup _ _)).mpr fun x hx y hy heq => ?_
  obtain ⟨j, -, rfl, -⟩ := (mem_unmatchedItems h).mp ((Finset.mem_sort _).mp hx)
  obtain ⟨j', -, rfl, -⟩ := (mem_unmatchedItems h).mp ((Finset.mem_sort _).mp hy)
  exact congrArg _ heq

/-- Two trackers with one detection are one tracker. -/
theorem IsAssignment.eq_of_assigned (h : IsAssignment assignment trkNum detNum) {i i' j : ℕ}
    (hi : i < trkNum) (hj : assigned assignment i = j) (hi' : i' < trkNum)
    (hj' : assigned assignment i' = j) : i = i' :=
  h.injective i hi i' hi' (hj.trans hj'.symm) (by rw [hj]; omega)

/-- No two pairs have one detection. -/
theorem nodup_matchedPairs_snd (h : IsAssignment assignment trkNum detNum) :
    ((matchedPairs costs assignment trkNum).map Prod.snd).Nodup := by
  refine (List.nodup_map_iff_inj_on (List.Nodup.of_map _ nodup_matchedPairs)).mpr ?_
  rintro ⟨i, j⟩ hi ⟨i', j'⟩ hi' (rfl : j = j')
  obtain ⟨hi, hj, -⟩ := (mem_matchedPairs h).mp hi
  obtain ⟨hi', hj', -⟩ := (mem_matchedPairs h).mp hi'
  rw [h.eq_of_assigned hi hj hi' hj']

/-- A detection in a pair does not start a tracker. -/
theorem disjoint_unmatchedIndices (h : IsAssignment assignment trkNum detNum) :
    List.Disjoint ((matchedPairs costs assignment trkNum).map Prod.snd)
      (unmatchedIndices costs assignment trkNum detNum) := by
  intro j hpair hfree
  obtain ⟨⟨i, j⟩, hi, rfl⟩ := List.mem_map.mp hpair
  obtain ⟨hi, hj, hacc⟩ := (mem_matchedPairs h).mp hi
  obtain ⟨j', -, heq, ⟨-, hno⟩ | ⟨i', hi', hj', hrej⟩⟩ :=
    (mem_unmatchedItems h).mp ((mem_unmatchedIndices h).mp hfree)
  · exact hno i hi (hj.trans heq)
  · obtain rfl := h.eq_of_assigned hi (hj.trans heq) hi' hj'
    rw [hacc] at hrej
    cases hrej

/-- **The pairs and the detections without a tracker make up the detections.** -/
theorem perm_range (h : IsAssignment assignment trkNum detNum) :
    ((matchedPairs costs assignment trkNum).map Prod.snd ++
      unmatchedIndices costs assignment trkNum detNum).Perm (List.range detNum) := by
  refine (List.perm_ext_iff_of_nodup ?_ List.nodup_range).mpr fun j => ?_
  · exact List.nodup_append'.mpr
      ⟨nodup_matchedPairs_snd h, nodup_unmatchedIndices h, disjoint_unmatchedIndices h⟩
  rw [List.mem_append, List.mem_map, mem_unmatchedIndices h, mem_unmatchedItems h, List.mem_range]
  constructor
  · rintro (⟨⟨i, j⟩, hi, rfl⟩ | ⟨j', hj', heq, -⟩)
    · obtain ⟨hi, hj, -⟩ := (mem_matchedPairs h).mp hi
      obtain ⟨j', hj', heq⟩ := (h.range i hi).resolve_left (by rw [hj]; omega)
      rw [hj] at heq
      exact Int.ofNat.inj heq ▸ hj'
    · exact Int.ofNat.inj heq ▸ hj'
  · intro hj
    by_cases hassigned : ∃ i < trkNum, assigned assignment i = j
    · obtain ⟨i, hi, heq⟩ := hassigned
      cases hrej : isRejected costs assignment i with
      | false => exact Or.inl ⟨(i, j), (mem_matchedPairs h).mpr ⟨hi, heq, hrej⟩, rfl⟩
      | true => exact Or.inr ⟨j, hj, rfl, Or.inr ⟨i, hi, heq, hrej⟩⟩
    · -- then there are more detections than trackers
      have hlt : trkNum < detNum := by
        by_contra hge
        exact hassigned (exists_assigned h (not_lt.mp hge) hj)
      exact Or.inr ⟨j, hj, rfl, Or.inl ⟨hlt, fun i hi heq => hassigned ⟨i, hi, heq⟩⟩⟩

end Indices

/-! ### The trackers -/

section Trackers

variable {m : Motion K} {objects : List InferObject}

theorem length_updateAll {ks : List (KalmanTracker K)} {pairs : List (ℕ × ℕ)} :
    (updateAll m objects ks pairs).length = ks.length := by
  induction pairs generalizing ks with
  | nil => rfl
  | cons p pairs ih =>
    rw [updateAll, List.foldl_cons]
    refine ih.trans ?_
    cases objects[p.2]? <;> simp

/-- The detection that a tracker is matched with. -/
def matchedWith (objects : List InferObject) (pairs : List (ℕ × ℕ)) (i : ℕ) :
    Option InferObject :=
  (pairs.lookup i).bind (objects[·]?)

theorem lookup_eq_none {pairs : List (ℕ × ℕ)} {i : ℕ} (h : i ∉ pairs.map Prod.fst) :
    pairs.lookup i = none := by
  rw [List.lookup_eq_none_iff]
  intro p hp
  rw [bne_iff_ne]
  rintro rfl
  exact h (List.mem_map_of_mem hp)

/-- **What the loop over the pairs leaves at a position**: a tracker is updated by the detection it
is matched with, and by no other. -/
theorem getElem?_updateAll {ks : List (KalmanTracker K)} {pairs : List (ℕ × ℕ)}
    (hnodup : (pairs.map Prod.fst).Nodup) (i : ℕ) : (updateAll m objects ks pairs)[i]? =
      (ks[i]?).map fun k => (matchedWith objects pairs i).elim k (k.update m) := by
  induction pairs generalizing ks with
  | nil => exact Option.map_id'.symm
  | cons p pairs ih =>
    rw [List.map_cons, List.nodup_cons] at hnodup
    rw [updateAll, List.foldl_cons]
    refine (ih hnodup.2).trans ?_
    rw [matchedWith, matchedWith, List.lookup_cons]
    rcases eq_or_ne i p.1 with rfl | hne
    · rw [lookup_eq_none hnodup.1, beq_self_eq_true]
      dsimp only [Option.bind_none, Option.bind_some, Option.elim]
      cases objects[p.2]? with
      | none => rfl
      | some object =>
        dsimp only
        rw [List.getElem?_modify_eq, Option.map_id']
        rfl
    · rw [beq_false_of_ne hne]
      dsimp only
      cases objects[p.2]? with
      | none => rfl
      | some object => rw [Option.elim, List.getElem?_modify_ne _ _ (Ne.symm hne)]

/-- A tracker that is in no pair stays as it is. -/
theorem updateAll_kept {ks : List (KalmanTracker K)} {pairs : List (ℕ × ℕ)} {i : ℕ}
    (hnodup : (pairs.map Prod.fst).Nodup) (h : i ∉ pairs.map Prod.fst) :
    (updateAll m objects ks pairs)[i]? = ks[i]? := by
  rw [getElem?_updateAll hnodup, matchedWith, lookup_eq_none h]
  exact Option.map_id'

theorem lookup_eq_some {pairs : List (ℕ × ℕ)} {i j : ℕ} (hnodup : (pairs.map Prod.fst).Nodup)
    (h : (i, j) ∈ pairs) : pairs.lookup i = some j := by
  obtain ⟨before, after, rfl⟩ := List.mem_iff_append.mp h
  refine List.lookup_eq_some_iff.mpr ⟨before, after, rfl, fun p hp => ?_⟩
  rw [List.map_append, List.map_cons] at hnodup
  rw [bne_iff_ne]
  rintro rfl
  exact List.disjoint_of_nodup_append hnodup (List.mem_map_of_mem hp) List.mem_cons_self

/-- A tracker that is in a pair is updated by the detection of the pair. -/
theorem updateAll_updated {ks : List (KalmanTracker K)} {pairs : List (ℕ × ℕ)} {i j : ℕ}
    {object : InferObject} (hnodup : (pairs.map Prod.fst).Nodup) (h : (i, j) ∈ pairs)
    (hobject : objects[j]? = some object) :
    (updateAll m objects ks pairs)[i]? = (ks[i]?).map (·.update m object) := by
  rw [getElem?_updateAll hnodup, matchedWith, lookup_eq_some hnodup h, Option.bind_some, hobject]
  rfl

theorem toInt32_of_mod {a b : ℕ} (h : a % 2 ^ 32 = b % 2 ^ 32) : toInt32 a = toInt32 b := by
  rw [toInt32, toInt32, ← Int.emod_bmod, ← Int.emod_bmod (b : ℤ)]
  congr 1
  exact_mod_cast h

/-- The counter of the trackers has 32 bits, and so has an identifier. -/
theorem new_mod {a b : ℕ} {object : InferObject} (h : a % 2 ^ 32 = b % 2 ^ 32) :
    KalmanTracker.new m a object = KalmanTracker.new m b object := by
  rw [KalmanTracker.new, KalmanTracker.new, toInt32_of_mod h]

/-- The trackers that detections start come after all others, with consecutive numbers. -/
theorem spawnAll_kalmans {s : SORTTracker K} {items : List ℕ}
    (hitems : ∀ j ∈ items, j < objects.length) :
    ∃ started, (spawnAll m objects s items).kalmans = s.kalmans ++ started ∧
      started.length = items.length ∧ ∀ n j : ℕ, items[n]? = some j →
        ∃ object, objects[j]? = some object ∧
          started[n]? = some (.new m (s.createCount + n) object) := by
  induction items generalizing s with
  | nil => exact ⟨[], (List.append_nil _).symm, rfl, by simp⟩
  | cons j items ih =>
    obtain ⟨object, hobject⟩ : ∃ object, objects[j]? = some object :=
      ⟨_, List.getElem?_eq_getElem (hitems j List.mem_cons_self)⟩
    obtain ⟨started, hks, hlen, hstarted⟩ :=
      ih (s := s.spawn m object) fun j' hj' => hitems j' (List.mem_cons_of_mem j hj')
    refine ⟨.new m s.createCount object :: started, ?_, by simp [hlen], fun n j' hn => ?_⟩
    · rw [spawnAll, List.foldl_cons, hobject]
      exact hks.trans (List.append_assoc _ _ _)
    · cases n with
      | zero =>
        obtain rfl : j = j' := by simpa using hn
        exact ⟨object, hobject, rfl⟩
      | succ n =>
        obtain ⟨object', hobject', hnew⟩ := hstarted n j' (by simpa using hn)
        refine ⟨object', hobject', ?_⟩
        rw [List.getElem?_cons_succ, hnew, Option.some_inj]
        refine new_mod ?_
        simp only [SORTTracker.spawn, increment]
        omega

theorem costAt_costMatrix {boxes : List StateXYWH} {i j : ℕ} {box : StateXYWH}
    {object : InferObject} (hbox : boxes[i]? = some box) (hobject : objects[j]? = some object) :
    costAt (costMatrix m boxes objects) i j = m.cost box object := by
  simp [costAt, costMatrix, hbox, hobject]

/-- From the predictions to the new trackers, no detection is lost or used twice. -/
theorem associate_conserves {solve : List (List Double) → List ℤ} {s : SORTTracker K}
    {predictions : List (KalmanTracker K × StateXYWH)} {c : InferClassID}
    (hpredictions : ∀ p ∈ predictions, p.1.classId = c) (hobjects : ∀ o ∈ objects, o.classId = c)
    (hsolve : IsAssignment (solve (costMatrix m (predictions.map Prod.snd) objects))
      predictions.length objects.length) :
    ∃ pairs spawned, Conserves m s predictions objects pairs spawned
      (associate m solve s predictions objects) := by
  set costs := costMatrix m (predictions.map Prod.snd) objects with hcosts
  set assignment := solve costs with hassignment
  set pairs := matchedPairs costs assignment predictions.length with hpairs
  set spawned := unmatchedIndices costs assignment predictions.length objects.length with hspawned
  have hperm : (pairs.map Prod.snd ++ spawned).Perm (List.range objects.length) :=
    perm_range hsolve
  have hlt : ∀ j ∈ pairs.map Prod.snd ++ spawned, j < objects.length :=
    fun j hj => List.mem_range.mp (hperm.mem_iff.mp hj)
  have hlength : (updateAll m objects (predictions.map Prod.fst) pairs).length =
      predictions.length := by rw [length_updateAll, List.length_map]
  obtain ⟨started, hkalmans, hstarted, hnew⟩ := spawnAll_kalmans (m := m)
    (s := ⟨updateAll m objects (predictions.map Prod.fst) pairs, s.createCount⟩)
    fun j hj => hlt j (List.mem_append_right _ hj)
  have hassoc : (associate m solve s predictions objects).kalmans =
      updateAll m objects (predictions.map Prod.fst) pairs ++ started := hkalmans
  -- the trackers that were there before come first
  have hold : ∀ {i : ℕ} {k : KalmanTracker K} {box : StateXYWH}, predictions[i]? = some (k, box) →
      (associate m solve s predictions objects).kalmans[i]? =
        (updateAll m objects (predictions.map Prod.fst) pairs)[i]? := by
    intro i k box hi
    rw [hassoc]
    refine List.getElem?_append_left ?_
    rw [hlength]
    exact (List.getElem?_eq_some_iff.mp hi).1
  refine ⟨pairs, spawned, hperm, nodup_matchedPairs, fun i j hij => ?_, fun i k box hi hno => ?_,
    fun n j hn => ?_, ?_⟩
  · obtain ⟨hi, hj, hacc⟩ := (mem_matchedPairs hsolve).mp hij
    obtain ⟨⟨k, box⟩, hk⟩ : ∃ p, predictions[i]? = some p := ⟨_, List.getElem?_eq_getElem hi⟩
    have hj' : j < objects.length :=
      hlt j (List.mem_append_left _ (List.mem_map.mpr ⟨_, hij, rfl⟩))
    obtain ⟨object, hobject⟩ : ∃ o, objects[j]? = some o := ⟨_, List.getElem?_eq_getElem hj'⟩
    refine ⟨k, box, object, hk, hobject, fun hcost => ?_, ?_, ?_⟩
    · have hbox : (predictions.map Prod.snd)[i]? = some box := by simp [hk]
      rw [isRejected, hj, Int.toNat_natCast, hcosts, costAt_costMatrix hbox hobject] at hacc
      simp [hcost] at hacc
    · rw [hpredictions (k, box) (List.mem_of_getElem? hk),
        hobjects object (List.mem_of_getElem? hobject)]
    · rw [hold hk, updateAll_updated nodup_matchedPairs hij hobject]
      simp [hk]
  · rw [hold hi, updateAll_kept nodup_matchedPairs hno]
    simp [hi]
  · obtain ⟨object, hobject, hnew⟩ := hnew n j hn
    refine ⟨object, hobject, ?_⟩
    rw [hassoc, List.getElem?_append_right (by omega), hlength, Nat.add_sub_cancel_left, hnew]
  · rw [hassoc, List.length_append, hlength, hstarted]

end Trackers

/-! ### Calls -/

section Calls

variable (m : Motion K) (solve : List (List Double) → List ℤ)

/-- The tracker after some calls, each with its detections and its number. -/
def trackCalls (calls : List (List InferObject × ℤ)) : SORTTracker K :=
  calls.foldl (fun s call => (s.trackObjects m solve call.1 call.2).2) new

/-- All trackers are of one class. -/
def SORTTracker.OfClass (c : InferClassID) (s : SORTTracker K) : Prop :=
  ∀ k ∈ s.kalmans, k.classId = c

variable {m solve} {c : InferClassID} {s : SORTTracker K} {objects : List InferObject}

theorem SORTTracker.OfClass.predictions (h : s.OfClass c) :
    ∀ p ∈ predictLoop m s.kalmans, p.1.classId = c := by
  intro p hp
  obtain ⟨k, hk, rfl⟩ := mem_predictLoop hp
  exact h k hk

theorem SORTTracker.OfClass.trackObjects (h : s.OfClass c)
    (hobjects : ∀ o ∈ objects, o.classId = c) (requestSeq : ℤ) :
    (s.trackObjects m solve objects requestSeq).2.OfClass c := by
  by_cases hnone : objects = []
  · rw [SORTTracker.trackObjects, if_pos hnone]
    exact h
  · have hupdate : ∀ (k : KalmanTracker K) (o : InferObject), k.classId = c →
        (k.update m o).classId = c := by
      intro k o hk
      rw [KalmanTracker.update]
      split_ifs <;> exact hk
    exact fun k hk => (forall_trackObjects hnone h (fun _ hk => hk) hupdate
      (fun _ o ho => hobjects o ho) k hk).1

theorem ofClass_trackCalls {calls : List (List InferObject × ℤ)}
    (h : ∀ call ∈ calls, ∀ o ∈ call.1, o.classId = c) : (trackCalls m solve calls).OfClass c := by
  have hrun : ∀ s : SORTTracker K, s.OfClass c →
      (calls.foldl (fun s call => (s.trackObjects m solve call.1 call.2).2) s).OfClass c := by
    induction calls with
    | nil => exact fun _ hs => hs
    | cons call calls ih =>
      intro s hs
      exact ih (fun call' hcall' => h call' (List.mem_cons_of_mem call hcall')) _
        (hs.trackObjects (h call List.mem_cons_self) call.2)
  exact hrun new nofun

/-- A call that gets past the early returns. -/
theorem trackObjects_eq {requestSeq : ℤ} (hne : objects ≠ []) (hdet : objects.length ≤ 200)
    (htrk : 1 ≤ (predictLoop m s.kalmans).length) (htrk' : (predictLoop m s.kalmans).length ≤ 200) :
    s.trackObjects m solve objects requestSeq =
      (some ((associate m solve s (predictLoop m s.kalmans) objects).report m requestSeq),
        (associate m solve s (predictLoop m s.kalmans) objects).retire.cycle) := by
  have hsome : predictLoop m s.kalmans ≠ [] := List.length_pos_iff.mp htrk
  have hkalmans : s.kalmans ≠ [] := by
    rintro hnil
    exact hsome (by rw [hnil, predictLoop])
  have hlimit : ¬ (sortTrackingMaxNum < (predictLoop m s.kalmans).length ∨
      sortTrackingMaxNum < objects.length) := by
    rw [sortTrackingMaxNum]
    omega
  rw [SORTTracker.trackObjects, if_neg hne, if_neg hkalmans]
  dsimp only
  rw [if_neg hlimit, if_neg hsome]

/-- **Every detection corrects one tracker or starts one**, in every call from a reachable state
that gets past the early returns. -/
theorem trackObjects_conserves (m : Motion K) (solve : List (List Double) → List ℤ)
    (c : InferClassID) (calls : List (List InferObject × ℤ)) (objects : List InferObject)
    (requestSeq : ℤ) (hcalls : ∀ call ∈ calls, ∀ o ∈ call.1, o.classId = c)
    (hobjects : ∀ o ∈ objects, o.classId = c) (hne : objects ≠ [])
    (hdet : objects.length ≤ 200)
    (htrk : 1 ≤ (predictLoop m (trackCalls m solve calls).kalmans).length)
    (htrk' : (predictLoop m (trackCalls m solve calls).kalmans).length ≤ 200)
    (hsolve : IsAssignment
      (solve (costMatrix m ((predictLoop m (trackCalls m solve calls).kalmans).map Prod.snd)
        objects))
      (predictLoop m (trackCalls m solve calls).kalmans).length objects.length) :
    ∃ pairs spawned s',
      (trackCalls m solve calls).trackObjects m solve objects requestSeq =
        (some (s'.report m requestSeq), s'.retire.cycle) ∧
      Conserves m (trackCalls m solve calls) (predictLoop m (trackCalls m solve calls).kalmans)
        objects pairs spawned s' := by
  have hclass : (trackCalls m solve calls).OfClass c := ofClass_trackCalls hcalls
  generalize trackCalls m solve calls = s at *
  obtain ⟨pairs, spawned, h⟩ := associate_conserves (s := s) hclass.predictions hobjects hsolve
  exact ⟨pairs, spawned, _, trackObjects_eq hne hdet htrk htrk', h⟩

/-- A person who was there before and one who was not: the solver assigns the tracker of the first
to the first. -/
theorem trackObjects_conserves_twoPersons :
    ∃ pairs spawned s',
      (trackCalls restingMotion (fun _ => [0]) [([personAt (.zero _)], 1)]).trackObjects
          restingMotion (fun _ => [0]) [personAt (.zero _), personAt (ofInt _ 100)] 2 =
        (some (s'.report restingMotion 2), s'.retire.cycle) ∧
      Conserves restingMotion (trackCalls restingMotion (fun _ => [0]) [([personAt (.zero _)], 1)])
        (predictLoop restingMotion
          (trackCalls restingMotion (fun _ => [0]) [([personAt (.zero _)], 1)]).kalmans)
        [personAt (.zero _), personAt (ofInt _ 100)] pairs spawned s' := by
  refine trackObjects_conserves restingMotion (fun _ => [0]) 0 [([personAt (.zero _)], 1)]
    [personAt (.zero _), personAt (ofInt _ 100)] 2 ?_ ?_ (by simp) (by simp) ?_ ?_ ?_
  · intro call hcall o ho
    obtain rfl := List.mem_singleton.mp hcall
    obtain rfl := List.mem_singleton.mp ho
    rfl
  · simp [personAt]
  · exact Nat.le_refl 1
  · exact Nat.le_of_ble_eq_true rfl
  · refine ⟨rfl, fun i hi => ?_, fun i hi i' hi' _ _ => ?_, rfl⟩
    · obtain rfl : i = 0 := Nat.lt_one_iff.mp hi
      exact Or.inr ⟨0, by decide, rfl⟩
    · exact (Nat.lt_one_iff.mp hi).trans (Nat.lt_one_iff.mp hi').symm

end Calls

end DetectBase
