import DetectBase.Tracker.Conservation
import DetectBase.Tracker.Projection
import Mathlib.Data.Int.Interval
import Mathlib.Data.List.Induction

/-!
# Which trackers are reported

At its end a call of `TrackObjects` reports the trackers that have been matched often enough in a
row. A tracker does not know what has happened to it: `predict` and `update` keep two counters, the
first of which starts again in `update`, and the second in the `predict` after one without an
update.

Here the filter carries, for every call in which it has predicted, whether it was corrected in it
(`DetectBase.Motion.recorded`), and the counters are read off that history
(`DetectBase.Recorded`). In every run of calls with increasing numbers, the trackers that are
reported are those whose history begins with three matches, or, in the first calls, the ones that
are matched or new (`DetectBase.results_eq`).
-/

namespace DetectBase

open SORTTracker

variable {K : Type}

/-! ### Histories -/

/-- The filter with its history: for every call in which it has predicted, the latest first, whether
it was corrected in it. -/
def Motion.recorded (m : Motion K) : Motion (K × List Bool) where
  init object := (m.init object, [])
  predict k := (((m.predict k.1).1, false :: k.2), (m.predict k.1).2)
  correct k object := (m.correct k.1 object, true :: k.2.tail)
  box k := m.box k.1
  cost := m.cost

theorem recorded_over (m : Motion K) : m.recorded.Over m Prod.fst :=
  ⟨fun _ => rfl, fun _ => rfl, fun _ => rfl, fun _ _ => rfl, fun _ => rfl, rfl⟩

/-- What has happened to a tracker. -/
def KalmanTracker.history (k : KalmanTracker (K × List Bool)) : List Bool := k.kf.2

/-- How many matches in a row a history begins with. -/
def streak (history : List Bool) : ℕ := (history.takeWhile id).length

/-- The history without its first entry, if that is no match. -/
def settled : List Bool → List Bool
  | false :: history => history
  | history => history

/-- **What the counters of a tracker say about its history.** -/
structure Recorded (k : KalmanTracker (K × List Bool)) : Prop where
  /-- The calls since the latest match. -/
  since : k.timeSinceUpdate = (k.history.takeWhile (!·)).length
  /-- The matches in a row, which a single call without a match does not end. -/
  streak : k.hitStreak = streak (settled k.history)

/-- **The rule**: what is reported in a call of a given number. -/
def isReported (requestSeq : ℤ) (history : List Bool) : Bool :=
  if 0 ≤ requestSeq ∧ requestSeq ≤ 3 then history.head? ≠ some false
  else history.take 3 = [true, true, true]

theorem streak_le (history : List Bool) : streak history ≤ history.length :=
  (List.takeWhile_sublist id).length_le

theorem three_le_streak_iff (history : List Bool) :
    3 ≤ streak history ↔ history.take 3 = [true, true, true] := by
  rcases history with - | ⟨_ | _, - | ⟨_ | _, - | ⟨_ | _, rest⟩⟩⟩ <;> simp [streak]

section Counters

variable {m : Motion K} {k : KalmanTracker (K × List Bool)} {object : InferObject}

theorem recorded_new (uuid : ℕ) (object : InferObject) :
    Recorded (KalmanTracker.new m.recorded uuid object) := ⟨rfl, rfl⟩

/-- **A prediction** begins a new entry. -/
theorem Recorded.predict (h : Recorded k) (hage : k.timeSinceUpdate ≤ sortTrackerMaxAge) :
    Recorded (k.predict m.recorded).1 := by
  have hhistory : (k.predict m.recorded).1.history = false :: k.history := rfl
  have hsince := h.since
  have hstreak := h.streak
  constructor
  · change increment k.timeSinceUpdate = _
    rw [sortTrackerMaxAge] at hage
    rw [hhistory, increment, Nat.mod_eq_of_lt (by omega), hsince]
    rfl
  · change (if 0 < k.timeSinceUpdate then 0 else k.hitStreak) = _
    rw [hhistory, hsince, hstreak]
    -- the streak is over if the entry before is no match
    rcases k.history with - | ⟨_ | _, history⟩
    · rfl
    · rfl
    · rfl

/-- **An update** makes the latest entry a match. -/
theorem Recorded.update {history : List Bool} (h : Recorded k)
    (hhistory : k.history = false :: history) (hclass : k.classId = object.classId)
    (hlong : history.length + 1 < 2 ^ 32) :
    Recorded (k.update m.recorded object) ∧
      (k.update m.recorded object).history = true :: history := by
  have hstreak := h.streak
  have hle := streak_le history
  rw [hhistory, settled] at hstreak
  have hnext : (k.update m.recorded object).history = true :: history := by
    rw [KalmanTracker.update, if_neg (not_not.mpr hclass)]
    change true :: k.history.tail = _
    rw [hhistory, List.tail_cons]
  refine ⟨⟨?_, ?_⟩, hnext⟩
  · rw [hnext, KalmanTracker.update, if_neg (not_not.mpr hclass)]
    rfl
  · rw [hnext, KalmanTracker.update, if_neg (not_not.mpr hclass)]
    change increment k.hitStreak = _
    rw [increment, hstreak, Nat.mod_eq_of_lt (by omega)]
    rfl

/-- **The counters decide as the rule does.** -/
theorem Recorded.isDetectedTrackObject_eq (h : Recorded k) {requestSeq : ℤ}
    (hint : -2 ^ 31 ≤ requestSeq ∧ requestSeq < 2 ^ 31) :
    k.isDetectedTrackObject sortTrackerMinHit requestSeq = isReported requestSeq k.history := by
  have hfew : requestSeq % 2 ^ 32 ≤ 3 ↔ 0 ≤ requestSeq ∧ requestSeq ≤ 3 := by omega
  have hmany := three_le_streak_iff (settled k.history)
  rw [KalmanTracker.isDetectedTrackObject, isReported, sortTrackerMinHit, h.since, h.streak,
    Bool.eq_iff_iff, Bool.and_eq_true, Bool.or_eq_true, decide_eq_true_eq, decide_eq_true_eq,
    decide_eq_true_eq, Nat.cast_ofNat, hfew, hmany]
  rcases k.history with - | ⟨_ | _, history⟩
  · by_cases hfirst : 0 ≤ requestSeq ∧ requestSeq ≤ 3 <;> simp [settled, hfirst]
  · by_cases hfirst : 0 ≤ requestSeq ∧ requestSeq ≤ 3 <;> simp [hfirst]
  · by_cases hfirst : 0 ≤ requestSeq ∧ requestSeq ≤ 3 <;> simp [settled, hfirst]

end Counters

/-! ### Calls -/

section Calls

variable {m : Motion K} {solve : List (List Double) → List ℤ} {objects : List InferObject}
  {c : InferClassID} {n : ℕ}

/-- What a call leaves of the predictions, and the new trackers. -/
theorem forall_associate {R : KalmanTracker K → Prop} {s : SORTTracker K}
    {predictions : List (KalmanTracker K × StateXYWH)} (hkept : ∀ p ∈ predictions, R p.1)
    (hupdated : ∀ p ∈ predictions, ∀ o ∈ objects, R (p.1.update m o))
    (hnew : ∀ id, ∀ o ∈ objects, R (.new m id o)) :
    ∀ k ∈ (associate m solve s predictions objects).kalmans, R k := by
  rw [associate]
  refine forall_spawnAll hnew fun k hk => ?_
  obtain ⟨i, hi⟩ := List.mem_iff_getElem?.mp hk
  rw [getElem?_updateAll nodup_matchedPairs, List.getElem?_map, Option.map_map] at hi
  obtain ⟨p, hp, rfl⟩ := Option.map_eq_some_iff.mp hi
  have hmem := List.mem_of_getElem? hp
  rw [Function.comp_apply]
  cases hmatch : matchedWith objects _ i with
  | none => exact hkept p hmem
  | some object =>
    obtain ⟨j, -, hj⟩ := Option.bind_eq_some_iff.mp hmatch
    exact hupdated p hmem object (List.mem_of_getElem? hj)

/-- **The invariant**: the counters of a tracker are those of its history, and it has predicted in
fewer calls than there have been. -/
structure Tracked (c : InferClassID) (n : ℕ) (k : KalmanTracker (K × List Bool)) : Prop where
  /-- The counters. -/
  recorded : Recorded k
  /-- Nothing is over age. -/
  young : k.timeSinceUpdate ≤ sortTrackerMaxAge
  /-- The class. -/
  classId : k.classId = c
  /-- The first call was the one that started the tracker. -/
  calls : k.history.length < n

variable {s : SORTTracker (K × List Bool)}

/-- What the predictions come from. -/
theorem exists_of_mem_predictLoop (h : ∀ k ∈ s.kalmans, Tracked c n k)
    {p : KalmanTracker (K × List Bool) × StateXYWH} (hp : p ∈ predictLoop m.recorded s.kalmans) :
    Recorded p.1 ∧ p.1.classId = c ∧ ∃ before, p.1.history = false :: before ∧
      before.length < n := by
  obtain ⟨k, hk, rfl⟩ := mem_predictLoop hp
  have htracked := h k hk
  exact ⟨htracked.recorded.predict htracked.young, htracked.classId, k.history, rfl,
    htracked.calls⟩

/-- What a call makes of the trackers, apart from their age. -/
theorem forall_associate_recorded (h : ∀ k ∈ s.kalmans, Tracked c n k) (hn : n < 2 ^ 32)
    (hobjects : ∀ o ∈ objects, o.classId = c) :
    ∀ k ∈ (associate m.recorded solve s (predictLoop m.recorded s.kalmans) objects).kalmans,
      Recorded k ∧ k.classId = c ∧ k.history.length < n + 1 := by
  refine forall_associate (fun p hp => ?_) (fun p hp o ho => ?_) fun id o ho => ?_
  · obtain ⟨hrecorded, hclass, before, hhistory, hcalls⟩ := exists_of_mem_predictLoop h hp
    rw [hhistory, List.length_cons]
    exact ⟨hrecorded, hclass, by omega⟩
  · obtain ⟨hrecorded, hclass, before, hhistory, hcalls⟩ := exists_of_mem_predictLoop h hp
    have hsame : p.1.classId = o.classId := hclass.trans (hobjects o ho).symm
    obtain ⟨hupdate, hnext⟩ := hrecorded.update (m := m) hhistory hsame (by omega)
    rw [hnext, List.length_cons]
    refine ⟨hupdate, ?_, by omega⟩
    rw [KalmanTracker.update, if_neg (not_not.mpr hsame)]
    exact hclass
  · exact ⟨recorded_new id o, hobjects o ho, Nat.succ_pos n⟩

/-- **One call** keeps the invariant. -/
theorem tracked_trackObjects (h : ∀ k ∈ s.kalmans, Tracked c n k) (hn : n < 2 ^ 32)
    (hobjects : ∀ o ∈ objects, o.classId = c) (requestSeq : ℤ) :
    ∀ k ∈ (s.trackObjects m.recorded solve objects requestSeq).2.kalmans,
      Tracked c (n + 1) k := by
  rw [SORTTracker.trackObjects]
  dsimp only
  split_ifs with hnone hfirst
  · intro k hk
    have htracked := h k hk
    exact ⟨htracked.recorded, htracked.young, htracked.classId, Nat.lt_succ_of_lt htracked.calls⟩
  · refine forall_foldl_spawn (fun id o ho => ?_) ?_
    · exact ⟨recorded_new id o, Nat.zero_le _, hobjects o ho, Nat.succ_pos n⟩
    · rw [hfirst]
      exact fun k hk => absurd hk List.not_mem_nil
  · have hpredictions : ∀ k ∈ (predictLoop m.recorded s.kalmans).map Prod.fst,
        Recorded k ∧ k.classId = c ∧ k.history.length < n + 1 := by
      intro k hk
      obtain ⟨p, hp, rfl⟩ := List.mem_map.mp hk
      obtain ⟨hrecorded, hclass, before, hhistory, hcalls⟩ := exists_of_mem_predictLoop h hp
      rw [hhistory, List.length_cons]
      exact ⟨hrecorded, hclass, by omega⟩
    intro k hk
    obtain ⟨hk, hage⟩ := forall_retire (s := ⟨_, s.createCount⟩) hpredictions k hk
    exact ⟨hk.1, hage, hk.2.1, hk.2.2⟩
  · exact fun k hk => absurd hk List.not_mem_nil
  · intro k hk
    obtain ⟨hk, hage⟩ := forall_retire (forall_associate_recorded h hn hobjects) k hk
    exact ⟨hk.1, hage, hk.2.1, hk.2.2⟩

/-- **A run of calls** keeps the invariant. -/
theorem tracked_trackCalls {calls : List (List InferObject × ℤ)} (hn : calls.length ≤ 2 ^ 32)
    (hclass : ∀ call ∈ calls, ∀ o ∈ call.1, o.classId = c) :
    ∀ k ∈ (trackCalls m.recorded solve calls).kalmans, Tracked c calls.length k := by
  induction calls using List.reverseRecOn with
  | nil => exact nofun
  | append_singleton calls call ih =>
    rw [List.length_append, List.length_singleton] at hn
    have hbefore := ih (by omega) fun call' hcall' =>
      hclass call' (List.mem_append_left _ hcall')
    rw [trackCalls, List.foldl_append, List.foldl_cons, List.foldl_nil, List.length_append,
      List.length_singleton]
    exact tracked_trackObjects hbefore (by omega)
      (hclass call (List.mem_append_right _ (List.mem_singleton_self _))) call.2

end Calls

/-! ### What is reported -/

section Report

variable {m : Motion K} {solve : List (List Double) → List ℤ} {objects : List InferObject}
  {c : InferClassID} {n : ℕ}

/-- `matched_pairs_`, in a call that gets to the assignment. -/
def callPairs (m : Motion K) (solve : List (List Double) → List ℤ) (s : SORTTracker K)
    (objects : List InferObject) : List (ℕ × ℕ) :=
  let predictions := predictLoop m s.kalmans
  let costs := costMatrix m (predictions.map Prod.snd) objects
  matchedPairs costs (solve costs) predictions.length

/-- **The histories at the result loop** of a call that matches `pairs`. -/
structure MatchesRecorded (m : Motion K) (s : SORTTracker (K × List Bool))
    (objects : List InferObject) (pairs : List (ℕ × ℕ)) (s' : SORTTracker (K × List Bool)) :
    Prop where
  /-- A tracker that has predicted goes on with whether the call has matched it. -/
  predicted : ∀ i p, (predictLoop m.recorded s.kalmans)[i]? = some p → ∃ before k,
    p.1.history = false :: before ∧ s'.kalmans[i]? = some k ∧
      k.history = (matchedWith objects pairs i).isSome :: before
  /-- The others are new. -/
  created : ∀ i k, (predictLoop m.recorded s.kalmans).length ≤ i → s'.kalmans[i]? = some k →
    k.history = []

theorem foldl_spawn_kalmans (objects : List InferObject) (s : SORTTracker K) : ∃ started,
    (objects.foldl (spawn m) s).kalmans = s.kalmans ++ started ∧
      ∀ k ∈ started, ∃ id, ∃ o ∈ objects, k = .new m id o := by
  induction objects generalizing s with
  | nil => exact ⟨[], (List.append_nil _).symm, nofun⟩
  | cons object objects ih =>
    obtain ⟨started, hkalmans, hstarted⟩ := ih (s.spawn m object)
    refine ⟨.new m s.createCount object :: started, ?_, ?_⟩
    · rw [List.foldl_cons, hkalmans, spawn, List.append_assoc]
      rfl
    · intro k hk
      rcases List.mem_cons.mp hk with rfl | hk
      · exact ⟨_, object, List.mem_cons_self, rfl⟩
      · obtain ⟨id, o, ho, rfl⟩ := hstarted k hk
        exact ⟨id, o, List.mem_cons_of_mem _ ho, rfl⟩

/-- The pairs do not depend on the histories. -/
theorem callPairs_recorded (s : SORTTracker (K × List Bool)) :
    callPairs m.recorded solve s objects = callPairs m solve (s.map Prod.fst) objects := by
  rw [callPairs, callPairs, length_predictLoop_map (recorded_over m),
    map_snd_predictLoop (recorded_over m)]
  rfl

/-- **What a call that gets to the result loop does to the histories.** -/
theorem matchesRecorded_associate {s : SORTTracker (K × List Bool)}
    (h : ∀ k ∈ s.kalmans, Tracked c n k) (hn : n < 2 ^ 32)
    (hobjects : ∀ o ∈ objects, o.classId = c) :
    MatchesRecorded m s objects (callPairs m solve (s.map Prod.fst) objects)
      (associate m.recorded solve s (predictLoop m.recorded s.kalmans) objects) := by
  rw [← callPairs_recorded]
  have hnodup : ((callPairs m.recorded solve s objects).map Prod.fst).Nodup := nodup_matchedPairs
  set pairs := callPairs m.recorded solve s objects with hpairs
  set predictions := predictLoop m.recorded s.kalmans with hpredictions
  have hassociate : ∃ started, (associate m.recorded solve s predictions objects).kalmans =
      updateAll m.recorded objects (predictions.map Prod.fst) pairs ++ started ∧
        ∀ k ∈ started, ∃ id, ∃ o ∈ objects, k = .new m.recorded id o := by
    rw [associate, spawnAll_eq_foldl]
    obtain ⟨started, hkalmans, hstarted⟩ := foldl_spawn_kalmans (m := m.recorded) _
      ⟨_, s.createCount⟩
    refine ⟨started, hkalmans, fun k hk => ?_⟩
    obtain ⟨id, o, ho, rfl⟩ := hstarted k hk
    obtain ⟨j, -, hj⟩ := List.mem_filterMap.mp ho
    exact ⟨id, o, List.mem_of_getElem? hj, rfl⟩
  obtain ⟨started, hkalmans, hstarted⟩ := hassociate
  have hlength : (updateAll m.recorded objects (predictions.map Prod.fst) pairs).length =
      predictions.length := by rw [length_updateAll, List.length_map]
  constructor
  · intro i p hi
    obtain ⟨hrecorded, hclass, before, hhistory, hcalls⟩ :=
      exists_of_mem_predictLoop h (List.mem_of_getElem? hi)
    have hlt : i < predictions.length := (List.getElem?_eq_some_iff.mp hi).1
    refine ⟨before, (matchedWith objects pairs i).elim p.1 (p.1.update m.recorded), hhistory,
      ?_, ?_⟩
    · rw [hkalmans, List.getElem?_append_left (by omega), getElem?_updateAll hnodup,
        List.getElem?_map, hi]
      rfl
    · rcases hmatch : matchedWith objects pairs i with - | object
      · exact hhistory
      · obtain ⟨j, -, hj⟩ := Option.bind_eq_some_iff.mp hmatch
        have hsame : p.1.classId = object.classId :=
          hclass.trans (hobjects object (List.mem_of_getElem? hj)).symm
        exact (hrecorded.update (m := m) hhistory hsame (by omega)).2
  · intro i k (hi : predictions.length ≤ i) hk
    rw [hkalmans, List.getElem?_append_right (by omega)] at hk
    obtain ⟨id, o, -, rfl⟩ := hstarted k (List.mem_of_getElem? hk)
    rfl

/-- The calls do the same without the histories. -/
theorem map_trackCalls (calls : List (List InferObject × ℤ)) :
    (trackCalls m.recorded solve calls).map Prod.fst = trackCalls m solve calls := by
  induction calls using List.reverseRecOn with
  | nil => rfl
  | append_singleton calls call ih =>
    have hcall := map_trackObjects (recorded_over m) (s := trackCalls m.recorded solve calls)
      solve call.1 call.2
    rw [trackCalls, trackCalls, List.foldl_append, List.foldl_append, List.foldl_cons,
      List.foldl_nil, List.foldl_cons, List.foldl_nil]
    rw [ih] at hcall
    exact congrArg Prod.snd hcall

/-- There are no more increasing numbers than an `int` has values. -/
theorem length_le_of_increasing {numbers : List ℤ} (h : numbers.Pairwise (· < ·))
    (hint : ∀ z ∈ numbers, -2 ^ 31 ≤ z ∧ z < 2 ^ 31) : numbers.length ≤ 2 ^ 32 := by
  have hnodup : numbers.Nodup := h.imp ne_of_lt
  rw [← List.toFinset_card_of_nodup hnodup]
  have hsub : numbers.toFinset ⊆ Finset.Ico (-2 ^ 31) (2 ^ 31) := by
    intro z hz
    exact Finset.mem_Ico.mpr (hint z (List.mem_toFinset.mp hz))
  refine (Finset.card_le_card hsub).trans ?_
  rw [Int.card_Ico]
  decide

theorem results_eq_report {s : SORTTracker K} {requestSeq : ℤ} {results : List InferObject}
    (h : (s.trackObjects m solve objects requestSeq).1 = some results) :
    results = (associate m solve s (predictLoop m s.kalmans) objects).report m requestSeq := by
  rw [SORTTracker.trackObjects] at h
  dsimp only at h
  split_ifs at h
  exact (Option.some.inj h).symm

/-- **What is reported**: in every run of calls with increasing numbers and detections of one class,
the trackers whose latest three calls of prediction have all matched them; but in a call whose
number is from 0 to 3, those that it has matched and the new ones. -/
theorem results_eq (m : Motion K) (solve : List (List Double) → List ℤ) (c : InferClassID)
    (calls : List (List InferObject × ℤ)) (objects : List InferObject) (requestSeq : ℤ)
    (results : List InferObject)
    (hclass : ∀ call ∈ calls ++ [(objects, requestSeq)], ∀ o ∈ call.1, o.classId = c)
    (hint : ∀ call ∈ calls ++ [(objects, requestSeq)], -2 ^ 31 ≤ call.2 ∧ call.2 < 2 ^ 31)
    (hseq : ((calls ++ [(objects, requestSeq)]).map Prod.snd).Pairwise (· < ·))
    (hresults : ((trackCalls m solve calls).trackObjects m solve objects requestSeq).1 =
      some results) :
    ∃ s' : SORTTracker (K × List Bool),
      s'.map Prod.fst = associate m solve (trackCalls m solve calls)
        (predictLoop m (trackCalls m solve calls).kalmans) objects ∧
      MatchesRecorded m (trackCalls m.recorded solve calls) objects
        (callPairs m solve (trackCalls m solve calls) objects) s' ∧
      results = (s'.kalmans.filter fun k => isReported requestSeq k.history).map
        fun k => (k.map Prod.fst).getPredictTrackObject m := by
  have hlength := length_le_of_increasing hseq fun z hz => by
    obtain ⟨call, hcall, rfl⟩ := List.mem_map.mp hz
    exact hint call hcall
  rw [List.length_map, List.length_append, List.length_singleton] at hlength
  have hlast : (objects, requestSeq) ∈ calls ++ [(objects, requestSeq)] :=
    List.mem_append_right _ (List.mem_singleton_self _)
  have htracked : ∀ k ∈ (trackCalls m.recorded solve calls).kalmans, Tracked c calls.length k :=
    tracked_trackCalls (by omega) fun call hcall => hclass call (List.mem_append_left _ hcall)
  have hmap : (trackCalls m.recorded solve calls).map Prod.fst = trackCalls m solve calls :=
    map_trackCalls calls
  set s := trackCalls m.recorded solve calls with hs
  set s' := associate m.recorded solve s (predictLoop m.recorded s.kalmans) objects with hs'
  have hrecorded : ∀ k ∈ s'.kalmans, Recorded k ∧ k.classId = c ∧
      k.history.length < calls.length + 1 := forall_associate_recorded htracked (by omega)
    (hclass (objects, requestSeq) hlast)
  have hcall := map_trackObjects (recorded_over m) (s := s) solve objects requestSeq
  rw [hmap] at hcall
  refine ⟨s', ?_, ?_, ?_⟩
  · rw [← hmap]
    exact map_associate (recorded_over m) solve
  · rw [← hmap]
    exact matchesRecorded_associate htracked (by omega) (hclass (objects, requestSeq) hlast)
  · have hreport : (s.trackObjects m.recorded solve objects requestSeq).1 = some results :=
      (congrArg Prod.fst hcall).trans hresults
    rw [results_eq_report hreport, report]
    refine congrArg (List.map _) (List.filter_congr fun k hk => ?_)
    exact (hrecorded k hk).1.isDetectedTrackObject_eq (hint (objects, requestSeq) hlast)

/-- A person who is seen in two frames. -/
theorem results_eq_twoFrames : ∃ results, ∃ s' : SORTTracker (InferBBox × List Bool),
    ((trackCalls restingMotion (fun _ => [0]) [([personAt (.zero _)], 1)]).trackObjects
      restingMotion (fun _ => [0]) [personAt (.zero _)] 2).1 = some results ∧
    s'.map Prod.fst = associate restingMotion (fun _ => [0])
      (trackCalls restingMotion (fun _ => [0]) [([personAt (.zero _)], 1)])
      (predictLoop restingMotion
        (trackCalls restingMotion (fun _ => [0]) [([personAt (.zero _)], 1)]).kalmans)
      [personAt (.zero _)] ∧
    results = (s'.kalmans.filter fun k => isReported 2 k.history).map
      fun k => (k.map Prod.fst).getPredictTrackObject restingMotion := by
  have hresults : ((trackCalls restingMotion (fun _ => [0])
      [([personAt (.zero _)], 1)]).trackObjects restingMotion (fun _ => [0])
        [personAt (.zero _)] 2).1 = some _ := rfl
  obtain ⟨s', hmap, -, hreport⟩ := results_eq restingMotion (fun _ => [0]) 0
    [([personAt (.zero _)], 1)] [personAt (.zero _)] 2 _ (by simp [personAt]) (by simp) (by simp)
    hresults
  exact ⟨_, s', hresults, hmap, hreport⟩

/-- **A negative number is none of the first**: the argument is an `unsigned int`. A person is
matched in the call -1, and not reported. -/
theorem not_results_eq :
    ¬∀ (calls : List (List InferObject × ℤ)) (objects : List InferObject) (requestSeq : ℤ)
      (results : List InferObject),
      (∀ call ∈ calls ++ [(objects, requestSeq)], ∀ o ∈ call.1, o.classId = 0) →
      (∀ call ∈ calls ++ [(objects, requestSeq)], -2 ^ 31 ≤ call.2 ∧ call.2 < 2 ^ 31) →
      ((calls ++ [(objects, requestSeq)]).map Prod.snd).Pairwise (· < ·) →
      ((trackCalls restingMotion (fun _ => [0]) calls).trackObjects restingMotion (fun _ => [0])
        objects requestSeq).1 = some results →
      results = ((associate restingMotion.recorded (fun _ => [0])
        (trackCalls restingMotion.recorded (fun _ => [0]) calls)
        (predictLoop restingMotion.recorded
          (trackCalls restingMotion.recorded (fun _ => [0]) calls).kalmans)
        objects).kalmans.filter fun k =>
          if requestSeq ≤ 3 then k.history.head? ≠ some false
          else k.history.take 3 = [true, true, true]).map
            fun k => (k.map Prod.fst).getPredictTrackObject restingMotion := by
  intro h
  have hresults : ((trackCalls restingMotion (fun _ => [0])
      [([personAt (.zero _)], -2)]).trackObjects restingMotion (fun _ => [0])
        [personAt (.zero _)] (-1)).1 = some _ := rfl
  have hwrong := h [([personAt (.zero _)], -2)] [personAt (.zero _)] (-1) _ (by simp [personAt])
    (by simp) (by simp) hresults
  exact absurd (congrArg List.length hwrong) (by decide +kernel)

end Report

end DetectBase
