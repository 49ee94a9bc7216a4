import DetectBase.Abnormal.Checker

/-!
# What a schedule knows of a track

The checks of lines and of areas keep something about each track, in a map that is cleaned of the
tracks that have not been present for ten seconds. Seen from one track, the map disappears. What is
kept is a function of the calls alone (`DetectBase.Abnormal.memory`): it is made anew from each
observation of the track, and starts afresh when a call comes ten seconds or more after the last
one in which the track was present.

`DetectBase.Abnormal.remembers_loop` is the step, for any check with that loop: the entry of a track
stands for its memory before the call, and does so after it; and a result for the track is made
from the memory that includes the call. `DetectBase.Abnormal.remembers_after` takes the steps
together.
-/

namespace DetectBase.Abnormal

section Memory

variable {α : Type} (sch : Schedule) (seen : Call → Bool) (t : InferTrackID)

/-- When the track was last present in a call that is seen. -/
def lastPresence : List Call → Option ℤ
  | [] => none
  | c :: past =>
    if seen c = true ∧ ∃ object ∈ c.inLayer, object.trackId = t then some c.moment.steady
    else lastPresence past

/-- The call comes ten seconds or more after the last one in which the track was present. -/
def Expires (c : Call) (past : List Call) : Prop :=
  ∃ last ∈ lastPresence seen t past, 10 * 10 ^ 9 ≤ c.moment.steady - last

instance (c : Call) (past : List Call) : Decidable (Expires seen t c past) := by
  unfold Expires
  infer_instance

/-- The observation of the track in a call: the object, unless it is excluded. -/
def observation (c : Call) : Option InferObject :=
  c.inLayer.find? fun object => object.trackId = t ∧ sch.isWithinExcludeROI object = false

/-- **The memory of a track**: what `observe` makes of the observations since it last expired. -/
def memory (fresh : α) (observe : Call → InferObject → α → α) : List Call → α
  | [] => fresh
  | c :: past =>
    if seen c = true then
      let kept := if Expires seen t c past then fresh else memory fresh observe past
      match observation sch t c with
      | none => kept
      | some object => observe c object kept
    else memory fresh observe past

/-- What is left of the memory when a call starts. -/
def kept (fresh : α) (observe : Call → InferObject → α → α) (c : Call) (past : List Call) : α :=
  if Expires seen t c past then fresh else memory sch seen t fresh observe past

/-- **The entry of a track stands for its memory**: it carries the time at which the track was last
present, and a value of which the memory is a view. Without an entry there is nothing to
remember. -/
def Remembers {T : Type} (fresh : α) (observe : Call → InferObject → α → α) (view : T → α)
    (past : List Call) : Option (T × ℤ) → Prop
  | none => memory sch seen t fresh observe past = fresh
  | some (value, time) =>
    lastPresence seen t past = some time ∧ memory sch seen t fresh observe past = view value

end Memory

section Step

variable {T α : Type} {threshold : ℤ} {sch : Schedule} {seen : Call → Bool} {t : InferTrackID}
  {fresh : α} {observe : Call → InferObject → α → α} {view : T → α} {c : Call} {past : List Call}

theorem memory_cons (hseen : seen c = true) :
    memory sch seen t fresh observe (c :: past) =
      match observation sch t c with
      | none => kept sch seen t fresh observe c past
      | some object => observe c object (kept sch seen t fresh observe c past) := by
  rw [memory, if_pos hseen]
  rfl

/-- A call that is not seen changes nothing. -/
theorem remembers_of_not_seen {entry : Option (T × ℤ)} (hseen : seen c ≠ true)
    (hpast : Remembers sch seen t fresh observe view past entry) :
    Remembers sch seen t fresh observe view (c :: past) entry := by
  have hmemory : memory sch seen t fresh observe (c :: past) =
      memory sch seen t fresh observe past := by
    rw [memory, if_neg hseen]
  have hlast : lastPresence seen t (c :: past) = lastPresence seen t past := by
    rw [lastPresence, if_neg fun h => hseen h.1]
  cases entry with
  | none => exact hmemory.trans hpast
  | some entry => exact ⟨hlast.trans hpast.1, hmemory.trans hpast.2⟩

theorem lastPresence_of_present {object : InferObject} (hseen : seen c = true)
    (hmem : object ∈ c.inLayer) :
    lastPresence seen object.trackId (c :: past) = some c.moment.steady := by
  rw [lastPresence, if_pos ⟨hseen, object, hmem, rfl⟩]

theorem lastPresence_of_absent (habsent : ∀ object ∈ c.inLayer, object.trackId ≠ t) :
    lastPresence seen t (c :: past) = lastPresence seen t past := by
  rw [lastPresence, if_neg]
  rintro ⟨-, object, hmem, ht⟩
  exact habsent object hmem ht

theorem observation_of_absent (habsent : ∀ object ∈ c.inLayer, object.trackId ≠ t) :
    observation sch t c = none := by
  rw [observation, List.find?_eq_none]
  intro object hmem
  simp [habsent object hmem]

/-- The observation of a track that is present once. -/
theorem observation_of_mem {object : InferObject} (hmem : object ∈ c.inLayer)
    (hnodup : (c.inLayer.map InferObject.trackId).Nodup) :
    observation sch object.trackId c =
      if sch.isWithinExcludeROI object = true then none else some object := by
  have hunique : ∀ o ∈ c.inLayer, o.trackId = object.trackId → o = object :=
    fun o ho heq => List.inj_on_of_nodup_map hnodup ho hmem heq
  split_ifs with hexcl
  · rw [observation, List.find?_eq_none]
    intro o ho
    rw [decide_eq_true_eq]
    rintro ⟨heq, hvisible⟩
    rw [hunique o ho heq, hexcl] at hvisible
    cases hvisible
  · cases hfind : observation sch object.trackId c with
    | none =>
      rw [observation, List.find?_eq_none] at hfind
      have hnot := hfind object hmem
      simp [hexcl] at hnot
    | some o =>
      have hprop := List.find?_some hfind
      rw [decide_eq_true_eq] at hprop
      rw [hunique o (List.mem_of_find?_eq_some hfind) hprop.1]

/-- **What a release leaves** stands for what is kept of the memory. -/
theorem released_cases {h : HistoryChecker threshold T} (hthreshold : threshold = 10 * 1000)
    (hseen : seen c = true)
    (hpast : Remembers sch seen t fresh observe view past (h.historyMap t)) :
    ((h.releaseInactiveHistory c.moment.steady c.inLayer).historyMap t = none ∧
        kept sch seen t fresh observe c past = fresh) ∨
      ∃ value time,
        (h.releaseInactiveHistory c.moment.steady c.inLayer).historyMap t = some (value, time) ∧
        kept sch seen t fresh observe c past = view value ∧
        lastPresence seen t (c :: past) = some time := by
  rw [HistoryChecker.releaseInactiveHistory]
  dsimp only
  cases hentry : h.historyMap t with
  | none =>
    rw [hentry] at hpast
    refine .inl ⟨rfl, ?_⟩
    rw [kept, show memory sch seen t fresh observe past = fresh from hpast, ite_self]
  | some entry =>
    obtain ⟨value, time⟩ := entry
    rw [hentry] at hpast
    obtain ⟨hlast, hmemory⟩ := hpast
    have hage : elapsedMillisecs c.moment.steady time ≥ threshold ↔ Expires seen t c past := by
      rw [hthreshold, ge_iff_le, le_elapsedMillisecs_iff (by decide)]
      simp only [Expires, hlast, Option.mem_def, Option.some.injEq, exists_eq_left']
      norm_num
    rw [Option.bind_some, HistoryChecker.releaseEntry, kept]
    by_cases hexp : Expires seen t c past
    · exact .inl ⟨if_pos (hage.mpr hexp), if_pos hexp⟩
    · right
      rw [if_neg hexp, if_neg fun hge => hexp (hage.mp hge)]
      by_cases hpresent : HistoryChecker.isPresent c.inLayer t = true
      · rw [if_pos hpresent]
        obtain ⟨object, hmem, rfl⟩ := HistoryChecker.isPresent_iff.mp hpresent
        exact ⟨value, _, rfl, hmemory, lastPresence_of_present hseen hmem⟩
      · rw [if_neg hpresent]
        refine ⟨value, time, rfl, hmemory, ?_⟩
        rw [lastPresence_of_absent, hlast]
        exact fun object hmem ht => hpresent (HistoryChecker.isPresent_iff.mpr ⟨object, hmem, ht⟩)

/-- When the track is not observed, what a release leaves is all there is. -/
theorem remembers_released {h : HistoryChecker threshold T} (hthreshold : threshold = 10 * 1000)
    (hseen : seen c = true)
    (hpast : Remembers sch seen t fresh observe view past (h.historyMap t))
    (hnone : observation sch t c = none) :
    Remembers sch seen t fresh observe view (c :: past)
      ((h.releaseInactiveHistory c.moment.steady c.inLayer).historyMap t) := by
  have hmemory : memory sch seen t fresh observe (c :: past) =
      kept sch seen t fresh observe c past := by
    rw [memory_cons hseen, hnone]
  obtain ⟨hentry, hkept⟩ | ⟨value, time, hentry, hkept, hlast⟩ :=
    released_cases hthreshold hseen hpast
  · rw [hentry]
    exact hmemory.trans hkept
  · rw [hentry]
    exact ⟨hlast, hmemory.trans hkept⟩

/-- The entry that an observation is written to stands for what is kept of the memory, and carries
the time of the call. -/
theorem getHistory_released {h : HistoryChecker threshold T} {object : InferObject} {blank : T}
    (hthreshold : threshold = 10 * 1000) (hseen : seen c = true) (hblank : view blank = fresh)
    (hpast : Remembers sch seen object.trackId fresh observe view past
      (h.historyMap object.trackId)) (hmem : object ∈ c.inLayer) :
    ∃ value, (h.releaseInactiveHistory c.moment.steady c.inLayer).getHistory blank c.moment.steady
        object.trackId = (value, c.moment.steady) ∧
      view value = kept sch seen object.trackId fresh observe c past := by
  rw [HistoryChecker.getHistory]
  obtain ⟨hentry, hkept⟩ | ⟨value, time, hentry, hkept, hlast⟩ :=
    released_cases hthreshold hseen hpast
  · rw [hentry]
    exact ⟨blank, rfl, hblank.trans hkept.symm⟩
  · rw [lastPresence_of_present hseen hmem, Option.some.injEq] at hlast
    rw [hentry, ← hlast, HistoryChecker.entryFor_refreshed (by omega)]
    exact ⟨value, rfl, hkept.symm⟩

section Loop

variable {isTarget : InferObject → Bool} {blank : T} {update : InferObject → T → T}
  {report : DataLayer → InferObject → T → DataLayer} {h : HistoryChecker threshold T}

/-- **A call brings the memory forward.** The entry of the track stands for the memory again, and
the results for the track are what is reported from a value that does. -/
theorem remembers_loop (hthreshold : threshold = 10 * 1000) (hseen : seen c = true)
    (hblank : view blank = fresh)
    (hupdate : ∀ object value, view (update object value) = observe c object (view value))
    (hid : ∀ results object value, ∀ r ∈ report results object value,
      r.trackId = object.trackId)
    (hown : ∀ results object value, report results object value =
      report (results.filter fun r => r.trackId = object.trackId) object value)
    (htarget : ∀ object ∈ c.inLayer, isTarget object = true)
    (hnodup : (c.inLayer.map InferObject.trackId).Nodup)
    (hpast : Remembers sch seen t fresh observe view past (h.historyMap t)) :
    ∃ results entry,
      ofTrack t (c.inLayer.foldl (visit sch isTarget c.moment.steady blank update report)
        ([], h.releaseInactiveHistory c.moment.steady c.inLayer)) = (results, entry) ∧
      Remembers sch seen t fresh observe view (c :: past) entry ∧
      match observation sch t c with
      | none => results = []
      | some object => ∃ value, view value = memory sch seen t fresh observe (c :: past) ∧
          results = report [] object value := by
  by_cases hpresent : ∃ object ∈ c.inLayer, object.trackId = t
  · obtain ⟨object, hmem, rfl⟩ := hpresent
    have hobs : observation sch object.trackId c =
        if sch.isWithinExcludeROI object = true then none else some object :=
      observation_of_mem hmem hnodup
    by_cases hexcl : sch.isWithinExcludeROI object = true
    · -- the track is present, but there is no observation of it
      rw [if_pos hexcl] at hobs
      rw [hobs, ofTrack_foldl_visit hid hown hmem hnodup, visit_of_excluded hexcl]
      exact ⟨_, _, rfl, remembers_released hthreshold hseen hpast hobs, rfl⟩
    · rw [if_neg hexcl] at hobs
      obtain ⟨value, hget, hvalue⟩ :=
        getHistory_released hthreshold hseen hblank hpast hmem
      have hmemory : view (update object value) =
          memory sch seen object.trackId fresh observe (c :: past) := by
        rw [memory_cons hseen, hobs, hupdate, hvalue]
      rw [hobs, ofTrack_foldl_visit hid hown hmem hnodup,
        visit_of_visible (htarget object hmem) (by simpa using hexcl), hget]
      refine ⟨_, _, rfl, ?_, update object value, hmemory, ?_⟩
      · rw [HistoryChecker.historyMap_assign_self]
        exact ⟨lastPresence_of_present hseen hmem, hmemory.symm⟩
      · dsimp only
        rw [List.nil_append, List.filter_eq_self]
        intro r hr
        rw [decide_eq_true_eq]
        exact hid _ _ _ r hr
  · have habsent : ∀ object ∈ c.inLayer, object.trackId ≠ t :=
      fun object hmem ht => hpresent ⟨object, hmem, ht⟩
    have hobs : observation sch t c = none := observation_of_absent habsent
    rw [hobs, (keyed_visit hid hown).view_foldl_of_forall_ne habsent]
    exact ⟨_, _, rfl, remembers_released hthreshold hseen hpast hobs, rfl⟩

end Loop

end Step

/-- **The entries stand for what the calls have shown**, throughout a run, when a call at which the
schedule is active brings the memory forward. -/
theorem remembers_after {T α : Type} {sch : Schedule} {t : InferTrackID} {fresh : α}
    {observe : Call → InferObject → α → α} {view : T → α} {constructed : ℤ}
    (entryOf : ScheduleState sch → Option (T × ℤ)) (hinit : entryOf (.init sch constructed) = none)
    (hactive : ∀ c past s, sch.isActive c.moment = true →
      (∀ object ∈ c.inLayer, sch.isTarget object = true) →
      (c.inLayer.map InferObject.trackId).Nodup →
      Remembers sch (fun c => sch.isActive c.moment) t fresh observe view past (entryOf s) →
      Remembers sch (fun c => sch.isActive c.moment) t fresh observe view (c :: past)
        (entryOf (sch.check c s).2))
    {past : List Call} (hcalls : sch.OnlyTargets past) :
    Remembers sch (fun c => sch.isActive c.moment) t fresh observe view past
      (entryOf (sch.after constructed past)) := by
  induction past with
  | nil =>
    rw [Schedule.after, hinit]
    rfl
  | cons c past ih =>
    have hpast := ih fun c' hc' => hcalls c' (List.mem_cons_of_mem c hc')
    obtain ⟨htarget, hnodup⟩ := hcalls c List.mem_cons_self
    by_cases h : sch.isActive c.moment = true
    · exact hactive c past _ h htarget hnodup hpast
    · rw [Schedule.after, Schedule.check_of_inactive _ h]
      exact remembers_of_not_seen h hpast

end DetectBase.Abnormal
