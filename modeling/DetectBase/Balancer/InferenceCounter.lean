import DetectBase.Foundations.Transition
import DetectBase.Profile.EngineClient
import Mathlib.Algebra.BigOperators.Group.List.Basic
import Mathlib.Data.Finset.Card
import Mathlib.Data.Nat.ModEq

/-!
# The counter of inferences

`InferenceCounter` has a counter for each client of an engine. A response adds one to the counter of
its client, and every ten seconds a thread takes what the counters hold, sets them back and reports
how many frames there were and from how many cameras. The counters are `unsigned int` and so is the
sum that is reported.

Nothing is counted twice and nothing is lost between the counters and the reports: modulo `2 ^ 32`,
the frames of all reports, those with the thread, those in the counters and those of counters that
were removed are as many as were added (`DetectBase.InferenceCounter.frames_conserved`), across any
number of calls of `Start` and `Stop`, and `Stop` leaves none with the thread. A report divides by
the number of cameras that are active, and does so only if there are any; those that it lists as not
active make up the rest of the cameras (`DetectBase.InferenceCounter.wellFormed_reports`).

How long the thread waits is left open, so that it may report at any time.
-/

namespace DetectBase

/-! ### The identifiers of clients -/

/-- `GetModelMajorTypeFromEngineIdentifier`. -/
def getModelMajorTypeFromEngineIdentifier (identifier : UnitID) : ModelMajorType :=
  if identifier.tdiv engineSubscribeMajorIdentifierJumpOffset = majorDetection then .detection
  else .none

/-- `GetPureIDFromInferenceRequesterID`. -/
def getPureIDFromInferenceRequesterID (reqId : UnitID) : UnitID :=
  (reqId.tmod engineSubscribeMajorIdentifierJumpOffset).tmod
    engineSubscribeMagicIdentifierJumpOffset

/-! ### The counters -/

/-- The unit is a client of a detection engine. -/
def isDetection (u : UnitID) : Bool := getModelMajorTypeFromEngineIdentifier u = .detection

/-- **`counters_`**, in the order of its buckets. -/
structure InferCounters where
  /-- The counters of the units. -/
  entries : List (UnitID × ℕ)
  /-- A unit has one counter. -/
  nodup : (entries.map Prod.fst).Nodup

namespace InferCounters

/-- No counters. -/
def empty : InferCounters := ⟨[], List.nodup_nil⟩

/-- The unit has a counter. -/
def has (c : InferCounters) (u : UnitID) : Bool := u ∈ c.entries.map Prod.fst

/-- **`Regist`**. -/
def regist (c : InferCounters) (u : UnitID) : InferCounters :=
  if h : u ∈ c.entries.map Prod.fst then c
  else ⟨(u, 0) :: c.entries, List.nodup_cons.mpr ⟨h, c.nodup⟩⟩

/-- **`Unregist`**. -/
def unregist (c : InferCounters) (u : UnitID) : InferCounters where
  entries := c.entries.filter fun e => e.1 ≠ u
  nodup := c.nodup.sublist (List.filter_sublist.map Prod.fst)

/-- The counter of a unit, with its identifier. -/
def counterOf (c : InferCounters) (u : UnitID) : List (UnitID × ℕ) :=
  c.entries.filter fun e => e.1 = u

/-- The counters after a function has been applied to each. -/
def mapCounts (c : InferCounters) (f : UnitID → ℕ → ℕ) : InferCounters where
  entries := c.entries.map fun e => (e.1, f e.1 e.2)
  nodup := by
    rw [List.map_map]
    exact c.nodup

/-- **`AddCount`**: `fetch_add( 1 )` on an `unsigned int`. -/
def addCount (c : InferCounters) (u : UnitID) : InferCounters :=
  c.mapCounts fun u' n => if u' = u then (n + 1) % 2 ^ 32 else n

/-- `exchange( 0 )` on each counter. -/
def exchange (c : InferCounters) : InferCounters := c.mapCounts fun _ _ => 0

end InferCounters

/-! ### The thread -/

/-- What is reported. -/
structure InferReport where
  /-- `main_total_frames`. -/
  mainTotalFrames : ℕ
  /-- `all_regist_ids`. -/
  allRegistIds : Finset UnitID
  /-- `main_active_cam_ids`. -/
  mainActiveCamIds : Finset UnitID
  /-- The cameras of `undetected_list_str`. -/
  undetected : Finset UnitID

/-- `all_regist_ids`. -/
def allRegistIds (snapshot : List (UnitID × ℕ)) : Finset UnitID :=
  (snapshot.map fun e => getPureIDFromInferenceRequesterID e.1).toFinset

/-- **The loop over the snapshot**, with the frames and the cameras so far. -/
def collect : List (UnitID × ℕ) → ℕ → Finset UnitID → ℕ × Finset UnitID
  | [], frames, active => (frames, active)
  | (u, n) :: snapshot, frames, active =>
    if n = 0 then collect snapshot frames active
    else if isDetection u then
      collect snapshot ((frames + n) % 2 ^ 32) (insert (getPureIDFromInferenceRequesterID u) active)
    else collect snapshot frames active

/-- What is reported of a snapshot. -/
def reportOf (snapshot : List (UnitID × ℕ)) : InferReport :=
  let (frames, active) := collect snapshot 0 ∅
  let all := allRegistIds snapshot
  { mainTotalFrames := frames
    allRegistIds := all
    mainActiveCamIds := active
    undetected := if active.card < all.card then all.filter (· ∉ active) else ∅ }

/-- Where the thread stands. -/
inductive CounterThread where
  /-- There is no thread, or it has returned. -/
  | finished : CounterThread
  /-- It is going to read the flag. -/
  | head : CounterThread
  /-- It is going to take what the counters hold. -/
  | taking : CounterThread
  /-- It has a snapshot. -/
  | holding (snapshot : List (UnitID × ℕ)) : CounterThread
  /-- It sleeps, as no camera was registered. -/
  | sleeping : CounterThread
  /-- In `wait_for`. -/
  | waiting : CounterThread
  deriving DecidableEq

/-- Where the owner stands. -/
inductive CounterOwner where
  /-- Outside of `Start` and `Stop`. -/
  | idle : CounterOwner
  /-- It joins the thread. -/
  | joining : CounterOwner
  deriving DecidableEq

/-- **`InferenceCounter`**, with what has happened to it. -/
structure InferenceCounter where
  /-- `counters_`. -/
  counters : InferCounters
  /-- The flag of `thread_`. -/
  running : Bool
  /-- The thread. -/
  thread : CounterThread
  /-- The owner. -/
  owner : CounterOwner
  /-- What has been reported. -/
  reports : List InferReport
  /-- The units that one was added to the counter of, for the statements only. -/
  added : List UnitID
  /-- The counters that were removed, for the statements only. -/
  removed : List (UnitID × ℕ)

/-- A step of the users, of the owner or of the thread. -/
inductive CounterAct where
  /-- `Regist`. -/
  | regist (u : UnitID) : CounterAct
  /-- `Unregist`. -/
  | unregist (u : UnitID) : CounterAct
  /-- `AddCount`. -/
  | addCount (u : UnitID) : CounterAct
  /-- `Start` is called. -/
  | start : CounterAct
  /-- `Stop` is called, and calls the closer. -/
  | stop : CounterAct
  /-- The thread has been joined. -/
  | joined : CounterAct
  /-- The thread reads the flag. -/
  | check : CounterAct
  /-- The thread takes what the counters hold. -/
  | take : CounterAct
  /-- The thread reports. -/
  | report : CounterAct
  /-- The thread has slept or waited. -/
  | wake : CounterAct
  deriving DecidableEq

namespace InferenceCounter

/-- A new counter. -/
def new : InferenceCounter := ⟨.empty, false, .finished, .idle, [], [], []⟩

/-- **A step.** -/
def step (s : InferenceCounter) : CounterAct → Option InferenceCounter
  | .regist u => some { s with counters := s.counters.regist u }
  | .unregist u => some { s with
      counters := s.counters.unregist u
      removed := s.removed ++ s.counters.counterOf u }
  | .addCount u => some { s with
      counters := s.counters.addCount u
      added := if s.counters.has u then s.added ++ [u] else s.added }
  | .start =>
    match s.owner with
    | .idle => some (if s.running then s else { s with running := true, thread := .head })
    | .joining => none
  | .stop =>
    match s.owner with
    | .idle => some (if s.running then { s with running := false, owner := .joining } else s)
    | .joining => none
  | .joined =>
    match s.owner, s.thread with
    | .joining, .finished => some { s with owner := .idle }
    | _, _ => none
  | .check =>
    match s.thread with
    | .head => some { s with thread := if s.running then .taking else .finished }
    | _ => none
  | .take =>
    match s.thread with
    | .taking => some { s with
        counters := s.counters.exchange
        thread := if (allRegistIds s.counters.entries).card = 0 then .sleeping
          else .holding s.counters.entries }
    | _ => none
  | .report =>
    match s.thread with
    | .holding snapshot => some { s with
        reports := s.reports ++ [reportOf snapshot]
        thread := .waiting }
    | _ => none
  | .wake =>
    match s.thread with
    | .sleeping => some { s with thread := .head }
    | .waiting => some { s with thread := if s.running then .head else .finished }
    | _ => none

end InferenceCounter

/-! ### Frames -/

/-- The frames of the detection engines in some counters. -/
def detectionFrames (entries : List (UnitID × ℕ)) : ℕ :=
  ((entries.filter fun e => isDetection e.1).map Prod.snd).sum

@[simp] theorem detectionFrames_nil : detectionFrames [] = 0 := rfl

theorem detectionFrames_cons (e : UnitID × ℕ) (entries : List (UnitID × ℕ)) :
    detectionFrames (e :: entries) =
      (if isDetection e.1 then e.2 else 0) + detectionFrames entries := by
  rw [detectionFrames, List.filter_cons]
  split_ifs
  · rw [List.map_cons, List.sum_cons, detectionFrames]
  · rw [detectionFrames, zero_add]

@[simp] theorem detectionFrames_append (entries entries' : List (UnitID × ℕ)) :
    detectionFrames (entries ++ entries') = detectionFrames entries + detectionFrames entries' := by
  rw [detectionFrames, List.filter_append, List.map_append, List.sum_append, detectionFrames,
    detectionFrames]

theorem detectionFrames_eq_zero {entries : List (UnitID × ℕ)} (h : ∀ e ∈ entries, e.2 = 0) :
    detectionFrames entries = 0 := by
  rw [detectionFrames, List.sum_eq_zero]
  intro n hn
  obtain ⟨e, he, rfl⟩ := List.mem_map.mp hn
  exact h e (List.mem_of_mem_filter he)

namespace InferCounters

variable (c : InferCounters) (u : UnitID)

theorem detectionFrames_regist :
    detectionFrames (c.regist u).entries = detectionFrames c.entries := by
  rw [regist]
  split_ifs with h
  · rfl
  · rw [detectionFrames_cons, ite_self, zero_add]

/-- What is removed is what is missing. -/
theorem detectionFrames_unregist :
    detectionFrames (c.unregist u).entries + detectionFrames (c.counterOf u) =
      detectionFrames c.entries := by
  have hsplit : ∀ entries : List (UnitID × ℕ), detectionFrames (entries.filter fun e => e.1 ≠ u) +
      detectionFrames (entries.filter fun e => e.1 = u) = detectionFrames entries := by
    intro entries
    induction entries with
    | nil => rfl
    | cons e entries ih =>
      by_cases he : e.1 = u
      · rw [List.filter_cons_of_neg (by simpa using he),
          List.filter_cons_of_pos (by simpa using he), detectionFrames_cons, detectionFrames_cons,
          ← ih]
        omega
      · rw [List.filter_cons_of_pos (by simpa using he),
          List.filter_cons_of_neg (by simpa using he), detectionFrames_cons, detectionFrames_cons,
          ← ih]
        omega
  exact hsplit c.entries

theorem detectionFrames_exchange : detectionFrames c.exchange.entries = 0 := by
  refine detectionFrames_eq_zero fun e he => ?_
  obtain ⟨e', -, rfl⟩ := List.mem_map.mp he
  rfl

/-- What is added to the counters of a unit. -/
theorem detectionFrames_addTo (entries : List (UnitID × ℕ)) :
    detectionFrames (entries.map fun e => (e.1, if e.1 = u then (e.2 + 1) % 2 ^ 32 else e.2)) ≡
      detectionFrames entries + (if isDetection u then (entries.map Prod.fst).count u else 0)
      [MOD 2 ^ 32] := by
  induction entries with
  | nil =>
    rw [List.map_nil, List.map_nil, List.count_nil, ite_self]
    rfl
  | cons e entries ih =>
    rw [List.map_cons, detectionFrames_cons, detectionFrames_cons, List.map_cons, List.count_cons]
    dsimp only
    by_cases he : e.1 = u
    · subst he
      rw [if_pos rfl, if_pos (beq_self_eq_true e.1)]
      split_ifs with hdetection
      · rw [if_pos hdetection] at ih
        refine ((Nat.mod_modEq _ _).add ih).trans (congrArg (· % 2 ^ 32) ?_)
        omega
      · rw [if_neg hdetection] at ih
        exact ih.add_left 0
    · rw [if_neg he, if_neg fun heq => he (eq_of_beq heq), add_assoc, add_zero]
      exact ih.add_left _

theorem detectionFrames_addCount : detectionFrames (c.addCount u).entries ≡
    detectionFrames c.entries + (if c.has u then [u] else []).countP isDetection [MOD 2 ^ 32] := by
  refine (detectionFrames_addTo u c.entries).trans (congrArg (fun n => (_ + n) % 2 ^ 32) ?_)
  rw [c.nodup.count, has]
  by_cases hu : u ∈ c.entries.map Prod.fst
  · simp [hu, List.countP_cons]
  · simp [hu]

end InferCounters

/-! ### Reports -/

theorem collect_frames (snapshot : List (UnitID × ℕ)) (frames : ℕ) (active : Finset UnitID) :
    (collect snapshot frames active).1 ≡ frames + detectionFrames snapshot [MOD 2 ^ 32] := by
  induction snapshot generalizing frames active with
  | nil => rfl
  | cons e snapshot ih =>
    obtain ⟨u, n⟩ := e
    rw [collect, detectionFrames_cons]
    dsimp only
    split_ifs with hzero hdetection hdetection
    · rw [hzero, zero_add]
      exact ih frames active
    · rw [zero_add]
      exact ih frames active
    · rw [← add_assoc]
      exact (ih _ _).trans ((Nat.mod_modEq _ _).add_right _)
    · rw [zero_add]
      exact ih frames active

/-- Which cameras are active. -/
theorem mem_collect (snapshot : List (UnitID × ℕ)) (frames : ℕ) (active : Finset UnitID)
    (id : UnitID) : id ∈ (collect snapshot frames active).2 ↔ id ∈ active ∨
      ∃ e ∈ snapshot, e.2 ≠ 0 ∧ isDetection e.1 = true ∧
        getPureIDFromInferenceRequesterID e.1 = id := by
  induction snapshot generalizing frames active with
  | nil => simp [collect]
  | cons e snapshot ih =>
    obtain ⟨u, n⟩ := e
    rw [collect]
    simp only [List.mem_cons, exists_eq_or_imp]
    split_ifs with hzero hdetection
    · rw [ih]
      simp [hzero]
    · rw [ih, Finset.mem_insert]
      simp only [ne_eq, hzero, not_false_iff, hdetection, true_and]
      tauto
    · rw [ih]
      simp [hdetection]

/-- **What can be relied on in a report.** -/
structure InferReport.WellFormed (r : InferReport) : Prop where
  /-- There are cameras. -/
  cameras : r.allRegistIds.Nonempty
  /-- The active cameras are among them. -/
  active : r.mainActiveCamIds ⊆ r.allRegistIds
  /-- The others are listed. -/
  undetected : r.undetected = r.allRegistIds \ r.mainActiveCamIds
  /-- Without an active camera there are no frames. -/
  frames : r.mainActiveCamIds = ∅ → r.mainTotalFrames = 0

theorem frames_eq_of_not_active (snapshot : List (UnitID × ℕ)) {frames : ℕ}
    (h : (collect snapshot frames ∅).2 = ∅) : (collect snapshot frames ∅).1 = frames := by
  induction snapshot with
  | nil => rfl
  | cons e snapshot ih =>
    obtain ⟨u, n⟩ := e
    rw [collect] at h ⊢
    split_ifs at h ⊢ with hzero hdetection
    · exact ih h
    · have hmem := (mem_collect snapshot ((frames + n) % 2 ^ 32) _ _).mpr
        (Or.inl (Finset.mem_insert_self (getPureIDFromInferenceRequesterID u) ∅))
      rw [h] at hmem
      exact absurd hmem (Finset.notMem_empty _)
    · exact ih h

theorem wellFormed_reportOf {snapshot : List (UnitID × ℕ)}
    (h : (allRegistIds snapshot).card ≠ 0) : (reportOf snapshot).WellFormed := by
  have hactive : (collect snapshot 0 ∅).2 ⊆ allRegistIds snapshot := by
    intro id hid
    rcases (mem_collect _ _ _ _).mp hid with hempty | ⟨e, he, -, -, rfl⟩
    · exact absurd hempty (Finset.notMem_empty id)
    · exact List.mem_toFinset.mpr (List.mem_map_of_mem he)
  refine ⟨Finset.card_ne_zero.mp h, hactive, ?_, frames_eq_of_not_active snapshot⟩
  rw [reportOf]
  dsimp only
  split_ifs with hcard
  · exact (Finset.sdiff_eq_filter _ _).symm
  · rw [Finset.eq_of_subset_of_card_le hactive (not_lt.mp hcard), Finset.sdiff_self]

/-! ### What holds in every run -/

/-- What the thread has taken and not reported. -/
def CounterThread.held : CounterThread → List (UnitID × ℕ)
  | .holding snapshot => snapshot
  | _ => []

namespace InferenceCounter

/-- The frames of all reports. -/
def reported (s : InferenceCounter) : ℕ := (s.reports.map (·.mainTotalFrames)).sum

/-- **Where the frames are.** -/
structure Conserved (s : InferenceCounter) : Prop where
  /-- All frames are somewhere. -/
  frames : s.reported + detectionFrames s.thread.held + detectionFrames s.counters.entries +
    detectionFrames s.removed ≡ s.added.countP isDetection [MOD 2 ^ 32]
  /-- There is no thread outside of `Start` and `Stop`. -/
  finished : s.owner = .idle → s.running = false → s.thread = .finished
  /-- What the thread has taken is of some camera. -/
  held : ∀ snapshot, s.thread = .holding snapshot → (allRegistIds snapshot).card ≠ 0
  /-- The reports are in order. -/
  reports : ∀ r ∈ s.reports, r.WellFormed

theorem conserved_new : Conserved new where
  frames := rfl
  finished _ _ := rfl
  held := nofun
  reports := nofun

variable {s s' : InferenceCounter}

/-- A thread that has not returned is running, or is being joined. -/
theorem Conserved.busy (h : Conserved s) (hthread : s.thread ≠ .finished) {P : Prop}
    (howner : s.owner = .idle) (hstopped : s.running = false) : P :=
  absurd (h.finished howner hstopped) hthread

theorem Conserved.step (h : Conserved s) {a : CounterAct} (hs : s.step a = some s') :
    Conserved s' := by
  have hframes := h.frames
  rcases a with u | u | u | _ | _ | _ | _ | _ | _ | _ <;> rw [InferenceCounter.step] at hs
  · cases hs
    refine ⟨?_, h.finished, h.held, h.reports⟩
    rw [InferCounters.detectionFrames_regist]
    exact hframes
  · cases hs
    refine ⟨?_, h.finished, h.held, h.reports⟩
    rw [detectionFrames_append]
    rw [← InferCounters.detectionFrames_unregist s.counters u] at hframes
    refine Nat.ModEq.trans (congrArg (· % 2 ^ 32) ?_) hframes
    dsimp only [reported]
    omega
  · cases hs
    refine ⟨?_, h.finished, h.held, h.reports⟩
    have hadd := InferCounters.detectionFrames_addCount s.counters u
    have hcount : (if s.counters.has u = true then s.added ++ [u] else s.added).countP isDetection =
        s.added.countP isDetection +
          (if s.counters.has u = true then [u] else []).countP isDetection := by
      split_ifs
      · rw [List.countP_append]
      · rw [List.countP_nil, add_zero]
    rw [hcount]
    refine ((hadd.add_left _).add_right _).trans ?_
    rw [← add_assoc, add_right_comm]
    exact hframes.add_right _
  · rcases howner : s.owner with _ | _ <;> rw [howner] at hs
    · cases hs
      split_ifs with hrunning
      · exact h
      · have hthread := h.finished howner (Bool.eq_false_of_not_eq_true hrunning)
        rw [hthread] at hframes
        exact ⟨hframes, nofun, nofun, h.reports⟩
    · cases hs
  · rcases howner : s.owner with _ | _ <;> rw [howner] at hs
    · cases hs
      split_ifs
      · exact ⟨hframes, nofun, h.held, h.reports⟩
      · exact h
    · cases hs
  · rcases howner : s.owner with _ | _ <;> rcases hthread : s.thread with _ | _ | _ | _ | _ | _ <;>
      rw [howner, hthread] at hs <;> cases hs
    rw [hthread] at hframes
    exact ⟨hframes, fun _ _ => rfl, nofun, h.reports⟩
  · rcases hthread : s.thread with _ | _ | _ | snapshot | _ | _ <;> rw [hthread] at hs <;> cases hs
    rw [hthread] at hframes
    split_ifs with hrunning
    · exact ⟨hframes, fun _ hr => absurd (hrunning.symm.trans hr) nofun, nofun, h.reports⟩
    · exact ⟨hframes, fun _ _ => rfl, nofun, h.reports⟩
  · rcases hthread : s.thread with _ | _ | _ | snapshot | _ | _ <;> rw [hthread] at hs <;> cases hs
    have hbusy : s.thread ≠ .finished := hthread ▸ nofun
    rw [hthread] at hframes
    have hexchange := InferCounters.detectionFrames_exchange s.counters
    split_ifs with hcard
    · have hnone : s.counters.entries = [] := by
        rw [Finset.card_eq_zero, allRegistIds, List.toFinset_eq_empty_iff,
          List.map_eq_nil_iff] at hcard
        exact hcard
      rw [hnone] at hframes
      refine ⟨?_, h.busy hbusy, nofun, h.reports⟩
      rw [hexchange]
      exact hframes
    · refine ⟨?_, h.busy hbusy, ?_, h.reports⟩
      · rw [hexchange, add_zero]
        exact hframes
      · intro snapshot heq
        cases heq
        exact hcard
  · rcases hthread : s.thread with _ | _ | _ | snapshot | _ | _ <;> rw [hthread] at hs <;> cases hs
    have hbusy : s.thread ≠ .finished := hthread ▸ nofun
    have hheld := h.held snapshot hthread
    rw [hthread] at hframes
    refine ⟨?_, h.busy hbusy, nofun, ?_⟩
    · have hsum : ((s.reports ++ [reportOf snapshot]).map (·.mainTotalFrames)).sum =
          s.reported + (reportOf snapshot).mainTotalFrames := by
        rw [List.map_append, List.sum_append, List.map_singleton, List.sum_singleton, reported]
      have hreport := (collect_frames snapshot 0 ∅).add_left s.reported
      rw [zero_add] at hreport
      refine Nat.ModEq.trans ?_ hframes
      dsimp only [reported]
      rw [hsum]
      exact (hreport.add_right _).add_right _
    · intro r hr
      rcases List.mem_append.mp hr with hr | hr
      · exact h.reports r hr
      · rw [List.mem_singleton.mp hr]
        exact wellFormed_reportOf hheld
  · rcases hthread : s.thread with _ | _ | _ | snapshot | _ | _ <;> rw [hthread] at hs <;> cases hs
    · have hbusy : s.thread ≠ .finished := hthread ▸ nofun
      rw [hthread] at hframes
      exact ⟨hframes, h.busy hbusy, nofun, h.reports⟩
    · rw [hthread] at hframes
      split_ifs with hrunning
      · exact ⟨hframes, fun _ hr => absurd (hrunning.symm.trans hr) nofun, nofun, h.reports⟩
      · exact ⟨hframes, fun _ _ => rfl, nofun, h.reports⟩

theorem conserved_run {as : List CounterAct}
    (hrun : runFrom InferenceCounter.step new as = some s) : Conserved s :=
  runFrom_invariant (fun _ _ _ h hs => h.step hs) conserved_new hrun

/-- **No frame is lost and none is counted twice**, modulo the size of a counter. -/
theorem frames_conserved {as : List CounterAct}
    (hrun : runFrom InferenceCounter.step new as = some s) :
    s.reported + detectionFrames s.thread.held + detectionFrames s.counters.entries +
      detectionFrames s.removed ≡ s.added.countP isDetection [MOD 2 ^ 32] ∧
    (s.owner = .idle → s.running = false → detectionFrames s.thread.held = 0) := by
  have h := conserved_run hrun
  exact ⟨h.frames, fun howner hstopped => by rw [h.finished howner hstopped]; rfl⟩

/-- **The reports of a run are in order.** -/
theorem wellFormed_reports {as : List CounterAct}
    (hrun : runFrom InferenceCounter.step new as = some s) : ∀ r ∈ s.reports, r.WellFormed :=
  (conserved_run hrun).reports

/-- Two cameras, one of which has two frames before a report and one after it. -/
def twoCameras : List CounterAct :=
  [.regist 3, .regist 4, .start, .addCount 3, .addCount 3, .addCount 7, .check, .take, .addCount 3,
    .report, .stop, .wake, .joined, .unregist 4]

theorem frames_conserved_twoCameras : ∃ s,
    runFrom InferenceCounter.step new twoCameras = some s ∧ s.reported = 2 ∧
    detectionFrames s.counters.entries = 1 ∧
    s.reported + detectionFrames s.thread.held + detectionFrames s.counters.entries +
      detectionFrames s.removed ≡ 3 [MOD 2 ^ 32] := by
  have hend : (runFrom InferenceCounter.step new twoCameras).map (fun s =>
      (s.reported, detectionFrames s.counters.entries, s.added.countP isDetection)) =
        some (2, 1, 3) := by
    decide +kernel
  obtain ⟨s, hrun, hs⟩ := Option.map_eq_some_iff.mp hend
  simp only [Prod.mk.injEq] at hs
  obtain ⟨hreported, hleft, hadded⟩ := hs
  have hconserved := (frames_conserved hrun).1
  rw [hadded] at hconserved
  exact ⟨s, hrun, hreported, hleft, hconserved⟩

theorem wellFormed_reports_twoCameras : ∃ s r,
    runFrom InferenceCounter.step new twoCameras = some s ∧ s.reports = [r] ∧
    r.mainActiveCamIds = {3} ∧ r.WellFormed := by
  have hend : (runFrom InferenceCounter.step new twoCameras).map (fun s =>
      s.reports.map (·.mainActiveCamIds)) = some [{3}] := by
    decide +kernel
  obtain ⟨s, hrun, hs⟩ := Option.map_eq_some_iff.mp hend
  obtain ⟨r, hr, hactive⟩ := List.map_eq_singleton_iff.mp hs
  have hmem : r ∈ s.reports := hr ▸ List.mem_singleton_self r
  exact ⟨s, r, hrun, hr, hactive, wellFormed_reports hrun r hmem⟩

end InferenceCounter

end DetectBase
