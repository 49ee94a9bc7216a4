import DetectBase.Detector.EmergencyCleanup
import DetectBase.Detector.Retention
import DetectBase.Foundations.Cooldown
import Mathlib.Data.List.Induction

/-!
# The thread that saves pictures

`IOWorkerThreadRunner` takes a picture from its queue and saves it. In between it cleans the folders
up: once in an hour those that are too old, and once in five minutes, if the disk is nearly full,
the oldest ones. A picture is not saved when the disk is full, which is counted each time and logged
once in a minute.

The three kinds of occasions are neither too often nor put off
(`DetectBase.IoWorker.punctual_run`), whether the queue has a picture or not, and every picture is
saved, counted as skipped or counted as failed (`DetectBase.IoWorker.pictures_accounted`).

The steady clock is in nanoseconds, since the moment that a new `time_point` stands for. The
counters belong to the whole process; here they are what the thread adds to them.
-/

namespace DetectBase

/-! ### The model -/

/-- `FRAME_DISK_FULL_PCT`. -/
def frameDiskFullPct : ℚ := 90

/-- `FRAME_RETENTION_DAYS`. -/
def frameRetentionDays : ℤ := 7

/-- `FRAME_CLEANUP_INTERVAL`. -/
def frameCleanupInterval : ℤ := 3600 * nanosPerSecond

/-- `FRAME_EMERGENCY_INTERVAL`. -/
def frameEmergencyInterval : ℤ := 5 * 60 * nanosPerSecond

/-- The interval between two warnings. -/
def skipWarnInterval : ℤ := 60 * nanosPerSecond

/-- What the runner meets in one turn of its loop. -/
structure IoRound (α : Type) where
  /-- What `dequeue_wait_for` returns. -/
  item : Option α
  /-- `steady_clock::now()`. -/
  now : ℤ
  /-- `system_clock::now()`. -/
  systemNow : ℤ
  /-- What is below the root: other units write there too. -/
  root : List YearFolder
  /-- No other unit is in `EmergencyCleanupIfDiskHigh`. -/
  lockFree : Bool
  /-- The readings of the disk in `EmergencyCleanupIfDiskHigh`. -/
  readings : ℕ → ℚ
  /-- `used_pct`. -/
  usedPct : ℚ
  /-- `cv::imwrite` succeeds. -/
  writes : Bool

/-- What becomes of a picture. -/
inductive Saving where
  /-- It is in a file. -/
  | saved : Saving
  /-- The disk was full. -/
  | skipped : Saving
  /-- `cv::imwrite` failed. -/
  | failed : Saving
  deriving DecidableEq

/-- **The runner**, with what it has done so far. -/
structure IoWorker (α : Type) where
  /-- `last_skip_warn`. -/
  lastSkipWarn : ℤ
  /-- `last_cleanup`. -/
  lastCleanup : ℤ
  /-- `last_emergency`. -/
  lastEmergency : ℤ
  /-- `detectbase_frame_cleanup_deleted_total`. -/
  cleanupDeleted : ℕ
  /-- `detectbase_frame_emergency_cleanup_total` of the type `day_dir`. -/
  emergencyDayDirs : ℕ
  /-- `detectbase_frame_emergency_cleanup_total` of the type `half_files`. -/
  emergencyHalfFiles : ℕ
  /-- `detectbase_imwrite_skipped_total`. -/
  imwriteSkipped : ℕ
  /-- `detectbase_errors_total` of the type `imwrite_fail`. -/
  imwriteFail : ℕ
  /-- When `CleanupOldFrameDirs` was called, and what it returned. -/
  cleanups : List (ℤ × ℕ)
  /-- When `EmergencyCleanupIfDiskHigh` was called, and what it returned. -/
  emergencies : List (ℤ × EmergencyCleanupResult)
  /-- When a warning was logged. -/
  warnings : List ℤ
  /-- The pictures, with what became of them. -/
  pictures : List (α × Saving)

namespace IoWorker

variable {α : Type}

/-- Before the loop. -/
def new : IoWorker α := ⟨0, 0, 0, 0, 0, 0, 0, 0, [], [], [], []⟩

/-- The regular cleanup, with what is below the root afterwards. -/
def cleanup (w : IoWorker α) (r : IoRound α) : IoWorker α × List YearFolder :=
  if Cooldown.due frameCleanupInterval w.lastCleanup r.now then
    let (deleted, root) := cleanupOldFrameDirs r.systemNow frameRetentionDays r.root
    ({ w with
      lastCleanup := r.now
      cleanups := w.cleanups ++ [(r.now, deleted)]
      cleanupDeleted := if deleted > 0 then w.cleanupDeleted + deleted else w.cleanupDeleted },
      root)
  else (w, r.root)

/-- The emergency cleanup. -/
def emergency (S : WriteTimeSort) (w : IoWorker α) (r : IoRound α) (root : List YearFolder) :
    IoWorker α :=
  if Cooldown.due frameEmergencyInterval w.lastEmergency r.now then
    let (res, _) := emergencyCleanupIfDiskHigh S r.lockFree r.readings root
    { w with
      lastEmergency := r.now
      emergencies := w.emergencies ++ [(r.now, res)]
      emergencyDayDirs :=
        if res.deletedDayDirs > 0 then w.emergencyDayDirs + res.deletedDayDirs
        else w.emergencyDayDirs
      emergencyHalfFiles :=
        if res.deletedFiles > 0 then w.emergencyHalfFiles + res.deletedFiles
        else w.emergencyHalfFiles }
  else w

/-- A picture comes. -/
def save (w : IoWorker α) (r : IoRound α) (x : α) : IoWorker α :=
  if r.usedPct ≥ frameDiskFullPct then
    let w := { w with
      imwriteSkipped := w.imwriteSkipped + 1
      pictures := w.pictures ++ [(x, .skipped)] }
    if Cooldown.due skipWarnInterval w.lastSkipWarn r.now then
      { w with
        warnings := w.warnings ++ [r.now]
        lastSkipWarn := r.now }
    else w
  else if r.writes = false then
    { w with
      imwriteFail := w.imwriteFail + 1
      pictures := w.pictures ++ [(x, .failed)] }
  else { w with pictures := w.pictures ++ [(x, .saved)] }

/-- **One turn of the loop of `IOWorkerThreadRunner`.** -/
def round (S : WriteTimeSort) (w : IoWorker α) (r : IoRound α) : IoWorker α :=
  let (w, root) := w.cleanup r
  let w := w.emergency S r root
  match r.item with
  | none => w
  | some x => w.save r x

/-- **`IOWorkerThreadRunner`**, with the turns of its loop. -/
def run (S : WriteTimeSort) (rs : List (IoRound α)) : IoWorker α := rs.foldl (round S) new

/-! ### What one turn does -/

/-- A counter is only called for something that it counts. -/
theorem ite_add (n k : ℕ) : (if k > 0 then n + k else n) = n + k := by
  split_ifs with h
  · rfl
  · rw [Nat.eq_zero_of_not_pos h, Nat.add_zero]

/-- The cleanups of a turn. -/
def cleanupsOf (w : IoWorker α) (r : IoRound α) : List (ℤ × ℕ) :=
  if Cooldown.due frameCleanupInterval w.lastCleanup r.now then
    [(r.now, (cleanupOldFrameDirs r.systemNow frameRetentionDays r.root).1)]
  else []

theorem cleanup_eq (w : IoWorker α) (r : IoRound α) : (w.cleanup r).1 =
    { w with
      lastCleanup := Cooldown.next frameCleanupInterval w.lastCleanup r.now
      cleanups := w.cleanups ++ w.cleanupsOf r
      cleanupDeleted := w.cleanupDeleted + ((w.cleanupsOf r).map Prod.snd).sum } := by
  rw [cleanup, cleanupsOf, Cooldown.next]
  split_ifs with hdue
  · simp only [ite_add, List.map_singleton, List.sum_singleton]
  · simp only [List.append_nil, List.map_nil, List.sum_nil, Nat.add_zero]

/-- The emergency cleanups of a turn. -/
def emergenciesOf (S : WriteTimeSort) (w : IoWorker α) (r : IoRound α) (root : List YearFolder) :
    List (ℤ × EmergencyCleanupResult) :=
  if Cooldown.due frameEmergencyInterval w.lastEmergency r.now then
    [(r.now, (emergencyCleanupIfDiskHigh S r.lockFree r.readings root).1)]
  else []

theorem emergency_eq (S : WriteTimeSort) (w : IoWorker α) (r : IoRound α)
    (root : List YearFolder) : w.emergency S r root =
    { w with
      lastEmergency := Cooldown.next frameEmergencyInterval w.lastEmergency r.now
      emergencies := w.emergencies ++ w.emergenciesOf S r root
      emergencyDayDirs := w.emergencyDayDirs +
        ((w.emergenciesOf S r root).map (·.2.deletedDayDirs)).sum
      emergencyHalfFiles := w.emergencyHalfFiles +
        ((w.emergenciesOf S r root).map (·.2.deletedFiles)).sum } := by
  rw [emergency, emergenciesOf, Cooldown.next]
  split_ifs with hdue
  · simp only [ite_add, List.map_singleton, List.sum_singleton]
  · simp only [List.append_nil, List.map_nil, List.sum_nil, Nat.add_zero]

/-- The turn has a picture for a full disk. -/
def skips (r : IoRound α) : Bool := r.item.isSome && decide (r.usedPct ≥ frameDiskFullPct)

/-- What becomes of the picture of a turn. -/
def savingOf (r : IoRound α) : Saving :=
  if r.usedPct ≥ frameDiskFullPct then .skipped
  else if r.writes = false then .failed
  else .saved

/-- The picture of a turn, with what becomes of it. -/
def picturesOf (r : IoRound α) : List (α × Saving) := r.item.toList.map fun x => (x, savingOf r)

/-- The warnings of a turn. -/
def warningsOf (w : IoWorker α) (r : IoRound α) : List ℤ :=
  if skips r && Cooldown.due skipWarnInterval w.lastSkipWarn r.now then [r.now] else []

/-- The pictures of which something has become. -/
def countOf (saving : Saving) (pictures : List (α × Saving)) : ℕ :=
  pictures.countP fun p => p.2 = saving

theorem save_eq (w : IoWorker α) (r : IoRound α) :
    (match r.item with | none => w | some x => w.save r x) =
    { w with
      lastSkipWarn :=
        if skips r then Cooldown.next skipWarnInterval w.lastSkipWarn r.now else w.lastSkipWarn
      warnings := w.warnings ++ w.warningsOf r
      pictures := w.pictures ++ picturesOf r
      imwriteSkipped := w.imwriteSkipped + countOf .skipped (picturesOf r)
      imwriteFail := w.imwriteFail + countOf .failed (picturesOf r) } := by
  rw [warningsOf, picturesOf, savingOf, skips]
  rcases r.item with _ | x
  · simp [countOf]
  · by_cases hfull : r.usedPct ≥ frameDiskFullPct
    · by_cases hdue : Cooldown.due skipWarnInterval w.lastSkipWarn r.now = true
      · simp [save, hfull, hdue, countOf, Cooldown.next]
      · simp [save, hfull, hdue, countOf, Cooldown.next]
    · by_cases hwrites : r.writes = false
      · simp [save, hfull, hwrites, countOf]
      · simp [save, hfull, hwrites, countOf]

/-- **What one turn does.** -/
theorem round_eq (S : WriteTimeSort) (w : IoWorker α) (r : IoRound α) : w.round S r =
    { lastSkipWarn :=
        if skips r then Cooldown.next skipWarnInterval w.lastSkipWarn r.now else w.lastSkipWarn
      lastCleanup := Cooldown.next frameCleanupInterval w.lastCleanup r.now
      lastEmergency := Cooldown.next frameEmergencyInterval w.lastEmergency r.now
      cleanupDeleted := w.cleanupDeleted + ((w.cleanupsOf r).map Prod.snd).sum
      emergencyDayDirs := w.emergencyDayDirs +
        ((w.emergenciesOf S r (w.cleanup r).2).map (·.2.deletedDayDirs)).sum
      emergencyHalfFiles := w.emergencyHalfFiles +
        ((w.emergenciesOf S r (w.cleanup r).2).map (·.2.deletedFiles)).sum
      imwriteSkipped := w.imwriteSkipped + countOf .skipped (picturesOf r)
      imwriteFail := w.imwriteFail + countOf .failed (picturesOf r)
      cleanups := w.cleanups ++ w.cleanupsOf r
      emergencies := w.emergencies ++ w.emergenciesOf S r (w.cleanup r).2
      warnings := w.warnings ++ w.warningsOf r
      pictures := w.pictures ++ picturesOf r } := by
  have hround : w.round S r = match r.item with
      | none => (w.cleanup r).1.emergency S r (w.cleanup r).2
      | some x => ((w.cleanup r).1.emergency S r (w.cleanup r).2).save r x := rfl
  rw [hround, save_eq, emergency_eq, cleanup_eq]
  rfl

theorem run_concat (S : WriteTimeSort) (rs : List (IoRound α)) (r : IoRound α) :
    run S (rs ++ [r]) = (run S rs).round S r := List.foldl_concat _ _ _ _

/-! ### The occasions -/

/-- The times that the runner keeps, and the occasions so far. -/
structure Kept (S : WriteTimeSort) (rs : List (IoRound α)) : Prop where
  /-- The last cleanup. -/
  lastCleanup : (run S rs).lastCleanup =
    Cooldown.lastOf frameCleanupInterval 0 (rs.map (·.now))
  /-- The cleanups. -/
  cleanups : (run S rs).cleanups.map Prod.fst =
    Cooldown.fired frameCleanupInterval 0 (rs.map (·.now))
  /-- The last emergency cleanup. -/
  lastEmergency : (run S rs).lastEmergency =
    Cooldown.lastOf frameEmergencyInterval 0 (rs.map (·.now))
  /-- The emergency cleanups. -/
  emergencies : (run S rs).emergencies.map Prod.fst =
    Cooldown.fired frameEmergencyInterval 0 (rs.map (·.now))
  /-- The last warning. -/
  lastSkipWarn : (run S rs).lastSkipWarn =
    Cooldown.lastOf skipWarnInterval 0 ((rs.filter skips).map (·.now))
  /-- The warnings. -/
  warnings : (run S rs).warnings =
    Cooldown.fired skipWarnInterval 0 ((rs.filter skips).map (·.now))

/-- **The occasions are those of three intervals**, the one for the warnings running only over the
turns that skip a picture. -/
theorem kept_run (S : WriteTimeSort) (rs : List (IoRound α)) : Kept S rs := by
  induction rs using List.reverseRecOn with
  | nil => exact ⟨rfl, rfl, rfl, rfl, rfl, rfl⟩
  | append_singleton rs r ih =>
    have hskips : ((rs ++ [r]).filter skips).map (·.now) =
        (rs.filter skips).map (·.now) ++ if skips r then [r.now] else [] := by
      rw [List.filter_append, List.map_append, List.filter_singleton]
      rcases skips r <;> rfl
    refine ⟨?_, ?_, ?_, ?_, ?_, ?_⟩ <;> rw [run_concat, round_eq]
    · rw [List.map_append, List.map_singleton, Cooldown.lastOf_concat, ← ih.lastCleanup]
    · rw [List.map_append, List.map_append, List.map_singleton, Cooldown.fired_concat, ih.cleanups,
        ← ih.lastCleanup, cleanupsOf]
      split_ifs <;> rfl
    · rw [List.map_append, List.map_singleton, Cooldown.lastOf_concat, ← ih.lastEmergency]
    · rw [List.map_append, List.map_append, List.map_singleton, Cooldown.fired_concat,
        ih.emergencies, ← ih.lastEmergency, emergenciesOf]
      split_ifs <;> rfl
    · rw [hskips]
      show (if skips r then _ else _) = _
      split_ifs with hskip
      · rw [Cooldown.lastOf_concat, ← ih.lastSkipWarn]
      · rw [List.append_nil, ← ih.lastSkipWarn]
    · rw [hskips]
      show _ ++ warningsOf _ r = _
      rw [warningsOf, ih.warnings, ih.lastSkipWarn]
      rcases skips r
      · simp only [Bool.false_and, Bool.false_eq_true, if_false, List.append_nil]
      · rw [Bool.true_and, if_pos rfl, Cooldown.fired_concat]

/-- **The thread is punctual**: whatever its queue gives it, the regular cleanups, the emergency
cleanups and the warnings come neither too often nor too late. -/
theorem punctual_run (S : WriteTimeSort) {rs : List (IoRound α)}
    (hclock : rs.Pairwise fun r r' => r.now ≤ r'.now) (hstart : ∀ r ∈ rs, 0 ≤ r.now) :
    Cooldown.Punctual frameCleanupInterval 0 (rs.map (·.now))
        ((run S rs).cleanups.map Prod.fst) ∧
      Cooldown.Punctual frameEmergencyInterval 0 (rs.map (·.now))
        ((run S rs).emergencies.map Prod.fst) ∧
      Cooldown.Punctual skipWarnInterval 0 ((rs.filter skips).map (·.now))
        (run S rs).warnings := by
  have hkept := kept_run S rs
  have hpunctual : ∀ (interval : ℤ) (rs' : List (IoRound α)), 0 ≤ interval → rs'.Sublist rs →
      Cooldown.Punctual interval 0 (rs'.map (·.now))
        (Cooldown.fired interval 0 (rs'.map (·.now))) := by
    intro interval rs' hinterval hsub
    refine Cooldown.punctual_fired hinterval (fun t ht => ?_) ?_
    · obtain ⟨r, hr, rfl⟩ := List.mem_map.mp ht
      exact hstart r (hsub.subset hr)
    · exact List.pairwise_map.mpr (hclock.sublist hsub)
  rw [hkept.cleanups, hkept.emergencies, hkept.warnings]
  exact ⟨hpunctual _ rs (by decide) (List.Sublist.refl rs),
    hpunctual _ rs (by decide) (List.Sublist.refl rs),
    hpunctual _ _ (by decide) List.filter_sublist⟩

/-- A turn with a picture for a full disk. -/
def fullRound (now : ℤ) : IoRound ℕ where
  item := some 1
  now := now
  systemNow := now
  root := []
  lockFree := true
  readings _ := 0
  usedPct := 95
  writes := true

/-- Two of them. -/
def fullRounds : List (IoRound ℕ) :=
  [fullRound (2 * skipWarnInterval), fullRound (4 * skipWarnInterval)]

theorem punctual_run_full :
    Cooldown.Punctual skipWarnInterval 0 ((fullRounds.filter skips).map (·.now))
      [2 * skipWarnInterval, 4 * skipWarnInterval] := by
  have hclock : fullRounds.Pairwise fun r r' => r.now ≤ r'.now := by
    rw [fullRounds, List.pairwise_pair]
    decide
  have hstart : ∀ r ∈ fullRounds, 0 ≤ r.now := by
    simp only [fullRounds, List.forall_mem_cons]
    decide
  exact (punctual_run (StdSort.byKey FrameFile.lastWriteTime) hclock hstart).2.2

/-! ### The pictures and the counters -/

/-- **What the counters stand for.** -/
structure Accounted (w : IoWorker α) : Prop where
  /-- Pictures that were skipped. -/
  imwriteSkipped : w.imwriteSkipped = countOf .skipped w.pictures
  /-- Pictures that could not be written. -/
  imwriteFail : w.imwriteFail = countOf .failed w.pictures
  /-- Folders that were too old. -/
  cleanupDeleted : w.cleanupDeleted = (w.cleanups.map Prod.snd).sum
  /-- Folders that were deleted for room. -/
  emergencyDayDirs : w.emergencyDayDirs = (w.emergencies.map (·.2.deletedDayDirs)).sum
  /-- Files that were deleted for room. -/
  emergencyHalfFiles : w.emergencyHalfFiles = (w.emergencies.map (·.2.deletedFiles)).sum

theorem sum_map_append {β : Type} (f : β → ℕ) (l l' : List β) :
    ((l ++ l').map f).sum = (l.map f).sum + (l'.map f).sum := by
  rw [List.map_append, List.sum_append]

theorem Accounted.round {S : WriteTimeSort} {w : IoWorker α} (h : w.Accounted) (r : IoRound α) :
    (w.round S r).Accounted := by
  rw [round_eq]
  refine ⟨?_, ?_, ?_, ?_, ?_⟩
  · exact (congrArg (· + _) h.imwriteSkipped).trans (List.countP_append ..).symm
  · exact (congrArg (· + _) h.imwriteFail).trans (List.countP_append ..).symm
  · exact (congrArg (· + _) h.cleanupDeleted).trans (sum_map_append ..).symm
  · exact (congrArg (· + _) h.emergencyDayDirs).trans (sum_map_append ..).symm
  · exact (congrArg (· + _) h.emergencyHalfFiles).trans (sum_map_append ..).symm

/-- **No picture is lost without a count**: the pictures that the queue hands out are saved,
skipped or failed, in their order, each by the readings of its own turn, and every counter is what
has been counted. -/
theorem pictures_accounted (S : WriteTimeSort) (rs : List (IoRound α)) :
    (run S rs).pictures = rs.flatMap picturesOf ∧
      (run S rs).pictures.map Prod.fst = rs.filterMap (·.item) ∧ (run S rs).Accounted := by
  induction rs using List.reverseRecOn with
  | nil => exact ⟨rfl, rfl, rfl, rfl, rfl, rfl, rfl⟩
  | append_singleton rs r ih =>
    obtain ⟨hpictures, hitems, haccounted⟩ := ih
    refine ⟨?_, ?_, ?_⟩ <;> rw [run_concat]
    · rw [round_eq, List.flatMap_append, List.flatMap_singleton, hpictures]
    · rw [round_eq, List.filterMap_append, ← hitems, List.map_append]
      congr 1
      rw [picturesOf]
      rcases hitem : r.item with _ | x <;> simp [hitem]
    · exact haccounted.round r

end IoWorker

end DetectBase
