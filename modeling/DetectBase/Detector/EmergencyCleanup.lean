import DetectBase.Detector.FrameFolders
import DetectBase.Foundations.StdSort
import Mathlib.Data.Rat.Floor
import Mathlib.Data.Set.List
import Mathlib.Order.Bounds.Basic

/-!
# The emergency cleanup

`EmergencyCleanupIfDiskHigh`: when the disk is too full, the folders of the oldest days are deleted,
one at a time with a new reading of the usage after each, and the last folder is kept. If it is the
only one left and the disk is still too full, the older half of the files in it is deleted.

What is left is told by the list of the folders (`DetectBase.dayFolders`), and each of the functions
that change something by what it does to that list.
-/

namespace DetectBase

/-! ### The cleanup -/

/-- `FRAME_DISK_EMERGENCY_PCT`. -/
def frameDiskEmergencyPct : ℚ := 80

/-- `std::sort` of the files by `fs::last_write_time`. -/
abbrev WriteTimeSort := StdSort fun a b : FrameFile => a.lastWriteTime < b.lastWriteTime

/-- `EmergencyCleanupResult`. -/
structure EmergencyCleanupResult where
  /-- `deleted_day_dirs`. -/
  deletedDayDirs : ℕ
  /-- `deleted_files`. -/
  deletedFiles : ℕ
deriving DecidableEq

/-- `fs::remove_all` of the folder of a day. -/
def removeDay (path : FolderPath) : List YearFolder → List YearFolder :=
  mapDays fun yr mo days => days.filter fun dy => dayPath yr mo dy ≠ path

/-- `fs::remove` of files in the folder of a day, by their names. -/
def removeFiles (path : FolderPath) (names : List String) : List YearFolder → List YearFolder :=
  mapDays fun yr mo days => days.map fun dy =>
    if dayPath yr mo dy = path then { dy with files := dy.files.filter fun f => f.name ∉ names }
    else dy

/-- The loop over the folders: those that are left, how many have been deleted, and what is below
the root then. The reading after `n` deletions is `usedPct n`. -/
def deleteOldest (usedPct : ℕ → ℚ) :
    List FolderPath → ℕ → List YearFolder → List FolderPath × ℕ × List YearFolder
  | oldest :: next :: rest, n, root =>
    if usedPct n ≥ frameDiskEmergencyPct then
      deleteOldest usedPct (next :: rest) (n + 1) (removeDay oldest root)
    else (oldest :: next :: rest, n, root)
  | left, n, root => (left, n, root)

/-- The regular files in the folder of a day. -/
def regularFiles (root : List YearFolder) (path : FolderPath) : List FrameFile :=
  (dayFolders root).flatMap fun d => if d.1 = path then d.2.filter (·.isRegular) else []

/-- The files that are deleted: the first half of the regular files, the oldest first. -/
def olderHalf (S : WriteTimeSort) (files : List FrameFile) : List FrameFile :=
  (S.sort files).take (files.length / 2)

/-- The last folder: how many files are deleted, and what is below the root then. -/
def deleteOlderHalf (S : WriteTimeSort) (usedPct : ℚ) (left : List FolderPath)
    (root : List YearFolder) : ℕ × List YearFolder :=
  match left with
  | [last] =>
    if usedPct ≥ frameDiskEmergencyPct then
      let files := olderHalf S (regularFiles root last)
      (files.length, removeFiles last (files.map (·.name)) root)
    else (0, root)
  | _ => (0, root)

/-- **`EmergencyCleanupIfDiskHigh`**, with whether the lock is free: what it returns, and what is
below the root afterwards. -/
def emergencyCleanupIfDiskHigh (S : WriteTimeSort) (lockFree : Bool) (usedPct : ℕ → ℚ)
    (root : List YearFolder) : EmergencyCleanupResult × List YearFolder :=
  if lockFree = false then (⟨0, 0⟩, root)
  else if usedPct 0 < frameDiskEmergencyPct then (⟨0, 0⟩, root)
  else
    let (left, n, root) := deleteOldest usedPct ((dayDirs root).insertionSort (· ≤ ·)) 0 root
    let (deletedFiles, root) := deleteOlderHalf S (usedPct n) left root
    (⟨n, deletedFiles⟩, removeEmpty root)

/-! ### What is left of the folders -/

@[simp] theorem dayFolders_removeDay (path : FolderPath) (root : List YearFolder) :
    dayFolders (removeDay path root) = (dayFolders root).filter fun d => d.1 ≠ path := by
  rw [removeDay, dayFolders_mapDays, dayFolders, List.filter_flatMap]
  refine List.flatMap_congr fun yr _ => ?_
  rw [List.filter_flatMap]
  refine List.flatMap_congr fun mo _ => ?_
  rw [List.filter_map]
  rfl

@[simp] theorem dayFolders_removeFiles (path : FolderPath) (names : List String)
    (root : List YearFolder) :
    dayFolders (removeFiles path names root) = (dayFolders root).map fun d =>
      if d.1 = path then (d.1, d.2.filter fun f => f.name ∉ names) else d := by
  rw [removeFiles, dayFolders_mapDays, dayFolders, List.map_flatMap]
  refine List.flatMap_congr fun yr _ => ?_
  rw [List.map_flatMap]
  refine List.flatMap_congr fun mo _ => ?_
  rw [List.map_map, List.map_map]
  refine List.map_congr_left fun dy _ => ?_
  dsimp only [Function.comp_apply]
  split_ifs <;> rfl

/-! ### The loop over the folders -/

/-- **What the loop deletes**: the first so many of the folders, up to the first reading that is low
enough, and not the last one. -/
theorem deleteOldest_spec (usedPct : ℕ → ℚ) (dirs : List FolderPath) (n : ℕ)
    (root : List YearFolder) :
    ∃ k, IsLeast {k | usedPct (n + k) < frameDiskEmergencyPct ∨ dirs.length ≤ k + 1} k ∧
      (deleteOldest usedPct dirs n root).1 = dirs.drop k ∧
      (deleteOldest usedPct dirs n root).2.1 = n + k ∧
      dayFolders (deleteOldest usedPct dirs n root).2.2 =
        (dayFolders root).filter fun d => d.1 ∉ dirs.take k := by
  induction dirs generalizing n root with
  | nil =>
    refine ⟨0, ⟨.inr (Nat.zero_le _), fun _ _ => Nat.zero_le _⟩, rfl, rfl, ?_⟩
    simp [deleteOldest]
  | cons oldest dirs ih =>
    rcases dirs with - | ⟨next, rest⟩
    · refine ⟨0, ⟨.inr (Nat.le_refl _), fun _ _ => Nat.zero_le _⟩, rfl, rfl, ?_⟩
      simp [deleteOldest]
    · rw [deleteOldest]
      split_ifs with hhigh
      · obtain ⟨k, ⟨hk, hleast⟩, hleft, hcount, hfolders⟩ := ih (n + 1) (removeDay oldest root)
        have hshift : ∀ j, n + 1 + j = n + (j + 1) := fun j => by omega
        refine ⟨k + 1, ⟨?_, fun j hj => ?_⟩, hleft, ?_, ?_⟩
        · rcases hk with hlow | hlast
          · exact .inl (by rwa [← hshift])
          · exact .inr (Nat.succ_le_succ hlast)
        · rcases j with - | j
          · rcases hj with hlow | hlast
            · exact absurd hlow (not_lt.mpr hhigh)
            · simp at hlast
          · refine Nat.succ_le_succ (hleast ?_)
            rcases hj with hlow | hlast
            · exact .inl (by rwa [hshift])
            · exact .inr (Nat.le_of_succ_le_succ hlast)
        · rw [hcount, hshift]
        · rw [hfolders, dayFolders_removeDay, List.filter_filter, List.take_succ_cons]
          refine List.filter_congr fun d _ => ?_
          simp [Bool.and_comm]
      · refine ⟨0, ⟨.inl (not_le.mp hhigh), fun _ _ => Nat.zero_le _⟩, rfl, rfl, ?_⟩
        simp

/-! ### The folders by their dates -/

/-- The folders in the order of their paths are in the order of their dates. -/
theorem FrameTree.exists_dates (t : FrameTree) : ∃ dates : List DateName,
    dates.map DateName.path = (dayDirs t.root).insertionSort (· ≤ ·) ∧
      dates.Pairwise DateName.Before := by
  have hperm := List.perm_insertionSort (· ≤ ·) (dayDirs t.root)
  obtain ⟨dates, hdates⟩ : ∃ dates : List DateName,
      dates.map DateName.path = (dayDirs t.root).insertionSort (· ≤ ·) := by
    rw [← Set.mem_range, Set.range_list_map]
    intro p hp
    obtain ⟨d, rfl⟩ := t.named p (hperm.subset hp)
    exact Set.mem_range_self d
  refine ⟨dates, hdates, ?_⟩
  have hnodup := hperm.nodup_iff.mpr t.nodup
  have hsorted := List.pairwise_insertionSort (· ≤ ·) (dayDirs t.root)
  rw [← hdates, List.Nodup, List.pairwise_map] at hnodup
  rw [← hdates, List.pairwise_map] at hsorted
  exact hsorted.imp₂ (fun d e hle hne => DateName.before_of_path_lt (lt_of_le_of_ne hle hne)) hnodup

/-- What is left of a list without the members of a first part of it. -/
theorem filter_notMem_take {α : Type*} {l : List α} (hnodup : l.Nodup) {k : ℕ} {p : α → Bool}
    (hp : ∀ a, p a = true ↔ a ∉ l.take k) : l.filter p = l.drop k := by
  have hsplit := List.take_append_drop k l
  rw [← hsplit] at hnodup
  have hnone : (l.take k).filter p = [] :=
    List.filter_eq_nil_iff.mpr fun a ha h => (hp a).mp h ha
  have hall : (l.drop k).filter p = l.drop k := List.filter_eq_self.mpr fun a ha =>
    (hp a).mpr fun hmem => (List.nodup_append'.mp hnodup).2.2 hmem ha
  conv_lhs => rw [← hsplit]
  rw [List.filter_append, hnone, hall, List.nil_append]

/-- The paths of the folders that are left when the first so many have been deleted. -/
theorem dayDirs_filter_perm {t : FrameTree} {dates : List DateName}
    (hperm : (dates.map DateName.path).Perm (dayDirs t.root)) (k : ℕ) :
    ((dayDirs t.root).filter fun p => p ∉ (dates.map DateName.path).take k).Perm
      ((dates.drop k).map DateName.path) := by
  refine (hperm.symm.filter _).trans ?_
  rw [filter_notMem_take (hperm.nodup_iff.mpr t.nodup) (k := k) (by simp), List.map_drop]

/-! ### The last folder -/

/-- **The older half** of the regular files. -/
structure IsOlderHalf (files removed : List FrameFile) : Prop where
  /-- Regular files are removed, and none of them twice. -/
  subperm : removed.Subperm (files.filter (·.isRegular))
  /-- There are half as many, rounded down. -/
  length : removed.length = (files.filter (·.isRegular)).length / 2
  /-- None of them was written after a regular file that is left. -/
  older : ∀ r ∈ removed, ∀ f ∈ files, f.isRegular = true → f ∉ removed →
    r.lastWriteTime ≤ f.lastWriteTime

theorem isOlderHalf (S : WriteTimeSort) (files : List FrameFile) :
    IsOlderHalf files (olderHalf S (files.filter (·.isRegular))) := by
  have hperm := S.perm (files.filter (·.isRegular))
  refine ⟨?_, ?_, fun r hr f hf hregular hnot => ?_⟩
  · exact (List.take_sublist ..).subperm.trans hperm.subperm
  · rw [olderHalf, List.length_take, hperm.length_eq]
    omega
  · have hmem := hperm.symm.subset (List.mem_filter.mpr ⟨hf, hregular⟩)
    rw [← List.take_append_drop ((files.filter (·.isRegular)).length / 2)
      (S.sort (files.filter (·.isRegular))), List.mem_append] at hmem
    exact not_lt.mp (S.not_comp_of_mem hr (hmem.resolve_left hnot))

/-- Files with different names are removed by their names. -/
theorem filter_notMem_map_name {files removed : List FrameFile}
    (hnodup : (files.map (·.name)).Nodup) (hsub : removed ⊆ files) :
    (files.filter fun f => f.name ∉ removed.map (·.name)) = files.filter fun f => f ∉ removed := by
  refine List.filter_congr fun f hf => ?_
  rw [decide_eq_decide, not_iff_not]
  constructor
  · intro h
    obtain ⟨r, hr, hname⟩ := List.mem_map.mp h
    rwa [← List.inj_on_of_nodup_map hnodup (hsub hr) hf hname]
  · exact fun h => List.mem_map_of_mem h

/-- **The last folder loses the older half of its regular files**, and nothing else. -/
theorem deleteOlderHalf_last (S : WriteTimeSort) {usedPct : ℚ} {last : FolderPath}
    {files : List FrameFile} {root : List YearFolder}
    (hfolders : dayFolders root = [(last, files)]) (hnodup : (files.map (·.name)).Nodup)
    (hhigh : frameDiskEmergencyPct ≤ usedPct) :
    ∃ removed, IsOlderHalf files removed ∧
      (deleteOlderHalf S usedPct [last] root).1 = removed.length ∧
      dayFolders (deleteOlderHalf S usedPct [last] root).2 =
        [(last, files.filter fun f => f ∉ removed)] := by
  have hregular : regularFiles root last = files.filter (·.isRegular) := by
    rw [regularFiles, hfolders, List.flatMap_singleton, if_pos rfl]
  have hhalf := isOlderHalf S files
  have hsub : olderHalf S (files.filter (·.isRegular)) ⊆ files := fun f hf =>
    (List.mem_filter.mp (hhalf.subperm.subset hf)).1
  refine ⟨olderHalf S (files.filter (·.isRegular)), hhalf, ?_, ?_⟩
  · rw [deleteOlderHalf, if_pos hhigh, hregular]
  · rw [deleteOlderHalf, if_pos hhigh, hregular, dayFolders_removeFiles, hfolders,
      List.map_singleton, if_pos rfl, filter_notMem_map_name hnodup hsub]

/-- In any other case no file is deleted. -/
theorem deleteOlderHalf_of_not (S : WriteTimeSort) {usedPct : ℚ} {left : List FolderPath}
    (root : List YearFolder)
    (h : ¬∃ last, left = [last] ∧ frameDiskEmergencyPct ≤ usedPct) :
    deleteOlderHalf S usedPct left root = (0, root) := by
  unfold deleteOlderHalf
  split
  · rename_i last
    rw [if_neg fun hhigh => h ⟨last, rfl, hhigh⟩]
  · rfl

/-- No folder is deleted with the files. -/
theorem dayDirs_deleteOlderHalf (S : WriteTimeSort) (usedPct : ℚ) (left : List FolderPath)
    (root : List YearFolder) :
    dayDirs (deleteOlderHalf S usedPct left root).2 = dayDirs root := by
  unfold deleteOlderHalf
  split
  · split_ifs
    · rw [dayDirs, dayFolders_removeFiles, List.map_map, dayDirs]
      refine List.map_congr_left fun d _ => ?_
      dsimp only [Function.comp_apply]
      split_ifs <;> rfl
    · rfl
  · rfl

/-- With a first reading that is low enough, the loop deletes nothing. -/
theorem deleteOldest_of_low {usedPct : ℕ → ℚ} {n : ℕ} (h : usedPct n < frameDiskEmergencyPct)
    (dirs : List FolderPath) (root : List YearFolder) :
    deleteOldest usedPct dirs n root = (dirs, n, root) := by
  rcases dirs with - | ⟨oldest, - | ⟨next, rest⟩⟩
  · rfl
  · rfl
  · rw [deleteOldest, if_neg (not_le.mpr h)]

/-- **What the cleanup does**: what the loop over the folders does, and what is done about the last
one after it. -/
theorem emergencyCleanup_eq (S : WriteTimeSort) (usedPct : ℕ → ℚ) (root : List YearFolder)
    {left : List FolderPath} {n : ℕ} {root' : List YearFolder}
    (hloop : deleteOldest usedPct ((dayDirs root).insertionSort (· ≤ ·)) 0 root =
      (left, n, root')) :
    (emergencyCleanupIfDiskHigh S true usedPct root).1 =
        ⟨n, (deleteOlderHalf S (usedPct n) left root').1⟩ ∧
      dayFolders (emergencyCleanupIfDiskHigh S true usedPct root).2 =
        dayFolders (deleteOlderHalf S (usedPct n) left root').2 := by
  rw [emergencyCleanupIfDiskHigh, if_neg Bool.noConfusion]
  split_ifs with hlow
  · rw [deleteOldest_of_low hlow] at hloop
    obtain ⟨rfl, rfl, rfl⟩ : _ = left ∧ 0 = n ∧ root = root' := by simpa using hloop
    rw [deleteOlderHalf_of_not S root fun ⟨_, _, hhigh⟩ => absurd hlow (not_lt.mpr hhigh)]
    exact ⟨rfl, rfl⟩
  · rw [hloop]
    dsimp only
    exact ⟨rfl, dayFolders_removeEmpty _⟩

/-- **The emergency cleanup.** If the lock is taken, nothing happens. Otherwise the folders that are
deleted are those of the first `k` dates, where `k` is the first number of deletions after which the
reading is below the threshold or no more than one folder is left; the last date keeps its folder.
Files are deleted only if it is the only one left and the reading is still too high, and then they
are the older half of the regular files in it. -/
theorem emergencyCleanup_spec (S : WriteTimeSort) (usedPct : ℕ → ℚ) (t : FrameTree) :
    emergencyCleanupIfDiskHigh S false usedPct t.root = (⟨0, 0⟩, t.root) ∧
    ∃ (dates : List DateName) (k : ℕ),
      (dates.map DateName.path).Perm (dayDirs t.root) ∧ dates.Pairwise DateName.Before ∧
      IsLeast {k | usedPct k < frameDiskEmergencyPct ∨ dates.length ≤ k + 1} k ∧
      (∀ newest ∈ dates.getLast?, newest ∈ dates.drop k) ∧
      (dayDirs (emergencyCleanupIfDiskHigh S true usedPct t.root).2).Perm
        ((dates.drop k).map DateName.path) ∧
      (¬(∃ last, dates.drop k = [last] ∧ frameDiskEmergencyPct ≤ usedPct k) →
        (emergencyCleanupIfDiskHigh S true usedPct t.root).1 = ⟨k, 0⟩ ∧
        dayFolders (emergencyCleanupIfDiskHigh S true usedPct t.root).2 =
          (dayFolders t.root).filter fun d => d.1 ∉ (dates.map DateName.path).take k) ∧
      ∀ last, dates.drop k = [last] → frameDiskEmergencyPct ≤ usedPct k →
        ∃ files removed, (last.path, files) ∈ dayFolders t.root ∧ IsOlderHalf files removed ∧
          (emergencyCleanupIfDiskHigh S true usedPct t.root).1 = ⟨k, removed.length⟩ ∧
          dayFolders (emergencyCleanupIfDiskHigh S true usedPct t.root).2 =
            [(last.path, files.filter fun f => f ∉ removed)] := by
  refine ⟨rfl, ?_⟩
  obtain ⟨dates, hdates, hbefore⟩ := t.exists_dates
  have hperm : (dates.map DateName.path).Perm (dayDirs t.root) := by
    rw [hdates]
    exact List.perm_insertionSort (· ≤ ·) (dayDirs t.root)
  obtain ⟨k, hleast, hleft, hcount, hfolders⟩ :=
    deleteOldest_spec usedPct (dates.map DateName.path) 0 t.root
  rcases hloop : deleteOldest usedPct (dates.map DateName.path) 0 t.root with ⟨left, n, root'⟩
  rw [hloop] at hleft hcount hfolders
  rw [hdates] at hloop
  obtain ⟨hresult, hroot⟩ := emergencyCleanup_eq S usedPct t.root hloop
  rw [← List.map_drop] at hleft
  simp only [Nat.zero_add, List.length_map] at hleast hleft hcount hfolders
  subst hleft hcount
  have hdirs : (dayDirs root').Perm ((dates.drop n).map DateName.path) := by
    have hfilter := dayDirs_filter_perm hperm n
    rw [dayDirs, List.filter_map] at hfilter
    rw [dayDirs, hfolders]
    exact hfilter
  refine ⟨dates, n, hperm, hbefore, hleast, fun newest hnewest => ?_, ?_, fun hnot => ?_,
    fun last hlast hhigh => ?_⟩
  · have hlen : dates.length ≠ 0 := by
      intro hzero
      rw [List.length_eq_zero_iff.mp hzero] at hnewest
      cases hnewest
    have hle : n ≤ dates.length - 1 := hleast.2 (.inr (by omega))
    refine List.mem_of_getLast? (l := dates.drop n) ?_
    rw [List.getLast?_drop, if_neg (by omega)]
    exact hnewest
  · have hsame := dayDirs_deleteOlderHalf S (usedPct n) ((dates.drop n).map DateName.path) root'
    rw [← hsame, dayDirs] at hdirs
    rw [dayDirs, hroot]
    exact hdirs
  · have hnone : ¬∃ last, (dates.drop n).map DateName.path = [last] ∧
        frameDiskEmergencyPct ≤ usedPct n := by
      rintro ⟨last, hlast, hhigh⟩
      obtain ⟨d, hd, -⟩ := List.map_eq_singleton_iff.mp hlast
      exact hnot ⟨d, hd, hhigh⟩
    rw [hresult, hroot, deleteOlderHalf_of_not S root' hnone]
    exact ⟨rfl, hfolders⟩
  · rw [hlast, List.map_singleton] at hdirs hresult hroot
    obtain ⟨⟨p, files⟩, hsingle, hp⟩ :=
      List.map_eq_singleton_iff.mp (List.perm_singleton.mp hdirs)
    obtain rfl : p = last.path := hp
    have hmem : (last.path, files) ∈ dayFolders t.root := by
      have hfiltered : (last.path, files) ∈ dayFolders root' := by
        rw [hsingle]
        exact List.mem_singleton_self _
      rw [hfolders] at hfiltered
      exact (List.mem_filter.mp hfiltered).1
    obtain ⟨removed, hhalf, hcount, hleft⟩ :=
      deleteOlderHalf_last S hsingle (t.nodup_files _ hmem) hhigh
    exact ⟨files, removed, hmem, hhalf, by rw [hresult, hcount], by rw [hroot, hleft]⟩

/-- A folder of three files that is the only one loses the oldest of them. -/
example :
    let files : List FrameFile := [⟨"b", true, 20⟩, ⟨"a", true, 10⟩, ⟨"c", true, 30⟩]
    let t := FrameTree.single ⟨2024, 1, 5, by decide, by decide, by decide⟩ files (by decide)
    (emergencyCleanupIfDiskHigh (StdSort.byKey FrameFile.lastWriteTime) true (fun _ => 90)
      t.root).1 = ⟨0, 1⟩ := by
  decide +kernel

end DetectBase
