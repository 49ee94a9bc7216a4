import DetectBase.Detector.FrameFolders
import DetectBase.Foundations.Calendar
import DetectBase.Worker.EventRequest

/-!
# How long the folders of the frames are kept

`CleanupOldFrameDirs` deletes the folders of the days that ended long enough ago. It reads the date
from the names, and takes the last second of that date in UTC (`DetectBase.parseDirTime`); the names
are local dates. So a folder is deleted too late where the clocks are ahead of UTC, and too early
where they are behind, by what they differ (`DetectBase.cleanupOldFrameDirs_exact_iff`).

Hours and instants are integers here. The code has an `int` of hours and 64 bits of nanoseconds,
which is the same for periods of at most 106751 days and dates from 1678 to 2261.
-/

namespace DetectBase

/-! ### Names as numbers -/

theorem isSpace_of_isDigit {c : Char} (h : c.isDigit = true) : Abnormal.isSpace c = false := by
  have hzero : '0' ≤ c := by
    rw [Char.isDigit, Bool.and_eq_true, decide_eq_true_eq] at h
    exact h.1
  rw [Abnormal.isSpace, decide_eq_false_iff_not]
  rintro (rfl | ⟨-, hle⟩)
  · exact absurd hzero (by decide)
  · exact absurd (hzero.trans hle) (by decide)

theorem signOf_of_isDigit {c : Char} {rest : List Char} (h : c.isDigit = true) :
    signOf (c :: rest) = (1, c :: rest) := by
  unfold signOf
  split
  · next heq =>
    obtain ⟨rfl, -⟩ := List.cons.inj heq
    exact absurd h (by decide)
  · next heq =>
    obtain ⟨rfl, -⟩ := List.cons.inj heq
    exact absurd h (by decide)
  · rfl

/-- A number of a fixed width is read as it is. -/
theorem stoi_zeroPadded {w n : ℕ} (hw : 0 < w) (h : n < 10 ^ w) (hn : n < 2 ^ 31) :
    stoi (zeroPadded w n) = some (n : ℤ) := by
  have htext := toList_zeroPadded hw h
  obtain ⟨c, rest, hcons⟩ : ∃ c rest, fixedDigits w n = c :: rest :=
    List.exists_cons_of_length_pos (by rwa [length_fixedDigits])
  have hdigit : c.isDigit = true :=
    isDigit_of_mem_fixedDigits (w := w) (n := n) (hcons ▸ List.mem_cons_self)
  have hspace : Abnormal.isSpace c = false := isSpace_of_isDigit hdigit
  have hsign : signOf (c :: rest) = (1, c :: rest) := signOf_of_isDigit hdigit
  have hall : (c :: rest).takeWhile Char.isDigit = c :: rest := by
    rw [← hcons]
    exact List.takeWhile_eq_self_iff.mpr fun _ hd => isDigit_of_mem_fixedDigits hd
  have hvalue := foldl_fixedDigits h
  rw [hcons] at htext hvalue
  rw [stoi, htext, List.dropWhile_cons_of_neg (by simp [hspace]), hsign]
  dsimp only
  rw [hall]
  dsimp only
  rw [hvalue, Int.one_mul, if_pos (by omega)]

/-! ### The cleanup -/

/-- The nanoseconds of a second. -/
def nanosPerSecond : ℤ := 1000000000

/-- `parse_dir_time`: the last second of the date in UTC, unless it is `-1`. -/
def parseDirTime (y m d : String) : Option ℤ :=
  match stoi y, stoi m, stoi d with
  | some year, some month, some day =>
    let tt := timegm (year - 1900) (month - 1) day 23 59 59
    if tt = -1 then none else some tt
  | _, _, _ => none

/-- `cutoff`, in nanoseconds. -/
def cutoffTime (now retentionDays : ℤ) : ℤ := now - 24 * retentionDays * 3600 * nanosPerSecond

/-- The folder is deleted. -/
def isOld (cutoff : ℤ) (y m d : String) : Bool :=
  match parseDirTime y m d with
  | some t => t * nanosPerSecond < cutoff
  | none => false

/-- **`CleanupOldFrameDirs`**: how many folders are deleted, and what is below the root
afterwards. -/
def cleanupOldFrameDirs (now retentionDays : ℤ) (root : List YearFolder) : ℕ × List YearFolder :=
  let cutoff := cutoffTime now retentionDays
  let old (yr : YearFolder) (mo : MonthFolder) (dy : DayFolder) : Bool :=
    isOld cutoff yr.name mo.name dy.name
  ((root.map fun yr => (yr.months.map fun mo => mo.days.countP (old yr mo)).sum).sum,
    removeEmpty (mapDays (fun yr mo days => days.filter fun dy => !old yr mo dy) root))

/-- The folder at a path is deleted. -/
def isOldPath (cutoff : ℤ) : FolderPath → Bool
  | [y, m, d] => isOld cutoff y m d
  | _ => false

theorem dayFolders_cleanupOldFrameDirs (now retentionDays : ℤ) (root : List YearFolder) :
    dayFolders (cleanupOldFrameDirs now retentionDays root).2 =
      (dayFolders root).filter fun d => !isOldPath (cutoffTime now retentionDays) d.1 := by
  rw [cleanupOldFrameDirs, dayFolders_removeEmpty, dayFolders_mapDays, dayFolders,
    List.filter_flatMap]
  refine List.flatMap_congr fun yr _ => ?_
  rw [List.filter_flatMap]
  refine List.flatMap_congr fun mo _ => ?_
  rw [List.filter_map]
  rfl

/-- **What is left**: the folders that are not old. -/
theorem mem_dayDirs_cleanupOldFrameDirs {now retentionDays : ℤ} {root : List YearFolder}
    {p : FolderPath} :
    p ∈ dayDirs (cleanupOldFrameDirs now retentionDays root).2 ↔
      p ∈ dayDirs root ∧ isOldPath (cutoffTime now retentionDays) p = false := by
  rw [dayDirs, dayFolders_cleanupOldFrameDirs, dayDirs]
  constructor
  · intro h
    obtain ⟨d, hd, rfl⟩ := List.mem_map.mp h
    obtain ⟨hd, hold⟩ := List.mem_filter.mp hd
    exact ⟨List.mem_map_of_mem hd, by simpa using hold⟩
  · rintro ⟨h, hold⟩
    obtain ⟨d, hd, rfl⟩ := List.mem_map.mp h
    exact List.mem_map_of_mem (List.mem_filter.mpr ⟨hd, by simpa using hold⟩)

/-! ### The dates -/

namespace DateName

/-- The last second of the date in UTC. -/
def lastSecondUtc (d : DateName) : ℤ := timegm (d.year - 1900) (d.month - 1) d.day 23 59 59

/-- **The name of a folder** is read as the last second of its date in UTC. -/
theorem isOldPath_path (cutoff : ℤ) (d : DateName) :
    isOldPath cutoff d.path =
      decide (d.lastSecondUtc ≠ -1 ∧ d.lastSecondUtc * nanosPerSecond < cutoff) := by
  have hyear := d.year_lt
  have hmonth := d.month_lt
  have hday := d.day_lt
  rw [path, isOldPath, isOld, parseDirTime, stoi_zeroPadded (by decide) hyear (by omega),
    stoi_zeroPadded (by decide) hmonth (by omega), stoi_zeroPadded (by decide) hday (by omega)]
  dsimp only
  rw [← lastSecondUtc]
  split_ifs with hminus
  · simp [hminus]
  · simp [hminus]

/-- The cutoff does not tell the last second of the date in UTC from its last second in the zone,
and if the last second in UTC is `-1`, the cutoff is not behind the one in the zone. -/
def KeptAlike (offset cutoff : ℤ) (d : DateName) : Prop :=
  if d.lastSecondUtc = -1 then cutoff ≤ (d.lastSecondUtc - offset) * nanosPerSecond
  else
    ¬(min d.lastSecondUtc (d.lastSecondUtc - offset) * nanosPerSecond < cutoff ∧
      cutoff ≤ max d.lastSecondUtc (d.lastSecondUtc - offset) * nanosPerSecond)

end DateName

/-- **When a folder is kept for its full period.** -/
theorem DateName.keptAlike_iff (offset cutoff : ℤ) (d : DateName) :
    d.KeptAlike offset cutoff ↔ (isOldPath cutoff d.path = true ↔
      (d.lastSecondUtc - offset) * nanosPerSecond < cutoff) := by
  rw [isOldPath_path, decide_eq_true_eq, KeptAlike, nanosPerSecond]
  split_ifs with hminus
  · constructor
    · intro hcutoff
      exact iff_of_false (fun h => h.1 hminus) (not_lt.mpr hcutoff)
    · intro h
      exact not_lt.mp fun hlt => (h.mpr hlt).1 hminus
  · rw [and_iff_right hminus]
    omega

/-- Nothing else is asked of the clocks in UTC than that no folder of the last day before the epoch
is old. -/
theorem DateName.keptAlike_zero {cutoff : ℤ} {d : DateName}
    (h : d.lastSecondUtc = -1 → cutoff ≤ -nanosPerSecond) : d.KeptAlike 0 cutoff := by
  rw [KeptAlike, Int.sub_zero, min_self, max_self]
  split_ifs with hminus
  · rw [hminus, Int.neg_one_mul]
    exact h hminus
  · exact fun hbetween => absurd hbetween.1 (not_lt.mpr hbetween.2)

/-- **When the folders are kept for their full period.** In a zone whose clocks are `offset` seconds
ahead of UTC, exactly the folders whose local date has ended before the cutoff are deleted, if and
only if the cutoff tells the end of none of their dates in UTC from its end in the zone. -/
theorem cleanupOldFrameDirs_exact_iff (now retentionDays offset : ℤ) (t : FrameTree) :
    (∀ d : DateName, d.path ∈ dayDirs t.root → ∀ last,
      IsGreatest {s | LocalDate offset s d.year d.month d.day} last →
      (d.path ∉ dayDirs (cleanupOldFrameDirs now retentionDays t.root).2 ↔
        last * nanosPerSecond < cutoffTime now retentionDays)) ↔
      ∀ d : DateName, d.path ∈ dayDirs t.root → IsCivil d.year d.month d.day →
        d.KeptAlike offset (cutoffTime now retentionDays) := by
  have hremoved : ∀ d : DateName, d.path ∈ dayDirs t.root →
      (d.path ∉ dayDirs (cleanupOldFrameDirs now retentionDays t.root).2 ↔
        isOldPath (cutoffTime now retentionDays) d.path = true) := by
    intro d hd
    rw [mem_dayDirs_cleanupOldFrameDirs, and_iff_right hd, Bool.not_eq_false]
  constructor
  · intro hexact d hd hcivil
    rw [DateName.keptAlike_iff, ← hremoved d hd]
    exact hexact d hd _ (isGreatest_localDate hcivil offset)
  · intro halike d hd last hlast
    have hcivil := hlast.1.civil
    have hend : last = d.lastSecondUtc - offset := hlast.unique (isGreatest_localDate hcivil offset)
    rw [hend, hremoved d hd, ← DateName.keptAlike_iff]
    exact halike d hd hcivil

/-- **A folder is deleted early.** The clocks are five hours behind UTC, and the date of the folder
has ended less than seven days ago by one second. -/
theorem not_cleanupOldFrameDirs_exact :
    ¬∀ (now retentionDays offset : ℤ) (t : FrameTree) (d : DateName), d.path ∈ dayDirs t.root →
      ∀ last, IsGreatest {s | LocalDate offset s d.year d.month d.day} last →
        (d.path ∉ dayDirs (cleanupOldFrameDirs now retentionDays t.root).2 ↔
          last * nanosPerSecond < cutoffTime now retentionDays) := by
  intro h
  let d : DateName := ⟨2024, 3, 10, by decide, by decide, by decide⟩
  have hcivil : IsCivil d.year d.month d.day := ⟨by decide, by decide⟩
  have hcutoff : cutoffTime 1710737998000000000 7 = 1710133198000000000 := by decide
  have hiff := h 1710737998000000000 7 (-18000) (.single d [] List.nodup_nil) d
    (List.mem_singleton.mpr rfl) _ (isGreatest_localDate hcivil (-18000))
  have hlast : timegm (d.year - 1900) (d.month - 1) d.day 23 59 59 = 1710115199 := by decide
  rw [mem_dayDirs_cleanupOldFrameDirs, DateName.isOldPath_path, DateName.lastSecondUtc, hlast,
    hcutoff] at hiff
  refine absurd (hiff.mp ?_) (by decide)
  rintro ⟨-, hkept⟩
  exact absurd hkept (by decide)

end DetectBase
