import DetectBase.Detector.EventThread
import DetectBase.Foundations.FixedWidth

/-!
# The folders of the saved frames

`MakeImageSavePath` saves the frames of a day in a folder of their own, three levels below the root:
the year, the month and the day, as texts of a fixed width. Two functions delete what is old, and
both of them know nothing about a folder but its name.

The paths of the folders are in the order of the days they are named for
(`DetectBase.DateName.path_lt`), since they are compared name by name.
-/

namespace DetectBase

open Abnormal (padTwo)

/-! ### Names -/

/-- The numbers that `MakeImageSavePath` makes a folder of. -/
structure DateName where
  /-- `n_year`. -/
  year : ℕ
  /-- `n_month`. -/
  month : ℕ
  /-- `n_day`. -/
  day : ℕ
  /-- The year fits four digits. -/
  year_lt : year < 10 ^ 4
  /-- The month fits two. -/
  month_lt : month < 10 ^ 2
  /-- The day fits two. -/
  day_lt : day < 10 ^ 2
deriving DecidableEq

/-- The path of a folder below the root, name by name. -/
abbrev FolderPath := List String

namespace DateName

/-- `%04d/%02d/%02d`. -/
def path (d : DateName) : FolderPath :=
  [zeroPadded 4 d.year, zeroPadded 2 d.month, zeroPadded 2 d.day]

/-- The date comes before another one. -/
def Before (d e : DateName) : Prop :=
  d.year < e.year ∨ d.year = e.year ∧ (d.month < e.month ∨ d.month = e.month ∧ d.day < e.day)
deriving Decidable

theorem before_or_eq_or_before (d e : DateName) : d.Before e ∨ d = e ∨ e.Before d := by
  rcases d with ⟨y, m, n, -, -, -⟩
  rcases e with ⟨y', m', n', -, -, -⟩
  simp only [Before, DateName.mk.injEq]
  omega

end DateName

theorem toList_zeroPadded {w n : ℕ} (hw : 0 < w) (h : n < 10 ^ w) :
    (zeroPadded w n).toList = fixedDigits w n := by
  have hsign : ¬((n : ℤ) < 0) := by omega
  rw [← replicate_append_toDigits hw h]
  simp [zeroPadded, hsign, Nat.toString_eq_repr, ← Nat.toList_repr, String.length_toList]

/-- The texts of two numbers are in the order of the numbers. -/
theorem zeroPadded_lt {w a b : ℕ} (hw : 0 < w) (hab : a < b) (hb : b < 10 ^ w) :
    zeroPadded w a < zeroPadded w b := by
  rw [String.lt_iff_toList_lt, toList_zeroPadded hw (Nat.lt_trans hab hb), toList_zeroPadded hw hb]
  exact fixedDigits_lt hab hb

/-- **The order of the paths is the order of the days.** -/
theorem DateName.path_lt {d e : DateName} (h : d.Before e) : d.path < e.path := by
  rcases h with hyear | ⟨hyear, hmonth | ⟨hmonth, hday⟩⟩
  · exact List.Lex.rel (zeroPadded_lt (by decide) hyear e.year_lt)
  · rw [path, path, hyear]
    exact List.Lex.cons (List.Lex.rel (zeroPadded_lt (by decide) hmonth e.month_lt))
  · rw [path, path, hyear, hmonth]
    exact List.Lex.cons (List.Lex.cons (List.Lex.rel (zeroPadded_lt (by decide) hday e.day_lt)))

theorem DateName.before_of_path_lt {d e : DateName} (h : d.path < e.path) : d.Before e := by
  rcases d.before_or_eq_or_before e with hbefore | rfl | hbefore
  · exact hbefore
  · exact absurd h (lt_irrefl _)
  · exact absurd (h.trans (path_lt hbefore)) (lt_irrefl _)

theorem padTwo_eq_zeroPadded {n : ℕ} (h : n < 100) : padTwo n = zeroPadded 2 n := by
  interval_cases n <;> rfl

/-- **Where `MakeImageSavePath` saves a frame**: in the folder of its date. -/
theorem imagePath_eq (t : EventThread) (c : CycleInput) {d : DateName}
    (hyear : d.year = c.time.tmYear + 1900) (hmonth : d.month = c.time.tmMon + 1)
    (hday : d.day = c.time.tmMday) :
    t.imagePath c = "/frame" ++ "/" ++ "/".intercalate d.path ++ "/" ++ zeroPadded 4 t.id ++ "_" ++
      c.time.clock "" ++ "_" ++ c.uuid 0 ++ ".jpg" := by
  have hpath : "/".intercalate d.path = zeroPadded 4 d.year ++ "/" ++ zeroPadded 2 d.month ++ "/" ++
      zeroPadded 2 d.day := rfl
  have hmonthText : padTwo (c.time.tmMon + 1) = zeroPadded 2 d.month := by
    rw [← hmonth]
    exact padTwo_eq_zeroPadded d.month_lt
  have hdayText : padTwo c.time.tmMday = zeroPadded 2 d.day := by
    rw [← hday]
    exact padTwo_eq_zeroPadded d.day_lt
  have hyearNumber : (c.time.tmYear : ℤ) + 1900 = d.year := by
    rw [hyear]
    rfl
  unfold EventThread.imagePath
  simp only [hpath, hmonthText, hdayText, hyearNumber, String.append_assoc]

/-! ### Folders -/

/-- What is in the folder of a day. -/
structure FrameFile where
  /-- The file name. -/
  name : String
  /-- `is_regular_file`. -/
  isRegular : Bool
  /-- `last_write_time`. -/
  lastWriteTime : ℤ
deriving DecidableEq

/-- The folder of a day. -/
structure DayFolder where
  /-- The name. -/
  name : String
  /-- What is in it. -/
  files : List FrameFile
deriving DecidableEq

/-- The folder of a month. -/
structure MonthFolder where
  /-- The name. -/
  name : String
  /-- The folders in it. -/
  days : List DayFolder
  /-- What else is in it. -/
  others : List String
deriving DecidableEq

/-- The folder of a year. -/
structure YearFolder where
  /-- The name. -/
  name : String
  /-- The folders in it. -/
  months : List MonthFolder
  /-- What else is in it. -/
  others : List String
deriving DecidableEq

/-- `fs::is_empty`. -/
def MonthFolder.isEmpty (mo : MonthFolder) : Bool := mo.days.isEmpty && mo.others.isEmpty

/-- `fs::is_empty`. -/
def YearFolder.isEmpty (yr : YearFolder) : Bool := yr.months.isEmpty && yr.others.isEmpty

/-- The path of the folder of a day. -/
def dayPath (yr : YearFolder) (mo : MonthFolder) (dy : DayFolder) : FolderPath :=
  [yr.name, mo.name, dy.name]

/-- The folders of the days below the root, with what is in them, in the order in which they are
gone through. -/
def dayFolders (root : List YearFolder) : List (FolderPath × List FrameFile) :=
  root.flatMap fun yr => yr.months.flatMap fun mo => mo.days.map fun dy =>
    (dayPath yr mo dy, dy.files)

/-- `day_dirs`, before it is sorted. -/
def dayDirs (root : List YearFolder) : List FolderPath := (dayFolders root).map (·.1)

/-- **The folders of the frames**, as `MakeImageSavePath` makes them. -/
structure FrameTree where
  /-- What is below the root. -/
  root : List YearFolder
  /-- No two folders have the same path. -/
  nodup : (dayDirs root).Nodup
  /-- The names are those of dates. -/
  named : ∀ p ∈ dayDirs root, ∃ d : DateName, p = d.path
  /-- No two files of a folder have the same name. -/
  nodup_files : ∀ d ∈ dayFolders root, (d.2.map (·.name)).Nodup

/-- The folder of one date. -/
def FrameTree.single (d : DateName) (files : List FrameFile)
    (hnodup : (files.map (·.name)).Nodup) : FrameTree where
  root := [⟨zeroPadded 4 d.year,
    [⟨zeroPadded 2 d.month, [⟨zeroPadded 2 d.day, files⟩], []⟩], []⟩]
  nodup := List.nodup_singleton _
  named _ hp := ⟨d, List.mem_singleton.mp hp⟩
  nodup_files _ hd := (List.mem_singleton.mp hd) ▸ hnodup

/-! ### Changes -/

/-- Something is done to the folders of the days. -/
def mapDays (f : YearFolder → MonthFolder → List DayFolder → List DayFolder)
    (root : List YearFolder) : List YearFolder :=
  root.map fun yr => { yr with months := yr.months.map fun mo =>
    { mo with days := f yr mo mo.days } }

/-- The loops that remove the folders of months and years with nothing in them. -/
def removeEmpty (root : List YearFolder) : List YearFolder :=
  (root.map fun yr => { yr with months := yr.months.filter fun mo => !mo.isEmpty }).filter
    fun yr => !yr.isEmpty

theorem dayFolders_mapDays (f : YearFolder → MonthFolder → List DayFolder → List DayFolder)
    (root : List YearFolder) :
    dayFolders (mapDays f root) = root.flatMap fun yr => yr.months.flatMap fun mo =>
      (f yr mo mo.days).map fun dy => (dayPath yr mo dy, dy.files) := by
  rw [dayFolders, mapDays, List.flatMap_map]
  refine List.flatMap_congr fun yr _ => ?_
  rw [List.flatMap_map]
  rfl

/-- Members with nothing in them may be left out. -/
theorem flatMap_filter_of_eq_nil {α β : Type*} {f : α → List β} {p : α → Bool} {l : List α}
    (h : ∀ a ∈ l, p a = false → f a = []) : (l.filter p).flatMap f = l.flatMap f := by
  induction l with
  | nil => rfl
  | cons a l ih =>
    obtain ⟨ha, hl⟩ := List.forall_mem_cons.mp h
    rw [List.flatMap_cons, ← ih hl]
    cases hp : p a with
    | true => rw [List.filter_cons_of_pos hp, List.flatMap_cons]
    | false => rw [List.filter_cons_of_neg (by simp [hp]), ha hp, List.nil_append]

@[simp] theorem dayFolders_removeEmpty (root : List YearFolder) :
    dayFolders (removeEmpty root) = dayFolders root := by
  rw [removeEmpty, dayFolders, flatMap_filter_of_eq_nil, List.flatMap_map, dayFolders]
  · refine List.flatMap_congr fun yr _ => flatMap_filter_of_eq_nil fun mo _ hempty => ?_
    rw [Bool.not_eq_false', MonthFolder.isEmpty, Bool.and_eq_true, List.isEmpty_iff] at hempty
    rw [hempty.1, List.map_nil]
  · intro yr _ hempty
    rw [Bool.not_eq_false', YearFolder.isEmpty, Bool.and_eq_true, List.isEmpty_iff] at hempty
    rw [hempty.1, List.flatMap_nil]

end DetectBase
