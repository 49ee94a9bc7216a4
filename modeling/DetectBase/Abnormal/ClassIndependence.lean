import DetectBase.Abnormal.Checker
import Mathlib.Data.List.Infix

/-!
# Checks and the objects of other classes

A check is about one class. The loops skip the objects of other classes, so what such objects could
change is the histories, through `ReleaseInactiveHistory`: it looks for tracks by number alone,
while each class numbers its own tracks. A history that would be forgotten is kept alive by an
object of another class that happens to have its number, and the event that is reported from it
later would not have been without that object (`DetectBase.Abnormal.not_results_filter`).

That is all there is to it: as long as no object of another class keeps a history alive that no
object of the class keeps alive, the other classes can be left out of every call
(`DetectBase.Abnormal.results_filter`). The check for parking releases no histories, and meets the
condition whatever it is given.
-/

namespace DetectBase.Abnormal

variable {T : Type} {threshold : ℤ}

/-- The call without the objects of other classes. -/
def Call.filter (sch : Schedule) (c : Call) : Call := ⟨c.moment, c.inLayer.filter sch.isTarget⟩

/-- The history of a track that a release would not erase. -/
def HistoryChecker.IsAlive (h : HistoryChecker threshold T) (now : ℤ) (t : InferTrackID) : Prop :=
  ∃ entry, h.historyMap t = some entry ∧ elapsedMillisecs now entry.2 < threshold

/-- A release during a call of the schedule would keep the history of the track. -/
def Schedule.KeepsTrack (sch : Schedule) (s : ScheduleState sch) (now : ℤ) (t : InferTrackID) :
    Prop :=
  match sch.eventClass with
  | some .lineIntrusion | some .vehicleIntrusion => s.objectHistory.IsAlive now t
  | some .areaIntrusion => s.roiStateHistory.IsAlive now t
  | some .vehicleParking | none => False

/-- **No history is kept alive by another class alone**: when the schedule is active and an object
of another class has the track of a history that is not erased, so has an object of the class. -/
def Schedule.OwnTracks (sch : Schedule) (s : ScheduleState sch) (c : Call) : Prop :=
  sch.isActive c.moment = true → ∀ object ∈ c.inLayer, sch.isTarget object = false →
    sch.KeepsTrack s c.moment.steady object.trackId →
    ∃ object' ∈ c.inLayer, sch.isTarget object' = true ∧ object'.trackId = object.trackId

/-- A release without some objects, when the histories they keep alive are kept alive by others. -/
theorem releaseInactiveHistory_filter {h : HistoryChecker threshold T} {now : ℤ}
    {layer : DataLayer} {p : InferObject → Bool}
    (hkept : ∀ object ∈ layer, p object = false → h.IsAlive now object.trackId →
      ∃ object' ∈ layer, p object' = true ∧ object'.trackId = object.trackId) :
    h.releaseInactiveHistory now (layer.filter p) = h.releaseInactiveHistory now layer := by
  ext1
  funext t
  simp only [HistoryChecker.releaseInactiveHistory]
  cases hentry : h.historyMap t with
  | none => rfl
  | some entry =>
    change HistoryChecker.releaseEntry _ _ _ _ = HistoryChecker.releaseEntry _ _ _ _
    by_cases hage : elapsedMillisecs now entry.2 ≥ threshold
    · rw [HistoryChecker.releaseEntry, HistoryChecker.releaseEntry, if_pos hage, if_pos hage]
    · have hpresent : HistoryChecker.isPresent (layer.filter p) t =
          HistoryChecker.isPresent layer t := by
        rw [Bool.eq_iff_iff, HistoryChecker.isPresent_iff, HistoryChecker.isPresent_iff]
        constructor
        · rintro ⟨object, hmem, ht⟩
          exact ⟨object, List.mem_of_mem_filter hmem, ht⟩
        · rintro ⟨object, hmem, rfl⟩
          by_cases hp : p object = true
          · exact ⟨object, List.mem_filter.mpr ⟨hmem, hp⟩, rfl⟩
          · obtain ⟨object', hmem', hp', ht'⟩ := hkept object hmem (by simpa using hp)
              ⟨entry, hentry, by omega⟩
            exact ⟨object', List.mem_filter.mpr ⟨hmem', hp'⟩, ht'⟩
      rw [hpresent]

/-- The check of a line, without the objects of other classes. -/
theorem lineIntrusionBase_filter {sch : Schedule} {className : String} {m : Moment}
    {layer : DataLayer} {s : ScheduleState sch}
    (htarget : ∀ classEqualChecker, sch.classEqualChecker = some classEqualChecker →
      sch.isTarget = fun object => classEqualChecker object.classId className)
    (hkept : ∀ object ∈ layer, sch.isTarget object = false →
      s.objectHistory.IsAlive m.steady object.trackId →
      ∃ object' ∈ layer, sch.isTarget object' = true ∧ object'.trackId = object.trackId) :
    lineIntrusionBase sch className m (layer.filter sch.isTarget) s =
      lineIntrusionBase sch className m layer s := by
  simp only [lineIntrusionBase, lineLoop, releaseInactiveHistory_filter hkept]
  cases hchecker : sch.classEqualChecker with
  | none => rfl
  | some classEqualChecker =>
    rw [htarget classEqualChecker hchecker]
    simp only [foldl_visit_filter]

/-- **A call does the same without the objects of other classes**, when none of them keeps a history
alive alone. -/
theorem check_filter {sch : Schedule} {c : Call} {s : ScheduleState sch} (h : sch.OwnTracks s c) :
    sch.check (c.filter sch) s = sch.check c s := by
  rw [Schedule.check, Schedule.check]
  by_cases hactive : sch.isActive c.moment = true
  · have hkept := h hactive
    rw [if_pos hactive, Call.filter, if_pos hactive]
    simp only [Schedule.KeepsTrack] at hkept
    cases hevent : sch.eventClass with
    | none => rfl
    | some event =>
      rw [hevent] at hkept
      have htarget : ∀ classEqualChecker, sch.classEqualChecker = some classEqualChecker →
          sch.isTarget = fun object => classEqualChecker object.classId event.target := by
        intro classEqualChecker hchecker
        funext object
        rw [Schedule.isTarget, hchecker, hevent]
      cases event with
      | lineIntrusion => exact lineIntrusionBase_filter htarget hkept
      | vehicleIntrusion => exact lineIntrusionBase_filter htarget hkept
      | areaIntrusion =>
        simp only [intrusionZone, releaseInactiveHistory_filter hkept]
        cases hchecker : sch.classEqualChecker with
        | none => rfl
        | some classEqualChecker =>
          rw [htarget classEqualChecker hchecker]
          simp only [EventClass.target, foldl_visit_filter]
      | vehicleParking =>
        -- nothing is released, and the loop skips the other classes
        simp only [vehicleParking, parkingLoop]
        cases hchecker : sch.classEqualChecker with
        | none => rfl
        | some classEqualChecker =>
          rw [htarget classEqualChecker hchecker]
          simp only [EventClass.target, foldl_visit_filter]
  · rw [if_neg hactive, Call.filter, if_neg hactive]

/-- The two runs stay in the same state. -/
theorem after_filter {sch : Schedule} {constructed : ℤ} {calls : List Call}
    (h : ∀ c past, c :: past <:+ calls → sch.OwnTracks (sch.after constructed past) c) :
    sch.after constructed (calls.map (Call.filter sch)) = sch.after constructed calls := by
  induction calls with
  | nil => rfl
  | cons c past ih =>
    rw [List.map_cons, Schedule.after, Schedule.after,
      ih fun c' past' hsuffix => h c' past' (hsuffix.trans (List.suffix_cons c past)),
      check_filter (h c past (List.suffix_refl _))]

/-- **The results of a run do not depend on the objects of other classes**, when at every call of it
none of them keeps a history alive alone. -/
theorem results_filter (sch : Schedule) (constructed : ℤ) (calls : List Call)
    (h : ∀ c past, c :: past <:+ calls → sch.OwnTracks (sch.after constructed past) c) :
    sch.results constructed (calls.map (Call.filter sch)) = sch.results constructed calls := by
  induction calls with
  | nil => rfl
  | cons c past ih =>
    have hpast : ∀ c' past', c' :: past' <:+ past →
        sch.OwnTracks (sch.after constructed past') c' :=
      fun c' past' hsuffix => h c' past' (hsuffix.trans (List.suffix_cons c past))
    rw [List.map_cons, Schedule.results, Schedule.results, ih hpast, Schedule.resultAt,
      Schedule.resultAt, after_filter hpast, check_filter (h c past (List.suffix_refl _))]

/-- A person who goes into the area, followed by a car with the same number. -/
def carBeside : List Call :=
  [callAt 12 [objectAt 0 1 25 50], callAt 6 [objectAt 0 1 75 50, objectAt 2 1 75 50],
    callAt 0 [objectAt 0 1 75 50]]

theorem ownTracks_carBeside {c : Call} {past : List Call} (h : c :: past <:+ carBeside) :
    zoneSchedule.OwnTracks (zoneSchedule.after 0 past) c := by
  have hc : c ∈ carBeside := h.subset List.mem_cons_self
  have hperson : objectAt 0 1 75 50 ∈ (callAt 6 [objectAt 0 1 75 50, objectAt 2 1 75 50]).inLayer :=
    List.mem_cons_self
  intro _ object hobject hother _
  simp only [carBeside, List.mem_cons, List.not_mem_nil, or_false] at hc
  obtain rfl | rfl | rfl := hc
  · rw [List.mem_singleton.mp hobject] at hother
    exact absurd hother (by decide)
  · obtain rfl | hcar := List.mem_cons.mp hobject
    · exact absurd hother (by decide)
    · rw [List.mem_singleton.mp hcar]
      exact ⟨_, hperson, by decide, rfl⟩
  · rw [List.mem_singleton.mp hobject] at hother
    exact absurd hother (by decide)

/-- The person is reported with the car beside, and without. -/
theorem results_filter_carBeside :
    zoneSchedule.results 0 (carBeside.map (Call.filter zoneSchedule)) =
        zoneSchedule.results 0 carBeside ∧
      (zoneSchedule.results 0 carBeside).map List.length = [1, 0, 0] :=
  ⟨results_filter zoneSchedule 0 carBeside fun _ _ => ownTracks_carBeside, by decide +kernel⟩

/-- A person, seen outside and twelve seconds later inside the area, and a car with the same number
that is seen in between. -/
def carBetween : List Call :=
  [callAt 12 [objectAt 0 1 25 50], callAt 6 [objectAt 2 1 75 50], callAt 0 [objectAt 0 1 75 50]]

/-- **The car changes the results**: it keeps alive the memory of the person outside. -/
theorem not_results_filter :
    zoneSchedule.results 0 (carBetween.map (Call.filter zoneSchedule)) ≠
      zoneSchedule.results 0 carBetween := by
  decide +kernel

end DetectBase.Abnormal
