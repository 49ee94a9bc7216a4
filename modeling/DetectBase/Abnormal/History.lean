import DetectBase.Structure.InferObject
import Mathlib.Logic.Function.Basic

/-!
# Histories by track

`HistoryChecker.h`: what an event check has to remember about each track, with the time at which
the track was last known to be there. A history is forgotten in two ways that do not quite agree:
`ReleaseInactiveHistory` erases one of at least the threshold's age, and refreshes the others whose
track is present; `GetHistory` starts anew with one that is older than the threshold.

Times are readings of a clock in nanoseconds. The map is a function: it is only ever read and
written at a track, or walked in an order that does not matter.
-/

namespace DetectBase.Abnormal

/-- `DataLayer`. -/
abbrev DataLayer := List InferObject

/-- `duration_cast<milliseconds>` of the time from `since` to `now`. -/
def elapsedMillisecs (now since : ℤ) : ℤ := (now - since).tdiv (10 ^ 6)

theorem elapsedMillisecs_self (now : ℤ) : elapsedMillisecs now now = 0 := by
  rw [elapsedMillisecs, sub_self]
  rfl

theorem elapsedMillisecs_mono {now now' since : ℤ} (h : now ≤ now') :
    elapsedMillisecs now since ≤ elapsedMillisecs now' since :=
  Int.tdiv_le_tdiv (by decide) (by omega)

/-- A positive number of milliseconds has elapsed when it has in nanoseconds. -/
theorem le_elapsedMillisecs_iff {now since k : ℤ} (hk : 0 < k) :
    k ≤ elapsedMillisecs now since ↔ k * 10 ^ 6 ≤ now - since := by
  rw [elapsedMillisecs]
  rcases le_total 0 (now - since) with h | h
  · rw [Int.tdiv_eq_ediv_of_nonneg h]
    exact Int.le_ediv_iff_mul_le (by decide)
  · have hneg : (now - since).tdiv (10 ^ 6) ≤ 0 := by
      rw [← neg_sub since now, Int.neg_tdiv]
      exact neg_nonpos.mpr (Int.tdiv_nonneg (by omega) (by decide))
    omega

variable {T : Type} {threshold : ℤ}

/-- `HistoryChecker`. The constant `release_threshold_millisecs` is a parameter of the type. -/
@[ext] structure HistoryChecker (threshold : ℤ) (T : Type) where
  /-- `history_map`. -/
  historyMap : InferTrackID → Option (T × ℤ)

namespace HistoryChecker

/-- The constructor. -/
def init : HistoryChecker threshold T := ⟨fun _ => none⟩

/-- An assignment to the entry of a track. -/
def assign (h : HistoryChecker threshold T) (trackId : InferTrackID) (entry : T × ℤ) :
    HistoryChecker threshold T :=
  ⟨Function.update h.historyMap trackId (some entry)⟩

/-- **The entry that `GetHistory` leaves** at a track, given the one it finds there and the
value of `T {}`. -/
def entryFor (threshold : ℤ) (blank : T) (now : ℤ) : Option (T × ℤ) → T × ℤ
  | none => (blank, now)
  | some entry => if elapsedMillisecs now entry.2 > threshold then (blank, now) else entry

/-- `GetHistory`: the entry of a track, created or overridden where there is need. The reference
it returns is to the first component; what is written through it is for `assign`. -/
def getHistory (h : HistoryChecker threshold T) (blank : T) (now : ℤ) (trackId : InferTrackID) :
    T × ℤ :=
  entryFor threshold blank now (h.historyMap trackId)

/-- What one round of the loop of `ReleaseInactiveHistory` makes of an entry. -/
def releaseEntry (threshold now : ℤ) (isPresent : Bool) (entry : T × ℤ) : Option (T × ℤ) :=
  if elapsedMillisecs now entry.2 ≥ threshold then none
  else if isPresent then some (entry.1, now)
  else some entry

/-- The loop that looks for a track in a layer, by its number alone, whatever the class. -/
def isPresent (layer : DataLayer) (trackId : InferTrackID) : Bool :=
  layer.any fun checkObject => checkObject.trackId = trackId

/-- `ReleaseInactiveHistory`. -/
def releaseInactiveHistory (h : HistoryChecker threshold T) (now : ℤ)
    (checkTargetObjects : DataLayer) : HistoryChecker threshold T :=
  ⟨fun trackId => (h.historyMap trackId).bind
    (releaseEntry threshold now (isPresent checkTargetObjects trackId))⟩

@[simp]
theorem historyMap_assign_self (h : HistoryChecker threshold T) (t : InferTrackID) (e : T × ℤ) :
    (h.assign t e).historyMap t = some e :=
  Function.update_self ..

theorem historyMap_assign_of_ne (h : HistoryChecker threshold T) {t t' : InferTrackID}
    (hne : t' ≠ t) (e : T × ℤ) : (h.assign t e).historyMap t' = h.historyMap t' :=
  Function.update_of_ne hne ..

theorem isPresent_iff {layer : DataLayer} {t : InferTrackID} :
    isPresent layer t = true ↔ ∃ object ∈ layer, object.trackId = t := by
  simp [isPresent]

/-- An entry that has just been refreshed is not overridden. -/
theorem entryFor_refreshed {now : ℤ} {blank v : T} (hthr : 0 ≤ threshold) :
    entryFor threshold blank now (some (v, now)) = (v, now) := by
  rw [entryFor, if_neg]
  rw [elapsedMillisecs_self]
  omega

/-- An entry that `GetHistory` returns is not older than the threshold. -/
theorem elapsed_getHistory_le {h : HistoryChecker threshold T} {blank : T} {now : ℤ}
    {t : InferTrackID} (hthr : 0 ≤ threshold) :
    elapsedMillisecs now (h.getHistory blank now t).2 ≤ threshold := by
  rw [getHistory]
  cases h.historyMap t with
  | none =>
    rw [entryFor, elapsedMillisecs_self]
    exact hthr
  | some entry =>
    rw [entryFor]
    split_ifs with hage
    · rw [elapsedMillisecs_self]
      exact hthr
    · exact not_lt.mp hage

/-- An entry that is not older than the threshold is found again. -/
theorem getHistory_of_elapsed_le {h : HistoryChecker threshold T} {blank : T} {now : ℤ}
    {t : InferTrackID} {entry : T × ℤ} (hentry : h.historyMap t = some entry)
    (hage : elapsedMillisecs now entry.2 ≤ threshold) : h.getHistory blank now t = entry := by
  rw [getHistory, hentry, entryFor, if_neg (not_lt.mpr hage)]

/-- A later call finds the same history, or starts anew. -/
theorem getHistory_of_le {h : HistoryChecker threshold T} {blank : T} {now now' : ℤ}
    (hle : now ≤ now') (t : InferTrackID) :
    h.getHistory blank now' t = h.getHistory blank now t ∨
      (h.getHistory blank now' t).1 = blank := by
  rw [getHistory]
  cases hentry : h.historyMap t with
  | none => exact .inr rfl
  | some entry =>
    by_cases hage : elapsedMillisecs now' entry.2 > threshold
    · rw [entryFor, if_pos hage]
      exact .inr rfl
    · have hage' : elapsedMillisecs now entry.2 ≤ threshold :=
        le_trans (elapsedMillisecs_mono hle) (not_lt.mp hage)
      rw [entryFor, if_neg hage, getHistory_of_elapsed_le hentry hage']
      exact .inl rfl

end HistoryChecker

end DetectBase.Abnormal
