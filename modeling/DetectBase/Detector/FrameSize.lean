import Mathlib.Data.Int.Notation
import Mathlib.Data.List.Basic
import Mathlib.Data.List.Induction

/-!
# The stable size of the frames

The inference loop of a unit works on frames of one size, and a camera may change the size. A frame
of another size may also be a disturbance, so the loop keeps the size it considers stable, counts
the frames in a row that differ from it, and skips them until their number reaches a threshold. The
frame that reaches it sets the new size, and the trackers and the schedules are made anew.

The counter says how many of the frames before differ in a row from the stable size
(`DetectBase.InferenceLoop.count_eq`). It does not say that they are of one size: the size that is
taken over is that of the last of them (`DetectBase.InferenceLoop.stable_changes_iff`).
-/

namespace DetectBase

/-- `width` and `height` of a frame. -/
abbrev FrameSize := ℤ × ℤ

/-- `REINIT_THRESHOLD_COUNT`. -/
def reinitThresholdCount : ℕ := 10

/-- What one turn of the inference loop meets. -/
inductive LoopInput where
  /-- The queue gives no frame. -/
  | noFrame : LoopInput
  /-- A frame, with `IsLoadEngine()` and whether the camera is excluded. -/
  | frame (size : FrameSize) (engineLoaded excluded : Bool) : LoopInput
deriving DecidableEq

/-- What becomes of a turn. -/
inductive LoopOutcome where
  /-- `continue`, before the size is looked at. -/
  | notChecked : LoopOutcome
  /-- `continue`, because of the size. -/
  | noise : LoopOutcome
  /-- The frame passes, with `need_reset_schedule_n_tracker_cuz_resize`. -/
  | passes (reset : Bool) : LoopOutcome
deriving DecidableEq

/-- The members of a unit that the check of the size works on. -/
structure InferenceLoop where
  /-- `stable_frame_w_` and `stable_frame_h_`. -/
  stable : FrameSize
  /-- `consecutive_mismatch_count_`. -/
  consecutiveMismatchCount : ℕ
deriving DecidableEq

namespace InferenceLoop

/-- A stable size has been set: `stable_frame_w_` and `stable_frame_h_` are not zero. -/
def IsSet (s : InferenceLoop) : Prop := s.stable.1 ≠ 0 ∧ s.stable.2 ≠ 0
deriving Decidable

/-- The check of the size of a frame. -/
def checkSize (s : InferenceLoop) (size : FrameSize) : LoopOutcome × InferenceLoop :=
  let s := if s.IsSet then s else { s with stable := size }
  if size ≠ s.stable then
    let count := s.consecutiveMismatchCount + 1
    if count < reinitThresholdCount then (.noise, { s with consecutiveMismatchCount := count })
    else (.passes true, ⟨size, 0⟩)
  else (.passes false, { s with consecutiveMismatchCount := 0 })

/-- One turn of `InferenceThreadRunner`, up to the check of the size. -/
def turn (s : InferenceLoop) : LoopInput → LoopOutcome × InferenceLoop
  | .noFrame => (.notChecked, s)
  | .frame size engineLoaded excluded =>
    if engineLoaded = false then (.notChecked, s)
    else if excluded then (.notChecked, s)
    else s.checkSize size

/-- The beginning of `InferenceThreadRunner`. The stable size is that of an earlier thread, or
zero. -/
def start (stable : FrameSize) : InferenceLoop := ⟨stable, 0⟩

/-- After some turns. -/
def run (s : InferenceLoop) (inputs : List LoopInput) : InferenceLoop :=
  inputs.foldl (fun s input => (s.turn input).2) s

end InferenceLoop

/-- The size that is checked in a turn. -/
def LoopInput.checked? : LoopInput → Option FrameSize
  | .frame size true false => some size
  | _ => none

/-- The sizes that have been checked. -/
def checkedSizes (inputs : List LoopInput) : List FrameSize := inputs.filterMap LoopInput.checked?

/-- How many of the sizes at the end differ in a row from the given one. -/
def mismatchesAtEnd (stable : FrameSize) (sizes : List FrameSize) : ℕ :=
  (sizes.reverse.takeWhile (· ≠ stable)).length

theorem mismatchesAtEnd_concat (stable size : FrameSize) (sizes : List FrameSize) :
    mismatchesAtEnd stable (sizes ++ [size]) =
      if size ≠ stable then mismatchesAtEnd stable sizes + 1 else 0 := by
  rw [mismatchesAtEnd, List.reverse_append, List.reverse_singleton, List.singleton_append,
    List.takeWhile_cons]
  by_cases h : size = stable
  · rw [if_neg (by simp [h]), if_neg (not_not.mpr h)]
    rfl
  · rw [if_pos (by simp [h]), if_pos h]
    rfl

theorem le_length_takeWhile_iff {α : Type*} {p : α → Bool} {n : ℕ} {l : List α} :
    n ≤ (l.takeWhile p).length ↔ n ≤ l.length ∧ ∀ a ∈ l.take n, p a = true := by
  induction l generalizing n with
  | nil => simp
  | cons a l ih =>
    cases n with
    | zero => simp
    | succ n =>
      rw [List.take_succ_cons, List.forall_mem_cons, List.takeWhile_cons]
      cases hp : p a with
      | true =>
        rw [if_pos rfl, List.length_cons, List.length_cons, Nat.succ_le_succ_iff,
          Nat.succ_le_succ_iff, ih]
        simp
      | false => simp

/-- The last `n` sizes differ from the stable one. -/
theorem le_mismatchesAtEnd_iff {stable : FrameSize} {n : ℕ} {sizes : List FrameSize} :
    n ≤ mismatchesAtEnd stable sizes ↔
      ∃ older recent, sizes = older ++ recent ∧ recent.length = n ∧ ∀ size ∈ recent,
        size ≠ stable := by
  rw [mismatchesAtEnd, le_length_takeWhile_iff]
  constructor
  · rintro ⟨hlen, hall⟩
    rw [List.length_reverse] at hlen
    refine ⟨sizes.take (sizes.length - n), sizes.drop (sizes.length - n),
      (List.take_append_drop ..).symm, by rw [List.length_drop]; omega, fun size hsize => ?_⟩
    rw [List.take_reverse] at hall
    exact of_decide_eq_true (hall size (List.mem_reverse.mpr hsize))
  · rintro ⟨older, recent, rfl, rfl, hall⟩
    refine ⟨by rw [List.length_reverse, List.length_append]; omega, fun size hsize => ?_⟩
    rw [List.reverse_append, List.take_left' (List.length_reverse)] at hsize
    exact decide_eq_true (hall size (List.mem_reverse.mp hsize))

namespace InferenceLoop

/-! ### What a turn does -/

/-- **What a turn does with a size that is checked**: the size is the stable one, or becomes it
where none was set; or it is noise; or it is taken over. -/
theorem checkSize_cases (s : InferenceLoop) (size : FrameSize) :
    (size = s.stable ∧ s.checkSize size = (.passes false, ⟨size, 0⟩)) ∨
    (¬s.IsSet ∧ s.checkSize size = (.passes false, ⟨size, 0⟩)) ∨
    (s.IsSet ∧ size ≠ s.stable ∧ s.consecutiveMismatchCount + 1 < reinitThresholdCount ∧
      s.checkSize size = (.noise, ⟨s.stable, s.consecutiveMismatchCount + 1⟩)) ∨
    (s.IsSet ∧ size ≠ s.stable ∧ reinitThresholdCount ≤ s.consecutiveMismatchCount + 1 ∧
      s.checkSize size = (.passes true, ⟨size, 0⟩)) := by
  by_cases hset : s.IsSet
  · by_cases heq : size = s.stable
    · left
      refine ⟨heq, ?_⟩
      rw [checkSize, if_pos hset, if_neg (not_not.mpr heq), heq]
    · by_cases hlt : s.consecutiveMismatchCount + 1 < reinitThresholdCount
      · refine .inr (.inr (.inl ⟨hset, heq, hlt, ?_⟩))
        rw [checkSize, if_pos hset, if_pos heq, if_pos hlt]
      · refine .inr (.inr (.inr ⟨hset, heq, Nat.not_lt.mp hlt, ?_⟩))
        rw [checkSize, if_pos hset, if_pos heq, if_neg hlt]
  · refine .inr (.inl ⟨hset, ?_⟩)
    rw [checkSize, if_neg hset, if_neg (not_not.mpr rfl)]

/-- A turn is about the size that it checks. -/
theorem turn_eq (s : InferenceLoop) (input : LoopInput) :
    s.turn input = match input.checked? with
      | some size => s.checkSize size
      | none => (.notChecked, s) := by
  rcases input with - | ⟨size, - | -, - | -⟩ <;> rfl

theorem run_concat (s : InferenceLoop) (inputs : List LoopInput) (input : LoopInput) :
    s.run (inputs ++ [input]) = ((s.run inputs).turn input).2 := by
  rw [run, List.foldl_append]
  rfl

theorem checkedSizes_concat (inputs : List LoopInput) (input : LoopInput) :
    checkedSizes (inputs ++ [input]) = checkedSizes inputs ++ input.checked?.toList := by
  rw [checkedSizes, List.filterMap_append]
  cases h : input.checked? <;> simp [h, checkedSizes]

/-- **The invariant**: the counter says how many sizes at the end differ from the stable one. -/
theorem count_eq (stable : FrameSize) (inputs : List LoopInput) :
    ((start stable).run inputs).consecutiveMismatchCount =
      mismatchesAtEnd ((start stable).run inputs).stable (checkedSizes inputs) := by
  induction inputs using List.reverseRecOn with
  | nil => rfl
  | append_singleton inputs input ih =>
    rw [run_concat, turn_eq, checkedSizes_concat]
    cases input.checked? with
    | none =>
      rw [Option.toList_none, List.append_nil]
      exact ih
    | some size =>
      rw [Option.toList_some]
      dsimp only
      rcases ((start stable).run inputs).checkSize_cases size with ⟨-, hcheck⟩ | ⟨-, hcheck⟩ |
        ⟨-, hne, -, hcheck⟩ | ⟨-, -, -, hcheck⟩
      · rw [hcheck, mismatchesAtEnd_concat, if_neg (not_not.mpr rfl)]
      · rw [hcheck, mismatchesAtEnd_concat, if_neg (not_not.mpr rfl)]
      · rw [hcheck, mismatchesAtEnd_concat, if_pos hne, ih]
      · rw [hcheck, mismatchesAtEnd_concat, if_neg (not_not.mpr rfl)]

section Change

variable (stable : FrameSize) (inputs : List LoopInput)

/-- The threshold is reached by a frame if the nine before it that were checked differ from the
stable size. -/
theorem threshold_reached_iff :
    reinitThresholdCount ≤ ((start stable).run inputs).consecutiveMismatchCount + 1 ↔
      ∃ older recent, checkedSizes inputs = older ++ recent ∧
        recent.length = reinitThresholdCount - 1 ∧
        ∀ other ∈ recent, other ≠ ((start stable).run inputs).stable := by
  rw [count_eq, ← le_mismatchesAtEnd_iff, reinitThresholdCount]
  omega

/-- **The stable size.** Whatever frames a thread has met, with whatever size it has begun, a
frame that passes the check has the stable size of that moment. Once a size is set, a frame changes
it to another one if and only if it has that other size, and it and the nine frames before it that
were checked all differ from the stable size; the trackers and the schedules are made anew exactly
then. As long as no size is set, each frame that is checked sets it. -/
theorem stable_changes_iff (input : LoopInput) :
    (∀ reset, (((start stable).run inputs).turn input).1 = .passes reset →
      input.checked? = some (((start stable).run inputs).turn input).2.stable) ∧
    (((start stable).run inputs).IsSet → ∀ size, size ≠ ((start stable).run inputs).stable →
      ((((start stable).run inputs).turn input).2.stable = size ↔ input.checked? = some size ∧
        ∃ older recent, checkedSizes inputs = older ++ recent ∧
          recent.length = reinitThresholdCount - 1 ∧
          ∀ other ∈ recent, other ≠ ((start stable).run inputs).stable)) ∧
    (((start stable).run inputs).IsSet →
      ((((start stable).run inputs).turn input).1 = .passes true ↔
        (((start stable).run inputs).turn input).2.stable ≠ ((start stable).run inputs).stable)) ∧
    (¬((start stable).run inputs).IsSet → ∀ size, input.checked? = some size →
      (((start stable).run inputs).turn input).2.stable = size) := by
  have hthreshold := threshold_reached_iff stable inputs
  rw [turn_eq]
  generalize (start stable).run inputs = s at hthreshold ⊢
  cases input.checked? with
  | none =>
    refine ⟨by rintro _ ⟨⟩, fun _ size hne => ⟨fun h => absurd h.symm hne, by rintro ⟨⟨⟩, -⟩⟩,
      fun _ => ⟨by rintro ⟨⟩, fun h => absurd rfl h⟩, by rintro _ _ ⟨⟩⟩
  | some size =>
    dsimp only
    rcases s.checkSize_cases size with ⟨heq, hcheck⟩ | ⟨hset, hcheck⟩ |
      ⟨hset, hne, hlt, hcheck⟩ | ⟨hset, hne, hle, hcheck⟩
    · rw [hcheck]
      refine ⟨fun _ _ => rfl, fun _ size' hne => ⟨fun h => absurd (h.symm.trans heq) hne, ?_⟩,
        fun _ => ⟨by rintro ⟨⟩, fun h => absurd heq h⟩, fun _ _ h => Option.some.inj h⟩
      rintro ⟨h, -⟩
      exact Option.some.inj h
    · rw [hcheck]
      exact ⟨fun _ _ => rfl, fun h => absurd h hset, fun h => absurd h hset,
        fun _ _ h => Option.some.inj h⟩
    · rw [hcheck]
      refine ⟨by rintro _ ⟨⟩, fun _ size' hne' => ⟨fun h => absurd h.symm hne', ?_⟩,
        fun _ => ⟨by rintro ⟨⟩, fun h => absurd rfl h⟩, fun h => absurd hset h⟩
      rintro ⟨-, hreached⟩
      exact absurd (hthreshold.mpr hreached) (Nat.not_le.mpr hlt)
    · rw [hcheck]
      refine ⟨fun _ _ => rfl, fun _ size' _ => ⟨?_, fun h => Option.some.inj h.1⟩,
        fun _ => ⟨fun _ => hne, fun _ => rfl⟩, fun h => absurd hset h⟩
      rintro rfl
      exact ⟨rfl, hthreshold.mp hle⟩

end Change

/-- Nine frames of one size and one of another: the size of the last one is taken over. -/
theorem not_stable_changes_iff_same_size :
    ¬∀ (stable : FrameSize) (inputs : List LoopInput) (size : FrameSize),
      ((start stable).run inputs).IsSet → size ≠ ((start stable).run inputs).stable →
      ((((start stable).run inputs).turn (.frame size true false)).2.stable = size ↔
        ∃ older recent, checkedSizes inputs = older ++ recent ∧
          recent.length = reinitThresholdCount - 1 ∧ ∀ other ∈ recent, other = size) := by
  intro hall
  have hiff := hall (1920, 1080) (List.replicate 9 (.frame (640, 480) true false)) (1280, 720)
    (by decide) (by decide)
  obtain ⟨older, recent, hsizes, hlen, hsame⟩ := hiff.mp (by decide)
  have hmem : ((640, 480) : FrameSize) ∈ recent := by
    have hrep : older ++ recent = List.replicate 9 ((640, 480) : FrameSize) := hsizes.symm
    obtain ⟨-, -, hrecent⟩ := List.append_eq_replicate_iff.mp hrep
    rw [hrecent, hlen]
    decide
  exact absurd (hsame _ hmem) (by decide)

end InferenceLoop

end DetectBase
