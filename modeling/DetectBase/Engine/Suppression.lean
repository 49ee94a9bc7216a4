import DetectBase.Engine.Quantisation
import DetectBase.Foundations.Greedy
import DetectBase.Foundations.StdSort
import Mathlib.Data.List.Dedup
import Mathlib.Data.List.GetD
import Mathlib.Data.List.Pairwise
import Mathlib.Data.List.ReduceOption
import Mathlib.Data.List.Sort
import Mathlib.Data.Set.List

/-!
# Non-maximum suppression

The rest of `PostProcessImplRKNN`, in exact arithmetic: the candidates of the outputs are sorted by
their scores, and in each class a candidate strikes out the later ones that it overlaps too much.
The sort is `std::sort`, of which nothing more is known than that the scores go down
(`DetectBase.Rknn.ConfidenceSort`).

The code works on an array of indices in which a struck entry becomes `-1`, and the scores are
sorted apart from the boxes and the classes. What comes out is the greedy selection from the sorted
candidates (`DetectBase.Rknn.emit_eq_greedy`), and everything else follows from that.
-/

namespace DetectBase.Rknn

/-! ### The overlap of two boxes -/

/-- **`CalculateOverlap`**. A box is one pixel wider and one pixel higher than its sides are
apart. -/
def calculateOverlap (xmin0 ymin0 xmax0 ymax0 xmin1 ymin1 xmax1 ymax1 : ℚ) : ℚ :=
  let w := max 0 (min xmax0 xmax1 - max xmin0 xmin1 + 1)
  let h := max 0 (min ymax0 ymax1 - max ymin0 ymin1 + 1)
  let i := w * h
  let u := (xmax0 - xmin0 + 1) * (ymax0 - ymin0 + 1) +
    (xmax1 - xmin1 + 1) * (ymax1 - ymin1 + 1) - i
  if u ≤ 0 then 0 else i / u

/-- An entry of `outputLocations`, of which there are four for each candidate. -/
def location (outputLocations : List ℚ) (n k : ℕ) : ℚ := outputLocations.getD (n * 4 + k) 0

/-- The overlap of two candidates, as `nms` computes it. -/
def overlapAt (outputLocations : List ℚ) (n m : ℕ) : ℚ :=
  let xmin0 := location outputLocations n 0
  let ymin0 := location outputLocations n 1
  let xmax0 := location outputLocations n 0 + location outputLocations n 2
  let ymax0 := location outputLocations n 1 + location outputLocations n 3
  let xmin1 := location outputLocations m 0
  let ymin1 := location outputLocations m 1
  let xmax1 := location outputLocations m 0 + location outputLocations m 2
  let ymax1 := location outputLocations m 1 + location outputLocations m 3
  calculateOverlap xmin0 ymin0 xmax0 ymax0 xmin1 ymin1 xmax1 ymax1

/-! ### The loops -/

section Loops

variable (outputLocations : List ℚ) (classIds : List ℤ) (filterId : ℤ) (threshold : ℚ)

/-- The body of the inner loop of `nms`, for the candidate `n`. The entry `-1` is `none`. -/
def strikeAt (n : ℕ) (order : List (Option ℕ)) (j : ℕ) : List (Option ℕ) :=
  match order.getD j none with
  | none => order
  | some m =>
    if classIds.getD m 0 ≠ filterId then order
    else if overlapAt outputLocations n m > threshold then order.set j none
    else order

/-- The body of the outer loop of `nms`. -/
def nmsStep (validCount : ℕ) (order : List (Option ℕ)) (i : ℕ) : List (Option ℕ) :=
  match order.getD i none with
  | none => order
  | some n =>
    if classIds.getD n 0 ≠ filterId then order
    else (List.range' (i + 1) (validCount - (i + 1))).foldl
      (strikeAt outputLocations classIds filterId threshold n) order

/-- **`nms`**: what it makes of `order`. -/
def nms (validCount : ℕ) (order : List (Option ℕ)) : List (Option ℕ) :=
  (List.range validCount).foldl
    (nmsStep outputLocations classIds filterId threshold validCount) order

end Loops

/-- `std::sort` of pairs with `a.first > b.first`. -/
abbrev ConfidenceSort := StdSort fun a b : ℚ × ℕ => a.1 > b.1

/-- **`sort_by_confidence_desc`** for the whole of the two arrays. -/
def sortByConfidenceDesc (S : ConfidenceSort) (input : List ℚ) (indices : List ℕ) :
    List ℚ × List ℕ :=
  -- `left >= right`
  if input.length ≤ 1 then (input, indices)
  else
    let pairs := S.sort (input.zip indices)
    (pairs.map (·.1), pairs.map (·.2))

/-- `YOLOV5_RKNN::Detection`, in exact arithmetic. -/
structure Detection where
  /-- `bbox[0]`. -/
  x : ℚ
  /-- `bbox[1]`. -/
  y : ℚ
  /-- `bbox[2]`. -/
  w : ℚ
  /-- `bbox[3]`. -/
  h : ℚ
  /-- `conf`. -/
  conf : ℚ
  /-- `class_id`. -/
  classId : ℤ
deriving DecidableEq

/-- `class_set`, in the order in which it is gone through. -/
def classSet (classId : List ℤ) : List ℤ := classId.dedup.insertionSort (· ≤ ·)

/-- `result`, the detection of the candidate `n`. -/
def resultAt (filterBoxes : List ℚ) (classId : List ℤ) (n : ℕ) (conf : ℚ) : Detection :=
  ⟨location filterBoxes n 0, location filterBoxes n 1, location filterBoxes n 2,
    location filterBoxes n 3, conf, classId.getD n 0⟩

/-- The part of `PostProcessImplRKNN` after the candidates have been found, on the three arrays. -/
def emitArrays (S : ConfidenceSort) (nmsThreshold : ℚ) (filterBoxes objProbs : List ℚ)
    (classId : List ℤ) (validCount : ℕ) : List Detection :=
  if validCount = 0 then []
  else
    let (probs, indexArray) := sortByConfidenceDesc S objProbs (List.range validCount)
    let order := (classSet classId).foldl
      (fun order c => nms filterBoxes classId c nmsThreshold validCount order)
      (indexArray.map some)
    (order.zip probs).filterMap fun entry =>
      entry.1.map fun n => resultAt filterBoxes classId n entry.2

/-- The four numbers of a candidate in `boxes`. -/
def Candidate.box (c : Candidate) : List ℚ := [c.x, c.y, c.w, c.h]

/-- The candidates in the three arrays, and what `PostProcessImplRKNN` makes of them. -/
def emit (S : ConfidenceSort) (nmsThreshold : ℚ) (cs : List Candidate) : List Detection :=
  emitArrays S nmsThreshold (cs.flatMap (·.box)) (cs.map (·.objProb)) (cs.map (·.classId))
    cs.length

/-! ### The outputs of the network -/

/-- `anchor_0`. -/
def anchor0 : List ℤ := [10, 13, 16, 30, 33, 23]

/-- `anchor_1`. -/
def anchor1 : List ℤ := [30, 61, 62, 45, 59, 119]

/-- `anchor_2`. -/
def anchor2 : List ℤ := [116, 90, 156, 198, 373, 326]

/-- What `PostProcessImplRKNN` reads. -/
structure PostProcessInput where
  /-- `input_0`. -/
  input0 : ℕ → Int8
  /-- `input_1`. -/
  input1 : ℕ → Int8
  /-- `input_2`, or nothing for a null pointer. -/
  input2 : Option (ℕ → Int8)
  /-- `model_in_h`. -/
  modelInH : ℕ
  /-- `model_in_w`. -/
  modelInW : ℕ
  /-- `qnt_zps`. -/
  qntZps : ℕ → ℤ
  /-- `qnt_scales`. -/
  qntScales : ℕ → ℚ
  /-- `output_index_num_`. -/
  outputIndexNum : ℕ
  /-- `class_num_`. -/
  classNum : ℕ
  /-- `confidence_threshold_`. -/
  confidenceThreshold : ℚ

namespace PostProcessInput

/-- The output with the number `k`, at its stride and with its anchors. -/
def head (p : PostProcessInput) (k stride : ℕ) (anchor : List ℤ) (input : ℕ → Int8) :
    OutputHead where
  input := input
  anchor n := anchor.getD n 0
  gridH := p.modelInH / stride
  gridW := p.modelInW / stride
  stride := stride
  zp := p.qntZps k
  scale := p.qntScales k

/-- What the calls of `rknn_process_impl` find. -/
def candidates (p : PostProcessInput) : List Candidate :=
  let find (o : OutputHead) := o.rknnProcessImpl p.confidenceThreshold p.classNum
  find (p.head 0 8 anchor0 p.input0) ++ find (p.head 1 16 anchor1 p.input1) ++
    match p.input2 with
    | some input2 => if p.outputIndexNum = 3 then find (p.head 2 32 anchor2 input2) else []
    | none => []

/-- **`PostProcessImplRKNN`**: what it adds to `results`. -/
def postProcessImplRKNN (S : ConfidenceSort) (nmsThreshold : ℚ) (p : PostProcessInput) :
    List Detection :=
  emit S nmsThreshold p.candidates

end PostProcessInput

/-! ### The arrays as candidates -/

/-- The detection of a candidate. -/
def Candidate.detection (c : Candidate) : Detection := ⟨c.x, c.y, c.w, c.h, c.objProb, c.classId⟩

/-- The overlap of two candidates. -/
def Candidate.overlap (c d : Candidate) : ℚ :=
  calculateOverlap c.x c.y (c.x + c.w) (c.y + c.h) d.x d.y (d.x + d.w) (d.y + d.h)

/-- A candidate strikes out another one. -/
def Candidate.Suppresses (threshold : ℚ) (c d : Candidate) : Prop :=
  c.classId = d.classId ∧ threshold < c.overlap d
deriving Decidable

theorem calculateOverlap_comm (xmin0 ymin0 xmax0 ymax0 xmin1 ymin1 xmax1 ymax1 : ℚ) :
    calculateOverlap xmin0 ymin0 xmax0 ymax0 xmin1 ymin1 xmax1 ymax1 =
      calculateOverlap xmin1 ymin1 xmax1 ymax1 xmin0 ymin0 xmax0 ymax0 := by
  simp only [calculateOverlap, min_comm xmax0, min_comm ymax0, max_comm xmin0, max_comm ymin0,
    add_comm ((xmax0 - xmin0 + 1) * (ymax0 - ymin0 + 1))]

theorem Candidate.overlap_comm (c d : Candidate) : c.overlap d = d.overlap c :=
  calculateOverlap_comm ..

/-- The entries of `boxes` for a candidate. -/
theorem location_flatMap {cs : List Candidate} {n : ℕ} {c : Candidate} (h : cs[n]? = some c)
    {k : ℕ} (hk : k < 4) : location (cs.flatMap (·.box)) n k = c.box.getD k 0 := by
  induction cs generalizing n with
  | nil => cases h
  | cons d cs ih =>
    rw [location, List.flatMap_cons]
    cases n with
    | zero =>
      obtain rfl : d = c := Option.some.inj h
      rw [Nat.zero_mul, Nat.zero_add, List.getD_append _ _ _ _ hk]
    | succ n =>
      rw [← ih h, location, List.getD_append_right _ _ _ _ (by simp [Candidate.box]; omega)]
      congr 1
      simp only [Candidate.box, List.length_cons, List.length_nil]
      omega

/-- What `nms` computes is the overlap of the candidates. -/
theorem overlapAt_flatMap {cs : List Candidate} {n m : ℕ} {c d : Candidate}
    (hn : cs[n]? = some c) (hm : cs[m]? = some d) :
    overlapAt (cs.flatMap (·.box)) n m = c.overlap d := by
  simp only [overlapAt, location_flatMap hn (by decide : 0 < 4),
    location_flatMap hn (by decide : 1 < 4), location_flatMap hn (by decide : 2 < 4),
    location_flatMap hn (by decide : 3 < 4), location_flatMap hm (by decide : 0 < 4),
    location_flatMap hm (by decide : 1 < 4), location_flatMap hm (by decide : 2 < 4),
    location_flatMap hm (by decide : 3 < 4)]
  rfl

/-! ### What the loops strike out -/

/-- Entries have been struck out, and the others are where they were. -/
def Struck (order order' : List (Option ℕ)) : Prop :=
  List.Forall₂ (fun o o' => o' = o ∨ o' = none) order order'

theorem Struck.refl (order : List (Option ℕ)) : Struck order order :=
  List.forall₂_same.mpr fun _ _ => .inl rfl

theorem Struck.trans {o₁ o₂ o₃ : List (Option ℕ)} (h₁ : Struck o₁ o₂) (h₂ : Struck o₂ o₃) :
    Struck o₁ o₃ := by
  induction h₁ generalizing o₃ with
  | nil => exact h₂
  | cons h _ ih =>
    rcases h₂ with - | ⟨h', h₂⟩
    refine List.Forall₂.cons ?_ (ih h₂)
    rcases h' with rfl | rfl
    · exact h
    · exact .inr rfl

theorem Struck.length_eq {order order' : List (Option ℕ)} (h : Struck order order') :
    order'.length = order.length := (List.Forall₂.length_eq h).symm

theorem struck_set (order : List (Option ℕ)) (j : ℕ) : Struck order (order.set j none) := by
  induction order generalizing j with
  | nil => exact List.Forall₂.nil
  | cons o order ih =>
    cases j with
    | zero => exact List.Forall₂.cons (.inr rfl) (Struck.refl order)
    | succ j => exact List.Forall₂.cons (.inl rfl) (ih j)

/-- What strikes out in each step strikes out in a loop. -/
theorem struck_foldl {ι : Type*} {f : List (Option ℕ) → ι → List (Option ℕ)}
    (hf : ∀ order i, Struck order (f order i)) (l : List ι) (order : List (Option ℕ)) :
    Struck order (l.foldl f order) := by
  induction l generalizing order with
  | nil => exact Struck.refl order
  | cons i l ih => exact (hf order i).trans (ih (f order i))

section Loops

variable (outputLocations : List ℚ) (classIds : List ℤ) (filterId : ℤ) (threshold : ℚ)

theorem struck_strikeAt (n : ℕ) (order : List (Option ℕ)) (j : ℕ) :
    Struck order (strikeAt outputLocations classIds filterId threshold n order j) := by
  unfold strikeAt
  split
  · exact Struck.refl order
  · split_ifs
    · exact Struck.refl order
    · exact struck_set order j
    · exact Struck.refl order

theorem struck_nmsStep (validCount : ℕ) (order : List (Option ℕ)) (i : ℕ) :
    Struck order (nmsStep outputLocations classIds filterId threshold validCount order i) := by
  unfold nmsStep
  split
  · exact Struck.refl order
  · split_ifs
    · exact Struck.refl order
    · exact struck_foldl (struck_strikeAt outputLocations classIds filterId threshold _) _ order

theorem struck_nms (validCount : ℕ) (order : List (Option ℕ)) :
    Struck order (nms outputLocations classIds filterId threshold validCount order) :=
  struck_foldl (struck_nmsStep outputLocations classIds filterId threshold validCount) _ order

/-- The candidate `n` strikes out `m` when the class `filterId` is gone through. -/
def StrikesIn (n m : ℕ) : Prop :=
  classIds.getD n 0 = filterId ∧ classIds.getD m 0 = filterId ∧
    overlapAt outputLocations n m > threshold
deriving Decidable

/-- One entry of the inner loop. -/
theorem strikeAt_append {n : ℕ} (hn : classIds.getD n 0 = filterId) (pre rest : List (Option ℕ))
    (e : Option ℕ) :
    strikeAt outputLocations classIds filterId threshold n (pre ++ e :: rest) pre.length =
      pre ++ e.filter (fun m => ¬StrikesIn outputLocations classIds filterId threshold n m) ::
        rest := by
  have hget : (pre ++ e :: rest).getD pre.length none = e := by
    rw [List.getD_append_right _ _ _ _ le_rfl, Nat.sub_self, List.getD_cons_zero]
  rw [strikeAt, hget]
  cases e with
  | none => rfl
  | some m =>
    dsimp only
    by_cases hstrikes : StrikesIn outputLocations classIds filterId threshold n m
    · rw [if_neg (not_not.mpr hstrikes.2.1), if_pos hstrikes.2.2, Option.filter_some,
        if_neg (by simp [hstrikes]), List.set_append_right _ _ le_rfl, Nat.sub_self,
        List.set_cons_zero]
    · rw [Option.filter_some_pos (by simp [hstrikes])]
      split_ifs with hclass hover
      · rfl
      · exact absurd ⟨hn, not_not.mp hclass, hover⟩ hstrikes
      · rfl

/-- The inner loop, behind the entry of a candidate of the class. -/
theorem foldl_strikeAt {n : ℕ} (hn : classIds.getD n 0 = filterId) (rest pre : List (Option ℕ)) :
    (List.range' pre.length rest.length).foldl
        (strikeAt outputLocations classIds filterId threshold n) (pre ++ rest) =
      pre ++ rest.map fun e =>
        e.filter fun m => ¬StrikesIn outputLocations classIds filterId threshold n m := by
  induction rest generalizing pre with
  | nil => rw [List.append_nil, List.map_nil, List.append_nil]; rfl
  | cons e rest ih =>
    have happend : ∀ e' : Option ℕ, pre ++ e' :: rest = (pre ++ [e']) ++ rest := fun e' => by simp
    have hlen : ∀ e' : Option ℕ, pre.length + 1 = (pre ++ [e']).length := fun e' => by simp
    rw [List.length_cons, List.range'_succ, List.foldl_cons,
      strikeAt_append outputLocations classIds filterId threshold hn, happend,
      hlen (e.filter fun m => ¬StrikesIn outputLocations classIds filterId threshold n m), ih,
      List.map_cons, List.append_assoc]
    rfl

/-- What is left behind the entry of a candidate. -/
theorem reduceOption_map_filter (p : ℕ → Bool) (rest : List (Option ℕ)) :
    (rest.map fun e => e.filter p).reduceOption = rest.reduceOption.filter p := by
  induction rest with
  | nil => rfl
  | cons e rest ih =>
    cases e with
    | none => exact ih
    | some m =>
      rw [List.map_cons, List.reduceOption_cons_of_some, Option.filter_some]
      cases hm : p m with
      | true =>
        rw [if_pos rfl, List.reduceOption_cons_of_some, List.filter_cons_of_pos hm, ih]
      | false =>
        rw [if_neg (by simp), List.reduceOption_cons_of_none,
          List.filter_cons_of_neg (by simp [hm]), ih]

/-- **The outer loop** from an entry on. What is in front of it stays, and what is left behind it is
the greedy selection. -/
theorem reduceOption_foldl_nmsStep (rest pre : List (Option ℕ)) :
    ((List.range' pre.length rest.length).foldl (nmsStep outputLocations classIds filterId threshold
        (pre.length + rest.length)) (pre ++ rest)).reduceOption =
      pre.reduceOption ++
        greedy (StrikesIn outputLocations classIds filterId threshold) rest.reduceOption := by
  induction hlen : rest.length generalizing pre rest with
  | zero =>
    obtain rfl := List.length_eq_zero_iff.mp hlen
    simp
  | succ k ih =>
    obtain ⟨e, rest, rfl⟩ := List.exists_cons_of_length_eq_add_one hlen
    have hk : rest.length = k := Nat.succ.inj hlen
    -- the entry, and what it makes of those behind it
    obtain ⟨rest', hrest', hstep, hleft⟩ : ∃ rest' : List (Option ℕ), rest'.length = k ∧
        nmsStep outputLocations classIds filterId threshold (pre.length + (k + 1))
          (pre ++ e :: rest) pre.length = (pre ++ [e]) ++ rest' ∧
        [e].reduceOption ++
            greedy (StrikesIn outputLocations classIds filterId threshold) rest'.reduceOption =
          greedy (StrikesIn outputLocations classIds filterId threshold)
            (e :: rest).reduceOption := by
      have hget : (pre ++ e :: rest).getD pre.length none = e := by
        rw [List.getD_append_right _ _ _ _ le_rfl, Nat.sub_self, List.getD_cons_zero]
      have hself : pre ++ e :: rest = (pre ++ [e]) ++ rest := by simp
      rw [nmsStep, hget]
      cases e with
      | none => exact ⟨rest, hk, hself, rfl⟩
      | some n =>
        dsimp only
        split_ifs with hclass
        · refine ⟨rest, hk, hself, ?_⟩
          have hnone : ∀ m, ¬StrikesIn outputLocations classIds filterId threshold n m :=
            fun m h => hclass h.1
          rw [List.reduceOption_cons_of_some n rest, greedy_cons, strike_eq_self hnone]
          rfl
        · refine ⟨rest.map fun e => e.filter fun m =>
            ¬StrikesIn outputLocations classIds filterId threshold n m, by simp [hk], ?_, ?_⟩
          · have hrange : pre.length + (k + 1) - (pre.length + 1) = rest.length := by omega
            have hfrom : pre.length + 1 = (pre ++ [some n]).length := by simp
            rw [hrange, hfrom, hself]
            exact foldl_strikeAt outputLocations classIds filterId threshold
              (not_not.mp hclass) rest (pre ++ [some n])
          · rw [List.reduceOption_cons_of_some n rest, greedy_cons, reduceOption_map_filter]
            rfl
    have hfrom : pre.length + 1 = (pre ++ [e]).length := by simp
    have hcount : pre.length + (k + 1) = (pre ++ [e]).length + k := by simp; omega
    rw [List.range'_succ, List.foldl_cons, hstep, hcount, hfrom, ih rest' (pre ++ [e]) hrest',
      List.reduceOption_append, List.append_assoc, hleft]

/-- **What `nms` leaves** is the greedy selection in the class. -/
theorem reduceOption_nms (order : List (Option ℕ)) :
    (nms outputLocations classIds filterId threshold order.length order).reduceOption =
      greedy (StrikesIn outputLocations classIds filterId threshold) order.reduceOption := by
  have h := reduceOption_foldl_nmsStep outputLocations classIds filterId threshold order []
  rw [List.length_nil, Nat.zero_add, List.nil_append, List.reduceOption_nil,
    List.nil_append] at h
  rw [nms, List.range_eq_range']
  exact h

/-- The candidate `n` strikes out `m` when the given classes are gone through. -/
def StrikesAmong (classes : List ℤ) (n m : ℕ) : Prop :=
  classIds.getD n 0 ∈ classes ∧ classIds.getD m 0 = classIds.getD n 0 ∧
    overlapAt outputLocations n m > threshold
deriving Decidable

variable {classIds} in
/-- **The loop over the classes**: what it leaves is one greedy selection. -/
theorem reduceOption_foldl_nms {classes : List ℤ} (hnodup : classes.Nodup)
    {order : List (Option ℕ)} {validCount : ℕ} (hlen : order.length = validCount) :
    (classes.foldl (fun order c => nms outputLocations classIds c threshold validCount order)
        order).reduceOption =
      greedy (StrikesAmong outputLocations classIds threshold classes) order.reduceOption := by
  induction classes generalizing order with
  | nil =>
    rw [List.foldl_nil, greedy_of_forall_not]
    rintro n m ⟨hmem, -⟩
    exact List.not_mem_nil hmem
  | cons c classes ih =>
    obtain ⟨hc, hnodup⟩ := List.nodup_cons.mp hnodup
    have hstruck := struck_nms outputLocations classIds c threshold validCount order
    rw [List.foldl_cons, ih hnodup (hstruck.length_eq.trans hlen), ← hlen, reduceOption_nms]
    refine greedy_greedy (p := fun n => classIds.getD n 0 = c) (fun n m => ?_) ?_ ?_ _
    · rw [StrikesAmong, StrikesAmong, StrikesIn, List.mem_cons]
      constructor
      · rintro ⟨rfl | hmem, hclass, hover⟩
        · exact .inl ⟨rfl, hclass, hover⟩
        · exact .inr ⟨hmem, hclass, hover⟩
      · rintro (⟨rfl, hclass, hover⟩ | ⟨hmem, hclass, hover⟩)
        · exact ⟨.inl rfl, hclass, hover⟩
        · exact ⟨.inr hmem, hclass, hover⟩
    · rintro n m ⟨hn, hm, -⟩
      exact ⟨hn, hm⟩
    · rintro n m ⟨hn, hm, -⟩
      have hne : classIds.getD n 0 ≠ c := fun h => hc (h ▸ hn)
      exact ⟨hne, hm ▸ hne⟩

theorem struck_foldl_nms (classes : List ℤ) (validCount : ℕ) (order : List (Option ℕ)) :
    Struck order
      (classes.foldl (fun order c => nms outputLocations classIds c threshold validCount order)
        order) :=
  struck_foldl (fun order c => struck_nms outputLocations classIds c threshold validCount order)
    classes order

end Loops

/-- The entries that have not been struck out still stand beside their scores. -/
theorem filterMap_zip_of_struck {β : Type*} (f : ℕ → ℚ → β) (score : ℕ → ℚ) {indices : List ℕ}
    {order : List (Option ℕ)} (h : Struck (indices.map some) order) :
    ((order.zip (indices.map score)).filterMap fun entry => entry.1.map fun n => f n entry.2) =
      order.reduceOption.map fun n => f n (score n) := by
  induction indices generalizing order with
  | nil =>
    rcases h with - | _
    rfl
  | cons n indices ih =>
    rcases h with - | ⟨h, hrest⟩
    rcases h with rfl | rfl
    · rw [List.reduceOption_cons_of_some, List.map_cons, List.map_cons, List.zip_cons_cons,
        ← ih hrest]
      rfl
    · rw [List.reduceOption_cons_of_none, List.map_cons, List.zip_cons_cons, ← ih hrest]
      rfl

/-! ### The order of the candidates -/

/-- **The sort** of the indices by the scores: an order of the candidates in which the scores go
down. -/
theorem exists_sorted (S : ConfidenceSort) (cs : List Candidate) :
    ∃ l : List (Fin cs.length), l.Perm (List.finRange cs.length) ∧
      l.Pairwise (fun i j => (cs.get j).objProb ≤ (cs.get i).objProb) ∧
      sortByConfidenceDesc S (cs.map (·.objProb)) (List.range cs.length) =
        (l.map fun i => (cs.get i).objProb, l.map fun i => i.val) := by
  have hobjProbs : cs.map (·.objProb) = (List.finRange cs.length).map fun i =>
      (cs.get i).objProb := by
    conv_lhs => rw [← List.map_get_finRange cs, List.map_map]
    rfl
  have hrange : List.range cs.length = (List.finRange cs.length).map fun i => i.val :=
    (List.map_coe_finRange_eq_range ..).symm
  rw [sortByConfidenceDesc]
  split_ifs with hone
  · refine ⟨List.finRange cs.length, .refl _, ?_, by rw [hobjProbs, hrange]⟩
    have hlen : (List.finRange cs.length).length ≤ 1 := by
      rwa [List.length_finRange, ← List.length_map]
    rcases hfin : List.finRange cs.length with - | ⟨i, - | ⟨j, l⟩⟩
    · exact List.Pairwise.nil
    · exact List.pairwise_singleton ..
    · rw [hfin, List.length_cons, List.length_cons] at hlen
      omega
  · have hinj : Function.Injective fun i : Fin cs.length => ((cs.get i).objProb, i.val) :=
      fun i j h => Fin.ext (Prod.ext_iff.mp h).2
    have hzip : (cs.map (·.objProb)).zip (List.range cs.length) =
        (List.finRange cs.length).map fun i => ((cs.get i).objProb, i.val) := by
      rw [hobjProbs, hrange, List.zip_map']
    -- what is sorted are the images of the indices
    have hperm := S.perm ((cs.map (·.objProb)).zip (List.range cs.length))
    obtain ⟨l, hl⟩ : ∃ l : List (Fin cs.length), l.map (fun i => ((cs.get i).objProb, i.val)) =
        S.sort ((cs.map (·.objProb)).zip (List.range cs.length)) := by
      rw [← Set.mem_range, Set.range_list_map]
      intro pair hpair
      have hmem := hperm.subset hpair
      rw [hzip] at hmem
      obtain ⟨i, -, rfl⟩ := List.mem_map.mp hmem
      exact Set.mem_range_self i
    have hsorted := (S.sorted ((cs.map (·.objProb)).zip (List.range cs.length))).imp not_lt.mp
    rw [← hl] at hperm hsorted
    rw [hzip] at hperm
    refine ⟨l, (List.map_perm_map_iff hinj).mp hperm, List.pairwise_map.mp hsorted, ?_⟩
    dsimp only
    rw [← hl, List.map_map, List.map_map]
    rfl

/-- The candidates in the order in which the sort leaves them. -/
def sortedCandidates (S : ConfidenceSort) (cs : List Candidate) : List Candidate :=
  (sortByConfidenceDesc S (cs.map (·.objProb)) (List.range cs.length)).2.filterMap (cs[·]?)

theorem mem_classSet {classId : List ℤ} {c : ℤ} : c ∈ classSet classId ↔ c ∈ classId := by
  rw [classSet, List.mem_insertionSort, List.mem_dedup]

theorem nodup_classSet (classId : List ℤ) : (classSet classId).Nodup :=
  ((List.perm_insertionSort _ _).nodup_iff).mpr (List.nodup_dedup classId)

/-- What is in the arrays for a candidate. -/
theorem getElem?_get (cs : List Candidate) (i : Fin cs.length) : cs[i.val]? = some (cs.get i) :=
  List.getElem?_eq_getElem i.isLt

/-- The scores of the candidates, from `objProbs`. -/
theorem getD_objProbs (cs : List Candidate) (i : Fin cs.length) :
    (cs.map (·.objProb)).getD i.val 0 = (cs.get i).objProb := by
  rw [List.getD_eq_getElem?_getD, List.getElem?_map, getElem?_get cs i]
  rfl

/-- The classes of the candidates, from `classId`. -/
theorem getD_classIds (cs : List Candidate) (i : Fin cs.length) :
    (cs.map (·.classId)).getD i.val 0 = (cs.get i).classId := by
  rw [List.getD_eq_getElem?_getD, List.getElem?_map, getElem?_get cs i]
  rfl

theorem resultAt_get (cs : List Candidate) (i : Fin cs.length) :
    resultAt (cs.flatMap (·.box)) (cs.map (·.classId)) i.val
      ((cs.map (·.objProb)).getD i.val 0) = (cs.get i).detection := by
  have hget := getElem?_get cs i
  rw [resultAt, location_flatMap hget (by decide), location_flatMap hget (by decide),
    location_flatMap hget (by decide), location_flatMap hget (by decide), getD_objProbs,
    getD_classIds]
  rfl

/-- A candidate strikes out another one in the loop over the classes of the candidates. -/
theorem strikesAmong_get (cs : List Candidate) (nmsThreshold : ℚ) (i j : Fin cs.length) :
    StrikesAmong (cs.flatMap (·.box)) (cs.map (·.classId)) nmsThreshold
        (classSet (cs.map (·.classId))) i.val j.val ↔
      (cs.get i).Suppresses nmsThreshold (cs.get j) := by
  rw [StrikesAmong, getD_classIds, getD_classIds,
    overlapAt_flatMap (getElem?_get cs i) (getElem?_get cs j), mem_classSet]
  constructor
  · rintro ⟨-, hclass, hover⟩
    exact ⟨hclass.symm, hover⟩
  · rintro ⟨hclass, hover⟩
    exact ⟨List.mem_map_of_mem (cs.get_mem i), hclass.symm, hover⟩

theorem reduceOption_map_some (l : List ℕ) : (l.map some).reduceOption = l := by
  induction l with
  | nil => rfl
  | cons n l ih => rw [List.map_cons, List.reduceOption_cons_of_some, ih]

/-- **What is emitted, by the indices**: the greedy selection from the sorted candidates. -/
theorem emit_eq_of_sorted (S : ConfidenceSort) (nmsThreshold : ℚ) {cs : List Candidate}
    {l : List (Fin cs.length)} (hperm : l.Perm (List.finRange cs.length))
    (hsort : sortByConfidenceDesc S (cs.map (·.objProb)) (List.range cs.length) =
      (l.map fun i => (cs.get i).objProb, l.map fun i => i.val)) :
    emit S nmsThreshold cs =
      (greedy (fun i j => (cs.get i).Suppresses nmsThreshold (cs.get j)) l).map
        fun i => (cs.get i).detection := by
  have hlen : l.length = cs.length := by rw [hperm.length_eq, List.length_finRange]
  have hprobs : (l.map fun i => (cs.get i).objProb) =
      (l.map fun i => i.val).map fun n => (cs.map (·.objProb)).getD n 0 := by
    rw [List.map_map]
    exact List.map_congr_left fun i _ => (getD_objProbs cs i).symm
  rw [emit, emitArrays]
  split_ifs with hzero
  · rw [List.length_eq_zero_iff.mp (hlen.trans hzero), greedy_nil, List.map_nil]
  · rw [hsort]
    dsimp only
    rw [hprobs, filterMap_zip_of_struck (resultAt _ _) _ (struck_foldl_nms ..),
      reduceOption_foldl_nms _ _ (nodup_classSet _)
        (by rw [List.length_map, List.length_map, hlen]),
      reduceOption_map_some, greedy_map _ _ fun i _ j _ => strikesAmong_get cs nmsThreshold i j,
      List.map_map]
    exact List.map_congr_left fun i _ => resultAt_get cs i

/-- **What is emitted**: the greedy selection from the sorted candidates. -/
theorem emit_eq_greedy (S : ConfidenceSort) (nmsThreshold : ℚ) (cs : List Candidate) :
    emit S nmsThreshold cs =
      (greedy (Candidate.Suppresses nmsThreshold) (sortedCandidates S cs)).map
        Candidate.detection := by
  obtain ⟨l, hperm, -, hsort⟩ := exists_sorted S cs
  have hsorted : sortedCandidates S cs = l.map fun i => cs.get i := by
    rw [sortedCandidates, hsort, List.filterMap_map, ← List.filterMap_eq_map]
    exact List.filterMap_congr fun i _ => getElem?_get cs i
  rw [emit_eq_of_sorted S nmsThreshold hperm hsort, hsorted,
    greedy_map (R := fun i j => (cs.get i).Suppresses nmsThreshold (cs.get j)) _ _
      fun i _ j _ => Iff.rfl, List.map_map]
  rfl

theorem map_get_perm {cs : List Candidate} {l : List (Fin cs.length)}
    (hperm : l.Perm (List.finRange cs.length)) : (l.map fun i => cs.get i).Perm cs := by
  have hmap := hperm.map cs.get
  rwa [List.map_get_finRange] at hmap

/-- The sort keeps the candidates, and the scores go down. -/
theorem sortedCandidates_spec (S : ConfidenceSort) (cs : List Candidate) :
    (sortedCandidates S cs).Perm cs ∧
      (sortedCandidates S cs).Pairwise fun c d => d.objProb ≤ c.objProb := by
  obtain ⟨l, hperm, hsorted, hsort⟩ := exists_sorted S cs
  have heq : sortedCandidates S cs = l.map fun i => cs.get i := by
    rw [sortedCandidates, hsort, List.filterMap_map, ← List.filterMap_eq_map]
    exact List.filterMap_congr fun i _ => getElem?_get cs i
  rw [heq]
  exact ⟨map_get_perm hperm, List.pairwise_map.mpr hsorted⟩

/-- **The classes do not matter to each other**: what is emitted of a class is selected from its
sorted candidates. -/
theorem filter_emit (S : ConfidenceSort) (nmsThreshold : ℚ) (cs : List Candidate) (c : ℤ) :
    (emit S nmsThreshold cs).filter (fun d => d.classId = c) =
      (greedy (Candidate.Suppresses nmsThreshold)
        ((sortedCandidates S cs).filter fun d => d.classId = c)).map Candidate.detection := by
  rw [emit_eq_greedy, List.filter_map, ← filter_greedy]
  · rfl
  · rintro d e ⟨hclass, -⟩
    rw [hclass]

/-- Candidates of different scores are sorted in one way only. -/
theorem filter_sortedCandidates_congr {S S' : ConfidenceSort} {cs cs' : List Candidate}
    {p : Candidate → Bool} (hperm : (cs.filter p).Perm (cs'.filter p))
    (hscores : ((cs.filter p).map (·.objProb)).Nodup) :
    (sortedCandidates S cs).filter p = (sortedCandidates S' cs').filter p := by
  obtain ⟨hmem, hsorted⟩ := sortedCandidates_spec S cs
  obtain ⟨hmem', hsorted'⟩ := sortedCandidates_spec S' cs'
  have hall : ((sortedCandidates S cs).filter p).Perm (cs.filter p) := hmem.filter p
  have hall' : ((sortedCandidates S' cs').filter p).Perm (cs.filter p) :=
    (hmem'.filter p).trans hperm.symm
  refine List.Perm.eq_of_pairwise (fun a b ha hb hab hba => ?_) (hsorted.filter p)
    (hsorted'.filter p) (hall.trans hall'.symm)
  exact List.inj_on_of_nodup_map hscores (hall.subset ha) (hall'.subset hb) (le_antisymm hba hab)

/-- Two candidates of one class that are left overlap by the threshold at most, whichever of them
comes first. -/
theorem overlap_le_of_mem_greedy (nmsThreshold : ℚ) {cs : List Candidate}
    (l : List (Fin cs.length)) {i j : Fin cs.length}
    (hi : i ∈ greedy (fun i j => (cs.get i).Suppresses nmsThreshold (cs.get j)) l)
    (hj : j ∈ greedy (fun i j => (cs.get i).Suppresses nmsThreshold (cs.get j)) l) (hne : i ≠ j)
    (hclass : (cs.get i).classId = (cs.get j).classId) :
    (cs.get i).overlap (cs.get j) ≤ nmsThreshold := by
  have hsymm : Std.Symm fun i j => ¬(cs.get i).Suppresses nmsThreshold (cs.get j) := by
    refine ⟨fun i j h => ?_⟩
    rintro ⟨hclass, hover⟩
    exact h ⟨hclass.symm, by rwa [Candidate.overlap_comm]⟩
  by_contra hover
  exact (pairwise_greedy l).forall hi hj hne ⟨hclass, not_le.mp hover⟩

/-- **Non-maximum suppression.** What is emitted are candidates, none of them twice, with their own
scores and classes, and the scores go down. Two of them of one class overlap by the threshold at
most. A candidate that is not emitted overlaps one that is by more, and this one is of the same
class and has no smaller score. What is emitted of a class depends on nothing but the order in which
the sort leaves the candidates of that class, and if their scores differ, on nothing but these
candidates. -/
theorem emit_spec (S : ConfidenceSort) (nmsThreshold : ℚ) (cs : List Candidate) :
    (∃ kept : List (Fin cs.length), kept.Nodup ∧
      emit S nmsThreshold cs = kept.map (fun i => (cs.get i).detection) ∧
      (kept.Pairwise fun i j => (cs.get j).objProb ≤ (cs.get i).objProb) ∧
      (∀ i ∈ kept, ∀ j ∈ kept, i ≠ j → (cs.get i).classId = (cs.get j).classId →
        (cs.get i).overlap (cs.get j) ≤ nmsThreshold) ∧
      ∀ j, j ∉ kept → ∃ i ∈ kept, (cs.get i).classId = (cs.get j).classId ∧
        (cs.get j).objProb ≤ (cs.get i).objProb ∧
        nmsThreshold < (cs.get i).overlap (cs.get j)) ∧
    (∀ (S' : ConfidenceSort) (cs' : List Candidate) (c : ℤ),
      (sortedCandidates S cs).filter (fun d => d.classId = c) =
        (sortedCandidates S' cs').filter (fun d => d.classId = c) →
      (emit S nmsThreshold cs).filter (fun d => d.classId = c) =
        (emit S' nmsThreshold cs').filter fun d => d.classId = c) ∧
    ∀ (S' : ConfidenceSort) (cs' : List Candidate) (c : ℤ),
      (cs.filter fun d => d.classId = c).Perm (cs'.filter fun d => d.classId = c) →
      ((cs.filter fun d => d.classId = c).map (·.objProb)).Nodup →
      (emit S nmsThreshold cs).filter (fun d => d.classId = c) =
        (emit S' nmsThreshold cs').filter fun d => d.classId = c := by
  refine ⟨?_, fun S' cs' c h => ?_, fun S' cs' c hperm hscores => ?_⟩
  · obtain ⟨l, hperm, hsorted, hsort⟩ := exists_sorted S cs
    have hnodup : l.Nodup := hperm.nodup_iff.mpr (List.nodup_finRange _)
    have hsub := greedy_sublist
      (fun i j : Fin cs.length => (cs.get i).Suppresses nmsThreshold (cs.get j)) l
    refine ⟨_, hnodup.sublist hsub, emit_eq_of_sorted S nmsThreshold hperm hsort,
      hsorted.sublist hsub, fun i hi j hj hne hclass => ?_, fun j hj => ?_⟩
    · exact overlap_le_of_mem_greedy nmsThreshold l hi hj hne hclass
    · obtain ⟨i, hi, ⟨hclass, hover⟩, hscore⟩ :=
        exists_of_notMem_greedy hsorted (hperm.mem_iff.mpr (List.mem_finRange j)) hj
      exact ⟨i, hi, hclass, hscore, hover⟩
  · rw [filter_emit, filter_emit, h]
  · rw [filter_emit, filter_emit, filter_sortedCandidates_congr hperm hscores]

/-- A sort by insertion, of the reversed pairs if their number is odd. It is made up to be small:
the order in which it leaves equal scores depends on how many pairs there are, which nothing that is
said of `std::sort` rules out. -/
def byLength : ConfidenceSort where
  sort pairs := (if pairs.length % 2 = 0 then pairs else pairs.reverse).insertionSort
    fun a b => b.1 ≤ a.1
  perm pairs := by
    refine (List.perm_insertionSort _ _).trans ?_
    split_ifs
    · exact List.Perm.refl pairs
    · exact List.reverse_perm pairs
  sorted pairs :=
    have : Std.Total fun a b : ℚ × ℕ => b.1 ≤ a.1 := ⟨fun a b => le_total b.1 a.1⟩
    have : IsTrans (ℚ × ℕ) fun a b => b.1 ≤ a.1 := ⟨fun _ _ _ h h' => le_trans h' h⟩
    (List.pairwise_insertionSort _ _).imp fun h => not_lt.mpr h

/-- Of two boxes with the same score that overlap too much, another one is emitted when a candidate
of another class is there. -/
theorem emit_depends_on_other_classes :
    ¬∀ (S : ConfidenceSort) (nmsThreshold : ℚ) (cs cs' : List Candidate) (c : ℤ),
      cs.filter (fun d => d.classId = c) = cs'.filter (fun d => d.classId = c) →
      (emit S nmsThreshold cs).filter (fun d => d.classId = c) =
        (emit S nmsThreshold cs').filter fun d => d.classId = c := by
  intro hall
  have heq := hall byLength (1 / 2) [⟨0, 0, 9, 9, 1 / 2, 0⟩, ⟨1, 0, 9, 9, 1 / 2, 0⟩]
    [⟨0, 0, 9, 9, 1 / 2, 0⟩, ⟨1, 0, 9, 9, 1 / 2, 0⟩, ⟨50, 50, 9, 9, 1 / 2, 1⟩] 0
    (by decide +kernel)
  exact absurd heq (by decide +kernel)

end DetectBase.Rknn
