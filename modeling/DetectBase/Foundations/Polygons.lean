import DetectBase.Foundations.Segments
import Mathlib.Data.List.Rotate
import Mathlib.Data.Set.Finite.Lemmas

/-!
# Crossings of a ray with a polygon

A ray to the right meets the edges of a closed polygon, and the number of edges it meets is even or
odd. The edges are counted with one end left out, so that a ray through a vertex counts each side
once, and a horizontal edge is never counted (`DetectBase.MeetsRay`).

The number depends on the polygon alone, not on the vertex its list begins with nor on the direction
in which it goes around (`DetectBase.crossings_rotate`, `DetectBase.crossings_reverse`). Around a
polygon as many edges rise through a level as fall through it (`DetectBase.count_rises`); when the
polygon is strictly convex there is one of each at most, and the parity is that of a point inside or
outside (`DetectBase.StrictlyConvex.crossings_odd`, `DetectBase.StrictlyConvex.crossings_even`).
-/

namespace DetectBase

/-! ### Edges of a closed polygon -/

section Edges

variable {α : Type*} {p : List α}

/-- The edges of a polygon: each vertex with the next one, and the last with the first. -/
def cyclicEdges (p : List α) : List (α × α) := p.zip (p.rotate 1)

theorem map_fst_cyclicEdges (p : List α) : (cyclicEdges p).map Prod.fst = p :=
  List.map_fst_zip (by simp)

theorem map_snd_cyclicEdges (p : List α) : (cyclicEdges p).map Prod.snd = p.rotate 1 :=
  List.map_snd_zip (by simp)

theorem fst_mem {e : α × α} (he : e ∈ cyclicEdges p) : e.1 ∈ p := (List.of_mem_zip he).1

theorem snd_mem {e : α × α} (he : e ∈ cyclicEdges p) : e.2 ∈ p :=
  List.mem_rotate.mp (List.of_mem_zip he).2

/-- An edge leaves each vertex. -/
theorem exists_edge_from {r : α} (hr : r ∈ p) : ∃ e ∈ cyclicEdges p, e.1 = r := by
  rw [← map_fst_cyclicEdges p] at hr
  exact List.mem_map.mp hr

/-- An edge ends in each vertex. -/
theorem exists_edge_to {r : α} (hr : r ∈ p) : ∃ e ∈ cyclicEdges p, e.2 = r := by
  have hr' : r ∈ p.rotate 1 := List.mem_rotate.mpr hr
  rw [← map_snd_cyclicEdges p] at hr'
  exact List.mem_map.mp hr'

/-- Edges that end in the same vertex are the same, when no vertex occurs twice. -/
theorem eq_of_snd_eq (hp : p.Nodup) {e e' : α × α} (he : e ∈ cyclicEdges p)
    (he' : e' ∈ cyclicEdges p) (h : e.2 = e'.2) : e = e' := by
  have hnodup : ((cyclicEdges p).map Prod.snd).Nodup := by
    rw [map_snd_cyclicEdges]
    exact List.nodup_rotate.mpr hp
  exact List.inj_on_of_nodup_map hnodup he he' h

theorem nodup_cyclicEdges (hp : p.Nodup) : (cyclicEdges p).Nodup := by
  refine List.Nodup.of_map Prod.fst ?_
  rwa [map_fst_cyclicEdges]

theorem cyclicEdges_rotate (p : List α) (n : ℕ) :
    cyclicEdges (p.rotate n) = (cyclicEdges p).rotate n := by
  rw [cyclicEdges, List.rotate_rotate, Nat.add_comm, ← List.rotate_rotate]
  exact (List.zipWith_rotate_distrib Prod.mk p (p.rotate 1) n (List.length_rotate p 1).symm).symm

/-- **The edges of the polygon in the other direction** are its edges turned round. -/
theorem cyclicEdges_reverse (p : List α) :
    (cyclicEdges p.reverse).map Prod.swap = (cyclicEdges p).reverse.rotate 1 := by
  have hlength : p.reverse.length = (p.rotate 1).reverse.length := by simp
  have hback : (p.rotate 1).reverse.rotate 1 = p.reverse := by
    cases p with
    | nil => rfl
    | cons v vs => simp
  have hreverse : (cyclicEdges p).reverse = p.reverse.zip (p.rotate 1).reverse :=
    List.reverse_zipWith (by simp)
  rw [hreverse, cyclicEdges, List.zip_swap]
  calc (p.reverse.rotate 1).zip p.reverse
      = (p.reverse.rotate 1).zip ((p.rotate 1).reverse.rotate 1) := by rw [hback]
    _ = (p.reverse.zip (p.rotate 1).reverse).rotate 1 :=
      (List.zipWith_rotate_distrib Prod.mk p.reverse (p.rotate 1).reverse 1 hlength).symm

end Edges

variable {K : Type*} [Field K] [LinearOrder K]

/-! ### The ray -/

/-- The edge comes from the level or below and ends above it. -/
def Rises (level : K) (e : (K × K) × (K × K)) : Prop := e.1.2 ≤ level ∧ level < e.2.2

/-- The edge comes from above the level and ends on it or below. -/
def Falls (level : K) (e : (K × K) × (K × K)) : Prop := e.2.2 ≤ level ∧ level < e.1.2

/-- **The ray from `c` to the right meets the edge**: the edge passes the level of `c`, and `c` is
to the left of it. -/
def MeetsRay (c : K × K) (e : (K × K) × (K × K)) : Prop :=
  (Rises c.2 e ∧ turn e.1 e.2 c < 0) ∨ (Falls c.2 e ∧ 0 < turn e.1 e.2 c)

instance (level : K) (e : (K × K) × (K × K)) : Decidable (Rises level e) :=
  inferInstanceAs (Decidable (_ ∧ _))

instance (level : K) (e : (K × K) × (K × K)) : Decidable (Falls level e) :=
  inferInstanceAs (Decidable (_ ∧ _))

instance (c : K × K) (e : (K × K) × (K × K)) : Decidable (MeetsRay c e) :=
  inferInstanceAs (Decidable (_ ∨ _))

/-- **The number of edges that the ray from `c` meets.** -/
def crossings (c : K × K) (p : List (K × K)) : ℕ := (cyclicEdges p).countP (MeetsRay c ·)

variable {c : K × K} {p : List (K × K)} {level : K} {e : (K × K) × (K × K)}

omit [Field K] in
theorem rises_swap_iff : Rises level e.swap ↔ Falls level e := Iff.rfl

omit [Field K] in
theorem falls_swap_iff : Falls level e.swap ↔ Rises level e := Iff.rfl

omit [Field K] in
theorem Rises.not_falls (h : Rises level e) : ¬ Falls level e := fun h' =>
  absurd (h.1.trans_lt h'.2) (lt_irrefl _)

/-- **The number of crossings does not depend on where the list begins.** -/
theorem crossings_rotate (c : K × K) (p : List (K × K)) (n : ℕ) :
    crossings c (p.rotate n) = crossings c p := by
  rw [crossings, cyclicEdges_rotate]
  exact (List.rotate_perm _ n).countP_eq _

omit [Field K] in
/-- **Around a polygon, as many edges rise through a level as fall through it.** -/
theorem count_rises (level : K) (p : List (K × K)) :
    (cyclicEdges p).countP (Rises level ·) = (cyclicEdges p).countP (Falls level ·) := by
  have hbalance : ∀ l : List ((K × K) × (K × K)),
      l.countP (Rises level ·) + (l.map Prod.fst).countP (level < ·.2) =
        l.countP (Falls level ·) + (l.map Prod.snd).countP (level < ·.2) := by
    intro l
    induction l with
    | nil => rfl
    | cons e l ih =>
      have hedge : (if Rises level e then 1 else 0) + (if level < e.1.2 then 1 else 0) =
          (if Falls level e then 1 else 0) + (if level < e.2.2 then 1 else 0) := by
        rcases le_or_gt e.1.2 level with h₁ | h₁ <;> rcases le_or_gt e.2.2 level with h₂ | h₂ <;>
          simp [Rises, Falls, h₁, h₂, not_lt.mpr, not_le.mpr]
      simp only [List.map_cons, List.countP_cons, decide_eq_true_eq]
      omega
  have h := hbalance (cyclicEdges p)
  rw [map_fst_cyclicEdges, map_snd_cyclicEdges,
    (List.rotate_perm p 1).countP_eq (fun r => decide (level < r.2))] at h
  exact Nat.add_right_cancel h

variable [IsStrictOrderedRing K]

theorem meetsRay_swap_iff : MeetsRay c e.swap ↔ MeetsRay c e := by
  rw [MeetsRay, MeetsRay, rises_swap_iff, falls_swap_iff, Prod.fst_swap, Prod.snd_swap,
    turn_swap e.1, neg_neg_iff_pos, neg_pos, or_comm]

/-- **Nor does it depend on the direction in which the list goes around.** -/
theorem crossings_reverse (c : K × K) (p : List (K × K)) :
    crossings c p.reverse = crossings c p := by
  calc crossings c p.reverse
      = ((cyclicEdges p.reverse).map Prod.swap).countP (MeetsRay c ·) := by
        rw [crossings, List.countP_map]
        refine List.countP_congr fun e _ => ?_
        rw [Function.comp_apply, decide_eq_true_eq, decide_eq_true_eq, meetsRay_swap_iff]
    _ = crossings c p := by
        rw [cyclicEdges_reverse, crossings]
        exact ((List.rotate_perm _ 1).trans (List.reverse_perm _)).countP_eq _

/-! ### Where an edge passes a level -/

/-- The point at a level on the line of an edge. -/
def atLevel (level : K) (e : (K × K) × (K × K)) : K × K :=
  (e.1.1 + (level - e.1.2) / (e.2.2 - e.1.2) * (e.2.1 - e.1.1), level)

omit [LinearOrder K] [IsStrictOrderedRing K] in
/-- A turn at an edge that is not horizontal, by the abscissas at the level. -/
theorem turn_eq_mul (h : e.2.2 - e.1.2 ≠ 0) (c : K × K) :
    turn e.1 e.2 c = (e.2.2 - e.1.2) * (c.1 - (atLevel c.2 e).1) := by
  rw [turn, atLevel]
  field_simp
  ring

theorem Rises.height_pos (h : Rises level e) : 0 < e.2.2 - e.1.2 := by
  obtain ⟨h₁, h₂⟩ := h
  linarith

theorem Falls.height_neg (h : Falls level e) : e.2.2 - e.1.2 < 0 := by
  obtain ⟨h₁, h₂⟩ := h
  linarith

/-- An edge that rises has its point at the level between its ends. -/
theorem Rises.fraction (h : Rises level e) :
    0 ≤ (level - e.1.2) / (e.2.2 - e.1.2) ∧ (level - e.1.2) / (e.2.2 - e.1.2) < 1 := by
  have hpos := h.height_pos
  obtain ⟨h₁, h₂⟩ := h
  rw [div_lt_one hpos]
  exact ⟨div_nonneg (by linarith) hpos.le, by linarith⟩

/-- So has an edge that falls. -/
theorem Falls.fraction (h : Falls level e) :
    0 < (level - e.1.2) / (e.2.2 - e.1.2) ∧ (level - e.1.2) / (e.2.2 - e.1.2) ≤ 1 := by
  have hneg := h.height_neg
  obtain ⟨h₁, h₂⟩ := h
  rw [div_le_one_of_neg hneg]
  exact ⟨div_pos_of_neg_of_neg (by linarith) hneg, by linarith⟩

omit [LinearOrder K] [IsStrictOrderedRing K] in
theorem turn_atLevel (h : e.2.2 - e.1.2 ≠ 0) (level : K) (v w : K × K) :
    turn v w (atLevel level e) = (1 - (level - e.1.2) / (e.2.2 - e.1.2)) * turn v w e.1 +
      (level - e.1.2) / (e.2.2 - e.1.2) * turn v w e.2 := by
  refine turn_of_param rfl ?_
  rw [div_mul_cancel₀ _ h, atLevel]
  ring

/-- A point where an edge passes a level is on the side on which the ends of the edge are. -/
theorem turn_atLevel_nonneg {v w : K × K} (h₁ : 0 ≤ turn v w e.1) (h₂ : 0 ≤ turn v w e.2)
    (h : Rises level e ∨ Falls level e) : 0 ≤ turn v w (atLevel level e) := by
  rcases h with h | h
  · obtain ⟨hnonneg, hlt⟩ := h.fraction
    rw [turn_atLevel h.height_pos.ne']
    exact add_nonneg (mul_nonneg (by linarith) h₁) (mul_nonneg hnonneg h₂)
  · obtain ⟨hpos, hle⟩ := h.fraction
    rw [turn_atLevel h.height_neg.ne]
    exact add_nonneg (mul_nonneg (by linarith) h₁) (mul_nonneg hpos.le h₂)

/-- An edge that rises through the level of a point has it to the right when it passes to the left
of it. -/
theorem Rises.turn_neg_iff (h : Rises c.2 e) : turn e.1 e.2 c < 0 ↔ c.1 < (atLevel c.2 e).1 := by
  have hpos := h.height_pos
  rw [turn_eq_mul hpos.ne', mul_neg_iff, or_iff_left fun h' => absurd h'.1 hpos.not_gt,
    and_iff_right hpos, sub_neg]

/-- For an edge that falls it is the other way around. -/
theorem Falls.turn_pos_iff (h : Falls c.2 e) : 0 < turn e.1 e.2 c ↔ c.1 < (atLevel c.2 e).1 := by
  have hneg := h.height_neg
  rw [turn_eq_mul hneg.ne, mul_pos_iff, or_iff_right fun h' => absurd h'.1 hneg.not_gt,
    and_iff_right hneg, sub_neg]

/-! ### Strictly convex polygons -/

/-- **A strictly convex polygon** all of whose turns are to the side `s`: no vertex occurs twice,
and at each edge all the other vertices are strictly to that side. -/
structure StrictlyConvex (s : SignType) (p : List (K × K)) : Prop where
  /-- There are three vertices at least. -/
  three : 3 ≤ p.length
  /-- No vertex occurs twice. -/
  nodup : p.Nodup
  /-- The vertices that are not on an edge are to the side `s` of it. -/
  side : ∀ e ∈ cyclicEdges p, ∀ r ∈ p, r ≠ e.1 → r ≠ e.2 → SignType.sign (turn e.1 e.2 r) = s

/-- **The point is strictly inside**: at each edge it is strictly to the side of the polygon. -/
def StrictlyInside (s : SignType) (p : List (K × K)) (c : K × K) : Prop :=
  ∀ e ∈ cyclicEdges p, SignType.sign (turn e.1 e.2 c) = s

/-- **The point is strictly outside**: at some edge it is strictly to the other side. -/
def StrictlyOutside (s : SignType) (p : List (K × K)) (c : K × K) : Prop :=
  ∃ e ∈ cyclicEdges p, SignType.sign (turn e.1 e.2 c) = -s

omit [LinearOrder K] [IsStrictOrderedRing K] in
theorem turn_fst (e : (K × K) × (K × K)) : turn e.1 e.2 e.1 = 0 := by
  rw [turn]
  ring

omit [LinearOrder K] [IsStrictOrderedRing K] in
theorem turn_snd (e : (K × K) × (K × K)) : turn e.1 e.2 e.2 = 0 := by
  rw [turn]
  ring

namespace StrictlyConvex

variable {e' : (K × K) × (K × K)}

omit [IsStrictOrderedRing K] in
/-- No vertex is on the wrong side of an edge. -/
theorem nonneg (h : StrictlyConvex 1 p) (he : e ∈ cyclicEdges p) {r : K × K} (hr : r ∈ p) :
    0 ≤ turn e.1 e.2 r := by
  by_cases h₁ : r = e.1
  · rw [h₁, turn_fst]
  · by_cases h₂ : r = e.2
    · rw [h₂, turn_snd]
    · exact (sign_eq_one_iff.mp (h.side e he r hr h₁ h₂)).le

omit [IsStrictOrderedRing K] in
/-- A vertex on the line of an edge is one of its ends. -/
theorem eq_or_eq (h : StrictlyConvex 1 p) (he : e ∈ cyclicEdges p) {r : K × K} (hr : r ∈ p)
    (hzero : turn e.1 e.2 r = 0) : r = e.1 ∨ r = e.2 := by
  by_contra hne
  rw [not_or] at hne
  exact (sign_eq_one_iff.mp (h.side e he r hr hne.1 hne.2)).ne' hzero

/-- Where an edge passes a level, the polygon is on the right side of all its edges. -/
theorem atLevel_nonneg (h : StrictlyConvex 1 p) (he : e ∈ cyclicEdges p)
    (he' : e' ∈ cyclicEdges p) (hpass : Rises level e' ∨ Falls level e') :
    0 ≤ turn e.1 e.2 (atLevel level e') :=
  turn_atLevel_nonneg (h.nonneg he (fst_mem he')) (h.nonneg he (snd_mem he')) hpass

/-- Edges that fall through the level have the polygon to their left. -/
theorem abscissa_le (h : StrictlyConvex 1 p) (he : e ∈ cyclicEdges p) (hfalls : Falls level e)
    (he' : e' ∈ cyclicEdges p) (hpass : Rises level e' ∨ Falls level e') :
    (atLevel level e').1 ≤ (atLevel level e).1 := by
  have hnonneg := h.atLevel_nonneg he he' hpass
  rw [turn_eq_mul hfalls.height_neg.ne] at hnonneg
  exact sub_nonpos.mp (nonpos_of_mul_nonneg_right hnonneg hfalls.height_neg)

/-- **One edge at most falls through a level.** -/
theorem eq_of_falls (h : StrictlyConvex 1 p) (he : e ∈ cyclicEdges p) (hfalls : Falls level e)
    (he' : e' ∈ cyclicEdges p) (hfalls' : Falls level e') : e = e' := by
  have heq : (atLevel level e').1 = (atLevel level e).1 :=
    le_antisymm (h.abscissa_le he hfalls he' (.inr hfalls'))
      (h.abscissa_le he' hfalls' he (.inr hfalls))
  -- the second edge passes the level on the line of the first one, and so does its end
  have hzero : turn e.1 e.2 (atLevel level e') = 0 := by
    rw [turn_eq_mul hfalls.height_neg.ne]
    exact mul_eq_zero_of_right _ (sub_eq_zero.mpr heq)
  have hend : turn e.1 e.2 e'.2 = 0 := by
    obtain ⟨hpos, hle⟩ := hfalls'.fraction
    have h₁ := h.nonneg he (fst_mem he')
    have h₂ := h.nonneg he (snd_mem he')
    rw [turn_atLevel hfalls'.height_neg.ne] at hzero
    have hsum := (add_eq_zero_iff_of_nonneg (mul_nonneg (by linarith) h₁)
      (mul_nonneg hpos.le h₂)).mp hzero
    exact (mul_eq_zero.mp hsum.2).resolve_left hpos.ne'
  rcases h.eq_or_eq he (snd_mem he') hend with hfst | hsnd
  · have hlow : e.1.2 ≤ level := hfst ▸ hfalls'.1
    exact absurd hfalls.2 hlow.not_gt
  · exact eq_of_snd_eq h.nodup he he' hsnd.symm

/-- **The edges that fall through a level**: none or one. -/
theorem filter_falls (h : StrictlyConvex 1 p) (level : K) :
    ((cyclicEdges p).filter (Falls level ·)).length ≤ 1 := by
  have hnodup := (nodup_cyclicEdges h.nodup).filter (Falls level ·)
  rcases hedges : (cyclicEdges p).filter (Falls level ·) with _ | ⟨e, _ | ⟨e', l⟩⟩
  · exact Nat.zero_le 1
  · exact le_refl 1
  · have hmem : ∀ e'' ∈ e :: e' :: l, e'' ∈ cyclicEdges p ∧ Falls level e'' := by
      intro e'' he''
      rw [← hedges, List.mem_filter, decide_eq_true_eq] at he''
      exact he''
    obtain ⟨he, hfalls⟩ := hmem e (by simp)
    obtain ⟨he', hfalls'⟩ := hmem e' (by simp)
    rw [hedges, h.eq_of_falls he hfalls he' hfalls'] at hnodup
    simp at hnodup

/-- **The edges that pass a level**: none, or one that rises and one that falls. -/
theorem passing_cases (h : StrictlyConvex 1 p) (level : K) :
    (∀ e ∈ cyclicEdges p, ¬ Rises level e ∧ ¬ Falls level e) ∨
      ∃ u d, (cyclicEdges p).filter (Rises level ·) = [u] ∧
        (cyclicEdges p).filter (Falls level ·) = [d] := by
  have hcount := count_rises level p
  rw [List.countP_eq_length_filter, List.countP_eq_length_filter] at hcount
  rcases Nat.le_one_iff_eq_zero_or_eq_one.mp (h.filter_falls level) with hnone | hone
  · refine .inl fun e he => ?_
    rw [hnone] at hcount
    have hrises := List.filter_eq_nil_iff.mp (List.length_eq_zero_iff.mp hcount) e he
    have hfalls := List.filter_eq_nil_iff.mp (List.length_eq_zero_iff.mp hnone) e he
    exact ⟨fun hr => hrises (decide_eq_true hr), fun hf => hfalls (decide_eq_true hf)⟩
  · rw [hone] at hcount
    obtain ⟨u, hu⟩ := List.length_eq_one_iff.mp hcount
    obtain ⟨d, hd⟩ := List.length_eq_one_iff.mp hone
    exact .inr ⟨u, d, hu, hd⟩

end StrictlyConvex

omit [IsStrictOrderedRing K] in
/-- The crossings are those with edges that rise and those with edges that fall. -/
theorem crossings_eq (c : K × K) (p : List (K × K)) :
    crossings c p =
      ((cyclicEdges p).filter (Rises c.2 ·)).countP (fun e => decide (turn e.1 e.2 c < 0)) +
        ((cyclicEdges p).filter (Falls c.2 ·)).countP (fun e => decide (0 < turn e.1 e.2 c)) := by
  rw [crossings, List.countP_filter, List.countP_filter]
  induction cyclicEdges p with
  | nil => rfl
  | cons e l ih =>
    have hedge : (if MeetsRay c e then 1 else 0) =
        (if turn e.1 e.2 c < 0 ∧ Rises c.2 e then 1 else 0) +
          (if 0 < turn e.1 e.2 c ∧ Falls c.2 e then 1 else 0) := by
      by_cases hrises : Rises c.2 e
      · simp [MeetsRay, hrises, hrises.not_falls]
      · simp [MeetsRay, hrises, and_comm]
    simp only [List.countP_cons, decide_eq_true_eq, Bool.and_eq_true] at ih ⊢
    omega

/-! ### Inside and outside -/

omit [LinearOrder K] [IsStrictOrderedRing K] in
/-- A turn seen from the point where it is made. -/
theorem turn_eq_sub (v w c : K × K) :
    turn v w c = (v.2 - c.2) * (w.1 - c.1) - (v.1 - c.1) * (w.2 - c.2) := by
  rw [turn]
  ring

/-- On one side of the level, turns to the right go from one direction to the next. -/
theorem direction_lt (hsame : 0 < (e.1.2 - c.2) * (e.2.2 - c.2)) (hturn : 0 < turn e.1 e.2 c) :
    (e.1.1 - c.1) / (e.1.2 - c.2) < (e.2.1 - c.1) / (e.2.2 - c.2) := by
  have h₁ := left_ne_zero_of_mul hsame.ne'
  have h₂ := right_ne_zero_of_mul hsame.ne'
  have hsub : (e.2.1 - c.1) / (e.2.2 - c.2) - (e.1.1 - c.1) / (e.1.2 - c.2) =
      turn e.1 e.2 c / ((e.1.2 - c.2) * (e.2.2 - c.2)) := by
    rw [turn_eq_sub, div_sub_div _ _ h₂ h₁]
    ring
  exact sub_pos.mp (hsub ▸ div_pos hturn hsame)

/-- **No vertices of a polygon around a point stay on one side of its level**: the last of them in
the order of their directions would have no successor. -/
theorem not_of_closed (hturn : ∀ e ∈ cyclicEdges p, 0 < turn e.1 e.2 c) {P : K × K → Prop}
    (hclosed : ∀ e ∈ cyclicEdges p, P e.1 → P e.2 ∧ 0 < (e.1.2 - c.2) * (e.2.2 - c.2)) :
    ∀ r ∈ p, ¬ P r := by
  rintro r hr hPr
  have hfinite : {v : K × K | v ∈ p ∧ P v}.Finite :=
    (List.finite_toSet p).subset fun v hv => hv.1
  obtain ⟨last, ⟨hlast, hPlast⟩, hmax⟩ := Set.exists_max_image _
    (fun v => (v.1 - c.1) / (v.2 - c.2)) hfinite ⟨r, hr, hPr⟩
  obtain ⟨e, he, rfl⟩ := exists_edge_from hlast
  obtain ⟨hP, hsame⟩ := hclosed e he hPlast
  exact (hmax e.2 ⟨snd_mem he, hP⟩).not_gt (direction_lt hsame (hturn e he))

/-- **A polygon around a point passes its level.** -/
theorem exists_passing (hne : p ≠ []) (hturn : ∀ e ∈ cyclicEdges p, 0 < turn e.1 e.2 c) :
    ∃ e ∈ cyclicEdges p, Rises c.2 e ∨ Falls c.2 e := by
  by_contra hnone
  have hstay : ∀ e ∈ cyclicEdges p, c.2 < e.1.2 ↔ c.2 < e.2.2 := by
    rintro e he
    constructor
    · rintro habove
      by_contra hle
      exact hnone ⟨e, he, .inr ⟨not_lt.mp hle, habove⟩⟩
    · rintro habove
      by_contra hle
      exact hnone ⟨e, he, .inl ⟨not_lt.mp hle, habove⟩⟩
  have habove : ∀ r ∈ p, ¬ c.2 < r.2 := by
    refine not_of_closed hturn fun e he h₁ => ?_
    have h₂ := (hstay e he).mp h₁
    exact ⟨h₂, mul_pos (sub_pos.mpr h₁) (sub_pos.mpr h₂)⟩
  have hlevel : ∀ r ∈ p, r.2 ≠ c.2 := by
    rintro r hr hrc
    obtain ⟨out, hout, rfl⟩ := exists_edge_from hr
    obtain ⟨inn, hinn, heq⟩ := exists_edge_to hr
    have hturnOut := hturn out hout
    have hturnIn := hturn inn hinn
    have hbelowOut := not_lt.mp (habove out.2 (snd_mem hout))
    have hbelowIn := not_lt.mp (habove inn.1 (fst_mem hinn))
    rw [turn_eq_sub, hrc, sub_self, zero_mul, zero_sub, neg_pos] at hturnOut
    rw [heq, turn_eq_sub, hrc, sub_self, mul_zero, sub_zero] at hturnIn
    have hleft : out.1.1 - c.1 < 0 := by
      rcases mul_pos_iff.mp hturnIn with ⟨h, -⟩ | ⟨-, h⟩
      · exact absurd h (sub_nonpos.mpr hbelowIn).not_gt
      · exact h
    exact hturnOut.not_ge (mul_nonneg_of_nonpos_of_nonpos hleft.le (sub_nonpos.mpr hbelowOut))
  have hbelow : ∀ r ∈ p, ¬ r.2 < c.2 := by
    refine not_of_closed hturn fun e he h₁ => ?_
    have h₂ : e.2.2 < c.2 :=
      lt_of_le_of_ne (not_lt.mp (habove e.2 (snd_mem he))) (hlevel e.2 (snd_mem he))
    exact ⟨h₂, mul_pos_of_neg_of_neg (sub_neg.mpr h₁) (sub_neg.mpr h₂)⟩
  obtain ⟨r, hr⟩ := List.exists_mem_of_ne_nil p hne
  rcases lt_trichotomy r.2 c.2 with hlt | heq | hgt
  · exact hbelow r hr hlt
  · exact hlevel r hr heq
  · exact habove r hr hgt

/-- A point between two others at its level is on the side on which they are. -/
theorem turn_nonneg_of_between {v w a b : K × K} (ha : 0 ≤ turn v w (a.1, c.2))
    (hb : 0 ≤ turn v w (b.1, c.2)) (hac : a.1 ≤ c.1) (hcb : c.1 < b.1) : 0 ≤ turn v w c := by
  have hwidth : 0 < b.1 - a.1 := by linarith
  have hθ : 0 ≤ (c.1 - a.1) / (b.1 - a.1) := div_nonneg (by linarith) hwidth.le
  have hθ' : (c.1 - a.1) / (b.1 - a.1) ≤ 1 := (div_le_one hwidth).mpr (by linarith)
  have hparam : turn v w c = (1 - (c.1 - a.1) / (b.1 - a.1)) * turn v w (a.1, c.2) +
      (c.1 - a.1) / (b.1 - a.1) * turn v w (b.1, c.2) := by
    refine turn_of_param ?_ ?_
    · rw [div_mul_cancel₀ _ hwidth.ne']
      ring
    · ring
  rw [hparam]
  exact add_nonneg (mul_nonneg (by linarith) ha) (mul_nonneg hθ hb)

namespace StrictlyConvex

omit [IsStrictOrderedRing K] in
theorem ne_nil {s : SignType} (h : StrictlyConvex s p) : p ≠ [] := by
  rintro rfl
  exact absurd h.three (Nat.not_succ_le_zero 2)

theorem crossings_of_inside (h : StrictlyConvex 1 p) (hin : StrictlyInside 1 p c) :
    crossings c p = 1 := by
  have hturn : ∀ e ∈ cyclicEdges p, 0 < turn e.1 e.2 c := fun e he => sign_eq_one_iff.mp (hin e he)
  rcases h.passing_cases c.2 with hnone | ⟨u, d, hu, hd⟩
  · obtain ⟨e, he, hpass⟩ := exists_passing h.ne_nil hturn
    exact absurd hpass (not_or.mpr (hnone e he))
  · have hmemU : u ∈ (cyclicEdges p).filter (Rises c.2 ·) := by simp [hu]
    have hmemD : d ∈ (cyclicEdges p).filter (Falls c.2 ·) := by simp [hd]
    have hturnU := hturn u (List.mem_filter.mp hmemU).1
    have hturnD := hturn d (List.mem_filter.mp hmemD).1
    rw [crossings_eq, hu, hd, List.countP_singleton, List.countP_singleton]
    simp [hturnU.not_gt, hturnD]

theorem crossings_of_outside (h : StrictlyConvex 1 p) (hout : StrictlyOutside 1 p c) :
    crossings c p = 0 ∨ crossings c p = 2 := by
  rcases h.passing_cases c.2 with hnone | ⟨u, d, hu, hd⟩
  · left
    refine List.countP_eq_zero.mpr fun e he => ?_
    rw [decide_eq_true_eq, MeetsRay]
    rintro (⟨hrises, -⟩ | ⟨hfalls, -⟩)
    · exact (hnone e he).1 hrises
    · exact (hnone e he).2 hfalls
  · have hmemU : u ∈ (cyclicEdges p).filter (Rises c.2 ·) := by simp [hu]
    have hmemD : d ∈ (cyclicEdges p).filter (Falls c.2 ·) := by simp [hd]
    rw [List.mem_filter, decide_eq_true_eq] at hmemU hmemD
    obtain ⟨heU, hrises⟩ := hmemU
    obtain ⟨heD, hfalls⟩ := hmemD
    have hle := h.abscissa_le heD hfalls heU (.inl hrises)
    rw [crossings_eq, hu, hd, List.countP_singleton, List.countP_singleton]
    simp only [hrises.turn_neg_iff, hfalls.turn_pos_iff, decide_eq_true_eq]
    rcases lt_or_ge c.1 (atLevel c.2 u).1 with hleft | hright
    · right
      rw [if_pos hleft, if_pos (hleft.trans_le hle)]
    · rw [if_neg hright.not_gt]
      rcases lt_or_ge c.1 (atLevel c.2 d).1 with hbetween | hbeyond
      · -- between the two edges the point is on the side of the polygon everywhere
        obtain ⟨e, he, hsign⟩ := hout
        have hneg : turn e.1 e.2 c < 0 := sign_eq_neg_one_iff.mp hsign
        have hnonnegU := h.atLevel_nonneg he heU (.inl hrises)
        have hnonnegD := h.atLevel_nonneg he heD (.inr hfalls)
        exact absurd (turn_nonneg_of_between hnonnegU hnonnegD hright hbetween) hneg.not_ge
      · left
        rw [if_neg hbeyond.not_gt]

/-! ### Either orientation -/

omit [Field K] [LinearOrder K] [IsStrictOrderedRing K] in
theorem mem_cyclicEdges_reverse : e ∈ cyclicEdges p.reverse ↔ e.swap ∈ cyclicEdges p := by
  have hswap : e.swap ∈ cyclicEdges p ↔ e.swap ∈ (cyclicEdges p.reverse).map Prod.swap := by
    rw [cyclicEdges_reverse, List.mem_rotate, List.mem_reverse]
  rw [hswap, List.mem_map]
  constructor
  · exact fun he => ⟨e, he, rfl⟩
  · rintro ⟨e', he', heq⟩
    rwa [← Prod.swap_injective heq]

theorem sign_turn_swap (e : (K × K) × (K × K)) (r : K × K) :
    SignType.sign (turn e.swap.1 e.swap.2 r) = -SignType.sign (turn e.1 e.2 r) := by
  rw [Prod.fst_swap, Prod.snd_swap, turn_swap, Left.sign_neg]

variable {s : SignType}

/-- The polygon in the other direction turns to the other side. -/
theorem reverse (h : StrictlyConvex s p) : StrictlyConvex (-s) p.reverse where
  three := by
    rw [List.length_reverse]
    exact h.three
  nodup := List.nodup_reverse.mpr h.nodup
  side e he r hr h₁ h₂ := by
    have hside := h.side e.swap (mem_cyclicEdges_reverse.mp he) r (List.mem_reverse.mp hr) h₂ h₁
    rw [sign_turn_swap] at hside
    rw [← hside, neg_neg]

theorem inside_reverse (hin : StrictlyInside s p c) : StrictlyInside (-s) p.reverse c := by
  rintro e he
  have hside := hin e.swap (mem_cyclicEdges_reverse.mp he)
  rw [sign_turn_swap] at hside
  rw [← hside, neg_neg]

theorem outside_reverse (hout : StrictlyOutside s p c) : StrictlyOutside (-s) p.reverse c := by
  obtain ⟨e, he, hside⟩ := hout
  refine ⟨e.swap, mem_cyclicEdges_reverse.mpr ?_, ?_⟩
  · rwa [Prod.swap_swap]
  · rw [sign_turn_swap, hside]

/-- **A point strictly inside of a strictly convex polygon sees an odd number of crossings.** -/
theorem crossings_odd (hs : s ≠ 0) (h : StrictlyConvex s p) (hin : StrictlyInside s p c) :
    Odd (crossings c p) := by
  rcases s with _ | _ | _
  · exact absurd rfl hs
  · have hone := crossings_of_inside h.reverse (inside_reverse hin)
    rw [crossings_reverse] at hone
    rw [hone]
    exact odd_one
  · rw [crossings_of_inside h hin]
    exact odd_one

/-- **A point strictly outside sees an even number of them.** -/
theorem crossings_even (hs : s ≠ 0) (h : StrictlyConvex s p) (hout : StrictlyOutside s p c) :
    Even (crossings c p) := by
  have heven : ∀ {q : List (K × K)}, StrictlyConvex 1 q → StrictlyOutside 1 q c →
      Even (crossings c q) := by
    rintro q hq hout
    rcases crossings_of_outside hq hout with hzero | htwo
    · exact hzero ▸ Even.zero
    · exact htwo ▸ even_two
  rcases s with _ | _ | _
  · exact absurd rfl hs
  · rw [← crossings_reverse]
    exact heven h.reverse (outside_reverse hout)
  · exact heven h hout

end StrictlyConvex

end DetectBase
