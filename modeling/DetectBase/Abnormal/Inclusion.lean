import DetectBase.Abnormal.Crossing
import DetectBase.Foundations.Polygons

/-!
# Points in polygons

What `isIncludePoint` computes when the abscissa at which an edge passes the level of the point is
exact: a point is included when it is a vertex, or when the ray to the right of it meets an odd
number of edges (`DetectBase.Abnormal.isIncludePointExact_iff`). So the answer is one about the
polygon and not about the list of its vertices, and for a strictly convex polygon it is the right
one on both sides of the boundary (`DetectBase.Abnormal.isIncludePointExact_spec`).
-/

namespace DetectBase.Abnormal

/-- `checkPoint.x < atX`, in exact arithmetic. -/
def isLeftOfEdgeExact (checkPoint p q : Point) : Bool :=
  let atX : ℚ := ((q.x - p.x) * (checkPoint.y - p.y)) / (q.y - p.y) + p.x
  (checkPoint.x : ℚ) < atX

/-- `isIncludePoint`, in exact arithmetic. -/
def isIncludePointExact (checkPoint : Point) (p : List Point) : Bool :=
  isIncludePointBy isLeftOfEdgeExact checkPoint p

/-! ### The loop -/

/-- The edge counts as a crossing. -/
def IsCounted (checkPoint : Point) (e : Point × Point) : Prop :=
  (e.1.y > checkPoint.y) ≠ (e.2.y > checkPoint.y) ∧ isLeftOfEdgeExact checkPoint e.1 e.2 = true

instance (checkPoint : Point) (e : Point × Point) : Decidable (IsCounted checkPoint e) :=
  inferInstanceAs (Decidable (_ ∧ _))

/-- **The loop finds the point among the vertices, or counts the crossings.** -/
theorem isIncludePointLoop_iff {checkPoint : Point} {edges : List (Point × Point)} :
    ∀ {nCrosses : ℕ}, isIncludePointLoop isLeftOfEdgeExact checkPoint edges nCrosses = true ↔
      (∃ e ∈ edges, e.1 = checkPoint) ∨
        Odd (nCrosses + edges.countP (IsCounted checkPoint ·)) := by
  induction edges with
  | nil =>
    intro nCrosses
    rw [isIncludePointLoop, decide_eq_true_eq, List.countP_nil, Nat.odd_iff]
    simp only [List.not_mem_nil, false_and, exists_false, false_or]
    omega
  | cons e edges ih =>
    intro nCrosses
    obtain ⟨p, q⟩ := e
    rw [isIncludePointLoop]
    split_ifs with hvertex hcounts
    · exact iff_of_true rfl (.inl ⟨(p, q), List.mem_cons_self, hvertex⟩)
    · have hcounted : IsCounted checkPoint (p, q) := hcounts
      rw [ih, List.countP_cons, decide_eq_true hcounted, if_pos rfl, Nat.add_right_comm,
        Nat.add_assoc]
      simp [hvertex]
    · have hnot : ¬ IsCounted checkPoint (p, q) := hcounts
      rw [ih, List.countP_cons, decide_eq_false hnot, if_neg Bool.false_ne_true, Nat.add_zero]
      simp [hvertex]

/-- The crossings that are counted are those of the ray in the plane. -/
theorem isCounted_iff {checkPoint : Point} {e : Point × Point} :
    IsCounted checkPoint e ↔
      MeetsRay checkPoint.toPlane (Prod.map Point.toPlane Point.toPlane e) := by
  obtain ⟨p, q⟩ := e
  have hleft : isLeftOfEdgeExact checkPoint p q = true ↔
      checkPoint.toPlane.1 < (atLevel checkPoint.toPlane.2 (p.toPlane, q.toPlane)).1 := by
    have habscissa : (atLevel checkPoint.toPlane.2 (p.toPlane, q.toPlane)).1 =
        (((q.x - p.x) * (checkPoint.y - p.y)) / (q.y - p.y) + p.x : ℚ) := by
      simp only [atLevel, Point.toPlane]
      push_cast
      ring
    have hpoint : checkPoint.toPlane.1 = ((checkPoint.x : ℚ) : ℝ) := (Rat.cast_intCast _).symm
    rw [isLeftOfEdgeExact, decide_eq_true_eq, habscissa, hpoint, Rat.cast_lt]
  have hrises : Rises checkPoint.toPlane.2 (p.toPlane, q.toPlane) ↔
      p.y ≤ checkPoint.y ∧ checkPoint.y < q.y := by
    simp [Rises, Point.toPlane]
  have hfalls : Falls checkPoint.toPlane.2 (p.toPlane, q.toPlane) ↔
      q.y ≤ checkPoint.y ∧ checkPoint.y < p.y := by
    simp [Falls, Point.toPlane]
  rw [IsCounted, hleft, MeetsRay, Prod.map_apply, ne_eq, eq_iff_iff]
  dsimp only
  constructor
  · rintro ⟨hpasses, hlt⟩
    rcases le_or_gt p.y checkPoint.y with hp | hp
    · have hr : Rises checkPoint.toPlane.2 (p.toPlane, q.toPlane) := hrises.mpr (by omega)
      exact .inl ⟨hr, hr.turn_neg_iff.mpr hlt⟩
    · have hf : Falls checkPoint.toPlane.2 (p.toPlane, q.toPlane) := hfalls.mpr (by omega)
      exact .inr ⟨hf, hf.turn_pos_iff.mpr hlt⟩
  · rintro (⟨hr, hturn⟩ | ⟨hf, hturn⟩)
    · refine ⟨?_, hr.turn_neg_iff.mp hturn⟩
      have h := hrises.mp hr
      omega
    · refine ⟨?_, hf.turn_pos_iff.mp hturn⟩
      have h := hfalls.mp hf
      omega

/-- **A point is included when it is a vertex or sees an odd number of crossings.** -/
theorem isIncludePointExact_iff {checkPoint : Point} {p : List Point} :
    isIncludePointExact checkPoint p = true ↔
      checkPoint ∈ p ∨ Odd (crossings checkPoint.toPlane (p.map Point.toPlane)) := by
  have hvertex : (∃ e ∈ cyclicEdges p, e.1 = checkPoint) ↔ checkPoint ∈ p := by
    constructor
    · rintro ⟨e, he, rfl⟩
      exact fst_mem he
    · exact exists_edge_from
  have hcount : (cyclicEdges p).countP (IsCounted checkPoint ·) =
      crossings checkPoint.toPlane (p.map Point.toPlane) := by
    have hmap : cyclicEdges (p.map Point.toPlane) =
        (cyclicEdges p).map (Prod.map Point.toPlane Point.toPlane) := by
      rw [cyclicEdges, cyclicEdges, ← List.map_rotate, List.zip_map]
    rw [crossings, hmap, List.countP_map]
    refine List.countP_congr fun e _ => ?_
    rw [Function.comp_apply, decide_eq_true_eq, decide_eq_true_eq, isCounted_iff]
  rw [isIncludePointExact, isIncludePointBy, isIncludePointLoop_iff, ← cyclicEdges, hvertex,
    hcount, Nat.zero_add]

/-! ### Polygons -/

/-- A vertex of a strictly convex polygon is not outside of it. -/
theorem not_mem_of_outside {s : SignType} (hs : s ≠ 0) {p : List Point} {checkPoint : Point}
    (h : StrictlyConvex s (p.map Point.toPlane))
    (hout : StrictlyOutside s (p.map Point.toPlane) checkPoint.toPlane) : checkPoint ∉ p := by
  rintro hmem
  obtain ⟨e, he, hsign⟩ := hout
  have hvertex : checkPoint.toPlane ∈ p.map Point.toPlane := List.mem_map_of_mem hmem
  have hne : -s ≠ s ∧ -s ≠ 0 := by
    clear h hsign
    revert s
    decide
  by_cases h₁ : checkPoint.toPlane = e.1
  · rw [h₁, turn_fst, sign_zero] at hsign
    exact hne.2 hsign.symm
  · by_cases h₂ : checkPoint.toPlane = e.2
    · rw [h₂, turn_snd, sign_zero] at hsign
      exact hne.2 hsign.symm
    · rw [h.side e he _ hvertex h₁ h₂] at hsign
      exact hne.1 hsign.symm

/-- **The test for a point in a polygon, in exact arithmetic**: it does not depend on the vertex
that the list begins with nor on its direction, and for a strictly convex polygon it tells the
points strictly inside from those strictly outside. -/
theorem isIncludePointExact_spec (checkPoint : Point) (p : List Point) :
    (∀ n, isIncludePointExact checkPoint (p.rotate n) = isIncludePointExact checkPoint p) ∧
    isIncludePointExact checkPoint p.reverse = isIncludePointExact checkPoint p ∧
    ∀ s : SignType, s ≠ 0 → StrictlyConvex s (p.map Point.toPlane) →
      (StrictlyInside s (p.map Point.toPlane) checkPoint.toPlane →
        isIncludePointExact checkPoint p = true) ∧
      (StrictlyOutside s (p.map Point.toPlane) checkPoint.toPlane →
        isIncludePointExact checkPoint p = false) := by
  refine ⟨fun n => ?_, ?_, fun s hs hconvex => ⟨fun hin => ?_, fun hout => ?_⟩⟩
  · rw [Bool.eq_iff_iff, isIncludePointExact_iff, isIncludePointExact_iff, List.mem_rotate,
      List.map_rotate, crossings_rotate]
  · rw [Bool.eq_iff_iff, isIncludePointExact_iff, isIncludePointExact_iff, List.mem_reverse,
      List.map_reverse, crossings_reverse]
  · exact isIncludePointExact_iff.mpr (.inr (hconvex.crossings_odd hs hin))
  · rw [← Bool.not_eq_true, isIncludePointExact_iff, not_or, Nat.not_odd_iff_even]
    exact ⟨not_mem_of_outside hs hconvex hout, hconvex.crossings_even hs hout⟩

/-- A point of a triangle. -/
theorem isIncludePointExact_spec_triangle :
    isIncludePointExact ⟨1, 1⟩ [⟨0, 0⟩, ⟨4, 0⟩, ⟨0, 4⟩] = true := by
  have hconvex : StrictlyConvex (-1) ([⟨0, 0⟩, ⟨4, 0⟩, ⟨0, 4⟩].map Point.toPlane) := by
    refine ⟨by decide, ?_, ?_⟩
    · simp [Point.toPlane]
    · simp [cyclicEdges, turn, Point.toPlane]
  have hin : StrictlyInside (-1) ([⟨0, 0⟩, ⟨4, 0⟩, ⟨0, 4⟩].map Point.toPlane)
      (Point.toPlane ⟨1, 1⟩) := by
    simp [StrictlyInside, cyclicEdges, turn, Point.toPlane]
    norm_num
  exact ((isIncludePointExact_spec ⟨1, 1⟩ [⟨0, 0⟩, ⟨4, 0⟩, ⟨0, 4⟩]).2.2 (-1) (by decide)
    hconvex).1 hin

end DetectBase.Abnormal
