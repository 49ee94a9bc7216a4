import Mathlib.Data.List.Basic

/-!
# Cutting a list into fragments

A list is sent in pieces: as long as something is left, a piece of some length is cut off its
front. How long the piece is depends on what is left, and all that matters about the choice is that
the piece is not empty (`DetectBase.Cut`). Then the fragments are the list again
(`DetectBase.Cut.flatten_fragments`), and only the last of them leaves nothing over
(`DetectBase.Cut.fragments_eq_nil_iff`).
-/

namespace DetectBase

variable {α : Type*}

/-- **A way to cut**: how much is cut off the front of what is left. -/
structure Cut (α : Type*) where
  /-- The length of the piece. -/
  size : List α → ℕ
  /-- The piece is not empty. -/
  pos : ∀ l, l ≠ [] → 0 < size l
  /-- The piece is there. -/
  le : ∀ l, size l ≤ l.length

namespace Cut

variable (c : Cut α)

/-- **The fragments** of a list. -/
def fragments (l : List α) : List (List α) :=
  if _h : l = [] then []
  else l.take (c.size l) :: fragments (l.drop (c.size l))
termination_by l.length
decreasing_by
  have hpos := c.pos l _h
  have hlen := List.length_pos_of_ne_nil _h
  rw [List.length_drop]
  omega

@[simp]
theorem fragments_nil : c.fragments [] = [] := by
  rw [fragments, dif_pos rfl]

theorem fragments_of_ne_nil {l : List α} (h : l ≠ []) :
    c.fragments l = l.take (c.size l) :: c.fragments (l.drop (c.size l)) := by
  rw [fragments, dif_neg h]

theorem fragments_eq_nil_iff {l : List α} : c.fragments l = [] ↔ l = [] := by
  constructor
  · intro h
    by_contra hne
    rw [c.fragments_of_ne_nil hne] at h
    cases h
  · rintro rfl
    exact c.fragments_nil

/-- **The fragments are the list again.** -/
theorem flatten_fragments (l : List α) : (c.fragments l).flatten = l := by
  induction l using fragments.induct c with
  | case1 => rw [fragments_nil, List.flatten_nil]
  | case2 l h ih => rw [c.fragments_of_ne_nil h, List.flatten_cons, ih, List.take_append_drop]

/-- What holds of the lengths of the pieces that are cut off holds of the lengths of the
fragments. -/
theorem length_of_mem_fragments {P : ℕ → Prop} (hsize : ∀ l, l ≠ [] → P (c.size l)) (l : List α) :
    ∀ f ∈ c.fragments l, P f.length := by
  induction l using fragments.induct c with
  | case1 =>
    intro f hf
    rw [fragments_nil] at hf
    cases hf
  | case2 l h ih =>
    intro f hf
    rw [c.fragments_of_ne_nil h] at hf
    obtain rfl | hf := List.mem_cons.mp hf
    · rw [List.length_take_of_le (c.le l)]
      exact hsize l h
    · exact ih f hf

end Cut

end DetectBase
