import Mathlib.Data.List.Sort

/-!
# Sorts that are not stable

`std::sort` with a comparison gives the elements in an order in which none comes before an earlier
one (`DetectBase.StdSort`). Which of two elements comes first when the comparison tells neither from
the other is not specified, so that such a sort is any function of this kind, and what is proved
about all of them does not rest on the order of ties. An insertion sort by a key is one
(`DetectBase.StdSort.byKey`).
-/

namespace DetectBase

variable {α : Type*}

/-- **`std::sort`** with the comparison `comp`. -/
structure StdSort (comp : α → α → Prop) where
  /-- The elements in their order. -/
  sort : List α → List α
  /-- They are the elements that are sorted. -/
  perm : ∀ l, (sort l).Perm l
  /-- None of them comes before an earlier one. -/
  sorted : ∀ l, (sort l).Pairwise fun a b => ¬comp b a

namespace StdSort

/-- What has been taken off the front does not come behind anything that is left. -/
theorem not_comp_of_mem {comp : α → α → Prop} (S : StdSort comp) {l : List α} {k : ℕ} {a b : α}
    (ha : a ∈ (S.sort l).take k) (hb : b ∈ (S.sort l).drop k) : ¬comp b a := by
  have hsorted := S.sorted l
  rw [← List.take_append_drop k (S.sort l), List.pairwise_append] at hsorted
  exact hsorted.2.2 a ha b hb

/-- **What comes first**: it is one of the elements, and no other comes before it. -/
theorem head?_sort {comp : α → α → Prop} (S : StdSort comp) {l : List α} {a : α}
    (h : (S.sort l).head? = some a) : a ∈ l ∧ ∀ b ∈ l, b = a ∨ ¬comp b a := by
  obtain ⟨rest, hrest⟩ := List.head?_eq_some_iff.mp h
  have hsorted := S.sorted l
  rw [hrest, List.pairwise_cons] at hsorted
  refine ⟨(S.perm l).subset (hrest ▸ List.mem_cons_self), fun b hb => ?_⟩
  have hmem := (S.perm l).symm.subset hb
  rw [hrest, List.mem_cons] at hmem
  exact hmem.imp_right (hsorted.1 b)

/-- Something comes first unless there is nothing. -/
theorem head?_sort_eq_none {comp : α → α → Prop} (S : StdSort comp) {l : List α} :
    (S.sort l).head? = none ↔ l = [] := by
  rw [List.head?_eq_none_iff]
  exact ⟨fun h => List.nil_perm.mp (h ▸ S.perm l), fun h => List.perm_nil.mp (h ▸ S.perm l)⟩

/-- An insertion sort by a key. -/
def byKey {κ : Type*} [LinearOrder κ] (key : α → κ) : StdSort fun a b => key a < key b where
  sort l := l.insertionSort fun a b => key a ≤ key b
  perm l := List.perm_insertionSort _ l
  sorted l :=
    have : Std.Total fun a b : α => key a ≤ key b := ⟨fun a b => le_total (key a) (key b)⟩
    have : IsTrans α fun a b => key a ≤ key b := ⟨fun _ _ _ h h' => le_trans h h'⟩
    (List.pairwise_insertionSort _ l).imp fun h => not_lt.mpr h

end StdSort

end DetectBase
