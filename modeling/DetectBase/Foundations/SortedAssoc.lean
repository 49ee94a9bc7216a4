import Mathlib.Data.List.Pairwise
import Mathlib.Order.Lattice

/-!
# Ordered maps as sorted association lists

An ordered map (`std::map`) is modelled by the list of its entries in key order. The list is
canonical: two maps with the same entries are the same list. Assigning to a key
(`DetectBase.assign`) keeps the order and replaces the entry of that key if there is one.

Building a map entry by entry from a list that already is sorted gives the list back
(`DetectBase.foldl_assign_sorted`).
-/

namespace DetectBase

variable {κ ν : Type*} [LinearOrder κ]

/-- Assignment to a key of an ordered map: `m[k] = v`. -/
def assign (k : κ) (v : ν) : List (κ × ν) → List (κ × ν)
  | [] => [(k, v)]
  | (k', v') :: m =>
    if k < k' then (k, v) :: (k', v') :: m
    else if k = k' then (k, v) :: m
    else (k', v') :: assign k v m

/-- The entries stand in strictly increasing key order. -/
def SortedKeys (m : List (κ × ν)) : Prop := m.Pairwise fun a b => a.1 < b.1

@[simp] theorem sortedKeys_nil : SortedKeys ([] : List (κ × ν)) := List.Pairwise.nil

@[simp] theorem sortedKeys_cons {e : κ × ν} {m : List (κ × ν)} :
    SortedKeys (e :: m) ↔ (∀ e' ∈ m, e.1 < e'.1) ∧ SortedKeys m := List.pairwise_cons

/-- Only the keys matter to sortedness. -/
theorem SortedKeys.map_snd {ν' : Type*} {f : ν → ν'} {m : List (κ × ν)} (h : SortedKeys m) :
    SortedKeys (m.map fun e => (e.1, f e.2)) :=
  List.Pairwise.map _ (fun _ _ hlt => hlt) h

/-- The entries after an assignment: the new one, and old ones. -/
theorem mem_assign {k : κ} {v : ν} {m : List (κ × ν)} {e : κ × ν} (h : e ∈ assign k v m) :
    e = (k, v) ∨ e ∈ m := by
  induction m with
  | nil => exact Or.inl (List.mem_singleton.mp h)
  | cons e' m ih =>
    rw [assign] at h
    split_ifs at h with hlt heq
    · simpa using h
    · rcases List.mem_cons.mp h with h1 | h1
      · exact Or.inl h1
      · exact Or.inr (by simp [h1])
    · rcases List.mem_cons.mp h with h1 | h1
      · exact Or.inr (by simp [h1])
      · exact (ih h1).imp id fun h2 => by simp [h2]

/-- Assignment keeps the order. -/
theorem SortedKeys.assign {k : κ} {v : ν} {m : List (κ × ν)} (h : SortedKeys m) :
    SortedKeys (assign k v m) := by
  induction m with
  | nil => simp [DetectBase.assign]
  | cons e m ih =>
    obtain ⟨hlt, hm⟩ := sortedKeys_cons.mp h
    rw [DetectBase.assign]
    split_ifs with h1 h2
    · refine sortedKeys_cons.mpr ⟨fun e' he' => ?_, h⟩
      rcases List.mem_cons.mp he' with rfl | he'
      · exact h1
      · exact lt_trans h1 (hlt e' he')
    · exact sortedKeys_cons.mpr ⟨fun e' he' => h2 ▸ hlt e' he', hm⟩
    · refine sortedKeys_cons.mpr ⟨fun e' he' => ?_, ih hm⟩
      rcases mem_assign he' with rfl | he'
      · exact lt_of_le_of_ne (not_lt.mp h1) (Ne.symm h2)
      · exact hlt e' he'

section Lookup

variable [BEq κ] [LawfulBEq κ]

theorem lookup_cons_eq_ite (e : κ × ν) (m : List (κ × ν)) (k : κ) :
    (e :: m).lookup k = if k = e.1 then some e.2 else m.lookup k := by
  rw [List.lookup_cons]
  split
  · next h => rw [if_pos (eq_of_beq h)]
  · next h => rw [if_neg (beq_eq_false_iff_ne.mp h)]

/-- What is found after an assignment. -/
theorem lookup_assign (k : κ) (v : ν) (m : List (κ × ν)) (k' : κ) :
    (assign k v m).lookup k' = if k' = k then some v else m.lookup k' := by
  induction m with
  | nil => rw [DetectBase.assign, lookup_cons_eq_ite]
  | cons e m ih =>
    rw [DetectBase.assign]
    by_cases h1 : k < e.1
    · rw [if_pos h1, lookup_cons_eq_ite]
    · by_cases h2 : k = e.1
      · rw [if_neg h1, if_pos h2, lookup_cons_eq_ite, lookup_cons_eq_ite, ← h2]
        dsimp only
        split_ifs <;> rfl
      · rw [if_neg h1, if_neg h2, lookup_cons_eq_ite, lookup_cons_eq_ite, ih]
        dsimp only
        split_ifs with h3 h4
        · exact absurd (h4.symm.trans h3) h2
        · rfl
        · rfl
        · rfl

/-- An entry is what is found under its key. -/
theorem SortedKeys.mem_iff_lookup {m : List (κ × ν)} (h : SortedKeys m) {k : κ} {v : ν} :
    (k, v) ∈ m ↔ m.lookup k = some v := by
  induction m with
  | nil => simp
  | cons e m ih =>
    obtain ⟨hlt, hm⟩ := sortedKeys_cons.mp h
    rw [List.mem_cons, lookup_cons_eq_ite]
    split_ifs with hk
    · rw [Option.some.injEq, Prod.ext_iff]
      refine ⟨fun hor => ?_, fun hv => Or.inl ⟨hk, hv.symm⟩⟩
      rcases hor with heq | hmem
      · exact heq.2.symm
      · exact absurd (hk ▸ hlt _ hmem) (lt_irrefl _)
    · rw [← ih hm]
      exact or_iff_right fun heq => hk (congrArg Prod.fst heq)

end Lookup

/-- A key below all others goes to the front. -/
theorem assign_of_lt {k : κ} {v : ν} {m : List (κ × ν)} (h : ∀ e ∈ m, k < e.1) :
    assign k v m = (k, v) :: m := by
  cases m with
  | nil => rfl
  | cons e m => rw [assign, if_pos (h e (by simp))]

/-- A key above all others goes to the back. -/
theorem assign_of_gt {k : κ} {v : ν} {m : List (κ × ν)} (h : ∀ e ∈ m, e.1 < k) :
    assign k v m = m ++ [(k, v)] := by
  induction m with
  | nil => rfl
  | cons e m ih =>
    have hlt : e.1 < k := h e (by simp)
    rw [assign, if_neg (not_lt.mpr hlt.le), if_neg hlt.ne', ih fun e' he' => h e' (by simp [he'])]
    rfl

/-- Filling a map from the front of a sorted list gives the list back. -/
theorem foldl_assign_sorted {m : List (κ × ν)} (h : SortedKeys m) :
    m.foldl (fun acc e => assign e.1 e.2 acc) [] = m := by
  suffices hgen : ∀ acc : List (κ × ν), (∀ a ∈ acc, ∀ e ∈ m, a.1 < e.1) →
      m.foldl (fun acc e => assign e.1 e.2 acc) acc = acc ++ m by
    simpa using hgen [] (by simp)
  induction m with
  | nil => simp
  | cons e m ih =>
    intro acc hacc
    obtain ⟨hlt, hm⟩ := sortedKeys_cons.mp h
    have hnew : ∀ a ∈ acc ++ [(e.1, e.2)], ∀ e' ∈ m, a.1 < e'.1 := by
      intro a ha e' he'
      rcases List.mem_append.mp ha with h1 | h1
      · exact hacc a h1 e' (by simp [he'])
      · rw [List.mem_singleton.mp h1]
        exact hlt e' he'
    rw [List.foldl_cons, assign_of_gt fun a ha => hacc a ha e (by simp), ih hm _ hnew]
    simp

end DetectBase
