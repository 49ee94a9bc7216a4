import Mathlib.Data.List.Basic

/-!
# Greedy selection

A list is gone through from the front, and each member that is still there strikes out the later
ones it is in conflict with (`DetectBase.greedy`). No two of the members that are left are in
conflict (`DetectBase.pairwise_greedy`), and a member that is struck out is in conflict with an
earlier one that is left (`DetectBase.exists_of_notMem_greedy`).

Members that cannot be in conflict do not matter to each other: what is left of a part of the list
is what is left when the selection starts from that part (`DetectBase.filter_greedy`), and two kinds
of conflicts between different members may be gone through one after the other
(`DetectBase.greedy_greedy`).
-/

namespace DetectBase

variable {α β : Type*}

/-- What is left of a list when a member in front of it strikes out what it is in conflict with. -/
def strike (R : α → α → Prop) [DecidableRel R] (a : α) (l : List α) : List α :=
  l.filter fun b => ¬R a b

/-- **The greedy selection**: each member strikes out the later ones that it is in conflict with. -/
def greedy (R : α → α → Prop) [DecidableRel R] : List α → List α
  | [] => []
  | a :: l => a :: greedy R (strike R a l)
termination_by l => l.length
decreasing_by exact Nat.lt_succ_of_le (List.length_filter_le _ l)

section

variable (R : α → α → Prop) [DecidableRel R]

@[simp] theorem greedy_nil : greedy R [] = [] := by rw [greedy]

theorem greedy_cons (a : α) (l : List α) :
    greedy R (a :: l) = a :: greedy R (strike R a l) := by rw [greedy]

theorem strike_sublist (a : α) (l : List α) : (strike R a l).Sublist l := List.filter_sublist

variable {R} in
theorem mem_strike {a b : α} {l : List α} : b ∈ strike R a l ↔ b ∈ l ∧ ¬R a b := by
  rw [strike, List.mem_filter, decide_eq_true_eq]

variable {R} in
theorem strike_eq_self {a : α} {l : List α} (h : ∀ b, ¬R a b) : strike R a l = l :=
  List.filter_eq_self.mpr fun b _ => decide_eq_true (h b)

theorem greedy_sublist (l : List α) : (greedy R l).Sublist l := by
  induction l using greedy.induct R with
  | case1 =>
    rw [greedy_nil]
  | case2 a l ih =>
    rw [greedy_cons]
    exact (ih.trans (strike_sublist R a l)).cons_cons a

variable {R}

theorem mem_of_mem_greedy {l : List α} {a : α} (h : a ∈ greedy R l) : a ∈ l :=
  (greedy_sublist R l).subset h

/-- **No two of the members that are left are in conflict.** -/
theorem pairwise_greedy (l : List α) : (greedy R l).Pairwise fun a b => ¬R a b := by
  induction l using greedy.induct R with
  | case1 =>
    rw [greedy_nil]
    exact List.Pairwise.nil
  | case2 a l ih =>
    rw [greedy_cons]
    refine List.Pairwise.cons (fun b hb => ?_) ih
    exact (mem_strike.mp (mem_of_mem_greedy hb)).2

/-- **A member that is struck out is in conflict with an earlier one that is left.** That it is
earlier is told by whatever holds between the earlier and the later members of the list. -/
theorem exists_of_notMem_greedy {S : α → α → Prop} {l : List α} (hS : l.Pairwise S) {a : α}
    (ha : a ∈ l) (hnot : a ∉ greedy R l) : ∃ b ∈ greedy R l, R b a ∧ S b a := by
  induction l using greedy.induct R with
  | case1 => cases ha
  | case2 b l ih =>
    rw [greedy_cons] at hnot ⊢
    obtain ⟨hne, hnot⟩ := not_or.mp (fun h => hnot (List.mem_cons.mpr h))
    obtain ⟨hfirst, hS⟩ := List.pairwise_cons.mp hS
    have hmem : a ∈ l := (List.mem_cons.mp ha).resolve_left hne
    by_cases hR : R b a
    · exact ⟨b, List.mem_cons_self, hR, hfirst a hmem⟩
    · obtain ⟨c, hc, hconflict⟩ :=
        ih (hS.sublist (strike_sublist R b l)) (mem_strike.mpr ⟨hmem, hR⟩) hnot
      exact ⟨c, List.mem_cons_of_mem b hc, hconflict⟩

/-- **A part of the list that is not in conflict with the rest** is selected from by itself. -/
theorem filter_greedy {p : α → Bool} (hp : ∀ a b, R a b → p a = p b) (l : List α) :
    (greedy R l).filter p = greedy R (l.filter p) := by
  induction l using greedy.induct R with
  | case1 => rw [greedy_nil, List.filter_nil, greedy_nil]
  | case2 a l ih =>
    rw [greedy_cons]
    cases hpa : p a with
    | true =>
      rw [List.filter_cons_of_pos hpa, List.filter_cons_of_pos hpa, greedy_cons, ih, strike,
        strike, List.filter_comm]
    | false =>
      rw [List.filter_cons_of_neg (by simp [hpa]), List.filter_cons_of_neg (by simp [hpa]), ih,
        strike, List.filter_filter]
      refine congrArg (greedy R) (List.filter_congr fun b _ => ?_)
      -- what `a` strikes out is not in the part
      cases hpb : p b with
      | false => rfl
      | true =>
        have hR : ¬R a b := fun h => by simp [hp a b h, hpb] at hpa
        simp [hR]

/-- The selection from the images is the image of the selection. -/
theorem greedy_map {R' : β → β → Prop} [DecidableRel R'] (f : α → β) (l : List α)
    (h : ∀ a ∈ l, ∀ b ∈ l, R' (f a) (f b) ↔ R a b) :
    greedy R' (l.map f) = (greedy R l).map f := by
  induction l using greedy.induct R with
  | case1 => rw [List.map_nil, greedy_nil, greedy_nil, List.map_nil]
  | case2 a l ih =>
    have hsub : ∀ b ∈ strike R a l, b ∈ a :: l := fun b hb =>
      List.mem_cons_of_mem a (mem_strike.mp hb).1
    rw [List.map_cons, greedy_cons, greedy_cons, List.map_cons,
      ← ih fun b hb c hc => h b (hsub b hb) c (hsub c hc), strike, strike, List.filter_map]
    refine congrArg (fun l => f a :: greedy R' (List.map f l)) (List.filter_congr fun b hb => ?_)
    simp [h a List.mem_cons_self b (List.mem_cons_of_mem a hb)]

/-- If nothing is in conflict, everything is left. -/
theorem greedy_of_forall_not {l : List α} (h : ∀ a b, ¬R a b) : greedy R l = l := by
  induction l using greedy.induct R with
  | case1 => exact greedy_nil R
  | case2 a l ih =>
    rw [greedy_cons, ih, strike_eq_self (h a)]

end

/-- **Conflicts between different members one after the other.** If the members in conflict by the
first relation are told from those in conflict by the second, a selection by the one and then by the
other is a selection by both. -/
theorem greedy_greedy {R₁ R₂ R : α → α → Prop} [DecidableRel R₁] [DecidableRel R₂]
    [DecidableRel R] (hR : ∀ a b, R a b ↔ R₁ a b ∨ R₂ a b) {p : α → Prop}
    (h₁ : ∀ a b, R₁ a b → p a ∧ p b) (h₂ : ∀ a b, R₂ a b → ¬p a ∧ ¬p b) (l : List α) :
    greedy R₂ (greedy R₁ l) = greedy R l := by
  induction l using greedy.induct R with
  | case1 => rw [greedy_nil, greedy_nil, greedy_nil]
  | case2 a l ih =>
    rw [greedy_cons R₁, greedy_cons R₂, greedy_cons R, ← ih, strike, filter_greedy ?_, strike,
      strike, List.filter_filter]
    · refine congrArg (fun l => a :: greedy R₂ (greedy R₁ l)) (List.filter_congr fun b _ => ?_)
      simp [hR, Bool.and_comm]
    · -- whatever `a` strikes out by the second relation is in no conflict by the first
      intro b c hbc
      have hb : ¬R₂ a b := fun h => (h₂ a b h).2 (h₁ b c hbc).1
      have hc : ¬R₂ a c := fun h => (h₂ a c h).2 (h₁ b c hbc).2
      simp [hb, hc]

end DetectBase
