import Mathlib.Algebra.BigOperators.Group.List.Basic
import Mathlib.Data.List.Basic
import Mathlib.Order.Nat

/-!
# Tokens in places

A family of lists `holds : L → List ℕ` says which tokens lie in which place. Tokens are minted from
a counter, so that a new one is different from all before. One step of a system
(`DetectBase.Handled`) may drop tokens anywhere, mint one into a place, or move the contents of
one place to another.

Under such steps a token is never in two places (`DetectBase.Unshared.handled`), all tokens stay
below the counter (`DetectBase.Minted.handled`), and a token that has left all places does not come
back (`DetectBase.Handled.absent`).

Where the places are the entries of a list and what they hold is only counted,
`DetectBase.exists_sum_set` sets one of them apart from the others.
-/

namespace DetectBase

variable {L : Type*}

/-- No token lies in two places. -/
def Unshared (holds : L → List ℕ) : Prop :=
  ∀ ⦃c : ℕ⦄ ⦃l l' : L⦄, c ∈ holds l → c ∈ holds l' → l = l'

/-- Every token has been minted. -/
def Minted (n : ℕ) (holds : L → List ℕ) : Prop := ∀ ⦃c : ℕ⦄ ⦃l : L⦄, c ∈ holds l → c < n

/-- **One step of handling tokens**, with the counter before and after. -/
inductive Handled (n : ℕ) (holds : L → List ℕ) : ℕ → (L → List ℕ) → Prop where
  /-- No token goes anywhere it was not. -/
  | keep {holds' : L → List ℕ} (h : ∀ l, holds' l ⊆ holds l) : Handled n holds n holds'
  /-- A new token appears in one place. -/
  | mint {holds' : L → List ℕ} (l₀ : L) (h : ∀ l, l ≠ l₀ → holds' l ⊆ holds l)
      (h₀ : holds' l₀ ⊆ n :: holds l₀) : Handled n holds (n + 1) holds'
  /-- One place is emptied into another. -/
  | move {holds' : L → List ℕ} (l₁ l₂ : L) (h : ∀ l, l ≠ l₂ → holds' l ⊆ holds l)
      (h₁ : holds' l₁ = [])
      (h₂ : holds' l₂ ⊆ holds l₁) : Handled n holds n holds'

variable {n n' : ℕ} {holds holds' : L → List ℕ}

theorem Handled.le (hs : Handled n holds n' holds') : n ≤ n' := by
  cases hs with
  | keep | move => exact le_rfl
  | mint => exact Nat.le_succ n

/-- A token after the step was somewhere before, or is the new one. -/
theorem Handled.origin (hs : Handled n holds n' holds') {c : ℕ} {l : L} (hc : c ∈ holds' l) :
    (∃ l₁, c ∈ holds l₁) ∨ (c = n ∧ n' = n + 1) := by
  classical
  cases hs with
  | keep h => exact Or.inl ⟨l, h l hc⟩
  | mint l₀ h h₀ =>
    rcases eq_or_ne l l₀ with rfl | hl
    · rcases List.mem_cons.mp (h₀ hc) with rfl | hc
      · exact Or.inr ⟨rfl, rfl⟩
      · exact Or.inl ⟨l, hc⟩
    · exact Or.inl ⟨l, h l hl hc⟩
  | move l₁ l₂ h _ h₂ =>
    rcases eq_or_ne l l₂ with rfl | hl
    · exact Or.inl ⟨l₁, h₂ hc⟩
    · exact Or.inl ⟨l, h l hl hc⟩

theorem Minted.handled (h : Minted n holds) (hs : Handled n holds n' holds') :
    Minted n' holds' := by
  intro c l hc
  rcases hs.origin hc with ⟨l₁, hl₁⟩ | ⟨rfl, hn'⟩
  · exact lt_of_lt_of_le (h hl₁) hs.le
  · omega

/-- **A token that has left all places does not come back.** -/
theorem Handled.absent (hs : Handled n holds n' holds') {c : ℕ} (hc : c < n)
    (hno : ∀ l, c ∉ holds l) (l : L) : c ∉ holds' l := by
  intro hmem
  rcases hs.origin hmem with ⟨l₁, hl₁⟩ | ⟨rfl, -⟩
  · exact hno l₁ hl₁
  · exact lt_irrefl c hc

/-- **No step puts a token in two places.** -/
theorem Unshared.handled (h : Unshared holds) (hm : Minted n holds)
    (hs : Handled n holds n' holds') : Unshared holds' := by
  classical
  intro c l l' hl hl'
  cases hs with
  | keep hsub => exact h (hsub l hl) (hsub l' hl')
  | mint l₀ hsub h₀ =>
    have hwhere : ∀ l, c ∈ holds' l → c ∈ holds l ∨ (c = n ∧ l = l₀) := by
      intro l hl
      rcases eq_or_ne l l₀ with rfl | hne
      · exact (List.mem_cons.mp (h₀ hl)).elim (fun hc => Or.inr ⟨hc, rfl⟩) Or.inl
      · exact Or.inl (hsub l hne hl)
    rcases hwhere l hl with h1 | ⟨rfl, rfl⟩
    · rcases hwhere l' hl' with h2 | ⟨rfl, -⟩
      · exact h h1 h2
      · exact absurd (hm h1) (lt_irrefl c)
    · rcases hwhere l' hl' with h2 | ⟨-, rfl⟩
      · exact absurd (hm h2) (lt_irrefl c)
      · rfl
  | move l₁ l₂ hsub h₁ h₂ =>
    -- a token that has moved has left the place it came from, and was nowhere else
    have hmoved : ∀ l, c ∈ holds' l → l ≠ l₂ → c ∉ holds' l₂ := by
      intro l hl hne hc
      have heq : l₁ = l := h (h₂ hc) (hsub l hne hl)
      rw [← heq, h₁] at hl
      cases hl
    rcases eq_or_ne l l₂ with rfl | hne
    · rcases eq_or_ne l' l with rfl | hne'
      · rfl
      · exact absurd hl (hmoved l' hl' hne')
    · rcases eq_or_ne l' l₂ with rfl | hne'
      · exact absurd hl' (hmoved l hl hne)
      · exact h (hsub l hne hl) (hsub l' hne' hl')

/-- One entry among all, before and after it has changed. -/
theorem exists_sum_set {α M : Type*} [AddCommMonoid M] (f : α → M) {l : List α} {i : ℕ} {x : α}
    (hx : l[i]? = some x) : ∃ others : M, (l.map f).sum = f x + others ∧
      ∀ y, ((l.set i y).map f).sum = f y + others := by
  obtain ⟨hlt, rfl⟩ := List.getElem?_eq_some_iff.mp hx
  refine ⟨((l.take i).map f).sum + ((l.drop (i + 1)).map f).sum, ?_, fun y => ?_⟩
  · have hsplit : l = l.take i ++ l[i] :: l.drop (i + 1) := by simp
    conv_lhs => rw [hsplit]
    simp only [List.map_append, List.map_cons, List.sum_append, List.sum_cons]
    exact add_left_comm _ _ _
  · rw [List.set_eq_take_append_cons_drop, if_pos hlt]
    simp only [List.map_append, List.map_cons, List.sum_append, List.sum_cons]
    exact add_left_comm _ _ _

end DetectBase
