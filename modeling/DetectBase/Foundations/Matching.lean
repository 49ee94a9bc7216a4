import Mathlib.Algebra.BigOperators.Group.Finset.Basic
import Mathlib.Algebra.Order.BigOperators.Group.Finset
import Mathlib.Data.Finset.Card
import Mathlib.Tactic.Tauto

/-!
# Matchings by stars and primes

Some places of a matrix are starred, no two of them in a line (`DetectBase.Independent`). Along a
path of primes and stars, one more place can be starred: the path begins with a prime in a row
without a star, goes on from a prime to the star in its column and from a star to a prime in its
row, and ends in a column without a star. `DetectBase.Alternating` says what the stars are in the
midst of the path. The rows that it goes through are counted down, so that none is met twice.

A matching of full size is cheapest if the costs of its places are sums of numbers for the rows and
columns that are nowhere more than the cost, and the lines it leaves out have the largest numbers
(`DetectBase.sum_cost_le`).
-/

namespace DetectBase

open Finset

variable {ι κ : Type*}

/-! ### Stars -/

/-- **No two stars are in a line.** -/
structure Independent (A : Finset ι) (B : Finset κ) (S : ι → κ → Prop) : Prop where
  /-- A row has at most one star. -/
  row : ∀ i ∈ A, ∀ j ∈ B, ∀ j' ∈ B, S i j → S i j' → j = j'
  /-- A column has at most one star. -/
  column : ∀ i ∈ A, ∀ i' ∈ A, ∀ j ∈ B, S i j → S i' j → i = i'

section Stars

open Classical

variable {A : Finset ι} {B : Finset κ} {S N : ι → κ → Prop}

/-- The rows with a star. -/
noncomputable def starredRows (A : Finset ι) (B : Finset κ) (S : ι → κ → Prop) : Finset ι :=
  A.filter fun i => ∃ j ∈ B, S i j

/-- The columns with a star. -/
noncomputable def starredColumns (A : Finset ι) (B : Finset κ) (S : ι → κ → Prop) : Finset κ :=
  B.filter fun j => ∃ i ∈ A, S i j

theorem mem_starredRows {i : ι} : i ∈ starredRows A B S ↔ i ∈ A ∧ ∃ j ∈ B, S i j := mem_filter

theorem mem_starredColumns {j : κ} : j ∈ starredColumns A B S ↔ j ∈ B ∧ ∃ i ∈ A, S i j :=
  mem_filter

/-- **There are as many rows with a star as columns.** -/
theorem Independent.card_eq (h : Independent A B S) :
    (starredRows A B S).card = (starredColumns A B S).card := by
  have hstar : ∀ i ∈ starredRows A B S, ∃ j, j ∈ B ∧ S i j := fun i hi =>
    (mem_starredRows.mp hi).2
  refine card_bij (fun i hi => (hstar i hi).choose) ?_ ?_ ?_
  · intro i hi
    obtain ⟨hj, hs⟩ := (hstar i hi).choose_spec
    exact mem_starredColumns.mpr ⟨hj, i, (mem_starredRows.mp hi).1, hs⟩
  · intro i hi i' hi' heq
    obtain ⟨hj, hs⟩ := (hstar i hi).choose_spec
    obtain ⟨-, hs'⟩ := (hstar i' hi').choose_spec
    rw [← heq] at hs'
    exact h.column i (mem_starredRows.mp hi).1 i' (mem_starredRows.mp hi').1 _ hj hs hs'
  · intro j hj
    obtain ⟨hjB, i, hi, hs⟩ := mem_starredColumns.mp hj
    have hrow : i ∈ starredRows A B S := mem_starredRows.mpr ⟨hi, j, hjB, hs⟩
    obtain ⟨hj', hs'⟩ := (hstar i hrow).choose_spec
    exact ⟨i, hrow, h.row i hi _ hj' j hjB hs' hs⟩

end Stars

/-! ### Alternating paths -/

/-- **In the midst of a path**, which has begun in the row `row₀` and has come to the column `col`.
`S` are the stars before, `N` the stars now, and `τ` numbers the rows. -/
structure Alternating (A : Finset ι) (B : Finset κ) (S : ι → κ → Prop) (τ : ι → ℕ) (row₀ : ι)
    (N : ι → κ → Prop) (col : κ) : Prop where
  /-- The column is one of the matrix. -/
  mem : col ∈ B
  /-- A row has at most one star. -/
  row : ∀ i ∈ A, ∀ j ∈ B, ∀ j' ∈ B, N i j → N i j' → j = j'
  /-- Another column has at most one star. -/
  column : ∀ j ∈ B, j ≠ col → ∀ i ∈ A, ∀ i' ∈ A, N i j → N i' j → i = i'
  /-- The column that the path has come to has a new star, besides the one before. -/
  twice : ∃ x ∈ A, N x col ∧ ¬S x col ∧ ∀ i ∈ A, N i col → i = x ∨ S i col
  /-- One more row has a star. -/
  rows : ∀ i ∈ A, (∃ j ∈ B, N i j) ↔ (∃ j ∈ B, S i j) ∨ i = row₀
  /-- One more column has a star. -/
  columns : ∀ j ∈ B, (∃ i ∈ A, N i j) ↔ (∃ i ∈ A, S i j) ∨ j = col
  /-- The rows that are still to come have not been touched. -/
  kept : ∀ r ∈ A, S r col → ∀ i ∈ A, τ i ≤ τ r → ∀ j ∈ B, N i j ↔ S i j

section Paths

variable {A : Finset ι} {B : Finset κ} {S N N' : ι → κ → Prop} {τ : ι → ℕ} {row₀ : ι} {col : κ}

/-- **The path begins** with a prime in a row without a star. -/
theorem Independent.alternating (h : Independent A B S) (hrow₀ : row₀ ∈ A) (hcol : col ∈ B)
    (hnone : ∀ j ∈ B, ¬S row₀ j) (horder : ∀ r ∈ A, S r col → τ r < τ row₀)
    (hN : ∀ i j, N i j ↔ (i = row₀ ∧ j = col) ∨ S i j) : Alternating A B S τ row₀ N col := by
  refine ⟨hcol, ?_, ?_, ⟨row₀, hrow₀, (hN _ _).mpr (.inl ⟨rfl, rfl⟩), hnone col hcol, ?_⟩, ?_, ?_,
    ?_⟩
  · intro i hi j hj j' hj' hs hs'
    rcases (hN i j).mp hs with ⟨rfl, rfl⟩ | hs <;> rcases (hN i j').mp hs' with ⟨hrow, rfl⟩ | hs'
    · rfl
    · exact absurd hs' (hnone j' hj')
    · rw [hrow] at hs
      exact absurd hs (hnone j hj)
    · exact h.row i hi j hj j' hj' hs hs'
  · intro j hj hne i hi i' hi' hs hs'
    rcases (hN i j).mp hs with ⟨-, rfl⟩ | hs
    · exact absurd rfl hne
    rcases (hN i' j).mp hs' with ⟨-, rfl⟩ | hs'
    · exact absurd rfl hne
    exact h.column i hi i' hi' j hj hs hs'
  · intro i hi hs
    exact ((hN i col).mp hs).imp_left And.left
  · intro i hi
    constructor
    · rintro ⟨j, hj, hs⟩
      exact ((hN i j).mp hs).elim (fun hnew => .inr hnew.1) fun hs => .inl ⟨j, hj, hs⟩
    · rintro (⟨j, hj, hs⟩ | rfl)
      · exact ⟨j, hj, (hN i j).mpr (.inr hs)⟩
      · exact ⟨col, hcol, (hN _ _).mpr (.inl ⟨rfl, rfl⟩)⟩
  · intro j hj
    constructor
    · rintro ⟨i, hi, hs⟩
      exact ((hN i j).mp hs).elim (fun hnew => .inr hnew.2) fun hs => .inl ⟨i, hi, hs⟩
    · rintro (⟨i, hi, hs⟩ | rfl)
      · exact ⟨i, hi, (hN i j).mpr (.inr hs)⟩
      · exact ⟨row₀, hrow₀, (hN _ _).mpr (.inl ⟨rfl, rfl⟩)⟩
  · intro r hr hs i hi hle j hj
    have hlt := horder r hr hs
    rw [hN i j, or_iff_right]
    rintro ⟨rfl, -⟩
    omega

/-- The row of the star in the column has had no other one. -/
theorem Alternating.row_iff (h : Alternating A B S τ row₀ N col) (hS : Independent A B S) {r : ι}
    (hr : r ∈ A) (hstar : S r col) {j : κ} (hj : j ∈ B) : N r j ↔ j = col := by
  rw [h.kept r hr hstar r hr le_rfl j hj]
  constructor
  · exact fun hs => hS.row r hr j hj col h.mem hs hstar
  · rintro rfl
    exact hstar

/-- **The path goes on** from a star to a prime in its row. -/
theorem Alternating.step (h : Alternating A B S τ row₀ N col) (hS : Independent A B S) {r : ι}
    (hr : r ∈ A) (hstar : S r col) {next : κ} (hnext : next ∈ B)
    (horder : ∀ r' ∈ A, S r' next → τ r' < τ r)
    (hN : ∀ i j, N' i j ↔ (i = r ∧ j = next) ∨ (¬(i = r ∧ j = col) ∧ N i j)) :
    Alternating A B S τ row₀ N' next := by
  have hne : col ≠ next := by
    rintro rfl
    exact lt_irrefl _ (horder r hr hstar)
  have hrow' : ∀ j ∈ B, N' r j ↔ j = next := by
    intro j hj
    rw [hN, h.row_iff hS hr hstar hj]
    tauto
  have hother : ∀ i j, i ≠ r → (N' i j ↔ N i j) := by
    intro i j hi
    rw [hN]
    tauto
  obtain ⟨x, hx, hnew, hold, htwice⟩ := h.twice
  have hxr : x ≠ r := by
    rintro rfl
    exact hold hstar
  refine ⟨hnext, ?_, ?_, ⟨r, hr, (hrow' next hnext).mpr rfl, ?_, ?_⟩, ?_, ?_, ?_⟩
  · intro i hi j hj j' hj' hs hs'
    rcases eq_or_ne i r with rfl | hir
    · rw [(hrow' j hj).mp hs, (hrow' j' hj').mp hs']
    · exact h.row i hi j hj j' hj' ((hother i j hir).mp hs) ((hother i j' hir).mp hs')
  · intro j hj hjn i hi i' hi' hs hs'
    have hir : i ≠ r := by
      rintro rfl
      exact hjn ((hrow' j hj).mp hs)
    have hir' : i' ≠ r := by
      rintro rfl
      exact hjn ((hrow' j hj).mp hs')
    rw [hother i j hir] at hs
    rw [hother i' j hir'] at hs'
    rcases eq_or_ne j col with rfl | hjc
    · have honly : ∀ k ∈ A, k ≠ r → N k j → k = x := fun k hk hkr hks =>
        (htwice k hk hks).resolve_right fun hs => hkr (hS.column k hk r hr j hj hs hstar)
      rw [honly i hi hir hs, honly i' hi' hir' hs']
    · exact h.column j hj hjc i hi i' hi' hs hs'
  · exact fun hs => lt_irrefl _ (horder r hr hs)
  · intro i hi hs
    rcases eq_or_ne i r with rfl | hir
    · exact .inl rfl
    · rw [hother i next hir] at hs
      obtain ⟨i', hi', hs'⟩ := ((h.columns next hnext).mp ⟨i, hi, hs⟩).resolve_right hne.symm
      have hkept := (h.kept r hr hstar i' hi' (horder i' hi' hs').le next hnext).mpr hs'
      rw [h.column next hnext hne.symm i hi i' hi' hs hkept]
      exact .inr hs'
  · intro i hi
    rcases eq_or_ne i r with rfl | hir
    · exact iff_of_true ⟨next, hnext, (hrow' next hnext).mpr rfl⟩ (.inl ⟨col, h.mem, hstar⟩)
    · rw [← h.rows i hi]
      exact exists_congr fun j => and_congr_right fun _ => hother i j hir
  · intro j hj
    rcases eq_or_ne j next with rfl | hjn
    · exact iff_of_true ⟨r, hr, (hrow' j hj).mpr rfl⟩ (.inr rfl)
    rcases eq_or_ne j col with rfl | hjc
    · exact iff_of_true ⟨x, hx, (hother x j hxr).mpr hnew⟩ (.inl ⟨r, hr, hstar⟩)
    · have hsame := h.columns j hj
      rw [or_iff_left hjc] at hsame
      rw [or_iff_left hjn, ← hsame]
      refine exists_congr fun i => and_congr_right fun _ => ?_
      rcases eq_or_ne i r with rfl | hir
      · rw [hrow' j hj, h.row_iff hS hr hstar hj]
        exact iff_of_false hjn hjc
      · exact hother i j hir
  · intro r' hr' hs i hi hle j hj
    have hlt := horder r' hr' hs
    have hir : i ≠ r := by
      rintro rfl
      omega
    rw [hother i j hir]
    exact h.kept r hr hstar i hi (by omega) j hj

/-- **The path ends** in a column without a star: no two stars are in a line. -/
theorem Alternating.independent (h : Alternating A B S τ row₀ N col) (hnone : ∀ i ∈ A, ¬S i col) :
    Independent A B N := by
  refine ⟨h.row, fun i hi i' hi' j hj hs hs' => ?_⟩
  rcases eq_or_ne j col with rfl | hne
  · obtain ⟨x, -, -, -, htwice⟩ := h.twice
    rw [(htwice i hi hs).resolve_right (hnone i hi),
      (htwice i' hi' hs').resolve_right (hnone i' hi')]
  · exact h.column j hj hne i hi i' hi' hs hs'

/-- There is one more star. -/
theorem Alternating.card_eq (h : Alternating A B S τ row₀ N col) (hnone : ∀ i ∈ A, ¬S i col) :
    (starredColumns A B N).card = (starredColumns A B S).card + 1 := by
  classical
  have hnew : starredColumns A B N = insert col (starredColumns A B S) := by
    ext j
    rw [mem_insert, mem_starredColumns, mem_starredColumns]
    constructor
    · rintro ⟨hj, hs⟩
      exact ((h.columns j hj).mp hs).elim (fun hs => .inr ⟨hj, hs⟩) .inl
    · rintro (rfl | ⟨hj, hs⟩)
      · exact ⟨h.mem, (h.columns j h.mem).mpr (.inr rfl)⟩
      · exact ⟨hj, (h.columns j hj).mpr (.inl hs)⟩
  rw [hnew, card_insert_of_notMem]
  rw [mem_starredColumns]
  rintro ⟨-, i, hi, hs⟩
  exact hnone i hi hs

end Paths

/-! ### Costs -/

section Costs

variable {M : Type*} [AddCommGroup M] [LinearOrder M] [IsOrderedAddMonoid M]

/-- A set whose outside has the largest weights is the lightest of its size. -/
theorem sum_le_sum_of_largest {s t : Finset ι} {w : ι → M} (top : M) (hcard : s.card = t.card)
    (hle : ∀ i ∈ s, w i ≤ top) (htop : ∀ i ∈ t, i ∉ s → w i = top) :
    ∑ i ∈ s, w i ≤ ∑ i ∈ t, w i := by
  classical
  have hslack : ∑ i ∈ t, (top - w i) ≤ ∑ i ∈ s, (top - w i) := by
    calc ∑ i ∈ t, (top - w i) = ∑ i ∈ t.filter (· ∈ s), (top - w i) := by
          refine (sum_subset (filter_subset _ t) fun i hi hout => ?_).symm
          rw [htop i hi fun hs => hout (mem_filter.mpr ⟨hi, hs⟩), sub_self]
      _ ≤ ∑ i ∈ s, (top - w i) := by
          refine sum_le_sum_of_subset_of_nonneg (fun i hi => (mem_filter.mp hi).2) ?_
          exact fun i hi _ => sub_nonneg.mpr (hle i hi)
  rw [sum_sub_distrib, sum_sub_distrib, sum_const, sum_const, hcard] at hslack
  exact (sub_le_sub_iff_left _).mp hslack

/-- **A tight matching is cheapest**, where the numbers of the lines do not add up to less for any
other. -/
theorem sum_cost_le {A A' : Finset ι} {σ σ' : ι → κ} {cost : ι → κ → M} {u : ι → M} {v : κ → M}
    (htight : ∀ i ∈ A, cost i (σ i) = u i + v (σ i))
    (hle : ∀ i ∈ A', u i + v (σ' i) ≤ cost i (σ' i))
    (hrows : ∑ i ∈ A, u i ≤ ∑ i ∈ A', u i)
    (hcolumns : ∑ i ∈ A, v (σ i) ≤ ∑ i ∈ A', v (σ' i)) :
    ∑ i ∈ A, cost i (σ i) ≤ ∑ i ∈ A', cost i (σ' i) := by
  calc ∑ i ∈ A, cost i (σ i) = ∑ i ∈ A, u i + ∑ i ∈ A, v (σ i) := by
        rw [← sum_add_distrib]
        exact sum_congr rfl htight
    _ ≤ ∑ i ∈ A', u i + ∑ i ∈ A', v (σ' i) := add_le_add hrows hcolumns
    _ = ∑ i ∈ A', (u i + v (σ' i)) := sum_add_distrib.symm
    _ ≤ ∑ i ∈ A', cost i (σ' i) := sum_le_sum hle

end Costs

end DetectBase
