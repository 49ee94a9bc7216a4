import DetectBase.Foundations.Matching
import DetectBase.Tracker.Board
import Mathlib.Algebra.Order.Ring.Cast
import Mathlib.Data.Finset.Lattice.Fold
import Mathlib.Tactic.NormNum

/-!
# What the covers of the solver mean

The stars are at zeros of a matrix that is the costs less a number for each row and each column.
While primes are sought, a star has its row covered or its column, and not both; a covered row has
a prime in an uncovered column (`DetectBase.Hungarian.Covered`). So when a prime is found in a row
without a star, the path of stars and primes that begins with it never lacks a prime, and it ends
with one more star.

`DetectBase.Hungarian.solved_path`: the loop of `step4` comes to its end.
-/

namespace DetectBase

namespace Hungarian

open Finset

/-! ### Zeros -/

theorem isZero_iff {x : ℤ} : isZero x = true ↔ x = 0 := by
  rw [isZero, decide_eq_true_eq, dblEpsilon]
  constructor
  · intro h
    by_contra hne
    have hone : (1 : ℚ) ≤ |(x : ℚ)| := by
      rw [← Int.cast_abs]
      exact_mod_cast Int.one_le_abs hne
    have hsmall : (1 : ℚ) / 2 ^ 52 < 1 := by norm_num
    exact absurd (h.trans hsmall) (not_lt.mpr hone)
  · rintro rfl
    norm_num

theorem dblMax_pos : 0 < dblMax := by
  rw [dblMax]
  exact Int.mul_pos (by decide) (Int.pow_pos (by decide))

/-! ### The states of the search -/

variable {R K : ℕ} {costs : ℕ → ℕ → ℤ} {b : Board} {τ : ℕ → ℕ}

/-- **The numbers that have been subtracted** from the rows and the columns. Of the lines of which
there are too many, those without a star have the largest. -/
structure Potentials (R K : ℕ) (costs : ℕ → ℕ → ℤ) (b : Board) (u v : ℕ → ℤ) (top : ℤ) :
    Prop where
  /-- The costs less the numbers. -/
  dist : ∀ r < R, ∀ c < K, b.dist r c = costs r c - u r - v c
  /-- Nothing is negative. -/
  nonneg : ∀ r < R, ∀ c < K, 0 ≤ b.dist r c
  /-- The columns, when there are not fewer than rows. -/
  columns : R ≤ K → ∀ c < K, v c ≤ top ∧ ((∀ r < R, b.star r c = false) → v c = top)
  /-- The rows, when there are more than columns. -/
  rows : K < R → ∀ r < R, u r ≤ top ∧ ((∀ c < K, b.star r c = false) → u r = top)

/-- **What holds throughout.** -/
structure Starred (R K : ℕ) (costs : ℕ → ℕ → ℤ) (b : Board) : Prop where
  /-- The matrix. -/
  potentials : ∃ u v top, Potentials R K costs b u v top
  /-- No two stars are in a line. -/
  independent : Independent (range R) (range K) fun r c => b.star r c = true
  /-- The stars are at zeros. -/
  starZero : ∀ r < R, ∀ c < K, b.star r c = true → b.dist r c = 0
  /-- Nothing is assigned. -/
  blank : ∀ r < R, b.assignment r = -1

/-- Covers and primes do not matter to it. -/
theorem Starred.congr (h : Starred R K costs b) {b' : Board} (hdist : b'.dist = b.dist)
    (hstar : b'.star = b.star) (hassignment : b'.assignment = b.assignment) :
    Starred R K costs b' := by
  obtain ⟨⟨u, v, top, hp⟩, hindependent, hzero, hblank⟩ := h
  refine ⟨⟨u, v, top, ?_, ?_, ?_, ?_⟩, ?_, ?_, ?_⟩
  · rw [hdist]
    exact hp.dist
  · rw [hdist]
    exact hp.nonneg
  · rw [hstar]
    exact hp.columns
  · rw [hstar]
    exact hp.rows
  · rw [hstar]
    exact hindependent
  · rw [hstar, hdist]
    exact hzero
  · rw [hassignment]
    exact hblank

/-- **What holds while primes are sought.** The rows are numbered by `τ`, in the order in which they
get their primes. -/
structure Covered (R K : ℕ) (b : Board) (τ : ℕ → ℕ) : Prop where
  /-- A star has its row covered or its column. -/
  once : ∀ r < R, ∀ c < K, b.star r c = true → (b.coveredRows r = true ↔ b.coveredCols c = false)
  /-- A covered row has a star. -/
  rowStar : ∀ r < R, b.coveredRows r = true → ∃ c < K, b.star r c = true
  /-- A covered column has a star. -/
  columnStar : ∀ c < K, b.coveredCols c = true → ∃ r < R, b.star r c = true
  /-- A covered row has a prime. -/
  rowPrime : ∀ r < R, b.coveredRows r = true → ∃ c < K, b.prime r c = true
  /-- The column of a prime is not covered. -/
  primeColumn : ∀ r < R, ∀ c < K, b.prime r c = true → b.coveredCols c = false
  /-- The primes are at zeros. -/
  primeZero : ∀ r < R, ∀ c < K, b.prime r c = true → b.dist r c = 0
  /-- The star in the column of a prime is in an earlier row. -/
  order : ∀ r < R, ∀ r' < R, ∀ c < K, b.prime r c = true → b.star r' c = true → τ r' < τ r

/-- How many stars there are. -/
noncomputable def stars (R K : ℕ) (b : Board) : ℕ :=
  (starredColumns (range R) (range K) fun r c => b.star r c = true).card

/-- An uncovered star has its row covered. -/
theorem Covered.coveredRow (h : Covered R K b τ) {r c : ℕ} (hr : r < R) (hc : c < K)
    (hstar : b.star r c = true) (huncovered : b.coveredCols c = false) : b.coveredRows r = true :=
  (h.once r hr c hc hstar).mpr huncovered

/-- **An uncovered zero is primed.** -/
theorem Covered.prime (h : Covered R K b τ) {row col : ℕ} (hcol : col < K)
    (hrowU : b.coveredRows row = false) (hcolU : b.coveredCols col = false)
    (hzero : b.dist row col = 0) :
    ∃ τ', Covered R K { b with prime := setAt b.prime row col true } τ' := by
  have hcolumn : ∀ r < R, ∀ c < K, setAt b.prime row col true r c = true →
      b.coveredCols c = false := by
    intro r hr c hc hp
    rcases setAt_true_iff.mp hp with ⟨-, rfl⟩ | hp
    · exact hcolU
    · exact h.primeColumn r hr c hc hp
  -- the row gets a number above those of all others
  refine ⟨Function.update τ row ((range R).sup τ + 1), h.once, h.rowStar, h.columnStar, ?_, hcolumn,
    ?_, ?_⟩
  · intro r hr hcovered
    obtain ⟨c, hc, hp⟩ := h.rowPrime r hr hcovered
    exact ⟨c, hc, setAt_true_iff.mpr (.inr hp)⟩
  · intro r hr c hc hp
    rcases setAt_true_iff.mp hp with ⟨rfl, rfl⟩ | hp
    · exact hzero
    · exact h.primeZero r hr c hc hp
  · intro r hr r' hr' c hc hp hstar
    -- the star is in a covered row, and the row of the new prime is not covered
    have hne : r' ≠ row := by
      rintro rfl
      rw [h.coveredRow hr' hc hstar (hcolumn r hr c hc hp)] at hrowU
      cases hrowU
    rw [Function.update_of_ne hne]
    rcases eq_or_ne r row with rfl | hrow
    · rw [Function.update_self]
      exact Nat.lt_succ_of_le (le_sup (mem_range.mpr hr'))
    · rw [Function.update_of_ne hrow]
      refine h.order r hr r' hr' c hc ?_ hstar
      exact (setAt_true_iff.mp hp).resolve_left fun hsame => hrow hsame.1

/-- **The row of a prime is covered**, and the column of the star in it uncovered. -/
theorem Covered.cover (h : Covered R K b τ)
    (hindependent : Independent (range R) (range K) fun r c => b.star r c = true)
    {row col starCol : ℕ} (hrow : row < R) (hcol : col < K) (hprime : b.prime row col = true)
    (hstarCol : starCol < K) (hstar : b.star row starCol = true) :
    Covered R K { b with
      coveredRows := Function.update b.coveredRows row true
      coveredCols := Function.update b.coveredCols starCol false } τ := by
  have hcovered : ∀ c, Function.update b.coveredCols starCol false c = true →
      b.coveredCols c = true := by
    intro c hc
    rcases eq_or_ne c starCol with rfl | hne
    · rw [Function.update_self] at hc
      cases hc
    · rwa [Function.update_of_ne hne] at hc
  refine ⟨?_, ?_, fun c hc hcov => h.columnStar c hc (hcovered c hcov), ?_, ?_, h.primeZero,
    h.order⟩
  · intro r hr c hc hs
    dsimp only
    rcases eq_or_ne r row with rfl | hne
    · obtain rfl : c = starCol := hindependent.row r (mem_range.mpr hr) c (mem_range.mpr hc) starCol
        (mem_range.mpr hstarCol) hs hstar
      rw [Function.update_self, Function.update_self]
      exact iff_of_true rfl rfl
    · have hne' : c ≠ starCol := by
        rintro rfl
        exact hne (hindependent.column r (mem_range.mpr hr) row (mem_range.mpr hrow) c
          (mem_range.mpr hc) hs hstar)
      rw [Function.update_of_ne hne, Function.update_of_ne hne']
      exact h.once r hr c hc hs
  · intro r hr hcov
    rcases eq_or_ne r row with rfl | hne
    · exact ⟨starCol, hstarCol, hstar⟩
    · dsimp only at hcov
      rw [Function.update_of_ne hne] at hcov
      exact h.rowStar r hr hcov
  · intro r hr hcov
    rcases eq_or_ne r row with rfl | hne
    · exact ⟨col, hcol, hprime⟩
    · dsimp only at hcov
      rw [Function.update_of_ne hne] at hcov
      exact h.rowPrime r hr hcov
  · intro r hr c hc hp
    by_contra hcov
    rw [Bool.not_eq_false] at hcov
    have hfalse := h.primeColumn r hr c hc hp
    rw [hcovered c hcov] at hfalse
    cases hfalse

/-! ### From step to step -/

/-- **The machine comes to the end**, and never asks for what is not there. -/
inductive Reaches (R K : ℕ) : Phase × Board → Board → Prop
  /-- The end. -/
  | finished (b : Board) : Reaches R K (.finished, b) b
  /-- A step. -/
  | step {s : Phase × Board} {f : Board} (hsafe : Safe R K s)
    (h : Reaches R K (Board.next R K s) f) : Reaches R K s f

/-- **The machine comes to an end** with as many stars as there can be. -/
def Solved (R K : ℕ) (costs : ℕ → ℕ → ℤ) (s : Phase × Board) : Prop :=
  ∃ b, Starred R K costs b ∧ stars R K b = minDim R K ∧ Reaches R K s (b.buildAssignmentVector K)

theorem Solved.step {s : Phase × Board} (hsafe : Safe R K s)
    (h : Solved R K costs (Board.next R K s)) : Solved R K costs s := by
  obtain ⟨b, hb, hstars, hreaches⟩ := h
  exact ⟨b, hb, hstars, .step hsafe hreaches⟩

/-- What the matrices are like after a path. -/
structure Fresh (R K : ℕ) (b : Board) : Prop where
  /-- No row is covered. -/
  rows : ∀ r < R, b.coveredRows r = false
  /-- There are no primes. -/
  primes : ∀ r < R, ∀ c < K, b.prime r c = false
  /-- A covered column has a star. -/
  columnStar : ∀ c < K, b.coveredCols c = true → ∃ r < R, b.star r c = true

/-- What the matrices are like when the covered columns are counted. -/
structure Settled (R K : ℕ) (b : Board) : Prop where
  /-- No row is covered. -/
  rows : ∀ r < R, b.coveredRows r = false
  /-- There are no primes. -/
  primes : ∀ r < R, ∀ c < K, b.prime r c = false
  /-- The covered columns are those with a star. -/
  columns : ∀ c < K, b.coveredCols c = true ↔ ∃ r < R, b.star r c = true

theorem Fresh.step2a (h : Fresh R K b) : Settled R K (b.step2a R).2 := by
  refine ⟨h.rows, h.primes, fun c hc => ?_⟩
  change (if firstTrue R (b.star · c) < R then true else b.coveredCols c) = true ↔ _
  split_ifs with hstar
  · exact iff_of_true rfl (firstTrue_lt_iff.mp hstar)
  · rw [firstTrue_lt_iff] at hstar
    exact iff_of_false (fun hcov => hstar (h.columnStar c hc hcov)) hstar

theorem Settled.not_coveredRow (h : Settled R K b) {r : ℕ} (hr : r < R) :
    ¬b.coveredRows r = true := by
  rw [h.rows r hr]
  exact Bool.false_ne_true

theorem Settled.not_prime (h : Settled R K b) {r c : ℕ} (hr : r < R) (hc : c < K) :
    ¬b.prime r c = true := by
  rw [h.primes r hr c hc]
  exact Bool.false_ne_true

theorem Settled.covered (h : Settled R K b) : Covered R K b fun _ => 0 := by
  refine ⟨?_, ?_, fun c hc hcov => (h.columns c hc).mp hcov, ?_, ?_, ?_, ?_⟩
  · intro r hr c hc hstar
    refine iff_of_false (h.not_coveredRow hr) ?_
    rw [(h.columns c hc).mpr ⟨r, hr, hstar⟩]
    exact Ne.symm Bool.false_ne_true
  · exact fun r hr hcov => absurd hcov (h.not_coveredRow hr)
  · exact fun r hr hcov => absurd hcov (h.not_coveredRow hr)
  · exact fun r hr c hc hp => absurd hp (h.not_prime hr hc)
  · exact fun r hr c hc hp => absurd hp (h.not_prime hr hc)
  · exact fun r hr r' _ c hc hp => absurd hp (h.not_prime hr hc)

/-- A loop that counts. -/
theorem iterRange_count (n : ℕ) (p : ℕ → Bool) :
    iterRange n (fun i count => if p i then count + 1 else count) 0 =
      ((range n).filter fun i => p i = true).card := by
  induction n with
  | zero => rfl
  | succ n ih =>
    rw [iterRange_succ, ih, range_add_one, filter_insert]
    split_ifs
    · rw [card_insert_of_notMem fun hmem => notMem_range_self (mem_filter.mp hmem).1]
    · rfl

/-- The covered columns are as many as the stars. -/
theorem Settled.count (h : Settled R K b) :
    iterRange K (fun col count => if b.coveredCols col then count + 1 else count) 0 =
      stars R K b := by
  rw [iterRange_count, stars]
  congr 1
  ext c
  rw [mem_filter, mem_starredColumns]
  refine and_congr_right fun hc => (h.columns c (mem_range.mp hc)).trans ?_
  exact exists_congr fun r => and_congr_left' mem_range.symm

theorem stars_le (h : Starred R K costs b) : stars R K b ≤ minDim R K := by
  have hcolumns : stars R K b ≤ K := by
    refine (card_le_card fun c hc => (mem_starredColumns.mp hc).1).trans ?_
    rw [card_range]
  have hrows : stars R K b ≤ R := by
    rw [stars, ← h.independent.card_eq]
    refine (card_le_card fun r hr => (mem_starredRows.mp hr).1).trans ?_
    rw [card_range]
  rw [minDim]
  split_ifs <;> omega

/-- **When the covered columns are counted**, the machine stops or goes on to seek primes. -/
theorem solved_step2b (hstarred : Starred R K costs b) (hsettled : Settled R K b)
    (h : stars R K b < minDim R K → Solved R K costs (.step3, b)) :
    Solved R K costs (.step2b, b) := by
  have hle := stars_le hstarred
  refine .step trivial ?_
  change Solved R K costs (b.step2b R K)
  rw [Board.step2b, hsettled.count]
  split_ifs with hall
  · exact ⟨b, hstarred, hall, .finished _⟩
  · exact h (by omega)

/-! ### Along a path -/

/-- **In the loop of `step4`.** -/
structure OnPath (R K : ℕ) (b : Board) (τ : ℕ → ℕ) (row₀ starRow starCol : ℕ) : Prop where
  /-- The covers have not been touched. -/
  covered : Covered R K b τ
  /-- The stars that are made. -/
  alternating : Alternating (range R) (range K) (fun r c => b.star r c = true) τ row₀
    (fun r c => b.newStar r c = true) starCol
  /-- The column is not covered. -/
  uncovered : b.coveredCols starCol = false
  /-- The row is that of the star in the column. -/
  next : starRow = firstTrue R (b.star · starCol)
  /-- The stars that are made are at zeros. -/
  newZero : ∀ r < R, ∀ c < K, b.newStar r c = true → b.dist r c = 0

/-- **The path begins** at a prime in a row without a star. -/
theorem Covered.step4 (h : Covered R K b τ) (hstarred : Starred R K costs b) {row col : ℕ}
    (hrow : row < R) (hcol : col < K) (hprime : b.prime row col = true)
    (hnone : ∀ c < K, b.star row c = false) :
    OnPath R K (b.step4 R row col).2 τ row (firstTrue R (b.star · col)) col := by
  refine ⟨⟨h.once, h.rowStar, h.columnStar, h.rowPrime, h.primeColumn, h.primeZero, h.order⟩, ?_,
    h.primeColumn row hrow col hcol hprime, rfl, ?_⟩
  · refine hstarred.independent.alternating (mem_range.mpr hrow) (mem_range.mpr hcol) ?_ ?_
      fun _ _ => setAt_true_iff
    · intro c hc hstar
      rw [hnone c (mem_range.mp hc)] at hstar
      cases hstar
    · exact fun r hr hstar => h.order row hrow r (mem_range.mp hr) col hcol hprime hstar
  · intro r hr c hc hs
    rcases setAt_true_iff.mp hs with ⟨rfl, rfl⟩ | hs
    · exact h.primeZero r hr c hc hprime
    · exact hstarred.starZero r hr c hc hs

/-- There is a prime in the row of the star. -/
theorem OnPath.prime {row₀ starRow starCol : ℕ} (h : OnPath R K b τ row₀ starRow starCol)
    (hrow : starRow < R) : b.star starRow starCol = true ∧
      firstTrue K (b.prime starRow) < K := by
  have hcol : starCol < K := mem_range.mp h.alternating.mem
  have hstar : b.star starRow starCol = true := by
    have hnext := h.next
    have hspec := firstTrue_spec (n := R) (p := (b.star · starCol)) (by omega)
    rwa [← hnext] at hspec
  refine ⟨hstar, firstTrue_lt_iff.mpr ?_⟩
  exact h.covered.rowPrime starRow hrow (h.covered.coveredRow hrow hcol hstar h.uncovered)

/-- **The path goes on**, in an earlier row. -/
theorem OnPath.step {row₀ starRow starCol primeCol : ℕ}
    (h : OnPath R K b τ row₀ starRow starCol) (hstarred : Starred R K costs b)
    (hrow : starRow < R) (hfirst : firstTrue K (b.prime starRow) = primeCol) :
    OnPath R K
      { b with newStar := setAt (setAt b.newStar starRow starCol false) starRow primeCol true }
      τ row₀ (firstTrue R (b.star · primeCol)) primeCol ∧
    (firstTrue R (b.star · primeCol) < R → τ (firstTrue R (b.star · primeCol)) < τ starRow) := by
  obtain ⟨hstar, hprimeCol⟩ := h.prime hrow
  have hprime := firstTrue_spec hprimeCol
  rw [hfirst] at hprimeCol hprime
  have horder : ∀ r' < R, b.star r' primeCol = true → τ r' < τ starRow := fun r' hr' hs =>
    h.covered.order starRow hrow r' hr' primeCol hprimeCol hprime hs
  have hnew : ∀ r c, setAt (setAt b.newStar starRow starCol false) starRow primeCol true r c =
      true ↔ (r = starRow ∧ c = primeCol) ∨
        (¬(r = starRow ∧ c = starCol) ∧ b.newStar r c = true) := by
    intro r c
    rw [setAt_true_iff, setAt]
    split_ifs with hgone
    · exact or_congr_right (iff_of_false not_false fun hs => hs.1 hgone)
    · rw [and_iff_right hgone]
  have hcovered := h.covered
  refine ⟨⟨⟨hcovered.once, hcovered.rowStar, hcovered.columnStar, hcovered.rowPrime,
    hcovered.primeColumn, hcovered.primeZero, hcovered.order⟩, ?_, ?_, rfl, ?_⟩, fun hlt => ?_⟩
  · exact h.alternating.step hstarred.independent (mem_range.mpr hrow) hstar
      (mem_range.mpr hprimeCol) (fun r' hr' hs => horder r' (mem_range.mp hr') hs) hnew
  · exact hcovered.primeColumn starRow hrow primeCol hprimeCol hprime
  · intro r hr c hc hs
    rcases (hnew r c).mp hs with ⟨rfl, rfl⟩ | ⟨-, hs⟩
    · exact hcovered.primeZero r hr c hc hprime
    · exact h.newZero r hr c hc hs
  · exact horder _ hlt (firstTrue_spec hlt)

/-- **The path ends**: there is one more star, and all rows are uncovered. -/
theorem OnPath.finish {row₀ starRow starCol : ℕ} (h : OnPath R K b τ row₀ starRow starCol)
    (hstarred : Starred R K costs b) (hend : ¬starRow < R) :
    Starred R K costs { b with
        prime := fun _ _ => false, star := b.newStar, coveredRows := fun _ => false } ∧
      Fresh R K { b with
        prime := fun _ _ => false, star := b.newStar, coveredRows := fun _ => false } ∧
      stars R K { b with
        prime := fun _ _ => false, star := b.newStar, coveredRows := fun _ => false } =
          stars R K b + 1 := by
  have hnone : ∀ r ∈ range R, ¬b.star r starCol = true := by
    intro r hr hs
    have hlt := (firstTrue_lt_iff (p := (b.star · starCol))).mpr ⟨r, mem_range.mp hr, hs⟩
    rw [← h.next] at hlt
    exact hend hlt
  have halternating := h.alternating
  obtain ⟨u, v, top, hpotentials⟩ := hstarred.potentials
  -- a line that is left without a star has been without one
  have hcolumn : ∀ c < K, (∀ r < R, b.newStar r c = false) → ∀ r < R, b.star r c = false := by
    intro c hc hno r hr
    by_contra hs
    rw [Bool.not_eq_false] at hs
    obtain ⟨r', hr', hs'⟩ := (halternating.columns c (mem_range.mpr hc)).mpr
      (.inl ⟨r, mem_range.mpr hr, hs⟩)
    rw [hno r' (mem_range.mp hr')] at hs'
    cases hs'
  have hrow : ∀ r < R, (∀ c < K, b.newStar r c = false) → ∀ c < K, b.star r c = false := by
    intro r hr hno c hc
    by_contra hs
    rw [Bool.not_eq_false] at hs
    obtain ⟨c', hc', hs'⟩ := (halternating.rows r (mem_range.mpr hr)).mpr
      (.inl ⟨c, mem_range.mpr hc, hs⟩)
    rw [hno c' (mem_range.mp hc')] at hs'
    cases hs'
  refine ⟨⟨⟨u, v, top, hpotentials.dist, hpotentials.nonneg, ?_, ?_⟩,
    halternating.independent hnone, h.newZero, hstarred.blank⟩, ⟨fun _ _ => rfl,
    fun _ _ _ _ => rfl, ?_⟩, halternating.card_eq hnone⟩
  · exact fun hwide c hc => (hpotentials.columns hwide c hc).imp_right fun htop hno =>
      htop (hcolumn c hc hno)
  · exact fun htall r hr => (hpotentials.rows htall r hr).imp_right fun htop hno =>
      htop (hrow r hr hno)
  · intro c hc hcov
    obtain ⟨r, hr, hs⟩ := h.covered.columnStar c hc hcov
    obtain ⟨r', hr', hs'⟩ := (halternating.columns c (mem_range.mpr hc)).mpr
      (.inl ⟨r, mem_range.mpr hr, hs⟩)
    exact ⟨r', mem_range.mp hr', hs'⟩

/-- **The loop of `step4` comes to its end**, since the rows that it goes through are counted
down. -/
theorem solved_path {row₀ starRow starCol : ℕ} (h : OnPath R K b τ row₀ starRow starCol)
    (hstarred : Starred R K costs b)
    (hafter : ∀ b', Starred R K costs b' → Fresh R K b' → stars R K b' = stars R K b + 1 →
      Solved R K costs (.step2a, b')) :
    Solved R K costs (.path starRow starCol, b) := by
  induction hn : (if starRow < R then τ starRow + 1 else 0) using Nat.strong_induction_on
    generalizing b starRow starCol with
  | h n ih =>
    refine .step ⟨mem_range.mp h.alternating.mem, fun hrow => (h.prime hrow).2⟩ ?_
    change Solved R K costs (b.path R K starRow starCol)
    rw [Board.path]
    by_cases hrow : starRow < R
    · rw [if_pos hrow]
      obtain ⟨hnext, hless⟩ := h.step hstarred hrow rfl
      rw [if_pos hrow] at hn
      refine ih _ ?_ hnext (hstarred.congr rfl rfl rfl) hafter rfl
      split_ifs with hnextRow
      · have hlt := hless hnextRow
        omega
      · omega
    · rw [if_neg hrow]
      obtain ⟨hstarred', hfresh, hstars⟩ := h.finish hstarred hrow
      exact hafter _ hstarred' hfresh hstars

/-! ### Seeking primes -/

/-- How many rows are covered. -/
def coveredCount (R : ℕ) (b : Board) : ℕ := ((range R).filter fun r => b.coveredRows r = true).card

/-- A row with a prime is covered. -/
def PrimesCovered (R K : ℕ) (b : Board) : Prop :=
  ∀ r < R, ∀ c < K, b.prime r c = true → b.coveredRows r = true

/-- **In the loop of `step3`**, after the columns below `i`. -/
structure Scanning (R K : ℕ) (b : Board) (i : ℕ) (s : Board.Scan) : Prop where
  /-- The covers and primes. -/
  covered : ∃ τ, Covered R K s.board τ
  /-- The matrix is the same. -/
  dist : s.board.dist = b.dist
  /-- The stars are the same. -/
  star : s.board.star = b.star
  /-- Nothing is assigned. -/
  assignment : s.board.assignment = b.assignment
  /-- A prime has been found in a row without a star. -/
  found : ∀ row col, s.found = some (row, col) → row < R ∧ col < K ∧
    s.board.prime row col = true ∧ ∀ c < K, b.star row c = false
  /-- The rows with a prime are covered. -/
  primeRow : s.found = none → PrimesCovered R K s.board
  /-- More rows are covered. -/
  more : s.found = none → s.zerosFound = true → coveredCount R b < coveredCount R s.board
  /-- Nothing has been found. -/
  none : s.found = none → s.zerosFound = false → s.board = b ∧ ∀ c < i, b.coveredCols c = false →
    ∀ r < R, b.coveredRows r = false → b.dist r c ≠ 0

theorem coveredCount_cover {row : ℕ} (hrow : row < R) (huncovered : b.coveredRows row = false)
    {b' : Board} (hb' : b'.coveredRows = Function.update b.coveredRows row true) :
    coveredCount R b' = coveredCount R b + 1 := by
  have hinsert : (range R).filter (fun r => b'.coveredRows r = true) =
      insert row ((range R).filter fun r => b.coveredRows r = true) := by
    ext r
    rw [mem_insert, mem_filter, mem_filter, hb']
    rcases eq_or_ne r row with rfl | hne
    · rw [Function.update_self]
      exact iff_of_true ⟨mem_range.mpr hrow, rfl⟩ (.inl rfl)
    · rw [Function.update_of_ne hne, or_iff_right hne]
  rw [coveredCount, coveredCount, hinsert, card_insert_of_notMem]
  rw [mem_filter, huncovered]
  exact fun hmem => Bool.false_ne_true hmem.2

theorem uncoveredZero_of_lt {i : ℕ}
    (h : (firstTrue R fun row => !b.coveredRows row && isZero (b.dist row i)) < R) :
    b.coveredRows (firstTrue R fun row => !b.coveredRows row && isZero (b.dist row i)) = false ∧
      b.dist (firstTrue R fun row => !b.coveredRows row && isZero (b.dist row i)) i = 0 := by
  have hspec := firstTrue_spec h
  rw [Bool.and_eq_true, Bool.not_eq_true', isZero_iff] at hspec
  exact hspec

theorem uncovered_of_not_skip {i : ℕ} {s : Board.Scan}
    (h : ¬(s.found.isSome || s.board.coveredCols i) = true) : s.board.coveredCols i = false := by
  rw [Bool.or_eq_true, not_or] at h
  exact Bool.eq_false_of_not_eq_true h.2

theorem found_of_not_skip {i : ℕ} {s : Board.Scan}
    (h : ¬(s.found.isSome || s.board.coveredCols i) = true) : s.found = none := by
  rw [Bool.or_eq_true, not_or] at h
  exact Option.not_isSome_iff_eq_none.mp h.1

/-- A prime is made, and its row is covered. -/
theorem PrimesCovered.cover (h : PrimesCovered R K b) (row col : ℕ) (cols : ℕ → Bool) :
    PrimesCovered R K { b with
      prime := setAt b.prime row col true
      coveredRows := Function.update b.coveredRows row true
      coveredCols := cols } := by
  intro r hr c hc hp
  dsimp only
  rcases eq_or_ne r row with rfl | hne
  · rw [Function.update_self]
  · rw [Function.update_of_ne hne]
    exact h r hr c hc ((setAt_true_iff.mp hp).resolve_left fun hsame => hne hsame.1)

/-- No row has been uncovered. -/
theorem Scanning.coveredCount_le {i : ℕ} {s : Board.Scan} (h : Scanning R K b i s)
    (hnone : s.found = Option.none) : coveredCount R b ≤ coveredCount R s.board := by
  rcases hzeros : s.zerosFound with - | -
  · rw [(h.none hnone hzeros).1]
  · exact (h.more hnone hzeros).le

/-- **One column.** -/
theorem Scanning.scanColumn {i : ℕ} {s : Board.Scan} (h : Scanning R K b i s)
    (hstarred : Starred R K costs b) (hi : i < K) :
    Scanning R K b (i + 1) (Board.scanColumn R K i s) := by
  obtain ⟨τ, hcovered⟩ := h.covered
  rw [Board.scanColumn]
  dsimp only
  split_ifs with hskip hrow hstarCol
  · -- the machine has left the loop, or the column is covered
    refine { h with none := fun hnone hzeros => ?_ }
    obtain ⟨rfl, hbelow⟩ := h.none hnone hzeros
    refine ⟨rfl, fun c hc hcov => ?_⟩
    rcases Nat.lt_succ_iff_lt_or_eq.mp hc with hlt | rfl
    · exact hbelow c hlt hcov
    · rw [hnone, hcov] at hskip
      cases hskip
  · -- a prime in a row without a star
    obtain ⟨hrowU, hzero⟩ := uncoveredZero_of_lt hrow
    have hcolU := uncovered_of_not_skip hskip
    refine ⟨hcovered.prime hi hrowU hcolU hzero, h.dist, h.star, h.assignment, ?_,
      fun hnone => absurd hnone (Option.some_ne_none _),
      fun hnone => absurd hnone (Option.some_ne_none _),
      fun hnone => absurd hnone (Option.some_ne_none _)⟩
    rintro row col ⟨⟩
    refine ⟨hrow, hi, setAt_self _ _ _ _, fun c hc => ?_⟩
    rw [← h.star]
    exact firstTrue_eq_iff.mp hstarCol c hc
  · -- a prime in a row with a star
    obtain ⟨hrowU, hzero⟩ := uncoveredZero_of_lt hrow
    have hcolU := uncovered_of_not_skip hskip
    have hstarLt : firstTrue K (s.board.star (firstTrue R fun row =>
        !s.board.coveredRows row && isZero (s.board.dist row i))) < K :=
      lt_of_le_of_ne firstTrue_le hstarCol
    have hstar := firstTrue_spec hstarLt
    have hindependent := hstarred.independent
    rw [← h.star] at hindependent
    obtain ⟨τ', hprimed⟩ := hcovered.prime hi hrowU hcolU hzero
    refine ⟨⟨_, hprimed.cover hindependent hrow hi (setAt_self _ _ _ _) hstarLt hstar⟩, h.dist,
      h.star, h.assignment, fun row col hfound => ?_, fun hnone => (h.primeRow hnone).cover _ _ _,
      fun hnone _ => ?_, fun _ hzeros => absurd hzeros.symm Bool.false_ne_true⟩
    · rw [found_of_not_skip hskip] at hfound
      cases hfound
    · refine Nat.lt_of_le_of_lt (h.coveredCount_le hnone) ?_
      exact (Nat.lt_succ_self _).trans_eq (coveredCount_cover hrow hrowU rfl).symm
  · -- no uncovered zero in the column
    refine { h with none := fun hnone hzeros => ?_ }
    obtain ⟨hsame, hbelow⟩ := h.none hnone hzeros
    refine ⟨hsame, fun c hc hcov r hr hrowU hzero => ?_⟩
    rcases Nat.lt_succ_iff_lt_or_eq.mp hc with hlt | rfl
    · exact hbelow c hlt hcov r hr hrowU hzero
    · rw [firstTrue_lt_iff] at hrow
      refine hrow ⟨r, hr, ?_⟩
      rw [hsame, hrowU, hzero]
      exact isZero_iff.mpr rfl

end Hungarian

end DetectBase
