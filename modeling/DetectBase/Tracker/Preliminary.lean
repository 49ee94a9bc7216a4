import DetectBase.Tracker.Search

/-!
# What the solver begins with

The smallest element of each line is subtracted from it, along the rows when there are not more of
them than columns, and else along the columns. Then each of these lines gets a star, at the first
zero whose other line has none.

`DetectBase.Hungarian.solved_start`: from there the machine comes to the end, with as many stars as
there can be.
-/

namespace DetectBase

namespace Hungarian

open Finset

variable {R K : ℕ} {costs d : ℕ → ℕ → ℤ} {b : Board}

theorem smallest_le (f : ℕ → ℤ) {n i : ℕ} (h : i ≤ n) : Board.smallest f n ≤ f i := by
  have hall : ∀ j ≤ n, Board.smallest f n ≤ f j := by
    refine iterRange_rule (P := fun n m => ∀ j ≤ n, m ≤ f j) ?_ ?_
    · intro j hj
      rw [Nat.le_zero.mp hj]
    · intro k _ m hm j hj
      rcases Nat.lt_or_eq_of_le hj with hjk | rfl
      · have hold := hm j (Nat.le_of_lt_succ hjk)
        split_ifs <;> omega
      · split_ifs <;> omega
  exact hall i h

/-! ### The first stars -/

/-- **While the first stars are made.** Covered rows are of no account here. -/
structure Marked (R K : ℕ) (d : ℕ → ℕ → ℤ) (b : Board) : Prop where
  /-- The matrix. -/
  dist : b.dist = d
  /-- No two stars are in a line. -/
  independent : Independent (range R) (range K) fun r c => b.star r c = true
  /-- The stars are at zeros. -/
  starZero : ∀ r < R, ∀ c < K, b.star r c = true → d r c = 0
  /-- The covered columns are those with a star. -/
  columns : ∀ c < K, b.coveredCols c = true ↔ ∃ r < R, b.star r c = true
  /-- There are no primes. -/
  primes : ∀ r < R, ∀ c < K, b.prime r c = false
  /-- Nothing is assigned. -/
  blank : ∀ r < R, b.assignment r = -1

/-- **One more star**, at a zero in two lines without one. -/
theorem Marked.setStar (h : Marked R K d b) {row col : ℕ} (hrow : row < R) (hcol : col < K)
    (hzero : d row col = 0) (hnoneRow : ∀ c < K, b.star row c = false)
    (hnoneCol : ∀ r < R, b.star r col = false) (rows : ℕ → Bool) :
    Marked R K d { b with
      star := setAt b.star row col true
      coveredCols := Function.update b.coveredCols col true
      coveredRows := rows } := by
  have hrowNone : ∀ c < K, ¬b.star row c = true := by
    intro c hc
    rw [hnoneRow c hc]
    exact Bool.false_ne_true
  have hcolNone : ∀ r < R, ¬b.star r col = true := by
    intro r hr
    rw [hnoneCol r hr]
    exact Bool.false_ne_true
  refine ⟨h.dist, ⟨?_, ?_⟩, ?_, ?_, h.primes, h.blank⟩
  · intro r hr c hc c' hc' hs hs'
    rcases setAt_true_iff.mp hs with ⟨rfl, rfl⟩ | hold
    · rcases setAt_true_iff.mp hs' with ⟨-, rfl⟩ | hold'
      · rfl
      · exact absurd hold' (hrowNone c' (mem_range.mp hc'))
    · rcases setAt_true_iff.mp hs' with ⟨rfl, -⟩ | hold'
      · exact absurd hold (hrowNone c (mem_range.mp hc))
      · exact h.independent.row r hr c hc c' hc' hold hold'
  · intro r hr r' hr' c hc hs hs'
    rcases setAt_true_iff.mp hs with ⟨rfl, rfl⟩ | hold
    · rcases setAt_true_iff.mp hs' with ⟨rfl, -⟩ | hold'
      · rfl
      · exact absurd hold' (hcolNone r' (mem_range.mp hr'))
    · rcases setAt_true_iff.mp hs' with ⟨-, rfl⟩ | hold'
      · exact absurd hold (hcolNone r (mem_range.mp hr))
      · exact h.independent.column r hr r' hr' c hc hold hold'
  · intro r hr c hc hs
    rcases setAt_true_iff.mp hs with ⟨rfl, rfl⟩ | hs
    · exact hzero
    · exact h.starZero r hr c hc hs
  · intro c hc
    dsimp only
    rcases eq_or_ne c col with rfl | hne
    · rw [Function.update_self]
      exact iff_of_true rfl ⟨row, hrow, setAt_self _ _ _ _⟩
    · rw [Function.update_of_ne hne, h.columns c hc]
      refine exists_congr fun r => and_congr_right fun _ => ?_
      rw [setAt_true_iff, or_iff_right fun hsame => hne hsame.2]

/-- No column that is not covered has a star. -/
theorem Marked.column_eq_false (h : Marked R K d b) {c : ℕ} (hc : c < K)
    (huncovered : b.coveredCols c = false) : ∀ r < R, b.star r c = false := by
  intro r hr
  by_contra hs
  rw [(h.columns c hc).mpr ⟨r, hr, Bool.eq_true_of_not_eq_false hs⟩] at huncovered
  cases huncovered

/-- **The first stars**, in the rows. -/
theorem Marked.starRows (h : Marked R K d b) (hrows : ∀ r < R, b.coveredRows r = false)
    (hnone : ∀ r < R, ∀ c < K, b.star r c = false) :
    Marked R K d (iterRange R (Board.starRow K) b) ∧
      ∀ r < R, (iterRange R (Board.starRow K) b).coveredRows r = false := by
  have hloop := iterRange_rule (n := R) (f := Board.starRow K) (s := b)
    (P := fun i b => Marked R K d b ∧ (∀ r < R, b.coveredRows r = false) ∧
      ∀ r < R, i ≤ r → ∀ c < K, b.star r c = false) ⟨h, hrows, fun r hr _ => hnone r hr⟩ ?_
  · exact ⟨hloop.1, hloop.2.1⟩
  · rintro i hi b ⟨h, hrows, hlater⟩
    rw [Board.starRow]
    split_ifs with hfound
    · have hspec := firstTrue_spec hfound
      rw [Bool.and_eq_true, Bool.not_eq_true', isZero_iff] at hspec
      have hzero := congrFun (congrFun h.dist i) _ ▸ hspec.1
      refine ⟨h.setStar hi hfound hzero (hlater i hi le_rfl) (h.column_eq_false hfound hspec.2)
        b.coveredRows, hrows, fun r hr hir c hc => ?_⟩
      refine (setAt_of_ne fun hsame => ?_).trans (hlater r hr (by omega) c hc)
      omega
    · exact ⟨h, hrows, fun r hr hir => hlater r hr (by omega)⟩

/-- **The first stars**, in the columns. -/
theorem Marked.starColumns (h : Marked R K d b) (hnone : ∀ r < R, ∀ c < K, b.star r c = false) :
    Marked R K d (iterRange K (Board.starColumn R) b) := by
  have hloop := iterRange_rule (n := K) (f := Board.starColumn R) (s := b)
    (P := fun i b => Marked R K d b ∧
      (∀ r < R, b.coveredRows r = false → ∀ c < K, b.star r c = false) ∧
      ∀ c < K, i ≤ c → ∀ r < R, b.star r c = false)
    ⟨h, fun r hr _ => hnone r hr, fun c hc _ r hr => hnone r hr c hc⟩ ?_
  · exact hloop.1
  · rintro i hi b ⟨h, hrows, hlater⟩
    rw [Board.starColumn]
    split_ifs with hfound
    · have hspec := firstTrue_spec hfound
      rw [Bool.and_eq_true, Bool.not_eq_true', isZero_iff] at hspec
      have hzero := congrFun (congrFun h.dist _) i ▸ hspec.1
      refine ⟨h.setStar hfound hi hzero (hrows _ hfound hspec.2) (hlater i hi le_rfl) _,
        fun r hr hcov c hc => ?_, fun c hc hic r hr => ?_⟩
      · dsimp only at hcov ⊢
        rw [Function.update_apply] at hcov
        split_ifs at hcov with hsame
        exact (setAt_of_ne fun hboth => hsame hboth.1).trans (hrows r hr hcov c hc)
      · refine (setAt_of_ne fun hsame => ?_).trans (hlater c hc (by omega) r hr)
        omega
    · exact ⟨h, hrows, fun c hc hic => hlater c hc (by omega)⟩

/-! ### The first potentials -/

theorem marked_start (costs d : ℕ → ℕ → ℤ) : Marked R K d { Board.start costs with dist := d } := by
  refine ⟨rfl, ⟨?_, ?_⟩, ?_, fun c _ => ?_, fun _ _ _ _ => rfl, fun _ _ => rfl⟩
  · exact fun _ _ _ _ _ _ hs => absurd hs Bool.false_ne_true
  · exact fun _ _ _ _ _ _ hs => absurd hs Bool.false_ne_true
  · exact fun _ _ _ _ hs => absurd hs Bool.false_ne_true
  · exact iff_of_false Bool.false_ne_true fun ⟨_, _, hs⟩ => absurd hs Bool.false_ne_true

/-- **After the preliminary steps.** -/
theorem preliminary_start (costs : ℕ → ℕ → ℤ) (hR : 0 < R) (hK : 0 < K) :
    Starred R K costs (Board.preliminary R K (.start costs)) ∧
      Settled R K (Board.preliminary R K (.start costs)) := by
  rw [Board.preliminary]
  split_ifs with hwide
  · obtain ⟨h, hrows⟩ := (marked_start (R := R) (K := K) costs
      (Board.reduceRows K costs)).starRows (fun _ _ => rfl) fun _ _ _ _ => rfl
    refine ⟨⟨⟨fun r => Board.smallest (costs r) (K - 1), 0, 0, ?_, ?_, ?_, ?_⟩, h.independent, ?_,
      h.blank⟩, hrows, h.primes, h.columns⟩
    · intro r hr c hc
      exact (congrFun (congrFun h.dist r) c).trans (sub_zero _).symm
    · intro r hr c hc
      have hleast := smallest_le (costs r) (n := K - 1) (i := c) (by omega)
      exact (sub_nonneg.mpr hleast).trans_eq (congrFun (congrFun h.dist r) c).symm
    · exact fun _ c hc => ⟨le_rfl, fun _ => rfl⟩
    · exact fun htall => absurd hwide (Nat.not_le_of_lt htall)
    · intro r hr c hc hs
      exact (congrFun (congrFun h.dist r) c).trans (h.starZero r hr c hc hs)
  · have h := (marked_start (R := R) (K := K) costs
      (Board.reduceColumns R costs)).starColumns fun _ _ _ _ => rfl
    refine ⟨⟨⟨0, fun c => Board.smallest (costs · c) (R - 1), 0, ?_, ?_, ?_, ?_⟩, h.independent, ?_,
      h.blank⟩, fun _ _ => rfl, h.primes, h.columns⟩
    · intro r hr c hc
      refine (congrFun (congrFun h.dist r) c).trans ?_
      rw [Board.reduceColumns, Pi.zero_apply, sub_zero]
    · intro r hr c hc
      have hleast := smallest_le (costs · c) (n := R - 1) (i := r) (by omega)
      exact (sub_nonneg.mpr hleast).trans_eq (congrFun (congrFun h.dist r) c).symm
    · exact fun hle => absurd hle hwide
    · exact fun _ r hr => ⟨le_rfl, fun _ => rfl⟩
    · intro r hr c hc hs
      exact (congrFun (congrFun h.dist r) c).trans (h.starZero r hr c hc hs)

/-- **From the preliminary steps on, the machine comes to the end**, with as many stars as there can
be. -/
theorem solved_start (costs : ℕ → ℕ → ℤ) (hR : 0 < R) (hK : 0 < K) :
    Solved R K costs (.step2b, Board.preliminary R K (.start costs)) := by
  obtain ⟨hstarred, hsettled⟩ := preliminary_start costs hR hK
  exact solved_step2b hstarred hsettled
    (solved_step3 hstarred hsettled.covered hsettled.primesCovered)

end Hungarian

end DetectBase
