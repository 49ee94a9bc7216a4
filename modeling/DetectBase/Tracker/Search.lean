import DetectBase.Tracker.Covers

/-!
# The search of the solver comes to its end

While there are fewer stars than there can be, some row and some column are uncovered. So when no
uncovered zero is left, the smallest uncovered element can be taken away from an uncovered place,
and there is less at the uncovered places than before (`DetectBase.Hungarian.slack_step5`). Between
two such steps more and more rows get covered, and in the end a prime is found in a row without a
star.

`DetectBase.Hungarian.solved_step3`: from every such state the machine comes to the end, with as
many stars as there can be.
-/

namespace DetectBase

namespace Hungarian

open Finset

variable {R K : ℕ} {costs : ℕ → ℕ → ℤ} {b : Board} {τ : ℕ → ℕ}

/-! ### All columns -/

/-- **The loop of `step3`**, once through. -/
theorem Covered.scan (h : Covered R K b τ) (hprimes : PrimesCovered R K b)
    (hstarred : Starred R K costs b) :
    Scanning R K b K (iterRange K (Board.scanColumn R K) ⟨b, false, none⟩) := by
  refine iterRange_rule (P := Scanning R K b) ?_ fun i hi s hs => hs.scanColumn hstarred hi
  exact ⟨⟨τ, h⟩, rfl, rfl, rfl, fun _ _ hfound => absurd hfound.symm (Option.some_ne_none _),
    fun _ => hprimes,
    fun _ hzeros => absurd hzeros Bool.false_ne_true,
    fun _ _ => ⟨rfl, fun c hc => absurd hc (Nat.not_lt_zero c)⟩⟩

theorem stars_congr {b' : Board} (h : b'.star = b.star) : stars R K b' = stars R K b := by
  rw [stars, stars, h]

theorem coveredCount_le : coveredCount R b ≤ R := by
  refine (card_filter_le _ _).trans ?_
  rw [card_range]

/-! ### Uncovered lines -/

/-- A row without a star. -/
theorem exists_row (h : Starred R K costs b) (hless : stars R K b < minDim R K) :
    ∃ r < R, ∀ c < K, b.star r c = false := by
  by_contra hall
  push Not at hall
  have hrows : starredRows (range R) (range K) (fun r c => b.star r c = true) = range R := by
    ext r
    rw [mem_starredRows, and_iff_left_iff_imp]
    intro hr
    obtain ⟨c, hc, hs⟩ := hall r (mem_range.mp hr)
    exact ⟨c, mem_range.mpr hc, Bool.eq_true_of_not_eq_false hs⟩
  have hcard := h.independent.card_eq
  rw [hrows, card_range] at hcard
  rw [stars, ← hcard, minDim] at hless
  split_ifs at hless <;> omega

/-- A column without a star. -/
theorem exists_column (hless : stars R K b < minDim R K) :
    ∃ c < K, ∀ r < R, b.star r c = false := by
  by_contra hall
  push Not at hall
  have hcolumns : starredColumns (range R) (range K) (fun r c => b.star r c = true) = range K := by
    ext c
    rw [mem_starredColumns, and_iff_left_iff_imp]
    intro hc
    obtain ⟨r, hr, hs⟩ := hall c (mem_range.mp hc)
    exact ⟨r, mem_range.mpr hr, Bool.eq_true_of_not_eq_false hs⟩
  rw [stars, hcolumns, card_range, minDim] at hless
  split_ifs at hless <;> omega

/-- A row without a star is not covered. -/
theorem Covered.uncoveredRow (h : Covered R K b τ) {r : ℕ} (hr : r < R)
    (hnone : ∀ c < K, b.star r c = false) : b.coveredRows r = false := by
  by_contra hcov
  obtain ⟨c, hc, hs⟩ := h.rowStar r hr (Bool.eq_true_of_not_eq_false hcov)
  rw [hnone c hc] at hs
  cases hs

/-- A column without a star is not covered. -/
theorem Covered.uncoveredColumn (h : Covered R K b τ) {c : ℕ} (hc : c < K)
    (hnone : ∀ r < R, b.star r c = false) : b.coveredCols c = false := by
  by_contra hcov
  obtain ⟨r, hr, hs⟩ := h.columnStar c hc (Bool.eq_true_of_not_eq_false hcov)
  rw [hnone r hr] at hs
  cases hs

/-! ### The smallest uncovered element -/

/-- What there is at the uncovered places. -/
def Uncovered (R K : ℕ) (b : Board) (P : ℤ → Prop) : Prop :=
  ∀ r < R, b.coveredRows r = false → ∀ c < K, b.coveredCols c = false → P (b.dist r c)

/-- **The smallest uncovered element** is positive when all are, and no uncovered element is
smaller. -/
theorem minUncovered_spec (h : Uncovered R K b (0 < ·)) :
    0 < b.minUncovered R K ∧ Uncovered R K b (b.minUncovered R K ≤ ·) := by
  have hcolumns : ∀ r < R, b.coveredRows r = false → ∀ a, 0 < a →
      ∀ m, m = iterRange K (fun col h =>
        if b.coveredCols col then h else if b.dist r col < h then b.dist r col else h) a →
      0 < m ∧ m ≤ a ∧ ∀ c < K, b.coveredCols c = false → m ≤ b.dist r c := by
    rintro r hr hrow a ha m rfl
    refine iterRange_rule (P := fun i m => 0 < m ∧ m ≤ a ∧
      ∀ c < i, b.coveredCols c = false → m ≤ b.dist r c) ?_ ?_
    · exact ⟨ha, le_rfl, fun c hc => absurd hc (Nat.not_lt_zero c)⟩
    · rintro i hi m ⟨hpos, hle, hbelow⟩
      split_ifs with hcov hlt
      · refine ⟨hpos, hle, Nat.forall_lt_succ_right.mpr ⟨hbelow, fun hcovi => ?_⟩⟩
        rw [hcov] at hcovi
        cases hcovi
      · have hless := h r hr hrow i hi (Bool.eq_false_of_not_eq_true hcov)
        refine ⟨hless, by omega,
          Nat.forall_lt_succ_right.mpr ⟨fun c hc hcovc => ?_, fun _ => le_rfl⟩⟩
        exact hlt.le.trans (hbelow c hc hcovc)
      · exact ⟨hpos, hle, Nat.forall_lt_succ_right.mpr ⟨hbelow, fun _ => not_lt.mp hlt⟩⟩
  rw [Board.minUncovered]
  refine iterRange_rule (P := fun i m => 0 < m ∧
    ∀ r < i, b.coveredRows r = false → ∀ c < K, b.coveredCols c = false → m ≤ b.dist r c) ?_ ?_
  · exact ⟨dblMax_pos, fun r hr => absurd hr (Nat.not_lt_zero r)⟩
  · rintro i hi m ⟨hpos, hbelow⟩
    split_ifs with hcov
    · refine ⟨hpos, Nat.forall_lt_succ_right.mpr ⟨hbelow, fun hcovi => ?_⟩⟩
      rw [hcov] at hcovi
      cases hcovi
    · obtain ⟨hpos', hle, hrow⟩ := hcolumns i hi (Bool.eq_false_of_not_eq_true hcov) m hpos _ rfl
      refine ⟨hpos', Nat.forall_lt_succ_right.mpr ⟨fun r hr hcovr c hc hcovc => ?_, fun _ => hrow⟩⟩
      exact hle.trans (hbelow r hr hcovr c hc hcovc)

/-- An element after `step5`. -/
theorem dist_step5 (r c : ℕ) : (b.step5 R K).2.dist r c =
    (if b.coveredRows r then b.dist r c + b.minUncovered R K else b.dist r c) -
      if b.coveredCols c then 0 else b.minUncovered R K := rfl

/-- A place with its row covered or its column, and not both, keeps its element. -/
theorem dist_step5_of_once {r c : ℕ} (h : b.coveredRows r = true ↔ b.coveredCols c = false) :
    (b.step5 R K).2.dist r c = b.dist r c := by
  rw [dist_step5]
  rcases hcov : b.coveredCols c with - | -
  · rw [if_pos (h.mpr hcov), if_neg Bool.false_ne_true, add_sub_cancel_right]
  · rw [hcov] at h
    rw [if_neg fun hrow => absurd (h.mp hrow) (Ne.symm Bool.false_ne_true), if_pos rfl, sub_zero]

/-- **The potentials after `step5`.** -/
theorem Starred.step5 (h : Starred R K costs b) (hcovered : Covered R K b τ)
    (hpos : Uncovered R K b (0 < ·)) : Starred R K costs (b.step5 R K).2 := by
  obtain ⟨hmin, hle⟩ := minUncovered_spec hpos
  obtain ⟨⟨u, v, top, hp⟩, hindependent, hzero, hblank⟩ := h
  set a := b.minUncovered R K with ha
  refine ⟨⟨fun r => if b.coveredRows r then u r - a else u r,
    fun c => if b.coveredCols c then v c else v c + a, if R ≤ K then top + a else top,
    ?_, ?_, ?_, ?_⟩, hindependent, ?_, hblank⟩
  · intro r hr c hc
    have hdist := hp.dist r hr c hc
    rw [dist_step5, ← ha]
    split_ifs <;> omega
  · intro r hr c hc
    have hnonneg := hp.nonneg r hr c hc
    rw [dist_step5, ← ha]
    split_ifs with hrow hcol hcol
    · omega
    · omega
    · omega
    · have hmost := hle r hr (Bool.eq_false_of_not_eq_true hrow) c hc
        (Bool.eq_false_of_not_eq_true hcol)
      omega
  · intro hwide c hc
    obtain ⟨hmost, htop⟩ := hp.columns hwide c hc
    rw [if_pos hwide]
    refine ⟨by split_ifs <;> omega, fun hnone => ?_⟩
    rw [if_neg (Bool.not_eq_true _ ▸ hcovered.uncoveredColumn hc hnone), htop hnone]
  · intro htall r hr
    obtain ⟨hmost, htop⟩ := hp.rows htall r hr
    rw [if_neg (Nat.not_le_of_lt htall)]
    refine ⟨by split_ifs <;> omega, fun hnone => ?_⟩
    rw [if_neg (Bool.not_eq_true _ ▸ hcovered.uncoveredRow hr hnone), htop hnone]
  · intro r hr c hc hs
    rw [dist_step5_of_once (hcovered.once r hr c hc hs)]
    exact hzero r hr c hc hs

theorem Covered.step5 (h : Covered R K b τ) (hprimes : PrimesCovered R K b) :
    Covered R K (b.step5 R K).2 τ := by
  refine ⟨h.once, h.rowStar, h.columnStar, h.rowPrime, h.primeColumn, ?_, h.order⟩
  intro r hr c hc hp
  have honce : b.coveredRows r = true ↔ b.coveredCols c = false :=
    iff_of_true (hprimes r hr c hc hp) (h.primeColumn r hr c hc hp)
  rw [dist_step5_of_once honce]
  exact h.primeZero r hr c hc hp

/-- How much there is at the uncovered places. -/
def slack (R K : ℕ) (b : Board) : ℕ :=
  ∑ p ∈ range R ×ˢ range K,
    if b.coveredRows p.1 || b.coveredCols p.2 then 0 else (b.dist p.1 p.2).toNat

/-- **There is less at the uncovered places** after `step5`. -/
theorem slack_step5 (hpos : Uncovered R K b (0 < ·)) {r c : ℕ} (hr : r < R) (hc : c < K)
    (hrow : b.coveredRows r = false) (hcol : b.coveredCols c = false) :
    slack R K (b.step5 R K).2 < slack R K b := by
  obtain ⟨hmin, hle⟩ := minUncovered_spec hpos
  have hless : ∀ r < R, b.coveredRows r = false → ∀ c < K, b.coveredCols c = false →
      ((b.step5 R K).2.dist r c).toNat < (b.dist r c).toNat := by
    intro r hr hrow c hc hcol
    have hmost := hle r hr hrow c hc hcol
    rw [dist_step5, if_neg (Bool.not_eq_true _ ▸ hrow), if_neg (Bool.not_eq_true _ ▸ hcol)]
    omega
  refine sum_lt_sum ?_ ⟨(r, c), mk_mem_product (mem_range.mpr hr) (mem_range.mpr hc), ?_⟩
  · rintro ⟨r, c⟩ hmem
    obtain ⟨hr, hc⟩ := mem_product.mp hmem
    change (if b.coveredRows r || b.coveredCols c then 0 else _) ≤ _
    split_ifs with hcov
    · exact le_rfl
    · rw [Bool.or_eq_true, not_or, Bool.not_eq_true, Bool.not_eq_true] at hcov
      exact (hless r (mem_range.mp hr) hcov.1 c (mem_range.mp hc) hcov.2).le
  · change (if b.coveredRows r || b.coveredCols c then 0 else _) <
      (if b.coveredRows r || b.coveredCols c then 0 else _)
    rw [hrow, hcol]
    exact hless r hr hrow c hc hcol

/-! ### The search -/

/-- **The search finds a prime in a row without a star**: at every turn more rows are covered, or
there is less at the uncovered places. -/
theorem solved_search {b : Board} {τ : ℕ → ℕ} {n : ℕ} (hstarred : Starred R K costs b)
    (hcovered : Covered R K b τ) (hprimes : PrimesCovered R K b) (hn : stars R K b = n)
    (hless : n < minDim R K)
    (hafter : ∀ b', Starred R K costs b' → Fresh R K b' → stars R K b' = n + 1 →
      Solved R K costs (.step2a, b')) :
    Solved R K costs (.step3, b) := by
  have hscan := hcovered.scan hprimes hstarred
  refine .step trivial ?_
  change Solved R K costs (iterRange K (Board.scanColumn R K) ⟨b, false, none⟩).next
  set s := iterRange K (Board.scanColumn R K) ⟨b, false, none⟩
  obtain ⟨τ', hcovered'⟩ := hscan.covered
  have hstarred' := hstarred.congr hscan.dist hscan.star hscan.assignment
  have hn' := (stars_congr hscan.star).trans hn
  rw [Board.Scan.next]
  rcases hfound : s.found with - | ⟨row, col⟩
  · dsimp only
    rcases hzeros : s.zerosFound with - | -
    · obtain ⟨hsame, hnozero⟩ := hscan.none hfound hzeros
      rw [hsame, if_neg Bool.false_ne_true]
      obtain ⟨u, v, top, hp⟩ := hstarred.potentials
      have hpos : Uncovered R K b (0 < ·) := fun r hr hrow c hc hcol =>
        lt_of_le_of_ne (hp.nonneg r hr c hc) (Ne.symm (hnozero c hc hcol r hr hrow))
      obtain ⟨r, hr, hnoneRow⟩ := exists_row hstarred (hn ▸ hless)
      obtain ⟨c, hc, hnoneCol⟩ := exists_column (hn ▸ hless)
      have hsmaller := slack_step5 hpos hr hc (hcovered.uncoveredRow hr hnoneRow)
        (hcovered.uncoveredColumn hc hnoneCol)
      refine .step trivial ?_
      exact solved_search (hstarred.step5 hcovered hpos) (hcovered.step5 hprimes) hprimes
        hn hless hafter
    · have hfewer : R - coveredCount R s.board < R - coveredCount R b := by
        have hmore := hscan.more hfound hzeros
        have hle := coveredCount_le (R := R) (b := s.board)
        omega
      rw [if_pos rfl]
      exact solved_search hstarred' hcovered' (hscan.primeRow hfound) hn' hless hafter
  · obtain ⟨hrow, hcol, hprime, hnone⟩ := hscan.found row col hfound
    rw [← hscan.star] at hnone
    refine .step ⟨hrow, hcol⟩ ?_
    change Solved R K costs (s.board.step4 R row col)
    refine solved_path (hcovered'.step4 hstarred' hrow hcol hprime hnone)
      (hstarred'.congr rfl rfl rfl) fun b' hb' hfresh hstars => hafter b' hb' hfresh ?_
    exact hstars.trans (congrArg (· + 1) hn')
termination_by (R - coveredCount R b, slack R K b)
decreasing_by
  · exact Prod.Lex.right _ hsmaller
  · exact Prod.Lex.left _ _ hfewer

theorem Settled.primesCovered (h : Settled R K b) : PrimesCovered R K b :=
  fun _ hr _ hc hp => absurd hp (h.not_prime hr hc)

/-- **From every state of the search the machine comes to the end**, with as many stars as there can
be. -/
theorem solved_step3 (hstarred : Starred R K costs b) (hcovered : Covered R K b τ)
    (hprimes : PrimesCovered R K b) (hless : stars R K b < minDim R K) :
    Solved R K costs (.step3, b) := by
  induction hn : minDim R K - stars R K b using Nat.strong_induction_on generalizing b τ with
  | h n ih =>
    refine solved_search hstarred hcovered hprimes rfl hless fun b' hb' hfresh hstars => ?_
    have hsettled := hfresh.step2a
    refine .step trivial (solved_step2b (hb'.congr rfl rfl rfl) hsettled fun hless' => ?_)
    refine ih _ ?_ (hb'.congr rfl rfl rfl) hsettled.covered hsettled.primesCovered hless' rfl
    change minDim R K - stars R K b' < n
    change stars R K b' < minDim R K at hless'
    omega

end Hungarian

end DetectBase
