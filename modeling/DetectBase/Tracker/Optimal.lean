import DetectBase.Tracker.Conservation
import DetectBase.Tracker.Preliminary
import Mathlib.Data.List.GetD

/-!
# The solver finds a cheapest assignment

The matrix is copied into the arrays, whatever they held, and from then on the machine on the arrays
does what it does on matrices. The stars that it ends with are an assignment, and the numbers that
have been subtracted from the rows and the columns show that none is cheaper.

Main result: `DetectBase.Hungarian.solve_optimal`.
-/

namespace DetectBase

namespace Hungarian

open Finset SORTTracker

variable {max R K : ℕ} {b f : Board} {u : HungarianMemoryUnit max}

/-- An element of a matrix. -/
def entry (distMatrix : List (List ℤ)) (i j : ℕ) : ℤ := (distMatrix.getD i []).getD j 0

/-- **What an assignment costs.** -/
def totalCost (distMatrix : List (List ℤ)) (assignment : List ℤ) : ℤ :=
  ∑ i ∈ range distMatrix.length,
    if assigned assignment i ≠ -1 then entry distMatrix i (assigned assignment i).toNat else 0

/-! ### The machine on the arrays -/

theorem Safe.ne_finished {p : Phase} (h : Safe R K (p, b)) : p ≠ .finished := by
  rintro rfl
  exact h

theorem run_succ {p : Phase} (h : p ≠ .finished) (fuel : ℕ) (u : HungarianMemoryUnit max) :
    run R K (fuel + 1) (p, u) = (next R K (p, u)).bind (run R K fuel) := by
  cases p with
  | finished => exact absurd rfl h
  | _ => rfl

/-- **The machine on the arrays comes to the end** of that on the matrices. -/
theorem Reaches.run {s : Phase × Board} (h : Reaches R K s f) (hu : Agrees R K u s.2)
    (hR : R ≤ max) (hK : K ≤ max) :
    ∃ u' N, (∀ fuel, N ≤ fuel → run R K fuel (s.1, u) = some u') ∧ Agrees R K u' f := by
  induction h generalizing u with
  | finished b =>
    refine ⟨u, 0, fun fuel _ => ?_, hu⟩
    rcases fuel with - | fuel <;> rfl
  | step hsafe _ ih =>
    obtain ⟨u₁, hnext, hu₁⟩ := next_refines hu hR hK hsafe
    obtain ⟨u', N, hrun, hu'⟩ := ih hu₁
    refine ⟨u', N + 1, fun fuel hfuel => ?_, hu'⟩
    obtain ⟨k, rfl⟩ := Nat.exists_eq_add_of_le' hfuel
    rw [← Nat.add_assoc, run_succ hsafe.ne_finished]
    exact (congrArg (Option.bind · _) hnext).trans (hrun _ (Nat.le_add_left N k))

/-- **Every state on the way** has what its step asks for. -/
theorem Reaches.visits {s : Phase × Board} (h : Reaches R K s f) (hu : Agrees R K u s.2)
    (hR : R ≤ max) (hK : K ≤ max) {t : Phase × HungarianMemoryUnit max}
    (hvisits : Visits R K (s.1, u) t) :
    ∃ b, Agrees R K t.2 b ∧ (t.1 = .finished ∨ Safe R K (t.1, b)) := by
  induction h generalizing u with
  | finished b =>
    rcases Relation.ReflTransGen.cases_head hvisits with rfl | ⟨t', hstep, -⟩
    · exact ⟨b, hu, .inl rfl⟩
    · cases hstep
  | step hsafe _ ih =>
    rcases Relation.ReflTransGen.cases_head hvisits with rfl | ⟨t', hstep, hrest⟩
    · exact ⟨_, hu, .inr hsafe⟩
    · obtain ⟨u₁, hnext, hu₁⟩ := next_refines hu hR hK hsafe
      obtain rfl := Option.some.inj (hnext.symm.trans hstep)
      exact ih hu₁ hrest

/-- **In the loop of `step4` there is a prime** in the row that is looked at. -/
theorem Reaches.prime {s : Phase × Board} (h : Reaches R K s f) (hu : Agrees R K u s.2)
    (hR : R ≤ max) (hK : K ≤ max) {starRow starCol : ℕ} {u' : HungarianMemoryUnit max}
    (hvisits : Visits R K (s.1, u) (.path starRow starCol, u')) (hrow : starRow < R) :
    ∃ primeCol < K,
      firstIndex K (fun col => u'.primeMatrix.read (starRow + R * col)) = some primeCol := by
  obtain ⟨b, hu', hend | hsafe⟩ := h.visits hu hR hK hvisits
  · cases hend
  · exact ⟨_, hsafe.2 hrow, hu'.firstPrimeInRow (Nat.mul_le_mul hR hK) hrow⟩

/-! ### The matrix in the arrays -/

section Load

variable {distMatrix : List (List ℤ)}

theorem entry_eq (hlength : ∀ row ∈ distMatrix, row.length = K) {i j : ℕ}
    (hi : i < distMatrix.length) (hj : j < K) :
    (distMatrix[i])[j]? = some (entry distMatrix i j) := by
  have hrow : j < distMatrix[i].length := by rwa [hlength _ (List.getElem_mem hi)]
  rw [entry, List.getD_eq_getElem _ _ hi, List.getD_eq_getElem _ _ hrow]
  exact List.getElem?_eq_getElem hrow

theorem load_shows (hlength : ∀ row ∈ distMatrix, row.length = K) (hR : distMatrix.length ≤ max)
    (hK : K ≤ max) (u : HungarianMemoryUnit max) :
    ∃ u', load distMatrix.length K distMatrix u = some u' ∧
      Shows distMatrix.length K u'.distMatrixIn (entry distMatrix) := by
  have hn : distMatrix.length * K ≤ max * max := Nat.mul_le_mul hR hK
  obtain ⟨cleared, hclear, hcleared⟩ := shows_fill u.distMatrixIn hn 0
  obtain ⟨assignment, hassignment, -⟩ := showsLine_fill u.assignment hR 0
  have hrows : ∀ r < distMatrix.length, ∀ (d : FixedArray (max * max) ℤ) m,
      Shows distMatrix.length K d m → (∀ c < K, m r c = 0) → ∃ d',
        forRange K (fun j d => do
          let value ← (← distMatrix[r]?)[j]?
          d.write (r + distMatrix.length * j) value) d = some d' ∧
        Shows distMatrix.length K d' fun r' c =>
          if r' = r then entry distMatrix r c else m r' c := by
    intro r hr d m hd _
    obtain ⟨d', hrun, hd'⟩ := hd.write_row hn hr (entry distMatrix r)
    refine ⟨d', ?_, hd'⟩
    rw [← hrun]
    refine forRange_congr (fun c hc d => ?_) d
    rw [List.getElem?_eq_getElem hr, Option.bind_eq_bind, Option.bind_some, entry_eq hlength hr hc,
      Option.bind_eq_bind, Option.bind_some]
  obtain ⟨d', hrun, hd'⟩ := hcleared.forRange_rows hrows
  refine ⟨{ u with assignment := assignment, distMatrixIn := d' }, ?_, hd'⟩
  rw [load, hclear, hassignment]
  exact congrArg (Option.bind · _) hrun

/-- **The first step begins with the matrix**, whatever the arrays have held. -/
theorem prepare_agrees (hlength : ∀ row ∈ distMatrix, row.length = K) (hR : distMatrix.length ≤ max)
    (hK : K ≤ max) (hR' : 0 < distMatrix.length) (hK' : 0 < K) (u : HungarianMemoryUnit max) :
    ∃ u', prepare distMatrix.length K distMatrix u = some u' ∧
      Agrees distMatrix.length K u'
        (Board.preliminary distMatrix.length K (.start (entry distMatrix))) := by
  obtain ⟨u₁, hload, hu₁⟩ := load_shows hlength hR hK u
  obtain ⟨u₂, hreset, hu₂⟩ := agrees_reset hR hK hu₁
  obtain ⟨u₃, hpreliminary, hu₃⟩ := hu₂.preliminary hR hK hR' hK'
  refine ⟨u₃, ?_, hu₃⟩
  rw [prepare, hload, Option.bind_eq_bind, Option.bind_some, hreset]
  exact hpreliminary

theorem iterRange_append (n : ℕ) (g : ℕ → ℤ) :
    iterRange n (fun i a => a ++ [g i]) [] = (List.range n).map g := by
  induction n with
  | zero => rfl
  | succ n ih => rw [iterRange_succ, ih, List.range_succ, List.map_append, List.map_singleton]

/-- `Solve`, when the steps come to an end. -/
theorem solve_eq {fuel : ℕ} {u₀ u' : HungarianMemoryUnit max}
    (hlength : ∀ row ∈ distMatrix, row.length = K) (hR : distMatrix.length ≤ max)
    (hR' : 0 < distMatrix.length) (hprepare : prepare distMatrix.length K distMatrix u = some u₀)
    (hrun : run distMatrix.length K fuel (.step2b, u₀) = some u')
    (hu' : ShowsLine distMatrix.length u'.assignment f.assignment) :
    solve fuel u distMatrix = some (u', (List.range distMatrix.length).map f.assignment) := by
  have hfirst : distMatrix[0]? = some distMatrix[0] := List.getElem?_eq_getElem hR'
  have hread : forRange distMatrix.length
      (fun r a => do return a ++ [← u'.assignment.read r]) [] =
        some ((List.range distMatrix.length).map f.assignment) := by
    rw [← iterRange_append]
    refine forRange_eq_some fun r hr a => ?_
    rw [hu'.read hR hr]
    rfl
  obtain ⟨u₁, hload, hrest⟩ := Option.bind_eq_some_iff.mp hprepare
  obtain ⟨u₂, hreset, hpreliminary⟩ := Option.bind_eq_some_iff.mp hrest
  have hoptimal : assignmentOptimal distMatrix.length K fuel u₁ = some u' := by
    rw [assignmentOptimal, hreset, Option.bind_eq_bind, Option.bind_some, hpreliminary]
    exact hrun
  rw [solve, hfirst, Option.bind_eq_bind, Option.bind_some, hlength _ (List.getElem_mem hR')]
  dsimp only
  rw [hload, Option.bind_eq_bind, Option.bind_some, hoptimal]
  exact congrArg (Option.bind · _) hread

end Load

/-! ### The assignment of the stars -/

section Stars

variable {costs : ℕ → ℕ → ℤ} {assignment other : List ℤ}

/-- **An assignment is that of the stars.** -/
def IsStars (R K : ℕ) (b : Board) (assignment : List ℤ) : Prop :=
  ∀ r < R, ∀ c < K, b.star r c = true ↔ assigned assignment r = (c : ℤ)

theorem assigned_map (g : ℕ → ℤ) {r : ℕ} (hr : r < R) :
    assigned ((List.range R).map g) r = g r := by
  have hlt : r < ((List.range R).map g).length := by rwa [List.length_map, List.length_range]
  rw [assigned, List.getD_eq_getElem _ _ hlt, List.getElem_map, List.getElem_range]

/-- What is assigned to a row. -/
theorem assigned_stars (h : Starred R K costs b) {r : ℕ} (hr : r < R) :
    assigned ((List.range R).map (b.buildAssignmentVector K).assignment) r =
      if firstTrue K (b.star r) < K then (firstTrue K (b.star r) : ℤ) else -1 := by
  rw [assigned_map _ hr, ← h.blank r hr]
  rfl

theorem isStars_stars (h : Starred R K costs b) :
    IsStars R K b ((List.range R).map (b.buildAssignmentVector K).assignment) := by
  intro r hr c hc
  rw [assigned_stars h hr]
  split_ifs with hfirst
  · have hspec := firstTrue_spec hfirst
    constructor
    · intro hs
      exact congrArg _ (h.independent.row r (mem_range.mpr hr) _ (mem_range.mpr hfirst) c
        (mem_range.mpr hc) hspec hs)
    · intro heq
      rwa [Int.natCast_inj.mp heq] at hspec
  · rw [firstTrue_lt_iff] at hfirst
    exact iff_of_false (fun hs => hfirst ⟨c, hc, hs⟩) not_false

/-- A row without a star is assigned nothing. -/
theorem ne_neg_one_iff (h : Starred R K costs b) {r : ℕ} (hr : r < R) :
    assigned ((List.range R).map (b.buildAssignmentVector K).assignment) r ≠ -1 ↔
      ∃ c < K, b.star r c = true := by
  rw [assigned_stars h hr, ← firstTrue_lt_iff]
  split_ifs with hfirst
  · exact iff_of_true (by omega) hfirst
  · exact iff_of_false (not_not_intro rfl) hfirst

/-- **The stars are an assignment** when there are as many as there can be. -/
theorem isAssignment_stars (h : Starred R K costs b) (hstars : stars R K b = minDim R K) :
    IsAssignment ((List.range R).map (b.buildAssignmentVector K).assignment) R K := by
  refine ⟨by rw [List.length_map, List.length_range], fun r hr => ?_, fun r hr r' hr' heq hne => ?_,
    ?_⟩
  · rw [assigned_stars h hr]
    split_ifs with hfirst
    · exact .inr ⟨_, hfirst, rfl⟩
    · exact .inl rfl
  · obtain ⟨c, hc, hs⟩ := (ne_neg_one_iff h hr).mp hne
    have hsame := (isStars_stars h r hr c hc).mp hs
    have hs' := (isStars_stars h r' hr' c hc).mpr (heq.symm.trans hsame)
    exact h.independent.column r (mem_range.mpr hr) r' (mem_range.mpr hr') c (mem_range.mpr hc) hs
      hs'
  · have hrows : (range R).filter (fun r => assigned
        ((List.range R).map (b.buildAssignmentVector K).assignment) r ≠ -1) =
        starredRows (range R) (range K) fun r c => b.star r c = true := by
      ext r
      rw [mem_filter, mem_starredRows]
      refine and_congr_right fun hr => (ne_neg_one_iff h (mem_range.mp hr)).trans ?_
      exact exists_congr fun c => and_congr_left' mem_range.symm
    have hcard := h.independent.card_eq
    rw [← hrows] at hcard
    refine hcard.trans (hstars.trans ?_)
    rw [minDim]
    split_ifs <;> omega

/-! ### No assignment is cheaper -/

/-- The rows that are assigned something. -/
def assignedRows (R : ℕ) (assignment : List ℤ) : Finset ℕ :=
  (range R).filter fun i => assigned assignment i ≠ -1

/-- The column of a row. -/
def columnOf (assignment : List ℤ) (i : ℕ) : ℕ := (assigned assignment i).toNat

theorem card_assignedRows (h : IsAssignment assignment R K) :
    (assignedRows R assignment).card = min R K := h.complete

theorem assignedRows_spec (h : IsAssignment assignment R K) {i : ℕ}
    (hi : i ∈ assignedRows R assignment) :
    i < R ∧ columnOf assignment i < K ∧ assigned assignment i = (columnOf assignment i : ℤ) := by
  obtain ⟨hmem, hne⟩ := mem_filter.mp hi
  obtain ⟨j, hj, heq⟩ := (h.range i (mem_range.mp hmem)).resolve_left hne
  rw [columnOf, heq, Int.toNat_natCast]
  exact ⟨mem_range.mp hmem, hj, rfl⟩

theorem columnOf_injOn (h : IsAssignment assignment R K) :
    Set.InjOn (columnOf assignment) (assignedRows R assignment) := by
  intro i hi i' hi' heq
  obtain ⟨hR, -, hcol⟩ := assignedRows_spec h hi
  obtain ⟨hR', -, hcol'⟩ := assignedRows_spec h hi'
  refine h.injective i hR i' hR' ?_ (mem_filter.mp hi).2
  rw [hcol, hcol', heq]

/-- The columns that are assigned. -/
def assignedColumns (R : ℕ) (assignment : List ℤ) : Finset ℕ :=
  (assignedRows R assignment).image (columnOf assignment)

theorem card_assignedColumns (h : IsAssignment assignment R K) :
    (assignedColumns R assignment).card = min R K := by
  rw [assignedColumns, card_image_of_injOn (columnOf_injOn h), card_assignedRows h]

theorem sum_columnOf (h : IsAssignment assignment R K) (v : ℕ → ℤ) :
    ∑ i ∈ assignedRows R assignment, v (columnOf assignment i) =
      ∑ c ∈ assignedColumns R assignment, v c :=
  (sum_image (columnOf_injOn h)).symm

theorem assignedRows_eq (h : IsAssignment assignment R K) (hwide : R ≤ K) :
    assignedRows R assignment = range R := by
  refine eq_of_subset_of_card_le (filter_subset _ _) ?_
  rw [card_assignedRows h, card_range, min_eq_left hwide]

theorem assignedColumns_subset (h : IsAssignment assignment R K) :
    assignedColumns R assignment ⊆ range K := by
  intro c hc
  obtain ⟨i, hi, rfl⟩ := mem_image.mp hc
  exact mem_range.mpr (assignedRows_spec h hi).2.1

theorem assignedColumns_eq (h : IsAssignment assignment R K) (htall : K ≤ R) :
    assignedColumns R assignment = range K := by
  refine eq_of_subset_of_card_le (assignedColumns_subset h) ?_
  rw [card_assignedColumns h, card_range, min_eq_right htall]

/-- **No assignment is cheaper than the stars**: a star costs what has been subtracted from its
row and its column, and no place costs less than that. -/
theorem sum_stars_le (hb : Starred R K costs b) (h : IsAssignment assignment R K)
    (hstars : IsStars R K b assignment) (h' : IsAssignment other R K) :
    ∑ i ∈ assignedRows R assignment, costs i (columnOf assignment i) ≤
      ∑ i ∈ assignedRows R other, costs i (columnOf other i) := by
  obtain ⟨u, v, top, hp⟩ := hb.potentials
  refine sum_cost_le (u := u) (v := v) (fun i hi => ?_) (fun i hi => ?_) ?_ ?_
  · obtain ⟨hR, hK, hcol⟩ := assignedRows_spec h hi
    have hzero := hb.starZero i hR _ hK ((hstars i hR _ hK).mpr hcol)
    have hdist := hp.dist i hR _ hK
    omega
  · obtain ⟨hR, hK, -⟩ := assignedRows_spec h' hi
    have hnonneg := hp.nonneg i hR _ hK
    have hdist := hp.dist i hR _ hK
    omega
  · rcases Nat.lt_or_ge K R with htall | hwide
    · refine sum_le_sum_of_largest top ?_ (fun i hi => ?_) fun i hi hnot => ?_
      · rw [card_assignedRows h, card_assignedRows h']
      · exact (hp.rows htall i (assignedRows_spec h hi).1).1
      · have hR := (assignedRows_spec h' hi).1
        refine (hp.rows htall i hR).2 fun c hc => Bool.eq_false_of_not_eq_true fun hs => hnot ?_
        rw [assignedRows, mem_filter, (hstars i hR c hc).mp hs]
        exact ⟨mem_range.mpr hR, by omega⟩
    · rw [assignedRows_eq h hwide, assignedRows_eq h' hwide]
  · rw [sum_columnOf h, sum_columnOf h']
    rcases Nat.lt_or_ge K R with htall | hwide
    · rw [assignedColumns_eq h htall.le, assignedColumns_eq h' htall.le]
    · refine sum_le_sum_of_largest top ?_ (fun c hc => ?_) fun c hc hnot => ?_
      · rw [card_assignedColumns h, card_assignedColumns h']
      · exact (hp.columns hwide c (mem_range.mp (assignedColumns_subset h hc))).1
      · have hK := mem_range.mp (assignedColumns_subset h' hc)
        refine (hp.columns hwide c hK).2 fun r hr => Bool.eq_false_of_not_eq_true fun hs => hnot ?_
        have heq := (hstars r hr c hK).mp hs
        refine mem_image.mpr ⟨r, mem_filter.mpr ⟨mem_range.mpr hr, ?_⟩, ?_⟩
        · rw [heq]
          omega
        · rw [columnOf, heq, Int.toNat_natCast]

theorem totalCost_eq (distMatrix : List (List ℤ)) (assignment : List ℤ) :
    totalCost distMatrix assignment =
      ∑ i ∈ assignedRows distMatrix.length assignment,
        entry distMatrix i (columnOf assignment i) :=
  (sum_filter _ _).symm

end Stars

/-- **The solver finds a cheapest assignment**, whatever an earlier call has left in the arrays.
It comes to an end, makes no access beyond an array, and in the loop of `step4` always finds a
prime in the row that it looks at. The assignment does not depend on the arrays. -/
theorem solve_optimal {max nCols : ℕ} {distMatrix : List (List ℤ)} (hrows : 1 ≤ distMatrix.length)
    (hmaxRows : distMatrix.length ≤ max) (hcols : 1 ≤ nCols) (hmaxCols : nCols ≤ max)
    (hlength : ∀ row ∈ distMatrix, row.length = nCols) :
    ∃ assignment, IsAssignment assignment distMatrix.length nCols ∧
      (∀ other, IsAssignment other distMatrix.length nCols →
        totalCost distMatrix assignment ≤ totalCost distMatrix other) ∧
      ∀ u : HungarianMemoryUnit max,
        (∃ u' N, ∀ fuel, N ≤ fuel → solve fuel u distMatrix = some (u', assignment)) ∧
        ∃ u₀, prepare distMatrix.length nCols distMatrix u = some u₀ ∧
          ∀ starRow starCol u',
            Visits distMatrix.length nCols (.step2b, u₀) (.path starRow starCol, u') →
            starRow < distMatrix.length →
            ∃ primeCol < nCols, firstIndex nCols (fun col =>
              u'.primeMatrix.read (starRow + distMatrix.length * col)) = some primeCol := by
  obtain ⟨b, hb, hstars, hreaches⟩ := solved_start (entry distMatrix) hrows hcols
  have hassignment := isAssignment_stars hb hstars
  refine ⟨_, hassignment, fun other hother => ?_, fun u => ?_⟩
  · rw [totalCost_eq, totalCost_eq]
    exact sum_stars_le hb hassignment (isStars_stars hb) hother
  · obtain ⟨u₀, hprepare, hu₀⟩ := prepare_agrees hlength hmaxRows hmaxCols hrows hcols u
    obtain ⟨u', N, hrun, hu'⟩ := hreaches.run hu₀ hmaxRows hmaxCols
    refine ⟨⟨u', N, fun fuel hfuel => ?_⟩, u₀, hprepare, fun starRow starCol u' hvisits hrow => ?_⟩
    · exact solve_eq hlength hmaxRows hrows hprepare (hrun fuel hfuel) hu'.assignment
    · exact hreaches.prime hu₀ hmaxRows hmaxCols hvisits hrow

/-- Two rows and two columns. -/
theorem solve_optimal_two :
    (∀ row ∈ ([[4, 1], [2, 3]] : List (List ℤ)), row.length = 2) ∧
      ∃ assignment, IsAssignment assignment 2 2 ∧
        (∀ other, IsAssignment other 2 2 →
          totalCost [[4, 1], [2, 3]] assignment ≤ totalCost [[4, 1], [2, 3]] other) ∧
        ∀ u : HungarianMemoryUnit 2,
          (∃ u' N, ∀ fuel, N ≤ fuel → solve fuel u [[4, 1], [2, 3]] = some (u', assignment)) ∧
          ∃ u₀, prepare 2 2 [[4, 1], [2, 3]] u = some u₀ ∧
            ∀ starRow starCol u', Visits 2 2 (.step2b, u₀) (.path starRow starCol, u') →
              starRow < 2 → ∃ primeCol < 2, firstIndex 2 (fun col =>
                u'.primeMatrix.read (starRow + 2 * col)) = some primeCol :=
  ⟨by decide, @solve_optimal 2 2 [[4, 1], [2, 3]] (by decide) (by decide) (by decide) (by decide)
    (by decide)⟩

end Hungarian

end DetectBase
