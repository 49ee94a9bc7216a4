import DetectBase.Tracker.Hungarian

/-!
# The solver on matrices

What the steps of the solver do to the matrices that lie in its arrays, without the arrays: nothing
can go wrong here, and an element that is not of the matrix is of no account
(`DetectBase.Hungarian.Board`). `DetectBase.Hungarian.next_refines`: from arrays that hold the
matrices, a step comes through and leaves arrays that hold what it makes of them, whatever else may
be in the arrays. For the loop of `step4` this asks for a prime in the row of the star.
-/

namespace DetectBase

namespace Hungarian

/-- The matrices. -/
structure Board where
  /-- `dist_matrix`. -/
  dist : ℕ → ℕ → ℤ
  /-- `assignment`. -/
  assignment : ℕ → ℤ
  /-- `covered_cols`. -/
  coveredCols : ℕ → Bool
  /-- `covered_rows`. -/
  coveredRows : ℕ → Bool
  /-- `star_matrix`. -/
  star : ℕ → ℕ → Bool
  /-- `new_star_matrix`. -/
  newStar : ℕ → ℕ → Bool
  /-- `prime_matrix`. -/
  prime : ℕ → ℕ → Bool

namespace Board

variable (R K : ℕ)

/-! ### What the steps do -/

/-- The matrices that `AssignmentOptimal` begins with. -/
def start (costs : ℕ → ℕ → ℤ) : Board where
  dist := costs
  assignment _ := -1
  coveredCols _ := false
  coveredRows _ := false
  star _ _ := false
  newStar _ _ := false
  prime _ _ := false

/-- The smallest of `n + 1` elements. -/
def smallest (f : ℕ → ℤ) (n : ℕ) : ℤ :=
  iterRange n (fun i a => if f (i + 1) < a then f (i + 1) else a) (f 0)

/-- The smallest element of each row is subtracted from it. -/
def reduceRows (d : ℕ → ℕ → ℤ) (r c : ℕ) : ℤ := d r c - smallest (d r) (K - 1)

/-- The smallest element of each column is subtracted from it. -/
def reduceColumns (d : ℕ → ℕ → ℤ) (r c : ℕ) : ℤ := d r c - smallest (d · c) (R - 1)

/-- The first zero of a row that is in a column without a star is starred. -/
def starRow (row : ℕ) (b : Board) : Board :=
  let col := firstTrue K fun col => isZero (b.dist row col) && !b.coveredCols col
  if col < K then
    { b with
      star := setAt b.star row col true
      coveredCols := Function.update b.coveredCols col true }
  else b

/-- The first zero of a column that is in a row without a star is starred. -/
def starColumn (col : ℕ) (b : Board) : Board :=
  let row := firstTrue R fun row => isZero (b.dist row col) && !b.coveredRows row
  if row < R then
    { b with
      star := setAt b.star row col true
      coveredCols := Function.update b.coveredCols col true
      coveredRows := Function.update b.coveredRows row true }
  else b

/-- The preliminary steps. -/
def preliminary (b : Board) : Board :=
  if R ≤ K then iterRange R (starRow K) { b with dist := reduceRows K b.dist }
  else
    { iterRange K (starColumn R) { b with dist := reduceColumns R b.dist } with
      coveredRows := fun _ => false }

/-- The columns of the first stars. -/
def buildAssignmentVector (b : Board) : Board :=
  { b with
    assignment := fun row =>
      if firstTrue K (b.star row) < K then (firstTrue K (b.star row) : ℤ) else b.assignment row }

/-- Every column with a star is covered. -/
def step2a (b : Board) : Phase × Board :=
  (.step2b, { b with
    coveredCols := fun col =>
      if firstTrue R (b.star · col) < R then true else b.coveredCols col })

/-- The covered columns are counted. -/
def step2b (b : Board) : Phase × Board :=
  if iterRange K (fun col count => if b.coveredCols col then count + 1 else count) 0 =
      minDim R K then
    (.finished, b.buildAssignmentVector K)
  else (.step3, b)

/-- What the loop over the columns in `step3` keeps. -/
structure Scan where
  /-- The matrices. -/
  board : Board
  /-- `zerosFound`. -/
  zerosFound : Bool
  /-- The row and the column that `step4` is called with, once it is. -/
  found : Option (ℕ × ℕ)

/-- The first uncovered zero of a column is primed. -/
def scanColumn (col : ℕ) (s : Scan) : Scan :=
  let b := s.board
  if s.found.isSome || b.coveredCols col then s
  else
    let row := firstTrue R fun row => !b.coveredRows row && isZero (b.dist row col)
    if row < R then
      let starCol := firstTrue K (b.star row)
      if starCol = K then
        { s with board := { b with prime := setAt b.prime row col true }, found := some (row, col) }
      else
        { s with
          board := { b with
            prime := setAt b.prime row col true
            coveredRows := Function.update b.coveredRows row true
            coveredCols := Function.update b.coveredCols starCol false }
          zerosFound := true }
    else s

/-- Where the loop of `step3` leads to. -/
def Scan.next (s : Scan) : Phase × Board :=
  match s.found with
  | some (row, col) => (.step4 row col, s.board)
  | none => (if s.zerosFound then .step3 else .step5, s.board)

/-- Once through the loop of `step3`. -/
def step3 (b : Board) : Phase × Board := (iterRange K (scanColumn R K) ⟨b, false, none⟩).next

/-- The primed zero is starred. -/
def step4 (row col : ℕ) (b : Board) : Phase × Board :=
  (.path (firstTrue R (b.star · col)) col, { b with newStar := setAt b.star row col true })

/-- From a star to the next one. -/
def path (starRow starCol : ℕ) (b : Board) : Phase × Board :=
  if starRow < R then
    let primeCol := firstTrue K (b.prime starRow)
    (.path (firstTrue R (b.star · primeCol)) primeCol,
      { b with
        newStar := setAt (setAt b.newStar starRow starCol false) starRow primeCol true })
  else
    (.step2a, { b with
      prime := fun _ _ => false
      star := b.newStar
      coveredRows := fun _ => false })

/-- The smallest uncovered element. -/
def minUncovered (b : Board) : ℤ :=
  iterRange R (fun row h =>
    if b.coveredRows row then h
    else iterRange K (fun col h =>
      if b.coveredCols col then h else if b.dist row col < h then b.dist row col else h) h) dblMax

/-- The smallest uncovered element is added to each covered row, and subtracted from each uncovered
column. -/
def step5 (b : Board) : Phase × Board :=
  let h := b.minUncovered R K
  (.step3, { b with
    dist := fun r c =>
      (if b.coveredRows r then b.dist r c + h else b.dist r c) -
        if b.coveredCols c then 0 else h })

/-- **From one step to the next.** -/
def next : Phase × Board → Phase × Board
  | (.step2a, b) => b.step2a R
  | (.step2b, b) => b.step2b R K
  | (.step3, b) => b.step3 R K
  | (.step4 row col, b) => b.step4 R row col
  | (.path starRow starCol, b) => b.path R K starRow starCol
  | (.step5, b) => b.step5 R K
  | (.finished, b) => (.finished, b)

end Board

/-! ### What the arrays hold -/

/-- **The arrays hold the matrices.** -/
structure Agrees {max : ℕ} (R K : ℕ) (u : HungarianMemoryUnit max) (b : Board) : Prop where
  /-- `dist_matrix`. -/
  dist : Shows R K u.distMatrix b.dist
  /-- `assignment`. -/
  assignment : ShowsLine R u.assignment b.assignment
  /-- `covered_cols`. -/
  coveredCols : ShowsLine K u.coveredCols b.coveredCols
  /-- `covered_rows`. -/
  coveredRows : ShowsLine R u.coveredRows b.coveredRows
  /-- `star_matrix`. -/
  star : Shows R K u.starMatrix b.star
  /-- `new_star_matrix`. -/
  newStar : Shows R K u.newStarMatrix b.newStar
  /-- `prime_matrix`. -/
  prime : Shows R K u.primeMatrix b.prime

section Refinement

variable {max R K : ℕ} {u : HungarianMemoryUnit max} {b : Board}

theorem Agrees.firstStarInColumn (h : Agrees R K u b) (hn : R * K ≤ max * max) {col : ℕ}
    (hcol : col < K) :
    firstIndex R (fun row => u.starMatrix.read (row + R * col)) =
      some (firstTrue R (b.star · col)) :=
  firstIndex_eq fun _ hr => h.star.read hn hr hcol

theorem Agrees.firstStarInRow (h : Agrees R K u b) (hn : R * K ≤ max * max) {row : ℕ}
    (hrow : row < R) :
    firstIndex K (fun col => u.starMatrix.read (row + R * col)) =
      some (firstTrue K (b.star row)) :=
  firstIndex_eq fun _ hc => h.star.read hn hrow hc

theorem Agrees.firstPrimeInRow (h : Agrees R K u b) (hn : R * K ≤ max * max) {row : ℕ}
    (hrow : row < R) :
    firstIndex K (fun col => u.primeMatrix.read (row + R * col)) =
      some (firstTrue K (b.prime row)) :=
  firstIndex_eq fun _ hc => h.prime.read hn hrow hc

/-- The first zero that `starRow` looks for. -/
theorem Agrees.firstFreeZeroInRow (h : Agrees R K u b) (hn : R * K ≤ max * max) (hK : K ≤ max)
    {row : ℕ} (hrow : row < R) :
    firstIndex K (fun col => do
      if isZero (← u.distMatrix.read (row + R * col)) then
        return !(← u.coveredCols.read col)
      else return false) =
      some (firstTrue K fun col => isZero (b.dist row col) && !b.coveredCols col) := by
  refine firstIndex_eq fun col hc => ?_
  rw [h.dist.read hn hrow hc, h.coveredCols.read hK hc]
  cases hzero : isZero (b.dist row col) <;> simp [hzero]

theorem Agrees.starRow (h : Agrees R K u b) (hR : R ≤ max) (hK : K ≤ max) {row : ℕ}
    (hrow : row < R) :
    ∃ u', Hungarian.starRow R K row u = some u' ∧ Agrees R K u' (b.starRow K row) := by
  have hn : R * K ≤ max * max := Nat.mul_le_mul hR hK
  rw [Hungarian.starRow, h.firstFreeZeroInRow hn hK hrow, Board.starRow]
  set col := firstTrue K fun col => isZero (b.dist row col) && !b.coveredCols col
  by_cases hcol : col < K
  · obtain ⟨star, hstar, hstar'⟩ := h.star.write hn hrow hcol true
    obtain ⟨covered, hcovered, hcovered'⟩ := h.coveredCols.write hK hcol true
    refine ⟨{ u with starMatrix := star, coveredCols := covered }, ?_, ?_⟩
    · simp [hcol, hstar, hcovered]
    · rw [if_pos hcol]
      exact { h with star := hstar', coveredCols := hcovered' }
  · exact ⟨u, by simp [hcol], by rwa [if_neg hcol]⟩

/-- The first zero that `starColumn` looks for. -/
theorem Agrees.firstFreeZeroInColumn (h : Agrees R K u b) (hn : R * K ≤ max * max) (hR : R ≤ max)
    {col : ℕ} (hcol : col < K) :
    firstIndex R (fun row => do
      if isZero (← u.distMatrix.read (row + R * col)) then
        return !(← u.coveredRows.read row)
      else return false) =
      some (firstTrue R fun row => isZero (b.dist row col) && !b.coveredRows row) := by
  refine firstIndex_eq fun row hr => ?_
  rw [h.dist.read hn hr hcol, h.coveredRows.read hR hr]
  cases hzero : isZero (b.dist row col) <;> simp [hzero]

theorem Agrees.starColumn (h : Agrees R K u b) (hR : R ≤ max) (hK : K ≤ max) {col : ℕ}
    (hcol : col < K) :
    ∃ u', Hungarian.starColumn R col u = some u' ∧ Agrees R K u' (b.starColumn R col) := by
  have hn : R * K ≤ max * max := Nat.mul_le_mul hR hK
  rw [Hungarian.starColumn, h.firstFreeZeroInColumn hn hR hcol, Board.starColumn]
  set row := firstTrue R fun row => isZero (b.dist row col) && !b.coveredRows row
  by_cases hrow : row < R
  · obtain ⟨star, hstar, hstar'⟩ := h.star.write hn hrow hcol true
    obtain ⟨cols, hcols, hcols'⟩ := h.coveredCols.write hK hcol true
    obtain ⟨rows, hrows, hrows'⟩ := h.coveredRows.write hR hrow true
    refine ⟨{ u with starMatrix := star, coveredCols := cols, coveredRows := rows }, ?_, ?_⟩
    · simp [hrow, hstar, hcols, hrows]
    · rw [if_pos hrow]
      exact { h with star := hstar', coveredCols := hcols', coveredRows := hrows' }
  · exact ⟨u, by simp [hrow], by rwa [if_neg hrow]⟩

/-! ### Reduced rows and columns -/

section Reduce

variable {d : FixedArray (max * max) ℤ} {m : ℕ → ℕ → ℤ}

theorem stride_count {r : ℕ} (hr : r < R) (j : ℕ) :
    (R * K - (r + R * j) + R - 1) / R = K - j := by
  rcases Nat.lt_or_ge j K with hlt | hge
  · obtain ⟨t, rfl⟩ := Nat.exists_eq_add_of_lt hlt
    have hcount : R * (j + t + 1) - (r + R * j) + R - 1 = (R - 1 - r) + R * (t + 1) := by
      rw [Nat.mul_add, Nat.mul_add, Nat.mul_add]
      omega
    rw [hcount, Nat.add_mul_div_left _ _ (by omega), Nat.div_eq_of_lt (by omega)]
    omega
  · have hle : R * K ≤ R * j := Nat.mul_le_mul_left R hge
    rw [Nat.div_eq_of_lt (by omega)]
    omega

theorem smallest_congr {f g : ℕ → ℤ} {n : ℕ} (h : ∀ i ≤ n, f i = g i) :
    Board.smallest f n = Board.smallest g n := by
  rw [Board.smallest, Board.smallest, h 0 (Nat.zero_le n)]
  induction n with
  | zero => rfl
  | succ n ih =>
    rw [iterRange_succ, iterRange_succ, ih fun i hi => h i (Nat.le_succ_of_le hi),
      h (n + 1) (Nat.le_refl _)]

theorem minOfRow_eq (h : Shows R K d m) (hn : R * K ≤ max * max) {row : ℕ} (hrow : row < R)
    (hK : 0 < K) : minOfRow R K d row = some (Board.smallest (m row) (K - 1)) := by
  have hfirst : d.read row = some (m row 0) := by
    have hread := h.read hn hrow hK
    rwa [Nat.mul_zero, Nat.add_zero] at hread
  have hcount := stride_count (K := K) hrow 1
  rw [Nat.mul_one] at hcount
  rw [minOfRow, hfirst, Option.bind_eq_bind, Option.bind_some, forStride, hcount, Board.smallest]
  refine forRange_eq_some fun i hi a => ?_
  have hindex : row + R + i * R = row + R * (i + 1) := by
    rw [Nat.mul_succ, Nat.mul_comm i R]
    omega
  rw [hindex, h.read hn hrow (by omega)]
  rfl

theorem reduceRow_shows (h : Shows R K d m) (hn : R * K ≤ max * max) {row : ℕ} (hrow : row < R)
    (hK : 0 < K) : ∃ d', reduceRow R K row d = some d' ∧
      Shows R K d' fun r c => if r = row then Board.reduceRows K m row c else m r c := by
  obtain ⟨d', hrun, hd'⟩ := h.modify_row hn hrow (· - Board.smallest (m row) (K - 1))
  refine ⟨d', ?_, hd'⟩
  have hcount := stride_count (K := K) hrow 0
  rw [Nat.mul_zero, Nat.add_zero, Nat.sub_zero] at hcount
  rw [reduceRow, minOfRow_eq h hn hrow hK, Option.bind_eq_bind, Option.bind_some, forStride,
    hcount, ← hrun]
  exact forRange_congr (fun i _ d => by rw [Nat.mul_comm i R]) d

theorem minOfColumn_eq (h : Shows R K d m) (hn : R * K ≤ max * max) {col : ℕ} (hcol : col < K)
    (hR : 0 < R) : minOfColumn R d col = some (Board.smallest (m · col) (R - 1)) := by
  have hfirst : d.read (R * col) = some (m 0 col) := by
    have hread := h.read hn hR hcol
    rwa [Nat.zero_add] at hread
  have hcount : (R * col + R - (R * col + 1) + 1 - 1) / 1 = R - 1 := by omega
  rw [minOfColumn, hfirst, Option.bind_eq_bind, Option.bind_some, forStride, hcount,
    Board.smallest]
  refine forRange_eq_some fun i hi a => ?_
  have hindex : R * col + 1 + i * 1 = i + 1 + R * col := by omega
  rw [hindex, h.read hn (by omega) hcol]
  rfl

theorem reduceColumn_shows (h : Shows R K d m) (hn : R * K ≤ max * max) {col : ℕ} (hcol : col < K)
    (hR : 0 < R) : ∃ d', reduceColumn R col d = some d' ∧
      Shows R K d' fun r c => if c = col then Board.reduceColumns R m r col else m r c := by
  obtain ⟨d', hrun, hd'⟩ := h.modify_column hn hcol (· - Board.smallest (m · col) (R - 1))
  refine ⟨d', ?_, hd'⟩
  have hcount : (R * col + R - R * col + 1 - 1) / 1 = R := by omega
  rw [reduceColumn, minOfColumn_eq h hn hcol hR, Option.bind_eq_bind, Option.bind_some, forStride,
    hcount, ← hrun]
  exact forRange_congr (fun i _ d => by rw [Nat.mul_one, Nat.add_comm (R * col) i]) d

end Reduce

/-! ### The beginning -/

/-- **The arrays are set**, whatever they have held. -/
theorem agrees_reset {costs : ℕ → ℕ → ℤ} (hR : R ≤ max) (hK : K ≤ max)
    (h : Shows R K u.distMatrixIn costs) :
    ∃ u', reset R K u = some u' ∧ Agrees R K u' (.start costs) := by
  have hn : R * K ≤ max * max := Nat.mul_le_mul hR hK
  obtain ⟨assignment, hassignment, hassignment'⟩ := showsLine_forRange_write
    (B := fun row a => a.write row (-1)) (f := fun _ => (-1 : ℤ)) u.assignment hR
    fun _ _ _ => rfl
  have hread : ∀ i < R * K, ∀ d : FixedArray (max * max) ℤ,
      ((u.distMatrixIn.read i).bind fun curValue => d.write i curValue) =
        d.write i (u.distMatrixIn.get i) := by
    intro i hi d
    rw [FixedArray.read, if_pos (Nat.lt_of_lt_of_le hi hn), Option.bind_some]
  obtain ⟨dist, hdist, hdist'⟩ := shows_forRange_copy h u.distMatrix hn hread
  obtain ⟨cols, hcols, hcols'⟩ := showsLine_fill u.coveredCols hK false
  obtain ⟨rows, hrows, hrows'⟩ := showsLine_fill u.coveredRows hR false
  obtain ⟨star, hstar, hstar'⟩ := shows_fill u.starMatrix hn false
  obtain ⟨newStar, hnewStar, hnewStar'⟩ := shows_fill u.newStarMatrix hn false
  obtain ⟨prime, hprime, hprime'⟩ := shows_fill u.primeMatrix hn false
  refine ⟨{ u with
    assignment := assignment, distMatrix := dist, coveredCols := cols, coveredRows := rows
    starMatrix := star, newStarMatrix := newStar, primeMatrix := prime }, ?_, ?_⟩
  · rw [reset, hassignment]
    simp [hdist, hcols, hrows, hstar, hnewStar, hprime]
  · exact ⟨hdist', hassignment', hcols', hrows', hstar', hnewStar', hprime'⟩

/-- **The preliminary steps.** -/
theorem Agrees.preliminary (h : Agrees R K u b) (hR : R ≤ max) (hK : K ≤ max) (hR' : 0 < R)
    (hK' : 0 < K) :
    ∃ u', Hungarian.preliminary R K u = some u' ∧ Agrees R K u' (b.preliminary R K) := by
  have hn : R * K ≤ max * max := Nat.mul_le_mul hR hK
  rw [Hungarian.preliminary, Board.preliminary]
  split_ifs with hwide
  · have hrows : ∀ row < R, ∀ (d : FixedArray (max * max) ℤ) m, Shows R K d m →
        (∀ c < K, m row c = b.dist row c) →
        ∃ d', reduceRow R K row d = some d' ∧ Shows R K d' fun r c =>
          if r = row then Board.reduceRows K b.dist row c else m r c := by
      intro row hrow d m hd hm
      obtain ⟨d', hrun, hd'⟩ := reduceRow_shows hd hn hrow hK'
      have hmin : Board.smallest (m row) (K - 1) = Board.smallest (b.dist row) (K - 1) :=
        smallest_congr fun i hi => hm i (by omega)
      refine ⟨d', hrun, hd'.congr fun r _ c hc => ?_⟩
      rw [Board.reduceRows, Board.reduceRows, hmin, hm c hc]
    obtain ⟨dist, hdist, hdist'⟩ := h.dist.forRange_rows hrows
    obtain ⟨u', hrun, hu'⟩ := forRange_refines (n := R) (R := Agrees R K)
      (B := Hungarian.starRow R K) (f := Board.starRow K)
      (s := { u with distMatrix := dist }) (t := { b with dist := Board.reduceRows K b.dist })
      { h with dist := hdist' } fun row hrow u hu => hu.starRow hR hK hrow
    refine ⟨u', ?_, hu'⟩
    rw [hdist]
    exact hrun
  · have hcolumns : ∀ col < K, ∀ (d : FixedArray (max * max) ℤ) m, Shows R K d m →
        (∀ r < R, m r col = b.dist r col) →
        ∃ d', reduceColumn R col d = some d' ∧ Shows R K d' fun r c =>
          if c = col then Board.reduceColumns R b.dist r col else m r c := by
      intro col hcol d m hd hm
      obtain ⟨d', hrun, hd'⟩ := reduceColumn_shows hd hn hcol hR'
      have hmin : Board.smallest (m · col) (R - 1) = Board.smallest (b.dist · col) (R - 1) :=
        smallest_congr fun i hi => hm i (by omega)
      refine ⟨d', hrun, hd'.congr fun r hr c _ => ?_⟩
      rw [Board.reduceColumns, Board.reduceColumns, hmin, hm r hr]
    obtain ⟨dist, hdist, hdist'⟩ := h.dist.forRange_columns hcolumns
    obtain ⟨u', hrun, hu'⟩ := forRange_refines (n := K) (R := Agrees R K)
      (B := Hungarian.starColumn R) (f := Board.starColumn R)
      (s := { u with distMatrix := dist }) (t := { b with dist := Board.reduceColumns R b.dist })
      { h with dist := hdist' } fun col hcol u hu => hu.starColumn hR hK hcol
    obtain ⟨rows, hrows, hrows'⟩ := showsLine_forRange_write
      (B := fun row covered => covered.write row false) (f := fun _ => false) u'.coveredRows hR
      fun _ _ _ => rfl
    refine ⟨{ u' with coveredRows := rows }, ?_, { hu' with coveredRows := hrows' }⟩
    simp only [hdist, hrun, hrows, Option.bind_eq_bind, Option.bind_some, Option.pure_def]

/-! ### The steps -/

theorem Agrees.buildAssignmentVector (h : Agrees R K u b) (hR : R ≤ max) (hK : K ≤ max) :
    ∃ u', Hungarian.buildAssignmentVector R K u = some u' ∧
      Agrees R K u' (b.buildAssignmentVector K) := by
  have hn : R * K ≤ max * max := Nat.mul_le_mul hR hK
  obtain ⟨assignment, hrun, hassignment⟩ := h.assignment.forRange_write (k := R) hR
    (p := fun row => firstTrue K (b.star row) < K)
    (a := fun row => (firstTrue K (b.star row) : ℤ))
    (B := fun row (assignment : FixedArray max ℤ) => do
      let col ← firstIndex K fun col => u.starMatrix.read (row + R * col)
      if col < K then assignment.write row col
      else return assignment) fun row hrow a => by
        rw [h.firstStarInRow hn hrow]
        simp
  refine ⟨{ u with assignment := assignment }, ?_, { h with assignment := ?_ }⟩
  · rw [Hungarian.buildAssignmentVector, hrun]
    rfl
  · simp only [decide_eq_true_eq] at hassignment
    exact hassignment

theorem Agrees.step2a (h : Agrees R K u b) (hR : R ≤ max) (hK : K ≤ max) :
    ∃ u', Hungarian.step2a R K u = some ((b.step2a R).1, u') ∧ Agrees R K u' (b.step2a R).2 := by
  have hn : R * K ≤ max * max := Nat.mul_le_mul hR hK
  obtain ⟨cols, hrun, hcols⟩ := h.coveredCols.forRange_write (k := K) hK
    (p := fun col => firstTrue R (b.star · col) < R) (a := fun _ => true)
    (B := fun col covered => do
      let row ← firstIndex R fun row => u.starMatrix.read (row + R * col)
      if row < R then covered.write col true
      else return covered) fun col hcol a => by
        rw [h.firstStarInColumn hn hcol]
        simp
  refine ⟨{ u with coveredCols := cols }, ?_, { h with coveredCols := ?_ }⟩
  · rw [Hungarian.step2a, hrun]
    rfl
  · simp only [decide_eq_true_eq] at hcols
    exact hcols

theorem Agrees.step2b (h : Agrees R K u b) (hR : R ≤ max) (hK : K ≤ max) :
    ∃ u', Hungarian.step2b R K u = some ((b.step2b R K).1, u') ∧
      Agrees R K u' (b.step2b R K).2 := by
  have hcount : forRange K (fun col count => do
      return if ← u.coveredCols.read col then count + 1 else count) 0 =
        some (iterRange K (fun col count => if b.coveredCols col then count + 1 else count) 0) := by
    refine forRange_eq_some fun col hcol count => ?_
    rw [h.coveredCols.read hK hcol]
    rfl
  obtain ⟨u', hbuild, hu'⟩ := h.buildAssignmentVector hR hK
  rw [Hungarian.step2b, hcount, Board.step2b, Option.bind_eq_bind, Option.bind_some]
  split_ifs
  · exact ⟨u', by rw [hbuild]; rfl, hu'⟩
  · exact ⟨u, rfl, h⟩

/-- The loop of `step3` keeps the matrices in the arrays. -/
structure ScanAgrees (R K : ℕ) (s : Scan max) (t : Board.Scan) : Prop where
  /-- The matrices. -/
  unit : Agrees R K s.unit t.board
  /-- `zerosFound`. -/
  zerosFound : s.zerosFound = t.zerosFound
  /-- The arguments of `step4`. -/
  found : s.found = t.found

theorem Agrees.firstUncoveredZero (h : Agrees R K u b) (hn : R * K ≤ max * max) (hR : R ≤ max)
    {col : ℕ} (hcol : col < K) :
    firstIndex R (fun row => do
      if ← u.coveredRows.read row then return false
      else return isZero (← u.distMatrix.read (row + R * col))) =
      some (firstTrue R fun row => !b.coveredRows row && isZero (b.dist row col)) := by
  refine firstIndex_eq fun row hr => ?_
  rw [h.dist.read hn hr hcol, h.coveredRows.read hR hr]
  cases hcovered : b.coveredRows row <;> simp

theorem ScanAgrees.scanColumn {s : Scan max} {t : Board.Scan} (h : ScanAgrees R K s t)
    (hR : R ≤ max) (hK : K ≤ max) {col : ℕ} (hcol : col < K) :
    ∃ s', Hungarian.scanColumn R K col s = some s' ∧
      ScanAgrees R K s' (Board.scanColumn R K col t) := by
  have hn : R * K ≤ max * max := Nat.mul_le_mul hR hK
  obtain ⟨hunit, hzeros, hfound⟩ := h
  rw [Hungarian.scanColumn, Board.scanColumn, hfound]
  dsimp only
  rw [hunit.coveredCols.read hK hcol, hunit.firstUncoveredZero hn hR hcol]
  by_cases hskip : t.found.isSome || t.board.coveredCols col
  · refine ⟨s, ?_, ?_⟩
    · rcases Bool.or_eq_true_iff.mp hskip with hsome | hcovered <;> simp [*]
    · rw [if_pos hskip]
      exact ⟨hunit, hzeros, hfound⟩
  · rw [if_neg hskip]
    obtain ⟨hnone, huncovered⟩ := not_or.mp (hskip ∘ Bool.or_eq_true_iff.mpr)
    rw [if_neg hnone, Option.bind_eq_bind, Option.bind_some, if_neg huncovered,
      Option.bind_eq_bind, Option.bind_some]
    set row := firstTrue R fun row => !t.board.coveredRows row && isZero (t.board.dist row col)
    by_cases hrow : row < R
    · obtain ⟨prime, hprime, hprime'⟩ := hunit.prime.write hn hrow hcol true
      have hunit' : Agrees R K { s.unit with primeMatrix := prime }
          { t.board with prime := setAt t.board.prime row col true } :=
        { hunit with prime := hprime' }
      rw [if_pos hrow, if_pos hrow, hprime, Option.bind_eq_bind, Option.bind_some,
        hunit.firstStarInRow hn hrow, Option.bind_eq_bind, Option.bind_some]
      set starCol := firstTrue K (t.board.star row)
      have hle : starCol ≤ K := firstTrue_le
      by_cases hstar : starCol = K
      · rw [if_pos hstar, if_pos hstar]
        exact ⟨_, rfl, hunit', hzeros, rfl⟩
      · have hstarCol : starCol < K := by omega
        obtain ⟨rows, hrows, hrows'⟩ := hunit.coveredRows.write hR hrow true
        obtain ⟨cols, hcols, hcols'⟩ := hunit.coveredCols.write hK hstarCol false
        rw [if_neg hstar, if_neg hstar, hrows, hcols]
        exact ⟨_, rfl, { hunit' with coveredRows := hrows', coveredCols := hcols' }, rfl, rfl⟩
    · rw [if_neg hrow, if_neg hrow]
      exact ⟨s, rfl, hunit, hzeros, hfound⟩

theorem Agrees.step3 (h : Agrees R K u b) (hR : R ≤ max) (hK : K ≤ max) :
    ∃ u', Hungarian.step3 R K u = some ((b.step3 R K).1, u') ∧
      Agrees R K u' (b.step3 R K).2 := by
  obtain ⟨s, hrun, hs⟩ := forRange_refines (n := K) (R := ScanAgrees R K)
    (B := Hungarian.scanColumn R K) (f := Board.scanColumn R K) (s := ⟨u, false, none⟩)
    (t := ⟨b, false, none⟩) ⟨h, rfl, rfl⟩ fun col hcol s hs => hs.scanColumn hR hK hcol
  obtain ⟨hunit, hzeros, hfound⟩ := hs
  rw [Hungarian.step3, hrun, Board.step3, Board.Scan.next, ← hfound, ← hzeros]
  rcases hcall : s.found with - | ⟨row, col⟩
  · exact ⟨s.unit, by simp [hcall], hunit⟩
  · exact ⟨s.unit, by simp [hcall], hunit⟩

theorem Agrees.step4 (h : Agrees R K u b) (hR : R ≤ max) (hK : K ≤ max) {row col : ℕ}
    (hrow : row < R) (hcol : col < K) :
    ∃ u', Hungarian.step4 R K row col u = some ((b.step4 R row col).1, u') ∧
      Agrees R K u' (b.step4 R row col).2 := by
  have hn : R * K ≤ max * max := Nat.mul_le_mul hR hK
  have hread : ∀ i < R * K, ∀ a : FixedArray (max * max) Bool,
      ((u.starMatrix.read i).bind fun value => a.write i value) =
        a.write i (u.starMatrix.get i) := by
    intro i hi a
    rw [FixedArray.read, if_pos (Nat.lt_of_lt_of_le hi hn), Option.bind_some]
  obtain ⟨copied, hcopied, hcopied'⟩ := shows_forRange_copy h.star u.newStarMatrix hn hread
  obtain ⟨newStar, hnewStar, hnewStar'⟩ := hcopied'.write hn hrow hcol true
  refine ⟨{ u with newStarMatrix := newStar }, ?_, { h with newStar := hnewStar' }⟩
  simp [Hungarian.step4, hcopied, hnewStar, h.firstStarInColumn hn hcol, Board.step4]

/-- The loop of `step4`, as long as there is a prime in the row of the star. -/
theorem Agrees.path (h : Agrees R K u b) (hR : R ≤ max) (hK : K ≤ max) {starRow starCol : ℕ}
    (hcol : starCol < K) (hprime : starRow < R → firstTrue K (b.prime starRow) < K) :
    ∃ u', Hungarian.path R K starRow starCol u = some ((b.path R K starRow starCol).1, u') ∧
      Agrees R K u' (b.path R K starRow starCol).2 := by
  have hn : R * K ≤ max * max := Nat.mul_le_mul hR hK
  rw [Hungarian.path, Board.path]
  by_cases hrow : starRow < R
  · have hprimeCol := hprime hrow
    obtain ⟨unstarred, hunstarred, hunstarred'⟩ := h.newStar.write hn hrow hcol false
    obtain ⟨starred, hstarred, hstarred'⟩ := hunstarred'.write hn hrow hprimeCol true
    rw [if_pos hrow, if_pos hrow]
    refine ⟨{ u with newStarMatrix := starred }, ?_, { h with newStar := hstarred' }⟩
    simp [hunstarred, h.firstPrimeInRow hn hrow, hstarred, h.firstStarInColumn hn hprimeCol]
  · have hread : ∀ i < R * K, ∀ a : FixedArray (max * max) Bool,
        ((u.newStarMatrix.read i).bind fun value => a.write i value) =
          a.write i (u.newStarMatrix.get i) := by
      intro i hi a
      rw [FixedArray.read, if_pos (Nat.lt_of_lt_of_le hi hn), Option.bind_some]
    obtain ⟨primes, hprimes, hprimes'⟩ := showsLine_forRange_write
      (B := fun n b => b.write n false) (f := fun _ => false) u.primeMatrix hn fun _ _ _ => rfl
    obtain ⟨stars, hstars, hstars'⟩ := shows_forRange_copy h.newStar u.starMatrix hn hread
    obtain ⟨rows, hrows, hrows'⟩ := showsLine_forRange_write
      (B := fun n b => b.write n false) (f := fun _ => false) u.coveredRows hR fun _ _ _ => rfl
    rw [if_neg hrow, if_neg hrow]
    refine ⟨{ u with primeMatrix := primes, starMatrix := stars, coveredRows := rows }, ?_,
      { h with
        prime := fun r hr c hc => hprimes' _ (flat_lt hr hc), star := hstars'
        coveredRows := hrows' }⟩
    simp [hprimes, hstars, hrows]

theorem Agrees.minUncovered (h : Agrees R K u b) (hR : R ≤ max) (hK : K ≤ max) :
    Hungarian.minUncovered R K u = some (b.minUncovered R K) := by
  have hn : R * K ≤ max * max := Nat.mul_le_mul hR hK
  rw [Hungarian.minUncovered, Board.minUncovered]
  refine forRange_eq_some fun row hrow a => ?_
  rw [h.coveredRows.read hR hrow, Option.bind_eq_bind, Option.bind_some]
  split_ifs
  · rfl
  · refine forRange_eq_some fun col hcol a => ?_
    rw [h.coveredCols.read hK hcol, h.dist.read hn hrow hcol, Option.bind_eq_bind,
      Option.bind_some]
    split_ifs <;> simp [*]

theorem Agrees.step5 (h : Agrees R K u b) (hR : R ≤ max) (hK : K ≤ max) :
    ∃ u', Hungarian.step5 R K u = some ((b.step5 R K).1, u') ∧
      Agrees R K u' (b.step5 R K).2 := by
  have hn : R * K ≤ max * max := Nat.mul_le_mul hR hK
  set a := b.minUncovered R K with ha
  set added : ℕ → ℕ → ℤ := fun r c => if b.coveredRows r then b.dist r c + a else b.dist r c
  have hrows : ∀ row < R, ∀ (d : FixedArray (max * max) ℤ) m, Shows R K d m →
      (∀ c < K, m row c = b.dist row c) → ∃ d',
        (do
          if ← u.coveredRows.read row then
            forRange K (fun col d => d.modify (row + R * col) (· + a)) d
          else return d) = some d' ∧
        Shows R K d' fun r c => if r = row then added row c else m r c := by
    intro row hrow d m hd hm
    rw [h.coveredRows.read hR hrow, Option.bind_eq_bind, Option.bind_some]
    split_ifs with hcovered
    · obtain ⟨d', hrun, hd'⟩ := hd.modify_row hn hrow (· + a)
      refine ⟨d', hrun, hd'.congr fun r _ c hc => ?_⟩
      rw [hm c hc]
      exact if_congr Iff.rfl (if_pos hcovered).symm rfl
    · refine ⟨d, rfl, hd.congr fun r _ c hc => ?_⟩
      split_ifs with hsame
      · rw [hsame, hm c hc]
        exact (if_neg hcovered).symm
      · rfl
  obtain ⟨d₁, hrun₁, hd₁⟩ := h.dist.forRange_rows hrows
  have hcolumns : ∀ col < K, ∀ (d : FixedArray (max * max) ℤ) m, Shows R K d m →
      (∀ r < R, m r col = added r col) → ∃ d',
        (do
          if ← u.coveredCols.read col then return d
          else forRange R (fun row d => d.modify (row + R * col) (· - a)) d) = some d' ∧
        Shows R K d' fun r c =>
          if c = col then added r col - (if b.coveredCols col then 0 else a) else m r c := by
    intro col hcol d m hd hm
    rw [h.coveredCols.read hK hcol, Option.bind_eq_bind, Option.bind_some]
    split_ifs with hcovered
    · refine ⟨d, rfl, hd.congr fun r hr c _ => ?_⟩
      split_ifs with hsame
      · rw [hsame, hm r hr, sub_zero]
      · rfl
    · obtain ⟨d', hrun, hd'⟩ := hd.modify_column hn hcol (· - a)
      refine ⟨d', hrun, hd'.congr fun r hr c _ => ?_⟩
      rw [hm r hr]
  obtain ⟨d₂, hrun₂, hd₂⟩ := hd₁.forRange_columns hcolumns
  refine ⟨{ u with distMatrix := d₂ }, ?_, { h with dist := hd₂ }⟩
  rw [Hungarian.step5, h.minUncovered hR hK, Option.bind_eq_bind, Option.bind_some, hrun₁,
    Option.bind_eq_bind, Option.bind_some, hrun₂]
  rfl

/-- **What a step asks for**: a place in the matrix, and in the loop of `step4` a prime in the row
of the star. -/
def Safe (R K : ℕ) : Phase × Board → Prop
  | (.step4 row col, _) => row < R ∧ col < K
  | (.path starRow starCol, b) => starCol < K ∧ (starRow < R → firstTrue K (b.prime starRow) < K)
  | (.finished, _) => False
  | _ => True

/-- **The arrays follow the matrices.** -/
theorem next_refines (h : Agrees R K u b) (hR : R ≤ max) (hK : K ≤ max) {p : Phase}
    (hsafe : Safe R K (p, b)) :
    ∃ u', next R K (p, u) = some ((Board.next R K (p, b)).1, u') ∧
      Agrees R K u' (Board.next R K (p, b)).2 := by
  cases p with
  | step2a => exact h.step2a hR hK
  | step2b => exact h.step2b hR hK
  | step3 => exact h.step3 hR hK
  | step4 row col => exact h.step4 hR hK hsafe.1 hsafe.2
  | path starRow starCol => exact h.path hR hK hsafe.1 hsafe.2
  | step5 => exact h.step5 hR hK
  | finished => exact hsafe.elim

end Refinement

end Hungarian

end DetectBase
