import DetectBase.Foundations.FixedArrays
import Mathlib.Algebra.Order.Ring.Abs
import Mathlib.Algebra.Order.Ring.Rat
import Mathlib.Logic.Relation

/-!
# The solver of the assignments

`MgenHungarianAlgorithm::Solve` seeks a cheapest assignment of the rows of a matrix to its columns,
by stars and primes at the zeros of a copy of the matrix from which it subtracts, and by covers of
its rows and columns. The arrays it works on are allocated once (`DetectBase.HungarianMemoryUnit`)
and are there for every call, whatever an earlier one has left in them.

The steps call one another and never return to the one that has called them, so that a run of them
is a machine that goes from step to step (`DetectBase.Hungarian.next`). Every access to an array is
checked: it is `none` beyond the array. The costs are whole numbers here.
-/

namespace DetectBase

/-- **The arrays**, for matrices of up to `max` rows and columns. -/
structure HungarianMemoryUnit (max : ℕ) where
  /-- `dist_matrix_in`. -/
  distMatrixIn : FixedArray (max * max) ℤ
  /-- `dist_matrix`. -/
  distMatrix : FixedArray (max * max) ℤ
  /-- `assignment`. -/
  assignment : FixedArray max ℤ
  /-- `covered_cols`. -/
  coveredCols : FixedArray max Bool
  /-- `covered_rows`. -/
  coveredRows : FixedArray max Bool
  /-- `star_matrix`. -/
  starMatrix : FixedArray (max * max) Bool
  /-- `new_star_matrix`. -/
  newStarMatrix : FixedArray (max * max) Bool
  /-- `prime_matrix`. -/
  primeMatrix : FixedArray (max * max) Bool

/-- `DBL_EPSILON`. -/
def dblEpsilon : ℚ := 1 / 2 ^ 52

/-- `DBL_MAX`. -/
def dblMax : ℤ := (2 ^ 53 - 1) * 2 ^ 971

/-- `fabs( x ) < DBL_EPSILON`. -/
def isZero (x : ℤ) : Bool := |(x : ℚ)| < dblEpsilon

namespace Hungarian

/-- Where the machine is. The arguments of `step4` are the row and the column of a primed zero, and
those of `path` the row and the column of a star in the loop of `step4`. -/
inductive Phase where
  /-- `step2a`. -/
  | step2a
  /-- `step2b`. -/
  | step2b
  /-- The loop of `step3`. -/
  | step3
  /-- `step4`, up to its loop. -/
  | step4 (row col : ℕ)
  /-- The loop of `step4`, and what follows it. -/
  | path (starRow starCol : ℕ)
  /-- `step5`. -/
  | step5
  /-- All calls have returned. -/
  | finished
deriving DecidableEq

variable {max : ℕ} (nRows nCols : ℕ)

/-! ### Preliminary steps -/

/-- The smallest element of a row. -/
def minOfRow (d : FixedArray (max * max) ℤ) (row : ℕ) : Option ℤ := do
  let minValue ← d.read row
  forStride (row + nRows) (nRows * nCols) nRows (fun i minValue => do
    let curValue ← d.read i
    return if curValue < minValue then curValue else minValue) minValue

/-- The smallest element of a row is subtracted from each element of it. -/
def reduceRow (row : ℕ) (d : FixedArray (max * max) ℤ) : Option (FixedArray (max * max) ℤ) := do
  let minValue ← minOfRow nRows nCols d row
  forStride row (nRows * nCols) nRows (fun i d => d.modify i (· - minValue)) d

/-- The smallest element of a column. -/
def minOfColumn (d : FixedArray (max * max) ℤ) (col : ℕ) : Option ℤ := do
  let minValue ← d.read (nRows * col)
  forStride (nRows * col + 1) (nRows * col + nRows) 1 (fun i minValue => do
    let curValue ← d.read i
    return if curValue < minValue then curValue else minValue) minValue

/-- The smallest element of a column is subtracted from each element of it. -/
def reduceColumn (col : ℕ) (d : FixedArray (max * max) ℤ) : Option (FixedArray (max * max) ℤ) := do
  let minValue ← minOfColumn nRows d col
  forStride (nRows * col) (nRows * col + nRows) 1 (fun i d => d.modify i (· - minValue)) d

/-- Steps 1 and 2a, for a row: the first zero in a column without a star is starred. -/
def starRow (row : ℕ) (u : HungarianMemoryUnit max) : Option (HungarianMemoryUnit max) := do
  let col ← firstIndex nCols fun col => do
    if isZero (← u.distMatrix.read (row + nRows * col)) then
      return !(← u.coveredCols.read col)
    else return false
  if col < nCols then
    return { u with
      starMatrix := ← u.starMatrix.write (row + nRows * col) true
      coveredCols := ← u.coveredCols.write col true }
  else return u

/-- Steps 1 and 2a, for a column. -/
def starColumn (col : ℕ) (u : HungarianMemoryUnit max) : Option (HungarianMemoryUnit max) := do
  let row ← firstIndex nRows fun row => do
    if isZero (← u.distMatrix.read (row + nRows * col)) then
      return !(← u.coveredRows.read row)
    else return false
  if row < nRows then
    return { u with
      starMatrix := ← u.starMatrix.write (row + nRows * col) true
      coveredCols := ← u.coveredCols.write col true
      coveredRows := ← u.coveredRows.write row true }
  else return u

/-- What `AssignmentOptimal` does first: the arrays are set. -/
def reset (u : HungarianMemoryUnit max) : Option (HungarianMemoryUnit max) := do
  let assignment ← forRange nRows (fun row a => a.write row (-1)) u.assignment
  let distMatrix ← forRange (nRows * nCols) (fun i d => do
    let curValue ← u.distMatrixIn.read i
    d.write i curValue) u.distMatrix
  return { u with
    assignment := assignment
    distMatrix := distMatrix
    coveredCols := ← u.coveredCols.fill nCols false
    coveredRows := ← u.coveredRows.fill nRows false
    starMatrix := ← u.starMatrix.fill (nRows * nCols) false
    newStarMatrix := ← u.newStarMatrix.fill (nRows * nCols) false
    primeMatrix := ← u.primeMatrix.fill (nRows * nCols) false }

/-- The preliminary steps. -/
def preliminary (u : HungarianMemoryUnit max) : Option (HungarianMemoryUnit max) := do
  if nRows ≤ nCols then
    let u := { u with distMatrix := ← forRange nRows (reduceRow nRows nCols) u.distMatrix }
    forRange nRows (starRow nRows nCols) u
  else
    let u := { u with distMatrix := ← forRange nCols (reduceColumn nRows) u.distMatrix }
    let u ← forRange nCols (starColumn nRows) u
    return { u with
      coveredRows := ← forRange nRows (fun row covered => covered.write row false) u.coveredRows }

/-- `minDim`. -/
def minDim : ℕ := if nRows ≤ nCols then nRows else nCols

/-! ### The steps -/

/-- `BuildAssignmentVector`. -/
def buildAssignmentVector (u : HungarianMemoryUnit max) : Option (HungarianMemoryUnit max) := do
  return { u with
    assignment := ← forRange nRows (fun row assignment => do
      let col ← firstIndex nCols fun col => u.starMatrix.read (row + nRows * col)
      if col < nCols then assignment.write row col
      else return assignment) u.assignment }

/-- `step2a`: every column with a star is covered. -/
def step2a (u : HungarianMemoryUnit max) : Option (Phase × HungarianMemoryUnit max) := do
  let coveredCols ← forRange nCols (fun col covered => do
    let row ← firstIndex nRows fun row => u.starMatrix.read (row + nRows * col)
    if row < nRows then covered.write col true
    else return covered) u.coveredCols
  return (.step2b, { u with coveredCols := coveredCols })

/-- `step2b`: the covered columns are counted. -/
def step2b (u : HungarianMemoryUnit max) : Option (Phase × HungarianMemoryUnit max) := do
  let nOfCoveredColumns ← forRange nCols (fun col count => do
    return if ← u.coveredCols.read col then count + 1 else count) 0
  if nOfCoveredColumns = minDim nRows nCols then
    return (.finished, ← buildAssignmentVector nRows nCols u)
  else return (.step3, u)

/-- What the loop over the columns in `step3` keeps. -/
structure Scan (max : ℕ) where
  /-- The arrays. -/
  unit : HungarianMemoryUnit max
  /-- `zerosFound`. -/
  zerosFound : Bool
  /-- The row and the column that `step4` is called with, once it is. -/
  found : Option (ℕ × ℕ)

/-- `step3`, for a column: its first uncovered zero is primed. -/
def scanColumn (col : ℕ) (s : Scan max) : Option (Scan max) := do
  if s.found.isSome then return s
  let u := s.unit
  if ← u.coveredCols.read col then return s
  let row ← firstIndex nRows fun row => do
    if ← u.coveredRows.read row then return false
    else return isZero (← u.distMatrix.read (row + nRows * col))
  if row < nRows then
    let u := { u with primeMatrix := ← u.primeMatrix.write (row + nRows * col) true }
    let starCol ← firstIndex nCols fun starCol => u.starMatrix.read (row + nRows * starCol)
    if starCol = nCols then return { s with unit := u, found := some (row, col) }
    else
      return { s with
        unit := { u with
          coveredRows := ← u.coveredRows.write row true
          coveredCols := ← u.coveredCols.write starCol false }
        zerosFound := true }
  else return s

/-- `step3`, once through its loop. -/
def step3 (u : HungarianMemoryUnit max) : Option (Phase × HungarianMemoryUnit max) := do
  let s ← forRange nCols (scanColumn nRows nCols) ⟨u, false, none⟩
  match s.found with
  | some (row, col) => return (.step4 row col, s.unit)
  | none => return (if s.zerosFound then .step3 else .step5, s.unit)

/-- `step4`: the primed zero is starred, and a star in its column is looked for. -/
def step4 (row col : ℕ) (u : HungarianMemoryUnit max) :
    Option (Phase × HungarianMemoryUnit max) := do
  let newStarMatrix ← forRange (nRows * nCols) (fun n b => do
    b.write n (← u.starMatrix.read n)) u.newStarMatrix
  let newStarMatrix ← newStarMatrix.write (row + nRows * col) true
  let starRow ← firstIndex nRows fun starRow => u.starMatrix.read (starRow + nRows * col)
  return (.path starRow col, { u with newStarMatrix := newStarMatrix })

/-- The loop of `step4`: from the star to the prime in its row, and to the star in the column of
that. After the loop the stars are those that have been made, and there are no primes and no covered
rows. -/
def path (starRow starCol : ℕ) (u : HungarianMemoryUnit max) :
    Option (Phase × HungarianMemoryUnit max) := do
  if starRow < nRows then
    let newStarMatrix ← u.newStarMatrix.write (starRow + nRows * starCol) false
    let primeCol ← firstIndex nCols fun primeCol => u.primeMatrix.read (starRow + nRows * primeCol)
    let newStarMatrix ← newStarMatrix.write (starRow + nRows * primeCol) true
    let nextRow ← firstIndex nRows fun row => u.starMatrix.read (row + nRows * primeCol)
    return (.path nextRow primeCol, { u with newStarMatrix := newStarMatrix })
  else
    return (.step2a, { u with
      primeMatrix := ← forRange (nRows * nCols) (fun n b => b.write n false) u.primeMatrix
      starMatrix := ← forRange (nRows * nCols) (fun n b => do
        b.write n (← u.newStarMatrix.read n)) u.starMatrix
      coveredRows := ← forRange nRows (fun n b => b.write n false) u.coveredRows })

/-- The smallest uncovered element. -/
def minUncovered (u : HungarianMemoryUnit max) : Option ℤ :=
  forRange nRows (fun row h => do
    if ← u.coveredRows.read row then return h
    forRange nCols (fun col h => do
      if ← u.coveredCols.read col then return h
      let value ← u.distMatrix.read (row + nRows * col)
      return if value < h then value else h) h) dblMax

/-- `step5`: the smallest uncovered element is added to each covered row, and subtracted from each
uncovered column. -/
def step5 (u : HungarianMemoryUnit max) : Option (Phase × HungarianMemoryUnit max) := do
  let h ← minUncovered nRows nCols u
  let d ← forRange nRows (fun row d => do
    if ← u.coveredRows.read row then
      forRange nCols (fun col d => d.modify (row + nRows * col) (· + h)) d
    else return d) u.distMatrix
  let d ← forRange nCols (fun col d => do
    if ← u.coveredCols.read col then return d
    else forRange nRows (fun row d => d.modify (row + nRows * col) (· - h)) d) d
  return (.step3, { u with distMatrix := d })

/-- **From one step to the next.** -/
def next (s : Phase × HungarianMemoryUnit max) : Option (Phase × HungarianMemoryUnit max) :=
  match s.1 with
  | .step2a => step2a nRows nCols s.2
  | .step2b => step2b nRows nCols s.2
  | .step3 => step3 nRows nCols s.2
  | .step4 row col => step4 nRows nCols row col s.2
  | .path starRow starCol => path nRows nCols starRow starCol s.2
  | .step5 => step5 nRows nCols s.2
  | .finished => none

/-- The arrays when all calls have returned, if that is after at most `fuel` steps. -/
def run : ℕ → Phase × HungarianMemoryUnit max → Option (HungarianMemoryUnit max)
  | _, (.finished, u) => some u
  | 0, _ => none
  | fuel + 1, s => (next nRows nCols s).bind (run fuel)

/-- **`AssignmentOptimal`**. -/
def assignmentOptimal (fuel : ℕ) (u : HungarianMemoryUnit max) :
    Option (HungarianMemoryUnit max) := do
  let u ← reset nRows nCols u
  let u ← preliminary nRows nCols u
  run nRows nCols fuel (.step2b, u)

/-- The matrix is put into the arrays. -/
def load (distMatrix : List (List ℤ)) (u : HungarianMemoryUnit max) :
    Option (HungarianMemoryUnit max) := do
  let u := { u with
    distMatrixIn := ← u.distMatrixIn.fill (nRows * nCols) 0
    assignment := ← u.assignment.fill nRows 0 }
  return { u with
    distMatrixIn := ← forRange nRows (fun i => forRange nCols fun j d => do
      let value ← (← distMatrix[i]?)[j]?
      d.write (i + nRows * j) value) u.distMatrixIn }

/-- **`Solve`**: the arrays afterwards, and the assignment. -/
def solve (fuel : ℕ) (u : HungarianMemoryUnit max) (distMatrix : List (List ℤ)) :
    Option (HungarianMemoryUnit max × List ℤ) := do
  let nRows := distMatrix.length
  let nCols := (← distMatrix[0]?).length
  let u ← load nRows nCols distMatrix u
  let u ← assignmentOptimal nRows nCols fuel u
  let assignment ← forRange nRows (fun r a => do return a ++ [← u.assignment.read r]) []
  return (u, assignment)

/-- The arrays that the first step begins with. -/
def prepare (distMatrix : List (List ℤ)) (u : HungarianMemoryUnit max) :
    Option (HungarianMemoryUnit max) := do
  let u ← load nRows nCols distMatrix u
  let u ← reset nRows nCols u
  preliminary nRows nCols u

/-- The steps lead from the one state to the other. -/
def Visits (nRows nCols : ℕ) : (s s' : Phase × HungarianMemoryUnit max) → Prop :=
  Relation.ReflTransGen fun s s' => next nRows nCols s = some s'

end Hungarian

end DetectBase
