import Mathlib.Algebra.Order.Field.Basic
import Mathlib.Data.Rat.Floor
import Mathlib.Tactic.Linarith
import Mathlib.Tactic.Push

/-!
# Quantised outputs of the network

What `rknn_process_impl` makes of one output of the network, in exact arithmetic. The numbers of an
output are bytes, and a byte stands for a rational number by a zero point and a scale
(`DetectBase.Rknn.deqntAffineToF32`). Most cells of the grid hold nothing, and these are sorted out
before anything is converted: the threshold becomes a byte (`DetectBase.Rknn.qntF32ToAffine`), and
bytes are compared.

The conversion of the threshold rounds toward zero. That is up where the shifted threshold is not
positive, and down where it is, so that the byte just below a positive threshold passes as well
(`DetectBase.Rknn.qntF32ToAffine_le_iff`).
-/

namespace DetectBase.Rknn

/-! ### Bytes and the numbers they stand for -/

/-- `clip_value`. -/
def clipValue (val min max : ℚ) : ℚ := if val ≤ min then min else if val ≥ max then max else val

/-- `static_cast<int8_t>` of a number that is in range: toward zero. -/
def castInt8 (x : ℚ) : Int8 := .ofInt (if 0 ≤ x then ⌊x⌋ else ⌈x⌉)

/-- The threshold on the scale of the bytes, before it is rounded. -/
def shifted (f32 : ℚ) (zp : ℤ) (scale : ℚ) : ℚ := f32 / scale + zp

/-- **`qnt_f32_to_affine`**. -/
def qntF32ToAffine (f32 : ℚ) (zp : ℤ) (scale : ℚ) : Int8 :=
  let dstVal := shifted f32 zp scale
  castInt8 (clipValue dstVal (-128) 127)

/-- **`deqnt_affine_to_f32`**. -/
def deqntAffineToF32 (qnt : Int8) (zp : ℤ) (scale : ℚ) : ℚ := ((qnt.toInt : ℚ) - zp) * scale

variable {t : ℚ} {zp : ℤ} {scale : ℚ} {q : Int8}

theorem clipValue_eq {val min max : ℚ} (hmin : min ≤ val) (hmax : val ≤ max) :
    clipValue val min max = val := by
  rw [clipValue]
  split_ifs with hlow hhigh
  · exact le_antisymm hmin hlow
  · exact le_antisymm hhigh hmax
  · rfl

/-- A number in the range of the bytes is rounded to a byte. -/
theorem toInt_castInt8 {x : ℚ} (hmin : -128 ≤ x) (hmax : x ≤ 127) :
    (castInt8 x).toInt = if 0 ≤ x then ⌊x⌋ else ⌈x⌉ := by
  have hlow : -2 ^ 7 ≤ if 0 ≤ x then ⌊x⌋ else ⌈x⌉ := by
    split_ifs with h
    · exact le_trans (by norm_num) (Int.floor_nonneg.mpr h)
    · have hcast : (-128 : ℚ) ≤ (⌈x⌉ : ℤ) := le_trans hmin (Int.le_ceil x)
      exact_mod_cast hcast
  have hhigh : (if 0 ≤ x then ⌊x⌋ else ⌈x⌉) < 2 ^ 7 := by
    split_ifs with h
    · have hcast : ((⌊x⌋ : ℤ) : ℚ) ≤ 127 := le_trans (Int.floor_le x) hmax
      exact Int.lt_of_le_sub_one (by exact_mod_cast hcast)
    · have hceil : ⌈x⌉ ≤ 0 := Int.ceil_le.mpr (by push_cast; linarith)
      exact lt_of_le_of_lt hceil (by norm_num)
  rw [castInt8, Int8.toInt_ofInt_of_le hlow hhigh]

/-- The real test on the scale of the bytes. -/
theorem le_deqntAffineToF32_iff (hscale : 0 < scale) :
    t ≤ deqntAffineToF32 q zp scale ↔ shifted t zp scale ≤ q.toInt := by
  rw [deqntAffineToF32, shifted, ← div_le_iff₀ hscale]
  constructor <;> intro h <;> linarith

/-- **The test of bytes**, for a threshold in their range. A shifted threshold that is not positive
is rounded up, and one that is positive is rounded down. -/
theorem qntF32ToAffine_le_iff (hmin : -128 ≤ shifted t zp scale)
    (hmax : shifted t zp scale ≤ 127) :
    qntF32ToAffine t zp scale ≤ q ↔
      shifted t zp scale ≤ q.toInt ∨
        0 < shifted t zp scale ∧ shifted t zp scale < q.toInt + 1 := by
  rw [Int8.le_iff_toInt_le, qntF32ToAffine, clipValue_eq hmin hmax,
    toInt_castInt8 hmin hmax]
  split_ifs with h
  · rw [Int.floor_le_iff]
    constructor
    · intro hlt
      rcases h.eq_or_lt with hzero | hpos
      · -- a shifted threshold of zero is an integer
        left
        rw [← hzero] at hlt ⊢
        have hq : (0 : ℤ) < q.toInt + 1 := by exact_mod_cast hlt
        exact_mod_cast Int.lt_add_one_iff.mp hq
      · exact .inr ⟨hpos, hlt⟩
    · rintro (hle | ⟨-, hlt⟩)
      · linarith
      · exact hlt
  · rw [Int.ceil_le]
    exact ⟨.inl, fun hor => hor.resolve_right fun hpos => h hpos.1.le⟩

/-- **Where the test of bytes agrees with the real test**: everywhere but at the byte just below a
shifted threshold that is positive and not an integer. -/
theorem objectnessTest_agrees_iff (hscale : 0 < scale) (hmin : -128 ≤ shifted t zp scale)
    (hmax : shifted t zp scale ≤ 127) :
    (qntF32ToAffine t zp scale ≤ q ↔ t ≤ deqntAffineToF32 q zp scale) ↔
      ¬(0 < shifted t zp scale ∧ (q.toInt : ℚ) < shifted t zp scale ∧
        shifted t zp scale < q.toInt + 1) := by
  rw [qntF32ToAffine_le_iff hmin hmax, le_deqntAffineToF32_iff hscale]
  constructor
  · rintro hiff ⟨hpos, hlt, hlt'⟩
    exact absurd (hiff.mp (.inr ⟨hpos, hlt'⟩)) (not_le.mpr hlt)
  · intro hnot
    refine ⟨fun h => h.elim id fun hpos => ?_, .inl⟩
    by_contra hlt
    exact hnot ⟨hpos.1, not_le.mp hlt, hpos.2⟩

/-- A threshold of 0.1 on the scale of 1/100 is ten. -/
theorem objectnessTest_agrees_iff_ten :
    (qntF32ToAffine (1 / 10) 0 (1 / 100) ≤ 9 ↔ 1 / 10 ≤ deqntAffineToF32 9 0 (1 / 100)) :=
  (objectnessTest_agrees_iff (by norm_num) (by norm_num [shifted]) (by norm_num [shifted])).mpr
    (by norm_num [shifted, show (9 : Int8).toInt = 9 from rfl])

/-- With a threshold of 0.25 at a zero point of zero and a scale of 0.02, the byte 12, which stands
for 0.24, passes. -/
theorem objectnessTest_disagrees :
    ¬∀ (zp : ℤ) (scale t : ℚ) (q : Int8), 0 < scale → -128 ≤ shifted t zp scale →
      shifted t zp scale ≤ 127 →
      (qntF32ToAffine t zp scale ≤ q ↔ t ≤ deqntAffineToF32 q zp scale) := by
  intro hall
  have hiff := hall 0 (1 / 50) (1 / 4) 12 (by norm_num) (by norm_num [shifted])
    (by norm_num [shifted])
  exact absurd (hiff.mp (by decide +kernel)) (by decide +kernel)

/-! ### The candidates in an output -/

/-- What is found in a cell of the grid. -/
structure Candidate where
  /-- The left side of the box, the first of its four numbers in `boxes`. -/
  x : ℚ
  /-- The upper side. -/
  y : ℚ
  /-- The width. -/
  w : ℚ
  /-- The height. -/
  h : ℚ
  /-- The number in `objProbs`. -/
  objProb : ℚ
  /-- The number in `classId`. -/
  classId : ℤ
deriving DecidableEq

/-- An output of the network, as `rknn_process_impl` gets it. -/
structure OutputHead where
  /-- `input`. -/
  input : ℕ → Int8
  /-- `anchor`. -/
  anchor : ℕ → ℤ
  /-- `grid_h`. -/
  gridH : ℕ
  /-- `grid_w`. -/
  gridW : ℕ
  /-- `stride`. -/
  stride : ℤ
  /-- `zp`. -/
  zp : ℤ
  /-- `scale`. -/
  scale : ℚ

/-- The loop for the class with the largest number: the number and the class. The first class is
taken before the loop. -/
def maxClass (prob : ℕ → Int8) (classNum : ℕ) : Int8 × ℕ :=
  (List.range' 1 (classNum - 1)).foldl
    (fun best k => if prob k > best.1 then (prob k, k) else best) (prob 0, 0)

namespace OutputHead

variable (o : OutputHead)

/-- `grid_len`. -/
def gridLen : ℕ := o.gridH * o.gridW

/-- `deqnt_affine_to_f32` with the zero point and the scale of the output. -/
def deqnt (q : Int8) : ℚ := deqntAffineToF32 q o.zp o.scale

/-- The body of the loops of `rknn_process_impl`: what is found in the cell in row `i` and column
`j` with the anchor `a`. -/
def cell (threshold : ℚ) (classNum a i j : ℕ) : Option Candidate :=
  let thresI8 := qntF32ToAffine threshold o.zp o.scale
  let baseOffset := classNum + 4 + 1
  let boxConfidence := o.input ((baseOffset * a + 4) * o.gridLen + i * o.gridW + j)
  if boxConfidence ≥ thresI8 then
    let offset := baseOffset * a * o.gridLen + i * o.gridW + j
    let inPtr n := o.input (offset + n * o.gridLen)
    let boxX := (o.deqnt (inPtr 0) * 2 - 1 / 2 + j) * o.stride
    let boxY := (o.deqnt (inPtr 1) * 2 - 1 / 2 + i) * o.stride
    let boxW := (o.deqnt (inPtr 2) * 2) * (o.deqnt (inPtr 2) * 2) * o.anchor (a * 2)
    let boxH := (o.deqnt (inPtr 3) * 2) * (o.deqnt (inPtr 3) * 2) * o.anchor (a * 2 + 1)
    let best := maxClass (fun k => inPtr (5 + k)) classNum
    if best.1 > thresI8 then
      some ⟨boxX - boxW / 2, boxY - boxH / 2, boxW, boxH,
        o.deqnt best.1 * o.deqnt boxConfidence, best.2⟩
    else none
  else none

/-- **`rknn_process_impl`**: what is found, in the order in which it is found. -/
def rknnProcessImpl (threshold : ℚ) (classNum : ℕ) : List Candidate :=
  (List.range 3).flatMap fun a => (List.range o.gridH).flatMap fun i =>
    (List.range o.gridW).filterMap fun j => o.cell threshold classNum a i j

end OutputHead

end DetectBase.Rknn
