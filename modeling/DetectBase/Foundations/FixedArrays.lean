import Mathlib.Data.List.Basic
import Mathlib.Logic.Function.Basic

/-!
# Arrays and loops as in C

An array has a size, and beyond it there is nothing: an access there is an error, which a
computation in `Option` does not survive. So a computation that has a result has made no such
access.

The loops are the ones with a counter (`DetectBase.forRange`, with `DetectBase.forRange_rule` for
what they keep), and those that look for the first index with some property
(`DetectBase.firstIndex`, which is `DetectBase.firstTrue` when the test can be made). A matrix lies
in an array column by column (`DetectBase.Shows`).
-/

namespace DetectBase

/-! ### Loops -/

section Loops

variable {σ : Type*} {n : ℕ}

/-- `for( i = 0; i < n; i++ )`. -/
def forRange (n : ℕ) (body : ℕ → σ → Option σ) (s : σ) : Option σ :=
  (List.range n).foldlM (fun s i => body i s) s

/-- `for( i = start; i < stop; i += stride )`. -/
def forStride (start stop stride : ℕ) (body : ℕ → σ → Option σ) (s : σ) : Option σ :=
  forRange ((stop - start + stride - 1) / stride) (fun k => body (start + k * stride)) s

/-- The same loop, when nothing can go wrong in it. -/
def iterRange (n : ℕ) (f : ℕ → σ → σ) (s : σ) : σ := (List.range n).foldl (fun s i => f i s) s

theorem forRange_succ (n : ℕ) (body : ℕ → σ → Option σ) (s : σ) :
    forRange (n + 1) body s = (forRange n body s).bind (body n) := by
  rw [forRange, List.range_succ, List.foldlM_append]
  rw [forRange]
  rcases (List.range n).foldlM (fun s i => body i s) s with - | s'
  · rfl
  · exact bind_pure (m := Option) (body n s')

@[simp] theorem iterRange_zero (f : ℕ → σ → σ) (s : σ) : iterRange 0 f s = s := rfl

theorem iterRange_succ (n : ℕ) (f : ℕ → σ → σ) (s : σ) :
    iterRange (n + 1) f s = f n (iterRange n f s) := by
  rw [iterRange, List.range_succ, List.foldl_append]
  rfl

/-- **The rule for loops** in which nothing can go wrong. -/
theorem iterRange_rule {P : ℕ → σ → Prop} {f : ℕ → σ → σ} {s : σ} (hinit : P 0 s)
    (hstep : ∀ i < n, ∀ s, P i s → P (i + 1) (f i s)) : P n (iterRange n f s) := by
  induction n with
  | zero => exact hinit
  | succ n ih =>
    rw [iterRange_succ]
    exact hstep n (Nat.lt_succ_self n) _ (ih fun i hi => hstep i (Nat.lt_succ_of_lt hi))

/-- **The rule for loops**: what one pass keeps holds at the end, and nothing goes wrong. -/
theorem forRange_rule {P : ℕ → σ → Prop} {B : ℕ → σ → Option σ} {s : σ} (hinit : P 0 s)
    (hstep : ∀ i < n, ∀ s, P i s → ∃ s', B i s = some s' ∧ P (i + 1) s') :
    ∃ s', forRange n B s = some s' ∧ P n s' := by
  induction n with
  | zero => exact ⟨s, rfl, hinit⟩
  | succ n ih =>
    obtain ⟨s₁, hrun, h₁⟩ := ih fun i hi => hstep i (Nat.lt_succ_of_lt hi)
    obtain ⟨s₂, hbody, h₂⟩ := hstep n (Nat.lt_succ_self n) s₁ h₁
    refine ⟨s₂, ?_, h₂⟩
    rw [forRange_succ, hrun, Option.bind_some, hbody]

/-- A loop that does the same as one in which nothing can go wrong. -/
theorem forRange_refines {τ : Type*} {R : σ → τ → Prop} {B : ℕ → σ → Option σ}
    {f : ℕ → τ → τ} {s : σ} {t : τ} (hinit : R s t)
    (hstep : ∀ i < n, ∀ s, R s (iterRange i f t) →
      ∃ s', B i s = some s' ∧ R s' (f i (iterRange i f t))) :
    ∃ s', forRange n B s = some s' ∧ R s' (iterRange n f t) := by
  refine forRange_rule (P := fun i s => R s (iterRange i f t)) hinit fun i hi s hs => ?_
  rw [iterRange_succ]
  exact hstep i hi s hs

theorem forRange_congr {B B' : ℕ → σ → Option σ} (h : ∀ i < n, ∀ s, B i s = B' i s)
    (s : σ) : forRange n B s = forRange n B' s := by
  induction n with
  | zero => rfl
  | succ n ih =>
    rw [forRange_succ, forRange_succ, ih fun i hi => h i (Nat.lt_succ_of_lt hi)]
    exact congrArg _ (funext (h n (Nat.lt_succ_self n)))

/-- A loop over values that can all be made. -/
theorem forRange_eq_some {B : ℕ → σ → Option σ} {f : ℕ → σ → σ} {s : σ}
    (h : ∀ i < n, ∀ s, B i s = some (f i s)) : forRange n B s = some (iterRange n f s) := by
  obtain ⟨s', hrun, rfl⟩ := forRange_refines (R := fun s t : σ => s = t) (B := B) (f := f)
    (n := n) (s := s) rfl fun i hi s hs => ⟨_, h i hi s, by rw [hs]⟩
  exact hrun

end Loops

/-! ### The first index -/

section FirstIndex

variable {n : ℕ} {p q : ℕ → Bool}

/-- Where a loop over the indices below `n` breaks, from one of them on. -/
def firstFrom (test : ℕ → Option Bool) (i : ℕ) : ℕ → Option ℕ
  | 0 => some i
  | k + 1 => do
    if ← test i then return i
    firstFrom test (i + 1) k

/-- `for( i = 0; i < n; i++ ) if( test( i ) ) break;`, with the value of `i` after it. -/
def firstIndex (n : ℕ) (test : ℕ → Option Bool) : Option ℕ := firstFrom test 0 n

/-- The first index below `n` with some property, or else `n`. -/
def firstTrue (n : ℕ) (p : ℕ → Bool) : ℕ := (List.range n).findIdx p

theorem firstTrue_le : firstTrue n p ≤ n := by
  have hle : (List.range n).findIdx p ≤ (List.range n).length := List.findIdx_le_length
  rwa [List.length_range] at hle

theorem firstTrue_spec (h : firstTrue n p < n) : p (firstTrue n p) = true := by
  have hlt : (List.range n).findIdx p < (List.range n).length := by rwa [List.length_range]
  have hspec := List.findIdx_getElem (w := hlt)
  rwa [List.getElem_range] at hspec

theorem firstTrue_min {i : ℕ} (h : i < firstTrue n p) : p i = false := by
  have hmin := List.not_of_lt_findIdx h
  rw [List.getElem_range] at hmin
  exact hmin

theorem firstTrue_lt_iff : firstTrue n p < n ↔ ∃ i < n, p i = true := by
  constructor
  · exact fun h => ⟨_, h, firstTrue_spec h⟩
  · rintro ⟨i, hi, hp⟩
    by_contra hnone
    have hfalse := firstTrue_min (p := p) (Nat.lt_of_lt_of_le hi (Nat.le_of_not_lt hnone))
    rw [hp] at hfalse
    cases hfalse

theorem firstTrue_eq_iff : firstTrue n p = n ↔ ∀ i < n, p i = false := by
  have hle := firstTrue_le (n := n) (p := p)
  constructor
  · intro h i hi
    exact firstTrue_min (n := n) (by rwa [h])
  · intro h
    by_contra hne
    have hspec := firstTrue_spec (n := n) (p := p) (by omega)
    rw [h _ (by omega)] at hspec
    cases hspec

theorem firstFrom_eq {test : ℕ → Option Bool} (k i : ℕ)
    (h : ∀ j, i ≤ j → j < i + k → test j = some (p j)) :
    firstFrom test i k = some (i + (List.range' i k).findIdx p) := by
  induction k generalizing i with
  | zero => rfl
  | succ k ih =>
    rw [firstFrom, h i (Nat.le_refl i) (by omega), List.range'_succ, List.findIdx_cons]
    rcases hp : p i with - | -
    · refine (ih (i + 1) fun j hj hj' => h j (by omega) (by omega)).trans ?_
      rw [cond_false]
      congr 1
      omega
    · rfl

/-- **The loop finds the first index.** -/
theorem firstIndex_eq {test : ℕ → Option Bool} (h : ∀ i < n, test i = some (p i)) :
    firstIndex n test = some (firstTrue n p) := by
  rw [firstIndex, firstFrom_eq n 0 fun j _ hj => h j (by omega), firstTrue,
    List.range_eq_range', Nat.zero_add]

end FirstIndex

/-! ### Arrays -/

/-- **An array** of `n` elements. -/
structure FixedArray (n : ℕ) (α : Type*) where
  /-- The elements; what there is from `n` on is never looked at. -/
  get : ℕ → α

namespace FixedArray

variable {n : ℕ} {α : Type*}

/-- `b[i]`. -/
def read (b : FixedArray n α) (i : ℕ) : Option α := if i < n then some (b.get i) else none

/-- `b[i] = a`. -/
def write (b : FixedArray n α) (i : ℕ) (a : α) : Option (FixedArray n α) :=
  if i < n then some ⟨Function.update b.get i a⟩ else none

/-- `memset`, of the first `k` elements. -/
def fill (b : FixedArray n α) (k : ℕ) (a : α) : Option (FixedArray n α) :=
  if k ≤ n then some ⟨fun i => if i < k then a else b.get i⟩ else none

/-- `b[i] = f( b[i] )`. -/
def modify (b : FixedArray n α) (i : ℕ) (f : α → α) : Option (FixedArray n α) :=
  (b.read i).bind fun a => b.write i (f a)

end FixedArray

/-! ### What an array holds -/

section Shows

variable {n k r c i R K : ℕ} {α : Type*} {b : FixedArray n α}

/-- The first `k` elements of an array are those of a function. -/
def ShowsLine (k : ℕ) (b : FixedArray n α) (f : ℕ → α) : Prop := ∀ i < k, b.get i = f i

/-- **A matrix in an array**, column by column. -/
def Shows (R K : ℕ) (b : FixedArray n α) (m : ℕ → ℕ → α) : Prop :=
  ∀ r < R, ∀ c < K, b.get (r + R * c) = m r c

/-- A matrix with one element changed. -/
def setAt (m : ℕ → ℕ → α) (r c : ℕ) (a : α) : ℕ → ℕ → α :=
  fun r' c' => if r' = r ∧ c' = c then a else m r' c'

@[simp] theorem setAt_self (m : ℕ → ℕ → α) (r c : ℕ) (a : α) : setAt m r c a r c = a :=
  if_pos ⟨rfl, rfl⟩

theorem setAt_of_ne {m : ℕ → ℕ → α} {r' c' : ℕ} {a : α} (h : ¬(r' = r ∧ c' = c)) :
    setAt m r c a r' c' = m r' c' :=
  if_neg h

theorem setAt_true_iff {m : ℕ → ℕ → Bool} {r' c' : ℕ} :
    setAt m r c true r' c' = true ↔ (r' = r ∧ c' = c) ∨ m r' c' = true := by
  rw [setAt]
  split_ifs with hsame
  · exact iff_of_true rfl (.inl hsame)
  · rw [or_iff_right hsame]

theorem flat_lt (hr : r < R) (hc : c < K) : r + R * c < R * K := by
  calc r + R * c < R + R * c := Nat.add_lt_add_right hr _
    _ = R * (c + 1) := by rw [Nat.mul_succ, Nat.add_comm]
    _ ≤ R * K := Nat.mul_le_mul_left R hc

theorem flat_inj {r' c' : ℕ} (hr : r < R) (hr' : r' < R) :
    r + R * c = r' + R * c' ↔ r = r' ∧ c = c' := by
  have hpos : 0 < R := by omega
  constructor
  · intro h
    have hmod : (r + R * c) % R = (r' + R * c') % R := congrArg (· % R) h
    have hdiv : (r + R * c) / R = (r' + R * c') / R := congrArg (· / R) h
    rw [Nat.add_mul_mod_self_left, Nat.add_mul_mod_self_left, Nat.mod_eq_of_lt hr,
      Nat.mod_eq_of_lt hr'] at hmod
    rw [Nat.add_mul_div_left _ _ hpos, Nat.add_mul_div_left _ _ hpos, Nat.div_eq_of_lt hr,
      Nat.div_eq_of_lt hr'] at hdiv
    exact ⟨hmod, by omega⟩
  · rintro ⟨rfl, rfl⟩
    rfl

namespace ShowsLine

variable {f : ℕ → α}

theorem read (h : ShowsLine k b f) (hk : k ≤ n) (hi : i < k) : b.read i = some (f i) := by
  rw [FixedArray.read, if_pos (by omega), h i hi]

theorem write (h : ShowsLine k b f) (hk : k ≤ n) (hi : i < k) (a : α) :
    ∃ b', b.write i a = some b' ∧ ShowsLine k b' (Function.update f i a) := by
  refine ⟨_, if_pos (by omega), fun j hj => ?_⟩
  dsimp only
  rcases eq_or_ne j i with rfl | hne
  · rw [Function.update_self, Function.update_self]
  · rw [Function.update_of_ne hne, Function.update_of_ne hne, h j hj]

end ShowsLine

theorem showsLine_fill (b : FixedArray n α) (hk : k ≤ n) (a : α) :
    ∃ b', b.fill k a = some b' ∧ ShowsLine k b' fun _ => a :=
  ⟨_, if_pos hk, fun _ hi => if_pos hi⟩

namespace Shows

variable {m : ℕ → ℕ → α}

theorem read (h : Shows R K b m) (hn : R * K ≤ n) (hr : r < R) (hc : c < K) :
    b.read (r + R * c) = some (m r c) := by
  rw [FixedArray.read, if_pos (Nat.lt_of_lt_of_le (flat_lt hr hc) hn), h r hr c hc]

theorem write (h : Shows R K b m) (hn : R * K ≤ n) (hr : r < R) (hc : c < K) (a : α) :
    ∃ b', b.write (r + R * c) a = some b' ∧ Shows R K b' (setAt m r c a) := by
  refine ⟨_, if_pos (Nat.lt_of_lt_of_le (flat_lt hr hc) hn), fun r' hr' c' hc' => ?_⟩
  dsimp only
  rw [setAt]
  split_ifs with hsame
  · rw [hsame.1, hsame.2, Function.update_self]
  · rw [Function.update_of_ne (fun heq => hsame ((flat_inj hr' hr).mp heq)), h r' hr' c' hc']

theorem modify (h : Shows R K b m) (hn : R * K ≤ n) (hr : r < R) (hc : c < K) (f : α → α) :
    ∃ b', b.modify (r + R * c) f = some b' ∧ Shows R K b' (setAt m r c (f (m r c))) := by
  rw [FixedArray.modify, h.read hn hr hc]
  exact h.write hn hr hc _

end Shows

theorem Shows.congr {m m' : ℕ → ℕ → α} (h : Shows R K b m)
    (heq : ∀ r < R, ∀ c < K, m r c = m' r c) : Shows R K b m' :=
  fun r hr c hc => (h r hr c hc).trans (heq r hr c hc)

theorem shows_fill (b : FixedArray n α) (hn : R * K ≤ n) (a : α) :
    ∃ b', b.fill (R * K) a = some b' ∧ Shows R K b' fun _ _ => a :=
  ⟨_, if_pos hn, fun _ hr _ hc => if_pos (flat_lt hr hc)⟩

end Shows

/-! ### Loops over an array -/

section ArrayLoops

variable {n k r c R K : ℕ} {α : Type*} {b : FixedArray n α}

/-- **A loop over a line** that sets some of its elements. -/
theorem ShowsLine.forRange_write {f : ℕ → α} {B : ℕ → FixedArray n α → Option (FixedArray n α)}
    {p : ℕ → Bool} {a : ℕ → α} (h : ShowsLine k b f) (hk : k ≤ n)
    (hbody : ∀ i < k, ∀ b, B i b = if p i then b.write i (a i) else some b) :
    ∃ b', forRange k B b = some b' ∧ ShowsLine k b' fun i => if p i then a i else f i := by
  have hloop := forRange_rule (n := k) (B := B) (s := b)
    (P := fun i b => ShowsLine k b fun j => if j < i ∧ p j then a j else f j) ?_ ?_
  · obtain ⟨b', hrun, hb'⟩ := hloop
    refine ⟨b', hrun, fun j hj => (hb' j hj).trans ?_⟩
    simp only [hj, true_and]
  · intro j hj
    dsimp only
    rw [if_neg (fun hlt => absurd hlt.1 (Nat.not_lt_zero j))]
    exact h j hj
  · intro i hi b hb
    rw [hbody i hi]
    rcases hp : p i with - | -
    · refine ⟨b, if_neg Bool.false_ne_true, fun j hj => (hb j hj).trans ?_⟩
      rcases eq_or_ne j i with rfl | hne
      · simp [hp]
      · have hlt : j < i + 1 ↔ j < i := by omega
        simp only [hlt]
    · obtain ⟨b', hwrite, hb'⟩ := hb.write hk hi (a i)
      refine ⟨b', (if_pos rfl).trans hwrite, fun j hj => (hb' j hj).trans ?_⟩
      rcases eq_or_ne j i with rfl | hne
      · rw [Function.update_self]
        exact (if_pos ⟨Nat.lt_succ_self j, hp⟩).symm
      · have hlt : j < i + 1 ↔ j < i := by omega
        rw [Function.update_of_ne hne]
        simp only [hlt]

/-- A loop that sets all elements of a line. -/
theorem showsLine_forRange_write {f : ℕ → α}
    {B : ℕ → FixedArray n α → Option (FixedArray n α)} (b : FixedArray n α) (hk : k ≤ n)
    (hbody : ∀ i < k, ∀ b, B i b = b.write i (f i)) :
    ∃ b', forRange k B b = some b' ∧ ShowsLine k b' f := by
  obtain ⟨b', hrun, hb'⟩ := ShowsLine.forRange_write (f := b.get) (p := fun _ => true) (a := f)
    (fun _ _ => rfl) hk hbody
  exact ⟨b', hrun, hb'⟩

/-- A loop that copies a matrix. -/
theorem shows_forRange_copy {n' : ℕ} {m : ℕ → ℕ → α} {source : FixedArray n' α}
    {B : ℕ → FixedArray n α → Option (FixedArray n α)} (h : Shows R K source m)
    (b : FixedArray n α) (hn : R * K ≤ n)
    (hbody : ∀ i < R * K, ∀ b, B i b = b.write i (source.get i)) :
    ∃ b', forRange (R * K) B b = some b' ∧ Shows R K b' m := by
  obtain ⟨b', hrun, hb'⟩ := showsLine_forRange_write b hn hbody
  exact ⟨b', hrun, fun r hr c hc => (hb' _ (flat_lt hr hc)).trans (h r hr c hc)⟩

namespace Shows

variable {m : ℕ → ℕ → α}

/-- **A loop over the rows** that makes of each of them what does not depend on the others. -/
theorem forRange_rows {B : ℕ → FixedArray n α → Option (FixedArray n α)} {g : ℕ → ℕ → α}
    (h : Shows R K b m) (hbody : ∀ r < R, ∀ b m', Shows R K b m' → (∀ c < K, m' r c = m r c) →
      ∃ b', B r b = some b' ∧ Shows R K b' fun r' c => if r' = r then g r c else m' r' c) :
    ∃ b', forRange R B b = some b' ∧ Shows R K b' g := by
  have hloop := forRange_rule (n := R) (B := B) (s := b)
    (P := fun i b => Shows R K b fun r c => if r < i then g r c else m r c) ?_ ?_
  · obtain ⟨b', hrun, hb'⟩ := hloop
    exact ⟨b', hrun, hb'.congr fun r hr _ _ => if_pos hr⟩
  · exact h.congr fun r _ _ _ => (if_neg (Nat.not_lt_zero r)).symm
  · intro i hi b hb
    obtain ⟨b', hrun, hb'⟩ := hbody i hi b _ hb fun c _ => if_neg (Nat.lt_irrefl i)
    refine ⟨b', hrun, hb'.congr fun r _ c _ => ?_⟩
    rcases eq_or_ne r i with rfl | hne
    · rw [if_pos rfl, if_pos (Nat.lt_succ_self r)]
    · have hlt : r < i + 1 ↔ r < i := by omega
      rw [if_neg hne]
      simp only [hlt]

/-- A loop over the columns. -/
theorem forRange_columns {B : ℕ → FixedArray n α → Option (FixedArray n α)} {g : ℕ → ℕ → α}
    (h : Shows R K b m) (hbody : ∀ c < K, ∀ b m', Shows R K b m' → (∀ r < R, m' r c = m r c) →
      ∃ b', B c b = some b' ∧ Shows R K b' fun r c' => if c' = c then g r c else m' r c') :
    ∃ b', forRange K B b = some b' ∧ Shows R K b' g := by
  have hloop := forRange_rule (n := K) (B := B) (s := b)
    (P := fun i b => Shows R K b fun r c => if c < i then g r c else m r c) ?_ ?_
  · obtain ⟨b', hrun, hb'⟩ := hloop
    exact ⟨b', hrun, hb'.congr fun _ _ c hc => if_pos hc⟩
  · exact h.congr fun _ _ c _ => (if_neg (Nat.not_lt_zero c)).symm
  · intro i hi b hb
    obtain ⟨b', hrun, hb'⟩ := hbody i hi b _ hb fun r _ => if_neg (Nat.lt_irrefl i)
    refine ⟨b', hrun, hb'.congr fun r _ c _ => ?_⟩
    rcases eq_or_ne c i with rfl | hne
    · rw [if_pos rfl, if_pos (Nat.lt_succ_self c)]
    · have hlt : c < i + 1 ↔ c < i := by omega
      rw [if_neg hne]
      simp only [hlt]

/-- **A loop along a row**. -/
theorem forRange_row {B : ℕ → FixedArray n α → Option (FixedArray n α)} {a : ℕ → α}
    (h : Shows R K b m) (hr : r < R) (hbody : ∀ c < K, ∀ b m', Shows R K b m' →
      m' r c = m r c → ∃ b', B c b = some b' ∧ Shows R K b' (setAt m' r c (a c))) :
    ∃ b', forRange K B b = some b' ∧
      Shows R K b' fun r' c => if r' = r then a c else m r' c := by
  refine forRange_columns h fun c hc b m' hb hcol => ?_
  obtain ⟨b', hrun, hb'⟩ := hbody c hc b m' hb (hcol r hr)
  refine ⟨b', hrun, hb'.congr fun r' hr' c' hc' => ?_⟩
  rw [setAt]
  rcases eq_or_ne c' c with rfl | hcol'
  · rw [if_pos rfl]
    rcases eq_or_ne r' r with rfl | hrow
    · rw [if_pos ⟨rfl, rfl⟩, if_pos rfl]
    · rw [if_neg fun hsame => hrow hsame.1, if_neg hrow, hcol r' hr']
  · rw [if_neg fun hsame => hcol' hsame.2, if_neg hcol']

theorem modify_row (h : Shows R K b m) (hn : R * K ≤ n) (hr : r < R) (f : α → α) :
    ∃ b', forRange K (fun c b => b.modify (r + R * c) f) b = some b' ∧
      Shows R K b' fun r' c => if r' = r then f (m r c) else m r' c := by
  refine h.forRange_row hr fun c hc b m' hb hsame => ?_
  rw [← hsame]
  exact hb.modify hn hr hc f

theorem write_row (h : Shows R K b m) (hn : R * K ≤ n) (hr : r < R) (a : ℕ → α) :
    ∃ b', forRange K (fun c b => b.write (r + R * c) (a c)) b = some b' ∧
      Shows R K b' fun r' c => if r' = r then a c else m r' c :=
  h.forRange_row hr fun c hc _ _ hb _ => hb.write hn hr hc (a c)

/-- A loop along a column. -/
theorem modify_column (h : Shows R K b m) (hn : R * K ≤ n) (hc : c < K) (f : α → α) :
    ∃ b', forRange R (fun r b => b.modify (r + R * c) f) b = some b' ∧
      Shows R K b' fun r c' => if c' = c then f (m r c) else m r c' := by
  refine forRange_rows h fun r hr b m' hb hrow => ?_
  obtain ⟨b', hmodify, hb'⟩ := hb.modify hn hr hc f
  refine ⟨b', hmodify, hb'.congr fun r' hr' c' hc' => ?_⟩
  rw [setAt]
  rcases eq_or_ne r' r with rfl | hrow'
  · rw [if_pos rfl]
    rcases eq_or_ne c' c with rfl | hcol
    · rw [if_pos ⟨rfl, rfl⟩, if_pos rfl, hrow c' hc]
    · rw [if_neg fun hsame => hcol hsame.2, if_neg hcol, hrow c' hc']
  · rw [if_neg fun hsame => hrow' hsame.1, if_neg hrow']

end Shows

end ArrayLoops

end DetectBase
