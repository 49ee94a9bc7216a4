import Mathlib.Algebra.Order.Ring.Nat
import Mathlib.Tactic.Ring

/-!
# Planes in memory

A plane of an image is a number of rows, which lie in memory a stride apart. A stride is at least
the width of a row, and usually rounded up (`DetectBase.roundUp`). When a plane is copied in one
piece, as if there was nothing between its rows, the bytes come out at their places whatever they
are only if there really is nothing between them, on both sides, or if there is one row
(`DetectBase.forall_memcpy_iff`).
-/

namespace DetectBase

variable {α : Type*}

/-- The first `n` cells of `src`, and the rest of `dst`. -/
def memcpy (dst src : ℕ → α) (n : ℕ) : ℕ → α := fun i => if i < n then src i else dst i

/-- The least multiple of `n` that is not below `m`. -/
def roundUp (n m : ℕ) : ℕ := (m + (n - 1)) / n * n

theorem memcpy_of_lt {dst src : ℕ → α} {n i : ℕ} (h : i < n) : memcpy dst src n i = src i :=
  if_pos h

theorem memcpy_of_le {dst src : ℕ → α} {n i : ℕ} (h : n ≤ i) : memcpy dst src n i = dst i :=
  if_neg (Nat.not_lt.mpr h)

theorem le_roundUp {n : ℕ} (hn : 0 < n) (m : ℕ) : m ≤ roundUp n m := by
  have hmod := Nat.div_add_mod' (m + (n - 1)) n
  have hlt := Nat.mod_lt (m + (n - 1)) hn
  rw [roundUp]
  omega

theorem dvd_roundUp (n m : ℕ) : n ∣ roundUp n m := Nat.dvd_mul_left ..

theorem roundUp_eq_self_iff {n : ℕ} (hn : 0 < n) {m : ℕ} : roundUp n m = m ↔ n ∣ m := by
  constructor
  · intro h
    rw [← h]
    exact dvd_roundUp n m
  · rintro ⟨k, rfl⟩
    rw [roundUp, Nat.mul_add_div hn, Nat.div_eq_of_lt (Nat.sub_lt hn Nat.one_pos), Nat.add_zero,
      Nat.mul_comm]

/-- A cell of a plane without anything between the rows is within it. -/
theorem index_lt {w h x y : ℕ} (hx : x < w) (hy : y < h) : y * w + x < w * h := by
  have hrow : (y + 1) * w ≤ h * w := Nat.mul_le_mul_right w hy
  rw [Nat.mul_comm w h]
  rw [Nat.add_mul, Nat.one_mul] at hrow
  omega

/-- **A copy in one piece** of a plane of `h` rows of `w` cells, which are `s` apart in the source
and `d` apart in the target. -/
theorem forall_memcpy_iff [Nontrivial α] {w h s d : ℕ} (hs : w ≤ s) (hd : w ≤ d) (dst : ℕ → α) :
    (∀ src : ℕ → α, ∀ y < h, ∀ x < w, memcpy dst src (w * h) (y * d + x) = src (y * s + x)) ↔
      w = 0 ∨ h ≤ 1 ∨ s = w ∧ d = w := by
  constructor
  · intro hall
    by_contra hnot
    obtain ⟨hw, hh, hne⟩ : w ≠ 0 ∧ 1 < h ∧ ¬(s = w ∧ d = w) := by
      refine ⟨fun hw => hnot (.inl hw), ?_, fun heq => hnot (.inr (.inr heq))⟩
      exact Nat.lt_of_not_le fun hh => hnot (.inr (.inl hh))
    obtain ⟨a, ha⟩ := exists_ne (dst ((h - 1) * d + (w - 1)))
    rcases hd.eq_or_lt with rfl | hd
    · -- the first cell of the second row comes from the wrong place
      have hsw : w < s := hs.lt_of_ne fun heq => hne ⟨heq.symm, rfl⟩
      have hcell := hall (fun i => if i = w then a else dst ((h - 1) * w + (w - 1))) 1 hh 0
        (Nat.pos_of_ne_zero hw)
      rw [Nat.one_mul, Nat.one_mul, Nat.add_zero, Nat.add_zero, memcpy_of_lt (by
        exact lt_mul_of_one_lt_right (Nat.pos_of_ne_zero hw) hh), if_pos rfl,
        if_neg (Nat.ne_of_gt hsw)] at hcell
      exact ha hcell
    · -- the last cell of the last row is not reached
      have hcell := hall (fun _ => a) (h - 1) (by omega) (w - 1) (by omega)
      have hfar : w * h ≤ (h - 1) * d + (w - 1) := by
        obtain ⟨k, rfl⟩ : ∃ k, h = k + 2 := ⟨h - 2, by omega⟩
        have hrows : (k + 1) * (w + 1) ≤ (k + 1) * d := Nat.mul_le_mul_left (k + 1) hd
        have hsub : k + 2 - 1 = k + 1 := rfl
        rw [hsub]
        have hexpand : w * (k + 2) + (k + 1) = (k + 1) * (w + 1) + w := by ring
        omega
      rw [memcpy_of_le hfar] at hcell
      exact ha hcell.symm
  · rintro (rfl | hh | ⟨rfl, rfl⟩) src y hy x hx
    · exact absurd hx (Nat.not_lt_zero x)
    · obtain rfl : y = 0 := by omega
      obtain rfl : h = 1 := by omega
      rw [Nat.zero_mul, Nat.zero_mul, Nat.zero_add, memcpy_of_lt (by omega)]
    · exact memcpy_of_lt (index_lt hx hy)

end DetectBase
