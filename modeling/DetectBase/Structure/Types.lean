import Mathlib.Algebra.Group.Int.Defs
import Mathlib.Algebra.Group.Nat.Defs
import Mathlib.Data.List.AList

/-!
# Types of the service

The identifiers that the parts of the service share, and the maps over them.
-/

namespace DetectBase

/-- The identifier of a unit (a camera, or a client of an engine). -/
abbrev UnitID := ℤ

/-- The conversion to `int`, which keeps the low 32 bits. -/
def toInt32 (z : ℤ) : ℤ := z.bmod (2 ^ 32)

/-- What is left of a number that is not negative is not more than it was. -/
theorem toInt32_le {z : ℤ} (h : 0 ≤ z) : toInt32 z ≤ z := by
  have hmod : z % (2 ^ 32 : ℕ) ≤ z := by omega
  rw [toInt32, Int.bmod]
  split_ifs
  · exact hmod
  · omega

/-- A map over units. -/
abbrev UnitMap (γ : Type) := AList fun _ : UnitID => γ

end DetectBase
