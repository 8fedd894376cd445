import Mathlib.Algebra.Group.Nat.Basic
import Mathlib.Data.Nat.Defs
/-! Unsigned 64-bit words as the node's Rust code uses them: `u64::MAX`, and the product of
`u64::checked_mul`, which is `None` instead of wrapping.  Values are natural numbers; the bound
is explicit wherever the code multiplies. -/

namespace ArpaNode

/-- `u64::MAX`, that is `2 ^ 64 - 1`. -/
def u64Max : Nat := 18446744073709551615

/-- `a.checked_mul(b)` on `u64`: the product when it is at most `u64::MAX`. -/
def checkedMul (a b : Nat) : Option Nat :=
  if a * b ≤ u64Max then some (a * b) else none

@[simp] theorem checkedMul_eq_some {a b n : Nat} :
    checkedMul a b = some n ↔ a * b ≤ u64Max ∧ a * b = n := by
  unfold checkedMul
  by_cases h : a * b ≤ u64Max <;> simp [h]

@[simp] theorem checkedMul_eq_none {a b : Nat} : checkedMul a b = none ↔ u64Max < a * b := by
  unfold checkedMul
  split <;> simp only [reduceCtorEq, false_iff, true_iff, Nat.not_lt] <;> omega

/-- `a.checked_add(b)` on `u64`: the sum when it is at most `u64::MAX`. -/
def checkedAdd (a b : Nat) : Option Nat :=
  if a + b ≤ u64Max then some (a + b) else none

@[simp] theorem checkedAdd_eq_some {a b n : Nat} :
    checkedAdd a b = some n ↔ a + b ≤ u64Max ∧ a + b = n := by
  unfold checkedAdd
  by_cases h : a + b ≤ u64Max <;> simp [h]

/-- `a.checked_mul(b).unwrap_or(u64::MAX)`: the product, saturated at `u64::MAX`. -/
theorem checkedMul_getD (a b : Nat) : (checkedMul a b).getD u64Max = min (a * b) u64Max := by
  unfold checkedMul
  split <;> simp only [Option.getD_some, Option.getD_none] <;> omega

/-- Saturating a factor first does not change a saturated product. -/
theorem min_mul_saturate (x y : Nat) : min (min x u64Max * y) u64Max = min (x * y) u64Max := by
  rcases le_total x u64Max with hx | hx
  · rw [min_eq_left hx]
  · rcases Nat.eq_zero_or_pos y with rfl | hy
    · simp
    · have hM := Nat.le_mul_of_pos_right u64Max hy
      rw [min_eq_right hx, min_eq_right hM,
        min_eq_right (Nat.le_trans hM (Nat.mul_le_mul_right y hx))]

end ArpaNode
