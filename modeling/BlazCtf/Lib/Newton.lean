import Mathlib.Data.Nat.Sqrt
import Mathlib.Tactic.Linarith

set_option autoImplicit false

namespace Newton

variable {x y z : Nat}

/-- One rounded-down step of Newton's iteration for the square root of `x`. -/
def step (x z : Nat) : Nat := (x / z + z) / 2

/-- A step from a positive estimate never falls below the root. -/
theorem sqrt_le_step (positive : 0 < z) : Nat.sqrt x ≤ step x z := by
  have square : Nat.sqrt x * Nat.sqrt x ≤ x := Nat.sqrt_le x
  have quotient : 2 * Nat.sqrt x - z ≤ x / z := by
    rw [Nat.le_div_iff_mul_le positive]
    by_cases large : 2 * Nat.sqrt x ≤ z
    · rw [Nat.sub_eq_zero_of_le large, Nat.zero_mul]
      exact Nat.zero_le x
    · have split : 2 * Nat.sqrt x - z + z = 2 * Nat.sqrt x := by omega
      nlinarith [sq_nonneg ((Nat.sqrt x : Int) - z)]
  unfold step
  omega

/-- The iteration stops falling only at the root. -/
theorem eq_sqrt_of_le_step (positive : 0 < y) (above : Nat.sqrt x ≤ y) (stops : y ≤ step x y) :
    y = Nat.sqrt x := by
  have quotient : y ≤ x / y := by
    unfold step at stops
    omega
  have below : y ≤ Nat.sqrt x := Nat.le_sqrt.mpr ((Nat.le_div_iff_mul_le positive).mp quotient)
  omega

/-- The step taken from the root: it rises by one just below a square. -/
theorem step_sqrt (positive : 0 < x) : step x (Nat.sqrt x) = Nat.sqrt (x + 1) := by
  have root : 0 < Nat.sqrt x := Nat.sqrt_pos.mpr positive
  have lower : Nat.sqrt x * Nat.sqrt x ≤ x := Nat.sqrt_le x
  have upper : x ≤ Nat.sqrt x * Nat.sqrt x + Nat.sqrt x + Nat.sqrt x := Nat.sqrt_le_add x
  by_cases last : x = Nat.sqrt x * Nat.sqrt x + Nat.sqrt x + Nat.sqrt x
  · have quotient : x / Nat.sqrt x = Nat.sqrt x + 2 := by
      apply Nat.div_eq_of_lt_le <;> nlinarith
    have next : Nat.sqrt (x + 1) = Nat.sqrt x + 1 := by
      rw [eq_comm, Nat.eq_sqrt]
      constructor <;> nlinarith
    rw [step, quotient, next]
    omega
  · have small : x / Nat.sqrt x < Nat.sqrt x + 2 := by
      rw [Nat.div_lt_iff_lt_mul root]
      have strict : x < Nat.sqrt x * Nat.sqrt x + Nat.sqrt x + Nat.sqrt x := by omega
      nlinarith
    have large : Nat.sqrt x ≤ x / Nat.sqrt x := (Nat.le_div_iff_mul_le root).mpr lower
    have next : Nat.sqrt (x + 1) = Nat.sqrt x := by
      rw [eq_comm, Nat.eq_sqrt]
      have strict : x < Nat.sqrt x * Nat.sqrt x + Nat.sqrt x + Nat.sqrt x := by omega
      constructor <;> nlinarith
    rw [step, next]
    omega

/-- The root of the next number is one more than that of this one if it is a square, -/
theorem sqrt_succ_of_isSquare (square : IsSquare (x + 1)) :
    Nat.sqrt (x + 1) = Nat.sqrt x + 1 := by
  obtain ⟨root, value⟩ := square
  have positive : 0 < root := by
    by_contra zero
    rw [Nat.eq_zero_of_not_pos zero] at value
    omega
  have previous : Nat.sqrt x = root - 1 := by
    obtain ⟨last, rfl⟩ := Nat.exists_eq_add_of_lt positive
    rw [eq_comm, Nat.eq_sqrt]
    constructor <;> simp only [Nat.zero_add, Nat.add_sub_cancel] at * <;> nlinarith
  rw [value, Nat.sqrt_eq, previous]
  omega

/-- and the same if it is not. -/
theorem sqrt_succ_of_not_isSquare (square : ¬ IsSquare (x + 1)) :
    Nat.sqrt (x + 1) = Nat.sqrt x := by
  have below : Nat.sqrt (x + 1) * Nat.sqrt (x + 1) ≤ x := by
    have bound := Nat.sqrt_le (x + 1)
    have differs : x + 1 ≠ Nat.sqrt (x + 1) * Nat.sqrt (x + 1) := fun value => square ⟨_, value⟩
    omega
  apply Nat.le_antisymm
  · exact Nat.le_sqrt.mpr below
  · exact Nat.sqrt_le_sqrt (Nat.le_succ x)

end Newton
