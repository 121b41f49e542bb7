import Mathlib.Algebra.GroupWithZero.Nat
import Mathlib.Algebra.BigOperators.Group.List.Basic

set_option autoImplicit false

namespace Compound

/-- A debt that is charged `debt * rate * gap / year`, rounded down, at the end of each gap. -/
def charge (year rate : Nat) : Nat → List Nat → Nat
  | debt, [] => debt
  | debt, gap :: rest => charge year rate (debt + debt * rate * gap / year) rest

/-- What the charges round away, in units of one part in `year`. -/
def dropped (year rate : Nat) : Nat → List Nat → Nat
  | _, [] => 0
  | debt, gap :: rest =>
      debt * rate * gap % year + dropped year rate (debt + debt * rate * gap / year) rest

/-- What is charged on earlier charges, in the same units, for a debt that started as
`principal`. -/
def onInterest (year rate principal : Nat) : Nat → List Nat → Nat
  | _, [] => 0
  | debt, gap :: rest =>
      (debt - principal) * rate * gap +
        onInterest year rate principal (debt + debt * rate * gap / year) rest

variable {year rate : Nat}

/-- The account of all charges: what was charged and what was dropped is the interest on
the principal and on the interest. -/
theorem charge_add_dropped (year rate : Nat) (gaps : List Nat) {principal debt : Nat}
    (grown : principal ≤ debt) :
    year * charge year rate debt gaps + dropped year rate debt gaps =
      year * debt + principal * rate * gaps.sum + onInterest year rate principal debt gaps := by
  induction gaps generalizing debt with
  | nil => simp only [charge, dropped, onInterest, List.sum_nil, Nat.mul_zero, Nat.add_zero]
  | cons gap rest ih =>
      have tail := ih (Nat.le_trans grown (Nat.le_add_right debt (debt * rate * gap / year)))
      have floor := Nat.div_add_mod (debt * rate * gap) year
      have split : debt * rate * gap =
          principal * rate * gap + (debt - principal) * rate * gap := by
        rw [← Nat.add_mul, ← Nat.add_mul, Nat.add_sub_cancel' grown]
      rw [Nat.mul_add] at tail
      simp only [charge, dropped, onInterest, List.sum_cons, Nat.mul_add]
      omega

/-- Charging once at the end is no dearer than charging along the way exactly when the
fractions dropped on the way are made up for. -/
theorem single_le_charge_iff (positive : 0 < year) (gaps : List Nat) (debt : Nat) :
    debt + debt * rate * gaps.sum / year ≤ charge year rate debt gaps ↔
      dropped year rate debt gaps ≤
        onInterest year rate debt debt gaps + debt * rate * gaps.sum % year := by
  have account := charge_add_dropped year rate gaps (Nat.le_refl debt)
  have floor := Nat.div_add_mod (debt * rate * gaps.sum) year
  rw [← Nat.mul_le_mul_left_iff positive, Nat.mul_add]
  omega

/-- Gaps too short to charge anything leave the debt as it was. -/
theorem charge_of_short {gaps : List Nat} {debt : Nat}
    (short : ∀ gap ∈ gaps, debt * rate * gap < year) : charge year rate debt gaps = debt := by
  induction gaps with
  | nil => rfl
  | cons gap rest ih =>
      have nothing : debt * rate * gap / year = 0 :=
        Nat.div_eq_of_lt (short gap List.mem_cons_self)
      rw [charge, nothing, Nat.add_zero]
      exact ih fun other member => short other (List.mem_cons_of_mem gap member)

end Compound
