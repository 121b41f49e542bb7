import BlazCtf.Lib.Checked
import BlazCtf.Lib.Newton

set_option autoImplicit false

namespace Doju

open Evm

/-- The loop of `sqrt`, which returns the estimate that stopped it. -/
def sqrtLoop (x z y : Nat) : Outcome Nat :=
  if z < y then do
    let quotient ← checkedDiv x z "x / z"
    let sum ← checkedAdd 256 quotient z "x / z + z"
    sqrtLoop x (sum / 2) z
  else pure z
termination_by y

def sqrt (x : Nat) : Outcome Nat := do
  let sum ← checkedAdd 256 x 1 "x + 1"
  sqrtLoop x (sum / 2) x

/-- From any estimate above the root, the loop reaches the root and takes one
more step from there. -/
theorem sqrtLoop_eq {x : Nat} (positive : 0 < x) (small : x < 2 ^ 256 - 1) :
    ∀ y, Nat.sqrt x ≤ y → y ≤ x → sqrtLoop x (Newton.step x y) y = .ok (Nat.sqrt (x + 1)) := by
  intro y
  induction y using Nat.strong_induction_on with
  | _ y ih =>
    intro above below
    have root : 0 < Nat.sqrt x := Nat.sqrt_pos.mpr positive
    have next : Nat.sqrt x ≤ Newton.step x y := Newton.sqrt_le_step (by omega)
    rw [sqrtLoop]
    by_cases falls : Newton.step x y < y
    · have quotient : checkedDiv x (Newton.step x y) "x / z" = .ok (x / Newton.step x y) := by
        rw [checkedDiv_ok_iff]
        exact ⟨by omega, rfl⟩
      have sum : checkedAdd 256 (x / Newton.step x y) (Newton.step x y) "x / z + z" =
          .ok (x / Newton.step x y + Newton.step x y) := by
        rw [checkedAdd_ok_iff]
        refine ⟨?_, rfl⟩
        -- both summands are at least one and their product is at most `x`
        have product : x / Newton.step x y * Newton.step x y ≤ x := Nat.div_mul_le_self x _
        have one : 1 ≤ x / Newton.step x y := (Nat.le_div_iff_mul_le (by omega)).mpr (by omega)
        have bound : x / Newton.step x y + Newton.step x y ≤ x + 1 := by nlinarith
        omega
      rw [if_pos falls, quotient]
      simp only [bind, Except.bind, sum]
      exact ih _ falls next (by omega)
    · have stopped : y = Nat.sqrt x := Newton.eq_sqrt_of_le_step (by omega) above (by omega)
      rw [if_neg falls, stopped, Newton.step_sqrt positive]
      rfl

/-- `sqrt` returns the root of `x + 1`, one above the root of `x` just below a square. -/
theorem sqrt_eq {x : Nat} (positive : 0 < x) (small : x < 2 ^ 256 - 1) :
    sqrt x = .ok (Nat.sqrt (x + 1)) := by
  have sum : checkedAdd 256 x 1 "x + 1" = .ok (x + 1) := by
    rw [checkedAdd_ok_iff]
    exact ⟨by omega, rfl⟩
  simp only [sqrt, sum, bind, Except.bind]
  have start : (x + 1) / 2 = Newton.step x x := by
    rw [Newton.step, Nat.div_self positive, Nat.add_comm]
  rw [start]
  exact sqrtLoop_eq positive small x (Nat.sqrt_le_self x) (Nat.le_refl x)

theorem sqrt_zero : sqrt 0 = .ok 0 := by
  have sum : checkedAdd 256 0 1 "x + 1" = .ok 1 := rfl
  simp only [sqrt, sum, bind, Except.bind]
  rw [sqrtLoop, if_neg (by omega)]
  rfl

/-- Below the largest word `sqrt` returns: the root of `x` rounded down, but one more than
that just below a square. -/
theorem sqrt_returns (x : Nat) (positive : 1 ≤ x) (small : x < 2 ^ 256 - 1) :
    sqrt x = .ok (Nat.sqrt (x + 1)) ∧
      (IsSquare (x + 1) → sqrt x = .ok (Nat.sqrt x + 1)) ∧
      (¬ IsSquare (x + 1) → sqrt x = .ok (Nat.sqrt x)) ∧
      sqrt 0 = .ok 0 := by
  have value := sqrt_eq positive small
  refine ⟨value, ?_, ?_, sqrt_zero⟩
  · intro square
    rw [value, Newton.sqrt_succ_of_isSquare square]
  · intro square
    rw [value, Newton.sqrt_succ_of_not_isSquare square]

theorem sqrt_returns_eight : sqrt 8 = .ok 3 ∧ sqrt 7 = .ok 2 := by
  have eight := (sqrt_returns 8 (by omega) (by omega)).1
  have seven := (sqrt_returns 7 (by omega) (by omega)).1
  have three : Nat.sqrt (8 + 1) = 3 := Nat.sqrt_eq 3
  have two : Nat.sqrt (7 + 1) = 2 := (Nat.eq_sqrt.mpr (by decide)).symm
  rw [eight, seven, three, two]
  exact ⟨rfl, rfl⟩

/-- Whatever `sqrt` returns squares to at most `x + 1`. -/
theorem sqrt_square_le {x root : Nat} (success : sqrt x = .ok root) : root * root ≤ x + 1 := by
  obtain ⟨_, sum, rest⟩ := bind_ok_iff.mp success
  rw [checkedAdd_ok_iff] at sum
  obtain ⟨bound, rfl⟩ := sum
  rcases Nat.eq_zero_or_pos x with zero | positive
  · subst zero
    rw [sqrtLoop, if_neg (by omega), pure_ok_iff] at rest
    subst rest
    decide
  · have value := success
    rw [sqrt_eq positive (by omega), Except.ok.injEq] at value
    subst value
    exact Nat.sqrt_le (x + 1)

/-- The square of what `sqrt` returns is a word. -/
theorem sqrt_square_lt {x root : Nat} (success : sqrt x = .ok root) : root * root < 2 ^ 256 := by
  have square := sqrt_square_le success
  obtain ⟨_, sum, _⟩ := bind_ok_iff.mp success
  rw [checkedAdd_ok_iff] at sum
  omega

end Doju
