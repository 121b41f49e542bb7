import BlazCtf.EightInch.Settlement

set_option autoImplicit false

namespace EightInch

open Evm
open Function (update)

/-- What the settlement holds of one token. -/
def Tokens.held (tokens : Tokens) (this token : Address) : Nat :=
  (tokens token).balanceOf this

/-- The settlement has approved nobody: no function of it calls `approve`. -/
def Tokens.Unapproved (tokens : Tokens) (this : Address) : Prop :=
  ∀ token spender, (tokens token).allowance this spender = 0

namespace Tokens

variable {tokens after : Tokens} {this token msgSender sender recipient spender : Address}
variable {value : Nat} {result : Bool}

theorem transferFrom_ok
    (success : tokens.transferFrom token msgSender sender recipient value = .ok (after, result)) :
    value ≤ (tokens token).balanceOf sender ∧
      value ≤ (tokens token).allowance sender msgSender ∧
      after = update tokens token { tokens token with
        balanceOf := Ledger.move (tokens token).balanceOf sender recipient value
        allowance := update (tokens token).allowance sender
          (update ((tokens token).allowance sender) msgSender
            ((tokens token).allowance sender msgSender - value)) } := by
  simp only [transferFrom, bind_ok_iff, pure_ok_iff, Prod.exists, Prod.mk.injEq] at success
  obtain ⟨next, _, step, rfl, rfl⟩ := success
  obtain ⟨funded, allowed, rfl⟩ := SimpleERC20.transferFrom_ok step
  exact ⟨funded, allowed, rfl⟩

theorem transfer_ok
    (success : tokens.transfer token msgSender recipient value = .ok (after, result)) :
    value ≤ (tokens token).balanceOf msgSender ∧
      after = update tokens token { tokens token with
        balanceOf := Ledger.move (tokens token).balanceOf msgSender recipient value } := by
  simp only [transfer, bind_ok_iff, pure_ok_iff, Prod.exists, Prod.mk.injEq] at success
  obtain ⟨next, _, step, rfl, rfl⟩ := success
  obtain ⟨funded, rfl⟩ := SimpleERC20.transfer_ok step
  exact ⟨funded, rfl⟩

theorem approve_ok
    (success : tokens.approve token msgSender spender value = .ok (after, result)) :
    after = update tokens token { tokens token with
      allowance := update (tokens token).allowance msgSender
        (update ((tokens token).allowance msgSender) spender value) } := by
  simp only [approve, bind_ok_iff, pure_ok_iff, Prod.exists, Prod.mk.injEq] at success
  obtain ⟨next, _, step, rfl, rfl⟩ := success
  rw [SimpleERC20.approve_ok step]

/-- Whoever spends, an allowance the settlement never gave stays zero. -/
theorem transferFrom_unapproved
    (success : tokens.transferFrom token msgSender sender recipient value = .ok (after, result))
    (fresh : tokens.Unapproved this) :
    after.Unapproved this := by
  obtain ⟨_, _, rfl⟩ := transferFrom_ok success
  intro other spender
  by_cases same : other = token
  · subst same
    have zero := fresh other
    by_cases owner : this = sender
    · subst owner
      by_cases taker : spender = msgSender
      · subst taker
        simp [zero]
      · simp [Function.update_of_ne taker, zero]
    · simp [Function.update_of_ne owner, zero]
  · simpa [Function.update_of_ne same] using fresh other spender

theorem transfer_unapproved
    (success : tokens.transfer token msgSender recipient value = .ok (after, result))
    (fresh : tokens.Unapproved this) :
    after.Unapproved this := by
  obtain ⟨_, rfl⟩ := transfer_ok success
  intro other spender
  by_cases same : other = token
  · subst same
    simpa using fresh other spender
  · simpa [Function.update_of_ne same] using fresh other spender

theorem approve_unapproved
    (success : tokens.approve token msgSender spender value = .ok (after, result))
    (fresh : tokens.Unapproved this) (external : msgSender ≠ this) :
    after.Unapproved this := by
  rw [approve_ok success]
  intro other taker
  by_cases same : other = token
  · subst same
    simpa [Function.update_of_ne external.symm] using fresh other taker
  · simpa [Function.update_of_ne same] using fresh other taker

/-- Nobody can take from the settlement with `transferFrom`. -/
theorem transferFrom_held
    (success : tokens.transferFrom token msgSender sender recipient value = .ok (after, result))
    (fresh : tokens.Unapproved this) (other : Address) :
    tokens.held this other ≤ after.held this other := by
  obtain ⟨funded, allowed, rfl⟩ := transferFrom_ok success
  by_cases same : other = token
  · subst same
    simp only [held, Function.update_self]
    by_cases owner : this = sender
    · subst owner
      have zero : value = 0 := by
        rw [fresh other msgSender] at allowed
        omega
      subst zero
      simp only [Ledger.move]
      by_cases aliased : this = recipient
      · simp [aliased]
      · simp [Function.update_of_ne aliased]
    · exact Ledger.le_move owner
  · simp only [held, Function.update_of_ne same, le_refl]

/-- A collection credits the settlement with the whole value. -/
theorem collect_held
    (success : tokens.transferFrom token msgSender sender this value = .ok (after, result))
    (external : sender ≠ this) (other : Address) :
    after.held this other = tokens.held this other + if other = token then value else 0 := by
  obtain ⟨funded, allowed, rfl⟩ := transferFrom_ok success
  by_cases same : other = token
  · subst same
    simp [held, Ledger.move_target external]
  · simp [held, same]

/-- A payment out of the settlement costs it exactly the value. -/
theorem pay_held
    (success : tokens.transfer token this recipient value = .ok (after, result))
    (external : recipient ≠ this) (other : Address) :
    after.held this other + (if other = token then value else 0) = tokens.held this other := by
  obtain ⟨funded, rfl⟩ := transfer_ok success
  by_cases same : other = token
  · subst same
    simp only [held, Function.update_self, ↓reduceIte, Ledger.move_source external.symm]
    omega
  · simp [held, same]

/-- A transfer by somebody else never costs the settlement anything. -/
theorem transfer_held
    (success : tokens.transfer token msgSender recipient value = .ok (after, result))
    (external : msgSender ≠ this) (other : Address) :
    tokens.held this other ≤ after.held this other := by
  obtain ⟨funded, rfl⟩ := transfer_ok success
  by_cases same : other = token
  · subst same
    simp only [held, Function.update_self]
    exact Ledger.le_move external.symm
  · simp only [held, Function.update_of_ne same, le_refl]

theorem approve_held
    (success : tokens.approve token msgSender spender value = .ok (after, result))
    (other : Address) : after.held this other = tokens.held this other := by
  rw [approve_ok success]
  by_cases same : other = token
  · subst same
    simp [held]
  · simp [held, Function.update_of_ne same]

end Tokens

end EightInch
