import BlazCtf.Lib.Checked
import BlazCtf.Lib.Ledger

set_option autoImplicit false

namespace EightInch

open Evm
open Function (update)

/-- Storage of `SimpleERC20`; name, symbol and decimals are never read. -/
structure SimpleERC20 where
  totalSupply : Nat
  balanceOf : Address → Nat
  allowance : Address → Address → Nat

namespace SimpleERC20

/-- The constructor gives the whole supply to the deploying account. -/
def deploy (msgSender : Address) (supply : Nat) : SimpleERC20 where
  totalSupply := supply
  balanceOf := update (fun _ => 0) msgSender supply
  allowance := fun _ _ => 0

/-- The two balance statements that `transfer` and `transferFrom` share. -/
def moveBalance (token : SimpleERC20) (sender recipient : Address) (value : Nat) :
    Outcome SimpleERC20 := do
  let debited ← checkedSub (token.balanceOf sender) value "balanceOf[_from] -= _value"
  let balance := update token.balanceOf sender debited
  let credited ← checkedAdd 256 (balance recipient) value "balanceOf[_to] += _value"
  pure { token with balanceOf := update balance recipient credited }

def transfer (token : SimpleERC20) (msgSender recipient : Address) (value : Nat) :
    Outcome (SimpleERC20 × Bool) := do
  require (recipient ≠ 0) "Invalid address"
  require (token.balanceOf msgSender ≥ value) "Insufficient balance"
  let token ← token.moveBalance msgSender recipient value
  pure (token, true)

def approve (token : SimpleERC20) (msgSender spender : Address) (value : Nat) :
    Outcome (SimpleERC20 × Bool) :=
  pure ({ token with
    allowance := update token.allowance msgSender
      (update (token.allowance msgSender) spender value) }, true)

def transferFrom (token : SimpleERC20) (msgSender sender recipient : Address) (value : Nat) :
    Outcome (SimpleERC20 × Bool) := do
  require (recipient ≠ 0) "Invalid address"
  require (token.balanceOf sender ≥ value) "Insufficient balance"
  require (token.allowance sender msgSender ≥ value) "Insufficient allowance"
  let token ← token.moveBalance sender recipient value
  let left ← checkedSub (token.allowance sender msgSender) value
    "allowance[_from][msg.sender] -= _value"
  pure ({ token with
    allowance := update token.allowance sender
      (update (token.allowance sender) msgSender left) }, true)

theorem moveBalance_ok {token after : SimpleERC20} {sender recipient : Address} {value : Nat}
    (success : token.moveBalance sender recipient value = .ok after) :
    value ≤ token.balanceOf sender ∧
      after = { token with balanceOf := Ledger.move token.balanceOf sender recipient value } := by
  simp only [moveBalance, bind_ok_iff, pure_ok_iff, checkedSub_ok_iff, checkedAdd_ok_iff] at success
  obtain ⟨debited, ⟨funded, rfl⟩, credited, ⟨_, rfl⟩, rfl⟩ := success
  exact ⟨funded, rfl⟩

theorem transfer_ok {token after : SimpleERC20} {msgSender recipient : Address} {value : Nat}
    {result : Bool} (success : token.transfer msgSender recipient value = .ok (after, result)) :
    value ≤ token.balanceOf msgSender ∧
      after = { token with
        balanceOf := Ledger.move token.balanceOf msgSender recipient value } := by
  simp only [transfer, bind_ok_iff, pure_ok_iff, require_ok_iff, Prod.mk.injEq] at success
  obtain ⟨_, _, _, _, moved, step, rfl, _⟩ := success
  exact moveBalance_ok step

theorem approve_ok {token after : SimpleERC20} {msgSender spender : Address} {value : Nat}
    {result : Bool} (success : token.approve msgSender spender value = .ok (after, result)) :
    after = { token with
      allowance := update token.allowance msgSender
        (update (token.allowance msgSender) spender value) } := by
  simp only [approve, pure_ok_iff, Prod.mk.injEq] at success
  exact success.1.symm

theorem transferFrom_ok {token after : SimpleERC20} {msgSender sender recipient : Address}
    {value : Nat} {result : Bool}
    (success : token.transferFrom msgSender sender recipient value = .ok (after, result)) :
    value ≤ token.balanceOf sender ∧ value ≤ token.allowance sender msgSender ∧
      after = { token with
        balanceOf := Ledger.move token.balanceOf sender recipient value
        allowance := update token.allowance sender
          (update (token.allowance sender) msgSender
            (token.allowance sender msgSender - value)) } := by
  simp only [transferFrom, bind_ok_iff, pure_ok_iff, require_ok_iff, checkedSub_ok_iff,
    Prod.mk.injEq] at success
  obtain ⟨_, _, _, _, _, allowed, moved, step, left, ⟨_, rfl⟩, rfl, _⟩ := success
  obtain ⟨funded, rfl⟩ := moveBalance_ok step
  exact ⟨funded, allowed, rfl⟩

/-- Everything a transfer can fail with. -/
def reverts : List Revert :=
  [.reason "Invalid address", .reason "Insufficient balance", .reason "Insufficient allowance",
    .panic 0x11 "balanceOf[_from] -= _value", .panic 0x11 "balanceOf[_to] += _value",
    .panic 0x11 "allowance[_from][msg.sender] -= _value"]

section Avoids

variable {token : SimpleERC20} {msgSender sender recipient : Address} {value : Nat}
  {reason : Revert}

theorem moveBalance_avoids (other : reason ∉ reverts) :
    Avoids reason (token.moveBalance sender recipient value) := by
  have distinct : ∀ revert ∈ reverts, revert ≠ reason := fun _ member same =>
    other (same ▸ member)
  apply avoids_bind (avoids_checkedSub_of_ne (distinct _ (by decide)))
  intro _ _
  apply avoids_bind (avoids_checkedAdd_of_ne (distinct _ (by decide)))
  intro _ _
  exact avoids_pure _ _

theorem transfer_avoids (other : reason ∉ reverts) :
    Avoids reason (token.transfer msgSender recipient value) := by
  have distinct : ∀ revert ∈ reverts, revert ≠ reason := fun _ member same =>
    other (same ▸ member)
  apply avoids_bind (avoids_require_of_ne (distinct _ (by decide)))
  intro _ _
  apply avoids_bind (avoids_require_of_ne (distinct _ (by decide)))
  intro _ _
  apply avoids_bind (moveBalance_avoids other)
  intro _ _
  exact avoids_pure _ _

theorem transferFrom_avoids (other : reason ∉ reverts) :
    Avoids reason (token.transferFrom msgSender sender recipient value) := by
  have distinct : ∀ revert ∈ reverts, revert ≠ reason := fun _ member same =>
    other (same ▸ member)
  apply avoids_bind (avoids_require_of_ne (distinct _ (by decide)))
  intro _ _
  apply avoids_bind (avoids_require_of_ne (distinct _ (by decide)))
  intro _ _
  apply avoids_bind (avoids_require_of_ne (distinct _ (by decide)))
  intro _ _
  apply avoids_bind (moveBalance_avoids other)
  intro _ _
  apply avoids_bind (avoids_checkedSub_of_ne (distinct _ (by decide)))
  intro _ _
  exact avoids_pure _ _

end Avoids

end SimpleERC20

end EightInch
