import BlazCtf.Erc20.Standard

set_option autoImplicit false

/- The `ERC20` of the staking challenge: the same storage, with custom errors in
place of texts, and with the zero address as an account like any other. -/
namespace Solady

open Evm
open OpenZeppelin (ERC20)
open OpenZeppelin.ERC20 (Funded Undisturbed)
open Function (update)

/-- The body that `transfer` and `transferFrom` inline; the addition wraps. -/
def moveBalance (token : ERC20) (sender recipient : Address) (amount : Nat) : Outcome ERC20 := do
  require (amount ≤ token.balances sender) "InsufficientBalance"
  let token :=
    { token with balances := update token.balances sender (token.balances sender - amount) }
  pure { token with
    balances := update token.balances recipient ((token.balances recipient + amount) % 2 ^ 256) }

def setAllowance (token : ERC20) (owner spender : Address) (amount : Nat) : ERC20 :=
  { token with
    allowances := update token.allowances owner (update (token.allowances owner) spender amount) }

def transfer (token : ERC20) (msgSender recipient : Address) (amount : Nat) :
    Outcome (ERC20 × Bool) := do
  let token ← moveBalance token msgSender recipient amount
  pure (token, true)

def approve (token : ERC20) (msgSender spender : Address) (amount : Nat) :
    Outcome (ERC20 × Bool) :=
  pure (setAllowance token msgSender spender amount, true)

/-- `permit` with a signature that recovers to `owner`; it may be sent by anyone. -/
def permit (token : ERC20) (owner spender : Address) (amount : Nat) : Outcome ERC20 :=
  pure (setAllowance token owner spender amount)

/-- The allowance is left alone when `add(allowance_, 1)` is zero. -/
def spendAllowance (token : ERC20) (owner spender : Address) (amount : Nat) : Outcome ERC20 :=
  if token.allowances owner spender = 2 ^ 256 - 1 then pure token
  else do
    require (amount ≤ token.allowances owner spender) "InsufficientAllowance"
    pure (setAllowance token owner spender (token.allowances owner spender - amount))

def transferFrom (token : ERC20) (msgSender sender recipient : Address) (amount : Nat) :
    Outcome (ERC20 × Bool) := do
  let token ← spendAllowance token sender msgSender amount
  let token ← moveBalance token sender recipient amount
  pure (token, true)

section Spec

variable {token after : ERC20} {msgSender sender recipient owner spender account : Address}
variable {amount : Nat} {result : Bool}

theorem moveBalance_ok (funded : token.Funded)
    (success : moveBalance token sender recipient amount = .ok after) :
    amount ≤ token.balances sender ∧
      after = { token with balances := Ledger.move token.balances sender recipient amount } := by
  simp only [moveBalance, bind_ok_iff, require_ok_iff, pure_ok_iff] at success
  obtain ⟨_, enough, rfl⟩ := success
  refine ⟨enough, ?_⟩
  rw [funded.credit_unwrapped recipient enough]
  rfl

theorem transfer_ok (funded : token.Funded)
    (success : transfer token msgSender recipient amount = .ok (after, result)) :
    amount ≤ token.balances msgSender ∧
      after = { token with balances := Ledger.move token.balances msgSender recipient amount } := by
  simp only [transfer, bind_ok_iff, pure_ok_iff, Prod.mk.injEq] at success
  obtain ⟨_, moved, rfl, _⟩ := success
  exact moveBalance_ok funded moved

theorem spendAllowance_ok (success : spendAllowance token owner spender amount = .ok after) :
    (token.allowances owner spender = 2 ^ 256 - 1 ∨ amount ≤ token.allowances owner spender) ∧
    ∃ left ≤ token.allowances owner spender, after = { token with
      allowances := update token.allowances owner
        (update (token.allowances owner) spender left) } :=
  OpenZeppelin.ERC20.spent_ok (fun _ set => (pure_ok_iff.mp set).symm) success

theorem transferFrom_ok (funded : token.Funded)
    (success : transferFrom token msgSender sender recipient amount = .ok (after, result)) :
    amount ≤ token.balances sender ∧
      (token.allowances sender msgSender = 2 ^ 256 - 1 ∨
        amount ≤ token.allowances sender msgSender) ∧
      ∃ left ≤ token.allowances sender msgSender, after = { token with
        balances := Ledger.move token.balances sender recipient amount
        allowances := update token.allowances sender
          (update (token.allowances sender) msgSender left) } := by
  simp only [transferFrom, bind_ok_iff, pure_ok_iff, Prod.mk.injEq] at success
  obtain ⟨_, spent, _, moved, rfl, _⟩ := success
  obtain ⟨allowed, left, bound, rfl⟩ := spendAllowance_ok spent
  have stillFunded : Funded { token with
      allowances := update token.allowances sender
        (update (token.allowances sender) msgSender left) } := ⟨funded.sum, funded.fits⟩
  obtain ⟨enough, rfl⟩ := moveBalance_ok stillFunded moved
  exact ⟨enough, allowed, left, bound, rfl⟩

theorem transfer_undisturbed (funded : token.Funded)
    (zero : ∀ spender, token.allowances account spender = 0) (external : msgSender ≠ account)
    (success : transfer token msgSender recipient amount = .ok (after, result)) :
    Undisturbed account token after := by
  obtain ⟨enough, rfl⟩ := transfer_ok funded success
  exact ⟨funded.of_move enough, Ledger.le_move external.symm, zero⟩

theorem transferFrom_undisturbed (funded : token.Funded)
    (zero : ∀ spender, token.allowances account spender = 0)
    (success : transferFrom token msgSender sender recipient amount = .ok (after, result)) :
    Undisturbed account token after := by
  obtain ⟨enough, allowed, left, bound, rfl⟩ := transferFrom_ok funded success
  exact funded.spend_undisturbed zero enough allowed bound

end Spec

end Solady
