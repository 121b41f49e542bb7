import BlazCtf.Lib.Checked
import BlazCtf.Lib.Ledger

set_option autoImplicit false

namespace OpenZeppelin

open Evm
open Function (update)

/-- Storage of the vendored `ERC20`, version 5; name and symbol are never read. -/
structure ERC20 where
  balances : Address → Nat
  allowances : Address → Address → Nat
  totalSupply : Nat

namespace ERC20

/-- `_update`, where the zero address stands for minting and burning. The
unchecked statements wrap. -/
def doUpdate (token : ERC20) (sender recipient : Address) (value : Nat) : Outcome ERC20 := do
  let token ←
    if sender = 0 then do
      let totalSupply ← checkedAdd 256 token.totalSupply value "_totalSupply += value"
      pure { token with totalSupply }
    else do
      require (value ≤ token.balances sender) "ERC20InsufficientBalance"
      pure { token with balances := update token.balances sender (token.balances sender - value) }
  if recipient = 0 then
    pure { token with totalSupply := (token.totalSupply + 2 ^ 256 - value) % 2 ^ 256 }
  else
    pure { token with
      balances := update token.balances recipient ((token.balances recipient + value) % 2 ^ 256) }

/-- `_transfer`. -/
def doTransfer (token : ERC20) (sender recipient : Address) (value : Nat) : Outcome ERC20 := do
  require (sender ≠ 0) "ERC20InvalidSender"
  require (recipient ≠ 0) "ERC20InvalidReceiver"
  token.doUpdate sender recipient value

/-- `_mint`. -/
def doMint (token : ERC20) (account : Address) (value : Nat) : Outcome ERC20 := do
  require (account ≠ 0) "ERC20InvalidReceiver"
  token.doUpdate 0 account value

/-- `_approve`. -/
def doApprove (token : ERC20) (owner spender : Address) (value : Nat) : Outcome ERC20 := do
  require (owner ≠ 0) "ERC20InvalidApprover"
  require (spender ≠ 0) "ERC20InvalidSpender"
  pure { token with
    allowances := update token.allowances owner (update (token.allowances owner) spender value) }

/-- `_spendAllowance`: the largest allowance is never spent. -/
def spendAllowance (token : ERC20) (owner spender : Address) (value : Nat) : Outcome ERC20 :=
  if token.allowances owner spender = 2 ^ 256 - 1 then pure token
  else do
    require (value ≤ token.allowances owner spender) "ERC20InsufficientAllowance"
    token.doApprove owner spender (token.allowances owner spender - value)

def transfer (token : ERC20) (msgSender recipient : Address) (value : Nat) :
    Outcome (ERC20 × Bool) := do
  let token ← token.doTransfer msgSender recipient value
  pure (token, true)

def approve (token : ERC20) (msgSender spender : Address) (value : Nat) :
    Outcome (ERC20 × Bool) := do
  let token ← token.doApprove msgSender spender value
  pure (token, true)

def transferFrom (token : ERC20) (msgSender sender recipient : Address) (value : Nat) :
    Outcome (ERC20 × Bool) := do
  let token ← token.spendAllowance sender msgSender value
  let token ← token.doTransfer sender recipient value
  pure (token, true)

/-- A token whose constructor minted its whole supply to one account. -/
def deploy (account : Address) (supply : Fin (2 ^ 256)) : ERC20 where
  balances := update (fun _ => 0) account supply
  allowances := fun _ _ => 0
  totalSupply := supply

/-- All balances together are the supply, which fits a word. -/
structure Funded (token : ERC20) : Prop where
  sum : ∑ account, token.balances account = token.totalSupply
  fits : token.totalSupply < 2 ^ 256

variable {token after : ERC20} {msgSender sender recipient owner spender : Address}
variable {value : Nat} {result : Bool}

theorem deploy_funded (account : Address) (supply : Fin (2 ^ 256)) :
    (deploy account supply).Funded := by
  refine ⟨?_, supply.isLt⟩
  have added := Ledger.sum_update_add Finset.univ (fun n : Nat => n) (fun _ : Address => 0)
    (Finset.mem_univ account) supply.val
  simpa [deploy] using added

/-- Between accounts of a funded token the unchecked addition does not wrap. -/
theorem Funded.credit_unwrapped (funded : token.Funded) (recipient : Address)
    (enough : value ≤ token.balances sender) :
    (Function.update token.balances sender (token.balances sender - value) recipient + value) %
        2 ^ 256 =
      Function.update token.balances sender (token.balances sender - value) recipient + value := by
  have credited : Ledger.move token.balances sender recipient value recipient ≤
      ∑ account, Ledger.move token.balances sender recipient value account :=
    Finset.single_le_sum (f := fun x => Ledger.move token.balances sender recipient value x)
      (fun _ _ => Nat.zero_le _) (Finset.mem_univ recipient)
  rw [Ledger.sum_move enough, funded.sum] at credited
  have fits := Nat.lt_of_le_of_lt credited funded.fits
  simp only [Ledger.move, Function.update_self] at fits
  exact Nat.mod_eq_of_lt fits

theorem doTransfer_ok (funded : token.Funded)
    (success : token.doTransfer sender recipient value = .ok after) :
    value ≤ token.balances sender ∧
      after = { token with balances := Ledger.move token.balances sender recipient value } := by
  simp only [doTransfer, bind_ok_iff, require_ok_iff] at success
  obtain ⟨_, realSender, _, realRecipient, body⟩ := success
  simp only [doUpdate, realSender, realRecipient, ↓reduceIte, bind_ok_iff, require_ok_iff,
    pure_ok_iff] at body
  obtain ⟨_, enough, _, rfl, rfl⟩ := body
  refine ⟨enough, ?_⟩
  dsimp only
  rw [funded.credit_unwrapped recipient enough]
  rfl

theorem doApprove_ok (success : token.doApprove owner spender value = .ok after) :
    after = { token with
      allowances := update token.allowances owner
        (update (token.allowances owner) spender value) } := by
  simp only [doApprove, bind_ok_iff, require_ok_iff, pure_ok_iff] at success
  obtain ⟨_, _, _, _, rfl⟩ := success
  rfl

theorem Funded.of_move (funded : token.Funded) (enough : value ≤ token.balances sender) :
    Funded { token with balances := Ledger.move token.balances sender recipient value } :=
  ⟨(Ledger.sum_move enough).trans funded.sum, funded.fits⟩

/-- What one account sees of another's call: its own balance and allowances. -/
structure Undisturbed (account : Address) (token after : ERC20) : Prop where
  funded : after.Funded
  balance : token.balances account ≤ after.balances account
  allowances : ∀ spender, after.allowances account spender = 0

theorem transfer_ok (funded : token.Funded)
    (success : token.transfer msgSender recipient value = .ok (after, result)) :
    value ≤ token.balances msgSender ∧
      after = { token with balances := Ledger.move token.balances msgSender recipient value } := by
  simp only [transfer, bind_ok_iff, pure_ok_iff, Prod.mk.injEq] at success
  obtain ⟨_, moved, rfl, _⟩ := success
  exact doTransfer_ok funded moved

/-- The allowance table after spending, whatever branch was taken. Both versions
spend this way and differ in the reason of the check and in how they set what is
left. -/
theorem spent_ok {reason : String} {setLeft : Nat → Outcome ERC20}
    (sets : ∀ left, setLeft left = .ok after → after = { token with
      allowances := update token.allowances owner
        (update (token.allowances owner) spender left) })
    (success : (if token.allowances owner spender = 2 ^ 256 - 1 then pure token
      else do
        require (value ≤ token.allowances owner spender) reason
        setLeft (token.allowances owner spender - value)) = .ok after) :
    (token.allowances owner spender = 2 ^ 256 - 1 ∨ value ≤ token.allowances owner spender) ∧
    ∃ left ≤ token.allowances owner spender, after = { token with
      allowances := update token.allowances owner
        (update (token.allowances owner) spender left) } := by
  split at success
  · rename_i unlimited
    rw [pure_ok_iff] at success
    subst success
    refine ⟨.inl unlimited, token.allowances owner spender, Nat.le_refl _, ?_⟩
    simp only [Function.update_eq_self]
  · simp only [bind_ok_iff, require_ok_iff] at success
    obtain ⟨_, enough, set⟩ := success
    exact ⟨.inr enough, _, Nat.sub_le _ _, sets _ set⟩

theorem spendAllowance_ok
    (success : token.spendAllowance owner spender value = .ok after) :
    (token.allowances owner spender = 2 ^ 256 - 1 ∨ value ≤ token.allowances owner spender) ∧
    ∃ left ≤ token.allowances owner spender, after = { token with
      allowances := update token.allowances owner
        (update (token.allowances owner) spender left) } :=
  spent_ok (fun _ => doApprove_ok) success

theorem transferFrom_ok (funded : token.Funded)
    (success : token.transferFrom msgSender sender recipient value = .ok (after, result)) :
    value ≤ token.balances sender ∧
      (token.allowances sender msgSender = 2 ^ 256 - 1 ∨
        value ≤ token.allowances sender msgSender) ∧
      ∃ left ≤ token.allowances sender msgSender, after = { token with
        balances := Ledger.move token.balances sender recipient value
        allowances := update token.allowances sender
          (update (token.allowances sender) msgSender left) } := by
  simp only [transferFrom, bind_ok_iff, pure_ok_iff, Prod.mk.injEq] at success
  obtain ⟨_, spent, _, moved, rfl, _⟩ := success
  obtain ⟨allowed, left, bound, rfl⟩ := spendAllowance_ok spent
  have stillFunded : Funded { token with
      allowances := update token.allowances sender
        (update (token.allowances sender) msgSender left) } := ⟨funded.sum, funded.fits⟩
  obtain ⟨enough, rfl⟩ := doTransfer_ok stillFunded moved
  exact ⟨enough, allowed, left, bound, rfl⟩

/-- An allowance table with one entry of another row, or a smaller entry of this
row, keeps this row zero. -/
theorem row_zero {allowances : Address → Address → Nat} {account : Address} {left : Nat}
    (zero : ∀ spender, allowances account spender = 0)
    (bound : left ≤ allowances sender msgSender) (spender : Address) :
    update allowances sender (update (allowances sender) msgSender left) account spender = 0 := by
  by_cases own : account = sender
  · subst own
    rw [Function.update_self]
    by_cases taker : spender = msgSender
    · subst taker
      rw [Function.update_self]
      rw [zero spender] at bound
      omega
    · rw [Function.update_of_ne taker]
      exact zero spender
  · rw [Function.update_of_ne own]
    exact zero spender

/-- An account that approved nobody loses nothing to what others spend. -/
theorem Funded.spend_undisturbed {account : Address} {left : Nat} (funded : token.Funded)
    (zero : ∀ spender, token.allowances account spender = 0)
    (enough : value ≤ token.balances sender)
    (allowed : token.allowances sender msgSender = 2 ^ 256 - 1 ∨
      value ≤ token.allowances sender msgSender)
    (bound : left ≤ token.allowances sender msgSender) :
    Undisturbed account token { token with
      balances := Ledger.move token.balances sender recipient value
      allowances := update token.allowances sender
        (update (token.allowances sender) msgSender left) } := by
  refine ⟨⟨(Ledger.sum_move enough).trans funded.sum, funded.fits⟩, ?_, row_zero zero bound⟩
  by_cases own : account = sender
  · subst own
    have nothing : value = 0 := by
      rw [zero msgSender] at allowed
      omega
    subst nothing
    rw [Ledger.move_zero]
  · exact Ledger.le_move own

/-- Nor does it to what others approve. -/
theorem Funded.allow_undisturbed {account : Address} (funded : token.Funded)
    (zero : ∀ spender, token.allowances account spender = 0) (other : owner ≠ account) :
    Undisturbed account token { token with
      allowances := update token.allowances owner
        (update (token.allowances owner) spender value) } := by
  refine ⟨⟨funded.sum, funded.fits⟩, Nat.le_refl _, ?_⟩
  intro named
  dsimp only
  rw [Function.update_of_ne other.symm]
  exact zero named

theorem transferFrom_undisturbed {account : Address} (funded : token.Funded)
    (zero : ∀ spender, token.allowances account spender = 0)
    (success : token.transferFrom msgSender sender recipient value = .ok (after, result)) :
    Undisturbed account token after := by
  obtain ⟨enough, allowed, left, bound, rfl⟩ := transferFrom_ok funded success
  exact funded.spend_undisturbed zero enough allowed bound

theorem transfer_undisturbed {account : Address} (funded : token.Funded)
    (zero : ∀ spender, token.allowances account spender = 0) (external : msgSender ≠ account)
    (success : token.transfer msgSender recipient value = .ok (after, result)) :
    Undisturbed account token after := by
  obtain ⟨enough, rfl⟩ := transfer_ok funded success
  exact ⟨funded.of_move enough, Ledger.le_move external.symm, zero⟩

theorem approve_undisturbed {account : Address} (funded : token.Funded)
    (zero : ∀ spender, token.allowances account spender = 0) (external : msgSender ≠ account)
    (success : token.approve msgSender spender value = .ok (after, result)) :
    Undisturbed account token after := by
  simp only [approve, bind_ok_iff, pure_ok_iff, Prod.mk.injEq] at success
  obtain ⟨_, set, rfl, _⟩ := success
  rw [doApprove_ok set]
  exact funded.allow_undisturbed zero external

end ERC20

end OpenZeppelin
