import BlazCtf.Erc20.Standard

set_option autoImplicit false

/- The `ERC20` vendored with the bridge contracts is version 4.9.2: the same
storage as version 5, with reason texts and the two relative approvals. -/
namespace OpenZeppelin.ERC20.V4

open Evm
open Function (update)

/-- `_transfer`; the unchecked addition wraps. -/
def doTransfer (token : ERC20) (sender recipient : Address) (amount : Nat) : Outcome ERC20 := do
  require (sender ≠ 0) "ERC20: transfer from the zero address"
  require (recipient ≠ 0) "ERC20: transfer to the zero address"
  require (token.balances sender ≥ amount) "ERC20: transfer amount exceeds balance"
  let token :=
    { token with balances := update token.balances sender (token.balances sender - amount) }
  pure { token with
    balances := update token.balances recipient ((token.balances recipient + amount) % 2 ^ 256) }

/-- `_mint`. -/
def doMint (token : ERC20) (account : Address) (amount : Nat) : Outcome ERC20 := do
  require (account ≠ 0) "ERC20: mint to the zero address"
  let totalSupply ← checkedAdd 256 token.totalSupply amount "_totalSupply += amount"
  pure { token with
    totalSupply
    balances := update token.balances account ((token.balances account + amount) % 2 ^ 256) }

/-- `_burn`; the unchecked subtraction wraps. -/
def doBurn (token : ERC20) (account : Address) (amount : Nat) : Outcome ERC20 := do
  require (account ≠ 0) "ERC20: burn from the zero address"
  require (token.balances account ≥ amount) "ERC20: burn amount exceeds balance"
  pure { token with
    balances := update token.balances account (token.balances account - amount)
    totalSupply := (token.totalSupply + 2 ^ 256 - amount) % 2 ^ 256 }

/-- `_approve`. -/
def doApprove (token : ERC20) (owner spender : Address) (amount : Nat) : Outcome ERC20 := do
  require (owner ≠ 0) "ERC20: approve from the zero address"
  require (spender ≠ 0) "ERC20: approve to the zero address"
  pure { token with
    allowances := update token.allowances owner (update (token.allowances owner) spender amount) }

/-- `_spendAllowance`: the largest allowance is never spent. -/
def spendAllowance (token : ERC20) (owner spender : Address) (amount : Nat) : Outcome ERC20 :=
  if token.allowances owner spender = 2 ^ 256 - 1 then pure token
  else do
    require (token.allowances owner spender ≥ amount) "ERC20: insufficient allowance"
    doApprove token owner spender (token.allowances owner spender - amount)

/-- The functions every holder can call. Each of them returns true. -/
inductive Request where
  | transfer (recipient : Address) (amount : Nat)
  | approve (spender : Address) (amount : Nat)
  | transferFrom (sender recipient : Address) (amount : Nat)
  | increaseAllowance (spender : Address) (addedValue : Nat)
  | decreaseAllowance (spender : Address) (subtractedValue : Nat)
  deriving DecidableEq

def perform (token : ERC20) (msgSender : Address) : Request → Outcome ERC20
  | .transfer recipient amount => doTransfer token msgSender recipient amount
  | .approve spender amount => doApprove token msgSender spender amount
  | .transferFrom sender recipient amount => do
      let token ← spendAllowance token sender msgSender amount
      doTransfer token sender recipient amount
  | .increaseAllowance spender addedValue => do
      let allowance ← checkedAdd 256 (token.allowances msgSender spender) addedValue
        "allowance(owner, spender) + addedValue"
      doApprove token msgSender spender allowance
  | .decreaseAllowance spender subtractedValue => do
      require (token.allowances msgSender spender ≥ subtractedValue)
        "ERC20: decreased allowance below zero"
      doApprove token msgSender spender (token.allowances msgSender spender - subtractedValue)

section Spec

variable {token after : ERC20} {msgSender sender recipient owner spender account : Address}
variable {amount : Nat}

theorem doTransfer_ok (funded : token.Funded)
    (success : doTransfer token sender recipient amount = .ok after) :
    amount ≤ token.balances sender ∧
      after = { token with balances := Ledger.move token.balances sender recipient amount } := by
  simp only [doTransfer, bind_ok_iff, require_ok_iff, pure_ok_iff] at success
  obtain ⟨_, _, _, _, _, enough, rfl⟩ := success
  refine ⟨enough, ?_⟩
  rw [funded.credit_unwrapped recipient enough]
  rfl

theorem doTransfer_succeeds (real : sender ≠ 0) (named : recipient ≠ 0)
    (enough : amount ≤ token.balances sender) :
    ∃ after, doTransfer token sender recipient amount = .ok after := by
  simp only [doTransfer, bind_ok_iff, require_ok_iff, pure_ok_iff]
  exact ⟨_, (), real, (), named, (), enough, rfl⟩

theorem doApprove_ok (success : doApprove token owner spender amount = .ok after) :
    after = { token with
      allowances := update token.allowances owner
        (update (token.allowances owner) spender amount) } := by
  simp only [doApprove, bind_ok_iff, require_ok_iff, pure_ok_iff] at success
  obtain ⟨_, _, _, _, rfl⟩ := success
  rfl

theorem spendAllowance_ok (success : spendAllowance token owner spender amount = .ok after) :
    (token.allowances owner spender = 2 ^ 256 - 1 ∨ amount ≤ token.allowances owner spender) ∧
    ∃ left ≤ token.allowances owner spender, after = { token with
      allowances := update token.allowances owner
        (update (token.allowances owner) spender left) } :=
  spent_ok (fun _ => doApprove_ok) success

theorem transferFrom_ok (funded : token.Funded)
    (success : perform token msgSender (.transferFrom sender recipient amount) = .ok after) :
    amount ≤ token.balances sender ∧
      (token.allowances sender msgSender = 2 ^ 256 - 1 ∨
        amount ≤ token.allowances sender msgSender) ∧
      ∃ left ≤ token.allowances sender msgSender, after = { token with
        balances := Ledger.move token.balances sender recipient amount
        allowances := update token.allowances sender
          (update (token.allowances sender) msgSender left) } := by
  simp only [perform, bind_ok_iff] at success
  obtain ⟨_, spent, moved⟩ := success
  obtain ⟨allowed, left, bound, rfl⟩ := spendAllowance_ok spent
  have stillFunded : Funded { token with
      allowances := update token.allowances sender
        (update (token.allowances sender) msgSender left) } := ⟨funded.sum, funded.fits⟩
  obtain ⟨enough, rfl⟩ := doTransfer_ok stillFunded moved
  exact ⟨enough, allowed, left, bound, rfl⟩

/-- A holder's request moves balances and allowances only. -/
theorem perform_funded (funded : token.Funded) {request : Request}
    (success : perform token msgSender request = .ok after) :
    after.Funded ∧ after.totalSupply = token.totalSupply := by
  cases request with
  | transfer recipient amount =>
      obtain ⟨enough, rfl⟩ := doTransfer_ok funded success
      exact ⟨funded.of_move enough, rfl⟩
  | approve spender amount =>
      rw [doApprove_ok success]
      exact ⟨⟨funded.sum, funded.fits⟩, rfl⟩
  | transferFrom sender recipient amount =>
      obtain ⟨enough, _, left, _, rfl⟩ := transferFrom_ok funded success
      exact ⟨⟨(Ledger.sum_move enough).trans funded.sum, funded.fits⟩, rfl⟩
  | increaseAllowance spender addedValue =>
      obtain ⟨_, _, set⟩ := bind_ok_iff.mp success
      rw [doApprove_ok set]
      exact ⟨⟨funded.sum, funded.fits⟩, rfl⟩
  | decreaseAllowance spender subtractedValue =>
      obtain ⟨_, _, set⟩ := bind_ok_iff.mp success
      rw [doApprove_ok set]
      exact ⟨⟨funded.sum, funded.fits⟩, rfl⟩

theorem doApprove_undisturbed (funded : token.Funded)
    (zero : ∀ spender, token.allowances account spender = 0) (other : owner ≠ account)
    (success : doApprove token owner spender amount = .ok after) :
    Undisturbed account token after := by
  rw [doApprove_ok success]
  exact funded.allow_undisturbed zero other

/-- A holder that approved nobody loses nothing to the requests of others. -/
theorem perform_undisturbed (funded : token.Funded)
    (zero : ∀ spender, token.allowances account spender = 0) (external : msgSender ≠ account)
    {request : Request} (success : perform token msgSender request = .ok after) :
    Undisturbed account token after := by
  cases request with
  | transfer recipient amount =>
      obtain ⟨enough, rfl⟩ := doTransfer_ok funded success
      exact ⟨funded.of_move enough, Ledger.le_move external.symm, zero⟩
  | approve spender amount => exact doApprove_undisturbed funded zero external success
  | transferFrom sender recipient amount =>
      obtain ⟨enough, allowed, left, bound, rfl⟩ := transferFrom_ok funded success
      exact funded.spend_undisturbed zero enough allowed bound
  | increaseAllowance spender addedValue =>
      obtain ⟨_, _, set⟩ := bind_ok_iff.mp success
      exact doApprove_undisturbed funded zero external set
  | decreaseAllowance spender subtractedValue =>
      obtain ⟨_, _, set⟩ := bind_ok_iff.mp success
      exact doApprove_undisturbed funded zero external set

/-- What one account holds is part of the supply. -/
theorem Funded.balance_le (funded : token.Funded) (account : Address) :
    token.balances account ≤ token.totalSupply := by
  rw [← funded.sum]
  exact Finset.single_le_sum (f := fun x => token.balances x)
    (fun _ _ => Nat.zero_le _) (Finset.mem_univ account)

theorem doMint_ok (funded : token.Funded) (success : doMint token account amount = .ok after) :
    after.Funded ∧ after.totalSupply = token.totalSupply + amount ∧
      after.allowances = token.allowances := by
  simp only [doMint, bind_ok_iff, require_ok_iff, checkedAdd_ok_iff, pure_ok_iff] at success
  obtain ⟨_, _, _, ⟨fits, rfl⟩, rfl⟩ := success
  have balance := Funded.balance_le funded account
  rw [Nat.mod_eq_of_lt (by omega)]
  refine ⟨⟨?_, fits⟩, rfl, rfl⟩
  have sums := Ledger.sum_update_add Finset.univ (fun n : Nat => n) token.balances
    (Finset.mem_univ account) (token.balances account + amount)
  have total := funded.sum
  dsimp only
  omega

theorem doBurn_ok (funded : token.Funded) (success : doBurn token account amount = .ok after) :
    after.Funded ∧ after.totalSupply + amount = token.totalSupply ∧
      after.allowances = token.allowances := by
  simp only [doBurn, bind_ok_iff, require_ok_iff, pure_ok_iff] at success
  obtain ⟨_, _, _, enough, rfl⟩ := success
  have balance := Funded.balance_le funded account
  have fits := funded.fits
  have left : (token.totalSupply + 2 ^ 256 - amount) % 2 ^ 256 = token.totalSupply - amount := by
    omega
  rw [left]
  refine ⟨⟨?_, by dsimp only; omega⟩, by dsimp only; omega, rfl⟩
  have sums := Ledger.sum_update_add Finset.univ (fun n : Nat => n) token.balances
    (Finset.mem_univ account) (token.balances account - amount)
  have total := funded.sum
  dsimp only
  omega

end Spec

end OpenZeppelin.ERC20.V4
