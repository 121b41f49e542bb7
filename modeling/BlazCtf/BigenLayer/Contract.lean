import BlazCtf.Erc20.Solady
import BlazCtf.Lib.Run

set_option autoImplicit false

namespace Bigen

open Evm
open OpenZeppelin (ERC20)
open Function (update)

structure BigenLayer where
  owner : Address
  stakedBalance : Address → Nat
  withdrawalRequestTime : Address → Nat
  pendingWithdrawals : Address → Nat
  withdrawalRecipient : Address → Address

/-- One move of a user's stake to the pending amount, and when it was made. -/
structure Request where
  amount : Nat
  recipient : Address
  time : Nat
  deriving DecidableEq

/-- One payment by `finalizeWithdrawal` and the requests it pays. -/
structure Payout where
  user : Address
  recipient : Address
  requests : List Request
  time : Nat
  deriving DecidableEq

/-- The contract, the token it calls and the clock. The two lists are not read
by the code: they keep the requests behind each pending amount. -/
structure World where
  bigen : BigenLayer
  token : ERC20
  timestamp : Nat
  unpaid : Address → List Request
  payouts : List Payout

section Contract

variable (this msgSender : Address)

def stake (w : World) (onBehalf : Address) (amount : Nat) : Outcome World := do
  let (token, paid) ← Solady.transferFrom w.token this msgSender this amount
  require (paid = true) "Transfer failed"
  let staked ← checkedAdd 256 (w.bigen.stakedBalance onBehalf) amount
    "stakedBalance[onBehalf] += amount"
  pure { w with
    token
    bigen := { w.bigen with stakedBalance := update w.bigen.stakedBalance onBehalf staked } }

/-- `_requestWithdrawal`: a later request of the same user replaces the time and
the recipient of the earlier ones. -/
def doRequestWithdrawal (w : World) (user : Address) (amount : Nat) (recipient : Address) :
    Outcome World := do
  require (w.bigen.stakedBalance user ≥ amount) "Insufficient balance"
  let staked ← checkedSub (w.bigen.stakedBalance user) amount "stakedBalance[user] -= amount"
  let pending ← checkedAdd 256 (w.bigen.pendingWithdrawals user) amount
    "pendingWithdrawals[user] += amount"
  pure { w with
    bigen := { w.bigen with
      stakedBalance := update w.bigen.stakedBalance user staked
      pendingWithdrawals := update w.bigen.pendingWithdrawals user pending
      withdrawalRequestTime := update w.bigen.withdrawalRequestTime user w.timestamp
      withdrawalRecipient := update w.bigen.withdrawalRecipient user recipient }
    unpaid := update w.unpaid user (⟨amount, recipient, w.timestamp⟩ :: w.unpaid user) }

def requestWithdrawal (w : World) (amount : Nat) (recipient : Address) : Outcome World :=
  doRequestWithdrawal w msgSender amount recipient

def adminRequestWithdrawal (w : World) (user : Address) (amount : Nat) (recipient : Address) :
    Outcome World := do
  require (msgSender = w.bigen.owner) "Only owner can call this function"
  doRequestWithdrawal w user amount recipient

def finalizeWithdrawal (w : World) (user : Address) : Outcome World := do
  let amount := w.bigen.pendingWithdrawals user
  require (amount > 0) "No pending withdrawal"
  let due ← checkedAdd 256 (w.bigen.withdrawalRequestTime user) 12
    "withdrawalRequestTime[user] + 12 seconds"
  require (w.timestamp ≥ due) "Withdrawal too early"
  let recipient := w.bigen.withdrawalRecipient user
  let bigen := { w.bigen with pendingWithdrawals := update w.bigen.pendingWithdrawals user 0 }
  let (token, paid) ← Solady.transfer w.token this recipient amount
  require (paid = true) "Transfer failed"
  pure { w with
    token
    bigen
    unpaid := update w.unpaid user []
    payouts := ⟨user, recipient, w.unpaid user, w.timestamp⟩ :: w.payouts }

end Contract

/-- The entry points of the contract and of its token, and the passing of time. -/
inductive Op (this : Address) where
  | stake (onBehalf : Address) (amount : Nat)
  | requestWithdrawal (amount : Nat) (recipient : Address)
  | adminRequestWithdrawal (user : Address) (amount : Nat) (recipient : Address)
  | finalizeWithdrawal (user : Address)
  | transfer (recipient : Address) (amount : Nat)
  | approve (spender : Address) (amount : Nat)
  | transferFrom (sender recipient : Address) (amount : Nat)
  | permit (owner spender : Address) (amount : Nat) (signed : owner ≠ this)
  | wait (seconds : Nat)

/-- A call by an account other than the contract itself, which calls only its
token and has no key to sign a permit with. -/
structure Call (this : Address) where
  msgSender : Address
  op : Op this
  external : msgSender ≠ this

def call {this : Address} (w : World) (made : Call this) : Outcome World :=
  match made.op with
  | .stake onBehalf amount => stake this made.msgSender w onBehalf amount
  | .requestWithdrawal amount recipient => requestWithdrawal made.msgSender w amount recipient
  | .adminRequestWithdrawal user amount recipient =>
      adminRequestWithdrawal made.msgSender w user amount recipient
  | .finalizeWithdrawal user => finalizeWithdrawal this w user
  | .transfer recipient amount => do
      let (token, _) ← Solady.transfer w.token made.msgSender recipient amount
      pure { w with token }
  | .approve spender amount => do
      let (token, _) ← Solady.approve w.token made.msgSender spender amount
      pure { w with token }
  | .transferFrom sender recipient amount => do
      let (token, _) ← Solady.transferFrom w.token made.msgSender sender recipient amount
      pure { w with token }
  | .permit owner spender amount _ => do
      let token ← Solady.permit w.token owner spender amount
      pure { w with token }
  | .wait seconds => pure { w with timestamp := w.timestamp + seconds }

/-- A fresh contract beside a token minted to one account. -/
def deployWorld (owner holder : Address) (supply : Fin (2 ^ 256)) (timestamp : Nat) : World where
  bigen := ⟨owner, fun _ => 0, fun _ => 0, fun _ => 0, fun _ => 0⟩
  token := ERC20.deploy holder supply
  timestamp := timestamp
  unpaid := fun _ => []
  payouts := []

end Bigen
