import BlazCtf.Doju.Sqrt
import BlazCtf.Lib.Run
import BlazCtf.Lib.Ledger

set_option autoImplicit false

namespace Doju

open Evm
open Function (update)
open Ledger (move)

/-- A `uint256` argument. -/
abbrev Word := Fin (2 ^ 256)

inductive Event where
  | transfer (source recipient : Address) (value : Nat)
  | mint (recipient : Address) (value : Nat)
  | burn (source : Address) (value : Nat)
  deriving DecidableEq

/-- The token's storage, its event log (newest first) and the ETH balance of
every account, the token contract's own included. -/
structure State where
  totalSupply : Nat
  balanceOf : Address → Nat
  eth : Address → Nat
  logs : List Event

def State.emit (s : State) (event : Event) : State := { s with logs := event :: s.logs }

def BURN_ADDRESS : Address := 0

/-- An entry point with its decoded arguments. Getters change nothing. -/
inductive Op where
  | receive
  | buyTokens (recipient : Address)
  | sellTokens (tokenAmount : Word) (recipient : Address) (minOut : Word)
  | transfer (recipient : Address) (value : Word)
  | getter
  deriving DecidableEq

section Payload

/-- `abi.encodePacked(minOut, to, tokenAmount, msg.sender, ethValue)`, 136 bytes. -/
abbrev Payload := BitVec 1088

def encodePacked (minOut : Word) (recipient : Address) (tokenAmount : Word) (msgSender : Address)
    (ethValue : Nat) : Payload :=
  BitVec.ofNat 256 minOut ++ BitVec.ofNat 160 recipient ++ BitVec.ofNat 256 tokenAmount ++
    BitVec.ofNat 160 msgSender ++ BitVec.ofNat 256 ethValue

def selector (data : Payload) : Nat := (data.extractLsb' 1056 32).toNat

/-- The argument word at `index`, read after the four bytes of the selector. -/
def argument (data : Payload) (index : Fin 4) : Word :=
  (data.extractLsb' (800 - 256 * index) 256).toFin

/-- An address argument; the decoder reverts on dirty upper bytes. -/
def addressArgument (data : Payload) (index : Fin 4) : Option Address :=
  if clean : (argument data index).val < 2 ^ 160 then some ⟨argument data index, clean⟩ else none

/-- The dispatcher on data of this size; `none` reverts. -/
def decode (data : Payload) : Option Op :=
  match selector data with
  | 0xec8ac4d8 => (addressArgument data 0).map .buyTokens
  | 0xefcf7676 => (addressArgument data 1).map fun recipient =>
      .sellTokens (argument data 0) recipient (argument data 2)
  | 0xa9059cbb => (addressArgument data 0).map fun recipient =>
      .transfer recipient (argument data 1)
  | 0x70a08231 => (addressArgument data 0).map fun _ => .getter -- balanceOf(address)
  | 0x06fdde03 | 0x95d89b41 | 0x313ce567 | 0x18160ddd | 0xfccc2813 =>
      some .getter -- name, symbol, decimals, totalSupply, BURN_ADDRESS
  | _ => none

end Payload

/-- `_ethToTokens`. -/
def ethToTokens (ethAmount currentSupply : Nat) : Outcome Nat := do
  let k ← checkedMul 256 currentSupply currentSupply "currentSupply * currentSupply"
  let twice ← checkedMul 256 2 ethAmount "2 * ethAmount"
  let scaled ← checkedMul 256 twice (10 ^ 18) "2 * ethAmount * 1e18"
  let sum ← checkedAdd 256 k scaled "k + 2 * ethAmount * 1e18"
  let newSupply ← sqrt sum
  checkedSub newSupply currentSupply "newSupply - currentSupply"

/-- `_tokensToEth`. -/
def tokensToEth (s : State) (tokenAmount : Nat) : Outcome Nat := do
  let currentSupply := s.totalSupply
  let k ← checkedMul 256 currentSupply currentSupply "currentSupply * currentSupply"
  let newSupply ← checkedSub currentSupply tokenAmount "currentSupply - tokenAmount"
  let newK ← checkedMul 256 newSupply newSupply "newSupply * newSupply"
  let difference ← checkedSub k newK "k - newK"
  checkedDiv difference (2 * 10 ^ 18) "(k - newK) / (2 * 1e18)"

/-- `_transfer`. -/
def doTransfer (s : State) (source recipient : Address) (value : Nat) : Outcome State := do
  require (recipient ≠ 0) "Invalid to"
  require (s.balanceOf source ≥ value) "Not enough balance"
  let debited ← checkedSub (s.balanceOf source) value "balanceOf[from] -= value"
  let s := { s with balanceOf := update s.balanceOf source debited }
  let credited ← checkedAdd 256 (s.balanceOf recipient) value "balanceOf[to] += value"
  let s := { s with balanceOf := update s.balanceOf recipient credited }
  pure (s.emit (.transfer source recipient value))

def buyTokens (this : Address) (s : State) (value : Nat) (recipient : Address) : Outcome State := do
  require (value > 0) "Send ETH to buy tokens"
  let tokensToMint ← ethToTokens value s.totalSupply
  let s ← doTransfer s this recipient tokensToMint
  let totalSupply ← checkedAdd 256 s.totalSupply tokensToMint "totalSupply += tokensToMint"
  let s := { s with totalSupply }
  pure ((s.emit (.mint recipient tokensToMint)).emit (.transfer 0 recipient tokensToMint))

/-- The statements of `sellTokens` before its external call: the tokens are back
in the contract and off the supply, and the ETH to pay out is known. -/
def startSale (this : Address) (s : State) (seller : Address) (tokenAmount : Nat) :
    Outcome (State × Nat) := do
  let ethValue ← tokensToEth s tokenAmount
  let s ← doTransfer s seller this tokenAmount
  let totalSupply ← checkedSub s.totalSupply tokenAmount "totalSupply -= tokenAmount"
  pure ({ s with totalSupply }, ethValue)

/-- A low-level call `to.call{value: v}(data)` by the contract: the state it
leaves, or nothing when it fails. -/
abbrev Send := State → (recipient : Address) → (value : Nat) → Payload → Option State

def sellTokens (this : Address) (send : Send) (s : State) (msgSender : Address)
    (tokenAmount : Word) (recipient : Address) (minOut : Word) : Outcome State := do
  let (s, ethValue) ← startSale this s msgSender tokenAmount
  let sent := send s recipient ethValue
    (encodePacked minOut recipient tokenAmount msgSender ethValue)
  require (minOut > ethValue) "minOut not met"
  match sent with
  | none => .error (.reason "Transfer failed")
  | some s =>
      pure ((s.emit (.burn msgSender tokenAmount)).emit (.transfer msgSender 0 tokenAmount))

def transfer (this : Address) (send : Send) (s : State) (msgSender recipient : Address)
    (value : Word) : Outcome State :=
  if recipient = BURN_ADDRESS then sellTokens this send s msgSender value msgSender 0
  else doTransfer s msgSender recipient value

/-- The compiler's check on functions that are not payable. -/
def nonPayable (value : Nat) (body : Outcome State) : Outcome State :=
  if value = 0 then body else .error .bare

def invoke (this : Address) (send : Send) (s : State) (msgSender : Address) (value : Nat) :
    Op → Outcome State
  | .receive => buyTokens this s value msgSender
  | .buyTokens recipient => buyTokens this s value recipient
  | .sellTokens tokenAmount recipient minOut =>
      nonPayable value (sellTokens this send s msgSender tokenAmount recipient minOut)
  | .transfer recipient amount => nonPayable value (transfer this send s msgSender recipient amount)
  | .getter => nonPayable value (pure s)

/-- The ETH that a message carries along. -/
def payEth (s : State) (source recipient : Address) (value : Nat) : Outcome State :=
  if value ≤ s.eth source then .ok { s with eth := move s.eth source recipient value }
  else .error .bare

/-- What happens to the contract from outside: a message with the calls that the
code of its ETH recipient makes before it accepts or rejects, ETH moved by other
accounts (a self-destruct can force it into the contract), or a block reward.
The contract itself sends messages only from `sellTokens`. -/
inductive Call (this : Address) where
  | message (msgSender : Address) (external : msgSender ≠ this) (value : Word) (op : Op)
      (code : List (Call this)) (accepts : Bool)
  | elsewhere (source : Address) (external : source ≠ this) (recipient : Address) (value : Word)
  | reward (recipient : Address) (value : Word)

def callWith {this : Address}
    (deliver : List (Call this) → Bool → State → Address → Nat → Op → Outcome State) (s : State) :
    Call this → Outcome State
  | .message msgSender _ value op code accepts => deliver code accepts s msgSender value op
  | .elsewhere source _ recipient value => payEth s source recipient value
  | .reward recipient value =>
      .ok { s with eth := update s.eth recipient (s.eth recipient + value) }

/-- A message to the contract when `depth` more calls can be nested. A sale to
the contract itself sends the packed bytes back to its own dispatcher; any other
recipient runs `code` and answers `accepts`. A chain of self-calls ends in at
most one such recipient. -/
def deliver {this : Address} :
    Nat → List (Call this) → Bool → State → Address → Nat → Op → Outcome State
  | 0, _, _, s, msgSender, value, op => do
      let s ← payEth s msgSender this value
      invoke this (fun _ _ _ _ => none) s msgSender value op
  | depth + 1, code, accepts, s, msgSender, value, op => do
      let s ← payEth s msgSender this value
      let send : Send := fun s recipient value data =>
        if recipient = this then
          match decode data with
          | none => none
          | some op => (deliver depth code accepts s this value op).toOption
        else
          match payEth s this recipient value with
          | .error _ => none
          | .ok s => if accepts then some (run (callWith (deliver depth)) s code) else none
      invoke this send s msgSender value op

def call {this : Address} (depth : Nat) (s : State) (made : Call this) : Outcome State :=
  callWith (deliver depth) s made

/-- The nesting limit of the EVM. -/
def callDepth : Nat := 1024

/-- Storage after the constructor, among accounts with any ETH. -/
def deploy (this deployer : Address) (eth : Address → Nat) : State where
  totalSupply := 100 * 10 ^ 18
  balanceOf := update (update (fun _ => 0) deployer (100 * 10 ^ 18)) this
    (2 ^ 256 - 1 - 100 * 10 ^ 18)
  eth := eth
  logs := []

end Doju
