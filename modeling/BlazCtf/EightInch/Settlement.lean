import BlazCtf.EightInch.SimpleErc20
import BlazCtf.Lib.Run

set_option autoImplicit false

namespace EightInch

open Evm
open Function (update)

/-- `SafeUint112.safeCast`: the bound itself, `1 << 112`, is accepted and then
truncated to zero by the conversion. -/
def safeCast (value : Nat) : Outcome Nat := do
  require (value ≤ 2 ^ 112) "SafeUint112: value exceeds uint112 max"
  pure (value % 2 ^ 112)

/-- `SafeUint112.safeMul`, with the same inclusive bound. -/
def safeMul (a b : Nat) : Outcome Nat := do
  let product ← checkedMul 256 a b "uint256(a) * b"
  require (product ≤ 2 ^ 112) "SafeUint112: value exceeds uint112 max"
  let product ← checkedMul 256 a b "a * b"
  pure (product % 2 ^ 112)

structure Trade where
  maker : Address
  taker : Address
  tokenToSell : Address
  tokenToBuy : Address
  amountToSell : Nat
  amountToBuy : Nat
  filledAmountToSell : Nat
  filledAmountToBuy : Nat
  isActive : Bool
  deriving DecidableEq

/-- The zero value a mapping holds at a key that was never written. -/
def Trade.unset : Trade := ⟨0, 0, 0, 0, 0, 0, 0, 0, false⟩

structure TradeSettlement where
  trades : Nat → Trade
  nextTradeId : Nat
  locked : Bool
  fee : Nat

/-- The token contracts: every address is taken to hold a `SimpleERC20`. -/
abbrev Tokens := Address → SimpleERC20

namespace Tokens

/-- `IERC20(token).transferFrom(sender, recipient, value)` called by `msgSender`. -/
def transferFrom (tokens : Tokens) (token msgSender sender recipient : Address) (value : Nat) :
    Outcome (Tokens × Bool) := do
  let (after, result) ← (tokens token).transferFrom msgSender sender recipient value
  pure (update tokens token after, result)

/-- `IERC20(token).transfer(recipient, value)` called by `msgSender`. -/
def transfer (tokens : Tokens) (token msgSender recipient : Address) (value : Nat) :
    Outcome (Tokens × Bool) := do
  let (after, result) ← (tokens token).transfer msgSender recipient value
  pure (update tokens token after, result)

def approve (tokens : Tokens) (token msgSender spender : Address) (value : Nat) :
    Outcome (Tokens × Bool) := do
  let (after, result) ← (tokens token).approve msgSender spender value
  pure (update tokens token after, result)

end Tokens

/-- The settlement's storage together with the tokens it calls. -/
structure World where
  settlement : TradeSettlement
  tokens : Tokens

def World.setTrade (w : World) (id : Nat) (trade : Trade) : World :=
  { w with settlement := { w.settlement with trades := update w.settlement.trades id trade } }

def nonReentrant (body : World → Outcome World) (w : World) : Outcome World := do
  require (w.settlement.locked = false) "ReentrancyGuard: reentrant call"
  let w ← body { w with settlement := { w.settlement with locked := true } }
  pure { w with settlement := { w.settlement with locked := false } }

section Contract

variable (this msgSender : Address)

def createTrade (tokenToSell tokenToBuy : Address) (amountToSell amountToBuy : Nat) :
    World → Outcome World := nonReentrant fun w => do
  require (tokenToSell ≠ 0 ∧ tokenToBuy ≠ 0) "Invalid token addresses"
  let tradeId := w.settlement.nextTradeId
  let nextTradeId ← checkedAdd 256 tradeId 1 "nextTradeId++"
  let net ← checkedSub amountToSell w.settlement.fee "_amountToSell - fee"
  let sell ← safeCast net
  let buy ← safeCast amountToBuy
  let trade : Trade := ⟨msgSender, 0, tokenToSell, tokenToBuy, sell, buy, 0, 0, true⟩
  let w := { w with settlement := { w.settlement with nextTradeId } }
  let w := w.setTrade tradeId trade
  let (tokens, paid) ← w.tokens.transferFrom tokenToSell this msgSender this amountToSell
  require (paid = true) "Transfer failed"
  pure { w with tokens }

/-- The collection of `scaleTrade`: the top-up is skipped when the recomputed
need does not exceed the original amount. -/
def collectScaled (tokens : Tokens) (token : Address) (original needed : Nat) :
    Outcome Tokens :=
  if original < needed then do
    let topUp ← checkedSub needed original "newAmountNeededWithFee - originalAmountToSell"
    let (tokens, paid) ← tokens.transferFrom token this msgSender this topUp
    require (paid = true) "Transfer failed"
    pure tokens
  else pure tokens

def scaleTrade (tradeId scale : Nat) : World → Outcome World := nonReentrant fun w => do
  let trade := w.settlement.trades tradeId
  require (msgSender = trade.maker) "Only maker can scale"
  require (trade.isActive = true) "Trade is not active"
  require (scale > 0) "Invalid scale"
  require (trade.filledAmountToBuy = 0) "Trade is already filled"
  let originalAmountToSell := trade.amountToSell
  let scaledSell ← safeMul trade.amountToSell scale
  let newSell ← safeCast scaledSell
  let scaledBuy ← safeMul trade.amountToBuy scale
  let newBuy ← safeCast scaledBuy
  let w := w.setTrade tradeId { trade with amountToSell := newSell, amountToBuy := newBuy }
  let scaled ← safeMul originalAmountToSell scale
  let withFee ← checkedAdd 256 scaled w.settlement.fee "safeMul(originalAmountToSell, scale) + fee"
  let newAmountNeededWithFee ← safeCast withFee
  let tokens ← collectScaled this msgSender w.tokens trade.tokenToSell originalAmountToSell
    newAmountNeededWithFee
  pure { w with tokens }

def settleTrade (tradeId amountToSettle : Nat) : World → Outcome World := nonReentrant fun w => do
  let trade := w.settlement.trades tradeId
  require (trade.isActive = true) "Trade is not active"
  require (amountToSettle > 0) "Invalid settlement amount"
  let tradeAmount ← checkedMul 256 amountToSettle trade.amountToBuy
    "_amountToSettle * trade.amountToBuy"
  let filled ← checkedAdd 256 trade.filledAmountToSell amountToSettle
    "trade.filledAmountToSell + _amountToSettle"
  require (filled ≤ trade.amountToSell) "Exceeds available amount"
  let price ← checkedDiv tradeAmount trade.amountToSell "tradeAmount / trade.amountToSell"
  let (tokens, bought) ← w.tokens.transferFrom trade.tokenToBuy this msgSender trade.maker price
  require (bought = true) "Buy transfer failed"
  let (tokens, sold) ← tokens.transfer trade.tokenToSell this msgSender amountToSettle
  require (sold = true) "Sell transfer failed"
  let castSell ← safeCast amountToSettle
  let filledSell ← checkedAdd 112 trade.filledAmountToSell castSell
    "trade.filledAmountToSell += safeCast(_amountToSettle)"
  let castBuy ← safeCast price
  let filledBuy ← checkedAdd 112 trade.filledAmountToBuy castBuy
    "trade.filledAmountToBuy += safeCast(tradeAmount / trade.amountToSell)"
  -- The close test is strict, so an exactly filled trade stays active.
  let isActive := if filledSell > trade.amountToSell then false else trade.isActive
  let w := w.setTrade tradeId { trade with
    filledAmountToSell := filledSell, filledAmountToBuy := filledBuy, isActive }
  pure { w with tokens }

/-- The refund of `cancelTrade`, made only when something is left. -/
def refund (tokens : Tokens) (trade : Trade) (remaining : Nat) : Outcome Tokens :=
  if remaining > 0 then do
    let (tokens, paid) ← tokens.transfer trade.tokenToSell this trade.maker remaining
    require (paid = true) "Transfer failed"
    pure tokens
  else pure tokens

def cancelTrade (tradeId : Nat) : World → Outcome World := nonReentrant fun w => do
  let trade := w.settlement.trades tradeId
  require (msgSender = trade.maker) "Only maker can cancel"
  require (trade.isActive = true) "Trade is not active"
  let remaining ← checkedSub trade.amountToSell trade.filledAmountToSell
    "trade.amountToSell - trade.filledAmountToSell"
  let tokens ← refund this w.tokens trade remaining
  let w := w.setTrade tradeId { trade with isActive := false }
  pure { w with tokens }

end Contract

/-- The entry points of the settlement and of the tokens. -/
inductive Op where
  | createTrade (tokenToSell tokenToBuy : Address) (amountToSell amountToBuy : Nat)
  | scaleTrade (tradeId scale : Nat)
  | settleTrade (tradeId amountToSettle : Nat)
  | cancelTrade (tradeId : Nat)
  | transfer (token recipient : Address) (value : Nat)
  | approve (token spender : Address) (value : Nat)
  | transferFrom (token sender recipient : Address) (value : Nat)

/-- A call by an account other than the settlement itself. The settlement calls
only tokens, and only through `createTrade`, `scaleTrade`, `settleTrade` and
`cancelTrade`, so it is never the sender of any of these. -/
structure Call (this : Address) where
  msgSender : Address
  op : Op
  external : msgSender ≠ this

def call {this : Address} (w : World) (made : Call this) : Outcome World :=
  match made.op with
  | .createTrade tokenToSell tokenToBuy amountToSell amountToBuy =>
      createTrade this made.msgSender tokenToSell tokenToBuy amountToSell amountToBuy w
  | .scaleTrade tradeId scale => scaleTrade this made.msgSender tradeId scale w
  | .settleTrade tradeId amountToSettle => settleTrade this made.msgSender tradeId amountToSettle w
  | .cancelTrade tradeId => cancelTrade this made.msgSender tradeId w
  | .transfer token recipient value => do
      let (tokens, _) ← w.tokens.transfer token made.msgSender recipient value
      pure { w with tokens }
  | .approve token spender value => do
      let (tokens, _) ← w.tokens.approve token made.msgSender spender value
      pure { w with tokens }
  | .transferFrom token sender recipient value => do
      let (tokens, _) ← w.tokens.transferFrom token made.msgSender sender recipient value
      pure { w with tokens }

/-- A fresh settlement, and at every address a token minted to some deployer. -/
def deployWorld (deployer : Address → Address) (supply : Address → Nat) : World where
  settlement := ⟨fun _ => Trade.unset, 0, false, 30⟩
  tokens := fun token => SimpleERC20.deploy (deployer token) (supply token)

end EightInch
