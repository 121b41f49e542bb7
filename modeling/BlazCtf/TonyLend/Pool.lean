import BlazCtf.Lib.Run

set_option autoImplicit false

namespace TonyLend

open Evm
open Function (update)

/-- The two deployed versions of the contract. The second has no `withdraw` and
no `repay`, and its `borrow` asks for a larger health factor. -/
inductive Version where
  | first
  | second
  deriving DecidableEq

def LIQUIDATION_CLOSE_FACTOR : Nat := 100
def PRECISION : Nat := 10 ^ 18
def BAD_DEBT_RATIO : Nat := 110
def MIN_HEALTH_FACTOR : Nat := 105 * 10 ^ 16

def Version.borrowHealthFactor : Version → Nat
  | .first => PRECISION
  | .second => MIN_HEALTH_FACTOR

structure Asset where
  token : Address
  totalDeposited : Nat
  totalBorrowed : Nat
  baseRate : Nat
  deriving DecidableEq

structure UserAccount where
  deposited : Nat → Nat
  borrowed : Nat → Nat
  lastInterestBlock : Nat → Nat

namespace UserAccount

def setDeposited (account : UserAccount) (assetId value : Nat) : UserAccount :=
  { account with deposited := update account.deposited assetId value }

def setBorrowed (account : UserAccount) (assetId value : Nat) : UserAccount :=
  { account with borrowed := update account.borrowed assetId value }

def setLastInterestBlock (account : UserAccount) (assetId value : Nat) : UserAccount :=
  { account with lastInterestBlock := update account.lastInterestBlock assetId value }

end UserAccount

/-- Contract storage, with the owner of `Ownable` and the flag of
`ReentrancyGuard`. -/
structure Pool where
  userAccounts : Address → UserAccount
  assets : Nat → Asset
  assetCount : Nat
  priceOracles : Nat → Address
  owner : Address
  entered : Bool

def Pool.setAccount (pool : Pool) (user : Address) (account : UserAccount) : Pool :=
  { pool with userAccounts := update pool.userAccounts user account }

def Pool.setAsset (pool : Pool) (assetId : Nat) (asset : Asset) : Pool :=
  { pool with assets := update pool.assets assetId asset }

/-- The functions guarded by `onlyOwner`, which the reentrancy flag does not protect. -/
inductive OwnerOp where
  | addAsset (token : Address) (baseRate : Nat)
  | setPriceOracle (assetId : Nat) (priceOracle : Address)
  | transferOwnership (newOwner : Address)
  | renounceOwnership
  deriving DecidableEq

structure OwnerCall where
  msgSender : Address
  op : OwnerOp
  deriving DecidableEq

def addAsset (pool : Pool) (token : Address) (baseRate : Nat) : Outcome Pool := do
  let pool := pool.setAsset pool.assetCount ⟨token, 0, 0, baseRate⟩
  let assetCount ← checkedAdd 256 pool.assetCount 1 "assetCount++"
  pure { pool with assetCount }

def ownerCall (pool : Pool) (made : OwnerCall) : Outcome Pool := do
  require (pool.owner = made.msgSender) "OwnableUnauthorizedAccount"
  match made.op with
  | .addAsset token baseRate => addAsset pool token baseRate
  | .setPriceOracle assetId priceOracle =>
      pure { pool with priceOracles := update pool.priceOracles assetId priceOracle }
  | .transferOwnership newOwner => do
      require (newOwner ≠ 0) "OwnableInvalidOwner"
      pure { pool with owner := newOwner }
  | .renounceOwnership => pure { pool with owner := 0 }

/-- The rest of the chain, as the pool sees it: state `τ`, moved by actions `κ`
of other accounts, price oracles, and tokens. A token answers a call with a new
outside state and its boolean result, and while it runs it can have the owner's
functions called; the pool's other functions reject such reentrant calls. -/
structure Outside (τ κ : Type) where
  act : τ → (msgSender : Address) → κ → Option τ
  price : τ → Address → Nat → Option Nat
  transferFrom : τ → (token msgSender sender recipient : Address) → Nat →
    Option (τ × Bool × List OwnerCall)
  transfer : τ → (token msgSender recipient : Address) → Nat →
    Option (τ × Bool × List OwnerCall)

structure World (τ : Type) where
  pool : Pool
  outside : τ
  blockNumber : Nat

section Contract

variable {τ κ : Type} (env : Outside τ κ) (this : Address)

/-- `token.transferFrom(sender, recipient, value)` called by the pool. -/
def callTransferFrom (w : World τ) (token sender recipient : Address) (value : Nat) :
    Outcome (World τ × Bool) := do
  let (outside, result, nested) ←
    callee (env.transferFrom w.outside token this sender recipient value)
  pure ({ w with outside, pool := run ownerCall w.pool nested }, result)

/-- `token.transfer(recipient, value)` called by the pool. -/
def callTransfer (w : World τ) (token recipient : Address) (value : Nat) :
    Outcome (World τ × Bool) := do
  let (outside, result, nested) ← callee (env.transfer w.outside token this recipient value)
  pure ({ w with outside, pool := run ownerCall w.pool nested }, result)

def getInterestRate (pool : Pool) (assetId : Nat) : Nat := (pool.assets assetId).baseRate

def getAssetPrice (w : World τ) (assetId : Nat) : Outcome Nat :=
  if w.pool.priceOracles assetId = 0 then pure 0
  else callee (env.price w.outside (w.pool.priceOracles assetId) assetId)

def updateInterest (pool : Pool) (blockNumber : Nat) (user : Address) (assetId : Nat) :
    Outcome Pool :=
  let account := pool.userAccounts user
  let asset := pool.assets assetId
  if account.lastInterestBlock assetId = blockNumber then pure pool else do
    let interestRate := getInterestRate pool assetId
    let blocksSinceLastUpdate ← checkedSub blockNumber (account.lastInterestBlock assetId)
      "block.number - account.lastInterestBlock[_assetId]"
    let perBlock ← checkedMul 256 (account.borrowed assetId) interestRate
      "account.borrowed[_assetId] * interestRate"
    let accrued ← checkedMul 256 perBlock blocksSinceLastUpdate
      "account.borrowed[_assetId] * interestRate * blocksSinceLastUpdate"
    -- 365 days / 15 is 2102400 blocks a year
    let interest := accrued / 2102400 / PRECISION
    let borrowed ← checkedAdd 256 (account.borrowed assetId) interest
      "account.borrowed[_assetId] += interest"
    let totalBorrowed ← checkedAdd 256 asset.totalBorrowed interest
      "asset.totalBorrowed += interest"
    let account := (account.setBorrowed assetId borrowed).setLastInterestBlock assetId blockNumber
    pure ((pool.setAccount user account).setAsset assetId { asset with totalBorrowed })

/-- The loop of `calculateHealthFactor` over the first `count` assets. -/
def healthTotals (w : World τ) (account : UserAccount) : Nat → Outcome (Nat × Nat)
  | 0 => pure (0, 0)
  | i + 1 => do
      let (totalCollateralInEth, totalBorrowedInEth) ← healthTotals w account i
      let price ← getAssetPrice env w i
      let collateralInEth ← checkedMul 256 (account.deposited i) price
        "account.deposited[i] * getAssetPrice(i)"
      let price ← getAssetPrice env w i
      let borrowedInEth ← checkedMul 256 (account.borrowed i) price
        "account.borrowed[i] * getAssetPrice(i)"
      let totalCollateralInEth ← checkedAdd 256 totalCollateralInEth collateralInEth
        "totalCollateralInEth += collateralInEth"
      let totalBorrowedInEth ← checkedAdd 256 totalBorrowedInEth borrowedInEth
        "totalBorrowedInEth += borrowedInEth"
      pure (totalCollateralInEth, totalBorrowedInEth)

def calculateHealthFactor (w : World τ) (user : Address) : Outcome Nat := do
  let (totalCollateralInEth, totalBorrowedInEth) ←
    healthTotals env w (w.pool.userAccounts user) w.pool.assetCount
  if totalBorrowedInEth = 0 then pure (2 ^ 256 - 1)
  else do
    let scaled ← checkedMul 256 totalCollateralInEth PRECISION "totalCollateralInEth * PRECISION"
    checkedDiv scaled totalBorrowedInEth "totalCollateralInEth * PRECISION / totalBorrowedInEth"

def nonReentrant (body : World τ → Outcome (World τ)) (w : World τ) : Outcome (World τ) := do
  require (w.pool.entered = false) "ReentrancyGuardReentrantCall"
  let w ← body { w with pool := { w.pool with entered := true } }
  pure { w with pool := { w.pool with entered := false } }

variable (msgSender : Address)

def deposit (assetId amount : Nat) : World τ → Outcome (World τ) := nonReentrant fun w => do
  require (assetId < w.pool.assetCount) "Invalid asset"
  require (amount > 0) "Amount must be greater than 0"
  let (w, paid) ← callTransferFrom env this w (w.pool.assets assetId).token msgSender this amount
  require (paid = true) "Transfer failed"
  let pool ← updateInterest w.pool w.blockNumber msgSender assetId
  let account := pool.userAccounts msgSender
  let deposited ← checkedAdd 256 (account.deposited assetId) amount
    "userAccounts[msg.sender].deposited[_assetId] += _amount"
  let pool := pool.setAccount msgSender (account.setDeposited assetId deposited)
  let asset := pool.assets assetId
  let totalDeposited ← checkedAdd 256 asset.totalDeposited amount "asset.totalDeposited += _amount"
  pure { w with pool := pool.setAsset assetId { asset with totalDeposited } }

def withdraw (assetId amount : Nat) : World τ → Outcome (World τ) := nonReentrant fun w => do
  require (assetId < w.pool.assetCount) "Invalid asset"
  require (amount > 0) "Amount must be greater than 0"
  let pool ← updateInterest w.pool w.blockNumber msgSender assetId
  let account := pool.userAccounts msgSender
  require (account.deposited assetId ≥ amount) "Insufficient balance"
  -- The check comes before the deposit is reduced.
  let healthFactor ← calculateHealthFactor env { w with pool } msgSender
  require (healthFactor ≥ PRECISION) "Withdrawal would result in undercollateralization"
  let deposited ← checkedSub (account.deposited assetId) amount
    "account.deposited[_assetId] -= _amount"
  let pool := pool.setAccount msgSender (account.setDeposited assetId deposited)
  let asset := pool.assets assetId
  let totalDeposited ← checkedSub asset.totalDeposited amount "asset.totalDeposited -= _amount"
  let pool := pool.setAsset assetId { asset with totalDeposited }
  let (w, paid) ← callTransfer env this { w with pool } asset.token msgSender amount
  require (paid = true) "Transfer failed"
  pure w

/-- `borrow`, whose two versions differ in the health factor they ask for. -/
def borrow (version : Version) (assetId amount : Nat) : World τ → Outcome (World τ) :=
  nonReentrant fun w => do
  require (assetId < w.pool.assetCount) "Invalid asset"
  require (amount > 0) "Amount must be greater than 0"
  let pool ← updateInterest w.pool w.blockNumber msgSender assetId
  let account := pool.userAccounts msgSender
  let newBorrowAmount ← checkedAdd 256 (account.borrowed assetId) amount
    "account.borrowed[_assetId] + _amount"
  let pool := pool.setAccount msgSender (account.setBorrowed assetId newBorrowAmount)
  let asset := pool.assets assetId
  let totalBorrowed ← checkedAdd 256 asset.totalBorrowed amount "asset.totalBorrowed += _amount"
  let pool := pool.setAsset assetId { asset with totalBorrowed }
  let healthFactor ← calculateHealthFactor env { w with pool } msgSender
  require (healthFactor ≥ version.borrowHealthFactor)
    "Borrow would result in undercollateralization"
  let (w, paid) ← callTransfer env this { w with pool } asset.token msgSender amount
  require (paid = true) "Transfer failed"
  pure w

def repay (assetId amount : Nat) : World τ → Outcome (World τ) := nonReentrant fun w => do
  require (assetId < w.pool.assetCount) "Invalid asset"
  require (amount > 0) "Amount must be greater than 0"
  let pool ← updateInterest w.pool w.blockNumber msgSender assetId
  let borrowedAmount := (pool.userAccounts msgSender).borrowed assetId
  let repayAmount := min amount borrowedAmount
  let (w, paid) ← callTransferFrom env this { w with pool } (pool.assets assetId).token msgSender
    this repayAmount
  require (paid = true) "Transfer failed"
  let account := w.pool.userAccounts msgSender
  let borrowed ← checkedSub (account.borrowed assetId) repayAmount
    "account.borrowed[_assetId] -= repayAmount"
  let pool := w.pool.setAccount msgSender (account.setBorrowed assetId borrowed)
  let asset := pool.assets assetId
  let totalBorrowed ← checkedSub asset.totalBorrowed repayAmount
    "asset.totalBorrowed -= repayAmount"
  pure { w with pool := pool.setAsset assetId { asset with totalBorrowed } }

/-- The amounts `liquidate` computes before it moves anything. -/
structure Quote where
  actualLiquidation : Nat
  realCollateralAmount : Nat
  collateralAmount : Nat
  toLiquidate : Nat
  deriving DecidableEq

def liquidationQuote (w : World τ) (borrower : Address) (assetId amount collateralAssetId : Nat) :
    Outcome Quote := do
  let account := w.pool.userAccounts borrower
  let closable ← checkedMul 256 (account.borrowed assetId) LIQUIDATION_CLOSE_FACTOR
    "borrowerAccount.borrowed[_assetId] * LIQUIDATION_CLOSE_FACTOR"
  let maxLiquidatable := closable / 100
  let actualLiquidation := min amount maxLiquidatable
  let debtPrice ← getAssetPrice env w assetId
  let debtValue ← checkedMul 256 actualLiquidation debtPrice
    "actualLiquidation * getAssetPrice(_assetId)"
  let collateralPrice ← getAssetPrice env w collateralAssetId
  let realCollateralAmount ← checkedDiv debtValue collateralPrice
    "actualLiquidation * getAssetPrice(_assetId) / getAssetPrice(_collateralAssetId)"
  let collateralAmount := min realCollateralAmount (account.deposited collateralAssetId)
  let collateralPrice ← getAssetPrice env w collateralAssetId
  let collateralValue ← checkedMul 256 collateralAmount collateralPrice
    "collateralAmount * getAssetPrice(_collateralAssetId)"
  let debtPrice ← getAssetPrice env w assetId
  let covered ← checkedDiv collateralValue debtPrice
    "collateralAmount * getAssetPrice(_collateralAssetId) / getAssetPrice(_assetId)"
  if realCollateralAmount > account.deposited collateralAssetId then do
    let raised ← checkedMul 256 covered BAD_DEBT_RATIO "toLiquidate * BAD_DEBT_RATIO"
    pure ⟨actualLiquidation, realCollateralAmount, collateralAmount, raised / 100⟩
  else pure ⟨actualLiquidation, realCollateralAmount, collateralAmount, covered⟩

def liquidate (borrower : Address) (assetId amount collateralAssetId : Nat) :
    World τ → Outcome (World τ) := nonReentrant fun w => do
  require (assetId < w.pool.assetCount ∧ collateralAssetId < w.pool.assetCount) "Invalid asset"
  require (amount > 0) "Amount must be greater than 0"
  require (borrower ≠ msgSender) "Cannot liquidate own position"
  require (assetId ≠ collateralAssetId) "Cannot liquidate same asset"
  let pool ← updateInterest w.pool w.blockNumber borrower assetId
  let pool ← updateInterest pool w.blockNumber borrower collateralAssetId
  let w := { w with pool }
  let healthFactor ← calculateHealthFactor env w borrower
  require (healthFactor < PRECISION) "Account not liquidatable"
  let quote ← liquidationQuote env w borrower assetId amount collateralAssetId
  let (w, paid) ← callTransferFrom env this w (w.pool.assets assetId).token msgSender this
    quote.toLiquidate
  require (paid = true) "Transfer failed"
  let (w, paid) ← callTransfer env this w (w.pool.assets collateralAssetId).token msgSender
    quote.collateralAmount
  require (paid = true) "Transfer failed"
  let account := w.pool.userAccounts borrower
  let borrowed ← checkedSub (account.borrowed assetId) quote.actualLiquidation
    "borrowerAccount.borrowed[_assetId] -= actualLiquidation"
  let account := account.setBorrowed assetId borrowed
  let deposited ← checkedSub (account.deposited collateralAssetId) quote.collateralAmount
    "borrowerAccount.deposited[_collateralAssetId] -= collateralAmount"
  let account := account.setDeposited collateralAssetId deposited
  let pool := w.pool.setAccount borrower account
  let asset := pool.assets assetId
  let totalBorrowed ← checkedSub asset.totalBorrowed quote.actualLiquidation
    "borrowedAsset.totalBorrowed -= actualLiquidation"
  let pool := pool.setAsset assetId { asset with totalBorrowed }
  let collateral := pool.assets collateralAssetId
  let totalDeposited ← checkedSub collateral.totalDeposited quote.collateralAmount
    "collateralAsset.totalDeposited -= collateralAmount"
  pure { w with pool := pool.setAsset collateralAssetId { collateral with totalDeposited } }

end Contract

/-- The entry points of the pool, the passing of blocks, and what happens outside. -/
inductive Op (κ : Type) where
  | owner (op : OwnerOp)
  | deposit (assetId amount : Nat)
  | withdraw (assetId amount : Nat)
  | borrow (assetId amount : Nat)
  | repay (assetId amount : Nat)
  | liquidate (borrower : Address) (assetId amount collateralAssetId : Nat)
  | mine (blocks : Nat)
  | outside (action : κ)

/-- A call by an account other than the pool, which calls only tokens and oracles. -/
structure Call (κ : Type) (this : Address) where
  msgSender : Address
  op : Op κ
  external : msgSender ≠ this

def call {τ κ : Type} {this : Address} (version : Version) (env : Outside τ κ) (w : World τ)
    (made : Call κ this) : Outcome (World τ) :=
  match made.op with
  | .owner op => do
      let pool ← ownerCall w.pool ⟨made.msgSender, op⟩
      pure { w with pool }
  | .deposit assetId amount => deposit env this made.msgSender assetId amount w
  | .withdraw assetId amount =>
      match version with
      | .first => withdraw env this made.msgSender assetId amount w
      | .second => .error .bare
  | .borrow assetId amount => borrow env this made.msgSender version assetId amount w
  | .repay assetId amount =>
      match version with
      | .first => repay env this made.msgSender assetId amount w
      | .second => .error .bare
  | .liquidate borrower assetId amount collateralAssetId =>
      liquidate env this made.msgSender borrower assetId amount collateralAssetId w
  | .mine blocks => pure { w with blockNumber := w.blockNumber + blocks }
  | .outside action => do
      let outside ← callee (env.act w.outside made.msgSender action)
      pure { w with outside }

/-- Storage after the constructor. -/
def Pool.deploy (owner : Address) : Pool where
  userAccounts := fun _ => ⟨fun _ => 0, fun _ => 0, fun _ => 0⟩
  assets := fun _ => ⟨0, 0, 0, 0⟩
  assetCount := 0
  priceOracles := fun _ => 0
  owner := owner
  entered := false

def deployWorld {τ : Type} (owner : Address) (outside : τ) (blockNumber : Nat) : World τ :=
  ⟨Pool.deploy owner, outside, blockNumber⟩

end TonyLend
