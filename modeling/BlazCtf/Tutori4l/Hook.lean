import Mathlib.Algebra.Order.Ring.Int
import BlazCtf.Lib.Bytes
import BlazCtf.Lib.Checked

set_option autoImplicit false

namespace Tutori4l

open Evm (Address Outcome require)
open Function (update)

/-- One ether, in wei. -/
def ether : Nat := 10 ^ 18

abbrev PoolId := BitVec 256

structure PoolKey where
  currency0 : Address
  currency1 : Address
  fee : Nat
  tickSpacing : Int
  hooks : Address
  deriving DecidableEq

/-- `IPoolManager.SwapParams`; `amountSpecified` is an `int256`. -/
structure SwapParams where
  zeroForOne : Bool
  amountSpecified : BitVec 256
  sqrtPriceLimitX96 : Nat
  deriving DecidableEq

/-- A `beforeSwap` that has found its condition for a reward to hold. -/
structure Swap where
  number : Nat
  key : PoolKey
  params : SwapParams
  deriving DecidableEq

/-- What the hook has done so far, for a reader of the run; it undergoes reverts as the
rest of the world does. -/
inductive Mark where
  /-- `set_reward` has set the flag of a pool. -/
  | rewardSet (pool : PoolId) (value : Nat)
  | began (swap : Swap)
  /-- ETH leaves the hook, in that `beforeSwap` or in a `first_reward` called by itself. -/
  | paid (swap : Option Swap) (value : Nat)
  deriving DecidableEq

/-- The storage of the hook and the ETH of every account. -/
structure World where
  luckyPool : PoolId
  unlock : Bool
  hasReward : PoolId → Bool
  balance : Address → Nat
  log : List Mark

namespace World

variable (world : World)

def mark (mark : Mark) : World := { world with log := mark :: world.log }

def transfer (sender recipient : Address) (value : Nat) : World :=
  let taken := update world.balance sender (world.balance sender - value)
  { world with balance := update taken recipient (taken recipient + value) }

def setLuckyPool (luckyPool : PoolId) : Outcome World := do
  require (world.luckyPool = 0) "lucky_pool_already_set"
  return { world with luckyPool }

end World

/-- A `first_reward` that has decoded its arguments. -/
structure Activation where
  swap : Option Swap
  recipient : Address
  maxReward : Nat

/-- The three transfers of `first_reward`. -/
inductive Point where
  | first
  | second
  | third
  deriving DecidableEq

/-- A call that has not returned, with the world to go back to if it reverts. -/
inductive Frame where
  /-- Code of another account. -/
  | code (saved : World)
  /-- `first_reward` waits for the account that it sends to; for a `beforeSwap` the world
  is the one before the swap. -/
  | sending (activation : Activation) (point : Point) (saved : World)
  /-- `beforeSwap` has returned and the pool manager swaps. -/
  | pool (saved : World)

def Frame.saved : Frame → World
  | .code saved => saved
  | .sending _ _ saved => saved
  | .pool saved => saved

/-- The stack of calls of the current transaction, the innermost first. -/
structure Machine where
  world : World
  origin : Address
  stack : List Frame

def Machine.start (balance : Address → Nat) : Machine :=
  ⟨⟨0, false, fun _ => false, balance, []⟩, 0, []⟩

/-- Where the hook and its pool manager are, and how a pool key is hashed. -/
structure Site where
  hook : Address
  poolManager : Address
  toId : PoolKey → PoolId

/-- `uint256(-params.amountSpecified - 1 ether) / 1000`: the arithmetic on `int256` is
checked, the conversion is not. -/
def maxReward (amountSpecified : BitVec 256) : Outcome Nat :=
  let negated := -amountSpecified.toInt
  let rest := negated - ether
  if 2 ^ 255 ≤ negated then .error (.panic 0x11 "-params.amountSpecified")
  else if rest < -2 ^ 255 then .error (.panic 0x11 "-params.amountSpecified - 1 ether")
  else .ok ((rest % 2 ^ 256).toNat / 1000)

/-- `abi.decode(hookData, (address))` for one word, which reverts on a larger number. -/
def decodeAddress (hookData : List UInt8) : Outcome Address :=
  if fits : Bytes.ofBE hookData < 2 ^ 160 then .ok ⟨Bytes.ofBE hookData, fits⟩
  else .error .bare

/-- `address(uint160(tx.origin) / 11)` -/
def share (origin : Address) : Address := ⟨origin.val / 11, by have := origin.isLt; omega⟩

namespace Site

variable (site : Site)

def setReward (world : World) (msgSender : Address) (msgValue : Nat) : Outcome World :=
  if msgValue ≤ world.balance msgSender then
    let received := world.transfer msgSender site.hook msgValue
    if ether ≤ msgValue then
      .ok ({ received with hasReward := update received.hasReward received.luckyPool true }.mark
        (.rewardSet received.luckyPool msgValue))
    else .ok received
  else .error .bare

/-- The condition of `beforeSwap` for a reward. -/
def Rewarded (world : World) (key : PoolKey) (params : SwapParams) : Prop :=
  world.hasReward (site.toId key) ∧ params.zeroForOne ∧ key.currency0 = 0 ∧
    params.amountSpecified.toInt < -ether

instance instDecidableRewarded (world : World) (key : PoolKey) (params : SwapParams) :
    Decidable (site.Rewarded world key params) :=
  inferInstanceAs (Decidable (_ ∧ _))

/-- `first_reward` returns; in a `beforeSwap` the flag is cleared and the pool manager
goes on. -/
def returns (machine : Machine) (swap : Option Swap) (saved : World) : Machine :=
  match swap with
  | none => machine
  | some swap =>
      { machine with
        world.hasReward := update machine.world.hasReward (site.toId swap.key) false
        stack := .pool saved :: machine.stack }

/-- The recipient gets control; what it returns is not looked at. -/
def send (machine : Machine) (activation : Activation) (point : Point) (saved : World)
    (recipient : Address) (value : Nat) : Machine :=
  { machine with
    world := (machine.world.transfer site.hook recipient value).mark (.paid activation.swap value)
    stack := .code machine.world :: .sending activation point saved :: machine.stack }

/-- At most the whole balance of the hook. -/
def capped (machine : Machine) (activation : Activation) : Nat :=
  min activation.maxReward (machine.world.balance site.hook)

-- the hook takes no plain ETH, so that a transfer to itself fails and the function goes on

def thirdSend (machine : Machine) (activation : Activation) (saved : World) : Machine :=
  if activation.recipient ≠ site.hook then
    site.send machine activation .third saved activation.recipient
      (site.capped machine activation)
  else site.returns machine activation.swap saved

def secondSend (machine : Machine) (activation : Activation) (saved : World) : Machine :=
  if 0 < machine.world.balance activation.recipient ∧ share machine.origin ≠ site.hook then
    site.send machine activation .second saved (share machine.origin)
      (machine.world.balance site.hook)
  else site.thirdSend machine activation saved

def firstSend (machine : Machine) (activation : Activation) (saved : World) : Machine :=
  if machine.origin = activation.recipient ∧ activation.recipient ≠ site.hook then
    site.send machine activation .first saved activation.recipient
      (site.capped machine activation)
  else site.secondSend machine activation saved

/-- `first_reward` goes on after one of its transfers. -/
def resume (machine : Machine) (activation : Activation) (saved : World) : Point → Machine
  | .first => site.secondSend machine activation saved
  | .second => site.thirdSend machine activation saved
  | .third => site.returns machine activation.swap saved

def firstReward (machine : Machine) (swap : Option Swap) (params : SwapParams)
    (hookData : List UInt8) (saved : World) : Outcome Machine := do
  require machine.world.unlock "swap_unlock"
  if hookData.length ≠ 0x20 then
    return site.returns machine swap saved
  else
    let recipient ← decodeAddress hookData
    let maxReward ← maxReward params.amountSpecified
    return site.firstSend machine ⟨swap, recipient, maxReward⟩ saved

def beforeSwap (machine : Machine) (msgSender : Address) (key : PoolKey) (params : SwapParams)
    (hookData : List UInt8) (saved : World) : Outcome Machine := do
  require (msgSender = site.poolManager) "not_pool_manager"
  let opened := { machine with world.unlock := true }
  if site.Rewarded opened.world key params then
    let swap : Swap := ⟨opened.world.log.length, key, params⟩
    site.firstReward { opened with world := opened.world.mark (.began swap) } (some swap) params
      hookData saved
  else
    return { opened with stack := .pool saved :: opened.stack }

def afterSwap (world : World) (msgSender : Address) : Outcome World := do
  require (msgSender = site.poolManager) "not_pool_manager"
  return { world with unlock := false }

end Site

/-- What may happen next: the innermost code acts, or the pool manager ends a swap. -/
inductive Event where
  | transact (origin : Address)
  | call
  | finish (succeeds : Bool)
  /-- The hook runs out of gas after a transfer. -/
  | exhaust
  /-- ETH moves between other accounts, and some is forced upon the hook. -/
  | fund (balance : Address → Nat) (forced : Nat)
  | setLuckyPool (luckyPool : PoolId)
  | setReward (msgSender : Address) (msgValue : Nat)
  | swap (key : PoolKey) (params : SwapParams) (hookData : List UInt8)
  | settle (succeeds : Bool)
  | firstReward (params : SwapParams) (hookData : List UInt8)
  | beforeSwap (msgSender : Address) (key : PoolKey) (params : SwapParams)
      (hookData : List UInt8)
  | afterSwap (msgSender : Address)

namespace Machine

variable (site : Site) (machine : Machine)

/-- A call that reverts leaves its caller as it was. -/
def attempt (result : Outcome Machine) : Machine :=
  match result with
  | .ok next => next
  | .error _ => machine

def attemptWorld (result : Outcome World) : Machine :=
  machine.attempt (result.map fun world => { machine with world })

/-- Code returns, or reverts, to the call below it. -/
def finish (saved : World) (below : List Frame) (succeeds : Bool) : Machine :=
  let world := if succeeds then machine.world else saved
  match below with
  | .sending activation point before :: rest =>
      site.resume { machine with world, stack := rest } activation before point
  | _ => { machine with world, stack := below }

/-- The hook reverts, and with it the swap that it is called in. -/
def exhaust (below : List Frame) : Machine :=
  match below with
  | .sending _ _ before :: rest => { machine with world := before, stack := rest }
  | _ => machine

/-- What the innermost code can do. -/
def act (saved : World) (below : List Frame) : Event → Machine
  | .call => { machine with stack := .code machine.world :: machine.stack }
  | .finish succeeds => machine.finish site saved below succeeds
  | .exhaust => machine.exhaust below
  | .fund balance forced =>
      { machine with
        world.balance := update balance site.hook (machine.world.balance site.hook + forced) }
  | .setLuckyPool luckyPool => machine.attemptWorld (machine.world.setLuckyPool luckyPool)
  | .setReward msgSender msgValue =>
      machine.attemptWorld (site.setReward machine.world msgSender msgValue)
  | .swap key params hookData =>
      machine.attempt
        (site.beforeSwap machine site.poolManager key params hookData machine.world)
  | .firstReward params hookData =>
      machine.attempt (site.firstReward machine none params hookData machine.world)
  -- the pool manager makes these calls in a swap only
  | .beforeSwap msgSender key params hookData =>
      if msgSender = site.poolManager then machine
      else machine.attempt
        (site.beforeSwap machine msgSender key params hookData machine.world)
  | .afterSwap msgSender =>
      if msgSender = site.poolManager then machine
      else machine.attemptWorld (site.afterSwap machine.world msgSender)
  | .transact _ | .settle _ => machine

def step (event : Event) : Machine :=
  match machine.stack with
  | [] =>
      match event with
      | .transact origin => { machine with origin, stack := [.code machine.world] }
      | _ => machine
  | .code saved :: below => machine.act site saved below event
  | .pool saved :: below =>
      match event with
      | .settle true =>
          { machine with stack := below }.attemptWorld
            (site.afterSwap machine.world site.poolManager)
      | .settle false => { machine with world := saved, stack := below }
      | _ => machine
  | .sending _ _ _ :: _ => machine

end Machine

end Tutori4l
