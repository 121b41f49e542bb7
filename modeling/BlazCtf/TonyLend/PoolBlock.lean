import BlazCtf.TonyLend.PoolLiquidation
import BlazCtf.TonyLend.PoolNet

set_option autoImplicit false

namespace TonyLend

open Evm Portfolio

/-- The interest that is still to be accrued on an asset once `borrowed` is current. -/
def World.staleInterest {τ : Type} (w : World τ) (user : Address) (borrowed assetId : Nat) : Nat :=
  if assetId = borrowed then 0 else w.pool.accrued w.blockNumber user assetId

/-- The debt that `borrow` checks: with the new loan and the interest on its asset. -/
def World.checkedDebt {τ : Type} (w : World τ) (prices : Nat → Nat) (user : Address)
    (assetId amount : Nat) : Nat :=
  w.pool.debt prices user + w.pool.accrued w.blockNumber user assetId * prices assetId +
    amount * prices assetId

/-- The deposits cover the debt that `borrow` checks, and with it the interest that a
liquidation can add in the same block, on any two listed assets. -/
def CoversStaleInterest {τ : Type} (w : World τ) (prices : Nat → Nat) (user : Address)
    (assetId amount : Nat) : Prop :=
  ∀ first < w.pool.assetCount, ∀ second < w.pool.assetCount, first ≠ second →
    w.checkedDebt prices user assetId amount + w.staleInterest user assetId first * prices first +
      w.staleInterest user assetId second * prices second ≤ w.pool.collateral prices user

/-- Whatever price the pool can read of a listed asset is the given one. -/
def PricesFixed {τ κ : Type} (env : Outside τ κ) (w : World τ) (prices : Nat → Nat) : Prop :=
  ∀ assetId < w.pool.assetCount, ∀ price,
    getAssetPrice env w assetId = .ok price → price = prices assetId

section Block

variable {τ κ : Type} {env : Outside τ κ} {this : Address} {w after : World τ}
  {prices : Nat → Nat} {user : Address} {assetId amount : Nat}

/-- A health factor that can be computed has read every price. -/
theorem PricesFixed.pricedAt {health : Nat} (fixed : PricesFixed env w prices)
    (computed : calculateHealthFactor env w user = .ok health) : PricedAt env w prices := by
  simp only [calculateHealthFactor, bind_ok_iff] at computed
  obtain ⟨totals, summed, _⟩ := computed
  intro id below
  obtain ⟨price, read⟩ := healthTotals_reads summed id below
  rw [read, fixed id below price read]

theorem afterInterest_debt (w : World τ) (prices : Nat → Nat) (user : Address) {first second : Nat}
    (listed : first < w.pool.assetCount) (listed' : second < w.pool.assetCount)
    (distinct : first ≠ second) :
    (w.afterInterest user first second).pool.debt prices user =
      w.pool.debt prices user + w.pool.accrued w.blockNumber user first * prices first +
        w.pool.accrued w.blockNumber user second * prices second := by
  have inner : ((w.pool.setEntered true).accrue w.blockNumber user first).debt prices user =
      w.pool.debt prices user + w.pool.accrued w.blockNumber user first * prices first :=
    Pool.debt_accrue (w.pool.setEntered true) prices user listed
  have same : ((w.pool.setEntered true).accrue w.blockNumber user first).accrued w.blockNumber
      user second = w.pool.accrued w.blockNumber user second :=
    Pool.accrued_accrue (w.pool.setEntered true) distinct.symm w.blockNumber user
  rw [← inner, ← same]
  exact Pool.debt_accrue ((w.pool.setEntered true).accrue w.blockNumber user first) prices user
    listed'

/-- What a user owes stays covered when interest accrues at a block on any two assets. -/
structure Safe (user : Address) (blockNumber : Nat) (prices : Nat → Nat) (pool : Pool) : Prop where
  books : Books pool
  covered : ∀ first second, first ≠ second →
    pool.debt prices user + pool.accrued blockNumber user first * prices first +
      pool.accrued blockNumber user second * prices second ≤ pool.collateral prices user

/-- Interest accrues alike on the account of a user who is left alone, and none does on
assets that were not listed before. -/
theorem LeavesAlone.accrued {pool later : Pool} (alone : LeavesAlone user pool later)
    (books : Books pool) (blockNumber id : Nat) :
    later.accrued blockNumber user id = pool.accrued blockNumber user id := by
  unfold Pool.accrued
  rw [alone.account]
  by_cases listed : id < pool.assetCount
  · rw [alone.rates id listed]
  · rw [(books.unlisted user id (by omega)).2]
    simp only [Nat.zero_mul, Nat.zero_div]

theorem Safe.of_alone {pool later : Pool} {blockNumber : Nat}
    (safe : Safe user blockNumber prices pool) (alone : LeavesAlone user pool later)
    (books : Books later) : Safe user blockNumber prices later := by
  refine ⟨books, ?_⟩
  intro first second distinct
  rw [alone.accrued safe.books, alone.accrued safe.books,
    Pool.debt_of_account prices user safe.books alone.account alone.listed,
    Pool.collateral_of_account prices user safe.books alone.account alone.listed]
  exact safe.covered first second distinct

/-- Nobody can liquidate a safe user. -/
theorem Safe.not_liquidated (safe : Safe user w.blockNumber prices w.pool)
    (fixed : PricesFixed env w prices) {liquidator : Address}
    {debtAsset closed collateralAsset : Nat} :
    liquidate env this liquidator user debtAsset closed collateralAsset w ≠ .ok after := by
  intro success
  obtain ⟨quote, collected, paid, step⟩ := liquidate_ok success
  obtain ⟨health, computed, unhealthy⟩ := step.unhealthy
  have priced : PricedAt env (w.afterInterest user debtAsset collateralAsset) prices :=
    PricesFixed.pricedAt (w := w.afterInterest user debtAsset collateralAsset) fixed computed
  obtain ⟨_, rfl⟩ := (calculateHealthFactor_ok_iff priced).mp computed
  have owed := afterInterest_debt w prices user step.listed.1 step.listed.2 step.distinct
  have held : (w.afterInterest user debtAsset collateralAsset).pool.collateral prices user =
      w.pool.collateral prices user := by
    simp only [World.afterInterest, Pool.collateral_accrue, Pool.collateral_setEntered]
  have healthy : PRECISION ≤ healthFactor
      ((w.afterInterest user debtAsset collateralAsset).pool.collateral prices user)
      ((w.afterInterest user debtAsset collateralAsset).pool.debt prices user) := by
    rw [precision_le_healthFactor_iff, owed, held]
    exact safe.covered debtAsset collateralAsset step.distinct
  omega

/-- Once a loan is booked, its asset is current and the others are as stale as before. -/
theorem accrued_after_loan (w : World τ) (user : Address) (assetId amount id : Nat) :
    (((w.pool.setEntered true).accrue w.blockNumber user assetId).creditLoan user assetId
      amount).accrued w.blockNumber user id = w.staleInterest user assetId id := by
  unfold World.staleInterest
  split
  · rename_i same
    subst same
    simp only [Pool.accrued, Pool.accrue, Pool.creditLoan, Pool.stamp, Pool.setAccount,
      Pool.setAsset, UserAccount.setBorrowed, UserAccount.setLastInterestBlock,
      Function.update_self, Nat.sub_self, Nat.mul_zero, Nat.zero_div]
  · rename_i distinct
    simp only [Pool.accrued, Pool.accrue, Pool.creditLoan, Pool.stamp, Pool.setAccount,
      Pool.setAsset, Pool.setEntered, UserAccount.setBorrowed, UserAccount.setLastInterestBlock,
      Function.update_self, Function.update_of_ne distinct]

/-- Interest that no debt bears is nothing. -/
theorem staleInterest_unlisted (books : Books w.pool) (user : Address) (assetId : Nat) {id : Nat}
    (unlisted : ¬ id < w.pool.assetCount) : w.staleInterest user assetId id = 0 := by
  unfold World.staleInterest Pool.accrued
  rw [(books.unlisted user id (by omega)).2]
  simp only [Nat.zero_mul, Nat.zero_div, ite_self]

/-- Assets that are listed later bear no interest yet, so the condition on the listed
assets is one on all of them. -/
theorem CoversStaleInterest.any_two (books : Books w.pool) (listed : assetId < w.pool.assetCount)
    (covers : CoversStaleInterest w prices user assetId amount)
    (enough : w.checkedDebt prices user assetId amount ≤ w.pool.collateral prices user)
    {first second : Nat} (distinct : first ≠ second) :
    w.checkedDebt prices user assetId amount + w.staleInterest user assetId first * prices first +
      w.staleInterest user assetId second * prices second ≤ w.pool.collateral prices user := by
  have current : w.staleInterest user assetId assetId = 0 := if_pos rfl
  -- One asset alone: it is the borrowed one, or the condition pairs it with that.
  have single : ∀ id, w.checkedDebt prices user assetId amount +
      w.staleInterest user assetId id * prices id ≤ w.pool.collateral prices user := by
    intro id
    by_cases same : id = assetId
    · rw [same, current]
      omega
    · by_cases inside : id < w.pool.assetCount
      · exact (Nat.le_add_right _ _).trans (covers id inside assetId listed same)
      · rw [staleInterest_unlisted books user assetId inside]
        omega
  by_cases inside : first < w.pool.assetCount
  · by_cases inside' : second < w.pool.assetCount
    · exact covers first inside second inside' distinct
    · rw [staleInterest_unlisted books user assetId inside', Nat.zero_mul]
      exact single first
  · rw [staleInterest_unlisted books user assetId inside, Nat.zero_mul]
    exact single second

/-- A loan whose collateral covers the stale interest leaves its borrower safe. -/
theorem borrow_safe {version : Version} (books : Books w.pool)
    (fixed : PricesFixed env w prices) (covers : CoversStaleInterest w prices user assetId amount)
    (success : borrow env this user version assetId amount w = .ok after) :
    Safe user w.blockNumber prices after.pool ∧ after.blockNumber = w.blockNumber := by
  obtain ⟨paid, step⟩ := borrow_ok success
  have booked := ((books.setEntered true).accrue w.blockNumber user step.listed).creditLoan user
    step.listed amount
  have owed : (((w.pool.setEntered true).accrue w.blockNumber user assetId).creditLoan user assetId
      amount).debt prices user = w.checkedDebt prices user assetId amount := by
    have loan := Pool.debt_creditLoan ((w.pool.setEntered true).accrue w.blockNumber user assetId)
      prices user step.listed amount
    rw [loan]
    exact congrArg (· + amount * prices assetId)
      (Pool.debt_accrue (w.pool.setEntered true) prices user step.listed)
  have held : (((w.pool.setEntered true).accrue w.blockNumber user assetId).creditLoan user assetId
      amount).collateral prices user = w.pool.collateral prices user := by
    simp only [Pool.collateral_creditLoan, Pool.collateral_accrue, Pool.collateral_setEntered]
  have enough : w.checkedDebt prices user assetId amount ≤ w.pool.collateral prices user := by
    obtain ⟨health, computed, healthy⟩ := step.healthy
    have priced : PricedAt env { w with
        pool := ((w.pool.setEntered true).accrue w.blockNumber user assetId).creditLoan user
          assetId amount } prices :=
      PricesFixed.pricedAt (fun id below => fixed id below) computed
    have asked := version.precision_le_borrowHealthFactor
    have checked := (collateralised_iff priced).mp ⟨health, computed, asked.trans healthy⟩
    rw [← owed, ← held]
    exact checked.2
  have safe : Safe user w.blockNumber prices (((w.pool.setEntered true).accrue w.blockNumber user
      assetId).creditLoan user assetId amount) := by
    refine ⟨booked, ?_⟩
    intro first second distinct
    rw [accrued_after_loan, accrued_after_loan, owed, held]
    exact covers.any_two books step.listed enough distinct
  have extended := callTransfer_extends step.sent
  have alone := (LeavesAlone.of_extends user extended).trans (.setEntered user paid.pool false)
  have sameBlock : paid.blockNumber = w.blockNumber := by
    obtain ⟨_, _, _, rfl⟩ := callTransfer_ok step.sent
    rfl
  rw [step.booked]
  exact ⟨safe.of_alone alone ((booked.of_extends extended).setEntered false), sameBlock⟩

/-- Only the passing of blocks changes the block. -/
theorem call_block {version : Version} {made : Call κ this}
    (success : call version env w made = .ok after) (notMined : ∀ blocks, made.op ≠ .mine blocks) :
    after.blockNumber = w.blockNumber := by
  obtain ⟨msgSender, op, external⟩ := made
  cases op with
  | owner op =>
      simp only [call, bind_ok_iff, pure_ok_iff] at success
      obtain ⟨_, _, rfl⟩ := success
      rfl
  | deposit assetId amount =>
      obtain ⟨paid, step⟩ := deposit_ok success
      obtain ⟨_, _, _, moved⟩ := callTransferFrom_ok step.collected
      rw [step.booked, moved]
  | withdraw assetId amount =>
      cases version with
      | second => cases success
      | first =>
          obtain ⟨paid, step⟩ := withdraw_ok success
          obtain ⟨_, _, _, moved⟩ := callTransfer_ok step.sent
          rw [step.booked, moved]
  | borrow assetId amount =>
      obtain ⟨paid, step⟩ := borrow_ok success
      obtain ⟨_, _, _, moved⟩ := callTransfer_ok step.sent
      rw [step.booked, moved]
  | repay assetId amount =>
      cases version with
      | second => cases success
      | first =>
          obtain ⟨paid, step⟩ := repay_ok success
          obtain ⟨_, _, _, moved⟩ := callTransferFrom_ok step.collected
          rw [step.booked, moved]
  | liquidate borrower assetId amount collateralAssetId =>
      obtain ⟨quote, collected, paid, step⟩ := liquidate_ok success
      obtain ⟨_, _, _, received⟩ := callTransferFrom_ok step.received
      obtain ⟨_, _, _, moved⟩ := callTransfer_ok step.sent
      rw [step.booked, moved, received]
      rfl
  | mine blocks => exact absurd rfl (notMined blocks)
  | outside action =>
      simp only [call, bind_ok_iff, pure_ok_iff] at success
      obtain ⟨_, _, rfl⟩ := success
      rfl

end Block

/-- In every reachable state of either version, once a `borrow` has succeeded whose
collateral covers the stale interest too, nobody can liquidate the borrower in the same
block at the same prices, whatever anybody else does in between. -/
theorem not_liquidated_within_block {τ κ : Type} {this : Address} (version : Version)
    (env : Outside τ κ) (owner : Address) (outside : τ) (blockNumber : Nat)
    (calls rest : List (Call κ this)) (user : Address) (external : user ≠ this)
    (assetId amount : Nat) (prices : Nat → Nat) (after : World τ) :
    let w := run (call version env) (deployWorld owner outside blockNumber) calls
    let later := run (call version env) after rest
    call version env w ⟨user, .borrow assetId amount, external⟩ = .ok after →
    PricesFixed env w prices → CoversStaleInterest w prices user assetId amount →
    Meets (fun state made => made.msgSender ≠ user ∧ (∀ blocks, made.op ≠ .mine blocks) ∧
      PricesFixed env state prices) (call version env) after rest →
    PricesFixed env later prices →
    ∀ (liquidator : Address) (other : liquidator ≠ this) (debtAsset closed collateralAsset : Nat)
      (final : World τ), call version env later
        ⟨liquidator, .liquidate user debtAsset closed collateralAsset, other⟩ ≠ .ok final := by
  intro w later success fixed covers meets fixedLater liquidator other debtAsset closed
    collateralAsset final
  have books : Books w.pool := run_books version env owner outside blockNumber calls
  obtain ⟨safe, sameBlock⟩ := borrow_safe books fixed covers success
  have kept := run_invariant_of_meets
    (fun state : World τ => state.blockNumber = w.blockNumber ∧
      Safe user w.blockNumber prices state.pool)
    (fun state made next holds met returned => ?_) rest after ⟨sameBlock, safe⟩ meets
  · obtain ⟨laterBlock, laterSafe⟩ := kept
    rw [← laterBlock] at laterSafe
    exact laterSafe.not_liquidated fixedLater
  · obtain ⟨block, holds⟩ := holds
    obtain ⟨notUser, notMined, fixedHere⟩ := met
    rw [← block] at holds ⊢
    have spared : ∀ assetId amount collateralAssetId,
        made.op ≠ .liquidate user assetId amount collateralAssetId := by
      intro assetId amount collateralAssetId liquidation
      simp only [call, liquidation] at returned
      exact holds.not_liquidated fixedHere returned
    have alone := call_leavesAlone returned notUser.symm spared
    exact ⟨call_block returned notMined, holds.of_alone alone (call_books holds.books returned)⟩

/-- Account 2 owes 50 of the second asset at 100 % a year, and `blocks` blocks pass. -/
def agedMarket (blocks : Nat) : List (Call Action 7) :=
  openMarket (10 ^ 18) ++
    [⟨2, .borrow 1 50, borrower_external⟩,
     ⟨1, .outside (.approve 6 7 500), lender_external⟩,
     ⟨1, .mine blocks, lender_external⟩]

def borrowForty : Call Action 7 := ⟨2, .borrow 0 40, borrower_external⟩

/-- After 1261440 blocks, 30 of interest are due on the second asset. Borrowing 40 of the
first passes the check against 90 of debt, and the liquidation in the same block sees 120. -/
theorem liquidated_within_block :
    let w := run (call .second standard) (openChain 1) (agedMarket 1261440)
    let after := commit (call .second standard) w borrowForty
    call .second standard w borrowForty = .ok after ∧
      PricedAt standard w (fun _ => 1) ∧ PricedAt standard after (fun _ => 1) ∧
      (call .second standard after (liquidateFor 10 0)).toBool = true := by
  intro w after
  exact ⟨ok_commit (by decide +kernel), by decide +kernel, by decide +kernel, by decide +kernel⟩

theorem PricedAt.fixed {τ κ : Type} {env : Outside τ κ} {w : World τ} {prices : Nat → Nat}
    (priced : PricedAt env w prices) : PricesFixed env w prices := by
  intro assetId below price read
  rw [priced assetId below, Except.ok.injEq] at read
  exact read.symm

def lendFive : Call Action 7 := ⟨1, .deposit 1 5, lender_external⟩

theorem not_liquidated_after_ten_blocks :
    let w := run (call .second standard) (openChain 1) (agedMarket 10)
    let after := commit (call .second standard) w borrowForty
    let later := run (call .second standard) after [lendFive]
    ∀ final, call .second standard later (liquidateFor 10 0) ≠ .ok final := by
  intro w after later final
  have priced : PricedAt standard w fun _ => 1 := by decide +kernel
  have pricedAfter : PricedAt standard after fun _ => 1 := by decide +kernel
  have pricedLater : PricedAt standard later fun _ => 1 := by decide +kernel
  have covers : CoversStaleInterest w (fun _ => 1) 2 0 40 := by
    have decided : ∀ first < w.pool.assetCount, ∀ second < w.pool.assetCount, first ≠ second →
        w.checkedDebt (fun _ => 1) 2 0 40 + w.staleInterest 2 0 first * 1 +
          w.staleInterest 2 0 second * 1 ≤ w.pool.collateral (fun _ => 1) 2 := by decide +kernel
    exact decided
  have bystander : lendFive.msgSender ≠ 2 ∧ (∀ blocks, lendFive.op ≠ .mine blocks) ∧
      PricesFixed standard after fun _ => 1 :=
    ⟨by decide, fun _ => nofun, pricedAfter.fixed⟩
  exact not_liquidated_within_block .second standard 1 _ 3 (agedMarket 10) [lendFive] 2 (by decide)
    0 40 (fun _ => 1) after (ok_commit (by decide +kernel)) priced.fixed covers
    ⟨bystander, trivial⟩ pricedLater.fixed 1 (by decide) 1 10 0 final

end TonyLend
