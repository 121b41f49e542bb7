import BlazCtf.TonyLend.PoolCash
import Mathlib.Data.Int.Cast.Basic
import Mathlib.Tactic.Ring

set_option autoImplicit false

namespace TonyLend

open Evm
open Function (update)

/-- What an asset adds to the pool's claims in `token`: loans minus deposits. -/
def Asset.position (token : Address) (asset : Asset) : Int :=
  if asset.token = token then (asset.totalBorrowed : Int) - asset.totalDeposited else 0

def Pool.position (pool : Pool) (token : Address) : Int :=
  ∑ assetId ∈ Finset.range pool.assetCount, (pool.assets assetId).position token

/-- Cash and loans minus deposits of all assets kept in `token`. -/
def net (this : Address) (w : World Chain) (token : Address) : Int :=
  w.outside.cash this token + w.pool.position token

/-- The interest one `updateInterest` adds to the loans in `token`. -/
def interestIn (w : World Chain) (user : Address) (assetId : Nat) (token : Address) : Int :=
  if (w.pool.assets assetId).token = token then
    (w.pool.accrued w.blockNumber user assetId : Int)
  else 0

namespace Pool

variable (pool : Pool) {assetId : Nat}

theorem position_setAsset (listed : assetId < pool.assetCount) (asset : Asset) (token : Address) :
    (pool.setAsset assetId asset).position token + (pool.assets assetId).position token =
      pool.position token + asset.position token :=
  Ledger.sum_update_add (Finset.range pool.assetCount) (Asset.position token) pool.assets
    (Finset.mem_range.mpr listed) asset

/-- Rebooking a listed asset moves the position of its token by the change of
loans minus deposits. -/
theorem position_rebook (listed : assetId < pool.assetCount) (asset : Asset)
    (same : asset.token = (pool.assets assetId).token) {change : Int}
    (moved : (asset.totalBorrowed : Int) - asset.totalDeposited =
      (pool.assets assetId).totalBorrowed - (pool.assets assetId).totalDeposited + change)
    (token : Address) :
    (pool.setAsset assetId asset).position token =
      pool.position token + if (pool.assets assetId).token = token then change else 0 := by
  have sums := position_setAsset pool listed asset token
  simp only [Asset.position, same] at sums
  split_ifs at sums ⊢ <;> omega

theorem position_creditLoan (listed : assetId < pool.assetCount) (user : Address) (value : Nat)
    (token : Address) :
    (pool.creditLoan user assetId value).position token =
      pool.position token + if (pool.assets assetId).token = token then (value : Int) else 0 :=
  position_rebook pool listed { pool.assets assetId with
    totalBorrowed := (pool.assets assetId).totalBorrowed + value } rfl (by dsimp only; omega) token

theorem position_debitLoan (listed : assetId < pool.assetCount) (user : Address) {value : Nat}
    (enough : value ≤ (pool.assets assetId).totalBorrowed) (token : Address) :
    (pool.debitLoan user assetId value).position token =
      pool.position token + if (pool.assets assetId).token = token then -(value : Int) else 0 :=
  position_rebook pool listed { pool.assets assetId with
    totalBorrowed := (pool.assets assetId).totalBorrowed - value } rfl (by dsimp only; omega) token

theorem position_creditDeposit (listed : assetId < pool.assetCount) (user : Address) (value : Nat)
    (token : Address) :
    (pool.creditDeposit user assetId value).position token =
      pool.position token + if (pool.assets assetId).token = token then -(value : Int) else 0 :=
  position_rebook pool listed { pool.assets assetId with
    totalDeposited := (pool.assets assetId).totalDeposited + value } rfl
    (by dsimp only; omega) token

theorem position_debitDeposit (listed : assetId < pool.assetCount) (user : Address) {value : Nat}
    (enough : value ≤ (pool.assets assetId).totalDeposited) (token : Address) :
    (pool.debitDeposit user assetId value).position token =
      pool.position token + if (pool.assets assetId).token = token then (value : Int) else 0 :=
  position_rebook pool listed { pool.assets assetId with
    totalDeposited := (pool.assets assetId).totalDeposited - value } rfl
    (by dsimp only; omega) token

theorem position_accrue (listed : assetId < pool.assetCount) (blockNumber : Nat) (user : Address)
    (token : Address) :
    (pool.accrue blockNumber user assetId).position token = pool.position token +
      if (pool.assets assetId).token = token then (pool.accrued blockNumber user assetId : Int)
      else 0 :=
  position_creditLoan pool listed user (pool.accrued blockNumber user assetId) token

/-- Accruing one asset changes neither the token nor the debt of another. -/
theorem accrue_token (blockNumber : Nat) (user : Address) (other : Nat) :
    ((pool.accrue blockNumber user assetId).assets other).token = (pool.assets other).token := by
  by_cases same : other = assetId
  · subst same
    simp [accrue, creditLoan, stamp, setAccount, setAsset]
  · simp [accrue, creditLoan, stamp, setAccount, setAsset, Function.update_of_ne same]

theorem accrued_accrue {other : Nat} (distinct : other ≠ assetId) (blockNumber : Nat)
    (user : Address) :
    (pool.accrue blockNumber user assetId).accrued blockNumber user other =
      pool.accrued blockNumber user other := by
  simp only [accrued, accrue, creditLoan, stamp, setAccount, setAsset, UserAccount.setBorrowed,
    UserAccount.setLastInterestBlock, Function.update_self, Function.update_of_ne distinct]

end Pool

/-- How a successful call changes the pool's claims in `token`. -/
def NetChange {this : Address} (w : World Chain) (made : Call Action this) (after : World Chain)
    (token : Address) : Prop :=
  match made.op with
  | .deposit assetId _ | .withdraw assetId _ | .borrow assetId _ | .repay assetId _ =>
      net this after token = net this w token + interestIn w made.msgSender assetId token
  | .liquidate borrower assetId amount collateralAssetId =>
      ∃ quote, liquidationQuote standard (w.afterInterest borrower assetId collateralAssetId)
          borrower assetId amount collateralAssetId = .ok quote ∧
        net this after token = net this w token + interestIn w borrower assetId token +
          interestIn w borrower collateralAssetId token +
          if (w.pool.assets assetId).token = token then
            (quote.toLiquidate : Int) - quote.actualLiquidation
          else 0
  | .owner _ | .mine _ => net this after token = net this w token
  | .outside _ => net this w token ≤ net this after token

section Steps

variable {this msgSender : Address} {w after : World Chain}

/-- The cash of one payment against the position it books, in every token. -/
theorem net_of_booked {asset token : Address} {before after : Int} {cash cash' : Int} {value : Int}
    (booked : after = before + if asset = token then -value else 0)
    (moved : cash' = cash + if token = asset then value else 0) :
    cash' + after = cash + before := by
  rw [booked, moved]
  by_cases same : asset = token
  · rw [if_pos same, if_pos same.symm]
    ring
  · rw [if_neg same, if_neg (Ne.symm same)]
    ring

/-- Interest alone: the position grows by what the borrower is charged. -/
theorem net_accrue {user : Address} {assetId : Nat} (listed : assetId < w.pool.assetCount)
    (token : Address) :
    w.outside.cash this token +
        ((w.pool.setEntered true).accrue w.blockNumber user assetId).position token =
      net this w token + interestIn w user assetId token := by
  rw [Pool.position_accrue (w.pool.setEntered true) listed w.blockNumber user token]
  exact (Int.add_assoc _ _ _).symm

theorem deposit_net {assetId amount : Nat} {paid : World Chain}
    (step : Deposited standard this msgSender assetId amount w after paid)
    (sound : w.outside.Sound this) (external : msgSender ≠ this) (token : Address) :
    net this after token = net this w token + interestIn w msgSender assetId token := by
  obtain ⟨samePool, sameBlock, _, cash⟩ := collect_cash step.collected sound external
  have booked := Pool.position_creditDeposit
    ((w.pool.setEntered true).accrue w.blockNumber msgSender assetId)
    step.listed msgSender amount token
  rw [Pool.accrue_token] at booked
  calc net this after token
      = paid.outside.cash this token +
          (((w.pool.setEntered true).accrue w.blockNumber msgSender assetId).creditDeposit
            msgSender assetId amount).position token := by
        rw [step.booked, samePool, sameBlock]
        rfl
    _ = w.outside.cash this token +
          ((w.pool.setEntered true).accrue w.blockNumber msgSender assetId).position token :=
        net_of_booked booked (cash token)
    _ = net this w token + interestIn w msgSender assetId token := net_accrue step.listed token

theorem withdraw_net {assetId amount : Nat} {paid : World Chain}
    (step : Withdrawn standard this msgSender assetId amount w after paid) (books : Books w.pool)
    (sound : w.outside.Sound this) (external : msgSender ≠ this) (token : Address) :
    net this after token = net this w token + interestIn w msgSender assetId token := by
  obtain ⟨samePool, _, _, cash⟩ := pay_cash step.sent sound external
  have current := (books.setEntered true).accrue w.blockNumber msgSender step.listed
  have booked := Pool.position_debitDeposit
    ((w.pool.setEntered true).accrue w.blockNumber msgSender assetId) step.listed msgSender
    (Nat.le_trans step.funded (current.deposits.entry_le msgSender assetId)) token
  rw [← Int.neg_neg (amount : Int)] at booked
  calc net this after token
      = paid.outside.cash this token +
          (((w.pool.setEntered true).accrue w.blockNumber msgSender assetId).debitDeposit
            msgSender assetId amount).position token := by
        rw [step.booked, samePool]
        rfl
    _ = w.outside.cash this token +
          ((w.pool.setEntered true).accrue w.blockNumber msgSender assetId).position token :=
        net_of_booked booked (cash token)
    _ = net this w token + interestIn w msgSender assetId token := net_accrue step.listed token

theorem borrow_net {version : Version} {assetId amount : Nat} {paid : World Chain}
    (step : Borrowed version standard this msgSender assetId amount w after paid)
    (sound : w.outside.Sound this) (external : msgSender ≠ this) (token : Address) :
    net this after token = net this w token + interestIn w msgSender assetId token := by
  obtain ⟨samePool, _, _, cash⟩ := pay_cash step.sent sound external
  have booked := Pool.position_creditLoan
    ((w.pool.setEntered true).accrue w.blockNumber msgSender assetId)
    step.listed msgSender amount token
  rw [← Int.neg_neg (amount : Int)] at booked
  calc net this after token
      = paid.outside.cash this token +
          (((w.pool.setEntered true).accrue w.blockNumber msgSender assetId).creditLoan
            msgSender assetId amount).position token := by
        rw [step.booked, samePool]
        rfl
    _ = w.outside.cash this token +
          ((w.pool.setEntered true).accrue w.blockNumber msgSender assetId).position token :=
        net_of_booked booked (cash token)
    _ = net this w token + interestIn w msgSender assetId token := net_accrue step.listed token

theorem repay_net {assetId amount : Nat} {paid : World Chain}
    (step : Repaid standard this msgSender assetId amount w after paid) (books : Books w.pool)
    (sound : w.outside.Sound this) (external : msgSender ≠ this) (token : Address) :
    net this after token = net this w token + interestIn w msgSender assetId token := by
  obtain ⟨samePool, _, _, cash⟩ := collect_cash step.collected sound external
  have current := (books.setEntered true).accrue w.blockNumber msgSender step.listed
  have booked := Pool.position_debitLoan
    ((w.pool.setEntered true).accrue w.blockNumber msgSender assetId) step.listed msgSender
    (Nat.le_trans (Nat.min_le_right amount _) (current.loans.entry_le msgSender assetId)) token
  calc net this after token
      = paid.outside.cash this token +
          (((w.pool.setEntered true).accrue w.blockNumber msgSender assetId).debitLoan
            msgSender assetId (min amount ((((w.pool.setEntered true).accrue w.blockNumber
              msgSender assetId).userAccounts msgSender).borrowed assetId))).position token := by
        rw [step.booked, samePool]
        rfl
    _ = w.outside.cash this token +
          ((w.pool.setEntered true).accrue w.blockNumber msgSender assetId).position token :=
        net_of_booked booked (cash token)
    _ = net this w token + interestIn w msgSender assetId token := net_accrue step.listed token

/-- Interest on both assets of a liquidation. -/
theorem net_afterInterest {borrower : Address} {assetId collateralAssetId : Nat}
    (listed : assetId < w.pool.assetCount)
    (listedCollateral : collateralAssetId < w.pool.assetCount)
    (distinct : assetId ≠ collateralAssetId) (token : Address) :
    w.outside.cash this token +
        (w.afterInterest borrower assetId collateralAssetId).pool.position token =
      net this w token + interestIn w borrower assetId token +
        interestIn w borrower collateralAssetId token := by
  have second := Pool.position_accrue
    ((w.pool.setEntered true).accrue w.blockNumber borrower assetId) listedCollateral
    w.blockNumber borrower token
  rw [Pool.accrue_token, Pool.accrued_accrue _ distinct.symm] at second
  rw [World.afterInterest, second, ← Int.add_assoc, net_accrue listed token]
  rfl

theorem liquidate_net {borrower : Address} {assetId amount collateralAssetId : Nat} {quote : Quote}
    {collected paid : World Chain}
    (step : Liquidated standard this msgSender borrower assetId amount collateralAssetId w after
      quote collected paid) (books : Books w.pool) (sound : w.outside.Sound this)
    (external : msgSender ≠ this) (token : Address) :
    net this after token = net this w token + interestIn w borrower assetId token +
      interestIn w borrower collateralAssetId token +
      if (w.pool.assets assetId).token = token then
        (quote.toLiquidate : Int) - quote.actualLiquidation
      else 0 := by
  obtain ⟨samePool, _, soundCollected, received⟩ := collect_cash step.received sound external
  obtain ⟨samePaid, _, _, sent⟩ := pay_cash step.sent soundCollected external
  have accrued : Books (w.afterInterest borrower assetId collateralAssetId).pool :=
    ((books.setEntered true).accrue w.blockNumber borrower step.listed.1).accrue
      w.blockNumber borrower step.listed.2
  have loanLeft := step.loanLeft
  have depositLeft := step.depositLeft
  rw [samePaid, samePool] at loanLeft depositLeft
  have debtToken :
      ((w.afterInterest borrower assetId collateralAssetId).pool.assets assetId).token =
        (w.pool.assets assetId).token := by
    rw [World.afterInterest, Pool.accrue_token, Pool.accrue_token]
    rfl
  have loan := Pool.position_debitLoan (w.afterInterest borrower assetId collateralAssetId).pool
    step.listed.1 borrower
    (Nat.le_trans loanLeft (accrued.loans.entry_le borrower assetId)) token
  have sameCollateral :
      (((w.afterInterest borrower assetId collateralAssetId).pool.debitLoan borrower
        assetId quote.actualLiquidation).assets collateralAssetId) =
      (w.afterInterest borrower assetId collateralAssetId).pool.assets collateralAssetId :=
    Function.update_of_ne step.distinct.symm _ _
  have enough : quote.collateralAmount ≤
      (((w.afterInterest borrower assetId collateralAssetId).pool.debitLoan borrower assetId
        quote.actualLiquidation).assets collateralAssetId).totalDeposited := by
    rw [sameCollateral]
    exact Nat.le_trans depositLeft (accrued.deposits.entry_le borrower collateralAssetId)
  have collateral := Pool.position_debitDeposit
    ((w.afterInterest borrower assetId collateralAssetId).pool.debitLoan borrower assetId
      quote.actualLiquidation) step.listed.2 borrower enough token
  rw [sameCollateral, ← Int.neg_neg (quote.collateralAmount : Int)] at collateral
  have paidOut := sent token
  rw [samePool] at paidOut
  calc net this after token
      = paid.outside.cash this token +
          (((w.afterInterest borrower assetId collateralAssetId).pool.debitLoan borrower assetId
            quote.actualLiquidation).debitDeposit borrower collateralAssetId
              quote.collateralAmount).position token := by
        rw [step.booked, samePaid, samePool]
        rfl
    _ = collected.outside.cash this token +
          ((w.afterInterest borrower assetId collateralAssetId).pool.debitLoan borrower assetId
            quote.actualLiquidation).position token := net_of_booked collateral paidOut
    _ = w.outside.cash this token +
          (w.afterInterest borrower assetId collateralAssetId).pool.position token +
          if (w.pool.assets assetId).token = token then
            (quote.toLiquidate : Int) - quote.actualLiquidation else 0 := by
        rw [loan, received token, debtToken]
        by_cases same : (w.pool.assets assetId).token = token
        · rw [if_pos same, if_pos same, if_pos same.symm]
          change w.outside.cash this token + _ + _ = _
          ring
        · rw [if_neg same, if_neg same, if_neg (Ne.symm same)]
          change w.outside.cash this token + _ + _ = _
          ring
    _ = _ := by rw [net_afterInterest step.listed.1 step.listed.2 step.distinct token]

theorem ownerCall_position {pool after : Pool} {made : OwnerCall}
    (success : ownerCall pool made = .ok after) (token : Address) :
    after.position token = pool.position token := by
  obtain ⟨msgSender, op⟩ := made
  simp only [ownerCall, bind_ok_iff, require_ok_iff] at success
  obtain ⟨_, _, body⟩ := success
  cases op with
  | addAsset newToken baseRate =>
      simp only [addAsset, bind_ok_iff, pure_ok_iff, checkedAdd_ok_iff] at body
      obtain ⟨_, ⟨_, rfl⟩, rfl⟩ := body
      have empty : Asset.position token ⟨newToken, 0, 0, baseRate⟩ = 0 := by
        simp [Asset.position]
      simp only [Pool.position, Pool.setAsset]
      rw [Finset.sum_range_succ, Function.update_self, empty, Int.add_zero,
        Ledger.sum_update_outside _ _ _ Finset.notMem_range_self]
  | setPriceOracle assetId priceOracle =>
      simp only [pure_ok_iff] at body
      subst body
      rfl
  | transferOwnership newOwner =>
      simp only [bind_ok_iff, pure_ok_iff] at body
      obtain ⟨_, _, rfl⟩ := body
      rfl
  | renounceOwnership =>
      simp only [pure_ok_iff] at body
      subst body
      rfl

theorem call_net {version : Version} {made : Call Action this} (books : Books w.pool)
    (sound : w.outside.Sound this) (success : call version standard w made = .ok after)
    (token : Address) : NetChange w made after token := by
  obtain ⟨msgSender, op, external⟩ := made
  cases op with
  | owner op =>
      simp only [call, bind_ok_iff, pure_ok_iff] at success
      obtain ⟨pool, owned, rfl⟩ := success
      exact congrArg (w.outside.cash this token + ·) (ownerCall_position owned token)
  | deposit assetId amount =>
      obtain ⟨paid, step⟩ := deposit_ok success
      exact deposit_net step sound external token
  | withdraw assetId amount =>
      cases version with
      | second => cases success
      | first =>
          obtain ⟨paid, step⟩ := withdraw_ok success
          exact withdraw_net step books sound external token
  | borrow assetId amount =>
      obtain ⟨paid, step⟩ := borrow_ok success
      exact borrow_net step sound external token
  | repay assetId amount =>
      cases version with
      | second => cases success
      | first =>
          obtain ⟨paid, step⟩ := repay_ok success
          exact repay_net step books sound external token
  | liquidate borrower assetId amount collateralAssetId =>
      obtain ⟨quote, collected, paid, step⟩ := liquidate_ok success
      exact ⟨quote, step.quoted, liquidate_net step books sound external token⟩
  | mine blocks =>
      simp only [call, pure_ok_iff] at success
      subst success
      rfl
  | outside action =>
      simp only [call, bind_ok_iff, pure_ok_iff, callee_ok_iff] at success
      obtain ⟨_, acted, rfl⟩ := success
      exact Int.add_le_add_right ((act_cash sound external acted).2 token) _

theorem call_sound {version : Version} {made : Call Action this}
    (sound : w.outside.Sound this) (success : call version standard w made = .ok after) :
    after.outside.Sound this := by
  obtain ⟨msgSender, op, external⟩ := made
  cases op with
  | owner op =>
      simp only [call, bind_ok_iff, pure_ok_iff] at success
      obtain ⟨pool, owned, rfl⟩ := success
      exact sound
  | deposit assetId amount =>
      obtain ⟨paid, step⟩ := deposit_ok success
      rw [step.booked]
      exact (collect_cash step.collected sound external).2.2.1
  | withdraw assetId amount =>
      cases version with
      | second => cases success
      | first =>
          obtain ⟨paid, step⟩ := withdraw_ok success
          rw [step.booked]
          exact (pay_cash step.sent sound external).2.2.1
  | borrow assetId amount =>
      obtain ⟨paid, step⟩ := borrow_ok success
      rw [step.booked]
      exact (pay_cash step.sent sound external).2.2.1
  | repay assetId amount =>
      cases version with
      | second => cases success
      | first =>
          obtain ⟨paid, step⟩ := repay_ok success
          rw [step.booked]
          exact (collect_cash step.collected sound external).2.2.1
  | liquidate borrower assetId amount collateralAssetId =>
      obtain ⟨quote, collected, paid, step⟩ := liquidate_ok success
      rw [step.booked]
      exact (pay_cash step.sent (collect_cash step.received sound external).2.2.1 external).2.2.1
  | mine blocks =>
      simp only [call, pure_ok_iff] at success
      subst success
      exact sound
  | outside action =>
      simp only [call, bind_ok_iff, pure_ok_iff, callee_ok_iff] at success
      obtain ⟨_, acted, rfl⟩ := success
      exact (act_cash sound external acted).1

end Steps

/-- A successful liquidation that books off more debt than it collects. -/
def ShortLiquidation {this : Address} (version : Version) (w : World Chain)
    (made : Call Action this) : Prop :=
  (∃ after, call version standard w made = .ok after) ∧
  match made.op with
  | .liquidate borrower assetId amount collateralAssetId =>
      ∃ quote, liquidationQuote standard (w.afterInterest borrower assetId collateralAssetId)
          borrower assetId amount collateralAssetId = .ok quote ∧
        quote.toLiquidate < quote.actualLiquidation
  | _ => False

theorem interestIn_nonneg (w : World Chain) (user : Address) (assetId : Nat) (token : Address) :
    0 ≤ interestIn w user assetId token := by
  unfold interestIn
  split
  · exact Int.natCast_nonneg _
  · exact Int.le_refl 0

/-- Only a short liquidation lowers the pool's claims. -/
theorem net_mono {this : Address} {version : Version} {w after : World Chain}
    {made : Call Action this} {token : Address}
    (success : call version standard w made = .ok after) (change : NetChange w made after token)
    (full : ¬ ShortLiquidation version w made) : net this w token ≤ net this after token := by
  obtain ⟨msgSender, op, external⟩ := made
  cases op with
  | owner op => exact Int.le_of_eq (Eq.symm change)
  | deposit assetId amount =>
      have interest := interestIn_nonneg w msgSender assetId token
      change net this after token =
        net this w token + interestIn w msgSender assetId token at change
      omega
  | withdraw assetId amount =>
      have interest := interestIn_nonneg w msgSender assetId token
      change net this after token =
        net this w token + interestIn w msgSender assetId token at change
      omega
  | borrow assetId amount =>
      have interest := interestIn_nonneg w msgSender assetId token
      change net this after token =
        net this w token + interestIn w msgSender assetId token at change
      omega
  | repay assetId amount =>
      have interest := interestIn_nonneg w msgSender assetId token
      change net this after token =
        net this w token + interestIn w msgSender assetId token at change
      omega
  | liquidate borrower assetId amount collateralAssetId =>
      obtain ⟨quote, quoted, moved⟩ := change
      have debt := interestIn_nonneg w borrower assetId token
      have collateral := interestIn_nonneg w borrower collateralAssetId token
      have enough : quote.actualLiquidation ≤ quote.toLiquidate := by
        by_contra less
        exact full ⟨⟨after, success⟩, quote, quoted, by omega⟩
      split at moved <;> omega
  | mine blocks => exact Int.le_of_eq (Eq.symm change)
  | outside action => exact change

/-- Over every run on standard tokens, each successful call changes the pool's
claims in a token exactly by the interest it accrues, a liquidation also by what
it collects minus what it books off; so the claims fall below the deposits only
in runs with a liquidation that books off more than it collects. -/
theorem net_conserved {this : Address} (version : Version) (owner : Address)
    (deployer : Address → Address) (supply : Address → Fin (2 ^ 256))
    (prices : Address → Nat → Option Nat) (blockNumber : Nat) (calls : List (Call Action this))
    (token : Address) :
    let start := deployWorld owner (deployChain deployer supply prices) blockNumber
    let w := run (call version standard) start calls
    (∀ (made : Call Action this) (after : World Chain),
      call version standard w made = .ok after → NetChange w made after token) ∧
    (Meets (fun w made => ¬ ShortLiquidation version w made) (call version standard) start calls →
      0 ≤ net this w token) := by
  intro start w
  have books : Books w.pool := run_books version standard owner _ blockNumber calls
  have sound : w.outside.Sound this := run_invariant
    (fun w : World Chain => w.outside.Sound this) (fun _ _ _ => call_sound) calls start
    (Chain.Sound.of_deploy deployer supply prices)
  refine ⟨fun made after success => call_net books sound success token, ?_⟩
  intro full
  have kept := run_invariant_of_meets
    (fun w : World Chain => Books w.pool ∧ w.outside.Sound this ∧ 0 ≤ net this w token)
    (fun state made next holds met success =>
      ⟨call_books holds.1 success, call_sound holds.2.1 success,
        Int.le_trans holds.2.2 (net_mono success (call_net holds.1 holds.2.1 success token) met)⟩)
    calls start ⟨Books.of_deploy owner, Chain.Sound.of_deploy deployer supply prices, ?_⟩ full
  · exact kept.2.2
  · exact Int.add_nonneg (Int.natCast_nonneg _) (Int.le_of_eq (Finset.sum_range_zero _).symm)

/-- The owner lists token 5 and deposits 40 of it into a pool at address 7. -/
def listedAndDeposited : List (Call Action 7) :=
  [⟨1, .owner (.addAsset 5 0), by decide⟩,
   ⟨1, .outside (.approve 5 7 100), by decide⟩,
   ⟨1, .deposit 0 40, by decide⟩]

def withdrawTen : Call Action 7 := ⟨1, .withdraw 0 10, by decide⟩

theorem net_conserved_after_deposit :
    let start := deployWorld 1 (deployChain (fun _ => 1) (fun _ => 1000) fun _ _ => none) 3
    let w := run (call .first standard) start listedAndDeposited
    (∃ after, call .first standard w withdrawTen = .ok after ∧
      net 7 after 5 = net 7 w 5 + interestIn w 1 0 5) ∧ 0 ≤ net 7 w 5 := by
  intro start w
  obtain ⟨changes, covered⟩ := net_conserved .first 1 (fun _ => 1) (fun _ => 1000)
    (fun _ _ => none) 3 listedAndDeposited 5
  refine ⟨?_, covered ⟨fun short => short.2, fun short => short.2, fun short => short.2, trivial⟩⟩
  have returns : (call .first standard w withdrawTen).toBool = true := by
    decide +kernel
  cases result : call .first standard w withdrawTen with
  | ok after => exact ⟨after, rfl, changes withdrawTen after result⟩
  | error reason =>
      rw [result] at returns
      cases returns

end TonyLend
