import BlazCtf.TonyLend.PoolBlock
import BlazCtf.TonyLend.PoolTotals

set_option autoImplicit false

namespace TonyLend

open Evm

/-- One user's loan of one asset, with the block up to which interest has been accrued. -/
structure Loan where
  borrowed : Nat
  lastInterestBlock : Nat

namespace Pool

variable {pool after : Pool} (user other : Address) (assetId id value blockNumber : Nat)

def loan (pool : Pool) (user : Address) (assetId : Nat) : Loan where
  borrowed := (pool.userAccounts user).borrowed assetId
  lastInterestBlock := (pool.userAccounts user).lastInterestBlock assetId

theorem loan_of_accounts (same : after.userAccounts = pool.userAccounts) :
    after.loan user assetId = pool.loan user assetId := by
  simp only [loan, same]

theorem accrued_of_accounts (same : after.userAccounts = pool.userAccounts)
    (kept : after.assets assetId = pool.assets assetId) :
    after.accrued blockNumber user assetId = pool.accrued blockNumber user assetId := by
  simp only [accrued, same, kept]

theorem loan_accrue :
    (pool.accrue blockNumber user assetId).loan other id =
      if other = user ∧ id = assetId then
        ⟨(pool.userAccounts other).borrowed id + pool.accrued blockNumber other id, blockNumber⟩
      else pool.loan other id := by
  simp only [loan, borrowed_accrue_entry, lastInterestBlock_accrue]
  split
  · rename_i same
    rw [same.1, same.2]
  · rfl

theorem loan_creditLoan :
    (pool.creditLoan user assetId value).loan other id =
      if other = user ∧ id = assetId then
        { pool.loan other id with borrowed := (pool.loan other id).borrowed + value }
      else pool.loan other id := by
  simp only [loan, borrowed_creditLoan, lastInterestBlock_creditLoan]
  split
  · rename_i same
    rw [same.1, same.2]
  · rfl

theorem loan_debitLoan :
    (pool.debitLoan user assetId value).loan other id =
      if other = user ∧ id = assetId then
        { pool.loan other id with borrowed := (pool.loan other id).borrowed - value }
      else pool.loan other id := by
  simp only [loan, borrowed_debitLoan, lastInterestBlock_debitLoan]
  split
  · rename_i same
    rw [same.1, same.2]
  · rfl

@[simp] theorem loan_creditDeposit :
    (pool.creditDeposit user assetId value).loan other id = pool.loan other id := by
  simp only [loan, borrowed_creditDeposit, lastInterestBlock_creditDeposit]

@[simp] theorem loan_debitDeposit :
    (pool.debitDeposit user assetId value).loan other id = pool.loan other id := by
  simp only [loan, borrowed_debitDeposit, lastInterestBlock_debitDeposit]

@[simp] theorem loan_setEntered (entered : Bool) :
    (pool.setEntered entered).loan user assetId = pool.loan user assetId := rfl

end Pool

section Entries

variable {τ κ : Type} {env : Outside τ κ} {this msgSender : Address} {w after paid : World τ}
  {assetId amount : Nat}

/-- The debt with the interest up to the current block. -/
def World.owed (w : World τ) (user : Address) (assetId : Nat) : Nat :=
  (w.pool.userAccounts user).borrowed assetId + w.pool.accrued w.blockNumber user assetId

theorem Deposited.loan (step : Deposited env this msgSender assetId amount w after paid)
    (user : Address) (id : Nat) :
    after.pool.loan user id =
      if user = msgSender ∧ id = assetId then ⟨w.owed user id, w.blockNumber⟩
      else w.pool.loan user id := by
  have extended := callTransferFrom_extends step.collected
  obtain ⟨_, _, _, moved⟩ := callTransferFrom_ok step.collected
  have block : paid.blockNumber = w.blockNumber := by rw [moved]
  have kept : paid.pool.loan user id = w.pool.loan user id :=
    Pool.loan_of_accounts _ _ extended.accounts
  rw [step.booked, block]
  simp only [Pool.loan_setEntered, Pool.loan_creditDeposit, Pool.loan_accrue, kept,
    extended.accounts]
  split
  · rename_i same
    have accrued : paid.pool.accrued w.blockNumber user id =
        w.pool.accrued w.blockNumber user id := by
      rw [same.2]
      exact Pool.accrued_of_accounts _ _ _ extended.accounts (extended.assets assetId step.listed)
    rw [accrued]
    rfl
  · rfl

theorem Withdrawn.loan (step : Withdrawn env this msgSender assetId amount w after paid)
    (user : Address) (id : Nat) :
    after.pool.loan user id =
      if user = msgSender ∧ id = assetId then ⟨w.owed user id, w.blockNumber⟩
      else w.pool.loan user id := by
  have kept : paid.pool.loan user id = _ :=
    Pool.loan_of_accounts user id (callTransfer_extends step.sent).accounts
  rw [step.booked]
  simp only [Pool.loan_setEntered, kept, Pool.loan_debitDeposit, Pool.loan_accrue]
  rfl

theorem Borrowed.loan {version : Version}
    (step : Borrowed version env this msgSender assetId amount w after paid)
    (user : Address) (id : Nat) :
    after.pool.loan user id =
      if user = msgSender ∧ id = assetId then ⟨w.owed user id + amount, w.blockNumber⟩
      else w.pool.loan user id := by
  have kept : paid.pool.loan user id = _ :=
    Pool.loan_of_accounts user id (callTransfer_extends step.sent).accounts
  rw [step.booked]
  simp only [Pool.loan_setEntered, kept, Pool.loan_creditLoan, Pool.loan_accrue]
  split <;> rfl

theorem Repaid.loan (step : Repaid env this msgSender assetId amount w after paid)
    (user : Address) (id : Nat) :
    after.pool.loan user id =
      if user = msgSender ∧ id = assetId then ⟨w.owed user id - amount, w.blockNumber⟩
      else w.pool.loan user id := by
  have kept : paid.pool.loan user id = _ :=
    Pool.loan_of_accounts user id (callTransferFrom_extends step.collected).accounts
  have accrued := Pool.borrowed_accrue_entry (w.pool.setEntered true) msgSender msgSender assetId
    assetId w.blockNumber
  rw [if_pos ⟨rfl, rfl⟩] at accrued
  rw [step.booked, accrued]
  simp only [Pool.loan_setEntered, Pool.loan_debitLoan, kept, Pool.loan_accrue]
  split
  · rename_i same
    obtain ⟨rfl, rfl⟩ := same
    change (⟨w.owed user id - min amount (w.owed user id), _⟩ : Loan) = _
    congr 1
    omega
  · rfl

/-- A liquidation accrues interest on the loans of both assets. -/
theorem loan_afterInterest (w : World τ) (borrower user : Address) {collateralAssetId : Nat}
    (distinct : assetId ≠ collateralAssetId) (id : Nat) :
    (w.afterInterest borrower assetId collateralAssetId).pool.loan user id =
      if user = borrower ∧ (id = assetId ∨ id = collateralAssetId) then
        ⟨w.owed user id, w.blockNumber⟩
      else w.pool.loan user id := by
  -- the first accrual leaves the other asset's loan and its interest as they were
  have second : (((w.pool.setEntered true).accrue w.blockNumber borrower assetId).userAccounts
      borrower).borrowed collateralAssetId + ((w.pool.setEntered true).accrue w.blockNumber
        borrower assetId).accrued w.blockNumber borrower collateralAssetId =
      w.owed borrower collateralAssetId := by
    rw [Pool.borrowed_accrue_entry, if_neg fun both => distinct both.2.symm,
      Pool.accrued_accrue (w.pool.setEntered true) distinct.symm w.blockNumber borrower]
    rfl
  unfold World.afterInterest
  rw [Pool.loan_accrue, Pool.loan_accrue]
  by_cases own : user = borrower
  · subst own
    by_cases seized : id = collateralAssetId
    · subst seized
      simp only [and_self, or_true, if_true, second]
    · by_cases owing : id = assetId
      · subst owing
        simp only [seized, and_false, if_false, and_self, true_or, if_true]
        rfl
      · simp only [seized, owing, and_false, or_self, if_false]
        rfl
  · simp only [own, false_and, if_false]
    rfl

theorem Liquidated.loan {borrower : Address} {collateralAssetId : Nat} {quote : Quote}
    {collected : World τ} (step : Liquidated env this msgSender borrower assetId amount
      collateralAssetId w after quote collected paid) (user : Address) (id : Nat) :
    after.pool.loan user id =
      if user = borrower ∧ (id = assetId ∨ id = collateralAssetId) then
        ⟨if id = assetId then w.owed user id - amount else w.owed user id, w.blockNumber⟩
      else w.pool.loan user id := by
  have kept : ∀ user id, paid.pool.loan user id = _ := fun user id =>
    Pool.loan_of_accounts user id step.extends.accounts
  obtain ⟨_, _, _, _, quoted⟩ := step.quoted_from
  have closed : quote.actualLiquidation = min amount (w.owed borrower assetId) := quoted.closed
  rw [step.booked]
  simp only [Pool.loan_setEntered, Pool.liquidated, Pool.loan_debitDeposit, Pool.loan_debitLoan,
    kept, loan_afterInterest w borrower _ step.distinct, closed]
  by_cases owing : id = assetId
  · subst owing
    by_cases own : user = borrower
    · simp only [own, and_self, true_or, if_true]
      congr 1
      omega
    · simp only [own, false_and, if_false]
  · simp only [owing, and_false, false_or, if_false]

end Entries

/-- The calls that run `updateInterest` on a user's loan of an asset. -/
def Call.touches {κ : Type} {this : Address} (made : Call κ this) (user : Address)
    (assetId : Nat) : Bool :=
  match made.op with
  | .deposit id _ | .withdraw id _ | .borrow id _ | .repay id _ =>
      user = made.msgSender ∧ assetId = id
  | .liquidate borrower id _ collateralAssetId =>
      user = borrower ∧ (assetId = id ∨ assetId = collateralAssetId)
  | .owner _ | .mine _ | .outside _ => false

/-- What such a call makes of the debt, once the interest has been added. -/
def Op.settle {κ : Type} (op : Op κ) (assetId owed : Nat) : Nat :=
  match op with
  | .borrow _ amount => owed + amount
  | .repay _ amount => owed - amount
  | .liquidate _ id amount _ => if assetId = id then owed - amount else owed
  | _ => owed

section Calls

variable {τ κ : Type} {env : Outside τ κ} {this : Address} {w after : World τ}

theorem call_loan {version : Version} {made : Call κ this}
    (success : call version env w made = .ok after) (user : Address) (assetId : Nat) :
    after.pool.loan user assetId =
      if made.touches user assetId then
        ⟨made.op.settle assetId (w.owed user assetId), w.blockNumber⟩
      else w.pool.loan user assetId := by
  obtain ⟨msgSender, op, external⟩ := made
  cases op with
  | owner op =>
      simp only [call, bind_ok_iff, pure_ok_iff] at success
      obtain ⟨pool, owned, rfl⟩ := success
      exact Pool.loan_of_accounts user assetId (ownerCall_extends owned).accounts
  | deposit id amount =>
      obtain ⟨paid, step⟩ := deposit_ok success
      rw [step.loan]
      simp only [Call.touches, Op.settle, decide_eq_true_eq]
  | withdraw id amount =>
      cases version with
      | second => cases success
      | first =>
          obtain ⟨paid, step⟩ := withdraw_ok success
          rw [step.loan]
          simp only [Call.touches, Op.settle, decide_eq_true_eq]
  | borrow id amount =>
      obtain ⟨paid, step⟩ := borrow_ok success
      rw [step.loan]
      simp only [Call.touches, Op.settle, decide_eq_true_eq]
  | repay id amount =>
      cases version with
      | second => cases success
      | first =>
          obtain ⟨paid, step⟩ := repay_ok success
          rw [step.loan]
          simp only [Call.touches, Op.settle, decide_eq_true_eq]
  | liquidate borrower id amount collateralAssetId =>
      obtain ⟨quote, collected, paid, step⟩ := liquidate_ok success
      rw [step.loan]
      simp only [Call.touches, Op.settle, decide_eq_true_eq]
  | mine blocks =>
      simp only [call, pure_ok_iff] at success
      subst success
      rfl
  | outside action =>
      simp only [call, bind_ok_iff, pure_ok_iff] at success
      obtain ⟨_, _, rfl⟩ := success
      rfl

theorem call_block_le {version : Version} {made : Call κ this}
    (success : call version env w made = .ok after) : w.blockNumber ≤ after.blockNumber := by
  by_cases mined : ∃ blocks, made.op = .mine blocks
  · obtain ⟨blocks, mines⟩ := mined
    simp only [call, mines, pure_ok_iff] at success
    rw [← success]
    exact Nat.le_add_right _ _
  · exact Nat.le_of_eq (call_block success fun blocks mines => mined ⟨blocks, mines⟩).symm

end Calls

/-- A chain with the calls that have succeeded on it, each with its block, the newest first. -/
structure Timed (τ κ : Type) (this : Address) where
  world : World τ
  done : List (Call κ this × Nat)

section History

variable {τ κ : Type} {this : Address}

def Timed.call (version : Version) (env : Outside τ κ) (timed : Timed τ κ this)
    (made : Call κ this) : Outcome (Timed τ κ this) := do
  let world ← TonyLend.call version env timed.world made
  pure ⟨world, (made, timed.world.blockNumber) :: timed.done⟩

/-- The block of the latest call that accrued interest on a user's loan of an asset. -/
def lastTouch (user : Address) (assetId : Nat) : List (Call κ this × Nat) → Option Nat
  | [] => none
  | (made, blockNumber) :: older =>
      if made.touches user assetId then some blockNumber else lastTouch user assetId older

/-- The interest on the debt for the blocks since the latest touch; there is none on a loan
that was never touched. -/
def World.interestSince (w : World τ) (user : Address) (assetId : Nat) : Option Nat → Nat
  | none => 0
  | some last => (w.pool.userAccounts user).borrowed assetId * (w.pool.assets assetId).baseRate *
      (w.blockNumber - last) / 2102400 / PRECISION

/-- A loan that was never touched is none, and the clock of every other one stands at the
block of the latest touch, which is past. -/
structure OnTime (timed : Timed τ κ this) : Prop where
  stamped : ∀ user assetId,
    lastTouch user assetId timed.done = none ∧
        (timed.world.pool.loan user assetId).borrowed = 0 ∨
      lastTouch user assetId timed.done =
        some (timed.world.pool.loan user assetId).lastInterestBlock
  past : ∀ user assetId,
    (timed.world.pool.loan user assetId).lastInterestBlock ≤ timed.world.blockNumber

variable {version : Version} {env : Outside τ κ} {timed next : Timed τ κ this}
  {made : Call κ this}

theorem Timed.call_ok (success : timed.call version env made = .ok next) :
    TonyLend.call version env timed.world made = .ok next.world ∧
      next.done = (made, timed.world.blockNumber) :: timed.done := by
  simp only [Timed.call, bind_ok_iff, pure_ok_iff] at success
  obtain ⟨world, called, rfl⟩ := success
  exact ⟨called, rfl⟩

theorem onTime_deploy (owner : Address) (outside : τ) (blockNumber : Nat) :
    OnTime (⟨deployWorld owner outside blockNumber, []⟩ : Timed τ κ this) where
  stamped _ _ := .inl ⟨rfl, rfl⟩
  past _ _ := Nat.zero_le _

theorem OnTime.call (onTime : OnTime timed) (success : timed.call version env made = .ok next) :
    OnTime next := by
  obtain ⟨called, recorded⟩ := Timed.call_ok success
  have later := call_block_le called
  constructor
  · intro user assetId
    rw [call_loan called, recorded, lastTouch]
    split
    · exact .inr rfl
    · exact onTime.stamped user assetId
  · intro user assetId
    rw [call_loan called]
    split
    · exact later
    · exact Nat.le_trans (onTime.past user assetId) later

theorem OnTime.accrued (onTime : OnTime timed) (user : Address) (assetId : Nat) :
    timed.world.pool.accrued timed.world.blockNumber user assetId =
      timed.world.interestSince user assetId (lastTouch user assetId timed.done) := by
  unfold Pool.accrued
  rcases onTime.stamped user assetId with ⟨never, none⟩ | touched
  · have debt : (timed.world.pool.userAccounts user).borrowed assetId = 0 := none
    rw [never, debt]
    simp only [Nat.zero_mul, Nat.zero_div, World.interestSince]
  · rw [touched]
    rfl

end History

/-- The clock of every debt stands at the latest call that touched it, and only such calls
change the debt: they add the interest for the blocks since then, and then book their own
amount. No clock is ahead of the block, so the subtraction of blocks never fails. -/
theorem interest_clock {τ κ : Type} {this : Address} (version : Version) (env : Outside τ κ)
    (owner : Address) (outside : τ) (blockNumber : Nat) (calls : List (Call κ this)) :
    let timed := run (Timed.call version env) ⟨deployWorld owner outside blockNumber, []⟩ calls
    let w := timed.world
    (∀ user assetId, 0 < (w.pool.userAccounts user).borrowed assetId →
      lastTouch user assetId timed.done =
          some ((w.pool.userAccounts user).lastInterestBlock assetId) ∧
        (w.pool.userAccounts user).lastInterestBlock assetId ≤ w.blockNumber) ∧
    (∀ made : Call κ this,
      Avoids (.panic 0x11 "block.number - account.lastInterestBlock[_assetId]")
        (call version env w made)) ∧
    ∀ (made : Call κ this) (after : World τ), call version env w made = .ok after →
      ∀ user assetId, (after.pool.userAccounts user).borrowed assetId =
        if made.touches user assetId then
          made.op.settle assetId ((w.pool.userAccounts user).borrowed assetId +
            w.interestSince user assetId (lastTouch user assetId timed.done))
        else (w.pool.userAccounts user).borrowed assetId := by
  intro timed w
  obtain ⟨onTime, books⟩ : OnTime timed ∧ Books w.pool := by
    refine run_invariant (fun reached => OnTime reached ∧ Books reached.world.pool) ?_ calls _
      ⟨onTime_deploy owner outside blockNumber, Books.of_deploy owner⟩
    intro reached made next holds success
    exact ⟨holds.1.call success, call_books holds.2 (Timed.call_ok success).1⟩
  refine ⟨?_, ?_, ?_⟩
  · intro user assetId owing
    refine ⟨?_, onTime.past user assetId⟩
    rcases onTime.stamped user assetId with ⟨_, none⟩ | touched
    · exact absurd none (Nat.ne_of_gt owing)
    · exact touched
  · exact avoids_call List.mem_cons_self (fun _ => onTime.past) books version
  · intro made after success user assetId
    have booked := congrArg Loan.borrowed (call_loan success user assetId)
    rw [World.owed, onTime.accrued user assetId] at booked
    change (after.pool.loan user assetId).borrowed = _
    rw [booked]
    split <;> rfl

/-- A loan of 60 is taken out five blocks after the market has opened. -/
def lateLoan : List (Call Action 7) :=
  openMarket (10 ^ 18) ++
    [⟨1, .mine 5, lender_external⟩, borrowSixty, ⟨1, .mine 7, lender_external⟩]

theorem interest_clock_late_loan :
    let timed := run (Timed.call .first standard) ⟨openChain 1, []⟩ lateLoan
    (timed.world.pool.userAccounts 2).borrowed 1 = 60 ∧ timed.world.blockNumber = 15 ∧
      lastTouch 2 1 timed.done = some 8 := by
  intro timed
  have debt : (timed.world.pool.userAccounts 2).borrowed 1 = 60 := by decide +kernel
  have stamp : (timed.world.pool.userAccounts 2).lastInterestBlock 1 = 8 := by decide +kernel
  obtain ⟨clock, _⟩ := interest_clock .first standard 1 _ 3 lateLoan
  have owing : 0 < (timed.world.pool.userAccounts 2).borrowed 1 := by
    rw [debt]
    omega
  have touched : lastTouch 2 1 timed.done =
      some ((timed.world.pool.userAccounts 2).lastInterestBlock 1) := (clock 2 1 owing).1
  refine ⟨debt, by decide +kernel, ?_⟩
  rw [touched, stamp]

end TonyLend
