import BlazCtf.TonyLend.PoolBooks
import BlazCtf.Lib.Portfolio

set_option autoImplicit false

namespace TonyLend

open Evm Portfolio
open Function (update)

namespace Pool

/-- What a user's deposits in the listed assets are worth. -/
def collateral (pool : Pool) (prices : Nat → Nat) (user : Address) : Nat :=
  worth (Finset.range pool.assetCount) prices (pool.userAccounts user).deposited

/-- What a user's loans in the listed assets are worth, as they are booked. -/
def debt (pool : Pool) (prices : Nat → Nat) (user : Address) : Nat :=
  worth (Finset.range pool.assetCount) prices (pool.userAccounts user).borrowed

variable (pool : Pool) (prices : Nat → Nat) (user : Address) {assetId value blockNumber : Nat}

theorem account_creditLoan : (pool.creditLoan user assetId value).userAccounts user =
    (pool.userAccounts user).setBorrowed assetId
      ((pool.userAccounts user).borrowed assetId + value) := Function.update_self _ _ _

theorem account_debitLoan : (pool.debitLoan user assetId value).userAccounts user =
    (pool.userAccounts user).setBorrowed assetId
      ((pool.userAccounts user).borrowed assetId - value) := Function.update_self _ _ _

theorem account_creditDeposit : (pool.creditDeposit user assetId value).userAccounts user =
    (pool.userAccounts user).setDeposited assetId
      ((pool.userAccounts user).deposited assetId + value) := Function.update_self _ _ _

theorem account_debitDeposit : (pool.debitDeposit user assetId value).userAccounts user =
    (pool.userAccounts user).setDeposited assetId
      ((pool.userAccounts user).deposited assetId - value) := Function.update_self _ _ _

theorem account_stamp : (pool.stamp user assetId blockNumber).userAccounts user =
    (pool.userAccounts user).setLastInterestBlock assetId blockNumber :=
  Function.update_self _ _ _

theorem deposited_accrue : ((pool.accrue blockNumber user assetId).userAccounts user).deposited =
    (pool.userAccounts user).deposited := by
  unfold accrue
  rw [account_stamp, account_creditLoan]
  rfl

theorem borrowed_accrue : ((pool.accrue blockNumber user assetId).userAccounts user).borrowed =
    update (pool.userAccounts user).borrowed assetId
      ((pool.userAccounts user).borrowed assetId + pool.accrued blockNumber user assetId) := by
  unfold accrue
  rw [account_stamp, account_creditLoan]
  rfl

@[simp] theorem collateral_setEntered (entered : Bool) :
    (pool.setEntered entered).collateral prices user = pool.collateral prices user := rfl

@[simp] theorem debt_setEntered (entered : Bool) :
    (pool.setEntered entered).debt prices user = pool.debt prices user := rfl

@[simp] theorem collateral_creditLoan :
    (pool.creditLoan user assetId value).collateral prices user = pool.collateral prices user := by
  unfold collateral
  rw [account_creditLoan]
  rfl

@[simp] theorem collateral_debitLoan :
    (pool.debitLoan user assetId value).collateral prices user = pool.collateral prices user := by
  unfold collateral
  rw [account_debitLoan]
  rfl

@[simp] theorem collateral_accrue :
    (pool.accrue blockNumber user assetId).collateral prices user =
      pool.collateral prices user := by
  unfold collateral
  rw [deposited_accrue]
  rfl

@[simp] theorem debt_creditDeposit :
    (pool.creditDeposit user assetId value).debt prices user = pool.debt prices user := by
  unfold debt
  rw [account_creditDeposit]
  rfl

@[simp] theorem debt_debitDeposit :
    (pool.debitDeposit user assetId value).debt prices user = pool.debt prices user := by
  unfold debt
  rw [account_debitDeposit]
  rfl

theorem collateral_creditDeposit (listed : assetId < pool.assetCount) (value : Nat) :
    (pool.creditDeposit user assetId value).collateral prices user =
      pool.collateral prices user + value * prices assetId := by
  unfold collateral
  rw [account_creditDeposit]
  exact worth_credit prices _ (Finset.mem_range.mpr listed) value

theorem collateral_debitDeposit (listed : assetId < pool.assetCount)
    (funded : value ≤ (pool.userAccounts user).deposited assetId) :
    (pool.debitDeposit user assetId value).collateral prices user + value * prices assetId =
      pool.collateral prices user := by
  unfold collateral
  rw [account_debitDeposit]
  exact worth_debit prices _ (Finset.mem_range.mpr listed) funded

theorem debt_creditLoan (listed : assetId < pool.assetCount) (value : Nat) :
    (pool.creditLoan user assetId value).debt prices user =
      pool.debt prices user + value * prices assetId := by
  unfold debt
  rw [account_creditLoan]
  exact worth_credit prices _ (Finset.mem_range.mpr listed) value

theorem debt_debitLoan (listed : assetId < pool.assetCount)
    (funded : value ≤ (pool.userAccounts user).borrowed assetId) :
    (pool.debitLoan user assetId value).debt prices user + value * prices assetId =
      pool.debt prices user := by
  unfold debt
  rw [account_debitLoan]
  exact worth_debit prices _ (Finset.mem_range.mpr listed) funded

theorem debt_accrue (listed : assetId < pool.assetCount) :
    (pool.accrue blockNumber user assetId).debt prices user =
      pool.debt prices user + pool.accrued blockNumber user assetId * prices assetId := by
  unfold debt
  rw [borrowed_accrue]
  exact worth_credit prices _ (Finset.mem_range.mpr listed) _

variable {pool} {after : Pool}

/-- Nobody holds or owes anything in an asset that is listed later. -/
theorem collateral_of_account (books : Books pool)
    (account : after.userAccounts user = pool.userAccounts user)
    (listed : pool.assetCount ≤ after.assetCount) :
    after.collateral prices user = pool.collateral prices user := by
  unfold collateral
  rw [account]
  apply worth_of_subset
  · exact Finset.range_subset_range.mpr listed
  · intro id outside
    exact (books.unlisted user id (by simpa using outside)).1

theorem debt_of_account (books : Books pool)
    (account : after.userAccounts user = pool.userAccounts user)
    (listed : pool.assetCount ≤ after.assetCount) :
    after.debt prices user = pool.debt prices user := by
  unfold debt
  rw [account]
  apply worth_of_subset
  · exact Finset.range_subset_range.mpr listed
  · intro id outside
    exact (books.unlisted user id (by simpa using outside)).2

theorem collateral_of_extends (books : Books pool) (extended : Extends pool after) :
    after.collateral prices user = pool.collateral prices user :=
  collateral_of_account prices user books (by rw [extended.accounts]) extended.listed

theorem debt_of_extends (books : Books pool) (extended : Extends pool after) :
    after.debt prices user = pool.debt prices user :=
  debt_of_account prices user books (by rw [extended.accounts]) extended.listed

end Pool

/-- The quotient `calculateHealthFactor` returns, for given totals. -/
def healthFactor (collateral debt : Nat) : Nat := ratio PRECISION (2 ^ 256 - 1) collateral debt

/-- The totals and the scaled collateral are words, so the computation does not panic. -/
structure Fits (collateral debt : Nat) : Prop where
  deposits : collateral < 2 ^ 256
  loans : debt < 2 ^ 256
  scaled : debt ≠ 0 → collateral * PRECISION < 2 ^ 256

theorem precision_le_healthFactor_iff {collateral debt : Nat} :
    PRECISION ≤ healthFactor collateral debt ↔ debt ≤ collateral :=
  unit_le_ratio_iff (by decide) (by decide)

theorem Fits.scaled_le {collateral debt : Nat} (fits : Fits collateral debt) (owing : debt ≠ 0) :
    collateral * PRECISION ≤ 2 ^ 256 - 1 := Nat.le_sub_one_of_lt (fits.scaled owing)

theorem Fits.of_le {collateral debt collateral' debt' : Nat} (fits : Fits collateral debt)
    (lower : collateral' ≤ collateral) (less : debt' ≤ debt) : Fits collateral' debt' := by
  refine ⟨Nat.lt_of_le_of_lt lower fits.deposits, Nat.lt_of_le_of_lt less fits.loans, ?_⟩
  intro owing
  have scaled := fits.scaled (by omega)
  exact Nat.lt_of_le_of_lt (Nat.mul_le_mul_right PRECISION lower) scaled

section Health

variable {τ κ : Type} {env : Outside τ κ} {w after : World τ} {prices : Nat → Nat}
  {account : UserAccount} {user : Address} {health : Nat}

/-- Every listed asset has the given price. -/
def PricedAt (env : Outside τ κ) (w : World τ) (prices : Nat → Nat) : Prop :=
  ∀ assetId < w.pool.assetCount, getAssetPrice env w assetId = .ok (prices assetId)

instance instDecidablePricedAt (env : Outside τ κ) (w : World τ) (prices : Nat → Nat) :
    Decidable (PricedAt env w prices) :=
  inferInstanceAs (Decidable (∀ assetId < w.pool.assetCount,
    getAssetPrice env w assetId = .ok (prices assetId)))

/-- Prices are read from outside, through oracles that the books do not touch. -/
theorem PricedAt.rebook (priced : PricedAt env w prices) {pool : Pool}
    (listed : pool.assetCount = w.pool.assetCount)
    (oracles : pool.priceOracles = w.pool.priceOracles) :
    PricedAt env { w with pool } prices := by
  intro assetId below
  have read := priced assetId (listed ▸ below)
  unfold getAssetPrice at read ⊢
  rw [oracles]
  exact read

theorem healthTotals_ok_iff {count : Nat}
    (priced : ∀ assetId < count, getAssetPrice env w assetId = .ok (prices assetId))
    {collateral debt : Nat} :
    healthTotals env w account count = .ok (collateral, debt) ↔
      (worth (Finset.range count) prices account.deposited = collateral ∧ collateral < 2 ^ 256) ∧
      (worth (Finset.range count) prices account.borrowed = debt ∧ debt < 2 ^ 256) := by
  induction count generalizing collateral debt with
  | zero =>
      simp only [healthTotals, pure_ok_iff, Prod.mk.injEq, worth, Finset.range_zero,
        Finset.sum_empty]
      omega
  | succ i ih =>
      have rest := fun assetId below => priced assetId (Nat.lt_succ_of_lt below)
      simp only [healthTotals, bind_ok_iff, pure_ok_iff, checkedMul_ok_iff, checkedAdd_ok_iff,
        Prod.exists, Prod.mk.injEq, priced i (Nat.lt_succ_self i), Except.ok.injEq, ih rest]
      unfold worth
      rw [Finset.sum_range_succ, Finset.sum_range_succ]
      constructor
      · rintro ⟨_, _, ⟨⟨rfl, _⟩, rfl, _⟩, _, rfl, _, ⟨_, rfl⟩, _, rfl, _, ⟨_, rfl⟩, _, ⟨fitC, rfl⟩,
          _, ⟨fitD, rfl⟩, rfl, rfl⟩
        exact ⟨⟨rfl, fitC⟩, rfl, fitD⟩
      · rintro ⟨⟨rfl, fitC⟩, rfl, fitD⟩
        exact ⟨_, _, ⟨⟨rfl, by omega⟩, rfl, by omega⟩, _, rfl, _, ⟨by omega, rfl⟩, _, rfl, _,
          ⟨by omega, rfl⟩, _, ⟨fitC, rfl⟩, _, ⟨fitD, rfl⟩, rfl, rfl⟩

/-- The loop reads the price of every asset, so it returns only if all oracles answer. -/
theorem healthTotals_reads {count : Nat} {totals : Nat × Nat}
    (success : healthTotals env w account count = .ok totals) :
    ∀ assetId < count, ∃ price, getAssetPrice env w assetId = .ok price := by
  induction count generalizing totals with
  | zero =>
      intro assetId below
      omega
  | succ i ih =>
      simp only [healthTotals, bind_ok_iff] at success
      obtain ⟨_, rest, price, read, _⟩ := success
      intro assetId below
      by_cases last : assetId = i
      · subst last
        exact ⟨price, read⟩
      · exact ih rest assetId (by omega)

/-- What `calculateHealthFactor` computes, and when it does. -/
theorem calculateHealthFactor_ok_iff (priced : PricedAt env w prices) :
    calculateHealthFactor env w user = .ok health ↔
      Fits (w.pool.collateral prices user) (w.pool.debt prices user) ∧
        healthFactor (w.pool.collateral prices user) (w.pool.debt prices user) = health := by
  simp only [calculateHealthFactor, bind_ok_iff, Prod.exists, healthTotals_ok_iff priced]
  unfold healthFactor ratio
  constructor
  · rintro ⟨_, _, ⟨⟨rfl, fitC⟩, rfl, fitD⟩, quotient⟩
    split at quotient
    · rename_i nothing
      rw [pure_ok_iff] at quotient
      exact ⟨⟨fitC, fitD, fun owing => absurd nothing owing⟩, (if_pos nothing).trans quotient⟩
    · rename_i owing
      simp only [bind_ok_iff, checkedMul_ok_iff, checkedDiv_ok_iff] at quotient
      obtain ⟨_, ⟨scaled, rfl⟩, _, quotient⟩ := quotient
      exact ⟨⟨fitC, fitD, fun _ => scaled⟩, (if_neg owing).trans quotient⟩
  · rintro ⟨fits, quotient⟩
    refine ⟨_, _, ⟨⟨rfl, fits.deposits⟩, rfl, fits.loans⟩, ?_⟩
    split
    · rename_i nothing
      rw [pure_ok_iff, ← quotient]
      exact (if_pos nothing).symm
    · rename_i owing
      simp only [bind_ok_iff, checkedMul_ok_iff, checkedDiv_ok_iff]
      exact ⟨_, ⟨fits.scaled owing, rfl⟩, owing, (if_neg owing).symm.trans quotient⟩

/-- The health factor can be computed and covers the debt. -/
def Collateralised (env : Outside τ κ) (w : World τ) (user : Address) : Prop :=
  ∃ health, calculateHealthFactor env w user = .ok health ∧ PRECISION ≤ health

theorem collateralised_iff (priced : PricedAt env w prices) :
    Collateralised env w user ↔
      Fits (w.pool.collateral prices user) (w.pool.debt prices user) ∧
        w.pool.debt prices user ≤ w.pool.collateral prices user := by
  unfold Collateralised
  simp only [calculateHealthFactor_ok_iff priced]
  constructor
  · rintro ⟨_, ⟨fits, rfl⟩, enough⟩
    exact ⟨fits, precision_le_healthFactor_iff.mp enough⟩
  · rintro ⟨fits, covered⟩
    exact ⟨_, ⟨fits, rfl⟩, precision_le_healthFactor_iff.mpr covered⟩

end Health

/-- What calls made by others, other than a liquidation, leave of a user: the
account, the listed assets and their rates. -/
structure LeavesAlone (user : Address) (pool after : Pool) : Prop where
  account : after.userAccounts user = pool.userAccounts user
  listed : pool.assetCount ≤ after.assetCount
  rates : ∀ assetId < pool.assetCount,
    (after.assets assetId).baseRate = (pool.assets assetId).baseRate

namespace LeavesAlone

variable {user other : Address} {pool middle after : Pool} {assetId : Nat}

theorem refl (user : Address) (pool : Pool) : LeavesAlone user pool pool :=
  ⟨rfl, Nat.le_refl _, fun _ _ => rfl⟩

theorem trans (first : LeavesAlone user pool middle) (second : LeavesAlone user middle after) :
    LeavesAlone user pool after := by
  refine ⟨second.account.trans first.account, first.listed.trans second.listed, ?_⟩
  intro id below
  rw [second.rates id (Nat.lt_of_lt_of_le below first.listed), first.rates id below]

theorem of_extends (user : Address) (extended : Extends pool after) :
    LeavesAlone user pool after := by
  refine ⟨by rw [extended.accounts], extended.listed, ?_⟩
  intro id below
  rw [extended.assets id below]

theorem setEntered (user : Address) (pool : Pool) (entered : Bool) :
    LeavesAlone user pool (pool.setEntered entered) :=
  ⟨rfl, Nat.le_refl _, fun _ _ => rfl⟩

theorem update (distinct : user ≠ other) (pool : Pool) (account : UserAccount) {asset : Asset}
    (rate : asset.baseRate = (pool.assets assetId).baseRate) :
    LeavesAlone user pool ((pool.setAccount other account).setAsset assetId asset) := by
  refine ⟨Function.update_of_ne distinct _ _, Nat.le_refl _, ?_⟩
  intro id _
  change (Function.update pool.assets assetId asset id).baseRate = _
  by_cases same : id = assetId
  · subst same
    rw [Function.update_self]
    exact rate
  · rw [Function.update_of_ne same]

theorem creditLoan (distinct : user ≠ other) (pool : Pool) (value : Nat) :
    LeavesAlone user pool (pool.creditLoan other assetId value) := update distinct pool _ rfl

theorem debitLoan (distinct : user ≠ other) (pool : Pool) (value : Nat) :
    LeavesAlone user pool (pool.debitLoan other assetId value) := update distinct pool _ rfl

theorem creditDeposit (distinct : user ≠ other) (pool : Pool) (value : Nat) :
    LeavesAlone user pool (pool.creditDeposit other assetId value) := update distinct pool _ rfl

theorem debitDeposit (distinct : user ≠ other) (pool : Pool) (value : Nat) :
    LeavesAlone user pool (pool.debitDeposit other assetId value) := update distinct pool _ rfl

theorem accrue (distinct : user ≠ other) (pool : Pool) (blockNumber : Nat) :
    LeavesAlone user pool (pool.accrue blockNumber other assetId) := by
  apply (creditLoan distinct pool _).trans
  exact ⟨Function.update_of_ne distinct _ _, Nat.le_refl _, fun _ _ => rfl⟩

end LeavesAlone

section Steps

variable {τ κ : Type} {env : Outside τ κ} {this : Address} {w after : World τ}

theorem call_leavesAlone {version : Version} {made : Call κ this} {user : Address}
    (success : call version env w made = .ok after) (bystander : user ≠ made.msgSender)
    (spared : ∀ assetId amount collateralAssetId,
      made.op ≠ .liquidate user assetId amount collateralAssetId) :
    LeavesAlone user w.pool after.pool := by
  obtain ⟨msgSender, op, external⟩ := made
  have entered := LeavesAlone.setEntered user w.pool true
  cases op with
  | owner op =>
      simp only [call, bind_ok_iff, pure_ok_iff] at success
      obtain ⟨pool, owned, rfl⟩ := success
      exact .of_extends user (ownerCall_extends owned)
  | deposit assetId amount =>
      obtain ⟨paid, step⟩ := deposit_ok success
      have collected := LeavesAlone.of_extends user (callTransferFrom_extends step.collected)
      rw [step.booked]
      exact (((entered.trans collected).trans (.accrue bystander _ _)).trans
        (.creditDeposit bystander _ _)).trans (.setEntered user _ false)
  | withdraw assetId amount =>
      cases version with
      | second => cases success
      | first =>
          obtain ⟨paid, step⟩ := withdraw_ok success
          have sent := LeavesAlone.of_extends user (callTransfer_extends step.sent)
          rw [step.booked]
          exact (((entered.trans (.accrue bystander _ _)).trans
            (.debitDeposit bystander _ _)).trans sent).trans (.setEntered user _ false)
  | borrow assetId amount =>
      obtain ⟨paid, step⟩ := borrow_ok success
      have sent := LeavesAlone.of_extends user (callTransfer_extends step.sent)
      rw [step.booked]
      exact (((entered.trans (.accrue bystander _ _)).trans
        (.creditLoan bystander _ _)).trans sent).trans (.setEntered user _ false)
  | repay assetId amount =>
      cases version with
      | second => cases success
      | first =>
          obtain ⟨paid, step⟩ := repay_ok success
          have collected := LeavesAlone.of_extends user (callTransferFrom_extends step.collected)
          rw [step.booked]
          exact (((entered.trans (.accrue bystander _ _)).trans collected).trans
            (.debitLoan bystander _ _)).trans (.setEntered user _ false)
  | liquidate borrower assetId amount collateralAssetId =>
      have distinct : user ≠ borrower := by
        rintro rfl
        exact spared assetId amount collateralAssetId rfl
      obtain ⟨quote, collected, paid, step⟩ := liquidate_ok success
      have interest : LeavesAlone user w.pool
          (w.afterInterest borrower assetId collateralAssetId).pool :=
        (entered.trans (.accrue distinct _ _)).trans (.accrue distinct _ _)
      have extended := LeavesAlone.of_extends user
        ((callTransferFrom_extends step.received).trans (callTransfer_extends step.sent))
      rw [step.booked]
      exact (((interest.trans extended).trans (.debitLoan distinct _ _)).trans
        (.debitDeposit distinct _ _)).trans (.setEntered user _ false)
  | mine blocks =>
      simp only [call, pure_ok_iff] at success
      subst success
      exact .refl user _
  | outside action =>
      simp only [call, bind_ok_iff, pure_ok_iff] at success
      obtain ⟨_, _, rfl⟩ := success
      exact .refl user _

end Steps

end TonyLend
