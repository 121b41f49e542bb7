import BlazCtf.TonyLend.PoolSpec
import BlazCtf.Lib.Ledger

set_option autoImplicit false

namespace TonyLend

open Evm
open Function (update)

/-- One column of the books adds up to its total, asset by asset. -/
def Balanced (column : UserAccount → Nat → Nat) (total : Asset → Nat) (pool : Pool) : Prop :=
  ∀ assetId, total (pool.assets assetId) = ∑ user, column (pool.userAccounts user) assetId

/-- Both columns add up, and nobody has an entry in an asset not yet listed. -/
structure Books (pool : Pool) : Prop where
  deposits : Balanced UserAccount.deposited Asset.totalDeposited pool
  loans : Balanced UserAccount.borrowed Asset.totalBorrowed pool
  unlisted : ∀ user assetId, pool.assetCount ≤ assetId →
    (pool.userAccounts user).deposited assetId = 0 ∧ (pool.userAccounts user).borrowed assetId = 0

section Columns

variable {column : UserAccount → Nat → Nat} {total : Asset → Nat} {pool : Pool}

theorem Balanced.entry_le (balanced : Balanced column total pool) (user : Address) (assetId : Nat) :
    column (pool.userAccounts user) assetId ≤ total (pool.assets assetId) := by
  rw [balanced assetId]
  exact Finset.single_le_sum (f := fun x => column (pool.userAccounts x) assetId)
    (fun _ _ => Nat.zero_le _) (Finset.mem_univ user)

/-- Changing one entry and its total by the same amount keeps the column balanced. -/
theorem Balanced.update (balanced : Balanced column total pool) (user : Address) (assetId : Nat)
    (account : UserAccount) (asset : Asset)
    (elsewhere : ∀ other, other ≠ assetId →
      column account other = column (pool.userAccounts user) other)
    (moved : total asset + column (pool.userAccounts user) assetId =
      total (pool.assets assetId) + column account assetId) :
    Balanced column total ((pool.setAccount user account).setAsset assetId asset) := by
  intro other
  have sums := Ledger.sum_update_add Finset.univ (fun account => column account other)
    pool.userAccounts (Finset.mem_univ user) account
  have before := balanced other
  change total (Function.update pool.assets assetId asset other) =
    ∑ x, column (Function.update pool.userAccounts user account x) other
  by_cases same : other = assetId
  · subst same
    rw [Function.update_self]
    omega
  · rw [Function.update_of_ne same]
    rw [elsewhere other same] at sums
    omega

end Columns

namespace Books

variable {pool after : Pool}

theorem of_deploy (owner : Address) : Books (Pool.deploy owner) := by
  refine ⟨?_, ?_, fun _ _ _ => ⟨rfl, rfl⟩⟩ <;>
    · intro assetId
      simp [Pool.deploy]

theorem setEntered (books : Books pool) (entered : Bool) : Books (pool.setEntered entered) :=
  ⟨books.deposits, books.loans, books.unlisted⟩

theorem update (books : Books pool) (user : Address) {assetId : Nat}
    (listed : assetId < pool.assetCount) (account : UserAccount) (asset : Asset)
    (elsewhere : ∀ other, other ≠ assetId →
      account.deposited other = (pool.userAccounts user).deposited other ∧
        account.borrowed other = (pool.userAccounts user).borrowed other)
    (deposits : asset.totalDeposited + (pool.userAccounts user).deposited assetId =
      (pool.assets assetId).totalDeposited + account.deposited assetId)
    (loans : asset.totalBorrowed + (pool.userAccounts user).borrowed assetId =
      (pool.assets assetId).totalBorrowed + account.borrowed assetId) :
    Books ((pool.setAccount user account).setAsset assetId asset) := by
  refine ⟨books.deposits.update user assetId account asset (fun other ne => (elsewhere other ne).1)
    deposits, books.loans.update user assetId account asset
    (fun other ne => (elsewhere other ne).2) loans, ?_⟩
  intro other id past
  have distinct : id ≠ assetId := Nat.ne_of_gt (Nat.lt_of_lt_of_le listed past)
  have before := books.unlisted other id past
  change ((Function.update pool.userAccounts user account) other).deposited id = 0 ∧
    ((Function.update pool.userAccounts user account) other).borrowed id = 0
  by_cases same : other = user
  · subst same
    rw [Function.update_self, (elsewhere id distinct).1, (elsewhere id distinct).2]
    exact before
  · rw [Function.update_of_ne same]
    exact before

theorem creditLoan (books : Books pool) (user : Address) {assetId : Nat}
    (listed : assetId < pool.assetCount) (value : Nat) :
    Books (pool.creditLoan user assetId value) := by
  refine books.update user listed _ _ ?_ rfl ?_
  · intro other distinct
    exact ⟨rfl, Function.update_of_ne distinct _ _⟩
  · simp only [UserAccount.setBorrowed, Function.update_self]
    omega

theorem debitLoan (books : Books pool) (user : Address) {assetId value : Nat}
    (listed : assetId < pool.assetCount)
    (funded : value ≤ (pool.userAccounts user).borrowed assetId) :
    Books (pool.debitLoan user assetId value) := by
  have enough := books.loans.entry_le user assetId
  refine books.update user listed _ _ ?_ rfl ?_
  · intro other distinct
    exact ⟨rfl, Function.update_of_ne distinct _ _⟩
  · simp only [UserAccount.setBorrowed, Function.update_self]
    omega

theorem creditDeposit (books : Books pool) (user : Address) {assetId : Nat}
    (listed : assetId < pool.assetCount) (value : Nat) :
    Books (pool.creditDeposit user assetId value) := by
  refine books.update user listed _ _ ?_ ?_ rfl
  · intro other distinct
    exact ⟨Function.update_of_ne distinct _ _, rfl⟩
  · simp only [UserAccount.setDeposited, Function.update_self]
    omega

theorem debitDeposit (books : Books pool) (user : Address) {assetId value : Nat}
    (listed : assetId < pool.assetCount)
    (funded : value ≤ (pool.userAccounts user).deposited assetId) :
    Books (pool.debitDeposit user assetId value) := by
  have enough := books.deposits.entry_le user assetId
  refine books.update user listed _ _ ?_ ?_ rfl
  · intro other distinct
    exact ⟨Function.update_of_ne distinct _ _, rfl⟩
  · simp only [UserAccount.setDeposited, Function.update_self]
    omega

theorem stamp (books : Books pool) (user : Address) {assetId : Nat}
    (listed : assetId < pool.assetCount) (blockNumber : Nat) :
    Books (pool.stamp user assetId blockNumber) := by
  have stamped := books.update user listed
    ((pool.userAccounts user).setLastInterestBlock assetId blockNumber) (pool.assets assetId)
    (fun _ _ => ⟨rfl, rfl⟩) rfl rfl
  simpa only [Pool.stamp, Pool.setAsset, Pool.setAccount, Function.update_eq_self] using stamped

theorem accrue (books : Books pool) (blockNumber : Nat) (user : Address) {assetId : Nat}
    (listed : assetId < pool.assetCount) : Books (pool.accrue blockNumber user assetId) :=
  (books.creditLoan user listed _).stamp user listed blockNumber

theorem liquidated (books : Books pool) (borrower : Address) {assetId collateralAssetId : Nat}
    {quote : Quote} (listed : assetId < pool.assetCount)
    (listedCollateral : collateralAssetId < pool.assetCount)
    (loanLeft : quote.actualLiquidation ≤ (pool.userAccounts borrower).borrowed assetId)
    (depositLeft : quote.collateralAmount ≤
      (pool.userAccounts borrower).deposited collateralAssetId) :
    Books (pool.liquidated borrower assetId collateralAssetId quote) := by
  refine (books.debitLoan borrower listed loanLeft).debitDeposit borrower listedCollateral ?_
  simpa only [Pool.debitLoan, Pool.setAccount, Pool.setAsset, UserAccount.setBorrowed,
    Function.update_self] using depositLeft

/-- Owner calls list only empty assets, at an id where nobody has an entry. -/
theorem of_extends (books : Books pool) (extended : Extends pool after) : Books after := by
  have column : ∀ (entry : UserAccount → Nat → Nat) (total : Asset → Nat),
      Balanced entry total pool →
      (∀ token baseRate, total ⟨token, 0, 0, baseRate⟩ = 0) →
      (∀ user assetId, pool.assetCount ≤ assetId → entry (pool.userAccounts user) assetId = 0) →
      Balanced entry total after := by
    intro entry total balanced empty absent assetId
    rw [extended.accounts, ← balanced assetId]
    by_cases listed : assetId < pool.assetCount
    · rw [extended.assets assetId listed]
    · rcases extended.fresh assetId (by omega) with same | ⟨token, baseRate, created⟩
      · rw [same]
      · rw [created, empty, balanced assetId]
        exact (Finset.sum_eq_zero fun user _ => absent user assetId (by omega)).symm
  refine ⟨column _ _ books.deposits (fun _ _ => rfl)
      (fun user id past => (books.unlisted user id past).1),
    column _ _ books.loans (fun _ _ => rfl)
      (fun user id past => (books.unlisted user id past).2), ?_⟩
  intro user assetId past
  rw [extended.accounts]
  exact books.unlisted user assetId (extended.listed.trans past)

end Books

section Steps

variable {τ κ : Type} {env : Outside τ κ} {this : Address} {w after : World τ}

theorem callTransferFrom_extends {token sender recipient : Address} {value : Nat} {result : Bool}
    (success : callTransferFrom env this w token sender recipient value = .ok (after, result)) :
    Extends w.pool after.pool := by
  obtain ⟨_, nested, _, rfl⟩ := callTransferFrom_ok success
  exact nested_extends w.pool nested

theorem callTransfer_extends {token recipient : Address} {value : Nat} {result : Bool}
    (success : callTransfer env this w token recipient value = .ok (after, result)) :
    Extends w.pool after.pool := by
  obtain ⟨_, nested, _, rfl⟩ := callTransfer_ok success
  exact nested_extends w.pool nested

theorem call_books {version : Version} {made : Call κ this} (books : Books w.pool)
    (success : call version env w made = .ok after) : Books after.pool := by
  obtain ⟨msgSender, op, external⟩ := made
  cases op with
  | owner op =>
      simp only [call, bind_ok_iff, pure_ok_iff] at success
      obtain ⟨pool, owned, rfl⟩ := success
      exact books.of_extends (ownerCall_extends owned)
  | deposit assetId amount =>
      obtain ⟨paid, step⟩ := deposit_ok success
      have extended := callTransferFrom_extends step.collected
      have listed : assetId < paid.pool.assetCount := Nat.lt_of_lt_of_le step.listed extended.listed
      rw [step.booked]
      exact ((((books.setEntered true).of_extends extended).accrue _ _ listed).creditDeposit _
        listed amount).setEntered false
  | withdraw assetId amount =>
      cases version with
      | second => cases success
      | first =>
          obtain ⟨paid, step⟩ := withdraw_ok success
          have booked := ((books.setEntered true).accrue w.blockNumber msgSender
            step.listed).debitDeposit msgSender step.listed step.funded
          rw [step.booked]
          exact (booked.of_extends (callTransfer_extends step.sent)).setEntered false
  | borrow assetId amount =>
      obtain ⟨paid, step⟩ := borrow_ok success
      have booked := ((books.setEntered true).accrue w.blockNumber msgSender
        step.listed).creditLoan msgSender step.listed amount
      rw [step.booked]
      exact (booked.of_extends (callTransfer_extends step.sent)).setEntered false
  | repay assetId amount =>
      cases version with
      | second => cases success
      | first =>
          obtain ⟨paid, step⟩ := repay_ok success
          have extended := callTransferFrom_extends step.collected
          have listed : assetId < paid.pool.assetCount :=
            Nat.lt_of_lt_of_le step.listed extended.listed
          have current := ((books.setEntered true).accrue w.blockNumber msgSender
            step.listed).of_extends extended
          rw [step.booked]
          exact (current.debitLoan msgSender listed step.funded).setEntered false
  | liquidate borrower assetId amount collateralAssetId =>
      obtain ⟨quote, collected, paid, step⟩ := liquidate_ok success
      have extended := (callTransferFrom_extends step.received).trans
        (callTransfer_extends step.sent)
      have current := (((books.setEntered true).accrue w.blockNumber borrower step.listed.1).accrue
        w.blockNumber borrower step.listed.2).of_extends extended
      rw [step.booked]
      exact (current.liquidated borrower (Nat.lt_of_lt_of_le step.listed.1 extended.listed)
        (Nat.lt_of_lt_of_le step.listed.2 extended.listed) step.loanLeft
        step.depositLeft).setEntered false
  | mine blocks =>
      simp only [call, pure_ok_iff] at success
      subst success
      exact books
  | outside action =>
      simp only [call, bind_ok_iff, pure_ok_iff] at success
      obtain ⟨_, _, rfl⟩ := success
      exact books

end Steps

theorem run_books {τ κ : Type} {this : Address} (version : Version) (env : Outside τ κ)
    (owner : Address) (outside : τ) (blockNumber : Nat) (calls : List (Call κ this)) :
    Books (run (call version env) (deployWorld owner outside blockNumber) calls).pool :=
  run_invariant (fun w : World τ => Books w.pool) (fun _ _ _ => call_books) calls _
    (Books.of_deploy owner)

end TonyLend
