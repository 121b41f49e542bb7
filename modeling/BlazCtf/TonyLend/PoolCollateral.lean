import BlazCtf.TonyLend.PoolHealth
import BlazCtf.TonyLend.PoolCash

set_option autoImplicit false

namespace TonyLend

open Evm Portfolio

theorem Version.precision_le_borrowHealthFactor (version : Version) :
    PRECISION ≤ version.borrowHealthFactor := by
  cases version <;> decide

section Calls

variable {τ κ : Type} {env : Outside τ κ} {this msgSender : Address} {w after : World τ}
  {prices : Nat → Nat} {assetId amount : Nat}

/-- `borrow` checks the books it leaves, so the caller ends up collateralised. -/
theorem borrow_collateralised {version : Version} (books : Books w.pool)
    (priced : PricedAt env w prices) (pricedAfter : PricedAt env after prices)
    (success : borrow env this msgSender version assetId amount w = .ok after) :
    Collateralised env after msgSender := by
  obtain ⟨paid, step⟩ := borrow_ok success
  have booked := ((books.setEntered true).accrue w.blockNumber msgSender step.listed).creditLoan
    msgSender step.listed amount
  have extended := callTransfer_extends step.sent
  have asked := version.precision_le_borrowHealthFactor
  have checkedPrices : PricedAt env { w with
      pool := ((w.pool.setEntered true).accrue w.blockNumber msgSender assetId).creditLoan
        msgSender assetId amount } prices := priced.rebook rfl rfl
  obtain ⟨health, computed, enough⟩ := step.healthy
  have checked := (collateralised_iff checkedPrices).mp ⟨health, computed, asked.trans enough⟩
  rw [collateralised_iff pricedAfter, step.booked]
  simp only [Pool.collateral_setEntered, Pool.debt_setEntered,
    Pool.collateral_of_extends prices msgSender booked extended,
    Pool.debt_of_extends prices msgSender booked extended]
  exact checked

/-- `withdraw` checks the books before it takes the amount off, so the caller ends
up collateralised only if the deposits also cover the amount withdrawn. -/
theorem withdraw_collateralised (books : Books w.pool)
    (priced : PricedAt env w prices) (pricedAfter : PricedAt env after prices)
    (success : withdraw env this msgSender assetId amount w = .ok after) :
    Collateralised env after msgSender ↔
      w.pool.debt prices msgSender +
          w.pool.accrued w.blockNumber msgSender assetId * prices assetId +
          amount * prices assetId ≤ w.pool.collateral prices msgSender := by
  obtain ⟨paid, step⟩ := withdraw_ok success
  have accrued := (books.setEntered true).accrue w.blockNumber msgSender step.listed
  have booked := accrued.debitDeposit msgSender step.listed step.funded
  have extended := callTransfer_extends step.sent
  have checkedPrices : PricedAt env { w with
      pool := (w.pool.setEntered true).accrue w.blockNumber msgSender assetId } prices :=
    priced.rebook rfl rfl
  obtain ⟨health, computed, enough⟩ := step.healthy
  obtain ⟨fits, _⟩ := (collateralised_iff checkedPrices).mp ⟨health, computed, enough⟩
  have taken := Pool.collateral_debitDeposit ((w.pool.setEntered true).accrue w.blockNumber
    msgSender assetId) prices msgSender step.listed step.funded
  have owed : ((w.pool.setEntered true).accrue w.blockNumber msgSender assetId).debt prices
      msgSender = w.pool.debt prices msgSender +
        w.pool.accrued w.blockNumber msgSender assetId * prices assetId :=
    Pool.debt_accrue (w.pool.setEntered true) prices msgSender step.listed
  rw [collateralised_iff pricedAfter, step.booked]
  simp only [Pool.collateral_setEntered, Pool.debt_setEntered,
    Pool.collateral_of_extends prices msgSender booked extended,
    Pool.debt_of_extends prices msgSender booked extended, Pool.debt_debitDeposit,
    Pool.collateral_accrue] at fits taken owed ⊢
  rw [owed] at fits ⊢
  constructor
  · rintro ⟨_, covered⟩
    omega
  · intro covered
    exact ⟨fits.of_le (by omega) (Nat.le_refl _), by omega⟩

end Calls

/-- In every reachable state of the first version, a successful `borrow` leaves its
caller collateralised, and a successful `withdraw` does exactly when the deposits
cover the debt and the amount withdrawn together. -/
theorem withdraw_borrow_collateralised {τ κ : Type} {this : Address} (env : Outside τ κ)
    (owner : Address) (outside : τ) (blockNumber : Nat) (calls : List (Call κ this))
    (msgSender : Address) (external : msgSender ≠ this) (assetId amount : Nat)
    (prices : Nat → Nat) (after : World τ) :
    let w := run (call .first env) (deployWorld owner outside blockNumber) calls
    PricedAt env w prices → PricedAt env after prices →
    (call .first env w ⟨msgSender, .borrow assetId amount, external⟩ = .ok after →
      Collateralised env after msgSender) ∧
    (call .first env w ⟨msgSender, .withdraw assetId amount, external⟩ = .ok after →
      (Collateralised env after msgSender ↔
        w.pool.debt prices msgSender +
            w.pool.accrued w.blockNumber msgSender assetId * prices assetId +
            amount * prices assetId ≤ w.pool.collateral prices msgSender)) := by
  intro w priced pricedAfter
  have books : Books w.pool := run_books .first env owner outside blockNumber calls
  constructor
  · intro success
    exact borrow_collateralised books priced pricedAfter success
  · intro success
    exact withdraw_collateralised books priced pricedAfter success

theorem lender_external : (1 : Address) ≠ 7 := by decide

theorem borrower_external : (2 : Address) ≠ 7 := by decide

/-- A market at address 7 with two assets: the owner lends 500 of the second, on which
loans bear interest at `baseRate`, and account 2 deposits 100 of the first. -/
def openMarket (baseRate : Nat) : List (Call Action 7) :=
  [⟨1, .owner (.addAsset 5 0), lender_external⟩,
   ⟨1, .owner (.addAsset 6 baseRate), lender_external⟩,
   ⟨1, .owner (.setPriceOracle 0 9), lender_external⟩,
   ⟨1, .owner (.setPriceOracle 1 9), lender_external⟩,
   ⟨1, .outside (.approve 6 7 500), lender_external⟩,
   ⟨1, .deposit 1 500, lender_external⟩,
   ⟨1, .outside (.transfer 5 2 100), lender_external⟩,
   ⟨2, .outside (.approve 5 7 100), borrower_external⟩,
   ⟨2, .deposit 0 100, borrower_external⟩]

/-- Two standard tokens owned by account 1, and an oracle that answers `price` for the
first asset and 1 for every other one. -/
def openChain (price : Nat) : World Chain :=
  deployWorld 1 (deployChain (fun _ => 1) (fun _ => 1000)
    fun _ assetId => some (if assetId = 0 then price else 1)) 3

def borrowSixty : Call Action 7 := ⟨2, .borrow 1 60, borrower_external⟩

def withdrawAll : Call Action 7 := ⟨2, .withdraw 0 100, borrower_external⟩

/-- With 100 deposited and 60 borrowed at equal prices, everything can be withdrawn. -/
theorem withdraw_leaves_debt_uncovered :
    let w := run (call .first standard) (openChain 1) (openMarket 0 ++ [borrowSixty])
    let after := commit (call .first standard) w withdrawAll
    call .first standard w withdrawAll = .ok after ∧
      PricedAt standard w (fun _ => 1) ∧ PricedAt standard after (fun _ => 1) ∧
      ¬ Collateralised standard after 2 := by
  intro w after
  have uncovered : calculateHealthFactor standard after 2 = .ok 0 := by decide +kernel
  refine ⟨ok_commit (by decide +kernel), by decide +kernel, by decide +kernel, ?_⟩
  rintro ⟨health, computed, enough⟩
  rw [uncovered] at computed
  cases computed
  exact absurd enough (by decide)

def withdrawForty : Call Action 7 := ⟨2, .withdraw 0 40, borrower_external⟩

theorem borrow_sixty_collateralised :
    let w := run (call .first standard) (openChain 1) (openMarket 0)
    let borrowed := run (call .first standard) (openChain 1) (openMarket 0 ++ [borrowSixty])
    Collateralised standard (commit (call .first standard) w borrowSixty) 2 ∧
      Collateralised standard (commit (call .first standard) borrowed withdrawForty) 2 := by
  intro w borrowed
  constructor
  · exact (withdraw_borrow_collateralised standard 1 _ 3 (openMarket 0) 2 (by decide) 1 60
      (fun _ => 1) _ (by decide +kernel) (by decide +kernel)).1 (ok_commit (by decide +kernel))
  · exact ((withdraw_borrow_collateralised standard 1 _ 3 (openMarket 0 ++ [borrowSixty]) 2
      (by decide) 0 40 (fun _ => 1) _ (by decide +kernel) (by decide +kernel)).2
        (ok_commit (by decide +kernel))).mpr (by decide +kernel)

/-- The calls that add collateral or take debt off. -/
def Op.Safer {κ : Type} : Op κ → Prop
  | .deposit _ _ | .repay _ _ => True
  | _ => False

/-- The calls that take collateral off or add debt. -/
def Op.Riskier {κ : Type} : Op κ → Prop
  | .withdraw _ _ | .borrow _ _ => True
  | _ => False

theorem Op.Safer.cases {κ : Type} {op : Op κ} (safer : op.Safer) :
    (∃ assetId amount, op = .deposit assetId amount) ∨
      ∃ assetId amount, op = .repay assetId amount := by
  cases op with
  | deposit assetId amount => exact .inl ⟨assetId, amount, rfl⟩
  | repay assetId amount => exact .inr ⟨assetId, amount, rfl⟩
  | owner | withdraw | borrow | liquidate | mine | outside => cases safer

theorem Op.Riskier.cases {κ : Type} {op : Op κ} (riskier : op.Riskier) :
    (∃ assetId amount, op = .withdraw assetId amount) ∨
      ∃ assetId amount, op = .borrow assetId amount := by
  cases op with
  | withdraw assetId amount => exact .inl ⟨assetId, amount, rfl⟩
  | borrow assetId amount => exact .inr ⟨assetId, amount, rfl⟩
  | owner | deposit | repay | liquidate | mine | outside => cases riskier

/-- The state of such a call just after it has accrued its caller's interest;
`deposit` collects the token before that. -/
def accrualPoint {τ κ : Type} {this : Address} (env : Outside τ κ) (w : World τ)
    (made : Call κ this) : Outcome (World τ) :=
  match made.op with
  | .deposit assetId amount => do
      let (w, _) ← callTransferFrom env this { w with pool := w.pool.setEntered true }
        (w.pool.assets assetId).token made.msgSender this amount
      let pool ← updateInterest w.pool w.blockNumber made.msgSender assetId
      pure { w with pool }
  | .withdraw assetId _ | .borrow assetId _ | .repay assetId _ => do
      let pool ← updateInterest (w.pool.setEntered true) w.blockNumber made.msgSender assetId
      pure { w with pool }
  | _ => pure w

section Direction

variable {τ κ : Type} {env : Outside τ κ} {this msgSender : Address} {w after middle : World τ}
  {prices : Nat → Nat} {assetId amount : Nat}

theorem accrualPoint_returns {made : Call κ this} (success : call .first env w made = .ok after)
    (moves : made.op.Safer ∨ made.op.Riskier) : ∃ middle, accrualPoint env w made = .ok middle := by
  obtain ⟨msgSender, op, external⟩ := made
  rcases moves with safer | riskier
  · obtain ⟨assetId, amount, rfl⟩ | ⟨assetId, amount, rfl⟩ := safer.cases
    · simp only [call, deposit] at success
      obtain ⟨last, body, _⟩ := nonReentrant_ok success
      simp only [bind_ok_iff, Prod.exists] at body
      obtain ⟨_, _, _, _, paid, _, collected, _, _, pool, interest, _⟩ := body
      simp only [accrualPoint, bind_ok_iff, Prod.exists]
      exact ⟨_, paid, _, collected, pool, interest, rfl⟩
    · simp only [call, repay] at success
      obtain ⟨last, body, _⟩ := nonReentrant_ok success
      simp only [bind_ok_iff] at body
      obtain ⟨_, _, _, _, pool, interest, _⟩ := body
      simp only [accrualPoint, bind_ok_iff]
      exact ⟨_, pool, interest, rfl⟩
  · obtain ⟨assetId, amount, rfl⟩ | ⟨assetId, amount, rfl⟩ := riskier.cases
    · simp only [call, withdraw] at success
      obtain ⟨last, body, _⟩ := nonReentrant_ok success
      simp only [bind_ok_iff] at body
      obtain ⟨_, _, _, _, pool, interest, _⟩ := body
      simp only [accrualPoint, bind_ok_iff]
      exact ⟨_, pool, interest, rfl⟩
    · simp only [call, borrow] at success
      obtain ⟨last, body, _⟩ := nonReentrant_ok success
      simp only [bind_ok_iff] at body
      obtain ⟨_, _, _, _, pool, interest, _⟩ := body
      simp only [accrualPoint, bind_ok_iff]
      exact ⟨_, pool, interest, rfl⟩

/-- After the accrual, `deposit` and `repay` only add collateral or take debt off. -/
theorem safer_totals {made : Call κ this} (prices : Nat → Nat) (books : Books w.pool)
    (safer : made.op.Safer) (success : call .first env w made = .ok after)
    (accrued : accrualPoint env w made = .ok middle) :
    middle.pool.collateral prices made.msgSender ≤ after.pool.collateral prices made.msgSender ∧
      after.pool.debt prices made.msgSender ≤ middle.pool.debt prices made.msgSender := by
  obtain ⟨msgSender, op, external⟩ := made
  obtain ⟨assetId, amount, rfl⟩ | ⟨assetId, amount, rfl⟩ := safer.cases
  · obtain ⟨paid, step⟩ := deposit_ok success
    simp only [accrualPoint, step.collected, bind_ok_iff, Prod.exists, Except.ok.injEq,
      Prod.mk.injEq, pure_ok_iff] at accrued
    obtain ⟨_, _, ⟨rfl, _⟩, pool, interest, rfl⟩ := accrued
    have extended := callTransferFrom_extends step.collected
    have listed : assetId < paid.pool.assetCount := Nat.lt_of_lt_of_le step.listed extended.listed
    have credited := Pool.collateral_creditDeposit
      (paid.pool.accrue paid.blockNumber msgSender assetId) prices msgSender listed amount
    rw [step.booked, updateInterest_ok interest]
    simp only [Pool.collateral_setEntered, Pool.debt_setEntered, Pool.debt_creditDeposit]
    omega
  · obtain ⟨paid, step⟩ := repay_ok success
    simp only [accrualPoint, bind_ok_iff, pure_ok_iff] at accrued
    obtain ⟨pool, interest, rfl⟩ := accrued
    have extended := callTransferFrom_extends step.collected
    have listed : assetId < paid.pool.assetCount := Nat.lt_of_lt_of_le step.listed extended.listed
    have accruedBooks := (books.setEntered true).accrue w.blockNumber msgSender step.listed
    have collateral := Pool.collateral_of_extends prices msgSender accruedBooks extended
    have debt := Pool.debt_of_extends prices msgSender accruedBooks extended
    have repaid := Pool.debt_debitLoan paid.pool prices msgSender listed step.funded
    dsimp only at repaid
    rw [step.booked, updateInterest_ok interest]
    simp only [Pool.collateral_setEntered, Pool.debt_setEntered, Pool.collateral_debitLoan]
    exact ⟨Nat.le_of_eq collateral.symm, by omega⟩

/-- After the accrual, `withdraw` and `borrow` only take collateral off or add debt. -/
theorem riskier_totals {made : Call κ this} (prices : Nat → Nat) (books : Books w.pool)
    (riskier : made.op.Riskier) (success : call .first env w made = .ok after)
    (accrued : accrualPoint env w made = .ok middle) :
    after.pool.collateral prices made.msgSender ≤ middle.pool.collateral prices made.msgSender ∧
      middle.pool.debt prices made.msgSender ≤ after.pool.debt prices made.msgSender := by
  obtain ⟨msgSender, op, external⟩ := made
  obtain ⟨assetId, amount, rfl⟩ | ⟨assetId, amount, rfl⟩ := riskier.cases
  · obtain ⟨paid, step⟩ := withdraw_ok success
    simp only [accrualPoint, bind_ok_iff, pure_ok_iff] at accrued
    obtain ⟨pool, interest, rfl⟩ := accrued
    have extended := callTransfer_extends step.sent
    have booked := ((books.setEntered true).accrue w.blockNumber msgSender
      step.listed).debitDeposit msgSender step.listed step.funded
    have taken := Pool.collateral_debitDeposit ((w.pool.setEntered true).accrue w.blockNumber
      msgSender assetId) prices msgSender step.listed step.funded
    rw [step.booked, updateInterest_ok interest]
    simp only [Pool.collateral_setEntered, Pool.debt_setEntered,
      Pool.collateral_of_extends prices msgSender booked extended,
      Pool.debt_of_extends prices msgSender booked extended, Pool.debt_debitDeposit]
    omega
  · obtain ⟨paid, step⟩ := borrow_ok success
    simp only [accrualPoint, bind_ok_iff, pure_ok_iff] at accrued
    obtain ⟨pool, interest, rfl⟩ := accrued
    have extended := callTransfer_extends step.sent
    have booked := ((books.setEntered true).accrue w.blockNumber msgSender
      step.listed).creditLoan msgSender step.listed amount
    have credited := Pool.debt_creditLoan ((w.pool.setEntered true).accrue w.blockNumber
      msgSender assetId) prices msgSender step.listed amount
    rw [step.booked, updateInterest_ok interest]
    simp only [Pool.collateral_setEntered, Pool.debt_setEntered,
      Pool.collateral_of_extends prices msgSender booked extended,
      Pool.debt_of_extends prices msgSender booked extended, Pool.collateral_creditLoan]
    omega

/-- Whoever is left alone has the same health factor at the same prices. -/
theorem LeavesAlone.health_iff {user : Address} (alone : LeavesAlone user w.pool after.pool)
    (books : Books w.pool) (priced : PricedAt env w prices)
    (pricedAfter : PricedAt env after prices) (health : Nat) :
    calculateHealthFactor env after user = .ok health ↔
      calculateHealthFactor env w user = .ok health := by
  rw [calculateHealthFactor_ok_iff pricedAfter, calculateHealthFactor_ok_iff priced,
    Pool.collateral_of_account prices user books alone.account alone.listed,
    Pool.debt_of_account prices user books alone.account alone.listed]

/-- More collateral against less debt does not lower the health factor. -/
theorem healthFactor_mono {user : Address} {before final : Nat}
    (priced : PricedAt env w prices) (pricedAfter : PricedAt env after prices)
    (more : w.pool.collateral prices user ≤ after.pool.collateral prices user)
    (less : after.pool.debt prices user ≤ w.pool.debt prices user)
    (first : calculateHealthFactor env w user = .ok before)
    (last : calculateHealthFactor env after user = .ok final) : before ≤ final := by
  rw [calculateHealthFactor_ok_iff priced] at first
  rw [calculateHealthFactor_ok_iff pricedAfter] at last
  obtain ⟨fits, rfl⟩ := first
  obtain ⟨_, rfl⟩ := last
  exact ratio_mono fits.scaled_le more less

end Direction

/-- In every reachable state of the first version and at fixed prices, a successful
`deposit` or `repay` does not lower its caller's health factor after the accrual, a
`withdraw` or `borrow` does not raise it, and nobody else is affected. -/
theorem health_direction {τ κ : Type} {this : Address} (env : Outside τ κ) (owner : Address)
    (outside : τ) (blockNumber : Nat) (calls : List (Call κ this)) (made : Call κ this)
    (after : World τ) (prices : Nat → Nat) :
    let w := run (call .first env) (deployWorld owner outside blockNumber) calls
    call .first env w made = .ok after → made.op.Safer ∨ made.op.Riskier →
    (∃ middle, accrualPoint env w made = .ok middle ∧
      (PricedAt env middle prices → PricedAt env after prices → ∀ before final,
        calculateHealthFactor env middle made.msgSender = .ok before →
        calculateHealthFactor env after made.msgSender = .ok final →
        (made.op.Safer → before ≤ final) ∧ (made.op.Riskier → final ≤ before))) ∧
    ∀ user, user ≠ made.msgSender →
      after.pool.userAccounts user = w.pool.userAccounts user ∧
      (PricedAt env w prices → PricedAt env after prices → ∀ health,
        calculateHealthFactor env after user = .ok health ↔
          calculateHealthFactor env w user = .ok health) := by
  intro w success moves
  have books : Books w.pool := run_books .first env owner outside blockNumber calls
  constructor
  · obtain ⟨middle, accrued⟩ := accrualPoint_returns success moves
    refine ⟨middle, accrued, ?_⟩
    intro priced pricedAfter before final first last
    constructor
    · intro safer
      have totals := safer_totals prices books safer success accrued
      exact healthFactor_mono priced pricedAfter totals.1 totals.2 first last
    · intro riskier
      have totals := riskier_totals prices books riskier success accrued
      exact healthFactor_mono pricedAfter priced totals.1 totals.2 last first
  · intro user bystander
    have spared : ∀ assetId amount collateralAssetId,
        made.op ≠ .liquidate user assetId amount collateralAssetId := by
      intro assetId amount collateralAssetId liquidation
      rw [liquidation] at moves
      rcases moves with safer | riskier
      · exact safer
      · exact riskier
    have alone := call_leavesAlone success bystander spared
    exact ⟨alone.account, fun priced pricedAfter => alone.health_iff books priced pricedAfter⟩

/-- Borrowing lowers the factor from the largest word, and leaves the lender's account. -/
theorem borrow_sixty_direction :
    let w := run (call .first standard) (openChain 1) (openMarket 0)
    let after := commit (call .first standard) w borrowSixty
    ∃ middle before final, accrualPoint standard w borrowSixty = .ok middle ∧
      calculateHealthFactor standard middle 2 = .ok before ∧
      calculateHealthFactor standard after 2 = .ok final ∧ final ≤ before ∧
      after.pool.userAccounts 1 = w.pool.userAccounts 1 := by
  intro w after
  have returns : call .first standard w borrowSixty = .ok after := ok_commit (by decide +kernel)
  obtain ⟨⟨middle, accrued, direction⟩, others⟩ := health_direction standard 1 _ 3 (openMarket 0)
    borrowSixty after (fun _ => 1) returns (.inr trivial)
  have middleHealth : (accrualPoint standard w borrowSixty).map
      (fun middle => (decide (PricedAt standard middle fun _ => 1),
        calculateHealthFactor standard middle 2)) = .ok (true, .ok (2 ^ 256 - 1)) := by
    decide +kernel
  have afterHealth : calculateHealthFactor standard after 2 = .ok (100 * PRECISION / 60) := by
    decide +kernel
  change accrualPoint standard w borrowSixty = .ok middle at accrued
  rw [accrued] at middleHealth
  simp only [Except.map, Except.ok.injEq, Prod.mk.injEq, decide_eq_true_eq] at middleHealth
  refine ⟨middle, _, _, accrued, middleHealth.2, afterHealth, ?_, (others 1 (by decide)).1⟩
  exact (direction middleHealth.1 (by decide +kernel) _ _ middleHealth.2 afterHealth).2 trivial

end TonyLend
