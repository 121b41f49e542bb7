import BlazCtf.TonyLend.PoolCollateral

set_option autoImplicit false

namespace TonyLend

open Evm Portfolio

/-- How the amounts of a liquidation follow from the borrower's debt and deposit in the
two assets, the amount asked for and the two prices. -/
structure Quoted (debt deposit amount debtPrice collateralPrice : Nat) (quote : Quote) : Prop where
  debtPriced : 0 < debtPrice
  collateralPriced : 0 < collateralPrice
  closed : quote.actualLiquidation = min amount debt
  real : quote.realCollateralAmount = quote.actualLiquidation * debtPrice / collateralPrice
  seized : quote.collateralAmount = min quote.realCollateralAmount deposit
  full : quote.realCollateralAmount ≤ deposit →
    quote.toLiquidate = quote.collateralAmount * collateralPrice / debtPrice
  short : deposit < quote.realCollateralAmount →
    quote.toLiquidate =
      quote.collateralAmount * collateralPrice / debtPrice * BAD_DEBT_RATIO / 100

theorem liquidationQuote_ok {τ κ : Type} {env : Outside τ κ} {w : World τ} {borrower : Address}
    {assetId amount collateralAssetId : Nat} {quote : Quote}
    (success : liquidationQuote env w borrower assetId amount collateralAssetId = .ok quote) :
    ∃ debtPrice collateralPrice, getAssetPrice env w assetId = .ok debtPrice ∧
      getAssetPrice env w collateralAssetId = .ok collateralPrice ∧
      Quoted ((w.pool.userAccounts borrower).borrowed assetId)
        ((w.pool.userAccounts borrower).deposited collateralAssetId) amount debtPrice
        collateralPrice quote := by
  simp only [liquidationQuote, bind_ok_iff, checkedMul_ok_iff, checkedDiv_ok_iff] at success
  obtain ⟨_, ⟨_, rfl⟩, p, readDebt, _, ⟨_, rfl⟩, q, readCollateral, _, ⟨nonzeroQ, rfl⟩, q', again,
    _, ⟨_, rfl⟩, p', againDebt, _, ⟨nonzeroP, rfl⟩, rest⟩ := success
  rw [readCollateral, Except.ok.injEq] at again
  rw [readDebt, Except.ok.injEq] at againDebt
  subst again againDebt
  -- The close factor of 100 % makes all of the debt liquidatable.
  have all : ∀ debt : Nat, debt * LIQUIDATION_CLOSE_FACTOR / 100 = debt := by
    intro debt
    exact Nat.mul_div_cancel debt (by decide)
  rw [all] at rest
  refine ⟨p, q, readDebt, readCollateral, ?_⟩
  split at rest
  · rename_i short
    simp only [bind_ok_iff, checkedMul_ok_iff, pure_ok_iff] at rest
    obtain ⟨_, ⟨_, rfl⟩, rfl⟩ := rest
    exact ⟨Nat.pos_of_ne_zero nonzeroP, Nat.pos_of_ne_zero nonzeroQ, rfl, rfl, rfl,
      fun full => absurd short (Nat.not_lt.mpr full), fun _ => rfl⟩
  · rename_i full
    rw [pure_ok_iff] at rest
    subst rest
    exact ⟨Nat.pos_of_ne_zero nonzeroP, Nat.pos_of_ne_zero nonzeroQ, rfl, rfl, rfl,
      fun _ => rfl, fun short => absurd short full⟩

namespace Quoted

variable {debt deposit amount p q : Nat} {quote : Quote}

/-- The collateral is never worth more than the debt booked off. -/
theorem seized_value_le (quoted : Quoted debt deposit amount p q quote) :
    quote.collateralAmount * q ≤ quote.actualLiquidation * p := by
  have clamp : quote.collateralAmount ≤ quote.realCollateralAmount := by
    rw [quoted.seized]
    exact Nat.min_le_left _ _
  calc quote.collateralAmount * q ≤ quote.realCollateralAmount * q := Nat.mul_le_mul_right q clamp
    _ = quote.actualLiquidation * p / q * q := by rw [quoted.real]
    _ ≤ quote.actualLiquidation * p := Nat.div_mul_le_self _ _

/-- What the payment is before the surcharge is at most what is paid. -/
theorem covered_le (quoted : Quoted debt deposit amount p q quote) :
    quote.collateralAmount * q / p ≤ quote.toLiquidate := by
  by_cases short : deposit < quote.realCollateralAmount
  · rw [quoted.short short, BAD_DEBT_RATIO]
    omega
  · exact Nat.le_of_eq (quoted.full (Nat.le_of_not_lt short)).symm

theorem seized_value_lt (quoted : Quoted debt deposit amount p q quote) :
    quote.collateralAmount * q < quote.toLiquidate * p + p := by
  have floor := Nat.lt_div_mul_add (a := quote.collateralAmount * q) quoted.debtPriced
  have paid := Nat.mul_le_mul_right p quoted.covered_le
  omega

theorem covered_le_closed (quoted : Quoted debt deposit amount p q quote) :
    quote.collateralAmount * q / p ≤ quote.actualLiquidation := by
  calc quote.collateralAmount * q / p
      ≤ quote.actualLiquidation * p / p := Nat.div_le_div_right quoted.seized_value_le
    _ = quote.actualLiquidation := Nat.mul_div_cancel _ quoted.debtPriced

/-- A deposit that is large enough is not clamped. -/
theorem seized_of_full (quoted : Quoted debt deposit amount p q quote)
    (full : quote.realCollateralAmount ≤ deposit) :
    quote.collateralAmount = quote.realCollateralAmount := by
  rw [quoted.seized, Nat.min_eq_left full]

theorem seized_of_short (quoted : Quoted debt deposit amount p q quote)
    (short : deposit < quote.realCollateralAmount) : quote.collateralAmount = deposit := by
  rw [quoted.seized, Nat.min_eq_right (Nat.le_of_lt short)]

theorem closed_value_lt (quoted : Quoted debt deposit amount p q quote)
    (full : quote.realCollateralAmount ≤ deposit) :
    quote.actualLiquidation * p < quote.collateralAmount * q + q := by
  rw [quoted.seized_of_full full, quoted.real]
  exact Nat.lt_div_mul_add quoted.collateralPriced

theorem paid_le_of_full (quoted : Quoted debt deposit amount p q quote)
    (full : quote.realCollateralAmount ≤ deposit) :
    quote.toLiquidate ≤ quote.actualLiquidation := by
  rw [quoted.full full]
  exact quoted.covered_le_closed

theorem paid_le_of_short (quoted : Quoted debt deposit amount p q quote)
    (short : deposit < quote.realCollateralAmount) :
    100 * quote.toLiquidate ≤ 110 * quote.actualLiquidation := by
  have covered := quoted.covered_le_closed
  rw [quoted.short short, BAD_DEBT_RATIO]
  omega

end Quoted

section Calls

variable {τ κ : Type} {env : Outside τ κ} {this liquidator borrower : Address}
  {assetId amount collateralAssetId : Nat} {w after collected paid : World τ} {quote : Quote}

theorem afterInterest_deposited (w : World τ) (borrower : Address)
    (assetId collateralAssetId : Nat) :
    ((w.afterInterest borrower assetId collateralAssetId).pool.userAccounts borrower).deposited =
      (w.pool.userAccounts borrower).deposited := by
  unfold World.afterInterest
  rw [Pool.deposited_accrue, Pool.deposited_accrue]
  rfl

theorem afterInterest_borrowed (w : World τ) (borrower : Address) {assetId collateralAssetId : Nat}
    (distinct : assetId ≠ collateralAssetId) :
    ((w.afterInterest borrower assetId collateralAssetId).pool.userAccounts borrower).borrowed
        assetId =
      (w.pool.userAccounts borrower).borrowed assetId +
        w.pool.accrued w.blockNumber borrower assetId := by
  unfold World.afterInterest
  rw [Pool.borrowed_accrue, Function.update_of_ne distinct, Pool.borrowed_accrue,
    Function.update_self]
  rfl

/-- The amounts of a liquidation, from the borrower's books before the call. -/
theorem Liquidated.quoted_from (step : Liquidated env this liquidator borrower assetId amount
      collateralAssetId w after quote collected paid) :
    ∃ debtPrice collateralPrice, getAssetPrice env w assetId = .ok debtPrice ∧
      getAssetPrice env w collateralAssetId = .ok collateralPrice ∧
      Quoted ((w.pool.userAccounts borrower).borrowed assetId +
          w.pool.accrued w.blockNumber borrower assetId)
        ((w.pool.userAccounts borrower).deposited collateralAssetId) amount debtPrice
        collateralPrice quote := by
  obtain ⟨p, q, readDebt, readCollateral, quoted⟩ := liquidationQuote_ok step.quoted
  rw [afterInterest_borrowed w borrower step.distinct, afterInterest_deposited] at quoted
  exact ⟨p, q, readDebt, readCollateral, quoted⟩

theorem Liquidated.extends (step : Liquidated env this liquidator borrower assetId amount
      collateralAssetId w after quote collected paid) :
    Extends (w.afterInterest borrower assetId collateralAssetId).pool paid.pool :=
  (callTransferFrom_extends step.received).trans (callTransfer_extends step.sent)

/-- Only the chosen collateral is taken off the borrower's deposits. -/
theorem Liquidated.deposited (step : Liquidated env this liquidator borrower assetId amount
      collateralAssetId w after quote collected paid) :
    (after.pool.userAccounts borrower).deposited =
      Function.update (w.pool.userAccounts borrower).deposited collateralAssetId
        ((w.pool.userAccounts borrower).deposited collateralAssetId - quote.collateralAmount) := by
  have accounts := step.extends.accounts
  rw [step.booked]
  change ((paid.pool.liquidated borrower assetId collateralAssetId quote).userAccounts
    borrower).deposited = _
  rw [Pool.liquidated, Pool.account_debitDeposit, Pool.account_debitLoan, accounts]
  simp only [UserAccount.setDeposited, UserAccount.setBorrowed, afterInterest_deposited]

end Calls

/-- A liquidation never takes a whole debt unit of value more than is paid in; a deposit
that covers the debt is taken at its value, and one that does not is taken whole, for a
payment that exceeds the debt by at most the surcharge. -/
theorem liquidation_arithmetic {τ κ : Type} {this : Address} (version : Version)
    (env : Outside τ κ) (w after : World τ) (liquidator borrower : Address)
    (external : liquidator ≠ this) (assetId amount collateralAssetId : Nat)
    (success : call version env w
      ⟨liquidator, .liquidate borrower assetId amount collateralAssetId, external⟩ = .ok after) :
    ∃ quote collected paid p q,
      Liquidated env this liquidator borrower assetId amount collateralAssetId w after quote
        collected paid ∧
      getAssetPrice env w assetId = .ok p ∧ getAssetPrice env w collateralAssetId = .ok q ∧
      0 < p ∧ 0 < q ∧
      quote.collateralAmount * q < quote.toLiquidate * p + p ∧
      (quote.realCollateralAmount ≤ (w.pool.userAccounts borrower).deposited collateralAssetId →
        quote.toLiquidate ≤ quote.actualLiquidation ∧
        quote.actualLiquidation * p < quote.collateralAmount * q + q) ∧
      ((w.pool.userAccounts borrower).deposited collateralAssetId < quote.realCollateralAmount →
        quote.collateralAmount = (w.pool.userAccounts borrower).deposited collateralAssetId ∧
        100 * quote.toLiquidate ≤ 110 * quote.actualLiquidation) := by
  obtain ⟨quote, collected, paid, step⟩ := liquidate_ok success
  obtain ⟨p, q, readDebt, readCollateral, quoted⟩ := step.quoted_from
  refine ⟨quote, collected, paid, p, q, step, readDebt, readCollateral, quoted.debtPriced,
    quoted.collateralPriced, quoted.seized_value_lt, ?_, ?_⟩
  · intro full
    exact ⟨quoted.paid_le_of_full full, quoted.closed_value_lt full⟩
  · intro short
    exact ⟨quoted.seized_of_short short, quoted.paid_le_of_short short⟩

/-- Account 2 borrows 190 while its 100 units of collateral are worth 2 each, and their
price then falls to 1. A third asset is listed, of which account 2 holds nothing. -/
def crashedMarket : List (Call Action 7) :=
  openMarket 0 ++
    [⟨2, .borrow 1 190, borrower_external⟩,
     ⟨1, .owner (.addAsset 8 0), lender_external⟩,
     ⟨1, .owner (.setPriceOracle 2 9), lender_external⟩,
     ⟨1, .outside (.setPrices fun _ _ => some 1), lender_external⟩,
     ⟨1, .outside (.approve 6 7 500), lender_external⟩]

/-- Account 1 liquidates account 2's debt against its deposit in the given asset. -/
def liquidateFor (amount collateralAssetId : Nat) : Call Action 7 :=
  ⟨1, .liquidate 2 1 amount collateralAssetId, lender_external⟩

theorem crashed_prices (version : Version) :
    PricedAt standard (run (call version standard) (openChain 2) crashedMarket) fun _ => 1 := by
  cases version <;> decide +kernel

theorem liquidation_of_ten_arithmetic :
    let w := run (call .second standard) (openChain 2) crashedMarket
    ∃ quote, liquidationQuote standard (w.afterInterest 2 1 0) 2 1 10 0 = .ok quote ∧
      quote.collateralAmount * 1 < quote.toLiquidate * 1 + 1 := by
  intro w
  obtain ⟨quote, _, _, p, q, step, readDebt, readCollateral, _, _, bound, _⟩ :=
    liquidation_arithmetic .second standard w (commit (call .second standard) w (liquidateFor 10 0))
      1 2 (by decide) 1 10 0 (ok_commit (by decide +kernel))
  rw [crashed_prices .second 1 (by decide +kernel), Except.ok.injEq] at readDebt
  rw [crashed_prices .second 0 (by decide +kernel), Except.ok.injEq] at readCollateral
  subst readDebt readCollateral
  exact ⟨quote, step.quoted, bound⟩

section Forgiveness

variable {debt deposit amount p q : Nat} {quote : Quote}

/-- Up to rounding the debt booked off is paid in, unless the deposit falls short of it
by more than the surcharge. -/
theorem Quoted.paid_in_iff (quoted : Quoted debt deposit amount p q quote) :
    quote.actualLiquidation * p < quote.toLiquidate * p + p + q ↔
      min amount debt * p < deposit * q / p * BAD_DEBT_RATIO / 100 * p + p + q := by
  rw [← quoted.closed]
  by_cases short : deposit < quote.realCollateralAmount
  · rw [quoted.short short, quoted.seized_of_short short]
  · have full := Nat.le_of_not_lt short
    have seized := quoted.closed_value_lt full
    have value := quoted.seized_value_lt
    have enough : quote.collateralAmount ≤ deposit := by
      rw [quoted.seized_of_full full]
      exact full
    have covered : quote.toLiquidate ≤ deposit * q / p * BAD_DEBT_RATIO / 100 := by
      have bound : quote.collateralAmount * q / p ≤ deposit * q / p :=
        Nat.div_le_div_right (Nat.mul_le_mul_right q enough)
      rw [quoted.full full, BAD_DEBT_RATIO]
      omega
    have paid := Nat.mul_le_mul_right p covered
    constructor
    · intro _
      omega
    · intro _
      omega

end Forgiveness

/-- While the borrower keeps some deposit, a liquidation books off no more than is paid
in, up to one unit of each asset, exactly when the borrower has no deposit but the
chosen one or the chosen one covers the closed debt up to the surcharge. -/
theorem forgives_no_debt_iff {τ κ : Type} {this : Address} (version : Version)
    (env : Outside τ κ) (w after : World τ) (liquidator borrower : Address)
    (external : liquidator ≠ this) (assetId amount collateralAssetId : Nat)
    (success : call version env w
      ⟨liquidator, .liquidate borrower assetId amount collateralAssetId, external⟩ = .ok after) :
    ∃ quote collected paid p q,
      Liquidated env this liquidator borrower assetId amount collateralAssetId w after quote
        collected paid ∧
      getAssetPrice env w assetId = .ok p ∧ getAssetPrice env w collateralAssetId = .ok q ∧
      0 < p ∧ 0 < q ∧
      (((∃ id, 0 < (after.pool.userAccounts borrower).deposited id) →
          quote.actualLiquidation * p < quote.toLiquidate * p + p + q) ↔
        (∀ id, id ≠ collateralAssetId → (w.pool.userAccounts borrower).deposited id = 0) ∨
        min amount ((w.pool.userAccounts borrower).borrowed assetId +
            w.pool.accrued w.blockNumber borrower assetId) * p <
          (w.pool.userAccounts borrower).deposited collateralAssetId * q / p * BAD_DEBT_RATIO /
            100 * p + p + q) := by
  obtain ⟨quote, collected, paid, step⟩ := liquidate_ok success
  obtain ⟨p, q, readDebt, readCollateral, quoted⟩ := step.quoted_from
  refine ⟨quote, collected, paid, p, q, step, readDebt, readCollateral, quoted.debtPriced,
    quoted.collateralPriced, ?_⟩
  rw [← quoted.paid_in_iff, step.deposited]
  constructor
  · intro property
    by_cases left : ∃ id, id ≠ collateralAssetId ∧ (w.pool.userAccounts borrower).deposited id ≠ 0
    · obtain ⟨id, other, held⟩ := left
      right
      apply property
      refine ⟨id, ?_⟩
      rw [Function.update_of_ne other]
      omega
    · left
      intro id other
      by_contra held
      exact left ⟨id, other, held⟩
  · rintro (alone | enough) ⟨id, positive⟩
    · -- Only the chosen collateral can be left, and it is if it was large enough.
      have same : id = collateralAssetId := by
        by_contra other
        rw [Function.update_of_ne other, alone id other] at positive
        omega
      subst same
      rw [Function.update_self] at positive
      have full : quote.realCollateralAmount ≤ (w.pool.userAccounts borrower).deposited id := by
        by_contra short
        have whole := quoted.seized_of_short (by omega)
        omega
      have closed := quoted.closed_value_lt full
      have value := quoted.seized_value_lt
      omega
    · exact enough

/-- Choosing an asset the borrower does not hold books off 190 of debt for nothing, while
the borrower keeps the deposit of 100. -/
theorem debt_forgiven_for_nothing :
    let w := run (call .second standard) (openChain 2) crashedMarket
    let after := commit (call .second standard) w (liquidateFor 190 2)
    call .second standard w (liquidateFor 190 2) = .ok after ∧
      liquidationQuote standard (w.afterInterest 2 1 2) 2 1 190 2 = .ok ⟨190, 190, 0, 0⟩ ∧
      PricedAt standard w (fun _ => 1) ∧
      (after.pool.userAccounts 2).deposited 0 = 100 ∧ ¬ 190 * 1 < 0 * 1 + 1 + 1 := by
  intro w after
  exact ⟨ok_commit (by decide +kernel), by decide +kernel, by decide +kernel, by decide +kernel,
    by decide⟩

theorem liquidation_of_ten_forgives_nothing :
    let w := run (call .second standard) (openChain 2) crashedMarket
    let after := commit (call .second standard) w (liquidateFor 10 0)
    ∃ quote, liquidationQuote standard (w.afterInterest 2 1 0) 2 1 10 0 = .ok quote ∧
      ((∃ id, 0 < (after.pool.userAccounts 2).deposited id) →
        quote.actualLiquidation * 1 < quote.toLiquidate * 1 + 1 + 1) := by
  intro w after
  obtain ⟨quote, _, _, p, q, step, readDebt, readCollateral, _, _, property⟩ :=
    forgives_no_debt_iff .second standard w after 1 2 (by decide) 1 10 0
      (ok_commit (by decide +kernel))
  rw [crashed_prices .second 1 (by decide +kernel), Except.ok.injEq] at readDebt
  rw [crashed_prices .second 0 (by decide +kernel), Except.ok.injEq] at readCollateral
  subst readDebt readCollateral
  exact ⟨quote, step.quoted, property.mpr (.inr (by decide +kernel))⟩

/-- The values a liquidation takes off both sides of the borrower's position. -/
theorem Liquidated.totals {τ κ : Type} {env : Outside τ κ} {this liquidator borrower : Address}
    {assetId amount collateralAssetId : Nat} {w after collected paid : World τ} {quote : Quote}
    (step : Liquidated env this liquidator borrower assetId amount collateralAssetId w after quote
      collected paid) (books : Books w.pool) (prices : Nat → Nat) :
    quote.collateralAmount * prices collateralAssetId + after.pool.collateral prices borrower =
        (w.afterInterest borrower assetId collateralAssetId).pool.collateral prices borrower ∧
      quote.actualLiquidation * prices assetId + after.pool.debt prices borrower =
        (w.afterInterest borrower assetId collateralAssetId).pool.debt prices borrower := by
  have accrued : Books (w.afterInterest borrower assetId collateralAssetId).pool :=
    ((books.setEntered true).accrue w.blockNumber borrower step.listed.1).accrue w.blockNumber
      borrower step.listed.2
  have listed : assetId < paid.pool.assetCount :=
    Nat.lt_of_lt_of_le step.listed.1 step.extends.listed
  have listedCollateral : collateralAssetId < paid.pool.assetCount :=
    Nat.lt_of_lt_of_le step.listed.2 step.extends.listed
  have depositLeft : quote.collateralAmount ≤ ((paid.pool.debitLoan borrower assetId
      quote.actualLiquidation).userAccounts borrower).deposited collateralAssetId := by
    rw [Pool.account_debitLoan]
    exact step.depositLeft
  have loan := Pool.debt_debitLoan paid.pool prices borrower listed step.loanLeft
  have deposit := Pool.collateral_debitDeposit (paid.pool.debitLoan borrower assetId
    quote.actualLiquidation) prices borrower listedCollateral depositLeft
  rw [← Pool.collateral_of_extends prices borrower accrued step.extends,
    ← Pool.debt_of_extends prices borrower accrued step.extends, step.booked]
  simp only [Pool.collateral_debitLoan] at deposit
  simp only [Pool.collateral_setEntered, Pool.debt_setEntered, Pool.liquidated,
    Pool.debt_debitDeposit]
  omega

/-- In every reachable state, at fixed prices, a liquidation does not widen the gap between
the borrower's debt and collateral. The health factor does not fall if no larger share of
the collateral is seized than of the debt is closed, and does not rise in the other case
while debt is left. -/
theorem liquidation_health {τ κ : Type} {this : Address} (version : Version) (env : Outside τ κ)
    (owner : Address) (outside : τ) (blockNumber : Nat) (calls : List (Call κ this))
    (liquidator borrower : Address) (external : liquidator ≠ this)
    (assetId amount collateralAssetId : Nat) (prices : Nat → Nat) (after : World τ) :
    let w := run (call version env) (deployWorld owner outside blockNumber) calls
    let middle := w.afterInterest borrower assetId collateralAssetId
    call version env w
      ⟨liquidator, .liquidate borrower assetId amount collateralAssetId, external⟩ = .ok after →
    PricedAt env w prices → PricedAt env after prices →
    ∃ quote before final,
      liquidationQuote env middle borrower assetId amount collateralAssetId = .ok quote ∧
      calculateHealthFactor env middle borrower = .ok before ∧
      calculateHealthFactor env after borrower = .ok final ∧
      after.pool.debt prices borrower + middle.pool.collateral prices borrower ≤
        middle.pool.debt prices borrower + after.pool.collateral prices borrower ∧
      (quote.collateralAmount * prices collateralAssetId * middle.pool.debt prices borrower ≤
          quote.actualLiquidation * prices assetId * middle.pool.collateral prices borrower →
        before ≤ final) ∧
      (quote.actualLiquidation * prices assetId * middle.pool.collateral prices borrower ≤
          quote.collateralAmount * prices collateralAssetId * middle.pool.debt prices borrower →
        after.pool.debt prices borrower ≠ 0 → final ≤ before) := by
  intro w middle success priced pricedAfter
  have books : Books w.pool := run_books version env owner outside blockNumber calls
  obtain ⟨quote, collected, paid, step⟩ := liquidate_ok success
  obtain ⟨p, q, readDebt, readCollateral, quoted⟩ := step.quoted_from
  rw [priced assetId step.listed.1, Except.ok.injEq] at readDebt
  rw [priced collateralAssetId step.listed.2, Except.ok.injEq] at readCollateral
  subst readDebt readCollateral
  obtain ⟨left, owed⟩ := step.totals books prices
  change _ = middle.pool.collateral prices borrower at left
  change _ = middle.pool.debt prices borrower at owed
  have value := quoted.seized_value_le
  have pricedMiddle : PricedAt env middle prices := priced.rebook rfl rfl
  obtain ⟨before, computed, _⟩ := step.unhealthy
  obtain ⟨fits, rfl⟩ := (calculateHealthFactor_ok_iff pricedMiddle).mp computed
  have fitsAfter : Fits (after.pool.collateral prices borrower)
      (after.pool.debt prices borrower) := fits.of_le (by omega) (by omega)
  refine ⟨quote, _, _, step.quoted, computed,
    (calculateHealthFactor_ok_iff pricedAfter).mpr ⟨fitsAfter, rfl⟩, by omega, ?_, ?_⟩
  · intro share
    exact ratio_le_of_share fits.scaled_le left owed share
  · intro share owing
    exact ratio_ge_of_share owing left owed share

/-- With 100 of collateral against a debt of 190, closing 10 of each lowers the factor. -/
theorem liquidation_lowers_health :
    let w := run (call .second standard) (openChain 2) crashedMarket
    let after := commit (call .second standard) w (liquidateFor 10 0)
    call .second standard w (liquidateFor 10 0) = .ok after ∧
      PricedAt standard w (fun _ => 1) ∧ PricedAt standard after (fun _ => 1) ∧
      calculateHealthFactor standard (w.afterInterest 2 1 0) 2 = .ok (100 * PRECISION / 190) ∧
      calculateHealthFactor standard after 2 = .ok (90 * PRECISION / 180) ∧
      90 * PRECISION / 180 < 100 * PRECISION / 190 := by
  intro w after
  exact ⟨ok_commit (by decide +kernel), crashed_prices .second, by decide +kernel,
    by decide +kernel, by decide +kernel, by decide +kernel⟩

theorem liquidation_of_ten_health :
    let w := run (call .second standard) (openChain 2) crashedMarket
    let middle := w.afterInterest 2 1 0
    let after := commit (call .second standard) w (liquidateFor 10 0)
    after.pool.debt (fun _ => 1) 2 + middle.pool.collateral (fun _ => 1) 2 ≤
      middle.pool.debt (fun _ => 1) 2 + after.pool.collateral (fun _ => 1) 2 := by
  intro w middle after
  obtain ⟨_, _, _, _, _, _, gap, _⟩ := liquidation_health .second standard 1 _ 3 crashedMarket 1 2
    (by decide) 1 10 0 (fun _ => 1) after (ok_commit (by decide +kernel)) (crashed_prices .second)
    (by decide +kernel)
  exact gap

end TonyLend
