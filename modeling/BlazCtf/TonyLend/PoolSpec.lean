import BlazCtf.TonyLend.Pool

set_option autoImplicit false

namespace TonyLend

open Evm
open Function (update)

namespace Pool

/-- The interest `updateInterest` charges at a block; zero within one block. -/
def accrued (pool : Pool) (blockNumber : Nat) (user : Address) (assetId : Nat) : Nat :=
  (pool.userAccounts user).borrowed assetId * (pool.assets assetId).baseRate *
    (blockNumber - (pool.userAccounts user).lastInterestBlock assetId) / 2102400 / PRECISION

def creditLoan (pool : Pool) (user : Address) (assetId value : Nat) : Pool :=
  (pool.setAccount user ((pool.userAccounts user).setBorrowed assetId
    ((pool.userAccounts user).borrowed assetId + value))).setAsset assetId
      { pool.assets assetId with totalBorrowed := (pool.assets assetId).totalBorrowed + value }

def debitLoan (pool : Pool) (user : Address) (assetId value : Nat) : Pool :=
  (pool.setAccount user ((pool.userAccounts user).setBorrowed assetId
    ((pool.userAccounts user).borrowed assetId - value))).setAsset assetId
      { pool.assets assetId with totalBorrowed := (pool.assets assetId).totalBorrowed - value }

def creditDeposit (pool : Pool) (user : Address) (assetId value : Nat) : Pool :=
  (pool.setAccount user ((pool.userAccounts user).setDeposited assetId
    ((pool.userAccounts user).deposited assetId + value))).setAsset assetId
      { pool.assets assetId with totalDeposited := (pool.assets assetId).totalDeposited + value }

def debitDeposit (pool : Pool) (user : Address) (assetId value : Nat) : Pool :=
  (pool.setAccount user ((pool.userAccounts user).setDeposited assetId
    ((pool.userAccounts user).deposited assetId - value))).setAsset assetId
      { pool.assets assetId with totalDeposited := (pool.assets assetId).totalDeposited - value }

def stamp (pool : Pool) (user : Address) (assetId blockNumber : Nat) : Pool :=
  pool.setAccount user ((pool.userAccounts user).setLastInterestBlock assetId blockNumber)

/-- The whole effect of `updateInterest`. -/
def accrue (pool : Pool) (blockNumber : Nat) (user : Address) (assetId : Nat) : Pool :=
  (pool.creditLoan user assetId (pool.accrued blockNumber user assetId)).stamp user assetId
    blockNumber

/-- Both sides of a liquidation at once. -/
def liquidated (pool : Pool) (borrower : Address) (assetId collateralAssetId : Nat)
    (quote : Quote) : Pool :=
  (pool.debitLoan borrower assetId quote.actualLiquidation).debitDeposit borrower
    collateralAssetId quote.collateralAmount

def setEntered (pool : Pool) (entered : Bool) : Pool := { pool with entered }

theorem creditLoan_zero (pool : Pool) (user : Address) (assetId : Nat) :
    pool.creditLoan user assetId 0 = pool := by
  simp only [creditLoan, setAccount, setAsset, UserAccount.setBorrowed, Nat.add_zero,
    Function.update_eq_self]

theorem stamp_current {pool : Pool} {user : Address} {assetId blockNumber : Nat}
    (current : (pool.userAccounts user).lastInterestBlock assetId = blockNumber) :
    pool.stamp user assetId blockNumber = pool := by
  subst current
  simp only [stamp, setAccount, UserAccount.setLastInterestBlock, Function.update_eq_self]

section Entries

variable (pool : Pool) (user other : Address) (assetId id value blockNumber : Nat)

theorem setAccount_self (account : UserAccount) :
    (pool.setAccount user account).userAccounts user = account := Function.update_self _ _ _

variable {user other} in
theorem setAccount_of_ne (distinct : other ≠ user) (account : UserAccount) :
    (pool.setAccount user account).userAccounts other = pool.userAccounts other :=
  Function.update_of_ne distinct _ _

/-- A field of the account that is booked anew as it was is as it was for everybody. -/
theorem field_rebook {β : Type} (field : UserAccount → β) (account : UserAccount)
    (same : field account = field (pool.userAccounts user)) :
    field ((pool.setAccount user account).userAccounts other) =
      field (pool.userAccounts other) := by
  by_cases own : other = user
  · rw [own, setAccount_self]
    exact same
  · rw [setAccount_of_ne pool own]

@[simp] theorem lastInterestBlock_creditLoan :
    ((pool.creditLoan user assetId value).userAccounts other).lastInterestBlock =
      (pool.userAccounts other).lastInterestBlock :=
  field_rebook pool user other UserAccount.lastInterestBlock _ rfl

@[simp] theorem lastInterestBlock_debitLoan :
    ((pool.debitLoan user assetId value).userAccounts other).lastInterestBlock =
      (pool.userAccounts other).lastInterestBlock :=
  field_rebook pool user other UserAccount.lastInterestBlock _ rfl

@[simp] theorem lastInterestBlock_creditDeposit :
    ((pool.creditDeposit user assetId value).userAccounts other).lastInterestBlock =
      (pool.userAccounts other).lastInterestBlock :=
  field_rebook pool user other UserAccount.lastInterestBlock _ rfl

@[simp] theorem lastInterestBlock_debitDeposit :
    ((pool.debitDeposit user assetId value).userAccounts other).lastInterestBlock =
      (pool.userAccounts other).lastInterestBlock :=
  field_rebook pool user other UserAccount.lastInterestBlock _ rfl

@[simp] theorem borrowed_creditDeposit :
    ((pool.creditDeposit user assetId value).userAccounts other).borrowed =
      (pool.userAccounts other).borrowed :=
  field_rebook pool user other UserAccount.borrowed _ rfl

@[simp] theorem borrowed_debitDeposit :
    ((pool.debitDeposit user assetId value).userAccounts other).borrowed =
      (pool.userAccounts other).borrowed :=
  field_rebook pool user other UserAccount.borrowed _ rfl

@[simp] theorem borrowed_stamp :
    ((pool.stamp user assetId blockNumber).userAccounts other).borrowed =
      (pool.userAccounts other).borrowed :=
  field_rebook pool user other UserAccount.borrowed _ rfl

/-- One entry of the loans is booked, and no other. -/
theorem borrowed_rebook :
    ((pool.setAccount user ((pool.userAccounts user).setBorrowed assetId value)).userAccounts
      other).borrowed id =
      if other = user ∧ id = assetId then value else (pool.userAccounts other).borrowed id := by
  by_cases own : other = user
  · subst own
    simp only [setAccount_self, UserAccount.setBorrowed, Function.update_apply, true_and]
  · rw [if_neg fun both => own both.1, setAccount_of_ne pool own]

theorem borrowed_creditLoan :
    ((pool.creditLoan user assetId value).userAccounts other).borrowed id =
      if other = user ∧ id = assetId then (pool.userAccounts user).borrowed assetId + value
      else (pool.userAccounts other).borrowed id :=
  borrowed_rebook pool user other assetId id _

theorem borrowed_debitLoan :
    ((pool.debitLoan user assetId value).userAccounts other).borrowed id =
      if other = user ∧ id = assetId then (pool.userAccounts user).borrowed assetId - value
      else (pool.userAccounts other).borrowed id :=
  borrowed_rebook pool user other assetId id _

theorem borrowed_accrue_entry :
    ((pool.accrue blockNumber user assetId).userAccounts other).borrowed id =
      if other = user ∧ id = assetId then
        (pool.userAccounts user).borrowed assetId + pool.accrued blockNumber user assetId
      else (pool.userAccounts other).borrowed id := by
  rw [accrue, borrowed_stamp, borrowed_creditLoan]

theorem lastInterestBlock_accrue :
    ((pool.accrue blockNumber user assetId).userAccounts other).lastInterestBlock id =
      if other = user ∧ id = assetId then blockNumber
      else (pool.userAccounts other).lastInterestBlock id := by
  have loan := lastInterestBlock_creditLoan pool user other assetId
    (pool.accrued blockNumber user assetId)
  by_cases own : other = user
  · subst own
    simp only [accrue, stamp, setAccount_self, UserAccount.setLastInterestBlock,
      Function.update_apply, true_and, loan]
  · rw [if_neg fun both => own both.1, accrue, stamp, setAccount_of_ne _ own, loan]

end Entries

end Pool

theorem updateInterest_ok {pool after : Pool} {blockNumber : Nat} {user : Address} {assetId : Nat}
    (success : updateInterest pool blockNumber user assetId = .ok after) :
    after = pool.accrue blockNumber user assetId := by
  unfold updateInterest at success
  dsimp only at success
  split at success
  · rename_i current
    rw [pure_ok_iff] at success
    subst success
    -- Within one block nothing is owed and the stamp is already there.
    have nothing : pool.accrued blockNumber user assetId = 0 := by
      simp only [Pool.accrued, current, Nat.sub_self, Nat.mul_zero, Nat.zero_div]
    rw [Pool.accrue, nothing, Pool.creditLoan_zero, Pool.stamp_current current]
  · simp only [bind_ok_iff, pure_ok_iff, checkedSub_ok_iff, checkedMul_ok_iff,
      checkedAdd_ok_iff] at success
    obtain ⟨_, ⟨_, rfl⟩, _, ⟨_, rfl⟩, _, ⟨_, rfl⟩, _, ⟨_, rfl⟩, _, ⟨_, rfl⟩, rfl⟩ := success
    simp only [Pool.accrue, Pool.accrued, Pool.creditLoan, Pool.stamp, Pool.setAccount,
      Pool.setAsset, UserAccount.setBorrowed, UserAccount.setLastInterestBlock, getInterestRate,
      Function.update_idem, Function.update_self]

/-- What nested owner calls can do to the pool: list more assets and replace
oracles or the owner, but touch neither accounts nor the assets listed so far. -/
structure Extends (pool after : Pool) : Prop where
  accounts : after.userAccounts = pool.userAccounts
  listed : pool.assetCount ≤ after.assetCount
  assets : ∀ assetId < pool.assetCount, after.assets assetId = pool.assets assetId
  fresh : ∀ assetId, pool.assetCount ≤ assetId → after.assets assetId = pool.assets assetId ∨
    ∃ token baseRate, after.assets assetId = ⟨token, 0, 0, baseRate⟩

theorem Extends.refl (pool : Pool) : Extends pool pool :=
  ⟨rfl, Nat.le_refl _, fun _ _ => rfl, fun _ _ => .inl rfl⟩

theorem Extends.trans {pool middle after : Pool} (first : Extends pool middle)
    (second : Extends middle after) : Extends pool after := by
  refine ⟨second.accounts.trans first.accounts, first.listed.trans second.listed, ?_, ?_⟩
  · intro assetId below
    rw [second.assets assetId (Nat.lt_of_lt_of_le below first.listed), first.assets assetId below]
  · intro assetId above
    by_cases listed : assetId < middle.assetCount
    · rw [second.assets assetId listed]
      exact first.fresh assetId above
    · rcases second.fresh assetId (by omega) with same | created
      · rw [same]
        exact first.fresh assetId above
      · exact .inr created

theorem ownerCall_extends {pool after : Pool} {made : OwnerCall}
    (success : ownerCall pool made = .ok after) : Extends pool after := by
  obtain ⟨msgSender, op⟩ := made
  simp only [ownerCall, bind_ok_iff, require_ok_iff] at success
  obtain ⟨_, _, body⟩ := success
  cases op with
  | addAsset token baseRate =>
      simp only [addAsset, bind_ok_iff, pure_ok_iff, checkedAdd_ok_iff] at body
      obtain ⟨_, ⟨_, rfl⟩, rfl⟩ := body
      refine ⟨rfl, Nat.le_succ _, ?_, ?_⟩
      · intro assetId below
        exact Function.update_of_ne (Nat.ne_of_lt below) _ _
      · intro assetId _
        by_cases same : assetId = pool.assetCount
        · subst same
          exact .inr ⟨token, baseRate, Function.update_self _ _ _⟩
        · exact .inl (Function.update_of_ne same _ _)
  | setPriceOracle assetId priceOracle =>
      simp only [pure_ok_iff] at body
      subst body
      exact ⟨rfl, Nat.le_refl _, fun _ _ => rfl, fun _ _ => .inl rfl⟩
  | transferOwnership newOwner =>
      simp only [bind_ok_iff, pure_ok_iff] at body
      obtain ⟨_, _, rfl⟩ := body
      exact ⟨rfl, Nat.le_refl _, fun _ _ => rfl, fun _ _ => .inl rfl⟩
  | renounceOwnership =>
      simp only [pure_ok_iff] at body
      subst body
      exact ⟨rfl, Nat.le_refl _, fun _ _ => rfl, fun _ _ => .inl rfl⟩

theorem nested_extends (pool : Pool) (nested : List OwnerCall) :
    Extends pool (run ownerCall pool nested) :=
  run_invariant (Extends pool)
    (fun _ _ _ before success => before.trans (ownerCall_extends success))
    nested pool (Extends.refl pool)

section Contract

variable {τ κ : Type} {env : Outside τ κ} {this msgSender : Address} {w after : World τ}

theorem callTransferFrom_ok {token sender recipient : Address} {value : Nat} {result : Bool}
    (success : callTransferFrom env this w token sender recipient value = .ok (after, result)) :
    ∃ outside nested,
      env.transferFrom w.outside token this sender recipient value =
        some (outside, result, nested) ∧
      after = { w with outside, pool := run ownerCall w.pool nested } := by
  simp only [callTransferFrom, bind_ok_iff, pure_ok_iff, callee_ok_iff, Prod.exists,
    Prod.mk.injEq] at success
  obtain ⟨outside, _, nested, answered, rfl, rfl⟩ := success
  exact ⟨outside, nested, answered, rfl⟩

theorem callTransfer_ok {token recipient : Address} {value : Nat} {result : Bool}
    (success : callTransfer env this w token recipient value = .ok (after, result)) :
    ∃ outside nested,
      env.transfer w.outside token this recipient value = some (outside, result, nested) ∧
      after = { w with outside, pool := run ownerCall w.pool nested } := by
  simp only [callTransfer, bind_ok_iff, pure_ok_iff, callee_ok_iff, Prod.exists,
    Prod.mk.injEq] at success
  obtain ⟨outside, _, nested, answered, rfl, rfl⟩ := success
  exact ⟨outside, nested, answered, rfl⟩

theorem nonReentrant_ok {body : World τ → Outcome (World τ)}
    (success : nonReentrant body w = .ok after) :
    ∃ last, body { w with pool := w.pool.setEntered true } = .ok last ∧
      after = { last with pool := last.pool.setEntered false } := by
  simp only [nonReentrant, bind_ok_iff, require_ok_iff, pure_ok_iff] at success
  obtain ⟨_, _, last, step, rfl⟩ := success
  exact ⟨last, step, rfl⟩

/-- A successful `deposit`: the token is collected, then interest accrues and
the amount is booked. -/
structure Deposited (env : Outside τ κ) (this msgSender : Address) (assetId amount : Nat)
    (w after : World τ) (paid : World τ) : Prop where
  listed : assetId < w.pool.assetCount
  positive : 0 < amount
  collected : callTransferFrom env this { w with pool := w.pool.setEntered true }
    (w.pool.assets assetId).token msgSender this amount = .ok (paid, true)
  booked : after = { paid with
    pool := ((paid.pool.accrue paid.blockNumber msgSender assetId).creditDeposit msgSender
      assetId amount).setEntered false }

/-- A successful `withdraw`: interest accrues, the amount is booked off and paid. -/
structure Withdrawn (env : Outside τ κ) (this msgSender : Address) (assetId amount : Nat)
    (w after : World τ) (paid : World τ) : Prop where
  listed : assetId < w.pool.assetCount
  positive : 0 < amount
  funded : amount ≤ (((w.pool.setEntered true).accrue w.blockNumber msgSender
    assetId).userAccounts msgSender).deposited assetId
  healthy : ∃ health, calculateHealthFactor env { w with
    pool := (w.pool.setEntered true).accrue w.blockNumber msgSender assetId } msgSender =
      .ok health ∧ PRECISION ≤ health
  sent : callTransfer env this { w with
    pool := ((w.pool.setEntered true).accrue w.blockNumber msgSender assetId).debitDeposit
      msgSender assetId amount } (((w.pool.setEntered true).accrue w.blockNumber msgSender
        assetId).assets assetId).token msgSender amount = .ok (paid, true)
  booked : after = { paid with pool := paid.pool.setEntered false }

/-- A successful `borrow`: interest accrues, the loan is booked, checked and paid. -/
structure Borrowed (version : Version) (env : Outside τ κ) (this msgSender : Address)
    (assetId amount : Nat) (w after : World τ) (paid : World τ) : Prop where
  listed : assetId < w.pool.assetCount
  positive : 0 < amount
  healthy : ∃ health, calculateHealthFactor env { w with
    pool := ((w.pool.setEntered true).accrue w.blockNumber msgSender assetId).creditLoan
      msgSender assetId amount } msgSender = .ok health ∧ version.borrowHealthFactor ≤ health
  sent : callTransfer env this { w with
    pool := ((w.pool.setEntered true).accrue w.blockNumber msgSender assetId).creditLoan
      msgSender assetId amount } (((w.pool.setEntered true).accrue w.blockNumber msgSender
        assetId).assets assetId).token msgSender amount = .ok (paid, true)
  booked : after = { paid with pool := paid.pool.setEntered false }

/-- A successful `repay`: interest accrues, the clamped amount is collected and
booked off. -/
structure Repaid (env : Outside τ κ) (this msgSender : Address) (assetId amount : Nat)
    (w after : World τ) (paid : World τ) : Prop where
  listed : assetId < w.pool.assetCount
  positive : 0 < amount
  collected : callTransferFrom env this { w with
    pool := (w.pool.setEntered true).accrue w.blockNumber msgSender assetId }
      (((w.pool.setEntered true).accrue w.blockNumber msgSender assetId).assets assetId).token
      msgSender this (min amount ((((w.pool.setEntered true).accrue w.blockNumber msgSender
        assetId).userAccounts msgSender).borrowed assetId)) = .ok (paid, true)
  funded : min amount ((((w.pool.setEntered true).accrue w.blockNumber msgSender
    assetId).userAccounts msgSender).borrowed assetId) ≤
      (paid.pool.userAccounts msgSender).borrowed assetId
  booked : after = { paid with
    pool := (paid.pool.debitLoan msgSender assetId
      (min amount ((((w.pool.setEntered true).accrue w.blockNumber msgSender
        assetId).userAccounts msgSender).borrowed assetId))).setEntered false }

/-- The world in which `liquidate` reads prices and amounts. -/
def World.afterInterest (w : World τ) (borrower : Address) (assetId collateralAssetId : Nat) :
    World τ :=
  { w with
    pool := ((w.pool.setEntered true).accrue w.blockNumber borrower assetId).accrue
      w.blockNumber borrower collateralAssetId }

/-- A successful `liquidate`: interest accrues on both assets, the quote is
computed, the two payments are made, then both sides are booked off. -/
structure Liquidated (env : Outside τ κ) (this msgSender borrower : Address)
    (assetId amount collateralAssetId : Nat) (w after : World τ) (quote : Quote)
    (collected paid : World τ) : Prop where
  listed : assetId < w.pool.assetCount ∧ collateralAssetId < w.pool.assetCount
  positive : 0 < amount
  other : borrower ≠ msgSender
  distinct : assetId ≠ collateralAssetId
  unhealthy : ∃ health, calculateHealthFactor env
    (w.afterInterest borrower assetId collateralAssetId) borrower = .ok health ∧ health < PRECISION
  quoted : liquidationQuote env (w.afterInterest borrower assetId collateralAssetId) borrower
    assetId amount collateralAssetId = .ok quote
  received : callTransferFrom env this (w.afterInterest borrower assetId collateralAssetId)
    ((w.afterInterest borrower assetId collateralAssetId).pool.assets assetId).token msgSender
      this quote.toLiquidate = .ok (collected, true)
  sent : callTransfer env this collected (collected.pool.assets collateralAssetId).token msgSender
    quote.collateralAmount = .ok (paid, true)
  loanLeft : quote.actualLiquidation ≤ (paid.pool.userAccounts borrower).borrowed assetId
  depositLeft : quote.collateralAmount ≤
    (paid.pool.userAccounts borrower).deposited collateralAssetId
  booked : after = { paid with
    pool := (paid.pool.liquidated borrower assetId collateralAssetId quote).setEntered false }

theorem deposit_ok {assetId amount : Nat}
    (success : deposit env this msgSender assetId amount w = .ok after) :
    ∃ paid, Deposited env this msgSender assetId amount w after paid := by
  obtain ⟨last, body, rfl⟩ := nonReentrant_ok success
  simp only [bind_ok_iff, require_ok_iff, pure_ok_iff, checkedAdd_ok_iff, Prod.exists] at body
  obtain ⟨_, listed, _, positive, paid, _, collected, _, rfl, pool, interest, _, ⟨_, rfl⟩, _,
    ⟨_, rfl⟩, rfl⟩ := body
  rw [updateInterest_ok interest]
  exact ⟨paid, listed, positive, collected, rfl⟩

theorem withdraw_ok {assetId amount : Nat}
    (success : withdraw env this msgSender assetId amount w = .ok after) :
    ∃ paid, Withdrawn env this msgSender assetId amount w after paid := by
  obtain ⟨last, body, rfl⟩ := nonReentrant_ok success
  simp only [bind_ok_iff, require_ok_iff, pure_ok_iff, checkedSub_ok_iff, Prod.exists] at body
  obtain ⟨_, listed, _, positive, pool, interest, _, funded, health, computed, _, healthy, _,
    ⟨_, rfl⟩, _, ⟨_, rfl⟩, paid, _, sent, _, rfl, rfl⟩ := body
  rw [updateInterest_ok interest] at funded computed sent
  exact ⟨paid, listed, positive, funded, ⟨health, computed, healthy⟩, sent, rfl⟩

theorem borrow_ok {version : Version} {assetId amount : Nat}
    (success : borrow env this msgSender version assetId amount w = .ok after) :
    ∃ paid, Borrowed version env this msgSender assetId amount w after paid := by
  obtain ⟨last, body, rfl⟩ := nonReentrant_ok success
  simp only [bind_ok_iff, require_ok_iff, pure_ok_iff, checkedAdd_ok_iff, Prod.exists] at body
  obtain ⟨_, listed, _, positive, pool, interest, _, ⟨_, rfl⟩, _, ⟨_, rfl⟩, health, computed, _,
    healthy, paid, _, sent, _, rfl, rfl⟩ := body
  rw [updateInterest_ok interest] at computed sent
  exact ⟨paid, listed, positive, ⟨health, computed, healthy⟩, sent, rfl⟩

theorem repay_ok {assetId amount : Nat}
    (success : repay env this msgSender assetId amount w = .ok after) :
    ∃ paid, Repaid env this msgSender assetId amount w after paid := by
  obtain ⟨last, body, rfl⟩ := nonReentrant_ok success
  simp only [bind_ok_iff, require_ok_iff, pure_ok_iff, checkedSub_ok_iff, Prod.exists] at body
  obtain ⟨_, listed, _, positive, pool, interest, paid, _, collected, _, rfl, _, ⟨funded, rfl⟩, _,
    ⟨_, rfl⟩, rfl⟩ := body
  rw [updateInterest_ok interest] at collected funded ⊢
  exact ⟨paid, listed, positive, collected, funded, rfl⟩

theorem liquidate_ok {borrower : Address} {assetId amount collateralAssetId : Nat}
    (success : liquidate env this msgSender borrower assetId amount collateralAssetId w =
      .ok after) :
    ∃ quote collected paid, Liquidated env this msgSender borrower assetId amount
      collateralAssetId w after quote collected paid := by
  obtain ⟨last, body, rfl⟩ := nonReentrant_ok success
  simp only [bind_ok_iff, require_ok_iff, pure_ok_iff, checkedSub_ok_iff, Prod.exists] at body
  obtain ⟨_, listed, _, positive, _, other, _, distinct, pool, interest, pool', interest', health,
    computed, _, unhealthy, quote, quoted, moves⟩ := body
  obtain ⟨collected, _, received, _, rfl, paid, _, sent, _, rfl, reductions⟩ := moves
  obtain ⟨_, ⟨loanLeft, rfl⟩, _, ⟨depositLeft, rfl⟩, _, ⟨_, rfl⟩, _, ⟨_, rfl⟩, rfl⟩ := reductions
  have same := updateInterest_ok interest'
  rw [updateInterest_ok interest] at same
  subst same
  refine ⟨quote, collected, paid, listed, positive, other, distinct, ⟨health, computed, unhealthy⟩,
    quoted, received, sent, loanLeft, depositLeft, ?_⟩
  simp only [Pool.liquidated, Pool.debitLoan, Pool.debitDeposit, Pool.setAccount, Pool.setAsset,
    Pool.setEntered, UserAccount.setBorrowed, UserAccount.setDeposited, Function.update_idem,
    Function.update_self]

end Contract

end TonyLend
