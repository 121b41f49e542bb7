import BlazCtf.TonyLend.PoolBooks

set_option autoImplicit false

namespace TonyLend

open Evm

/-- The four statements that lower a total: in `withdraw`, in `repay`, and two in
`liquidate`. Each comes after the statement that lowers the user's entry. -/
def totalSubtractions : List String :=
  ["asset.totalDeposited -= _amount", "asset.totalBorrowed -= repayAmount",
    "borrowedAsset.totalBorrowed -= actualLiquidation",
    "collateralAsset.totalDeposited -= collateralAmount"]

/-- The subtraction of `updateInterest`. -/
def clockSubtraction : String := "block.number - account.lastInterestBlock[_assetId]"

/-- The subtractions that never fail. -/
def safeSubtractions : List String := clockSubtraction :: totalSubtractions

/-- Where the subtraction of blocks is at stake, no clock is ahead of the block. -/
def Forward (site : String) (blockNumber : Nat) (pool : Pool) : Prop :=
  site = clockSubtraction →
    ∀ user assetId, (pool.userAccounts user).lastInterestBlock assetId ≤ blockNumber

theorem Forward.of_accounts {site : String} {blockNumber : Nat} {pool after : Pool}
    (forward : Forward site blockNumber pool) (same : after.userAccounts = pool.userAccounts) :
    Forward site blockNumber after := by
  intro clock user assetId
  rw [same]
  exact forward clock user assetId

theorem Forward.accrue {site : String} {blockNumber : Nat} {pool : Pool}
    (forward : Forward site blockNumber pool) (user : Address) (assetId : Nat) :
    Forward site blockNumber (pool.accrue blockNumber user assetId) := by
  intro clock other id
  rw [Pool.lastInterestBlock_accrue]
  split
  · exact Nat.le_refl _
  · exact forward clock other id

section Sites

variable {τ κ : Type} {env : Outside τ κ} {this : Address} {w : World τ} {site : String}

theorem ne_of_not_mem {expr : String} (member : site ∈ safeSubtractions)
    (outside : expr ∉ safeSubtractions) : expr ≠ site := by
  rintro rfl
  exact outside member

theorem avoids_nonReentrant {reason : Revert} {body : World τ → Outcome (World τ)}
    (plain : ∀ text, reason ≠ .reason text)
    (inner : Avoids reason (body { w with pool := w.pool.setEntered true })) :
    Avoids reason (nonReentrant body w) := by
  unfold nonReentrant require
  split
  · exact avoids_bind (avoids_ok _ _) fun _ _ => avoids_bind inner fun _ _ => avoids_pure _ _
  · exact avoids_bind (avoids_error (plain _).symm) fun _ _ => avoids_bind inner
      fun _ _ => avoids_pure _ _

theorem avoids_getAssetPrice (assetId : Nat) :
    Avoids (.panic 0x11 site) (getAssetPrice env w assetId) := by
  unfold getAssetPrice
  split
  · exact avoids_pure _ _
  · exact avoids_callee _

theorem avoids_updateInterest (member : site ∈ safeSubtractions) {pool : Pool}
    {blockNumber : Nat} (forward : Forward site blockNumber pool) (user : Address)
    (assetId : Nat) :
    Avoids (.panic 0x11 site) (updateInterest pool blockNumber user assetId) := by
  unfold updateInterest
  dsimp only
  split
  · exact avoids_pure _ _
  · have subtracts : Avoids (.panic 0x11 site) (checkedSub blockNumber
        ((pool.userAccounts user).lastInterestBlock assetId) clockSubtraction) := by
      by_cases clock : site = clockSubtraction
      · exact avoids_checkedSub_of_le (forward clock user assetId)
      · exact avoids_checkedSub (Ne.symm clock)
    refine avoids_bind subtracts fun _ _ => ?_
    refine avoids_bind (avoids_checkedMul (ne_of_not_mem member (by decide))) fun _ _ => ?_
    refine avoids_bind (avoids_checkedMul (ne_of_not_mem member (by decide))) fun _ _ => ?_
    refine avoids_bind (avoids_checkedAdd (ne_of_not_mem member (by decide))) fun _ _ => ?_
    refine avoids_bind (avoids_checkedAdd (ne_of_not_mem member (by decide))) fun _ _ => ?_
    exact avoids_pure _ _

theorem avoids_healthTotals (member : site ∈ safeSubtractions) (account : UserAccount)
    (count : Nat) : Avoids (.panic 0x11 site) (healthTotals env w account count) := by
  induction count with
  | zero => exact avoids_pure _ _
  | succ i ih =>
      unfold healthTotals
      refine avoids_bind ih fun _ _ => ?_
      refine avoids_bind (avoids_getAssetPrice i) fun _ _ => ?_
      refine avoids_bind (avoids_checkedMul (ne_of_not_mem member (by decide))) fun _ _ => ?_
      refine avoids_bind (avoids_getAssetPrice i) fun _ _ => ?_
      refine avoids_bind (avoids_checkedMul (ne_of_not_mem member (by decide))) fun _ _ => ?_
      refine avoids_bind (avoids_checkedAdd (ne_of_not_mem member (by decide))) fun _ _ => ?_
      refine avoids_bind (avoids_checkedAdd (ne_of_not_mem member (by decide))) fun _ _ => ?_
      exact avoids_pure _ _

theorem avoids_calculateHealthFactor (member : site ∈ safeSubtractions) (user : Address) :
    Avoids (.panic 0x11 site) (calculateHealthFactor env w user) := by
  unfold calculateHealthFactor
  refine avoids_bind (avoids_healthTotals member _ _) fun _ _ => ?_
  dsimp only
  split
  · exact avoids_pure _ _
  · refine avoids_bind (avoids_checkedMul (ne_of_not_mem member (by decide))) fun _ _ => ?_
    exact avoids_checkedDiv (ne_of_not_mem member (by decide))

theorem avoids_liquidationQuote (member : site ∈ safeSubtractions) (borrower : Address)
    (assetId amount collateralAssetId : Nat) :
    Avoids (.panic 0x11 site)
      (liquidationQuote env w borrower assetId amount collateralAssetId) := by
  unfold liquidationQuote
  refine avoids_bind (avoids_checkedMul (ne_of_not_mem member (by decide))) fun _ _ => ?_
  refine avoids_bind (avoids_getAssetPrice _) fun _ _ => ?_
  refine avoids_bind (avoids_checkedMul (ne_of_not_mem member (by decide))) fun _ _ => ?_
  refine avoids_bind (avoids_getAssetPrice _) fun _ _ => ?_
  refine avoids_bind (avoids_checkedDiv (ne_of_not_mem member (by decide))) fun _ _ => ?_
  refine avoids_bind (avoids_getAssetPrice _) fun _ _ => ?_
  refine avoids_bind (avoids_checkedMul (ne_of_not_mem member (by decide))) fun _ _ => ?_
  refine avoids_bind (avoids_getAssetPrice _) fun _ _ => ?_
  refine avoids_bind (avoids_checkedDiv (ne_of_not_mem member (by decide))) fun _ _ => ?_
  split
  · refine avoids_bind (avoids_checkedMul (ne_of_not_mem member (by decide))) fun _ _ => ?_
    exact avoids_pure _ _
  · exact avoids_pure _ _

theorem avoids_callTransferFrom (token sender recipient : Address) (value : Nat) :
    Avoids (.panic 0x11 site) (callTransferFrom env this w token sender recipient value) :=
  avoids_bind (avoids_callee _) fun _ _ => avoids_pure _ _

theorem avoids_callTransfer (token recipient : Address) (value : Nat) :
    Avoids (.panic 0x11 site) (callTransfer env this w token recipient value) :=
  avoids_bind (avoids_callee _) fun _ _ => avoids_pure _ _

theorem avoids_ownerCall (member : site ∈ safeSubtractions) (pool : Pool) (made : OwnerCall) :
    Avoids (.panic 0x11 site) (ownerCall pool made) := by
  unfold ownerCall
  refine avoids_bind avoids_require fun _ _ => ?_
  cases made.op with
  | addAsset token baseRate =>
      exact avoids_bind (avoids_checkedAdd (ne_of_not_mem member (by decide)))
        fun _ _ => avoids_pure _ _
  | setPriceOracle assetId priceOracle => exact avoids_pure _ _
  | transferOwnership newOwner => exact avoids_bind avoids_require fun _ _ => avoids_pure _ _
  | renounceOwnership => exact avoids_pure _ _

variable {msgSender : Address}

theorem avoids_deposit (member : site ∈ safeSubtractions)
    (forward : Forward site w.blockNumber w.pool) (assetId amount : Nat) :
    Avoids (.panic 0x11 site) (deposit env this msgSender assetId amount w) := by
  refine avoids_nonReentrant (by simp) ?_
  refine avoids_bind avoids_require fun _ _ => ?_
  refine avoids_bind avoids_require fun _ _ => ?_
  refine avoids_bind (avoids_callTransferFrom _ _ _ _) fun paid collected => ?_
  refine avoids_bind avoids_require fun _ _ => ?_
  -- the token has been called before the interest is updated
  obtain ⟨_, _, _, moved⟩ := callTransferFrom_ok collected
  have current : Forward site paid.1.blockNumber paid.1.pool := by
    have extended := callTransferFrom_extends collected
    rw [moved] at extended ⊢
    exact forward.of_accounts extended.accounts
  refine avoids_bind (avoids_updateInterest member current _ _) fun _ _ => ?_
  refine avoids_bind (avoids_checkedAdd (ne_of_not_mem member (by decide))) fun _ _ => ?_
  refine avoids_bind (avoids_checkedAdd (ne_of_not_mem member (by decide))) fun _ _ => ?_
  exact avoids_pure _ _

theorem avoids_borrow (member : site ∈ safeSubtractions)
    (forward : Forward site w.blockNumber w.pool) (version : Version) (assetId amount : Nat) :
    Avoids (.panic 0x11 site) (borrow env this msgSender version assetId amount w) := by
  have entered : Forward site w.blockNumber (w.pool.setEntered true) := forward.of_accounts rfl
  refine avoids_nonReentrant (by simp) ?_
  refine avoids_bind avoids_require fun _ _ => ?_
  refine avoids_bind avoids_require fun _ _ => ?_
  refine avoids_bind (avoids_updateInterest member entered _ _) fun _ _ => ?_
  refine avoids_bind (avoids_checkedAdd (ne_of_not_mem member (by decide))) fun _ _ => ?_
  refine avoids_bind (avoids_checkedAdd (ne_of_not_mem member (by decide))) fun _ _ => ?_
  refine avoids_bind (avoids_calculateHealthFactor member _) fun _ _ => ?_
  refine avoids_bind avoids_require fun _ _ => ?_
  refine avoids_bind (avoids_callTransfer _ _ _) fun _ _ => ?_
  refine avoids_bind avoids_require fun _ _ => ?_
  exact avoids_pure _ _

/-- The user's entry is part of the total, so a withdrawal the entry covers is
covered by the total. -/
theorem avoids_withdraw (member : site ∈ safeSubtractions)
    (forward : Forward site w.blockNumber w.pool) (books : Books w.pool) (assetId amount : Nat) :
    Avoids (.panic 0x11 site) (withdraw env this msgSender assetId amount w) := by
  have entered : Forward site w.blockNumber (w.pool.setEntered true) := forward.of_accounts rfl
  refine avoids_nonReentrant (by simp) ?_
  refine avoids_bind avoids_require fun _ listed => ?_
  refine avoids_bind avoids_require fun _ _ => ?_
  refine avoids_bind (avoids_updateInterest member entered _ _) fun pool interest => ?_
  refine avoids_bind avoids_require fun _ funded => ?_
  refine avoids_bind (avoids_calculateHealthFactor member _) fun _ _ => ?_
  refine avoids_bind avoids_require fun _ _ => ?_
  refine avoids_bind (avoids_checkedSub (ne_of_not_mem member (by decide))) fun _ _ => ?_
  refine avoids_bind ?_ fun _ _ => ?_
  · rw [require_ok_iff] at listed funded
    have current : Books pool := by
      rw [updateInterest_ok interest]
      exact (books.setEntered true).accrue _ _ listed
    exact avoids_checkedSub_of_le (Nat.le_trans funded (current.deposits.entry_le _ _))
  · refine avoids_bind (avoids_callTransfer _ _ _) fun _ _ => ?_
    refine avoids_bind avoids_require fun _ _ => ?_
    exact avoids_pure _ _

theorem avoids_repay (member : site ∈ safeSubtractions)
    (forward : Forward site w.blockNumber w.pool) (books : Books w.pool) (assetId amount : Nat) :
    Avoids (.panic 0x11 site) (repay env this msgSender assetId amount w) := by
  have entered : Forward site w.blockNumber (w.pool.setEntered true) := forward.of_accounts rfl
  refine avoids_nonReentrant (by simp) ?_
  refine avoids_bind avoids_require fun _ listed => ?_
  refine avoids_bind avoids_require fun _ _ => ?_
  refine avoids_bind (avoids_updateInterest member entered _ _) fun pool interest => ?_
  refine avoids_bind (avoids_callTransferFrom _ _ _ _) fun paid collected => ?_
  refine avoids_bind avoids_require fun _ _ => ?_
  refine avoids_bind (avoids_checkedSub (ne_of_not_mem member (by decide))) fun _ left => ?_
  refine avoids_bind ?_ fun _ _ => avoids_pure _ _
  rw [require_ok_iff] at listed
  rw [checkedSub_ok_iff] at left
  have accrued : Books pool := by
    rw [updateInterest_ok interest]
    exact (books.setEntered true).accrue _ _ listed
  have current : Books paid.1.pool := accrued.of_extends (callTransferFrom_extends collected)
  exact avoids_checkedSub_of_le (Nat.le_trans left.1 (current.loans.entry_le _ _))

theorem avoids_liquidate (member : site ∈ safeSubtractions)
    (forward : Forward site w.blockNumber w.pool) (books : Books w.pool) (borrower : Address)
    (assetId amount collateralAssetId : Nat) :
    Avoids (.panic 0x11 site)
      (liquidate env this msgSender borrower assetId amount collateralAssetId w) := by
  have entered : Forward site w.blockNumber (w.pool.setEntered true) := forward.of_accounts rfl
  refine avoids_nonReentrant (by simp) ?_
  refine avoids_bind avoids_require fun _ listed => ?_
  refine avoids_bind avoids_require fun _ _ => ?_
  refine avoids_bind avoids_require fun _ _ => ?_
  refine avoids_bind avoids_require fun _ distinct => ?_
  refine avoids_bind (avoids_updateInterest member entered _ _) fun pool interest => ?_
  have accruedOnce : Forward site w.blockNumber pool := by
    rw [updateInterest_ok interest]
    exact entered.accrue borrower assetId
  refine avoids_bind (avoids_updateInterest member accruedOnce _ _) fun pool' interest' => ?_
  refine avoids_bind (avoids_calculateHealthFactor member _) fun _ _ => ?_
  refine avoids_bind avoids_require fun _ _ => ?_
  refine avoids_bind (avoids_liquidationQuote member _ _ _ _) fun quote _ => ?_
  refine avoids_bind (avoids_callTransferFrom _ _ _ _) fun collected received => ?_
  refine avoids_bind avoids_require fun _ _ => ?_
  refine avoids_bind (avoids_callTransfer _ _ _) fun paid sent => ?_
  refine avoids_bind avoids_require fun _ _ => ?_
  refine avoids_bind (avoids_checkedSub (ne_of_not_mem member (by decide))) fun _ loanLeft => ?_
  refine avoids_bind (avoids_checkedSub (ne_of_not_mem member (by decide))) fun _ depositLeft => ?_
  rw [require_ok_iff] at listed distinct
  rw [checkedSub_ok_iff] at loanLeft depositLeft
  have accrued : Books pool' := by
    rw [updateInterest_ok interest', updateInterest_ok interest]
    exact ((books.setEntered true).accrue _ _ listed.1).accrue _ _ listed.2
  have current : Books paid.1.pool :=
    (accrued.of_extends (callTransferFrom_extends received)).of_extends (callTransfer_extends sent)
  refine avoids_bind ?_ fun _ _ => avoids_bind ?_ fun _ _ => avoids_pure _ _
  · exact avoids_checkedSub_of_le (Nat.le_trans loanLeft.1 (current.loans.entry_le _ _))
  · refine avoids_checkedSub_of_le ?_
    simp only [Pool.setAsset, Pool.setAccount, Function.update_of_ne distinct.symm]
    exact Nat.le_trans depositLeft.1 (current.deposits.entry_le _ _)

theorem avoids_call (member : site ∈ safeSubtractions)
    (forward : Forward site w.blockNumber w.pool) (books : Books w.pool) (version : Version)
    (made : Call κ this) :
    Avoids (.panic 0x11 site) (call version env w made) := by
  obtain ⟨msgSender, op, external⟩ := made
  cases op with
  | owner op => exact avoids_bind (avoids_ownerCall member _ _) fun _ _ => avoids_pure _ _
  | deposit assetId amount => exact avoids_deposit member forward assetId amount
  | withdraw assetId amount =>
      cases version with
      | first => exact avoids_withdraw member forward books assetId amount
      | second => exact avoids_error (by simp)
  | borrow assetId amount => exact avoids_borrow member forward version assetId amount
  | repay assetId amount =>
      cases version with
      | first => exact avoids_repay member forward books assetId amount
      | second => exact avoids_error (by simp)
  | liquidate borrower assetId amount collateralAssetId =>
      exact avoids_liquidate member forward books borrower assetId amount collateralAssetId
  | mine blocks => exact avoids_pure _ _
  | outside action => exact avoids_bind (avoids_callee _) fun _ _ => avoids_pure _ _

end Sites

/-- After any run of any calls of either version, for tokens and oracles that
behave in any way, every total is the sum of its users' entries, and no later
call can fail in a statement that lowers a total. -/
theorem totals_are_sums {τ κ : Type} {this : Address} (version : Version) (env : Outside τ κ)
    (owner : Address) (outside : τ) (blockNumber : Nat) (calls : List (Call κ this)) :
    let w := run (call version env) (deployWorld owner outside blockNumber) calls
    (∀ assetId,
      (w.pool.assets assetId).totalDeposited =
        ∑ user, (w.pool.userAccounts user).deposited assetId ∧
      (w.pool.assets assetId).totalBorrowed =
        ∑ user, (w.pool.userAccounts user).borrowed assetId) ∧
    ∀ made : Call κ this, ∀ statement ∈ totalSubtractions,
      call version env w made ≠ .error (.panic 0x11 statement) := by
  intro w
  have books : Books w.pool := run_books version env owner outside blockNumber calls
  refine ⟨fun assetId => ⟨books.deposits assetId, books.loans assetId⟩, ?_⟩
  intro made statement member
  have elsewhere : ∀ total ∈ totalSubtractions, total ≠ clockSubtraction := by decide
  have forward : Forward statement w.blockNumber w.pool :=
    fun clock => absurd clock (elsewhere statement member)
  exact avoids_call (List.mem_cons_of_mem _ member) forward books version made

/-- An outside world whose tokens pay on request and whose oracles are silent. -/
def alwaysPays : Outside Unit Unit where
  act _ _ _ := some ()
  price _ _ _ := none
  transferFrom _ _ _ _ _ _ := some ((), true, [])
  transfer _ _ _ _ _ := some ((), true, [])

theorem totals_are_sums_after_deposit :
    let w := run (call .first alwaysPays) (deployWorld 1 () 3)
      [⟨1, .owner (.addAsset 5 0), by decide⟩, (⟨2, .deposit 0 40, by decide⟩ : Call Unit 7)]
    (w.pool.assets 0).totalDeposited = 40 ∧
      (∑ user, (w.pool.userAccounts user).deposited 0) = 40 ∧
      call .first alwaysPays w (⟨2, .withdraw 0 41, by decide⟩ : Call Unit 7) ≠
        .error (.panic 0x11 "asset.totalDeposited -= _amount") := by
  intro w
  obtain ⟨sums, safe⟩ := totals_are_sums .first alwaysPays 1 () 3
    [⟨1, .owner (.addAsset 5 0), by decide⟩, (⟨2, .deposit 0 40, by decide⟩ : Call Unit 7)]
  have booked : (w.pool.assets 0).totalDeposited = 40 := by decide +kernel
  exact ⟨booked, (sums 0).1.symm.trans booked, safe _ _ (by decide)⟩

end TonyLend
