import BlazCtf.TonyLend.PoolCollateral
import BlazCtf.Lib.Compound

set_option autoImplicit false

namespace TonyLend

open Evm Compound

/-- `updateInterest` run for one user and asset at each block of a schedule. -/
def touch (user : Address) (assetId : Nat) : Pool → List Nat → Outcome Pool
  | pool, [] => pure pool
  | pool, blockNumber :: rest => do
      let pool ← updateInterest pool blockNumber user assetId
      touch user assetId pool rest

/-- The numbers of blocks between the touches of a schedule, from the last touch before it. -/
def gaps : Nat → List Nat → List Nat
  | _, [] => []
  | last, blockNumber :: rest => (blockNumber - last) :: gaps blockNumber rest

/-- The parts of a unit of debt in which interest for one block is counted: blocks of a
year times the precision of the rate. -/
def interestScale : Nat := 2102400 * PRECISION

theorem accrued_eq (pool : Pool) (blockNumber : Nat) (user : Address) (assetId : Nat) :
    pool.accrued blockNumber user assetId =
      (pool.userAccounts user).borrowed assetId * (pool.assets assetId).baseRate *
        (blockNumber - (pool.userAccounts user).lastInterestBlock assetId) / interestScale := by
  rw [Pool.accrued, Nat.div_div_eq_div_mul, interestScale]

section Touches

variable {user : Address} {assetId : Nat} {pool after : Pool}

/-- Interest is never accrued backwards. -/
theorem updateInterest_forward {blockNumber : Nat}
    (success : updateInterest pool blockNumber user assetId = .ok after) :
    (pool.userAccounts user).lastInterestBlock assetId ≤ blockNumber := by
  unfold updateInterest at success
  dsimp only at success
  split at success
  · rename_i current
    exact Nat.le_of_eq current
  · simp only [bind_ok_iff, checkedSub_ok_iff] at success
    obtain ⟨_, ⟨forward, _⟩, _⟩ := success
    exact forward

theorem borrowed_accrue_self (pool : Pool) (user : Address) (assetId blockNumber : Nat) :
    ((pool.accrue blockNumber user assetId).userAccounts user).borrowed assetId =
      (pool.userAccounts user).borrowed assetId + pool.accrued blockNumber user assetId := by
  rw [Pool.borrowed_accrue, Function.update_self]

theorem lastInterestBlock_accrue_self (pool : Pool) (user : Address) (assetId blockNumber : Nat) :
    ((pool.accrue blockNumber user assetId).userAccounts user).lastInterestBlock assetId =
      blockNumber := by
  rw [Pool.lastInterestBlock_accrue, if_pos ⟨rfl, rfl⟩]

theorem baseRate_accrue_self (pool : Pool) (user : Address) (assetId blockNumber : Nat) :
    ((pool.accrue blockNumber user assetId).assets assetId).baseRate =
      (pool.assets assetId).baseRate := by
  simp only [Pool.accrue, Pool.creditLoan, Pool.stamp, Pool.setAccount, Pool.setAsset,
    Function.update_self]

/-- The debt after a schedule is what charging it over the gaps gives. -/
theorem touch_debt (schedule : List Nat) (success : touch user assetId pool schedule = .ok after) :
    (after.userAccounts user).borrowed assetId =
      charge interestScale (pool.assets assetId).baseRate
        ((pool.userAccounts user).borrowed assetId)
        (gaps ((pool.userAccounts user).lastInterestBlock assetId) schedule) := by
  induction schedule generalizing pool with
  | nil =>
      rw [touch, pure_ok_iff] at success
      rw [success]
      rfl
  | cons blockNumber rest ih =>
      simp only [touch, bind_ok_iff] at success
      obtain ⟨middle, interest, touched⟩ := success
      have tail := ih touched
      rw [updateInterest_ok interest, baseRate_accrue_self, borrowed_accrue_self,
        lastInterestBlock_accrue_self, accrued_eq] at tail
      exact tail

/-- The gaps of a schedule that succeeds add up to the blocks it spans. -/
theorem touch_gaps_sum (schedule : List Nat) (last : Nat)
    (success : touch user assetId pool (schedule ++ [last]) = .ok after) :
    (gaps ((pool.userAccounts user).lastInterestBlock assetId) (schedule ++ [last])).sum +
      (pool.userAccounts user).lastInterestBlock assetId = last := by
  induction schedule generalizing pool with
  | nil =>
      simp only [List.nil_append, touch, bind_ok_iff] at success
      obtain ⟨_, interest, _⟩ := success
      have forward := updateInterest_forward interest
      simp only [List.nil_append, gaps, List.sum_cons, List.sum_nil]
      omega
  | cons blockNumber rest ih =>
      simp only [List.cons_append, touch, bind_ok_iff] at success
      obtain ⟨middle, interest, touched⟩ := success
      have forward := updateInterest_forward interest
      have tail := ih touched
      rw [updateInterest_ok interest, lastInterestBlock_accrue_self] at tail
      simp only [List.cons_append, gaps, List.sum_cons]
      omega

end Touches

/-- A schedule of touches leaves at least the debt of a single update at its end exactly
when the fractions of interest dropped by the touches are no more than the interest they
charge on interest and the fraction the single update drops. Touches too close together
to charge anything dodge all interest there is. -/
theorem touched_debt_ge_iff (pool poked once : Pool) (user : Address) (assetId : Nat)
    (schedule : List Nat) (last : Nat)
    (touched : touch user assetId pool (schedule ++ [last]) = .ok poked)
    (single : updateInterest pool last user assetId = .ok once) :
    let debt := (pool.userAccounts user).borrowed assetId
    let rate := (pool.assets assetId).baseRate
    let start := (pool.userAccounts user).lastInterestBlock assetId
    ((once.userAccounts user).borrowed assetId ≤ (poked.userAccounts user).borrowed assetId ↔
      dropped interestScale rate debt (gaps start (schedule ++ [last])) ≤
        onInterest interestScale rate debt debt (gaps start (schedule ++ [last])) +
          debt * rate * (last - start) % interestScale) ∧
    ((∀ gap ∈ gaps start (schedule ++ [last]), debt * rate * gap < interestScale) →
      ((once.userAccounts user).borrowed assetId ≤ (poked.userAccounts user).borrowed assetId ↔
        debt * rate * (last - start) < interestScale)) := by
  intro debt rate start
  have positive : 0 < interestScale := by decide
  have span : (gaps start (schedule ++ [last])).sum = last - start := by
    have sum := touch_gaps_sum schedule last touched
    change _ + start = last at sum
    exact Nat.eq_sub_of_add_eq sum
  have pokedDebt : (poked.userAccounts user).borrowed assetId =
      charge interestScale rate debt (gaps start (schedule ++ [last])) := touch_debt _ touched
  have onceDebt : (once.userAccounts user).borrowed assetId =
      debt + debt * rate * (last - start) / interestScale := by
    rw [updateInterest_ok single, borrowed_accrue_self, accrued_eq]
  rw [pokedDebt, onceDebt, ← span]
  constructor
  · exact single_le_charge_iff positive _ _
  · intro short
    rw [charge_of_short short]
    constructor
    · intro le
      have nothing := Nat.le_of_add_le_add_left (Nat.le_trans le (Nat.le_add_right debt 0))
      exact (Nat.div_eq_zero_iff_lt positive).mp (Nat.le_zero.mp nothing)
    · intro less
      rw [Nat.div_eq_of_lt less, Nat.add_zero]

/-- Account 2 owes one unit of the second asset at 100 % a year. -/
def loanOfOne : Pool :=
  (run (call .first standard) (openChain 1)
    (openMarket (10 ^ 18) ++ [⟨2, .borrow 1 1, borrower_external⟩])).pool

/-- Touched in the middle of a year, the debt never grows; left alone, it doubles. -/
theorem poking_dodges_interest :
    (touch 2 1 loanOfOne ([1051203] ++ [2102403])).map
        (fun poked => (poked.userAccounts 2).borrowed 1) = .ok 1 ∧
      (updateInterest loanOfOne 2102403 2 1).map
        (fun once => (once.userAccounts 2).borrowed 1) = .ok 2 := by
  exact ⟨by decide +kernel, by decide +kernel⟩

/-- Touched once a year, it doubles each time, and is more than after two years at once. -/
theorem yearly_touches_compound :
    ∃ poked once, touch 2 1 loanOfOne ([2102403] ++ [4204803]) = .ok poked ∧
      updateInterest loanOfOne 4204803 2 1 = .ok once ∧
      (once.userAccounts 2).borrowed 1 ≤ (poked.userAccounts 2).borrowed 1 := by
  obtain ⟨poked, touched⟩ := exists_ok
    (show (touch 2 1 loanOfOne ([2102403] ++ [4204803])).toBool = true by decide +kernel)
  obtain ⟨once, single⟩ := exists_ok
    (show (updateInterest loanOfOne 4204803 2 1).toBool = true by decide +kernel)
  refine ⟨poked, once, touched, single, ?_⟩
  exact (touched_debt_ge_iff loanOfOne poked once 2 1 [2102403] 4204803 touched single).1.mpr
    (by decide +kernel)

end TonyLend
