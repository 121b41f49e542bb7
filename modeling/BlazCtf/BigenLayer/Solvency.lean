import BlazCtf.BigenLayer.Contract

set_option autoImplicit false

namespace Bigen

open Evm
open OpenZeppelin (ERC20)
open OpenZeppelin.ERC20 (Funded Undisturbed)
open Function (update)

/-- What the contract owes its users, staked and pending together. -/
def World.owed (w : World) : Nat :=
  (∑ user, w.bigen.stakedBalance user) + ∑ user, w.bigen.pendingWithdrawals user

/-- The amount of a list of requests. -/
def total (requests : List Request) : Nat := (requests.map Request.amount).sum

/-- The token balance covers what is owed, and each pending amount consists of
requests that are no younger than the user's recorded request time. -/
structure Covered (this : Address) (w : World) : Prop where
  funded : w.token.Funded
  unapproved : ∀ spender, w.token.allowances this spender = 0
  backed : w.owed ≤ w.token.balances this
  booked : ∀ user, w.bigen.pendingWithdrawals user = total (w.unpaid user)
  recorded : ∀ user, ∀ request ∈ w.unpaid user,
    request.time ≤ w.bigen.withdrawalRequestTime user
  clock : ∀ user, w.bigen.withdrawalRequestTime user ≤ w.timestamp
  aged : ∀ payout ∈ w.payouts, ∀ request ∈ payout.requests, request.time + 12 ≤ payout.time

variable {this msgSender user recipient onBehalf : Address} {amount : Nat} {w after : World}

theorem Covered.of_deploy (this owner holder : Address) (supply : Fin (2 ^ 256)) (timestamp : Nat) :
    Covered this (deployWorld owner holder supply timestamp) where
  funded := ERC20.deploy_funded holder supply
  unapproved := fun _ => rfl
  backed := by
    have none : (deployWorld owner holder supply timestamp).owed = 0 := by
      simp [World.owed, deployWorld]
    omega
  booked := fun _ => rfl
  recorded := fun _ _ member => absurd member List.not_mem_nil
  clock := fun _ => Nat.zero_le _
  aged := fun _ member => absurd member List.not_mem_nil

/-- What other accounts do to the token leaves the contract covered. -/
theorem Covered.of_token {token : ERC20} (covered : Covered this w)
    (undisturbed : Undisturbed this w.token token) : Covered this { w with token } :=
  { covered with
    funded := undisturbed.funded
    unapproved := undisturbed.allowances
    backed := Nat.le_trans covered.backed undisturbed.balance }

section Requests

/-- `stake` adds what it collects to one staked balance. -/
theorem stake_ok (covered : Covered this w) (external : msgSender ≠ this)
    (success : stake this msgSender w onBehalf amount = .ok after) :
    ∃ token, Undisturbed this w.token token ∧
      token.balances this = w.token.balances this + amount ∧
      after = { w with
        token
        bigen := { w.bigen with
          stakedBalance := update w.bigen.stakedBalance onBehalf
            (w.bigen.stakedBalance onBehalf + amount) } } := by
  simp only [stake, bind_ok_iff, require_ok_iff, checkedAdd_ok_iff, pure_ok_iff,
    Prod.exists] at success
  obtain ⟨token, paid, moved, _, _, _, ⟨_, rfl⟩, rfl⟩ := success
  have undisturbed :=
    Solady.transferFrom_undisturbed covered.funded covered.unapproved moved
  obtain ⟨_, _, _, _, rfl⟩ := Solady.transferFrom_ok covered.funded moved
  exact ⟨_, undisturbed, Ledger.move_target external, rfl⟩

theorem stake_covered (covered : Covered this w) (external : msgSender ≠ this)
    (success : stake this msgSender w onBehalf amount = .ok after) : Covered this after := by
  obtain ⟨token, undisturbed, collected, rfl⟩ := stake_ok covered external success
  refine { covered.of_token undisturbed with backed := ?_ }
  have sums := Ledger.sum_update_add Finset.univ (fun n : Nat => n) w.bigen.stakedBalance
    (Finset.mem_univ onBehalf) (w.bigen.stakedBalance onBehalf + amount)
  have backed := covered.backed
  simp only [World.owed] at backed ⊢
  omega

/-- A request moves an amount from staked to pending and restarts the clock. -/
theorem doRequestWithdrawal_ok (success : doRequestWithdrawal w user amount recipient = .ok after) :
    amount ≤ w.bigen.stakedBalance user ∧ after = { w with
      bigen := { w.bigen with
        stakedBalance :=
          update w.bigen.stakedBalance user (w.bigen.stakedBalance user - amount)
        pendingWithdrawals :=
          update w.bigen.pendingWithdrawals user (w.bigen.pendingWithdrawals user + amount)
        withdrawalRequestTime := update w.bigen.withdrawalRequestTime user w.timestamp
        withdrawalRecipient := update w.bigen.withdrawalRecipient user recipient }
      unpaid := update w.unpaid user (⟨amount, recipient, w.timestamp⟩ :: w.unpaid user) } := by
  simp only [doRequestWithdrawal, bind_ok_iff, require_ok_iff, checkedAdd_ok_iff,
    checkedSub_ok_iff, pure_ok_iff] at success
  obtain ⟨_, enough, _, ⟨_, rfl⟩, _, ⟨_, rfl⟩, rfl⟩ := success
  exact ⟨enough, rfl⟩

theorem doRequestWithdrawal_covered (covered : Covered this w)
    (success : doRequestWithdrawal w user amount recipient = .ok after) : Covered this after := by
  obtain ⟨enough, rfl⟩ := doRequestWithdrawal_ok success
  refine { covered with backed := ?_, booked := ?_, recorded := ?_, clock := ?_ }
  · have staked := Ledger.sum_update_add Finset.univ (fun n : Nat => n) w.bigen.stakedBalance
      (Finset.mem_univ user) (w.bigen.stakedBalance user - amount)
    have pending := Ledger.sum_update_add Finset.univ (fun n : Nat => n)
      w.bigen.pendingWithdrawals (Finset.mem_univ user) (w.bigen.pendingWithdrawals user + amount)
    have backed := covered.backed
    simp only [World.owed] at backed ⊢
    omega
  · intro other
    by_cases same : other = user
    · subst same
      have booked := covered.booked other
      simp only [Function.update_self, total, List.map_cons, List.sum_cons] at booked ⊢
      omega
    · simp only [Function.update_of_ne same]
      exact covered.booked other
  · intro other request member
    by_cases same : other = user
    · subst same
      simp only [Function.update_self] at member ⊢
      rcases List.mem_cons.mp member with rfl | earlier
      · exact Nat.le_refl _
      · exact Nat.le_trans (covered.recorded other request earlier) (covered.clock other)
    · simp only [Function.update_of_ne same] at member ⊢
      exact covered.recorded other request member
  · intro other
    by_cases same : other = user
    · subst same
      simp only [Function.update_self, Nat.le_refl]
    · simp only [Function.update_of_ne same]
      exact covered.clock other

theorem adminRequestWithdrawal_covered (covered : Covered this w)
    (success : adminRequestWithdrawal msgSender w user amount recipient = .ok after) :
    Covered this after := by
  simp only [adminRequestWithdrawal, bind_ok_iff] at success
  obtain ⟨_, _, requested⟩ := success
  exact doRequestWithdrawal_covered covered requested

end Requests

section Payments

/-- A payment empties one pending amount, twelve seconds after its last request. -/
theorem finalizeWithdrawal_ok (covered : Covered this w)
    (success : finalizeWithdrawal this w user = .ok after) :
    w.bigen.pendingWithdrawals user ≤ w.token.balances this ∧
    w.bigen.withdrawalRequestTime user + 12 ≤ w.timestamp ∧
    after = { w with
      token := { w.token with
        balances := Ledger.move w.token.balances this (w.bigen.withdrawalRecipient user)
          (w.bigen.pendingWithdrawals user) }
      bigen := { w.bigen with pendingWithdrawals := update w.bigen.pendingWithdrawals user 0 }
      unpaid := update w.unpaid user []
      payouts := ⟨user, w.bigen.withdrawalRecipient user, w.unpaid user, w.timestamp⟩ ::
        w.payouts } := by
  simp only [finalizeWithdrawal, bind_ok_iff, require_ok_iff, checkedAdd_ok_iff, pure_ok_iff,
    Prod.exists] at success
  obtain ⟨_, _, _, ⟨_, rfl⟩, _, due, token, paid, moved, _, _, rfl⟩ := success
  obtain ⟨enough, rfl⟩ := Solady.transfer_ok covered.funded moved
  exact ⟨enough, due, rfl⟩

/-- The contract loses at most what it pays, also when it pays itself. -/
theorem balance_le_move_add (balances : Address → Nat) (amount : Nat) (this recipient : Address)
    (enough : amount ≤ balances this) :
    balances this ≤ Ledger.move balances this recipient amount this + amount := by
  by_cases itself : this = recipient
  · subst itself
    rw [Ledger.move_self enough]
    omega
  · rw [Ledger.move_source itself]
    omega

/-- The requests a payment consists of have all waited. -/
theorem Covered.waited (covered : Covered this w)
    (due : w.bigen.withdrawalRequestTime user + 12 ≤ w.timestamp) :
    ∀ request ∈ w.unpaid user, request.time + 12 ≤ w.timestamp := by
  intro request member
  have recorded := covered.recorded user request member
  omega

theorem finalizeWithdrawal_covered (covered : Covered this w)
    (success : finalizeWithdrawal this w user = .ok after) : Covered this after := by
  obtain ⟨enough, due, rfl⟩ := finalizeWithdrawal_ok covered success
  have backed : World.owed { w with
      bigen := { w.bigen with pendingWithdrawals := update w.bigen.pendingWithdrawals user 0 } } +
      w.bigen.pendingWithdrawals user = w.owed := by
    have pending := Ledger.sum_update_add Finset.univ (fun n : Nat => n)
      w.bigen.pendingWithdrawals (Finset.mem_univ user) 0
    simp only [World.owed]
    omega
  refine { covered with
    funded := covered.funded.of_move enough
    backed := ?_, booked := ?_, recorded := ?_, aged := ?_ }
  · have covers := covered.backed
    have left := balance_le_move_add w.token.balances (w.bigen.pendingWithdrawals user) this
      (w.bigen.withdrawalRecipient user) enough
    simp only [World.owed] at backed covers ⊢
    omega
  · intro other
    by_cases same : other = user
    · subst same
      simp only [Function.update_self, total, List.map_nil, List.sum_nil]
    · simp only [Function.update_of_ne same]
      exact covered.booked other
  · intro other request member
    by_cases same : other = user
    · subst same
      simp only [Function.update_self, List.not_mem_nil] at member
    · simp only [Function.update_of_ne same] at member ⊢
      exact covered.recorded other request member
  · intro payout member
    rcases List.mem_cons.mp member with rfl | earlier
    · exact covered.waited due
    · exact covered.aged payout earlier

end Payments

theorem call_covered {made : Call this} (covered : Covered this w)
    (success : call w made = .ok after) : Covered this after := by
  obtain ⟨msgSender, op, external⟩ := made
  cases op with
  | stake onBehalf amount => exact stake_covered covered external success
  | requestWithdrawal amount recipient => exact doRequestWithdrawal_covered covered success
  | adminRequestWithdrawal user amount recipient =>
      exact adminRequestWithdrawal_covered covered success
  | finalizeWithdrawal user => exact finalizeWithdrawal_covered covered success
  | transfer recipient amount =>
      simp only [call, bind_ok_iff, pure_ok_iff, Prod.exists] at success
      obtain ⟨token, _, moved, rfl⟩ := success
      exact covered.of_token
        (Solady.transfer_undisturbed covered.funded covered.unapproved external moved)
  | approve spender amount =>
      simp only [call, Solady.approve, bind_ok_iff, pure_ok_iff, Prod.exists,
        Prod.mk.injEq] at success
      obtain ⟨_, _, ⟨rfl, _⟩, rfl⟩ := success
      exact covered.of_token (covered.funded.allow_undisturbed covered.unapproved external)
  | transferFrom sender recipient amount =>
      simp only [call, bind_ok_iff, pure_ok_iff, Prod.exists] at success
      obtain ⟨token, _, moved, rfl⟩ := success
      exact covered.of_token
        (Solady.transferFrom_undisturbed covered.funded covered.unapproved moved)
  | permit owner spender amount signed =>
      simp only [call, Solady.permit, bind_ok_iff, pure_ok_iff] at success
      obtain ⟨_, rfl, rfl⟩ := success
      exact covered.of_token (covered.funded.allow_undisturbed covered.unapproved signed)
  | wait seconds =>
      rw [call, pure_ok_iff] at success
      subst success
      refine { covered with clock := ?_ }
      intro user
      exact Nat.le_trans (covered.clock user) (Nat.le_add_right _ _)

/-- What one call does to the amounts users have asked for: stake that becomes
pending is recorded with the time, what is recorded stays recorded until a
payment to its user, and only such a payment lowers the contract's balance, by
what it pays. -/
structure Flow {this : Address} (w : World) (made : Call this) (after : World) : Prop where
  moved : ∀ user, after.bigen.stakedBalance user < w.bigen.stakedBalance user →
    ∃ recipient, after.unpaid user =
      ⟨w.bigen.stakedBalance user - after.bigen.stakedBalance user, recipient, w.timestamp⟩ ::
        w.unpaid user
  kept : ∀ user, w.unpaid user <:+ after.unpaid user ∨
    made.op = .finalizeWithdrawal user ∧ after.unpaid user = [] ∧
      ∀ request ∈ w.unpaid user, request.time + 12 ≤ w.timestamp
  left : after.token.balances this < w.token.balances this →
    ∃ user, made.op = .finalizeWithdrawal user ∧
      w.token.balances this = after.token.balances this + total (w.unpaid user)

/-- A call that only adds to the staked balances and to the token balance. -/
theorem Flow.of_grown {made : Call this} (unpaid : after.unpaid = w.unpaid)
    (staked : ∀ user, w.bigen.stakedBalance user ≤ after.bigen.stakedBalance user)
    (balance : w.token.balances this ≤ after.token.balances this) : Flow w made after where
  moved := by
    intro user less
    have more := staked user
    omega
  kept := by
    intro user
    rw [unpaid]
    exact Or.inl (List.suffix_refl _)
  left := by
    intro less
    omega

theorem doRequestWithdrawal_flow {made : Call this}
    (success : doRequestWithdrawal w user amount recipient = .ok after) : Flow w made after := by
  obtain ⟨enough, rfl⟩ := doRequestWithdrawal_ok success
  refine ⟨?_, ?_, fun less => absurd less (Nat.lt_irrefl _)⟩
  · intro other less
    by_cases same : other = user
    · subst same
      refine ⟨recipient, ?_⟩
      simp only [Function.update_self, List.cons.injEq, and_true, Request.mk.injEq]
      omega
    · simp only [Function.update_of_ne same, Nat.lt_irrefl] at less
  · intro other
    apply Or.inl
    by_cases same : other = user
    · subst same
      simp only [Function.update_self, List.suffix_cons]
    · simp only [Function.update_of_ne same, List.suffix_refl]

theorem finalizeWithdrawal_flow {external : msgSender ≠ this} (covered : Covered this w)
    (success : finalizeWithdrawal this w user = .ok after) :
    Flow w (⟨msgSender, .finalizeWithdrawal user, external⟩ : Call this) after := by
  obtain ⟨enough, due, rfl⟩ := finalizeWithdrawal_ok covered success
  refine ⟨fun _ less => absurd less (Nat.lt_irrefl _), ?_, ?_⟩
  · intro other
    by_cases same : other = user
    · subst same
      exact Or.inr ⟨rfl, Function.update_self .., covered.waited due⟩
    · simp only [Function.update_of_ne same, List.suffix_refl, true_or]
  · intro less
    refine ⟨user, rfl, ?_⟩
    rw [← covered.booked user]
    by_cases itself : this = w.bigen.withdrawalRecipient user
    · simp only [← itself, Ledger.move_self enough, Nat.lt_irrefl] at less
    · simp only [Ledger.move_source itself]
      omega

theorem call_flow {made : Call this} (covered : Covered this w)
    (success : call w made = .ok after) : Flow w made after := by
  obtain ⟨msgSender, op, external⟩ := made
  cases op with
  | stake onBehalf amount =>
      obtain ⟨token, undisturbed, _, rfl⟩ := stake_ok covered external success
      refine Flow.of_grown rfl ?_ undisturbed.balance
      intro user
      by_cases same : user = onBehalf
      · subst same
        simp only [Function.update_self]
        omega
      · simp only [Function.update_of_ne same, Nat.le_refl]
  | requestWithdrawal amount recipient => exact doRequestWithdrawal_flow success
  | adminRequestWithdrawal user amount recipient =>
      simp only [call, adminRequestWithdrawal, bind_ok_iff] at success
      obtain ⟨_, _, requested⟩ := success
      exact doRequestWithdrawal_flow requested
  | finalizeWithdrawal user => exact finalizeWithdrawal_flow covered success
  | transfer recipient amount =>
      simp only [call, bind_ok_iff, pure_ok_iff, Prod.exists] at success
      obtain ⟨token, _, moved, rfl⟩ := success
      exact Flow.of_grown rfl (fun _ => Nat.le_refl _)
        (Solady.transfer_undisturbed covered.funded covered.unapproved external moved).balance
  | approve spender amount =>
      simp only [call, Solady.approve, bind_ok_iff, pure_ok_iff, Prod.exists,
        Prod.mk.injEq] at success
      obtain ⟨_, _, ⟨rfl, _⟩, rfl⟩ := success
      exact Flow.of_grown rfl (fun _ => Nat.le_refl _) (Nat.le_refl _)
  | transferFrom sender recipient amount =>
      simp only [call, bind_ok_iff, pure_ok_iff, Prod.exists] at success
      obtain ⟨token, _, moved, rfl⟩ := success
      exact Flow.of_grown rfl (fun _ => Nat.le_refl _)
        (Solady.transferFrom_undisturbed covered.funded covered.unapproved moved).balance
  | permit owner spender amount signed =>
      simp only [call, Solady.permit, bind_ok_iff, pure_ok_iff] at success
      obtain ⟨_, rfl, rfl⟩ := success
      exact Flow.of_grown rfl (fun _ => Nat.le_refl _) (Nat.le_refl _)
  | wait seconds =>
      rw [call, pure_ok_iff] at success
      subst success
      exact Flow.of_grown rfl (fun _ => Nat.le_refl _) (Nat.le_refl _)

/-- After every run the token balance covers all staked and pending amounts, the
pending amount of a user is that of the recorded requests, every payment so far
paid requests that had waited twelve seconds, and so does every next call. -/
theorem stakes_backed_and_delayed {this : Address} (owner holder : Address)
    (supply : Fin (2 ^ 256)) (timestamp : Nat) (calls : List (Call this)) :
    let w := run call (deployWorld owner holder supply timestamp) calls
    (∑ user, w.bigen.stakedBalance user) + (∑ user, w.bigen.pendingWithdrawals user) ≤
      w.token.balances this ∧
    (∀ user, w.bigen.pendingWithdrawals user = total (w.unpaid user)) ∧
    (∀ payout ∈ w.payouts, ∀ request ∈ payout.requests, request.time + 12 ≤ payout.time) ∧
    ∀ (made : Call this) (after : World), call w made = .ok after → Flow w made after := by
  intro w
  have covered : Covered this w := run_invariant (Covered this) (fun _ _ _ => call_covered) calls _
    (Covered.of_deploy this owner holder supply timestamp)
  exact ⟨covered.backed, covered.booked, covered.aged, fun made after => call_flow covered⟩

end Bigen
