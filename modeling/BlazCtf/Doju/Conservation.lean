import BlazCtf.Doju.TokenSpec

set_option autoImplicit false

namespace Doju

open Evm

/-- All balances add up to the largest word, so there is no room for one more unit. -/
def Conserved (s : State) : Prop := ∑ account, s.balanceOf account = 2 ^ 256 - 1

section Steps

variable {this : Address} {s after : State}

/-- The deployer's tokens and the contract's own add up to the largest word, unless they are
given to one account. -/
theorem deploy_total (this deployer : Address) (eth : Address → Nat) :
    ∑ account, (deploy this deployer eth).balanceOf account +
      (if this = deployer then 100 * 10 ^ 18 else 0) = 2 ^ 256 - 1 := by
  -- over any set of accounts, so that nothing is computed about all of them
  have total : ∀ keys : Finset Address, this ∈ keys → deployer ∈ keys →
      ∑ account ∈ keys, (deploy this deployer eth).balanceOf account +
        (if this = deployer then 100 * 10 ^ 18 else 0) = 2 ^ 256 - 1 := by
    intro keys inside member
    have minted := Ledger.sum_update_add keys (fun n : Nat => n) (fun _ => 0) member
      (100 * 10 ^ 18)
    have kept := Ledger.sum_update_add keys (fun n : Nat => n)
      (Function.update (fun _ : Address => 0) deployer (100 * 10 ^ 18)) inside
      (2 ^ 256 - 1 - 100 * 10 ^ 18)
    rw [Finset.sum_const_zero] at minted
    simp only [deploy]
    by_cases same : this = deployer
    · rw [same, Function.update_self] at kept
      rw [if_pos same, same]
      omega
    · rw [Function.update_of_ne same] at kept
      rw [if_neg same]
      omega
  exact total Finset.univ (Finset.mem_univ this) (Finset.mem_univ deployer)

theorem deploy_conserved {deployer : Address} (external : deployer ≠ this) (eth : Address → Nat) :
    Conserved (deploy this deployer eth) := by
  have total := deploy_total this deployer eth
  rw [if_neg external.symm, Nat.add_zero] at total
  exact total

/-- Tokens only move, so what holds of the sum of all balances keeps holding. -/
theorem sum_preserved (this : Address) (holds : Nat → Prop) :
    Preserved this fun s => holds (∑ account, s.balanceOf account) where
  eth _ sum := sum
  logs _ sum := sum
  doTransfer := by
    intro s after source recipient value sum success
    obtain ⟨funded, rfl⟩ := doTransfer_ok success
    rw [← Ledger.sum_move funded] at sum
    exact sum
  buyTokens := by
    intro s after value recipient sum success
    obtain ⟨minted, bought⟩ := buyTokens_ok success
    rw [← Ledger.sum_move bought.funded] at sum
    rw [bought.booked]
    exact sum
  startSale := by
    intro s after seller tokenAmount ethValue sum success
    have started := startSale_ok success
    rw [← Ledger.sum_move started.funded] at sum
    rw [started.booked]
    exact sum

theorem conserved_preserved : Preserved this Conserved := sum_preserved this (· = 2 ^ 256 - 1)

/-- `_transfer` of what the sender has cannot overflow the recipient, who may be the sender. -/
theorem Conserved.doTransfer_avoids (conserved : Conserved s) (source recipient : Address)
    (value : Nat) :
    Avoids (.panic 0x11 "balanceOf[to] += value") (doTransfer s source recipient value) := by
  apply avoids_bind avoids_require
  intro _ _
  apply avoids_bind avoids_require
  intro _ enough
  have funded : value ≤ s.balanceOf source := require_ok_iff.mp enough
  apply avoids_bind (avoids_checkedSub (by decide))
  intro debited subtracted
  obtain ⟨_, rfl⟩ := checkedSub_ok_iff.mp subtracted
  have fits : Function.update s.balanceOf source (s.balanceOf source - value) recipient + value <
      2 ^ 256 := by
    have credit := Ledger.credit_le_sum recipient funded
    rw [conserved] at credit
    omega
  apply avoids_bind (avoids_checkedAdd_of_lt fits)
  intro _ _
  exact avoids_pure _ _

end Steps

/-- The states in which a function of the contract begins: a message has come in with its
ETH, or a sale that is not finished has called the contract itself. -/
inductive Entered (this : Address) (s : State) : State → Prop
  | message {before entered : State} {msgSender : Address} {value : Nat}
      (reached : Reachable (fun _ _ (_ : Call this) => True) s before)
      (paid : payEth before msgSender this value = .ok entered) : Entered this s entered
  | selfCall {pending started entered : State} {seller : Address} {tokenAmount ethValue : Nat}
      (inside : Entered this s pending)
      (sold : startSale this pending seller tokenAmount = .ok (started, ethValue))
      (paid : payEth started this this ethValue = .ok entered) : Entered this s entered

theorem Entered.conserved {this : Address} {s entered : State} (conserved : Conserved s)
    (inside : Entered this s entered) : Conserved entered := by
  have kept : Preserved this Conserved := conserved_preserved
  induction inside with
  | message reached paid => exact kept.payEth (kept.reachable conserved reached) paid
  | selfCall inside sold paid ih => exact kept.payEth (kept.startSale ih sold) paid

/-- The sum of all balances is the largest word in every reachable state, and in every state
in which a function begins; so no `_transfer` can overflow there, to the sender itself or to
anyone else. -/
theorem balances_conserved {this deployer : Address} (external : deployer ≠ this)
    (eth : Address → Nat) :
    (∀ s, Reachable (fun _ _ (_ : Call this) => True) (deploy this deployer eth) s →
      ∑ account, s.balanceOf account = 2 ^ 256 - 1) ∧
    ∀ s, Entered this (deploy this deployer eth) s →
      ∑ account, s.balanceOf account = 2 ^ 256 - 1 ∧
        ∀ source recipient value,
          Avoids (.panic 0x11 "balanceOf[to] += value")
            (doTransfer s source recipient value) := by
  have start := deploy_conserved external eth
  constructor
  · intro s reached
    exact conserved_preserved.reachable start reached
  · intro s inside
    have conserved := inside.conserved start
    exact ⟨conserved, conserved.doTransfer_avoids⟩

/-- The deployer sends the token at address 70 one wei. -/
theorem balances_conserved_first_message :
    (1 : Address) ≠ 70 ∧ ∃ entered,
      payEth (deploy 70 1 fun _ => 1) 1 70 1 = .ok entered ∧
        ∑ account, entered.balanceOf account = 2 ^ 256 - 1 ∧
        Avoids (.panic 0x11 "balanceOf[to] += value") (doTransfer entered 70 70 (2 ^ 255)) := by
  have distinct : (1 : Address) ≠ 70 := by decide
  have paid : payEth (deploy 70 1 fun _ => 1) 1 70 1 = .ok _ := if_pos (Nat.le_refl 1)
  obtain ⟨sum, avoids⟩ := (balances_conserved distinct fun _ => 1).2 _ (.message .start paid)
  exact ⟨distinct, _, paid, sum, avoids 70 70 (2 ^ 255)⟩

end Doju
