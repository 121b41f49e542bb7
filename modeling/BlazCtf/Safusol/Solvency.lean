import BlazCtf.Safusol.Books
import BlazCtf.Safusol.Lock

set_option autoImplicit false

namespace Safusol

open Solana
open Evm (Follows)

section Solvency

variable {runtime : Runtime} {vault : Pubkey} {before after : Ledger}
  {instruction : Instruction}

theorem Undisturbed.of_init {program config owner : Pubkey} {created : Ledger}
    (foreign : Foreign program before created) (unused : (before config).data = []) :
    Undisturbed program before (setLocked (setOwner created config owner) config true) where
  owner := fun key owned => by simpa using (foreign.kept key owned).1
  lamports := fun key owned => by simpa using (foreign.kept key owned).2.2
  size := fun key owned _ => by simp [(foreign.kept key owned).2.1]
  balance := by
    intro key owned used
    have other : key ≠ config := by
      rintro rfl
      exact used unused
    rw [recorded, setLocked_of_ne _ _ _ _ other, setOwner_of_ne _ _ _ _ other,
      (foreign.kept key owned).2.1, recorded]

theorem Undisturbed.of_setLocked (program config : Pubkey) (flag : Bool) :
    Undisturbed program before (setLocked before config flag) where
  owner := fun key owned => by simpa using owned
  lamports := fun key _ => by simp
  size := fun key _ _ => by simp
  balance := fun key _ _ => by simp [recorded]

/-- What a vault of the program has received from a transfer. -/
theorem received_toNat {paid : Ledger} {amount : UInt64} {key : Pubkey}
    (gains : (before key).lamports ≤ (paid key).lamports)
    (received : (paid key).lamports = (before key).lamports + amount) :
    (paid key).lamports.toNat = (before key).lamports.toNat + amount.toNat := by
  have grown := UInt64.le_iff_toNat_le.mp gains
  have bound := (before key).lamports.toNat_lt
  have small := amount.toNat_lt
  rw [received, UInt64.toNat_add] at grown ⊢
  -- a sum that wrapped would be less than what was there before
  omega

theorem Solvent.effect {state : State}
    (solvent : Solvent runtime vault state.ledger state.history)
    (own : OwnBalance runtime vault state instruction)
    (effect : Effect runtime state.ledger instruction after) :
    Solvent runtime vault after (instruction :: state.history) := by
  cases effect with
  | init selected unused foreign =>
      apply (solvent.undisturbed (.of_init foreign unused)).uncounted
      · exact registersFor_of_selector (by rw [selected]; decide)
      · rw [selected]
        decide
      · rw [selected]
        decide
  | register selected unused foreign created =>
      have still := solvent.undisturbed (.of_foreign foreign)
      by_cases genuine : instruction.system.key = systemProgram
      · obtain ⟨owned, blank⟩ := created genuine
        apply still.registered selected genuine _ _ owned blank
        · exact fun registered => solvent.registered_used registered unused
        · intro done member counted same
          have used := (solvent.used done member counted).2
          rw [same] at used
          exact used unused
      · apply still.uncounted
        · simp [registersFor, genuine]
        · rw [selected]
          decide
        · rw [selected]
          decide
  | deposit selected vaultOwned balanceOwned used foreign received =>
      have undisturbed := Undisturbed.of_foreign foreign
      obtain ⟨stillOwned, stillUsed⟩ := undisturbed.used balanceOwned used
      apply (solvent.undisturbed undisturbed).deposited selected stillOwned stillUsed
        (own.1 selected)
      intro toVault
      subst toVault
      have paid := received_toNat (undisturbed.lamports _ vaultOwned) received
      have backed := solvent.backed
      rw [solvent.owed_undisturbed undisturbed]
      omega
  | withdraw selected balanceOwned used unlocked =>
      obtain ⟨mine, enough, outside⟩ := own.2 selected
      exact solvent.withdrawn selected mine enough outside
  | toggle selected byOwner =>
      apply (solvent.undisturbed (.of_setLocked _ _ _)).uncounted
      · exact registersFor_of_selector (by rw [selected]; decide)
      · rw [selected]
        decide
      · rw [selected]
        decide
  | ignored notInit notRegister notDeposit notWithdraw =>
      exact solvent.uncounted (registersFor_of_selector notRegister) notDeposit notWithdraw

theorem Solvent.step (lawful : runtime.Lawful) {state : State}
    (solvent : Solvent runtime vault state.ledger state.history)
    (own : OwnBalance runtime vault state instruction) :
    Solvent runtime vault (step runtime state instruction).ledger
      (step runtime state instruction).history := by
  unfold Safusol.step
  split
  · rename_i ledger success
    exact solvent.effect own (entrypoint_effect lawful success)
  · exact solvent

end Solvency

end Safusol
