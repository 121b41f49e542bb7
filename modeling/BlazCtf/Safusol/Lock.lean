import BlazCtf.Safusol.Effects
import BlazCtf.Lib.Run

set_option autoImplicit false

namespace Safusol

open Solana
open Evm (Follows)

section Lock

variable {runtime : Runtime} {vault config user : Pubkey} {before after : Ledger}
  {instruction : Instruction}

/-- Withdrawals that name the vault pass the CONFIG account of `init`, and no
instruction passes that account for a balance account. -/
def KeepsConfig (runtime : Runtime) (vault config : Pubkey) (_ : State)
    (instruction : Instruction) : Prop :=
  (instruction.selector runtime = WITHDRAW →
      instruction.vault.key = vault ∨ instruction.caller.key = vault →
        instruction.config.key = config) ∧
    (instruction.selector runtime = DEPOSIT ∨ instruction.selector runtime = WITHDRAW →
      instruction.balance.key ≠ config)

instance instDecidableKeepsConfig (runtime : Runtime) (vault config : Pubkey) (state : State)
    (instruction : Instruction) :
    Decidable (KeepsConfig runtime vault config state instruction) :=
  inferInstanceAs (Decidable (_ ∧ _))

/-- Only a `toggle` by the recorded owner changes the data of the CONFIG account, and
then only its flag. -/
theorem config_effect {state : State} (configured : Configured runtime config user before)
    (keeps : KeepsConfig runtime vault config state instruction)
    (effect : Effect runtime before instruction after) :
    (after config).owner = runtime.program ∧
      ((after config).data = (before config).data ∨
        instruction.selector runtime = TOGGLE ∧ instruction.config.key = config ∧
          instruction.caller.key = user ∧
          after = setLocked before config (!locked (before config).data)) := by
  cases effect with
  | init selected unused foreign =>
      obtain ⟨owned, same, -⟩ := foreign.kept config configured.owned
      have other : config ≠ instruction.config.key := by
        rintro rfl
        exact configured.used unused
      simp only [setLocked_owner, setOwner_owner]
      rw [setLocked_of_ne _ _ _ _ other, setOwner_of_ne _ _ _ _ other]
      exact ⟨owned, Or.inl same⟩
  | register selected unused foreign created =>
      obtain ⟨owned, same, -⟩ := foreign.kept config configured.owned
      exact ⟨owned, Or.inl same⟩
  | deposit selected vaultOwned balanceOwned used foreign received =>
      obtain ⟨owned, same, -⟩ := foreign.kept config configured.owned
      have other : config ≠ instruction.balance.key := (keeps.2 (Or.inl selected)).symm
      rw [setBalance_owner, setBalance_of_ne _ _ _ _ other]
      exact ⟨owned, Or.inl same⟩
  | withdraw selected balanceOwned used unlocked =>
      have other : config ≠ instruction.balance.key := (keeps.2 (Or.inr selected)).symm
      rw [setBalance_owner, setBalance_of_ne _ _ _ _ other, moveLamports_owner, moveLamports_data]
      exact ⟨configured.owned, Or.inl rfl⟩
  | toggle selected byOwner =>
      refine ⟨(setLocked_owner _ _ _ _).trans configured.owned, ?_⟩
      by_cases same : instruction.config.key = config
      · subst same
        have isUser : instruction.caller.key = user := by
          have bytes := byOwner.symm.trans configured.byUser
          cases callerKey : instruction.caller.key
          cases user
          rw [callerKey] at bytes
          exact Pubkey.mk.injEq .. ▸ bytes
        exact Or.inr ⟨selected, rfl, isUser, rfl⟩
      · exact Or.inl (setLocked_of_ne _ _ _ _ (Ne.symm same))
  | ignored notInit notRegister notDeposit notWithdraw => exact ⟨configured.owned, Or.inl rfl⟩

theorem config_kept {state : State} (configured : Configured runtime config user before)
    (keeps : KeepsConfig runtime vault config state instruction)
    (effect : Effect runtime before instruction after) :
    Configured runtime config user after := by
  obtain ⟨owned, same | ⟨-, -, -, rfl⟩⟩ := config_effect configured keeps effect
  · exact ⟨owned, same ▸ configured.size, same ▸ configured.byUser⟩
  · exact ⟨owned, (setLocked_length _ _ _ _).trans configured.size,
      (ownerOf_setLocked _ _ _ _).trans configured.byUser⟩

theorem step_config_kept (lawful : runtime.Lawful) {state : State}
    (configured : Configured runtime config user state.ledger)
    (keeps : KeepsConfig runtime vault config state instruction) :
    Configured runtime config user (step runtime state instruction).ledger := by
  unfold step
  split
  · rename_i ledger success
    exact config_kept configured keeps (entrypoint_effect lawful success)
  · exact configured

/-- In every run after `init` whose instructions keep the accounts of the vault
apart: a withdrawal takes lamports out of the vault only while the CONFIG account is
unlocked, and its flag changes only by a `toggle` that the recorded owner signed. -/
theorem vault_locked_unless_owner_unlocks (lawful : runtime.Lawful) {genesis start : Ledger}
    {deployment : Instruction} (selected : deployment.selector runtime = INIT)
    (genuine : deployment.system.key = systemProgram)
    (deployed : entrypoint runtime genesis deployment = some start)
    {instructions : List Instruction}
    (apart : Follows (KeepsConfig runtime deployment.vault.key deployment.config.key)
      (step runtime) ⟨start, []⟩ instructions)
    {next : Instruction} {reached : Ledger}
    (ran : (run runtime ⟨start, []⟩ instructions).ledger = reached)
    (nextApart : KeepsConfig runtime deployment.vault.key deployment.config.key
      (run runtime ⟨start, []⟩ instructions) next)
    (success : entrypoint runtime reached next = some after) :
    (next.selector runtime = WITHDRAW →
        (after deployment.vault.key).lamports < (reached deployment.vault.key).lamports →
          locked (reached deployment.config.key).data = false) ∧
      (locked (after deployment.config.key).data ≠ locked (reached deployment.config.key).data →
        next.selector runtime = TOGGLE ∧ next.config.key = deployment.config.key ∧
          next.caller.key = deployment.caller.key ∧
          signs next.accounts deployment.caller.key = true) := by
  have configured : Configured runtime deployment.config.key deployment.caller.key reached := by
    rw [← ran]
    exact Evm.foldl_invariant_of_follows
      (fun state => Configured runtime deployment.config.key deployment.caller.key state.ledger)
      (fun state taken holds keeps => step_config_kept lawful holds keeps) instructions _
      (init_configures lawful selected genuine deployed).1 apart
  have effect := entrypoint_effect lawful success
  constructor
  · intro isWithdraw lower
    cases effect with
    | withdraw _ _ _ unlocked =>
        have named : next.vault.key = deployment.vault.key ∨
            next.caller.key = deployment.vault.key := by
          by_contra neither
          obtain ⟨notVault, notCaller⟩ := not_or.mp neither
          rw [setBalance_lamports, moveLamports_of_ne (Ne.symm notVault) (Ne.symm notCaller)]
            at lower
          exact UInt64.lt_irrefl _ lower
        rw [← nextApart.1 isWithdraw named]
        exact unlocked
    | init other => exact absurd (isWithdraw.symm.trans other) (by decide)
    | register other => exact absurd (isWithdraw.symm.trans other) (by decide)
    | deposit other => exact absurd (isWithdraw.symm.trans other) (by decide)
    | toggle other => exact absurd (isWithdraw.symm.trans other) (by decide)
    | ignored _ _ _ notWithdraw => exact absurd isWithdraw notWithdraw
  · intro flips
    obtain ⟨-, same | ⟨isToggle, onConfig, byOwner, -⟩⟩ :=
      config_effect configured nextApart effect
    · rw [same] at flips
      exact absurd rfl flips
    · refine ⟨isToggle, onConfig, byOwner, ?_⟩
      rw [← byOwner]
      exact entrypoint_signed success

end Lock

/-- Addresses are read off the seeds, and no further programs are deployed. -/
def sampleRuntime : Runtime where
  program := Pubkey.ofNat 0x5afe
  derive := fun seeds => some (Pubkey.ofNat (Bytes.ofBE seeds.flatten))
  others := fun _ _ _ => none

theorem sampleRuntime_lawful : sampleRuntime.Lawful where
  notSystem := by decide
  foreign := fun _ _ _ _ _ success => by cases success

def sampleDeployer : Pubkey := Pubkey.ofNat 11

def sampleUser : Pubkey := Pubkey.ofNat 12

def sampleVault : Pubkey := Pubkey.ofNat 0x5641554c54ff

def sampleConfig : Pubkey := Pubkey.ofNat 0x434f4e464947fe

/-- The balance account of the user. -/
def sampleBalance : Pubkey :=
  Pubkey.ofNat (Bytes.ofBE
    ([0x42, 0x41, 0x4c, 0x41, 0x4e, 0x43, 0x45] ++ sampleUser.bytes ++ [0xfd]))

/-- The deployer has 100 SOL and the user one. -/
def sampleGenesis : Ledger := fun key =>
  { lamports := if key = sampleDeployer then 100000000000
      else if key = sampleUser then 1000000000 else 0
    data := []
    owner := systemProgram }

def sampleInstruction (caller config : Pubkey) (data : List UInt8) : Instruction where
  caller := ⟨caller, true, true⟩
  vault := ⟨sampleVault, false, true⟩
  balance := ⟨sampleBalance, false, true⟩
  program := ⟨sampleRuntime.program, false, false⟩
  system := ⟨systemProgram, false, false⟩
  config := ⟨config, false, true⟩
  data := data

def sampleInit : Instruction :=
  sampleInstruction sampleDeployer sampleConfig [0x2a, 0x39, 0xc7, 0xe1, 0xff, 0xfe]

def sampleRegister : Instruction :=
  sampleInstruction sampleUser sampleConfig [0x08, 0xa0, 0xa3, 0x1a, 0xfd]

def sampleToggle : Instruction :=
  sampleInstruction sampleDeployer sampleConfig [0x46, 0xd2, 0xa3, 0x40]

def sampleDeposit (amount : UInt64) : Instruction :=
  sampleInstruction sampleUser sampleConfig
    ([0x25, 0x5f, 0xb5, 0xb6] ++ Bytes.toLE 8 amount.toNat)

def sampleWithdraw (config : Pubkey) (amount : UInt64) : Instruction :=
  sampleInstruction sampleUser config ([0x4d, 0x7d, 0x1a, 0x2e] ++ Bytes.toLE 8 amount.toNat)

/-- The ledger after `init`. -/
def sampleStart : Ledger := (entrypoint sampleRuntime sampleGenesis sampleInit).getD sampleGenesis

theorem sampleStart_deployed :
    entrypoint sampleRuntime sampleGenesis sampleInit = some sampleStart := by
  have succeeds : (entrypoint sampleRuntime sampleGenesis sampleInit).isSome = true := by
    decide +kernel
  obtain ⟨ledger, success⟩ := Option.isSome_iff_exists.mp succeeds
  rw [sampleStart, success, Option.getD_some]

/-- The owner unlocks the vault after a deposit. -/
theorem owner_unlocks_vault :
    locked ((run sampleRuntime ⟨sampleStart, []⟩
        [sampleRegister, sampleDeposit 50000, sampleToggle]).ledger sampleConfig).data = false ∧
      signs sampleToggle.accounts sampleDeployer = true := by
  refine ⟨by decide +kernel, ?_⟩
  have succeeds : (entrypoint sampleRuntime (run sampleRuntime ⟨sampleStart, []⟩
      [sampleRegister, sampleDeposit 50000]).ledger sampleToggle).isSome = true := by
    decide +kernel
  obtain ⟨after, success⟩ := Option.isSome_iff_exists.mp succeeds
  have flips : locked (after sampleInit.config.key).data ≠
      locked ((run sampleRuntime ⟨sampleStart, []⟩
        [sampleRegister, sampleDeposit 50000]).ledger sampleInit.config.key).data := by
    have result : after = ((entrypoint sampleRuntime (run sampleRuntime ⟨sampleStart, []⟩
        [sampleRegister, sampleDeposit 50000]).ledger sampleToggle).getD sampleStart) := by
      rw [success, Option.getD_some]
    rw [result]
    decide +kernel
  have apart : Follows (KeepsConfig sampleRuntime sampleInit.vault.key sampleInit.config.key)
      (step sampleRuntime) ⟨sampleStart, []⟩ [sampleRegister, sampleDeposit 50000] := by
    decide +kernel
  have kept := vault_locked_unless_owner_unlocks sampleRuntime_lawful (by decide +kernel) rfl
    sampleStart_deployed apart rfl (by decide +kernel) success
  exact (kept.2 flips).2.2.2

/-- A user passes its own balance account as CONFIG, and takes lamports out of the
vault while it is locked. -/
theorem withdraw_from_locked_vault :
    entrypoint sampleRuntime sampleGenesis sampleInit = some sampleStart ∧
      locked ((run sampleRuntime ⟨sampleStart, []⟩ [sampleRegister]).ledger sampleConfig).data =
        true ∧
      (sampleWithdraw sampleBalance 5000000000).selector sampleRuntime = WITHDRAW ∧
      ((run sampleRuntime ⟨sampleStart, []⟩
          [sampleRegister, sampleWithdraw sampleBalance 5000000000]).ledger sampleVault).lamports <
        ((run sampleRuntime ⟨sampleStart, []⟩ [sampleRegister]).ledger sampleVault).lamports := by
  refine ⟨sampleStart_deployed, ?_, ?_, ?_⟩ <;> decide +kernel

end Safusol
