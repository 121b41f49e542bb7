import BlazCtf.Safusol.Program

set_option autoImplicit false

namespace Safusol

open Solana

section Fields

variable (ledger : Ledger) (key other : Pubkey)

@[simp] theorem setBalance_owner (balance : UInt64) :
    (setBalance ledger key balance other).owner = (ledger other).owner :=
  setData_owner _ _ _ _

@[simp] theorem setBalance_lamports (balance : UInt64) :
    (setBalance ledger key balance other).lamports = (ledger other).lamports :=
  setData_lamports _ _ _ _

theorem setBalance_of_ne (balance : UInt64) (distinct : other ≠ key) :
    (setBalance ledger key balance other).data = (ledger other).data :=
  setData_of_ne _ _ _ _ distinct

@[simp] theorem setBalance_length (balance : UInt64) :
    (setBalance ledger key balance other).data.length = (ledger other).data.length := by
  by_cases same : other = key
  · rw [same, setBalance, setData_self, Buffer.storeU64, Buffer.length_store]
  · rw [setBalance_of_ne _ _ _ _ same]

theorem balanceOf_setBalance (balance : UInt64) (room : 8 ≤ (ledger key).data.length) :
    balanceOf (setBalance ledger key balance key).data = balance := by
  rw [setBalance, setData_self]
  exact Buffer.loadU64_storeU64 (by omega) balance

@[simp] theorem setLocked_owner (flag : Bool) :
    (setLocked ledger key flag other).owner = (ledger other).owner :=
  setData_owner _ _ _ _

@[simp] theorem setLocked_lamports (flag : Bool) :
    (setLocked ledger key flag other).lamports = (ledger other).lamports :=
  setData_lamports _ _ _ _

theorem setLocked_of_ne (flag : Bool) (distinct : other ≠ key) :
    (setLocked ledger key flag other).data = (ledger other).data :=
  setData_of_ne _ _ _ _ distinct

@[simp] theorem setLocked_length (flag : Bool) :
    (setLocked ledger key flag other).data.length = (ledger other).data.length := by
  by_cases same : other = key
  · rw [same, setLocked, setData_self, Buffer.length_store]
  · rw [setLocked_of_ne _ _ _ _ same]

/-- The flag lies behind the bytes of a balance. -/
@[simp] theorem balanceOf_setLocked (flag : Bool) :
    balanceOf (setLocked ledger key flag other).data = balanceOf (ledger other).data := by
  by_cases same : other = key
  · rw [same, setLocked, setData_self]
    exact Buffer.loadU64_store_apart (Or.inl (by decide))
  · rw [setLocked_of_ne _ _ _ _ same]

@[simp] theorem ownerOf_setLocked (flag : Bool) :
    ownerOf (setLocked ledger key flag other).data = ownerOf (ledger other).data := by
  by_cases same : other = key
  · rw [same, setLocked, setData_self]
    exact Buffer.load_store_apart (Or.inl (by decide))
  · rw [setLocked_of_ne _ _ _ _ same]

@[simp] theorem setOwner_owner (owner : Pubkey) :
    (setOwner ledger key owner other).owner = (ledger other).owner :=
  setData_owner _ _ _ _

@[simp] theorem setOwner_lamports (owner : Pubkey) :
    (setOwner ledger key owner other).lamports = (ledger other).lamports :=
  setData_lamports _ _ _ _

theorem setOwner_of_ne (owner : Pubkey) (distinct : other ≠ key) :
    (setOwner ledger key owner other).data = (ledger other).data :=
  setData_of_ne _ _ _ _ distinct

@[simp] theorem setOwner_length (owner : Pubkey) :
    (setOwner ledger key owner other).data.length = (ledger other).data.length := by
  by_cases same : other = key
  · rw [same, setOwner, setData_self, Buffer.length_store]
  · rw [setOwner_of_ne _ _ _ _ same]

theorem ownerOf_setOwner (owner : Pubkey) (room : SIZE_PUBKEY ≤ (ledger key).data.length) :
    ownerOf (setOwner ledger key owner key).data = owner.bytes := by
  rw [setOwner, setData_self]
  have stored : Buffer.load (Buffer.store (ledger key).data 0 owner.bytes) 0 owner.bytes.length =
      owner.bytes := by
    apply Buffer.load_store_same
    rw [owner.size]
    simpa [SIZE_PUBKEY] using room
  rwa [owner.size] at stored

end Fields

/-- The lamports that `withdraw` moves from the vault to the caller. -/
def moveLamports (runtime : Runtime) (ledger : Ledger) (instruction : Instruction) : Ledger :=
  let debited := setLamports ledger instruction.vault.key
    ((ledger instruction.vault.key).lamports - instruction.amount runtime)
  setLamports debited instruction.caller.key
    ((debited instruction.caller.key).lamports + instruction.amount runtime)

@[simp] theorem moveLamports_owner (runtime : Runtime) (ledger : Ledger)
    (instruction : Instruction) (key : Pubkey) :
    (moveLamports runtime ledger instruction key).owner = (ledger key).owner := by
  rw [moveLamports, setLamports_owner, setLamports_owner]

@[simp] theorem moveLamports_data (runtime : Runtime) (ledger : Ledger)
    (instruction : Instruction) (key : Pubkey) :
    (moveLamports runtime ledger instruction key).data = (ledger key).data := by
  rw [moveLamports, setLamports_data, setLamports_data]

/-- Lamports only move between the two accounts that play these parts. -/
theorem moveLamports_of_ne {runtime : Runtime} {ledger : Ledger} {instruction : Instruction}
    {key : Pubkey} (notVault : key ≠ instruction.vault.key)
    (notCaller : key ≠ instruction.caller.key) :
    (moveLamports runtime ledger instruction key).lamports = (ledger key).lamports := by
  rw [moveLamports, setLamports_of_ne _ _ _ _ notCaller, setLamports_of_ne _ _ _ _ notVault]

/-- What the vault keeps where it can pay. -/
theorem moveLamports_vault {runtime : Runtime} {ledger : Ledger} {instruction : Instruction}
    (funded : instruction.amount runtime ≤ (ledger instruction.vault.key).lamports) :
    (ledger instruction.vault.key).lamports.toNat ≤
      (moveLamports runtime ledger instruction instruction.vault.key).lamports.toNat +
        (instruction.amount runtime).toNat := by
  by_cases same : instruction.vault.key = instruction.caller.key
  · rw [moveLamports, ← same, setLamports_self, setLamports_self, UInt64.sub_add_cancel]
    exact Nat.le_add_right _ _
  · rw [moveLamports, setLamports_of_ne _ _ _ _ same, setLamports_self,
      UInt64.toNat_sub_of_le _ _ funded]
    omega

/-- What an instruction that succeeds does to the ledger. -/
inductive Effect (runtime : Runtime) (before : Ledger) (instruction : Instruction) :
    Ledger → Prop
  | init {created : Ledger} (selected : instruction.selector runtime = INIT)
      (unused : (before instruction.config.key).data = [])
      (foreign : Foreign runtime.program before created) :
      Effect runtime before instruction (setLocked
        (setOwner created instruction.config.key instruction.caller.key)
        instruction.config.key true)
  | register {after : Ledger} (selected : instruction.selector runtime = REGISTER)
      (unused : (before instruction.balance.key).data = [])
      (foreign : Foreign runtime.program before after)
      (created : instruction.system.key = systemProgram →
        (after instruction.balance.key).owner = runtime.program ∧
          (after instruction.balance.key).data =
            List.replicate MAX_PERMITTED_DATA_INCREASE 0) :
      Effect runtime before instruction after
  | deposit {paid : Ledger} (selected : instruction.selector runtime = DEPOSIT)
      (vaultOwned : (before instruction.vault.key).owner = runtime.program)
      (balanceOwned : (before instruction.balance.key).owner = runtime.program)
      (used : (before instruction.balance.key).data ≠ [])
      (foreign : Foreign runtime.program before paid)
      (received : (paid instruction.vault.key).lamports =
        (before instruction.vault.key).lamports + instruction.amount runtime) :
      Effect runtime before instruction (setBalance paid instruction.balance.key
        (balanceOf (paid instruction.balance.key).data + instruction.amount runtime))
  | withdraw (selected : instruction.selector runtime = WITHDRAW)
      (balanceOwned : (before instruction.balance.key).owner = runtime.program)
      (used : (before instruction.balance.key).data ≠ [])
      (unlocked : locked (before instruction.config.key).data = false) :
      Effect runtime before instruction (setBalance (moveLamports runtime before instruction)
        instruction.balance.key
        (balanceOf (before instruction.balance.key).data - instruction.amount runtime))
  | toggle (selected : instruction.selector runtime = TOGGLE)
      (byOwner : ownerOf (before instruction.config.key).data = instruction.caller.key.bytes) :
      Effect runtime before instruction (setLocked before instruction.config.key
        (!locked (before instruction.config.key).data))
  | ignored (notInit : instruction.selector runtime ≠ INIT)
      (notRegister : instruction.selector runtime ≠ REGISTER)
      (notDeposit : instruction.selector runtime ≠ DEPOSIT)
      (notWithdraw : instruction.selector runtime ≠ WITHDRAW) :
      Effect runtime before instruction before

section Handlers

variable {runtime : Runtime} {before after : Ledger} {instruction : Instruction}

theorem create_foreign (lawful : runtime.Lawful) {key : Pubkey} {lamports : UInt64}
    {seeds : List (List UInt8)}
    (success : create runtime instruction key lamports seeds before = some after) :
    Foreign runtime.program before after :=
  invokeSigned_foreign lawful success

theorem create_system {key : Pubkey} {lamports : UInt64} {seeds : List (List UInt8)}
    (genuine : instruction.system.key = systemProgram)
    (success : create runtime instruction key lamports seeds before = some after) :
    (after key).owner = instruction.program.key ∧
      (after key).data = List.replicate MAX_PERMITTED_DATA_INCREASE 0 ∧
      lamports ≤ (after key).lamports := by
  unfold create invoke at success
  rw [genuine] at success
  exact createAccount_target (invokeSigned_system success)

theorem init_ok (success : init runtime before instruction = some after) :
    ∃ vaulted created,
      create runtime instruction instruction.vault.key 10000000000
        [[0x56, 0x41, 0x55, 0x4c, 0x54], [instruction.bump runtime 0]] before = some vaulted ∧
      create runtime instruction instruction.config.key 1000000000
        [[0x43, 0x4f, 0x4e, 0x46, 0x49, 0x47], [instruction.bump runtime 1]] vaulted =
          some created ∧
      after = setLocked (setOwner created instruction.config.key instruction.caller.key)
        instruction.config.key true := by
  simp only [init, Option.bind_eq_bind, Option.bind_eq_some_iff] at success
  obtain ⟨vaulted, first, created, second, settled⟩ := success
  exact ⟨vaulted, created, first, second, settle_eq_some settled⟩

theorem deposit_ok (success : deposit runtime before instruction = some after) :
    ∃ paid, invoke runtime instruction (.transfer instruction.caller.key instruction.vault.key
        (instruction.amount runtime)) [] before = some paid ∧
      (paid instruction.vault.key).lamports =
        (before instruction.vault.key).lamports + instruction.amount runtime ∧
      after = setBalance paid instruction.balance.key
        (balanceOf (paid instruction.balance.key).data + instruction.amount runtime) := by
  simp only [deposit] at success
  split at success
  · cases success
  · simp only [Option.bind_eq_bind, Option.bind_eq_some_iff] at success
    obtain ⟨paid, transferred, checked⟩ := success
    split at checked
    · cases checked
    · rename_i received
      exact ⟨paid, transferred, not_not.mp received, settle_eq_some checked⟩

theorem withdraw_ok (success : withdraw runtime before instruction = some after) :
    locked (before instruction.config.key).data = false ∧
      after = setBalance (moveLamports runtime before instruction) instruction.balance.key
        (balanceOf (before instruction.balance.key).data - instruction.amount runtime) := by
  simp only [withdraw] at success
  split at success
  · cases success
  · rename_i unlocked
    rw [settle_eq_some success, setLamports_data, setLamports_data]
    exact ⟨Bool.eq_false_iff.mpr unlocked, rfl⟩

theorem toggle_ok (success : toggle runtime before instruction = some after) :
    ownerOf (before instruction.config.key).data = instruction.caller.key.bytes ∧
      after = setLocked before instruction.config.key
        (!locked (before instruction.config.key).data) := by
  simp only [toggle, ownerOf_setLocked] at success
  split at success
  · cases success
  · rename_i byOwner
    exact ⟨not_not.mp byOwner, settle_eq_some success⟩

/-- Each branch of the entrypoint, with the checks made on the way to it. -/
theorem entrypoint_effect (lawful : runtime.Lawful)
    (success : entrypoint runtime before instruction = some after) :
    Effect runtime before instruction after := by
  unfold entrypoint at success
  split at success
  · cases success
  rename_i program
  have own : instruction.program.key = runtime.program := not_not.mp program
  split at success
  · cases success
  split at success
  · rename_i selected
    split at success
    · cases success
    · rename_i checks
      obtain ⟨vaulted, created, first, second, rfl⟩ := init_ok success
      have unused : (before instruction.config.key).data = [] :=
        not_not.mp fun used => checks (Or.inr used)
      exact .init selected unused ((create_foreign lawful first).trans
        (create_foreign lawful second))
  rename_i notInit
  split at success
  · rename_i selected
    split at success
    · cases success
    · rename_i checks
      have unused : (before instruction.balance.key).data = [] :=
        not_not.mp fun used => checks (Or.inr used)
      refine .register selected unused (create_foreign lawful success) fun genuine => ?_
      obtain ⟨owned, blank, -⟩ := create_system genuine success
      exact ⟨owned.trans own, blank⟩
  rename_i notRegister
  split at success
  · rename_i selected
    split at success
    · cases success
    · rename_i checks
      simp only [not_or, ne_eq, not_not] at checks
      obtain ⟨vaultOwned, balanceOwned, used⟩ := checks
      obtain ⟨paid, transferred, received, rfl⟩ := deposit_ok success
      exact .deposit selected vaultOwned balanceOwned used
        (invokeSigned_foreign lawful transferred) received
  rename_i notDeposit
  split at success
  · rename_i selected
    split at success
    · cases success
    · rename_i checks
      simp only [not_or, ne_eq, not_not] at checks
      obtain ⟨-, balanceOwned, -, used, -⟩ := checks
      obtain ⟨unlocked, rfl⟩ := withdraw_ok success
      exact .withdraw selected balanceOwned used unlocked
  rename_i notWithdraw
  split at success
  · rename_i selected
    split at success
    · cases success
    · obtain ⟨byOwner, rfl⟩ := toggle_ok success
      exact .toggle selected byOwner
  · obtain rfl := Option.some.inj success
    exact .ignored notInit notRegister notDeposit notWithdraw

theorem entrypoint_signed (success : entrypoint runtime before instruction = some after) :
    signs instruction.accounts instruction.caller.key = true := by
  unfold entrypoint at success
  split at success
  · cases success
  split at success
  · cases success
  · rename_i signed
    exact Bool.not_eq_false _ ▸ signed

end Handlers

section Init

variable {runtime : Runtime} {config user : Pubkey} {before after : Ledger}
  {instruction : Instruction}

/-- The account that `init` has written as CONFIG, with the owner it recorded. -/
structure Configured (runtime : Runtime) (config user : Pubkey) (ledger : Ledger) : Prop where
  owned : (ledger config).owner = runtime.program
  size : (ledger config).data.length = MAX_PERMITTED_DATA_INCREASE
  byUser : ownerOf (ledger config).data = user.bytes

theorem Configured.used {ledger : Ledger} (configured : Configured runtime config user ledger) :
    (ledger config).data ≠ [] := by
  intro empty
  have size := configured.size
  rw [empty] at size
  cases size

/-- What `init` leaves behind when it is given the system program. -/
theorem init_configures (lawful : runtime.Lawful)
    (selected : instruction.selector runtime = INIT)
    (genuine : instruction.system.key = systemProgram)
    (success : entrypoint runtime before instruction = some after) :
    Configured runtime instruction.config.key instruction.caller.key after ∧
      (after instruction.vault.key).owner = runtime.program ∧
      10000000000 ≤ (after instruction.vault.key).lamports.toNat := by
  unfold entrypoint at success
  split at success
  · cases success
  rename_i program
  have own : instruction.program.key = runtime.program := not_not.mp program
  split at success
  · cases success
  split at success
  · cases success
  obtain ⟨vaulted, created, first, second, rfl⟩ := init_ok success
  obtain ⟨vaultOwned, -, funded⟩ := create_system genuine first
  obtain ⟨configOwned, blank, -⟩ := create_system genuine second
  -- the second call cannot take from the vault, which the program owns by then
  obtain ⟨vaultKept, -, more⟩ :=
    (create_foreign lawful second).kept instruction.vault.key (vaultOwned.trans own)
  have size : (created instruction.config.key).data.length = MAX_PERMITTED_DATA_INCREASE := by
    rw [blank, List.length_replicate]
  refine ⟨⟨?_, ?_, ?_⟩, ?_, ?_⟩
  · simpa using configOwned.trans own
  · simpa using size
  · rw [ownerOf_setLocked]
    apply ownerOf_setOwner
    rw [size]
    decide
  · simpa using vaultKept
  · have least := UInt64.le_iff_toNat_le.mp funded
    have grown := UInt64.le_iff_toNat_le.mp more
    simp only [setLocked_lamports, setOwner_lamports]
    exact Nat.le_trans least grown

end Init

end Safusol
