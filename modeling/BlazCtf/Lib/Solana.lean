import BlazCtf.Lib.Buffer
import Mathlib.Data.List.Dedup

set_option autoImplicit false

namespace Solana

open Function (update)

structure Pubkey where
  bytes : List UInt8
  size : bytes.length = 32
  deriving DecidableEq

def Pubkey.ofNat (number : Nat) : Pubkey := ⟨Bytes.toBE 32 number, Bytes.length_toBE 32 number⟩

/-- The system program, whose address is all zeros, owns the accounts of users. -/
def systemProgram : Pubkey := Pubkey.ofNat 0

structure Account where
  lamports : UInt64
  data : List UInt8
  owner : Pubkey
  deriving DecidableEq

abbrev Ledger := Pubkey → Account

def setLamports (ledger : Ledger) (key : Pubkey) (lamports : UInt64) : Ledger :=
  update ledger key { ledger key with lamports := lamports }

def setData (ledger : Ledger) (key : Pubkey) (data : List UInt8) : Ledger :=
  update ledger key { ledger key with data := data }

section Fields

variable (ledger : Ledger) (key other : Pubkey) (lamports : UInt64) (data : List UInt8)

@[simp] theorem setLamports_owner :
    (setLamports ledger key lamports other).owner = (ledger other).owner := by
  by_cases same : other = key
  · rw [same, setLamports, Function.update_self]
  · rw [setLamports, Function.update_of_ne same]

@[simp] theorem setLamports_data :
    (setLamports ledger key lamports other).data = (ledger other).data := by
  by_cases same : other = key
  · rw [same, setLamports, Function.update_self]
  · rw [setLamports, Function.update_of_ne same]

@[simp] theorem setLamports_self : (setLamports ledger key lamports key).lamports = lamports := by
  rw [setLamports, Function.update_self]

theorem setLamports_of_ne (distinct : other ≠ key) :
    (setLamports ledger key lamports other).lamports = (ledger other).lamports := by
  rw [setLamports, Function.update_of_ne distinct]

@[simp] theorem setData_owner :
    (setData ledger key data other).owner = (ledger other).owner := by
  by_cases same : other = key
  · rw [same, setData, Function.update_self]
  · rw [setData, Function.update_of_ne same]

@[simp] theorem setData_lamports :
    (setData ledger key data other).lamports = (ledger other).lamports := by
  by_cases same : other = key
  · rw [same, setData, Function.update_self]
  · rw [setData, Function.update_of_ne same]

@[simp] theorem setData_self : (setData ledger key data key).data = data := by
  rw [setData, Function.update_self]

theorem setData_of_ne (distinct : other ≠ key) :
    (setData ledger key data other).data = (ledger other).data := by
  rw [setData, Function.update_of_ne distinct]

end Fields

/-- How an instruction names an account. -/
structure Meta where
  key : Pubkey
  isSigner : Bool
  isWritable : Bool

def signs (metas : List Meta) (key : Pubkey) : Bool :=
  metas.any fun named => named.key = key && named.isSigner

def writes (metas : List Meta) (key : Pubkey) : Bool :=
  metas.any fun named => named.key = key && named.isWritable

/-! The instructions of the system program that programs invoke. -/

inductive SystemInstruction where
  | createAccount (source target : Pubkey) (lamports : UInt64) (space : Nat) (owner : Pubkey)
  | transfer (source target : Pubkey) (lamports : UInt64)

namespace SystemInstruction

def accounts : SystemInstruction → List Pubkey
  | .createAccount source target _ _ _ => [source, target]
  | .transfer source target _ => [source, target]

def signers : SystemInstruction → List Pubkey
  | .createAccount source target _ _ _ => [source, target]
  | .transfer source _ _ => [source]

end SystemInstruction

def credit (target : Pubkey) (lamports : UInt64) (ledger : Ledger) : Option Ledger :=
  if 2 ^ 64 ≤ (ledger target).lamports.toNat + lamports.toNat then none
  else some (setLamports ledger target ((ledger target).lamports + lamports))

/-- The source carries no data, and only an account of the system program can be
debited here. -/
def transferLamports (source target : Pubkey) (lamports : UInt64) (ledger : Ledger) :
    Option Ledger :=
  if (ledger source).data ≠ [] ∨ (ledger source).lamports < lamports ∨
      lamports ≠ 0 ∧ (ledger source).owner ≠ systemProgram then none
  else credit target lamports (setLamports ledger source ((ledger source).lamports - lamports))

def allocate (ledger : Ledger) (key : Pubkey) (space : Nat) (owner : Pubkey) : Ledger :=
  update ledger key
    { ledger key with
      data := List.replicate space 0
      owner := owner }

def processSystem : SystemInstruction → Ledger → Option Ledger
  | .createAccount source target lamports space owner, ledger =>
      if (ledger target).lamports ≠ 0 ∨ (ledger target).data ≠ [] ∨
          (ledger target).owner ≠ systemProgram then none
      else transferLamports source target lamports (allocate ledger target space owner)
  | .transfer source target lamports, ledger => transferLamports source target lamports ledger

/-- What the runtime lets the other programs do to the accounts of `program`: they
can add lamports to one, or hand over an account whose data is blank. -/
structure Foreign (program : Pubkey) (before after : Ledger) : Prop where
  kept : ∀ key, (before key).owner = program →
    (after key).owner = program ∧ (after key).data = (before key).data ∧
      (before key).lamports ≤ (after key).lamports
  blank : ∀ key, (before key).owner ≠ program → (after key).owner = program →
    ∀ byte ∈ (after key).data, byte = 0

theorem Foreign.trans {program : Pubkey} {before middle after : Ledger}
    (first : Foreign program before middle) (second : Foreign program middle after) :
    Foreign program before after where
  kept := by
    intro key owned
    obtain ⟨still, sameData, more⟩ := first.kept key owned
    obtain ⟨stillLater, sameDataLater, moreLater⟩ := second.kept key still
    exact ⟨stillLater, sameDataLater.trans sameData, UInt64.le_trans more moreLater⟩
  blank := by
    intro key notOwned owned
    by_cases meanwhile : (middle key).owner = program
    · rw [(second.kept key meanwhile).2.1]
      exact first.blank key notOwned meanwhile
    · exact second.blank key meanwhile owned

theorem credit_keeps {target : Pubkey} {lamports : UInt64} {before after : Ledger}
    (success : credit target lamports before = some after) (key : Pubkey) :
    (after key).owner = (before key).owner ∧ (after key).data = (before key).data ∧
      (before key).lamports ≤ (after key).lamports := by
  unfold credit at success
  split at success
  · cases success
  · rename_i small
    obtain rfl := Option.some.inj success
    refine ⟨setLamports_owner _ _ _ _, setLamports_data _ _ _ _, ?_⟩
    by_cases isTarget : key = target
    · subst isTarget
      rw [setLamports_self]
      apply UInt64.le_iff_toNat_le.mpr
      rw [UInt64.toNat_add, Nat.mod_eq_of_lt (Nat.lt_of_not_le small)]
      exact Nat.le_add_right _ _
    · rw [setLamports_of_ne _ _ _ _ isTarget]
      exact UInt64.le_refl _

theorem credit_target {target : Pubkey} {lamports : UInt64} {before after : Ledger}
    (success : credit target lamports before = some after) :
    lamports ≤ (after target).lamports := by
  unfold credit at success
  split at success
  · cases success
  · rename_i small
    obtain rfl := Option.some.inj success
    rw [setLamports_self]
    apply UInt64.le_iff_toNat_le.mpr
    rw [UInt64.toNat_add, Nat.mod_eq_of_lt (Nat.lt_of_not_le small)]
    exact Nat.le_add_left _ _

/-- Neither owners nor data move with lamports, and accounts of other programs than
the system program only gain. -/
theorem transferLamports_keeps {source target : Pubkey} {lamports : UInt64}
    {before after : Ledger} (success : transferLamports source target lamports before = some after)
    (key : Pubkey) :
    (after key).owner = (before key).owner ∧ (after key).data = (before key).data ∧
      ((before key).owner ≠ systemProgram → (before key).lamports ≤ (after key).lamports) := by
  unfold transferLamports at success
  split at success
  · cases success
  · rename_i permitted
    obtain ⟨sameOwner, sameData, gains⟩ := credit_keeps success key
    refine ⟨sameOwner.trans (setLamports_owner _ _ _ _),
      sameData.trans (setLamports_data _ _ _ _), fun notSystem => ?_⟩
    by_cases isSource : key = source
    · subst isSource
      have nothing : lamports = 0 := by
        by_contra nonzero
        exact permitted (Or.inr (Or.inr ⟨nonzero, notSystem⟩))
      rwa [setLamports_self, nothing, UInt64.sub_zero] at gains
    · rwa [setLamports_of_ne _ _ _ _ isSource] at gains

theorem processSystem_foreign {program : Pubkey} (notSystem : program ≠ systemProgram)
    {call : SystemInstruction} {before after : Ledger}
    (success : processSystem call before = some after) : Foreign program before after := by
  cases call with
  | transfer source target lamports =>
      have keeps := transferLamports_keeps success
      constructor
      · intro key owned
        obtain ⟨sameOwner, sameData, gains⟩ := keeps key
        exact ⟨sameOwner.trans owned, sameData, gains (owned ▸ notSystem)⟩
      · intro key notOwned owned
        exact absurd ((keeps key).1.symm.trans owned) notOwned
  | createAccount source target lamports space owner =>
      simp only [processSystem] at success
      split at success
      · cases success
      · rename_i unused
        have keeps := transferLamports_keeps success
        constructor
        · intro key owned
          have other : key ≠ target := by
            rintro rfl
            exact unused (Or.inr (Or.inr (owned ▸ notSystem)))
          obtain ⟨sameOwner, sameData, gains⟩ := keeps key
          rw [allocate, Function.update_of_ne other] at sameOwner sameData gains
          exact ⟨sameOwner.trans owned, sameData, gains (owned ▸ notSystem)⟩
        · intro key notOwned owned byte member
          obtain ⟨sameOwner, sameData, -⟩ := keeps key
          by_cases isTarget : key = target
          · subst isTarget
            rw [sameData, allocate, Function.update_self] at member
            exact List.eq_of_mem_replicate member
          · rw [allocate, Function.update_of_ne isTarget] at sameOwner
            exact absurd (sameOwner.symm.trans owned) notOwned

/-- An account that is created holds what it was given, and blank data of the size
asked for. -/
theorem createAccount_target {source target owner : Pubkey} {lamports : UInt64} {space : Nat}
    {before after : Ledger}
    (success : processSystem (.createAccount source target lamports space owner) before =
      some after) :
    (after target).owner = owner ∧ (after target).data = List.replicate space 0 ∧
      lamports ≤ (after target).lamports := by
  simp only [processSystem] at success
  split at success
  · cases success
  · obtain ⟨sameOwner, sameData, -⟩ := transferLamports_keeps success target
    rw [allocate, Function.update_self] at sameOwner sameData
    refine ⟨sameOwner, sameData, ?_⟩
    unfold transferLamports at success
    split at success
    · cases success
    · exact credit_target success

/-! What the runtime checks of the accounts that a program has written itself. -/

/-- Only writable accounts change, and only accounts of the program lose lamports or
have their data written. -/
def Permitted (program : Pubkey) (metas : List Meta) (before after : Ledger) (key : Pubkey) :
    Prop :=
  (writes metas key = true ∨ after key = before key) ∧
    ((before key).owner = program ∨
      (before key).lamports ≤ (after key).lamports ∧ (after key).data = (before key).data)

instance instDecidablePermitted (program : Pubkey) (metas : List Meta) (before after : Ledger)
    (key : Pubkey) : Decidable (Permitted program metas before after key) :=
  inferInstanceAs (Decidable (_ ∧ _))

/-- The lamports of the accounts an instruction names, each counted once. -/
def totalLamports (metas : List Meta) (ledger : Ledger) : Nat :=
  ((metas.map Meta.key).dedup.map fun key => (ledger key).lamports.toNat).sum

def settle (program : Pubkey) (metas : List Meta) (before after : Ledger) : Option Ledger :=
  if (∀ named ∈ metas, Permitted program metas before after named.key) ∧
      totalLamports metas after = totalLamports metas before then some after
  else none

theorem settle_eq_some {program : Pubkey} {metas : List Meta} {before after result : Ledger}
    (settled : settle program metas before after = some result) : result = after := by
  unfold settle at settled
  split at settled
  · exact (Option.some.inj settled).symm
  · cases settled

/-- The surroundings of a program: how the runtime derives addresses of the program
from seeds, and what the other programs do when they are invoked. -/
structure Runtime where
  program : Pubkey
  derive : List (List UInt8) → Option Pubkey
  others : Pubkey → SystemInstruction → Ledger → Option Ledger

/-- The other programs keep to the rules of the runtime. -/
structure Runtime.Lawful (runtime : Runtime) : Prop where
  notSystem : runtime.program ≠ systemProgram
  foreign : ∀ callee call before after, callee ≠ runtime.program →
    runtime.others callee call before = some after → Foreign runtime.program before after

/-- A callee gets no more rights than the instruction has, save the signatures of
addresses derived from the seeds. -/
def granted (runtime : Runtime) (metas : List Meta) (seeds : List (List (List UInt8)))
    (call : SystemInstruction) : Bool :=
  (call.signers.all fun key =>
      signs metas key || seeds.any fun seed => runtime.derive seed = some key) &&
    call.accounts.all fun key => writes metas key

/-- `sol_invoke_signed` of whatever program stands at `callee`. -/
def invokeSigned (runtime : Runtime) (metas : List Meta) (callee : Pubkey)
    (call : SystemInstruction) (seeds : List (List (List UInt8))) (ledger : Ledger) :
    Option Ledger :=
  if granted runtime metas seeds call = false then none
  else if callee = systemProgram then processSystem call ledger
  else if callee = runtime.program then none
  else runtime.others callee call ledger

theorem invokeSigned_foreign {runtime : Runtime} (lawful : runtime.Lawful) {metas : List Meta}
    {callee : Pubkey} {call : SystemInstruction} {seeds : List (List (List UInt8))}
    {before after : Ledger}
    (success : invokeSigned runtime metas callee call seeds before = some after) :
    Foreign runtime.program before after := by
  unfold invokeSigned at success
  split at success
  · cases success
  · split at success
    · exact processSystem_foreign lawful.notSystem success
    · split at success
      · cases success
      · rename_i notProgram
        exact lawful.foreign callee call before after notProgram success

theorem invokeSigned_system {runtime : Runtime} {metas : List Meta} {call : SystemInstruction}
    {seeds : List (List (List UInt8))} {before after : Ledger}
    (success : invokeSigned runtime metas systemProgram call seeds before = some after) :
    processSystem call before = some after := by
  unfold invokeSigned at success
  split at success
  · cases success
  · rwa [if_pos rfl] at success

end Solana
