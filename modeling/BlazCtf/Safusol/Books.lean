import BlazCtf.Safusol.Effects
import Mathlib.Algebra.BigOperators.Group.Finset.Basic
import Mathlib.Algebra.BigOperators.Group.Finset.Piecewise
import Mathlib.Algebra.Order.BigOperators.Group.Finset

set_option autoImplicit false

namespace Safusol

open Solana

/-! The books that a history makes: who registered which balance account, and what was
paid in and out. -/

section Books

variable (runtime : Runtime)

/-- A registration through the system program by one of these users. -/
def registersFor (who : Pubkey → Bool) (instruction : Instruction) : Bool :=
  instruction.selector runtime = REGISTER && instruction.system.key = systemProgram &&
    who instruction.caller.key

/-- The balance accounts that these users have registered. -/
def registeredBy (who : Pubkey → Bool) (history : List Instruction) : Finset Pubkey :=
  ((history.filter (registersFor runtime who)).map fun instruction =>
    instruction.balance.key).toFinset

def anyone : Pubkey → Bool := fun _ => true

def only (user : Pubkey) : Pubkey → Bool := fun other => other = user

/-- The amounts of the instructions that count. -/
def total (counts : Instruction → Bool) (history : List Instruction) : Nat :=
  ((history.filter counts).map fun instruction => (instruction.amount runtime).toNat).sum

def depositOf (vault user : Pubkey) (instruction : Instruction) : Bool :=
  instruction.selector runtime = DEPOSIT && instruction.vault.key = vault &&
    instruction.caller.key = user

def withdrawalOf (user : Pubkey) (instruction : Instruction) : Bool :=
  instruction.selector runtime = WITHDRAW && instruction.caller.key = user

def depositInto (key : Pubkey) (instruction : Instruction) : Bool :=
  instruction.selector runtime = DEPOSIT && instruction.balance.key = key

def withdrawalFrom (key : Pubkey) (instruction : Instruction) : Bool :=
  instruction.selector runtime = WITHDRAW && instruction.balance.key = key

/-- The balance recorded in an account. -/
def recorded (ledger : Ledger) (key : Pubkey) : Nat := (balanceOf (ledger key).data).toNat

def owed (keys : Finset Pubkey) (ledger : Ledger) : Nat := ∑ key ∈ keys, recorded ledger key

/-- Balance accounts are used by the user who registered them, deposits to them go to
the vault, and no withdrawal exceeds the recorded balance. -/
def OwnBalance (vault : Pubkey) (state : State) (instruction : Instruction) : Prop :=
  (instruction.selector runtime = DEPOSIT →
      instruction.balance.key ∈ registeredBy runtime anyone state.history →
        instruction.balance.key ∈
            registeredBy runtime (only instruction.caller.key) state.history ∧
          instruction.vault.key = vault) ∧
    (instruction.selector runtime = WITHDRAW →
      instruction.balance.key ∈
          registeredBy runtime (only instruction.caller.key) state.history ∧
        (instruction.amount runtime).toNat ≤ recorded state.ledger instruction.balance.key ∧
        (instruction.caller.key = vault → instruction.vault.key = vault))

instance instDecidableOwnBalance (vault : Pubkey) (state : State) (instruction : Instruction) :
    Decidable (OwnBalance runtime vault state instruction) :=
  inferInstanceAs (Decidable (_ ∧ _))

variable {runtime} {who : Pubkey → Bool} {counts : Instruction → Bool}
  {instruction : Instruction} {history : List Instruction} {key : Pubkey}

theorem registeredBy_cons_of_registers (registers : registersFor runtime who instruction = true) :
    registeredBy runtime who (instruction :: history) =
      insert instruction.balance.key (registeredBy runtime who history) := by
  rw [registeredBy, List.filter_cons_of_pos registers, List.map_cons, List.toFinset_cons,
    registeredBy]

theorem registeredBy_cons_of_not (not : registersFor runtime who instruction = false) :
    registeredBy runtime who (instruction :: history) = registeredBy runtime who history := by
  rw [registeredBy, List.filter_cons_of_neg (by simp [not]), registeredBy]

theorem registersFor_of_selector (other : instruction.selector runtime ≠ REGISTER) :
    registersFor runtime who instruction = false := by
  simp [registersFor, other]

theorem registeredBy_cons_of_selector (other : instruction.selector runtime ≠ REGISTER) :
    registeredBy runtime who (instruction :: history) = registeredBy runtime who history :=
  registeredBy_cons_of_not (registersFor_of_selector other)

theorem registeredBy_subset : registeredBy runtime who history ⊆
    registeredBy runtime anyone history := by
  intro key member
  simp only [registeredBy, List.mem_toFinset, List.mem_map, List.mem_filter] at member ⊢
  obtain ⟨instruction, ⟨done, registers⟩, same⟩ := member
  simp only [registersFor, Bool.and_eq_true] at registers
  refine ⟨instruction, ⟨done, ?_⟩, same⟩
  simp only [registersFor, anyone, Bool.and_eq_true, and_true]
  exact registers.1

theorem total_cons (counts : Instruction → Bool) (instruction : Instruction)
    (history : List Instruction) :
    total runtime counts (instruction :: history) =
      (if counts instruction = true then (instruction.amount runtime).toNat else 0) +
        total runtime counts history := by
  by_cases counted : counts instruction = true
  · rw [total, List.filter_cons_of_pos counted, List.map_cons, List.sum_cons, if_pos counted,
      total]
  · rw [total, List.filter_cons_of_neg counted, if_neg counted, total, Nat.zero_add]

theorem total_cons_of_not (uncounted : counts instruction = false) :
    total runtime counts (instruction :: history) = total runtime counts history := by
  rw [total_cons, uncounted]
  exact Nat.zero_add _

theorem total_eq_zero (none : ∀ instruction ∈ history, counts instruction = false) :
    total runtime counts history = 0 := by
  have empty : history.filter counts = [] := by
    apply List.filter_eq_nil_iff.mpr
    intro instruction done
    simp [none instruction done]
  rw [total, empty]
  rfl

end Books

section Solvency

variable {runtime : Runtime} {vault : Pubkey} {before after : Ledger}
  {instruction : Instruction} {history : List Instruction}

/-- The 10 SOL of `init` and all recorded balances lie in the vault, each balance is
what went through its account, and users take no more than they gave. -/
structure Solvent (runtime : Runtime) (vault : Pubkey) (ledger : Ledger)
    (history : List Instruction) : Prop where
  vaultOwned : (ledger vault).owner = runtime.program
  created : ∀ key ∈ registeredBy runtime anyone history,
    (ledger key).owner = runtime.program ∧
      (ledger key).data.length = MAX_PERMITTED_DATA_INCREASE
  used : ∀ done ∈ history, done.selector runtime = DEPOSIT ∨ done.selector runtime = WITHDRAW →
    (ledger done.balance.key).owner = runtime.program ∧ (ledger done.balance.key).data ≠ []
  sole : ∀ key user other, key ∈ registeredBy runtime (only user) history →
    key ∈ registeredBy runtime (only other) history → user = other
  booked : ∀ key ∈ registeredBy runtime anyone history,
    recorded ledger key + total runtime (withdrawalFrom runtime key) history =
      total runtime (depositInto runtime key) history
  within : ∀ user, total runtime (withdrawalOf runtime user) history +
      owed (registeredBy runtime (only user) history) ledger ≤
    total runtime (depositOf runtime vault user) history
  backed : 10000000000 + owed (registeredBy runtime anyone history) ledger ≤
    (ledger vault).lamports.toNat

/-- What an instruction does that touches no balance: accounts of the program keep
their owner and lamports, and those in use their size and balance. -/
structure Undisturbed (program : Pubkey) (before after : Ledger) : Prop where
  owner : ∀ key, (before key).owner = program → (after key).owner = program
  lamports : ∀ key, (before key).owner = program → (before key).lamports ≤ (after key).lamports
  size : ∀ key, (before key).owner = program → (before key).data ≠ [] →
    (after key).data.length = (before key).data.length
  balance : ∀ key, (before key).owner = program → (before key).data ≠ [] →
    recorded after key = recorded before key

theorem Undisturbed.of_foreign {program : Pubkey} (foreign : Foreign program before after) :
    Undisturbed program before after where
  owner := fun key owned => (foreign.kept key owned).1
  lamports := fun key owned => (foreign.kept key owned).2.2
  size := fun key owned _ => by rw [(foreign.kept key owned).2.1]
  balance := fun key owned _ => by rw [recorded, (foreign.kept key owned).2.1, recorded]

theorem Undisturbed.used {program key : Pubkey} (undisturbed : Undisturbed program before after)
    (owned : (before key).owner = program) (used : (before key).data ≠ []) :
    (after key).owner = program ∧ (after key).data ≠ [] := by
  refine ⟨undisturbed.owner key owned, ?_⟩
  have size := undisturbed.size key owned used
  intro empty
  rw [empty, List.length_nil] at size
  exact used (List.length_eq_zero_iff.mp size.symm)

theorem Solvent.registered_used {ledger : Ledger} (solvent : Solvent runtime vault ledger history)
    {key : Pubkey} (registered : key ∈ registeredBy runtime anyone history) :
    (ledger key).data ≠ [] := by
  obtain ⟨-, size⟩ := solvent.created key registered
  intro empty
  rw [empty] at size
  cases size

/-- Nothing is owed differently where the balances are not disturbed. -/
theorem Solvent.owed_undisturbed (solvent : Solvent runtime vault before history)
    (undisturbed : Undisturbed runtime.program before after) (who : Pubkey → Bool) :
    owed (registeredBy runtime who history) after =
      owed (registeredBy runtime who history) before := by
  apply Finset.sum_congr rfl
  intro key member
  have registered := registeredBy_subset member
  exact undisturbed.balance key (solvent.created key registered).1
    (solvent.registered_used registered)

theorem Solvent.undisturbed (solvent : Solvent runtime vault before history)
    (undisturbed : Undisturbed runtime.program before after) :
    Solvent runtime vault after history where
  vaultOwned := undisturbed.owner vault solvent.vaultOwned
  created := by
    intro key registered
    obtain ⟨owned, size⟩ := solvent.created key registered
    have used := solvent.registered_used registered
    exact ⟨undisturbed.owner key owned, (undisturbed.size key owned used).trans size⟩
  used := by
    intro done member selected
    obtain ⟨owned, used⟩ := solvent.used done member selected
    exact undisturbed.used owned used
  sole := solvent.sole
  booked := by
    intro key registered
    rw [undisturbed.balance key (solvent.created key registered).1
      (solvent.registered_used registered)]
    exact solvent.booked key registered
  within := by
    intro user
    rw [solvent.owed_undisturbed undisturbed]
    exact solvent.within user
  backed := by
    rw [solvent.owed_undisturbed undisturbed]
    have more := UInt64.le_iff_toNat_le.mp (undisturbed.lamports vault solvent.vaultOwned)
    exact Nat.le_trans solvent.backed more

/-- An instruction that neither registers through the system program nor moves money
leaves the books as they are. -/
theorem Solvent.uncounted {ledger : Ledger} (solvent : Solvent runtime vault ledger history)
    (notRegistered : registersFor runtime anyone instruction = false)
    (notDeposit : instruction.selector runtime ≠ DEPOSIT)
    (notWithdraw : instruction.selector runtime ≠ WITHDRAW) :
    Solvent runtime vault ledger (instruction :: history) := by
  have same : ∀ who, registeredBy runtime who (instruction :: history) =
      registeredBy runtime who history := by
    intro who
    apply registeredBy_cons_of_not
    simp only [registersFor, anyone, Bool.and_true] at notRegistered ⊢
    rw [notRegistered, Bool.false_and]
  constructor
  · exact solvent.vaultOwned
  · rw [same]
    exact solvent.created
  · intro done member selected
    rcases List.mem_cons.mp member with rfl | earlier
    · exact absurd selected (not_or.mpr ⟨notDeposit, notWithdraw⟩)
    · exact solvent.used done earlier selected
  · intro key user other
    rw [same, same]
    exact solvent.sole key user other
  · intro key
    rw [same, total_cons_of_not (by simp [withdrawalFrom, notWithdraw]),
      total_cons_of_not (by simp [depositInto, notDeposit])]
    exact solvent.booked key
  · intro user
    rw [same, total_cons_of_not (by simp [withdrawalOf, notWithdraw]),
      total_cons_of_not (by simp [depositOf, notDeposit])]
    exact solvent.within user
  · rw [same]
    exact solvent.backed

theorem registeredBy_cons_of_register {who : Pubkey → Bool}
    (selected : instruction.selector runtime = REGISTER)
    (genuine : instruction.system.key = systemProgram) :
    registeredBy runtime who (instruction :: history) =
      if who instruction.caller.key = true then
        insert instruction.balance.key (registeredBy runtime who history)
      else registeredBy runtime who history := by
  have registers : registersFor runtime who instruction = who instruction.caller.key := by
    simp [registersFor, selected, genuine]
  by_cases byWho : who instruction.caller.key = true
  · rw [if_pos byWho]
    exact registeredBy_cons_of_registers (registers.trans byWho)
  · rw [if_neg byWho]
    exact registeredBy_cons_of_not (registers.trans (Bool.eq_false_iff.mpr byWho))

theorem mem_registeredBy_cons {who : Pubkey → Bool} {key : Pubkey}
    (selected : instruction.selector runtime = REGISTER)
    (genuine : instruction.system.key = systemProgram) :
    key ∈ registeredBy runtime who (instruction :: history) ↔
      who instruction.caller.key = true ∧ key = instruction.balance.key ∨
        key ∈ registeredBy runtime who history := by
  rw [registeredBy_cons_of_register selected genuine]
  by_cases byWho : who instruction.caller.key = true
  · simp [byWho]
  · simp [byWho]

theorem owed_registeredBy_cons {ledger : Ledger} {who : Pubkey → Bool}
    (selected : instruction.selector runtime = REGISTER)
    (genuine : instruction.system.key = systemProgram)
    (fresh : instruction.balance.key ∉ registeredBy runtime anyone history)
    (nothing : recorded ledger instruction.balance.key = 0) :
    owed (registeredBy runtime who (instruction :: history)) ledger =
      owed (registeredBy runtime who history) ledger := by
  have new : instruction.balance.key ∉ registeredBy runtime who history := fun member =>
    fresh (registeredBy_subset member)
  rw [registeredBy_cons_of_register selected genuine]
  split
  · rw [owed, Finset.sum_insert new, nothing, Nat.zero_add, owed]
  · rfl

theorem recorded_blank {ledger : Ledger} {key : Pubkey} {size : Nat}
    (blank : (ledger key).data = List.replicate size 0) : recorded ledger key = 0 := by
  rw [recorded, balanceOf, Buffer.loadU64_blank]
  · rfl
  · rw [blank]
    exact fun byte member => List.eq_of_mem_replicate member

/-- A fresh balance account that holds nothing enters the books. -/
theorem Solvent.registered {ledger : Ledger} (solvent : Solvent runtime vault ledger history)
    (selected : instruction.selector runtime = REGISTER)
    (genuine : instruction.system.key = systemProgram)
    (fresh : instruction.balance.key ∉ registeredBy runtime anyone history)
    (untouched : ∀ done ∈ history,
      done.selector runtime = DEPOSIT ∨ done.selector runtime = WITHDRAW →
        done.balance.key ≠ instruction.balance.key)
    (owned : (ledger instruction.balance.key).owner = runtime.program)
    (blank : (ledger instruction.balance.key).data =
      List.replicate MAX_PERMITTED_DATA_INCREASE 0) :
    Solvent runtime vault ledger (instruction :: history) := by
  have mine : ∀ who key, key ∈ registeredBy runtime who (instruction :: history) ↔
      who instruction.caller.key = true ∧ key = instruction.balance.key ∨
        key ∈ registeredBy runtime who history := fun _ _ => mem_registeredBy_cons selected genuine
  have nothing := recorded_blank blank
  have owes : ∀ who, owed (registeredBy runtime who (instruction :: history)) ledger =
      owed (registeredBy runtime who history) ledger := fun _ =>
    owed_registeredBy_cons selected genuine fresh nothing
  have notDeposit : instruction.selector runtime ≠ DEPOSIT :=
    selected.trans_ne (by decide)
  have notWithdraw : instruction.selector runtime ≠ WITHDRAW :=
    selected.trans_ne (by decide)
  constructor
  · exact solvent.vaultOwned
  · intro key registered
    rcases (mine _ _).mp registered with ⟨-, rfl⟩ | earlier
    · exact ⟨owned, by rw [blank, List.length_replicate]⟩
    · exact solvent.created key earlier
  · intro done member counted
    rcases List.mem_cons.mp member with rfl | earlier
    · exact absurd counted (not_or.mpr ⟨notDeposit, notWithdraw⟩)
    · exact solvent.used done earlier counted
  · intro key user other first second
    rcases (mine _ _).mp first with ⟨isUser, rfl⟩ | earlier
    · rcases (mine _ _).mp second with ⟨isOther, -⟩ | earlier
      · exact (of_decide_eq_true isUser).symm.trans (of_decide_eq_true isOther)
      · exact absurd (registeredBy_subset earlier) fresh
    · rcases (mine _ _).mp second with ⟨-, rfl⟩ | alsoEarlier
      · exact absurd (registeredBy_subset earlier) fresh
      · exact solvent.sole key user other earlier alsoEarlier
  · intro key registered
    rw [total_cons_of_not (by simp [withdrawalFrom, notWithdraw]),
      total_cons_of_not (by simp [depositInto, notDeposit])]
    rcases (mine _ _).mp registered with ⟨-, rfl⟩ | earlier
    · -- no money has gone through an account that had no data until now
      rw [nothing, total_eq_zero, total_eq_zero]
      · intro done member
        by_contra counted
        simp only [depositInto, Bool.not_eq_false, Bool.and_eq_true, decide_eq_true_eq] at counted
        exact untouched done member (Or.inl counted.1) counted.2
      · intro done member
        by_contra counted
        simp only [withdrawalFrom, Bool.not_eq_false, Bool.and_eq_true,
          decide_eq_true_eq] at counted
        exact untouched done member (Or.inr counted.1) counted.2
    · exact solvent.booked key earlier
  · intro user
    rw [owes, total_cons_of_not (by simp [withdrawalOf, notWithdraw]),
      total_cons_of_not (by simp [depositOf, notDeposit])]
    exact solvent.within user
  · rw [owes]
    exact solvent.backed

/-- No balance is more than what the vault holds beyond its first 10 SOL. -/
theorem recorded_le_owed {keys : Finset Pubkey} {ledger : Ledger} {key : Pubkey}
    (member : key ∈ keys) : recorded ledger key ≤ owed keys ledger :=
  Finset.single_le_sum (f := recorded ledger) (fun _ _ => Nat.zero_le _) member

/-- What is owed when one balance differs by an amount. -/
theorem owed_add {keys : Finset Pubkey} {less more : Ledger} {key : Pubkey} {amount : Nat}
    (balances : ∀ other ∈ keys,
      recorded more other = recorded less other + if other = key then amount else 0) :
    owed keys more = owed keys less + if key ∈ keys then amount else 0 := by
  rw [owed, Finset.sum_congr rfl balances, Finset.sum_add_distrib, Finset.sum_ite_eq', owed]

/-- A deposit or a withdrawal registers nothing and keeps the owner and the size of
every account, so that only the three sums are left to show. -/
theorem Solvent.moved (solvent : Solvent runtime vault before history)
    (notRegister : instruction.selector runtime ≠ REGISTER)
    (owner : ∀ key, (after key).owner = (before key).owner)
    (size : ∀ key, (after key).data.length = (before key).data.length)
    (owned : (before instruction.balance.key).owner = runtime.program)
    (used : (before instruction.balance.key).data ≠ [])
    (booked : ∀ key ∈ registeredBy runtime anyone history,
      recorded after key + total runtime (withdrawalFrom runtime key) (instruction :: history) =
        total runtime (depositInto runtime key) (instruction :: history))
    (within : ∀ user, total runtime (withdrawalOf runtime user) (instruction :: history) +
        owed (registeredBy runtime (only user) history) after ≤
      total runtime (depositOf runtime vault user) (instruction :: history))
    (backed : 10000000000 + owed (registeredBy runtime anyone history) after ≤
      (after vault).lamports.toNat) :
    Solvent runtime vault after (instruction :: history) := by
  have same : ∀ who, registeredBy runtime who (instruction :: history) =
      registeredBy runtime who history := fun _ => registeredBy_cons_of_selector notRegister
  constructor
  · rw [owner]
    exact solvent.vaultOwned
  · intro key
    rw [same, owner, size]
    exact solvent.created key
  · intro done member counted
    rw [owner, ← List.length_pos_iff, size, List.length_pos_iff]
    rcases List.mem_cons.mp member with rfl | earlier
    · exact ⟨owned, used⟩
    · exact solvent.used done earlier counted
  · intro key user other
    rw [same, same]
    exact solvent.sole key user other
  · rw [same]
    exact booked
  · intro user
    rw [same]
    exact within user
  · rw [same]
    exact backed

/-- A balance that the vault covers does not overflow when a deposit adds to it. -/
theorem Solvent.recorded_deposited {paid : Ledger} {account key : Pubkey} {amount : UInt64}
    (solvent : Solvent runtime vault paid history)
    (registered : key ∈ registeredBy runtime anyone history)
    (covered : key = account →
      10000000000 + owed (registeredBy runtime anyone history) paid + amount.toNat ≤
        (paid vault).lamports.toNat) :
    recorded (setBalance paid account (balanceOf (paid account).data + amount)) key =
      recorded paid key + if key = account then amount.toNat else 0 := by
  by_cases isKey : key = account
  · subst isKey
    have room : 8 ≤ (paid key).data.length := by
      rw [(solvent.created _ registered).2]
      decide
    have held : recorded paid key ≤ owed (registeredBy runtime anyone history) paid :=
      recorded_le_owed registered
    have most := covered rfl
    have bound := (paid vault).lamports.toNat_lt
    rw [if_pos rfl, recorded, balanceOf_setBalance _ _ _ room, UInt64.toNat_add]
    apply Nat.mod_eq_of_lt
    show recorded paid key + _ < _
    omega
  · rw [if_neg isKey, recorded, setBalance_of_ne _ _ _ _ isKey, recorded, Nat.add_zero]

/-- A deposit that has been paid for adds to one balance. -/
theorem Solvent.deposited {paid : Ledger} (solvent : Solvent runtime vault paid history)
    (selected : instruction.selector runtime = DEPOSIT)
    (owned : (paid instruction.balance.key).owner = runtime.program)
    (used : (paid instruction.balance.key).data ≠ [])
    (own : instruction.balance.key ∈ registeredBy runtime anyone history →
      instruction.balance.key ∈ registeredBy runtime (only instruction.caller.key) history ∧
        instruction.vault.key = vault)
    (covered : instruction.vault.key = vault →
      10000000000 + owed (registeredBy runtime anyone history) paid +
        (instruction.amount runtime).toNat ≤ (paid vault).lamports.toNat) :
    Solvent runtime vault (setBalance paid instruction.balance.key
      (balanceOf (paid instruction.balance.key).data + instruction.amount runtime))
      (instruction :: history) := by
  have notRegister : instruction.selector runtime ≠ REGISTER :=
    selected.trans_ne (by decide)
  have balances : ∀ key ∈ registeredBy runtime anyone history,
      recorded (setBalance paid instruction.balance.key
        (balanceOf (paid instruction.balance.key).data + instruction.amount runtime)) key =
        recorded paid key +
          if key = instruction.balance.key then (instruction.amount runtime).toNat else 0 := by
    intro key registered
    apply solvent.recorded_deposited registered
    rintro rfl
    exact covered (own registered).2
  have owes : ∀ who, owed (registeredBy runtime who history) (setBalance paid
      instruction.balance.key (balanceOf (paid instruction.balance.key).data +
        instruction.amount runtime)) = owed (registeredBy runtime who history) paid +
      if instruction.balance.key ∈ registeredBy runtime who history then
        (instruction.amount runtime).toNat else 0 := fun who =>
    owed_add fun key member => balances key (registeredBy_subset member)
  apply solvent.moved notRegister
  · intro key
    rw [setBalance_owner]
  · intro key
    rw [setBalance_length]
  · exact owned
  · exact used
  · intro key registered
    have booked := solvent.booked key registered
    have balance := balances key registered
    rw [total_cons_of_not (by simp [withdrawalFrom, selected, DEPOSIT, WITHDRAW]), total_cons]
    by_cases isKey : key = instruction.balance.key
    · rw [if_pos isKey] at balance
      rw [if_pos (by simp [depositInto, selected, isKey])]
      omega
    · rw [if_neg isKey] at balance
      rw [if_neg (by simp [depositInto, Ne.symm isKey])]
      omega
  · intro user
    have within := solvent.within user
    have owesUser := owes (only user)
    rw [total_cons_of_not (by simp [withdrawalOf, selected, DEPOSIT, WITHDRAW]), total_cons]
    by_cases mine : instruction.balance.key ∈ registeredBy runtime (only user) history
    · obtain ⟨byCaller, toVault⟩ := own (registeredBy_subset mine)
      have isUser := solvent.sole _ _ _ byCaller mine
      rw [if_pos mine] at owesUser
      rw [if_pos (by simp [depositOf, selected, toVault, isUser])]
      omega
    · rw [if_neg mine] at owesUser
      omega
  · rw [setBalance_lamports]
    have owesAll := owes anyone
    have backed := solvent.backed
    by_cases registered : instruction.balance.key ∈ registeredBy runtime anyone history
    · have most := covered (own registered).2
      rw [if_pos registered] at owesAll
      omega
    · rw [if_neg registered] at owesAll
      omega

theorem Solvent.recorded_withdrawn (solvent : Solvent runtime vault before history)
    (registered : instruction.balance.key ∈ registeredBy runtime anyone history)
    (enough : (instruction.amount runtime).toNat ≤ recorded before instruction.balance.key)
    (key : Pubkey) :
    recorded before key =
      recorded (setBalance (moveLamports runtime before instruction) instruction.balance.key
        (balanceOf (before instruction.balance.key).data - instruction.amount runtime)) key +
        if key = instruction.balance.key then (instruction.amount runtime).toNat else 0 := by
  by_cases isKey : key = instruction.balance.key
  · subst isKey
    have room : 8 ≤ (moveLamports runtime before instruction
        instruction.balance.key).data.length := by
      rw [moveLamports_data, (solvent.created _ registered).2]
      decide
    rw [if_pos rfl, recorded, recorded, balanceOf_setBalance _ _ _ room,
      UInt64.toNat_sub_of_le _ _ (UInt64.le_iff_toNat_le.mpr enough)]
    exact (Nat.sub_add_cancel enough).symm
  · rw [if_neg isKey, recorded, recorded, setBalance_of_ne _ _ _ _ isKey, moveLamports_data,
      Nat.add_zero]

/-- A withdrawal within the recorded balance takes it out of the vault, or from
another account. -/
theorem Solvent.withdrawn (solvent : Solvent runtime vault before history)
    (selected : instruction.selector runtime = WITHDRAW)
    (mine : instruction.balance.key ∈
      registeredBy runtime (only instruction.caller.key) history)
    (enough : (instruction.amount runtime).toNat ≤ recorded before instruction.balance.key)
    (outside : instruction.caller.key = vault → instruction.vault.key = vault) :
    Solvent runtime vault (setBalance (moveLamports runtime before instruction)
      instruction.balance.key
      (balanceOf (before instruction.balance.key).data - instruction.amount runtime))
      (instruction :: history) := by
  have notRegister : instruction.selector runtime ≠ REGISTER :=
    selected.trans_ne (by decide)
  have registered := registeredBy_subset mine
  have balances : ∀ key, recorded before key =
      recorded (setBalance (moveLamports runtime before instruction) instruction.balance.key
        (balanceOf (before instruction.balance.key).data - instruction.amount runtime)) key +
        if key = instruction.balance.key then (instruction.amount runtime).toNat else 0 :=
    fun key => solvent.recorded_withdrawn registered enough key
  have owes : ∀ who, owed (registeredBy runtime who history) before =
      owed (registeredBy runtime who history) (setBalance (moveLamports runtime before instruction)
        instruction.balance.key
        (balanceOf (before instruction.balance.key).data - instruction.amount runtime)) +
      if instruction.balance.key ∈ registeredBy runtime who history then
        (instruction.amount runtime).toNat else 0 := fun who =>
    owed_add fun key _ => balances key
  apply solvent.moved notRegister
  · intro key
    rw [setBalance_owner, moveLamports_owner]
  · intro key
    rw [setBalance_length, moveLamports_data]
  · exact (solvent.created _ registered).1
  · exact solvent.registered_used registered
  · intro key isRegistered
    have booked := solvent.booked key isRegistered
    have balance := balances key
    have notDeposited : depositInto runtime key instruction = false := by
      simp [depositInto, selected, DEPOSIT, WITHDRAW]
    rw [total_cons_of_not notDeposited, total_cons]
    by_cases isKey : key = instruction.balance.key
    · rw [if_pos isKey] at balance
      rw [if_pos (by simp [withdrawalFrom, selected, isKey])]
      omega
    · rw [if_neg isKey] at balance
      rw [if_neg (by simp [withdrawalFrom, Ne.symm isKey])]
      omega
  · intro user
    have within := solvent.within user
    have owesUser := owes (only user)
    have notDeposited : depositOf runtime vault user instruction = false := by
      simp [depositOf, selected, DEPOSIT, WITHDRAW]
    rw [total_cons_of_not notDeposited, total_cons]
    by_cases isUser : instruction.caller.key = user
    · subst isUser
      rw [if_pos mine] at owesUser
      rw [if_pos (by simp [withdrawalOf, selected])]
      omega
    · have other : instruction.balance.key ∉ registeredBy runtime (only user) history := by
        intro theirs
        exact isUser (solvent.sole _ _ _ mine theirs)
      rw [if_neg other] at owesUser
      rw [if_neg (by simp [withdrawalOf, isUser])]
      omega
  · rw [setBalance_lamports]
    have owesAll := owes anyone
    have backed := solvent.backed
    rw [if_pos registered] at owesAll
    by_cases fromVault : instruction.vault.key = vault
    · subst fromVault
      have funded : instruction.amount runtime ≤ (before instruction.vault.key).lamports := by
        apply UInt64.le_iff_toNat_le.mpr
        omega
      have kept := moveLamports_vault funded
      omega
    · have notCaller : vault ≠ instruction.caller.key := fun isCaller =>
        fromVault (outside isCaller.symm)
      rw [moveLamports_of_ne (Ne.symm fromVault) notCaller]
      omega

end Solvency

end Safusol
