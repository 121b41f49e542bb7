import BlazCtf.Admin.Authority

set_option autoImplicit false

namespace Admin

open Evm
open Function (update)

/-- `ecrecover` returns the signer of a valid signature, and zero for any other. -/
def ValidSignature (env : Env) (signer target : Address) (data : List UInt8)
    (signatures : Signatures) (slot : Fin 3) : Prop :=
  signer ≠ 0 ∧ env.recovered target data signatures slot = signer

/-- The contract as its constructor leaves it. -/
def World.deployGov (world : World) (contract : Address) (owners : Owners) : World where
  code := update world.code contract .gov
  nonce := update world.nonce contract 1
  slots := update world.slots contract owners
  destroyed := []

/-- The contract holds its owners, and its executions were checked against them. -/
structure Deployed (contract : Address) (owners : Owners) (state : State) : Prop where
  code : state.world.code contract = .gov
  slots : state.world.slots contract = owners
  alive : contract ∉ state.world.destroyed
  executions : ∀ execution ∈ state.executions, execution.contract = contract →
    execution.owners = owners

section Run

variable {env : Env} {contract : Address} {owners : Owners} {state after : State}

theorem Deployed.of_deploy (world : World) (node : Node) (contract : Address) (owners : Owners) :
    Deployed contract owners (State.boot (world.deployGov contract owners) node) where
  code := Function.update_self ..
  slots := Function.update_self ..
  alive := List.not_mem_nil
  executions := fun _ member => absurd member List.not_mem_nil

theorem Deployed.progress {chained : Prop} (deployed : Deployed contract owners state)
    (progress : Progress env chained state after) (proper : chained) :
    Deployed contract owners after := by
  obtain ⟨same, alive⟩ := progress.kept proper contract deployed.code
  refine ⟨progress.extended.gov deployed.code, same.trans deployed.slots,
    fun gone => deployed.alive (alive gone), ?_⟩
  obtain ⟨made, grown, _, reads⟩ := progress.executions
  intro execution member itself
  rw [grown] at member
  rcases List.mem_append.mp member with newer | older
  · have code : state.world.code execution.contract = .gov := by
      rw [itself]
      exact deployed.code
    rw [reads proper execution newer code, itself]
    exact deployed.slots
  · exact deployed.executions execution older itself

theorem Deployed.finalize (deployed : Deployed contract owners state) :
    Deployed contract owners { state with world := state.world.finalize } where
  code := by simpa only [World.finalize, deployed.alive, ↓reduceIte] using deployed.code
  slots := by simpa only [World.finalize, deployed.alive, ↓reduceIte] using deployed.slots
  alive := List.not_mem_nil
  executions := deployed.executions

theorem transact_deployed {tx : Transaction} (deployed : Deployed contract owners state) :
    Deployed contract owners (transact env state tx) := by
  unfold transact
  split
  · exact deployed
  · rename_i served
    have plain : state.world.code tx.sender ≠ .gov := by
      rw [Decidable.not_not.mp (not_or.mp served).2]
      simp
    have executed := deployed.progress (execute_progress env state tx) plain
    split
    · rename_i ended
      rw [ended] at executed
      exact ⟨deployed.code, deployed.slots, deployed.alive, executed.executions⟩
    · rename_i ended
      rw [ended] at executed
      exact executed.finalize

theorem run_deployed (env : Env) (txs : List Transaction)
    (deployed : Deployed contract owners state) :
    Deployed contract owners (txs.foldl (transact env) state) := by
  induction txs generalizing state with
  | nil => exact deployed
  | cons tx rest ih => exact ih (transact_deployed deployed)

end Run

/-- Two slots that match hold two owners, if no owner is listed twice or zero. -/
theorem two_owners_of_approvals {env : Env} {owners : Owners} {target : Address}
    {data : List UInt8} {signatures : Signatures} (real : ∀ slot, owners slot ≠ 0)
    (distinct : Function.Injective owners)
    (enough : 2 ≤ env.approvals owners target data signatures) :
    ∃ first second, owners first ≠ owners second ∧
      ValidSignature env (owners first) target data signatures first ∧
      ValidSignature env (owners second) target data signatures second := by
  obtain ⟨first, second, different, matchesFirst, matchesSecond⟩ := two_slots_of_approvals enough
  exact ⟨first, second, fun same => different (distinct same), ⟨real first, matchesFirst⟩,
    ⟨real second, matchesSecond⟩⟩

/-- Every execution of the contract, nested ones included, has two matching owner
slots, and so valid signatures of two owners if the owners are different and none
is zero. The same approvals pass again on the owner slots of every later state. -/
theorem executions_approved_by_owners (env : Env) (world : World) (node : Node)
    (contract : Address) (owners : Owners) (txs : List Transaction) :
    ∀ execution ∈ (txs.foldl (transact env)
      (State.boot (world.deployGov contract owners) node)).executions,
    execution.contract = contract →
      2 ≤ env.approvals owners execution.target execution.data execution.signatures ∧
      ((∀ slot, owners slot ≠ 0) → Function.Injective owners →
        ∃ first second, owners first ≠ owners second ∧
          ValidSignature env (owners first) execution.target execution.data execution.signatures
            first ∧
          ValidSignature env (owners second) execution.target execution.data execution.signatures
            second) ∧
      ∀ (more : List Transaction) (call : Caller) (callers : List Frame) (frame : Frame)
        (state : State) (gasLeft : Nat) (callee : Script),
        let later := (txs ++ more).foldl (transact env)
          (State.boot (world.deployGov contract owners) node)
        let slots := later.world.slots contract
        execTransaction env call callers frame state slots execution.target execution.data
            execution.signatures gasLeft callee =
          call (frame :: callers)
            { state with executions :=
                ⟨frame.context.address, slots, execution.target, execution.data,
                  execution.signatures⟩ :: state.executions }
            (callContext frame .call execution.target 0) frame.isStatic execution.data
            (gasLeft - gasLeft / 64) callee := by
  intro execution member itself
  have deployed := run_deployed env txs (Deployed.of_deploy world node contract owners)
  have approved := (run_recorded env (world.deployGov contract owners) node txs).approved
    execution member
  unfold Execution.Approved at approved
  rw [deployed.executions execution member itself] at approved
  refine ⟨approved, fun real distinct => two_owners_of_approvals real distinct approved, ?_⟩
  intro more call callers frame state gasLeft callee later slots
  have same : slots = owners :=
    (run_deployed env (txs ++ more) (Deployed.of_deploy world node contract owners)).slots
  rw [same, execTransaction, if_neg (Nat.not_lt.mpr approved)]

section Sample

/-- A call of `0x1234` with the signatures of two owners. -/
def pay (signatures : Signatures) : GovCall :=
  .execTransaction 0x1234 [0x41, 0x41, 0x41, 0x41] signatures

/-- Signatures that are not valid in any slot. -/
def noSignatures : Signatures := ⟨fun _ => 0, fun _ => 0, fun _ => 0⟩

def payEnv : Env := sampleEnv [pay sampleSignatures, pay noSignatures]

/-- A chain with the contract at `0x1000` and nothing else. -/
def payStart (owners : Owners) : State :=
  State.boot (World.deployGov ⟨fun _ => .empty, fun _ => 0, fun _ _ => 0, []⟩ 0x1000 owners)
    Node.start

def payTx (signatures : Signatures) : Transaction where
  sender := 5
  target := some 0x1000
  value := 0
  input := abiEncode (pay signatures)
  gas := 100000
  newAddress := 0
  deployed := .empty
  script := .gov true 90000 (.code [] true) true

def paid (owners : Owners) (signatures : Signatures) : Execution :=
  ⟨0x1000, owners, 0x1234, [0x41, 0x41, 0x41, 0x41], signatures⟩

theorem sampleOwners_approve :
    ∃ first second, sampleOwners first ≠ sampleOwners second ∧
      ValidSignature payEnv (sampleOwners first) 0x1234 [0x41, 0x41, 0x41, 0x41] sampleSignatures
        first ∧
      ValidSignature payEnv (sampleOwners second) 0x1234 [0x41, 0x41, 0x41, 0x41] sampleSignatures
        second := by
  have real : ∀ slot, sampleOwners slot ≠ 0 := by decide
  have distinct : Function.Injective sampleOwners := by decide
  have member : paid sampleOwners sampleSignatures ∈
      ([payTx sampleSignatures].foldl (transact payEnv) (payStart sampleOwners)).executions := by
    decide +kernel
  exact (executions_approved_by_owners payEnv _ Node.start 0x1000 sampleOwners
    [payTx sampleSignatures] (paid sampleOwners sampleSignatures) member rfl).2.1 real distinct

/-- Two approvals are executed twice, and a contract whose owners are zero
executes without a valid signature. -/
theorem approvals_executed_twice :
    ([payTx sampleSignatures, payTx sampleSignatures].foldl (transact payEnv)
      (payStart sampleOwners)).executions =
        [paid sampleOwners sampleSignatures, paid sampleOwners sampleSignatures] ∧
    (execute payEnv (payStart sampleOwners) (payTx sampleSignatures)).2 = .ok ∧
    (execute payEnv (transact payEnv (payStart sampleOwners) (payTx sampleSignatures))
      (payTx sampleSignatures)).2 = .ok ∧
    ([payTx noSignatures].foldl (transact payEnv) (payStart fun _ => 0)).executions =
      [paid (fun _ => 0) noSignatures] ∧
    ∀ signer slot, ¬ ValidSignature payEnv signer 0x1234 [0x41, 0x41, 0x41, 0x41] noSignatures
      slot := by
  refine ⟨by decide +kernel, by decide +kernel, by decide +kernel, by decide +kernel, ?_⟩
  rintro signer slot ⟨real, signed⟩
  exact real signed.symm

end Sample

end Admin
