import BlazCtf.Admin.Progress

set_option autoImplicit false

namespace Admin

open Evm

theorem chain_origin {env : Env} {world : World} {tx : Transaction}
    (plain : world.code tx.sender ≠ .gov) : Chain env (world.incNonce tx.sender) [tx.origin] :=
  .origin tx.origin rfl
    ⟨incNonce_occupied world tx.sender, fun governed => absurd governed plain, nofun⟩

/-- A transaction progresses, on a proper stack if its sender is not the contract. -/
theorem execute_progress (env : Env) (state : State) (tx : Transaction) :
    Progress env (state.world.code tx.sender ≠ .gov) state (execute env state tx).1 := by
  obtain ⟨calls, inits⟩ := evm_progress env (callStackLimit + 1)
  simp only [execute]
  split
  · rename_i target _
    refine (Progress.of_world (Extends.incNonce state.world tx.sender)
      (fun _ _ _ => ⟨rfl, id⟩)).trans (calls _ _ _ _ _ _ _) ?_
    intro plain
    exact ⟨chain_origin plain, tx.origin, [], rfl, .call, target, tx.value, rfl⟩
  · have created : Progress env
        (Chain env (state.world.incNonce tx.origin.context.address) [tx.origin]) state
        (runCreate [] tx.origin (evm env (callStackLimit + 1)).2 state tx.newAddress tx.script
          tx.deployed).1 :=
      runCreate_progress inits rfl tx.newAddress tx.script tx.deployed
    have whole := Progress.refl.trans created (fun plain => chain_origin plain)
    split
    · rename_i ended
      rw [ended] at whole
      exact whole
    · rename_i ended
      rw [ended] at whole
      exact whole

/-- The records of a run: which admin calls and executions led to its state. -/
structure Recorded (env : Env) (start : Node) (state : State) : Prop where
  history : History start state.adminCalls state.node
  lawful : ∀ made ∈ state.adminCalls, Lawful env made
  approved : ∀ execution ∈ state.executions, execution.Approved env

theorem Recorded.of_boot (env : Env) (world : World) (node : Node) :
    Recorded env node (State.boot world node) :=
  ⟨.nil, fun _ member => absurd member List.not_mem_nil,
    fun _ member => absurd member List.not_mem_nil⟩

theorem Recorded.progress {env : Env} {start : Node} {chained : Prop} {state after : State}
    (recorded : Recorded env start state) (progress : Progress env chained state after)
    (proper : chained) : Recorded env start after := by
  obtain ⟨calls, grown, history, lawful⟩ := progress.calls
  obtain ⟨runs, longer, approved, _⟩ := progress.executions
  refine ⟨?_, ?_, ?_⟩
  · rw [grown]
    exact recorded.history.append history
  · intro made member
    rw [grown] at member
    rcases List.mem_append.mp member with newer | older
    · exact lawful proper made newer
    · exact recorded.lawful made older
  · intro execution member
    rw [longer] at member
    rcases List.mem_append.mp member with newer | older
    · exact approved execution newer
    · exact recorded.approved execution older

theorem Recorded.world {env : Env} {start : Node} {state : State} {world : World}
    (recorded : Recorded env start state) : Recorded env start { state with world } :=
  ⟨recorded.history, recorded.lawful, recorded.approved⟩

theorem transact_recorded {env : Env} {start : Node} {state : State} {tx : Transaction}
    (recorded : Recorded env start state) : Recorded env start (transact env state tx) := by
  unfold transact
  split
  · exact recorded
  · rename_i served
    have plain : state.world.code tx.sender ≠ .gov := by
      rw [Decidable.not_not.mp (not_or.mp served).2]
      simp
    have executed := recorded.progress (execute_progress env state tx) plain
    split
    · rename_i ended
      rw [ended] at executed
      exact executed.world
    · rename_i ended
      rw [ended] at executed
      exact executed.world

theorem run_recorded (env : Env) (world : World) (node : Node) (txs : List Transaction) :
    Recorded env node (txs.foldl (transact env) (State.boot world node)) := by
  have boot := Recorded.of_boot env world node
  generalize State.boot world node = state at boot ⊢
  induction txs generalizing state with
  | nil => exact boot
  | cons tx rest ih => exact ih _ (transact_recorded boot)

/-- What a history says about each of its calls. -/
theorem History.ran {start final : Node} {calls : List AdminCall}
    (history : History start calls final) {made : AdminCall} (member : made ∈ calls) :
    ∃ gas, made.after = (adminFuncRun made.before made.input gas made.context).1 := by
  induction history with
  | nil => cases member
  | cons newest gas _ ran ih =>
      rcases List.mem_cons.mp member with rfl | older
      · exact ⟨gas, ran⟩
      · exact ih older

/-- In every run of transactions the node changes only by admin calls, these only
take effect as STATICCALLs, and while `MULTISIG` is the contract only from
`emergencyStop` or `reloadConfig` called by an approved `execTransaction` of the
contract on itself. -/
theorem admin_calls_authorised (env : Env) (world : World) (node : Node)
    (txs : List Transaction) :
    let final := txs.foldl (transact env) (State.boot world node)
    History node final.adminCalls final.node ∧
    (∀ made ∈ final.adminCalls, made.context.scheme ≠ .staticCall → made.after = made.before) ∧
    ∀ made ∈ final.adminCalls, made.before ≠ made.after → made.multisigCode = .gov →
      Authorised env made := by
  intro final
  have recorded := run_recorded env world node txs
  refine ⟨recorded.history, ?_, recorded.lawful⟩
  intro made member scheme
  obtain ⟨gas, ran⟩ := recorded.history.ran member
  rw [ran]
  apply adminFuncRun_unauthorised
  simp only [isMultisig, scheme, and_false, decide_false]

section Sample

/-- `reloadConfig(2, abi.encode(3000))`. -/
def reloadGas : GovCall := .reloadConfig 2 (Bytes.toBE 32 3000)

/-- `execTransaction` of the contract at `0x1000` on itself. -/
def execReloadGas : GovCall := .execTransaction 0x1000 (abiEncode reloadGas) sampleSignatures

def reloadEnv : Env := sampleEnv [reloadGas, execReloadGas]

def sampleWorld : World where
  code address := if address = 0x1000 then .gov else .empty
  nonce _ := 0
  slots address := if address = 0x1000 then sampleOwners else fun _ => 0
  destroyed := []

def sampleNode : Node := ⟨0x1000, 2000, 0, false⟩

/-- The approved reload, where the frame of `execTransaction` has gas to its end
or runs out of it after the call. -/
def reloadGasTx (finishes : Bool) : Transaction where
  sender := 5
  target := some 0x1000
  value := 0
  input := abiEncode execReloadGas
  gas := 100000
  newAddress := 0
  deployed := .empty
  script := .gov true 90000 (.gov true 80000 (.code [] true) true) finishes

/-- The approved reload takes effect. -/
theorem admin_calls_authorised_reload :
    ∃ made ∈ ([reloadGasTx true].foldl (transact reloadEnv)
        (State.boot sampleWorld sampleNode)).adminCalls,
      made.before.requiredGas = 2000 ∧ made.after.requiredGas = 3000 ∧
        Authorised reloadEnv made := by
  have lawful := (admin_calls_authorised reloadEnv sampleWorld sampleNode [reloadGasTx true]).2.2
  have effective : ∃ made ∈ ([reloadGasTx true].foldl (transact reloadEnv)
      (State.boot sampleWorld sampleNode)).adminCalls, made.before.requiredGas = 2000 ∧
        made.after.requiredGas = 3000 ∧ made.multisigCode = .gov := by
    decide +kernel
  obtain ⟨made, member, before, after, code⟩ := effective
  refine ⟨made, member, before, after, lawful made member ?_ code⟩
  intro same
  rw [same, after] at before
  cases before

end Sample

end Admin
