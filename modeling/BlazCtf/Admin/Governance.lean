import BlazCtf.Admin.Approval
import BlazCtf.Admin.Reload

set_option autoImplicit false

namespace Admin

open Evm

/-- A transaction that calls `execTransaction` of the contract with approvals for a call
of the contract itself. -/
structure Approves (env : Env) (contract : Address) (owners : Owners) (made : GovCall)
    (tx : Transaction) : Prop where
  target : tx.target = some contract
  execution : ∃ data signatures,
    env.decode tx.input = some (.execTransaction contract data signatures) ∧
      2 ≤ env.approvals owners contract data signatures ∧ env.decode data = some made

/-- The gas that the inner frame has left where it calls the precompile, if both frames
get to their calls. -/
def gasAtCall : Script → Option Nat
  | .gov true _ (.gov true gasLeft _ _) _ => some gasLeft
  | _ => none

/-- A plain transaction with gas for all that it does. -/
structure Ample (state : State) (tx : Transaction) : Prop where
  sender : state.world.code tx.sender = .empty
  value : tx.value = 0
  gas : ∃ gasLeft, gasAtCall tx.script = some gasLeft ∧ 2000 ≤ gasLeft - gasLeft / 64

/-- The bytes that a function of the contract sends to the precompile, if any. -/
def adminBytes : GovCall → Option (List UInt8)
  | .execTransaction _ _ _ => none
  | .emergencyStop => some [0x01]
  | .reloadConfig kind data =>
      match adminInput data kind with
      | .ok input => input
      | .error _ => none

/-- The node after such a function, with the gas left at its call. -/
def adminEffect (contract : Address) (node : Node) (made : GovCall) (gasLeft : Nat) : Node :=
  match adminBytes made with
  | none => node
  | some input =>
      (adminFuncRun node input (min (gasLeft - gasLeft / 64) 2000)
        ⟨admin, contract, admin, 0, .staticCall⟩).1

/-- What is called through `execTransaction` of the contract on itself. -/
def GovCall.Inner : GovCall → Prop
  | .execTransaction _ _ _ => False
  | .emergencyStop => True
  | .reloadConfig _ _ => True

section Frames

variable (env : Env) (depth : Nat) (callers : List Frame) {frame : Frame} (state : State)
  {contract : Address}

@[simp] theorem settle_node (checkpoint : World) (ended : State × Exit) :
    (settle checkpoint ended).1.node = ended.1.node := by
  obtain ⟨state, exit⟩ := ended
  cases exit with
  | ok => rfl
  | revert => rfl
  | abort => rfl

theorem runAdmin_node (context : CallContext) (input : List UInt8) (gas : Nat) :
    (runAdmin callers state context input gas).1.node =
      (adminFuncRun state.node input gas context).1 := by
  unfold runAdmin
  obtain ⟨after, result⟩ := adminFuncRun state.node input gas context
  cases result with
  | ok gas output => rfl
  | err error => rfl
  | panic => rfl

theorem staticcallAdmin_node (gasLeft : Nat) (input : List UInt8) :
    (staticcallAdmin (evm env (depth + 1)).1 callers frame state gasLeft input).1.node =
      (adminFuncRun state.node input (min (gasLeft - gasLeft / 64) 2000)
        (callContext frame .staticCall admin 0)).1 := by
  have reached : (callContext frame .staticCall admin 0).codeAddress = admin := rfl
  rw [staticcallAdmin_state]
  simp only [evm, reached, ↓reduceIte, settle_node, runAdmin_node]

/-- A function that the contract calls on itself sends its bytes with the gas it has. -/
theorem runFunction_node (owners : Owners) (gasLeft : Nat) (callee : Script) {made : GovCall}
    (inner : made.Inner) (itself : frame.context.address = contract)
    (self : frame.context.caller = contract) :
    (runFunction env (evm env (depth + 1)).1 callers frame state owners gasLeft callee
      made).1.node = adminEffect contract state.node made gasLeft := by
  have allowed : ¬ frame.context.caller ≠ frame.context.address := by
    rw [itself, self]
    exact fun different => different rfl
  have context : callContext frame .staticCall admin 0 =
      ⟨admin, contract, admin, 0, .staticCall⟩ := by
    rw [callContext, itself]
  cases made with
  | execTransaction target data signatures => cases inner
  | emergencyStop =>
      rw [runFunction, emergencyStop, if_neg allowed, staticcallAdmin_node, context]
      rfl
  | reloadConfig kind data =>
      rw [runFunction, reloadConfig, if_neg allowed, adminEffect, adminBytes]
      cases adminInput data kind with
      | error reason => rfl
      | ok input =>
          cases input with
          | none => rfl
          | some input =>
              simp only
              rw [staticcallAdmin_node, context]

/-- The inner frame of an approved call. -/
theorem runGov_node (frame : Frame) (owners : Owners) {made : GovCall} (inner : made.Inner)
    (itself : frame.context.address = contract) (self : frame.context.caller = contract)
    (unpaid : frame.context.apparentValue = 0) (script : Script) :
    (runGov env (evm env (depth + 1)).1 callers frame state made owners script).1.node =
      match script with
      | .gov true gasLeft _ _ => adminEffect contract state.node made gasLeft
      | _ => state.node := by
  cases script with
  | code moves returns => rfl
  | gov reaches gasLeft callee finishes =>
      cases reaches with
      | false => rfl
      | true =>
          have ran := runFunction_node env depth callers state owners gasLeft callee inner itself
            self
          rw [runGov_state owners gasLeft callee finishes made unpaid]
          exact ran

/-- A call of the contract runs the function that its call data stands for. -/
theorem evm_gov (context : CallContext) (isStatic : Bool) (input : List UInt8) (gas : Nat)
    (script : Script) {made : GovCall} (native : isPrecompile context.codeAddress = false)
    (code : state.world.code context.codeAddress = .gov) (decoded : env.decode input = some made) :
    (evm env (depth + 1)).1 callers state context isStatic input gas script =
      settle state.world (runGov env (evm env depth).1 callers
        ⟨context, input, isStatic, .gov made (state.world.slots context.address)⟩ state made
        (state.world.slots context.address) script) := by
  have notAdmin : context.codeAddress ≠ admin := by
    intro same
    rw [same] at native
    exact absurd native (by decide)
  simp only [evm, notAdmin, native, code, decoded, ↓reduceIte, Bool.false_eq_true]

end Frames

section Transactions

variable {env : Env} {contract : Address} {owners : Owners} {state : State} {made : GovCall}
  {tx : Transaction}

/-- What the outer frame, `execTransaction`, leaves of the node. -/
theorem execution_node (depth : Nat) (callers : List Frame) {frame : Frame} {data : List UInt8}
    {signatures : Signatures} (native : isPrecompile contract = false)
    (code : state.world.code contract = .gov) (itself : frame.context.address = contract)
    (unpaid : frame.context.apparentValue = 0)
    (enough : 2 ≤ env.approvals owners contract data signatures)
    (decoded : env.decode data = some made) (inner : made.Inner) (script : Script) :
    (runGov env (evm env (depth + 1 + 1)).1 callers frame state
      (.execTransaction contract data signatures) owners script).1.node =
      match gasAtCall script with
      | some gasLeft => adminEffect contract state.node made gasLeft
      | none => state.node := by
  cases script with
  | code moves returns => rfl
  | gov reaches gasLeft callee finishes =>
      cases reaches with
      | false => rfl
      | true =>
          -- the call that `execTransaction` makes, of the contract on itself
          let approved : Execution := ⟨frame.context.address, owners, contract, data, signatures⟩
          let recorded := { state with executions := approved :: state.executions }
          have context : callContext frame .call contract 0 =
              ⟨contract, contract, contract, 0, .call⟩ := by
            rw [callContext, itself]
          have called := evm_gov env (depth + 1) (frame :: callers) recorded
            ⟨contract, contract, contract, 0, .call⟩ frame.isStatic data
            (gasLeft - gasLeft / 64) callee native code decoded
          have ran := runGov_node env depth (frame :: callers) recorded
            ⟨⟨contract, contract, contract, 0, .call⟩, data, frame.isStatic,
              .gov made (recorded.world.slots contract)⟩
            (recorded.world.slots contract) inner rfl rfl rfl callee
          have executed : runFunction env (evm env (depth + 1 + 1)).1 callers frame state owners
              gasLeft callee (.execTransaction contract data signatures) =
              (evm env (depth + 1 + 1)).1 (frame :: callers) recorded
                ⟨contract, contract, contract, 0, .call⟩ frame.isStatic data
                (gasLeft - gasLeft / 64) callee := by
            rw [runFunction, execTransaction, if_neg (Nat.not_lt.mpr enough), context]
          have node : (runFunction env (evm env (depth + 1 + 1)).1 callers frame state owners
              gasLeft callee (.execTransaction contract data signatures)).1.node =
              match gasAtCall (.gov true gasLeft callee finishes) with
              | some gasLeft => adminEffect contract state.node made gasLeft
              | none => state.node := by
            rw [executed, called, settle_node]
            refine ran.trans ?_
            cases callee with
            | code moves returns => rfl
            | gov entered innerGas innerCallee innerFinishes =>
                cases entered with
                | false => rfl
                | true => rfl
          rw [runGov_state owners gasLeft callee finishes _ unpaid]
          exact node

/-- The node keeps what the transaction of a plain account did, also if it failed. -/
theorem transact_executed (up : state.node.lost = false)
    (sender : state.world.code tx.sender = .empty) :
    (transact env state tx).node = (execute env state tx).1.node := by
  have served : ¬ (state.node.lost = true ∨ state.world.code tx.sender ≠ .empty) :=
    not_or.mpr ⟨Bool.eq_false_iff.mp up, not_not.mpr sender⟩
  unfold transact
  rw [if_neg served]
  obtain ⟨after, exit⟩ := execute env state tx
  cases exit with
  | ok => rfl
  | revert => rfl
  | abort => rfl

/-- What a transaction with an approved call leaves of the node. -/
theorem transact_node (native : isPrecompile contract = false)
    (deployed : Deployed contract owners state) (approves : Approves env contract owners made tx)
    (inner : made.Inner) (up : state.node.lost = false)
    (sender : state.world.code tx.sender = .empty) (unpaid : tx.value = 0) :
    (transact env state tx).node =
      match gasAtCall tx.script with
      | some gasLeft => adminEffect contract state.node made gasLeft
      | none => state.node := by
  obtain ⟨data, signatures, decodedTx, enough, decoded⟩ := approves.execution
  have reads : (state.world.incNonce tx.sender).slots contract = owners := deployed.slots
  have called := evm_gov env callStackLimit [tx.origin]
    { state with world := state.world.incNonce tx.sender } ⟨contract, tx.sender, contract, 0, .call⟩
    false tx.input tx.gas tx.script native deployed.code decodedTx
  have executed : (execute env state tx).1.node =
      match gasAtCall tx.script with
      | some gasLeft => adminEffect contract state.node made gasLeft
      | none => state.node := by
    have context : callContext tx.origin .call contract tx.value =
        ⟨contract, tx.sender, contract, 0, .call⟩ := by
      rw [callContext, unpaid]
      rfl
    simp only [execute, approves.target]
    rw [context, called, settle_node]
    simp only [reads]
    apply execution_node 1022 [tx.origin] native
    · exact deployed.code
    · rfl
    · rfl
    · exact enough
    · exact decoded
    · exact inner
  rw [transact_executed up sender]
  exact executed

/-- Any other transaction of an approved call does nothing to the node. -/
theorem transact_effect (native : isPrecompile contract = false)
    (deployed : Deployed contract owners state) (approves : Approves env contract owners made tx)
    (inner : made.Inner) (up : state.node.lost = false) :
    (transact env state tx).node = state.node ∨
      state.world.code tx.sender = .empty ∧ tx.value = 0 ∧
      ∃ gasLeft, gasAtCall tx.script = some gasLeft ∧
        (transact env state tx).node = adminEffect contract state.node made gasLeft := by
  by_cases sender : state.world.code tx.sender = .empty
  · by_cases unpaid : tx.value = 0
    · have node := transact_node native deployed approves inner up sender unpaid
      split at node
      · rename_i gasLeft reached
        exact Or.inr ⟨sender, unpaid, gasLeft, reached, node⟩
      · exact Or.inl node
    · -- the functions of the contract are not payable
      left
      obtain ⟨data, signatures, decodedTx, _, _⟩ := approves.execution
      have called := evm_gov env callStackLimit [tx.origin]
        { state with world := state.world.incNonce tx.sender }
        ⟨contract, tx.sender, contract, tx.value, .call⟩ false tx.input tx.gas tx.script native
        deployed.code decodedTx
      have executed : (execute env state tx).1.node = state.node := by
        have context : callContext tx.origin .call contract tx.value =
            ⟨contract, tx.sender, contract, tx.value, .call⟩ := rfl
        simp only [execute, approves.target]
        rw [context, called, settle_node]
        cases tx.script with
        | code moves returns => rfl
        | gov reaches gasLeft callee finishes =>
            cases reaches with
            | false => rfl
            | true => simp only [runGov, ne_eq, unpaid, not_false_eq_true, ↓reduceIte]
      rw [transact_executed up sender]
      exact executed
  · left
    rw [transact, if_pos (Or.inr sender)]

end Transactions

section Effects

variable {contract : Address} {node : Node} {gasLeft : Nat} {data : List UInt8} {value : Nat}

theorem abiDecode_lt {bound : Nat} (decoded : abiDecode bound data = .ok value) :
    value < bound := by
  unfold abiDecode at decoded
  split at decoded
  · rename_i fits
    cases decoded
    exact fits.2
  · cases decoded

/-- The forwarded gas is the 2000 that the contract names. -/
theorem adminEffect_accepted {made : GovCall} {kind : UInt8} {rest : List UInt8} {after : Node}
    (required : node.requiredGas = 2000) (registered : node.multisig = contract)
    (forwarded : 2000 ≤ gasLeft - gasLeft / 64) (sent : adminBytes made = some (kind :: rest))
    (dispatched : adminDispatch node kind rest = some (after, 0)) :
    adminEffect contract node made gasLeft = after := by
  have authorised : isMultisig node ⟨admin, contract, admin, 0, .staticCall⟩ = true := by
    simp only [isMultisig, registered, and_self, decide_true]
  have accepted := adminFuncRun_dispatch required authorised dispatched
  simp only [adminEffect, sent, Nat.min_eq_right forwarded, accepted]

theorem adminEffect_refused {made : GovCall} (required : node.requiredGas ≠ 2000)
    (forwarded : 2000 ≤ gasLeft - gasLeft / 64) :
    adminEffect contract node made gasLeft = node := by
  unfold adminEffect
  cases adminBytes made with
  | none => rfl
  | some input => simp only [adminFuncRun, Nat.min_eq_right forwarded, ne_eq, required,
      not_false_eq_true, ↓reduceIte]

/-- A call that does not come from `MULTISIG`, or not with the required gas, is refused. -/
theorem adminEffect_unreached {made : GovCall}
    (refused : ¬ (node.multisig = contract ∧
      node.requiredGas = min (gasLeft - gasLeft / 64) 2000)) :
    adminEffect contract node made gasLeft = node := by
  unfold adminEffect
  cases adminBytes made with
  | none => rfl
  | some input =>
      by_cases registered : node.multisig = contract
      · have required : node.requiredGas ≠ min (gasLeft - gasLeft / 64) 2000 :=
          fun same => refused ⟨registered, same⟩
        exact congrArg Prod.fst (if_pos required)
      · apply adminFuncRun_unauthorised
        simp only [isMultisig, decide_eq_false_iff_not]
        exact fun made => registered made.1.symm

/-- An admin call whose function returns leaves the node alone or does what it
dispatches to. -/
theorem adminFuncRun_effect {kind : UInt8} {rest : List UInt8} {after : Node} {code : Nat}
    (dispatched : adminDispatch node kind rest = some (after, code)) (gas : Nat)
    (context : CallContext) :
    (adminFuncRun node (kind :: rest) gas context).1 = node ∨
      (adminFuncRun node (kind :: rest) gas context).1 = after := by
  unfold adminFuncRun
  split
  · exact Or.inl rfl
  · simp only
    split
    · exact Or.inl rfl
    · right
      rw [dispatched]
      match code with
      | 0 => rfl
      | 1 => rfl
      | _ + 2 => rfl

theorem dispatch_gas_value (fits : value < 2 ^ 64) :
    adminDispatch node 0x02 (0x02 :: Bytes.toBE 8 value) =
      some ({ node with requiredGas := value }, 0) := by
  have spelled : Bytes.ofBE (Bytes.toBE 8 value) = value :=
    Bytes.ofBE_toBE (Nat.lt_of_lt_of_le fits (by decide))
  change fnReloadRequiredGas node (Bytes.toBE 8 value) = _
  rw [fnReloadRequiredGas, if_pos (Bytes.length_toBE 8 value), spelled]

theorem dispatch_multisig_value (fits : value < 2 ^ 160) :
    adminDispatch node 0x02 (0x01 :: Bytes.toBE 20 value) =
      some ({ node with multisig := Fin.ofNat (2 ^ 160) value }, 0) := by
  have spelled : Bytes.ofBE (Bytes.toBE 20 value) = value :=
    Bytes.ofBE_toBE (Nat.lt_of_lt_of_le fits (by decide))
  change fnReloadMultisigAddress node (Bytes.toBE 20 value) = _
  rw [fnReloadMultisigAddress, if_pos (Bytes.length_toBE 20 value), spelled]

theorem adminBytes_multisig (decoded : abiDecode (2 ^ 160) data = .ok value) :
    adminBytes (.reloadConfig 1 data) = some (0x02 :: 0x01 :: Bytes.toBE 20 value) := by
  rw [adminBytes, adminInput, if_pos rfl, decoded]
  simp only [bind, Except.bind, pure, Except.pure, List.cons_append, List.nil_append]

theorem adminBytes_requiredGas (decoded : abiDecode (2 ^ 64) data = .ok value) :
    adminBytes (.reloadConfig 2 data) = some (0x02 :: 0x02 :: Bytes.toBE 8 value) := by
  rw [adminBytes, adminInput, if_neg (by decide), if_pos rfl, decoded]
  simp only [bind, Except.bind, pure, Except.pure, List.cons_append, List.nil_append]

/-- The bytes of a reload: an address, a gas value or a state to dump. -/
theorem adminBytes_reload {kind : Nat} {input : List UInt8}
    (sent : adminBytes (.reloadConfig kind data) = some input) :
    (∃ newAdmin, abiDecode (2 ^ 160) data = .ok newAdmin ∧
        input = 0x02 :: 0x01 :: Bytes.toBE 20 newAdmin) ∨
      (kind = 2 ∧ ∃ gas, abiDecode (2 ^ 64) data = .ok gas ∧
        input = 0x02 :: 0x02 :: Bytes.toBE 8 gas) ∨
      kind = 4 := by
  have built : adminInput data kind = .ok (some input) := by
    simp only [adminBytes] at sent
    split at sent
    · rename_i result built
      rw [built, sent]
    · cases sent
  unfold adminInput at built
  split at built
  · simp only [bind_ok_iff, pure_ok_iff, Option.some.injEq, List.cons_append,
      List.nil_append] at built
    obtain ⟨newAdmin, decoded, bytes⟩ := built
    exact Or.inl ⟨newAdmin, decoded, bytes.symm⟩
  · split at built
    · rename_i two
      simp only [bind_ok_iff, pure_ok_iff, Option.some.injEq, List.cons_append,
        List.nil_append] at built
      obtain ⟨gas, decoded, bytes⟩ := built
      exact Or.inr (Or.inl ⟨two, gas, decoded, bytes.symm⟩)
    · split at built
      · cases built
      · split at built
        · rename_i four
          exact Or.inr (Or.inr four)
        · cases built

/-- The node still runs and requires the gas that the contract forwards. -/
structure Stoppable (node : Node) : Prop where
  up : node.lost = false
  required : node.requiredGas = 2000

/-- A reload that names no other gas value and dumps nothing keeps the node so. -/
theorem adminEffect_stoppable {kind : Nat} (stoppable : Stoppable node) (dumpless : kind ≠ 4)
    (named : kind = 2 → ∀ gas, abiDecode (2 ^ 64) data = .ok gas → gas = 2000) :
    Stoppable (adminEffect contract node (.reloadConfig kind data) gasLeft) := by
  unfold adminEffect
  split
  · exact stoppable
  · rename_i input sent
    rcases adminBytes_reload sent with ⟨newAdmin, decoded, rfl⟩ | ⟨two, gas, decoded, rfl⟩ | four
    · rcases adminFuncRun_effect (dispatch_multisig_value (abiDecode_lt decoded)) _ _ with
        unchanged | effect
      · rw [unchanged]
        exact stoppable
      · rw [effect]
        exact ⟨stoppable.up, stoppable.required⟩
    · rcases adminFuncRun_effect (dispatch_gas_value (abiDecode_lt decoded)) _ _ with
        unchanged | effect
      · rw [unchanged]
        exact stoppable
      · rw [effect]
        exact ⟨stoppable.up, named two gas decoded⟩
    · exact absurd four dumpless

end Effects

/-- The contract rules the node: its emergency stop is accepted, and its well-formed
reloads take effect. -/
structure Governs (env : Env) (contract : Address) (owners : Owners) (state : State) : Prop where
  stops : ∀ tx, Approves env contract owners .emergencyStop tx → Ample state tx →
    (transact env state tx).node =
      { state.node with terminations := state.node.terminations + 1 }
  reloadsMultisig : ∀ tx data newAdmin, Approves env contract owners (.reloadConfig 1 data) tx →
    Ample state tx → abiDecode (2 ^ 160) data = .ok newAdmin →
    (transact env state tx).node = { state.node with multisig := Fin.ofNat (2 ^ 160) newAdmin }
  reloadsGas : ∀ tx data gas, Approves env contract owners (.reloadConfig 2 data) tx →
    Ample state tx → abiDecode (2 ^ 64) data = .ok gas →
    (transact env state tx).node = { state.node with requiredGas := gas }

section Governance

variable {env : Env} {contract : Address} {owners : Owners} {state : State} {made : GovCall}
  {tx : Transaction}

/-- With ample gas an approved call has the effect of the contract's admin call. -/
theorem ample_effect (native : isPrecompile contract = false)
    (deployed : Deployed contract owners state) (approves : Approves env contract owners made tx)
    (inner : made.Inner) (up : state.node.lost = false) (ample : Ample state tx) :
    ∃ gasLeft, 2000 ≤ gasLeft - gasLeft / 64 ∧
      (transact env state tx).node = adminEffect contract state.node made gasLeft := by
  obtain ⟨gasLeft, reached, forwarded⟩ := ample.gas
  have node := transact_node native deployed approves inner up ample.sender ample.value
  rw [reached] at node
  exact ⟨gasLeft, forwarded, node⟩

theorem governs_of_stoppable (native : isPrecompile contract = false)
    (deployed : Deployed contract owners state) (stoppable : Stoppable state.node)
    (registered : state.node.multisig = contract) : Governs env contract owners state where
  stops := by
    intro tx approves ample
    obtain ⟨gasLeft, forwarded, node⟩ :=
      ample_effect native deployed approves trivial stoppable.up ample
    rw [node]
    exact adminEffect_accepted stoppable.required registered forwarded rfl rfl
  reloadsMultisig := by
    intro tx data newAdmin approves ample decoded
    obtain ⟨gasLeft, forwarded, node⟩ :=
      ample_effect native deployed approves trivial stoppable.up ample
    rw [node]
    exact adminEffect_accepted stoppable.required registered forwarded
      (adminBytes_multisig decoded) (dispatch_multisig_value (abiDecode_lt decoded))
  reloadsGas := by
    intro tx data gas approves ample decoded
    obtain ⟨gasLeft, forwarded, node⟩ :=
      ample_effect native deployed approves trivial stoppable.up ample
    rw [node]
    exact adminEffect_accepted stoppable.required registered forwarded
      (adminBytes_requiredGas decoded) (dispatch_gas_value (abiDecode_lt decoded))

/-- The inner call of the transaction gets to the precompile, from the account that is
registered and with the gas that is required. -/
def Reaches (contract : Address) (state : State) (tx : Transaction) : Prop :=
  state.world.code tx.sender = .empty ∧ tx.value = 0 ∧ state.node.multisig = contract ∧
    ∃ gasLeft, gasAtCall tx.script = some gasLeft ∧
      state.node.requiredGas = min (gasLeft - gasLeft / 64) 2000

/-- A reload that, if it reaches the precompile, dumps nothing and names no other gas
value than the 2000 that the contract forwards. -/
def KeepsStop (env : Env) (contract : Address) (owners : Owners) (state : State)
    (tx : Transaction) : Prop :=
  ∃ kind data, Approves env contract owners (.reloadConfig kind data) tx ∧
    (Reaches contract state tx → kind ≠ 4 ∧
      (kind = 2 → ∀ gas, abiDecode (2 ^ 64) data = .ok gas → gas = 2000))

theorem transact_stoppable (native : isPrecompile contract = false)
    (deployed : Deployed contract owners state) (stoppable : Stoppable state.node)
    (keeps : KeepsStop env contract owners state tx) :
    Stoppable (transact env state tx).node := by
  obtain ⟨kind, data, approves, harmless⟩ := keeps
  rcases transact_effect native deployed approves trivial stoppable.up with
    unchanged | ⟨sender, unpaid, gasLeft, reached, node⟩
  · rw [unchanged]
    exact stoppable
  · rw [node]
    by_cases accepted : state.node.multisig = contract ∧
        state.node.requiredGas = min (gasLeft - gasLeft / 64) 2000
    · obtain ⟨dumpless, named⟩ :=
        harmless ⟨sender, unpaid, accepted.1, gasLeft, reached, accepted.2⟩
      exact adminEffect_stoppable stoppable dumpless named
    · rw [adminEffect_unreached accepted]
      exact stoppable

theorem run_stoppable (native : isPrecompile contract = false) (txs : List Transaction)
    (deployed : Deployed contract owners state) (stoppable : Stoppable state.node)
    (keeps : Follows (KeepsStop env contract owners) (transact env) state txs) :
    Stoppable (txs.foldl (transact env) state).node :=
  (foldl_invariant_of_follows
    (fun state => Deployed contract owners state ∧ Stoppable state.node)
    (fun _ _ holds keeps =>
      ⟨transact_deployed holds.1, transact_stoppable native holds.1 holds.2 keeps⟩)
    txs state ⟨deployed, stoppable⟩ keeps).2

end Governance

/-- After every sequence of approved reloads in which those that reach the precompile
dump nothing and name no other gas value than 2000, a contract that is still registered
rules the node. In any state with another required gas its approved calls with ample gas
do nothing. -/
theorem governance_kept (env : Env) (contract : Address) (owners : Owners)
    (native : isPrecompile contract = false) :
    (∀ (world : World) (node : Node) (txs : List Transaction),
      let start := State.boot (world.deployGov contract owners) node
      let state := txs.foldl (transact env) start
      node.requiredGas = 2000 → node.lost = false →
      Follows (KeepsStop env contract owners) (transact env) start txs →
      state.node.multisig = contract → Governs env contract owners state) ∧
    ∀ (state : State) (made : GovCall) (tx : Transaction), Deployed contract owners state →
      state.node.requiredGas ≠ 2000 → made.Inner → Approves env contract owners made tx →
      Ample state tx → (transact env state tx).node = state.node := by
  constructor
  · intro world node txs start state required up keeps registered
    have deployed : Deployed contract owners start :=
      Deployed.of_deploy world node contract owners
    exact governs_of_stoppable native (run_deployed env txs deployed)
      (run_stoppable native txs deployed ⟨up, required⟩ keeps) registered
  · intro state made tx deployed required inner approves ample
    by_cases up : state.node.lost = false
    · obtain ⟨gasLeft, forwarded, node⟩ := ample_effect native deployed approves inner up ample
      rw [node]
      exact adminEffect_refused required forwarded
    · rw [transact, if_pos (Or.inl (Bool.not_eq_false _ ▸ up))]

section Sample

/-- `reloadConfig(2, abi.encode(gas))`. -/
def gasReload (gas : Nat) : GovCall := .reloadConfig 2 (Bytes.toBE 32 gas)

/-- `execTransaction` of the contract at `0x31337` on itself, with two signatures. -/
def approved (made : GovCall) : GovCall :=
  .execTransaction 0x31337 (abiEncode made) sampleSignatures

def govEnv : Env :=
  sampleEnv [.emergencyStop, approved .emergencyStop, gasReload 2000, approved (gasReload 2000),
    gasReload 3000, approved (gasReload 3000)]

def approvedTx (made : GovCall) : Transaction where
  sender := 5
  target := some 0x31337
  value := 0
  input := abiEncode (approved made)
  gas := 100000
  newAddress := 0
  deployed := .empty
  script := .gov true 90000 (.gov true 80000 (.code [] true) true) true

def govWorld : World := ⟨fun _ => .empty, fun _ => 0, fun _ _ => 0, []⟩

/-- The chain after some approved reloads of the gas. -/
def afterReloads (gases : List Nat) : State :=
  (gases.map fun gas => approvedTx (gasReload gas)).foldl (transact govEnv)
    (State.boot (govWorld.deployGov 0x31337 sampleOwners) Node.start)

theorem stop_approved : Approves govEnv 0x31337 sampleOwners .emergencyStop
    (approvedTx .emergencyStop) :=
  ⟨rfl, abiEncode .emergencyStop, sampleSignatures, by decide +kernel, by decide +kernel,
    by decide +kernel⟩

theorem stop_ample (gases : List Nat) (plain : (afterReloads gases).world.code 5 = .empty) :
    Ample (afterReloads gases) (approvedTx .emergencyStop) :=
  ⟨plain, rfl, 80000, rfl, by decide⟩

/-- After an approved reload of the gas to 3000 the emergency stop is not accepted. -/
theorem stop_refused_after_reload :
    Approves govEnv 0x31337 sampleOwners (gasReload 3000) (approvedTx (gasReload 3000)) ∧
    (afterReloads [3000]).node.multisig = 0x31337 ∧
    Approves govEnv 0x31337 sampleOwners .emergencyStop (approvedTx .emergencyStop) ∧
    Ample (afterReloads [3000]) (approvedTx .emergencyStop) ∧
    (transact govEnv (afterReloads [3000]) (approvedTx .emergencyStop)).node.terminations = 0 ∧
    ¬ Governs govEnv 0x31337 sampleOwners (afterReloads [3000]) := by
  have reload : Approves govEnv 0x31337 sampleOwners (gasReload 3000)
      (approvedTx (gasReload 3000)) :=
    ⟨rfl, abiEncode (gasReload 3000), sampleSignatures, by decide +kernel, by decide +kernel,
      by decide +kernel⟩
  have ample := stop_ample [3000] (by decide +kernel)
  have running : (transact govEnv (afterReloads [3000])
      (approvedTx .emergencyStop)).node.terminations = 0 := by
    decide +kernel
  refine ⟨reload, by decide +kernel, stop_approved, ample, running, ?_⟩
  intro governs
  have stopped :
      (transact govEnv (afterReloads [3000]) (approvedTx .emergencyStop)).node.terminations =
        (afterReloads [3000]).node.terminations + 1 := by
    rw [governs.stops _ stop_approved ample]
  omega

/-- After a reload of the gas to 2000 it is. -/
theorem stop_accepted_after_reload :
    (transact govEnv (afterReloads [2000]) (approvedTx .emergencyStop)).node =
      { (afterReloads [2000]).node with
        terminations := (afterReloads [2000]).node.terminations + 1 } := by
  have keeps : KeepsStop govEnv 0x31337 sampleOwners
      (State.boot (govWorld.deployGov 0x31337 sampleOwners) Node.start)
      (approvedTx (gasReload 2000)) := by
    refine ⟨2, Bytes.toBE 32 2000, ⟨rfl, abiEncode (gasReload 2000), sampleSignatures,
      by decide +kernel, by decide +kernel, by decide +kernel⟩, fun _ => ⟨by decide, ?_⟩⟩
    intro _ gas decoded
    have value : abiDecode (2 ^ 64) (Bytes.toBE 32 2000) = .ok 2000 := by decide +kernel
    rw [value, Except.ok.injEq] at decoded
    exact decoded.symm
  have governs : Governs govEnv 0x31337 sampleOwners (afterReloads [2000]) :=
    (governance_kept govEnv 0x31337 sampleOwners (by decide)).1 govWorld Node.start
      [approvedTx (gasReload 2000)] rfl rfl ⟨keeps, trivial⟩ (by decide +kernel)
  exact governs.stops _ stop_approved (stop_ample [2000] (by decide +kernel))

end Sample

end Admin
