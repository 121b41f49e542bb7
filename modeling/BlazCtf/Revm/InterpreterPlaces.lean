import Mathlib.Logic.Relation
import BlazCtf.Revm.Instructions

set_option autoImplicit false

namespace Revm

open Evm Machine

variable {η : Type}

/-- The gas keeps its limit, and stays within it. -/
def Gas.Within (before after : Gas) : Prop :=
  after.limit = before.limit ∧
    (before.allUsedGas ≤ before.limit → after.allUsedGas ≤ after.limit)

theorem Gas.Within.refl (gas : Gas) : gas.Within gas := ⟨rfl, id⟩

section Gas

variable {gas after : Gas} {covered : Bool}

theorem Gas.recordCost_within {cost : Nat}
    (recorded : gas.recordCost cost = some (after, covered)) : gas.Within after := by
  unfold Gas.recordCost at recorded
  split at recorded
  · cases recorded
    exact .refl gas
  · rename_i total sum
    split at recorded
    · cases recorded
      exact .refl gas
    · rename_i inside
      obtain ⟨used, -, same⟩ := Option.bind_eq_some_iff.mp recorded
      cases same
      exact ⟨rfl, fun _ => Nat.le_of_not_lt inside⟩

theorem Gas.recordMemory_within {size : Nat} (recorded : gas.recordMemory size = (after, covered)) :
    gas.Within after := by
  unfold Gas.recordMemory at recorded
  split at recorded
  · cases recorded
    exact .refl gas
  · split at recorded
    · cases recorded
      exact .refl gas
    · split at recorded
      · cases recorded
        exact .refl gas
      · rename_i inside
        cases recorded
        exact ⟨rfl, fun _ => Nat.le_of_not_lt inside⟩

theorem Gas.recordRefund_within {refund : Int} (recorded : gas.recordRefund refund = some after) :
    gas.Within after := by
  obtain ⟨refunded, -, same⟩ := Option.bind_eq_some_iff.mp recorded
  cases same
  exact ⟨rfl, id⟩

theorem Gas.eraseCost_within {returned : Nat} (erased : gas.eraseCost returned = some after) :
    gas.Within after := by
  obtain ⟨used, -, rest⟩ := Option.bind_eq_some_iff.mp erased
  obtain ⟨allUsedGas, less, same⟩ := Option.bind_eq_some_iff.mp rest
  cases same
  refine ⟨rfl, fun within => Nat.le_trans ?_ within⟩
  unfold subU64 at less
  split at less
  · cases less
    exact Nat.sub_le _ _
  · cases less

end Gas

namespace Instruction

open Interpreter

/-- What an instruction does to the interpreter where it goes on: it leaves the instruction
pointer, the contract and the gas limit alone, and neither the stack nor the gas outgrows its
limit. -/
structure Kept (before after : Interpreter η) : Prop where
  pointer : after.instructionPointer = before.instructionPointer
  contract : after.contract = before.contract
  gas : before.gas.Within after.gas
  shallow : before.stack.length ≤ STACK_LIMIT → after.stack.length ≤ STACK_LIMIT

theorem Kept.refl (interpreter : Interpreter η) : Kept interpreter interpreter :=
  ⟨rfl, rfl, .refl _, id⟩

theorem Kept.trans (first second third : Interpreter η) (early : Kept first second)
    (late : Kept second third) : Kept first third where
  pointer := late.pointer.trans early.pointer
  contract := late.contract.trans early.contract
  gas := ⟨late.gas.1.trans early.gas.1, fun within => late.gas.2 (early.gas.2 within)⟩
  shallow within := late.shallow (early.shallow within)

/-- Other gas within its limit. -/
theorem Kept.withGas {interpreter : Interpreter η} {gas : Gas}
    (within : interpreter.gas.Within gas) : Kept interpreter { interpreter with gas := gas } :=
  ⟨rfl, rfl, within, id⟩

/-- Another stack that is not too deep. -/
theorem Kept.withStack {interpreter : Interpreter η} {stack : List U256}
    (shallow : interpreter.stack.length ≤ STACK_LIMIT → stack.length ≤ STACK_LIMIT) :
    Kept interpreter { interpreter with stack := stack } :=
  ⟨rfl, rfl, .refl _, shallow⟩

/-- Nothing is asked of the host, of the gas or of the memory: an instruction may stop or panic. -/
def Keeps {α : Type} (act : Op η α) : Prop := Act.Relates Kept act

section Rules

variable {α β : Type} {act other : Op η α} {next : α → Op η β}

theorem Keeps.bind (first : Keeps act) (rest : ∀ value, Keeps (next value)) :
    Keeps (act >>= next) := Act.Relates.bind Kept.trans first rest

theorem Keeps.ite {condition : Prop} [Decidable condition] (yes : Keeps act) (no : Keeps other) :
    Keeps (if condition then act else other) := by
  split
  · exact yes
  · exact no

theorem pure_keeps (value : α) : Keeps (pure value : Op η α) := Act.relates_pure Kept.refl value

theorem get_keeps : Keeps (Act.get : Op η (Interpreter η)) := Act.relates_get Kept.refl

theorem stop_keeps (reason : InstructionResult) : Keeps (Act.stop reason : Op η α) :=
  Act.relates_stop reason

theorem unwrap_keeps (option : Option α) : Keeps (Act.unwrap option : Op η α) :=
  Act.relates_unwrap Kept.refl option

theorem okOr_keeps (option : Option α) (reason : InstructionResult) :
    Keeps (Act.okOr option reason : Op η α) := Act.relates_okOr Kept.refl option reason

theorem modify_keeps {change : Interpreter η → Interpreter η}
    (changes : ∀ interpreter, Kept interpreter (change interpreter)) :
    Keeps (Act.modify change : Op η Unit) := Act.relates_modify changes

/-- What is done once the state is known. -/
theorem get_bind_keeps {next : Interpreter η → Op η α}
    (rest : ∀ before value after, next before before = .returned value after → Kept before after) :
    Keeps (Act.get >>= next) := rest

/-- New gas that an instruction works out from the gas that is there. -/
theorem withGas_keeps {work : Gas → Option Gas}
    (within : ∀ gas after, work gas = some after → gas.Within after) :
    Keeps (do
      let interpreter ← Act.get
      let gas ← Act.unwrap (work interpreter.gas)
      Act.modify fun interpreter => { interpreter with gas := gas } : Op η Unit) := by
  refine get_bind_keeps fun before _ after ended => ?_
  cases worked : work before.gas with
  | none =>
      rw [worked] at ended
      cases ended
  | some gas =>
      rw [worked] at ended
      cases ended
      exact Kept.withGas (within _ gas worked)

end Rules

section Macros

theorem onHost_keeps {α : Type} (act : Act η Empty α) : Keeps (onHost act : Op η α) := by
  intro before value after ended
  unfold onHost at ended
  split at ended
  · cases ended
    exact ⟨rfl, rfl, .refl _, id⟩
  · cases ended

theorem answer_keeps {α : Type} (act : Act η Empty (Option α)) : Keeps (answer act : Op η α) :=
  (onHost_keeps act).bind fun _ => okOr_keeps _ _

theorem check_keeps (enabled : Bool) : Keeps (check enabled : Op η Unit) :=
  .ite (pure_keeps ()) (stop_keeps _)

theorem checkStaticcall_keeps : Keeps (checkStaticcall : Op η Unit) :=
  get_keeps.bind fun _ => .ite (stop_keeps _) (pure_keeps ())

theorem charge_keeps (cost : Nat) : Keeps (charge cost : Op η Unit) := by
  refine get_bind_keeps fun before _ after ended => ?_
  cases recorded : before.gas.recordCost cost with
  | none =>
      rw [recorded] at ended
      cases ended
  | some priced =>
      obtain ⟨gas, covered⟩ := priced
      rw [recorded] at ended
      cases covered with
      | false => cases ended
      | true =>
          cases ended
          exact Kept.withGas (Gas.recordCost_within recorded)

theorem gasOrFail_keeps (cost : Option Nat) : Keeps (gasOrFail cost : Op η Unit) := by
  cases cost with
  | none => exact stop_keeps _
  | some cost => exact charge_keeps cost

theorem refund_keeps (amount : Int) : Keeps (refund amount : Op η Unit) :=
  withGas_keeps fun _ _ recorded => Gas.recordRefund_within recorded

theorem recordRefund_keeps (gas : Gas) : Keeps (recordRefund gas : Op η Unit) :=
  withGas_keeps fun _ _ recorded => Gas.recordRefund_within recorded

theorem giveBack_keeps (gas : Gas) : Keeps (giveBack gas : Op η Unit) :=
  (unwrap_keeps _).bind fun _ => withGas_keeps fun _ _ erased => Gas.eraseCost_within erased

theorem memoryResize_keeps (offset len : Nat) : Keeps (memoryResize offset len : Op η Unit) := by
  refine (okOr_keeps _ _).bind fun newSize => get_bind_keeps fun before _ after ended => ?_
  split at ended
  · cases recorded : before.gas.recordMemory (Gas.memoryGas (newSize / 32)) with
    | mk gas covered =>
        rw [recorded] at ended
        cases covered with
        | false => cases ended
        | true =>
            simp only [if_true, Act.bind_apply, Act.modify_apply, Act.returned_andThen] at ended
            unfold resize at ended
            split at ended
            · cases ended
            · cases ended
              exact ⟨rfl, rfl, Gas.recordMemory_within recorded, id⟩
  · cases ended
    exact .refl _

theorem popMany_keeps (count : Nat) : Keeps (popMany count : Op η (List U256)) := by
  intro before _ after ended
  unfold popMany at ended
  split at ended
  · cases ended
  · split at ended
    · cases ended
    · cases ended
      refine Kept.withStack fun shallow => Nat.le_trans ?_ shallow
      rw [List.length_drop]
      exact Nat.sub_le _ _

theorem pop1_keeps : Keeps (pop1 : Op η U256) := by
  refine (popMany_keeps 1).bind fun values => ?_
  split
  · exact pure_keeps _
  · exact Act.relates_fault

theorem pop2_keeps : Keeps (pop2 : Op η (U256 × U256)) := by
  refine (popMany_keeps 2).bind fun values => ?_
  split
  · exact pure_keeps _
  · exact Act.relates_fault

theorem pop3_keeps : Keeps (pop3 : Op η (U256 × U256 × U256)) := by
  refine (popMany_keeps 3).bind fun values => ?_
  split
  · exact pure_keeps _
  · exact Act.relates_fault

theorem pop4_keeps : Keeps (pop4 : Op η (U256 × U256 × U256 × U256)) := by
  refine (popMany_keeps 4).bind fun values => ?_
  split
  · exact pure_keeps _
  · exact Act.relates_fault

theorem popAddress_keeps : Keeps (popAddress : Op η Address) :=
  pop1_keeps.bind fun _ => pure_keeps _

theorem popTop1_keeps : Keeps (popTop1 : Op η U256) := by
  intro before _ after ended
  unfold popTop1 at ended
  split at ended
  · cases ended
    exact .refl _
  · cases ended

theorem popTop2_keeps : Keeps (popTop2 : Op η (U256 × U256)) := by
  intro before _ after ended
  unfold popTop2 at ended
  split at ended
  · rename_i op1 op2 rest stack
    cases ended
    refine Kept.withStack fun shallow => ?_
    rw [stack] at shallow
    exact Nat.le_of_succ_le shallow
  · cases ended

theorem popTop3_keeps : Keeps (popTop3 : Op η (U256 × U256 × U256)) := by
  intro before _ after ended
  unfold popTop3 at ended
  split at ended
  · rename_i op1 op2 op3 rest stack
    cases ended
    refine Kept.withStack fun shallow => ?_
    rw [stack] at shallow
    exact Nat.le_of_succ_le (Nat.le_of_succ_le shallow)
  · cases ended

theorem setTop_keeps (value : U256) : Keeps (setTop value : Op η Unit) := by
  intro before _ after ended
  unfold setTop at ended
  split at ended
  · rename_i top rest stack
    cases ended
    refine Kept.withStack fun shallow => ?_
    rw [stack] at shallow
    exact shallow
  · cases ended

theorem push_keeps (value : U256) : Keeps (push value : Op η Unit) := by
  intro before _ after ended
  unfold push at ended
  split at ended
  · cases ended
  · rename_i room
    cases ended
    exact Kept.withStack fun _ => Nat.le_of_not_lt room

theorem memorySlice_keeps (offset size : Nat) : Keeps (memorySlice offset size : Op η Bytes) :=
  get_keeps.bind fun _ => unwrap_keeps _

theorem editMemory_keeps (edit : Bytes → Option Bytes) : Keeps (editMemory edit : Op η Unit) :=
  get_keeps.bind fun _ => (unwrap_keeps _).bind fun _ =>
    modify_keeps fun _ => ⟨rfl, rfl, .refl _, id⟩

theorem setReturnData_keeps (bytes : Bytes) : Keeps (setReturnData bytes : Op η Unit) :=
  modify_keeps fun _ => ⟨rfl, rfl, .refl _, id⟩

theorem returnRange_keeps (range : Nat × Nat) :
    Keeps (Act.modify fun interpreter => { interpreter with returnRange := range } : Op η Unit) :=
  modify_keeps fun _ => ⟨rfl, rfl, .refl _, id⟩

end Macros

section Instructions

variable {spec : SpecId} {host : Host η}

theorem binary_keeps (cost : Nat) (word : U256 → U256 → U256) :
    Keeps (binary cost word : Op η Unit) :=
  (charge_keeps _).bind fun _ => popTop2_keeps.bind fun _ => setTop_keeps _

theorem unary_keeps (cost : Nat) (word : U256 → U256) : Keeps (unary cost word : Op η Unit) :=
  (charge_keeps _).bind fun _ => popTop1_keeps.bind fun _ => setTop_keeps _

theorem smod_keeps : Keeps (smod : Op η Unit) :=
  (charge_keeps _).bind fun _ => popTop2_keeps.bind fun _ =>
    .ite ((unwrap_keeps _).bind fun _ => setTop_keeps _) (pure_keeps ())

theorem addmod_keeps : Keeps (addmod : Op η Unit) :=
  (charge_keeps _).bind fun _ => popTop3_keeps.bind fun _ => setTop_keeps _

theorem mulmod_keeps : Keeps (mulmod : Op η Unit) :=
  (charge_keeps _).bind fun _ => popTop3_keeps.bind fun _ => setTop_keeps _

theorem evalExp_keeps : Keeps (evalExp spec : Op η Unit) :=
  popTop2_keeps.bind fun _ => (unwrap_keeps _).bind fun _ => (gasOrFail_keeps _).bind fun _ =>
    setTop_keeps _

theorem checked_keeps {enabled : Bool} {rest : Op η Unit} (keeps : Keeps rest) :
    Keeps (do check enabled; rest) := (check_keeps enabled).bind fun _ => keeps

theorem pushed_keeps (cost : Nat) (word : Interpreter η → U256) :
    Keeps (pushed cost word : Op η Unit) :=
  (charge_keeps _).bind fun _ => get_keeps.bind fun _ => push_keeps _

theorem sha3_keeps (keccak256 : Bytes → U256) : Keeps (sha3 keccak256 : Op η Unit) :=
  pop2_keeps.bind fun _ => (okOr_keeps _ _).bind fun _ => (gasOrFail_keeps _).bind fun _ =>
    .ite (push_keeps _) ((okOr_keeps _ _).bind fun _ => (memoryResize_keeps _ _).bind fun _ =>
      (memorySlice_keeps _ _).bind fun _ => push_keeps _)

theorem copyInto_keeps (source : Interpreter η → Bytes) : Keeps (copyInto source) :=
  pop3_keeps.bind fun _ => (okOr_keeps _ _).bind fun _ => (gasOrFail_keeps _).bind fun _ =>
    .ite (pure_keeps ()) ((okOr_keeps _ _).bind fun _ => (memoryResize_keeps _ _).bind fun _ =>
      get_keeps.bind fun _ => editMemory_keeps _)

theorem calldataload_keeps : Keeps (calldataload : Op η Unit) :=
  (charge_keeps _).bind fun _ => pop1_keeps.bind fun _ => get_keeps.bind fun _ => push_keeps _

theorem returndatasize_keeps : Keeps (returndatasize spec : Op η Unit) :=
  (charge_keeps _).bind fun _ => (check_keeps _).bind fun _ => get_keeps.bind fun _ =>
    push_keeps _

theorem returndatacopy_keeps : Keeps (returndatacopy spec : Op η Unit) :=
  (check_keeps _).bind fun _ => pop3_keeps.bind fun _ => (okOr_keeps _ _).bind fun _ =>
    (gasOrFail_keeps _).bind fun _ => get_keeps.bind fun _ => (okOr_keeps _ _).bind fun _ =>
      .ite ((okOr_keeps _ _).bind fun _ => (memoryResize_keeps _ _).bind fun _ =>
        editMemory_keeps _) (pure_keeps ())

theorem gas_keeps : Keeps (gas : Op η Unit) :=
  (charge_keeps _).bind fun _ => get_keeps.bind fun _ => (unwrap_keeps _).bind fun _ =>
    push_keeps _

theorem mload_keeps : Keeps (mload : Op η Unit) :=
  (charge_keeps _).bind fun _ => pop1_keeps.bind fun _ => (okOr_keeps _ _).bind fun _ =>
    (memoryResize_keeps _ _).bind fun _ => (memorySlice_keeps _ _).bind fun _ => push_keeps _

theorem mstore_keeps : Keeps (mstore : Op η Unit) :=
  (charge_keeps _).bind fun _ => pop2_keeps.bind fun _ => (okOr_keeps _ _).bind fun _ =>
    (memoryResize_keeps _ _).bind fun _ => editMemory_keeps _

theorem mstore8_keeps : Keeps (mstore8 : Op η Unit) :=
  (charge_keeps _).bind fun _ => pop2_keeps.bind fun _ => (okOr_keeps _ _).bind fun _ =>
    (memoryResize_keeps _ _).bind fun _ => editMemory_keeps _

theorem pc_keeps : Keeps (pc : Op η Unit) :=
  (charge_keeps _).bind fun _ => get_keeps.bind fun _ => (unwrap_keeps _).bind fun _ =>
    push_keeps _

theorem finish_keeps (reason : InstructionResult) : Keeps (finish reason : Op η Unit) :=
  pop2_keeps.bind fun _ => (okOr_keeps _ _).bind fun _ =>
    .ite ((returnRange_keeps _).bind fun _ => stop_keeps _)
      ((okOr_keeps _ _).bind fun _ => (memoryResize_keeps _ _).bind fun _ =>
        (unwrap_keeps _).bind fun _ => (returnRange_keeps _).bind fun _ => stop_keeps _)

theorem pop_keeps : Keeps (pop : Op η Unit) :=
  (charge_keeps _).bind fun _ => (popMany_keeps 1).bind fun _ => pure_keeps ()

theorem push0_keeps : Keeps (push0 spec : Op η Unit) :=
  (check_keeps _).bind fun _ => (charge_keeps _).bind fun _ => push_keeps _

theorem dup_keeps (n : Nat) : Keeps (dup n : Op η Unit) := by
  refine (charge_keeps _).bind fun _ => get_bind_keeps fun before _ after ended => ?_
  split at ended
  · cases ended
  · split at ended
    · cases ended
    · rename_i room
      cases found : before.stack[n - 1]? with
      | none =>
          rw [found] at ended
          cases ended
      | some value =>
          rw [found] at ended
          cases ended
          exact Kept.withStack fun _ => Nat.le_of_not_lt room

theorem swap_keeps (n : Nat) : Keeps (swap n : Op η Unit) := by
  refine (charge_keeps _).bind fun _ => get_bind_keeps fun before _ after ended => ?_
  split at ended
  · cases ended
  · cases first : before.stack[0]? with
    | none =>
        rw [first] at ended
        cases ended
    | some top =>
        cases second : before.stack[n]? with
        | none =>
            rw [first, second] at ended
            cases ended
        | some other =>
            rw [first, second] at ended
            cases ended
            refine Kept.withStack fun shallow => ?_
            rw [List.length_set, List.length_set]
            exact shallow

theorem pushedEnv_keeps (word : Env → U256) : Keeps (pushedEnv host word) :=
  pushed_keeps _ _

theorem difficulty_keeps : Keeps (difficulty spec host) :=
  (charge_keeps _).bind fun _ => get_keeps.bind fun _ =>
    .ite ((unwrap_keeps _).bind fun _ => push_keeps _) (push_keeps _)

theorem basefee_keeps : Keeps (basefee spec host) :=
  (charge_keeps _).bind fun _ => (check_keeps _).bind fun _ => get_keeps.bind fun _ =>
    push_keeps _

theorem balance_keeps : Keeps (balance spec host) :=
  popAddress_keeps.bind fun _ => (answer_keeps _).bind fun _ => (charge_keeps _).bind fun _ =>
    push_keeps _

theorem selfbalance_keeps : Keeps (selfbalance spec host) :=
  (check_keeps _).bind fun _ => (charge_keeps _).bind fun _ => get_keeps.bind fun _ =>
    (answer_keeps _).bind fun _ => push_keeps _

theorem extcodesize_keeps : Keeps (extcodesize spec host) :=
  popAddress_keeps.bind fun _ => (answer_keeps _).bind fun _ => (charge_keeps _).bind fun _ =>
    push_keeps _

theorem extcodehash_keeps : Keeps (extcodehash spec host) :=
  (check_keeps _).bind fun _ => popAddress_keeps.bind fun _ => (answer_keeps _).bind fun _ =>
    (charge_keeps _).bind fun _ => push_keeps _

theorem extcodecopy_keeps : Keeps (extcodecopy spec host) :=
  popAddress_keeps.bind fun _ => pop3_keeps.bind fun _ => (answer_keeps _).bind fun _ =>
    (okOr_keeps _ _).bind fun _ => (gasOrFail_keeps _).bind fun _ =>
      .ite (pure_keeps ()) ((okOr_keeps _ _).bind fun _ => (memoryResize_keeps _ _).bind fun _ =>
        editMemory_keeps _)

theorem blockhash_keeps : Keeps (blockhash host) := by
  refine (charge_keeps _).bind fun _ => popTop1_keeps.bind fun _ => get_keeps.bind fun _ => ?_
  split
  · exact (answer_keeps _).bind fun _ => setTop_keeps _
  · exact setTop_keeps _

theorem sload_keeps : Keeps (sload spec host) :=
  pop1_keeps.bind fun _ => get_keeps.bind fun _ => (answer_keeps _).bind fun _ =>
    (charge_keeps _).bind fun _ => push_keeps _

theorem sstore_keeps : Keeps (sstore spec host) :=
  checkStaticcall_keeps.bind fun _ => pop2_keeps.bind fun _ => get_keeps.bind fun _ =>
    (answer_keeps _).bind fun _ => get_keeps.bind fun _ => (unwrap_keeps _).bind fun _ =>
      (gasOrFail_keeps _).bind fun _ => refund_keeps _

theorem log_keeps (n : Nat) : Keeps (log n host) := by
  refine checkStaticcall_keeps.bind fun _ => pop2_keeps.bind fun _ => (okOr_keeps _ _).bind fun _ =>
    (gasOrFail_keeps _).bind fun _ => .bind (.ite (pure_keeps _) ?_) fun _ =>
      (popMany_keeps n).bind fun _ => get_keeps.bind fun _ => onHost_keeps _
  exact (okOr_keeps _ _).bind fun _ => (memoryResize_keeps _ _).bind fun _ => memorySlice_keeps _ _

theorem selfdestruct_keeps : Keeps (selfdestruct spec host) :=
  checkStaticcall_keeps.bind fun _ => popAddress_keeps.bind fun _ => get_keeps.bind fun _ =>
    (answer_keeps _).bind fun _ => (Keeps.ite (refund_keeps _) (pure_keeps ())).bind fun _ =>
      (charge_keeps _).bind fun _ => stop_keeps _

theorem initCode_keeps (codeOffset : U256) (len : Nat) :
    Keeps (initCode spec host codeOffset len) := by
  refine .ite (pure_keeps _) ((okOr_keeps _ _).bind fun _ =>
    .bind (.ite ?_ (pure_keeps ())) fun _ =>
      (memoryResize_keeps _ _).bind fun _ => memorySlice_keeps _ _)
  exact get_keeps.bind fun _ => .ite (stop_keeps _) (charge_keeps _)

theorem create_keeps (isCreate2 : Bool) : Keeps (create isCreate2 spec host) := by
  refine checkStaticcall_keeps.bind fun _ =>
    (Keeps.ite (check_keeps _) (pure_keeps ())).bind fun _ => (setReturnData_keeps _).bind fun _ =>
      pop3_keeps.bind fun _ => (okOr_keeps _ _).bind fun _ => (initCode_keeps _ _).bind fun _ =>
        .bind (.ite ?_ ?_) fun _ => get_keeps.bind fun _ => (unwrap_keeps _).bind fun _ =>
          (charge_keeps _).bind fun _ => (onHost_keeps _).bind fun _ =>
            (setReturnData_keeps _).bind fun _ =>
              .ite ?_ (.ite ?_ (.ite (stop_keeps _) (push_keeps _)))
  · exact pop1_keeps.bind fun _ => (gasOrFail_keeps _).bind fun _ => pure_keeps _
  · exact (charge_keeps _).bind fun _ => pure_keeps _
  · exact (push_keeps _).bind fun _ => (giveBack_keeps _).bind fun _ => recordRefund_keeps _
  · exact (push_keeps _).bind fun _ => giveBack_keeps _

theorem callRange_keeps (offset : U256) (len : Nat) : Keeps (callRange offset len : Op η Nat) :=
  .ite ((okOr_keeps _ _).bind fun _ => (memoryResize_keeps _ _).bind fun _ => pure_keeps _)
    (pure_keeps _)

theorem callValue_keeps (scheme : CallScheme) : Keeps (callValue scheme : Op η U256) := by
  cases scheme with
  | callCode => exact pop1_keeps
  | call =>
      exact pop1_keeps.bind fun _ => get_keeps.bind fun _ => .ite (stop_keeps _) (pure_keeps _)
  | delegateCall => exact pure_keeps 0
  | staticCall => exact pure_keeps 0

theorem callInner_keeps (scheme : CallScheme) : Keeps (callInner spec scheme host) := by
  refine (check_keeps _).bind fun _ => (setReturnData_keeps _).bind fun _ =>
    pop1_keeps.bind fun _ => popAddress_keeps.bind fun _ => (callValue_keeps _).bind fun _ =>
      pop4_keeps.bind fun _ => (okOr_keeps _ _).bind fun _ =>
        .bind (.ite ?_ (pure_keeps _)) fun _ => (okOr_keeps _ _).bind fun _ =>
          (callRange_keeps _ _).bind fun _ => get_keeps.bind fun _ =>
            (answer_keeps _).bind fun _ => (charge_keeps _).bind fun _ => get_keeps.bind fun _ =>
              (unwrap_keeps _).bind fun _ => (charge_keeps _).bind fun _ =>
                (onHost_keeps _).bind fun _ => (setReturnData_keeps _).bind fun _ =>
                  .ite ?_ (.ite ?_ (.ite (stop_keeps _) (push_keeps _)))
  · exact (okOr_keeps _ _).bind fun _ => (memoryResize_keeps _ _).bind fun _ =>
      memorySlice_keeps _ _
  · exact (giveBack_keeps _).bind fun _ => (recordRefund_keeps _).bind fun _ =>
      (editMemory_keeps _).bind fun _ => push_keeps _
  · exact (giveBack_keeps _).bind fun _ => (editMemory_keeps _).bind fun _ => push_keeps _

/-- Every instruction but the jumps and the pushes leaves the instruction pointer alone, whatever
the host answers and whatever gas there is. -/
theorem eval_keeps {keccak256 : Bytes → U256} {opcode : Nat} (noJump : opcode ≠ 0x56)
    (noJumpi : opcode ≠ 0x57) (noPush : ¬ (0x60 ≤ opcode ∧ opcode ≤ 0x7f)) :
    Keeps (eval keccak256 spec host opcode) := by
  unfold eval
  split
  · exact stop_keeps _
  · exact binary_keeps _ _
  · exact binary_keeps _ _
  · exact binary_keeps _ _
  · exact binary_keeps _ _
  · exact binary_keeps _ _
  · exact binary_keeps _ _
  · exact smod_keeps
  · exact addmod_keeps
  · exact mulmod_keeps
  · exact evalExp_keeps
  · exact binary_keeps _ _
  · exact binary_keeps _ _
  · exact binary_keeps _ _
  · exact binary_keeps _ _
  · exact binary_keeps _ _
  · exact binary_keeps _ _
  · exact unary_keeps _ _
  · exact binary_keeps _ _
  · exact binary_keeps _ _
  · exact binary_keeps _ _
  · exact unary_keeps _ _
  · exact binary_keeps _ _
  · exact checked_keeps (binary_keeps _ _)
  · exact checked_keeps (binary_keeps _ _)
  · exact checked_keeps (binary_keeps _ _)
  · exact sha3_keeps _
  · exact pushed_keeps _ _
  · exact balance_keeps
  · exact pushedEnv_keeps _
  · exact pushed_keeps _ _
  · exact pushed_keeps _ _
  · exact calldataload_keeps
  · exact pushed_keeps _ _
  · exact copyInto_keeps _
  · exact pushed_keeps _ _
  · exact copyInto_keeps _
  · exact pushedEnv_keeps _
  · exact extcodesize_keeps
  · exact extcodecopy_keeps
  · exact returndatasize_keeps
  · exact returndatacopy_keeps
  · exact extcodehash_keeps
  · exact blockhash_keeps
  · exact pushedEnv_keeps _
  · exact pushedEnv_keeps _
  · exact pushedEnv_keeps _
  · exact difficulty_keeps
  · exact pushedEnv_keeps _
  · exact checked_keeps (pushedEnv_keeps _)
  · exact selfbalance_keeps
  · exact basefee_keeps
  · exact pop_keeps
  · exact mload_keeps
  · exact mstore_keeps
  · exact mstore8_keeps
  · exact sload_keeps
  · exact sstore_keeps
  · exact absurd rfl noJump
  · exact absurd rfl noJumpi
  · exact pc_keeps
  · exact pushed_keeps _ _
  · exact gas_keeps
  · exact charge_keeps _
  · exact push0_keeps
  · exact create_keeps _
  · exact callInner_keeps _
  · exact callInner_keeps _
  · exact finish_keeps _
  · exact callInner_keeps _
  · exact create_keeps _
  · exact callInner_keeps _
  · exact checked_keeps (finish_keeps _)
  · exact stop_keeps _
  · exact selfdestruct_keeps
  · rw [if_neg noPush]
    split
    · exact dup_keeps _
    · split
      · exact swap_keeps _
      · split
        · exact log_keeps _
        · exact stop_keeps _

end Instructions

section Jumps

/-- An instruction that moves the instruction pointer: where to, the contract and the place it
began at say. -/
def Leads (to_ : Contract → Nat → Nat → Prop) (before after : Interpreter η) : Prop :=
  Kept before { after with instructionPointer := before.instructionPointer } ∧
    to_ before.contract before.instructionPointer after.instructionPointer

theorem Kept.leads {to_ : Contract → Nat → Nat → Prop} (first second third : Interpreter η)
    (kept : Kept first second) (leads : Leads to_ second third) : Leads to_ first third := by
  obtain ⟨moved, there⟩ := leads
  rw [kept.contract, kept.pointer] at there
  refine ⟨⟨rfl, ?_, ?_, ?_⟩, there⟩
  · exact (kept.trans first second _ moved).contract
  · exact (kept.trans first second _ moved).gas
  · exact (kept.trans first second _ moved).shallow

/-- A jump that is not taken, or one to a place of the jump map. -/
def Jump (contract : Contract) (here place : Nat) : Prop :=
  place = here ∨ contract.isValidJump place = true

theorem Kept.stays (interpreter after : Interpreter η) (kept : Kept interpreter after) :
    Leads Jump interpreter after :=
  ⟨⟨rfl, kept.contract, kept.gas, kept.shallow⟩, Or.inl kept.pointer⟩

theorem jumpTo_leads (dest : U256) :
    Act.Relates (Leads Jump) (jumpTo dest : Op η Unit) := by
  refine Act.Relates.bind Kept.leads (okOr_keeps _ _) fun place => ?_
  intro before _ after ended
  simp only [Act.bind_apply, Act.get_apply, Act.returned_andThen] at ended
  split at ended
  · rename_i valid
    cases ended
    exact ⟨.refl _, Or.inr valid⟩
  · cases ended

theorem jump_leads : Act.Relates (Leads Jump) (jump : Op η Unit) :=
  Act.Relates.bind Kept.leads (charge_keeps _) fun _ =>
    Act.Relates.bind Kept.leads pop1_keeps fun dest => jumpTo_leads dest

theorem jumpi_leads : Act.Relates (Leads Jump) (jumpi : Op η Unit) := by
  refine Act.Relates.bind Kept.leads (charge_keeps _) fun _ =>
    Act.Relates.bind Kept.leads pop2_keeps fun values => ?_
  obtain ⟨dest, value⟩ := values
  by_cases taken : value ≠ 0
  · simp only [if_pos taken]
    exact jumpTo_leads dest
  · simp only [if_neg taken]
    exact fun before _ after ended => Kept.stays before after (pure_keeps () _ _ _ ended)

theorem pushN_leads (n : Nat) :
    Act.Relates (Leads fun _ here place => place = here + n) (pushN n : Op η Unit) := by
  refine Act.Relates.bind Kept.leads (charge_keeps _) fun _ =>
    Act.Relates.bind Kept.leads get_keeps fun _ =>
      Act.Relates.bind Kept.leads (unwrap_keeps _) fun _ =>
        Act.Relates.bind Kept.leads (push_keeps _) fun _ => ?_
  exact Act.relates_modify fun interpreter => ⟨.refl interpreter, rfl⟩

end Jumps

end Instruction

namespace Interpreter

section Places

variable {spec : SpecId} {host : Host η} {keccak256 : Bytes → U256}

/-- Between two instructions: the next one begins where the instruction pointer is, and neither
the stack nor the gas is past its limit. -/
structure Placed (interpreter : Interpreter η) : Prop where
  code : interpreter.contract.bytecode.WellFormed
  boundary : Boundary interpreter.contract.bytecode.bytecode interpreter.instructionPointer
  inside : interpreter.instructionPointer < interpreter.contract.bytecode.bytecode.length
  shallow : interpreter.stack.length ≤ STACK_LIMIT
  bounded : interpreter.gas.allUsedGas ≤ interpreter.gas.limit

theorem instructionSize_eq (opcode : UInt8) : instructionSize opcode =
    if 0x60 ≤ opcode.toNat ∧ opcode.toNat ≤ 0x7f then opcode.toNat - 0x60 + 2 else 1 := by
  have bounded := opcode.toNat_lt
  have offset : (opcode - PUSH1).toNat = (2 ^ 8 - 0x60 + opcode.toNat) % 2 ^ 8 :=
    UInt8.toNat_sub opcode PUSH1
  have small : opcode - PUSH1 < 32 ↔ (opcode - PUSH1).toNat < 32 := Iff.rfl
  unfold instructionSize
  simp only [small]
  split <;> split <;> omega

theorem eval_push {opcode : Nat} (push : 0x60 ≤ opcode ∧ opcode ≤ 0x7f) :
    Instruction.eval keccak256 spec host opcode = Instruction.pushN (opcode - 0x60 + 1) := by
  unfold Instruction.eval
  split
  all_goals first | omega | exact if_pos push

/-- An instruction that leads to good places only leaves the interpreter at one. -/
theorem Placed.leads {before start after : Interpreter η} (placed : Placed before)
    (begun : { before with instructionPointer := before.instructionPointer + 1 } = start)
    {to_ : Contract → Nat → Nat → Prop} (leads : Instruction.Leads to_ start after)
    (good : ∀ place, to_ before.contract (before.instructionPointer + 1) place →
      Boundary before.contract.bytecode.bytecode place ∧
        place < before.contract.bytecode.bytecode.length) :
    Placed after ∧ after.contract = before.contract ∧ after.gas.limit = before.gas.limit := by
  obtain ⟨code, _, _, shallow, bounded⟩ := placed
  subst begun
  obtain ⟨kept, there⟩ := leads
  obtain ⟨at_, within⟩ := good _ there
  have same : after.contract = before.contract := kept.contract
  refine ⟨⟨?_, ?_, ?_, kept.shallow shallow, kept.gas.2 bounded⟩, same, kept.gas.1⟩
  · rw [same]
    exact code
  · rw [same]
    exact at_
  · rw [same]
    exact within

/-- Where an instruction goes on, the next one begins where it leaves the instruction pointer. -/
theorem step_places {before after : Interpreter η} (placed : Placed before)
    (goes : step keccak256 spec host before = .returned () after) :
    Placed after ∧ after.contract = before.contract ∧ after.gas.limit = before.gas.limit := by
  have code := placed.code
  have boundary := placed.boundary
  have inside := placed.inside
  have found := List.getElem?_eq_getElem inside
  generalize before.contract.bytecode.bytecode[before.instructionPointer] = opcode at found
  have next := fun nonzero => code.runnable.next _ opcode boundary found nonzero
  have follows := boundary.next found
  rw [instructionSize_eq] at next follows
  unfold step at goes
  simp only [Act.bind_apply, Act.get_apply, Act.returned_andThen, found, Act.unwrap_some,
    Act.pure_apply, Act.modify_apply] at goes
  generalize begun : { before with instructionPointer := before.instructionPointer + 1 } = start
    at goes
  by_cases zero : opcode = 0
  · subst zero
    cases goes
  have next := next zero
  by_cases push : 0x60 ≤ opcode.toNat ∧ opcode.toNat ≤ 0x7f
  · rw [if_pos push] at next follows
    rw [eval_push push] at goes
    refine placed.leads begun (Instruction.pushN_leads _ _ _ _ goes) ?_
    rintro place rfl
    have ahead : before.instructionPointer + 1 + (opcode.toNat - 0x60 + 1) =
        before.instructionPointer + (opcode.toNat - 0x60 + 2) := by omega
    rw [ahead]
    exact ⟨follows, next⟩
  rw [if_neg push] at next follows
  have lands : ∀ place, Instruction.Jump before.contract (before.instructionPointer + 1) place →
      Boundary before.contract.bytecode.bytecode place ∧
        place < before.contract.bytecode.bytecode.length := by
    rintro place (rfl | valid)
    · exact ⟨follows, next⟩
    · obtain ⟨at_, dest⟩ := code.jumps place valid
      exact ⟨at_, (List.getElem?_eq_some_iff.mp dest).1⟩
  by_cases jump : opcode.toNat = 0x56
  · rw [jump] at goes
    exact placed.leads begun (Instruction.jump_leads _ _ _ goes) lands
  by_cases jumpi : opcode.toNat = 0x57
  · rw [jumpi] at goes
    exact placed.leads begun (Instruction.jumpi_leads _ _ _ goes) lands
  · have kept := Instruction.eval_keeps jump jumpi push _ _ _ goes
    exact placed.leads begun (Instruction.Kept.stays _ _ kept) lands

/-- A step of a run that goes on. -/
def Goes (keccak256 : Bytes → U256) (spec : SpecId) (host : Host η)
    (before after : Interpreter η) : Prop :=
  step keccak256 spec host before = .returned () after

theorem run_places {first last : Interpreter η} (placed : Placed first)
    (run : Relation.ReflTransGen (Goes keccak256 spec host) first last) :
    Placed last ∧ last.contract = first.contract ∧ last.gas.limit = first.gas.limit := by
  induction run with
  | refl => exact ⟨placed, rfl, rfl⟩
  | tail _ step ih =>
      obtain ⟨middle, contract, limit⟩ := ih
      obtain ⟨after, sameContract, sameLimit⟩ := step_places middle step
      exact ⟨after, sameContract.trans contract, sameLimit.trans limit⟩

variable {contract : Contract} {gasLimit : Nat} {isStatic : Bool} {state : η}

theorem new_placed (code : contract.bytecode.WellFormed) :
    Placed (new contract gasLimit isStatic state) where
  code := code
  boundary := Boundary.start
  inside := code.runnable.nonempty
  shallow := Nat.zero_le _
  bounded := Nat.zero_le _

/-- No byte inside the data of a push is ever run as an instruction, whatever the host does and
however much gas there is. -/
theorem run_on_boundaries {last : Interpreter η} (code : contract.bytecode.WellFormed)
    (run : Relation.ReflTransGen (Goes keccak256 spec host)
      (new contract gasLimit isStatic state) last) :
    Boundary contract.bytecode.bytecode last.instructionPointer ∧
      last.instructionPointer < contract.bytecode.bytecode.length ∧
      last.stack.length ≤ STACK_LIMIT ∧ last.gas.allUsedGas ≤ gasLimit := by
  obtain ⟨placed, same, limit⟩ := run_places (new_placed code) run
  have contracts : last.contract = contract := same
  have within := placed.bounded
  rw [limit] at within
  rw [← contracts]
  exact ⟨placed.boundary, placed.inside, placed.shallow, within⟩

end Places

/-- A host that counts what is written and answers everything else the same. -/
def countingHost : Host Nat where
  env _ :=
    { chainId := 1, limitContractCodeSize := none, number := 1, coinbase := 0, timestamp := 1
      difficulty := 0, prevrandao := some 7, basefee := 1, gasLimit := 30000000, caller := 1
      gasPrice := 1, gasPriorityFee := none }
  loadAccount _ := pure (some (false, true))
  blockHash _ := pure (some 0)
  balance _ := pure (some (0, false))
  code _ := pure (some (Bytecode.new, false))
  codeHash _ := pure (some (KECCAK_EMPTY, false))
  sload _ _ := pure (some (0, false))
  sstore _ _ _ := do
    Act.modify (· + 1)
    return some (0, 0, 1, false)
  log _ _ _ := Act.modify (· + 1)
  selfdestruct _ _ := do
    Act.modify (· + 1)
    return some ⟨false, true, false, false⟩
  create inputs := do
    Act.modify (· + 1)
    return (.return_, none, Gas.new inputs.gasLimit, [])
  call inputs := pure (.stop, Gas.new inputs.gasLimit, [])

/-- PUSH1 1, PUSH1 2, SSTORE -/
def storingCode : Bytes := [0x60, 1, 0x60, 2, 0x55]

def storing : Contract where
  input := []
  bytecode :=
    { bytecode := storingCode ++ List.replicate 33 0
      len := 5
      hash := 0
      jumpMap := analyze (storingCode ++ List.replicate 33 0) }
  address := 5
  caller := 1
  value := 0

theorem storing_wellFormed : storing.bytecode.WellFormed where
  runnable := (padded_append storingCode).runnable
  len_le := by decide
  jumps := fun place => (analyze_getD _ place).mp

/-- After the first push. -/
def storingPushed : Interpreter Nat :=
  { new storing 100000 true 0 with
    instructionPointer := 2
    gas := ⟨100000, 3, 3, 0, 0⟩
    stack := [1] }

theorem run_on_boundaries_storing :
    Boundary storing.bytecode.bytecode storingPushed.instructionPointer ∧
      storingPushed.instructionPointer < storing.bytecode.bytecode.length ∧
      storingPushed.stack.length ≤ STACK_LIMIT ∧ storingPushed.gas.allUsedGas ≤ 100000 := by
  have first : Goes (fun _ => 0) .shanghai countingHost (new storing 100000 true 0)
      storingPushed := rfl
  exact run_on_boundaries storing_wellFormed (Relation.ReflTransGen.single first)

end Interpreter

end Revm
