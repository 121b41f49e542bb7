import BlazCtf.Revm.InterpreterCalls
import BlazCtf.Revm.InterpreterPlaces

set_option autoImplicit false

namespace Revm

open Evm Machine

variable {η : Type}

namespace Instruction

open Interpreter

section Jumps

variable {ok : η → Prop} {start now : Interpreter η} {least : Nat}

/-- What an instruction may have done that has moved the instruction pointer, too. -/
def Went (ok : η → Prop) (start : Interpreter η) (least : Nat) (now : Interpreter η) : Prop :=
  Moved ok start least { now with instructionPointer := start.instructionPointer }

theorem Went.of_moved (moved : Moved ok start least now) : Went ok start least now := by
  unfold Went
  rw [← moved.pointer]
  exact moved

/-- It does not matter where to. -/
theorem Went.goTo (moved : Moved ok start least now) (place : Nat) :
    Went ok start least { now with instructionPointer := place } :=
  (Went.of_moved moved : Went ok start least now)

theorem jumpTo_goes {dest : U256} (moved : Moved ok start least now) :
    Act.Ensures (jumpTo dest) now (fun _ => Went ok start least) (fun _ => Halted ok start)
      False := by
  refine Act.Ensures.bind (okOr_ensures moved fun place _ => ?_)
  refine Act.Ensures.bind (Act.ensures_get ?_)
  split
  · exact Act.ensures_modify (Went.goTo moved place)
  · exact stop_ensures moved

theorem jump_goes (moved : Moved ok start least now) :
    Act.Ensures jump now (fun _ => Went ok start (least + Gas.MID)) (fun _ => Halted ok start)
      False := by
  refine Act.Ensures.bind (charge_ensures moved fun _ moved _ _ => ?_)
  exact Act.Ensures.bind (pop1_ensures moved fun dest _ moved _ => jumpTo_goes moved)

theorem jumpi_goes (moved : Moved ok start least now) :
    Act.Ensures jumpi now (fun _ => Went ok start (least + Gas.HIGH)) (fun _ => Halted ok start)
      False := by
  refine Act.Ensures.bind (charge_ensures moved fun _ moved _ _ => ?_)
  refine Act.Ensures.bind (pop2_ensures moved fun values _ moved _ => ?_)
  by_cases taken : values.2 ≠ 0
  · simp only [taken, ne_eq, not_false_eq_true, if_true]
    exact jumpTo_goes moved
  · simp only [taken, if_false]
    exact Act.ensures_pure (Went.of_moved moved)

theorem pushN_goes {n : Nat} (moved : Moved ok start least now)
    (inside : start.instructionPointer + n ≤ start.contract.bytecode.bytecode.length) :
    Act.Ensures (pushN n) now (fun _ => Went ok start (least + Gas.VERYLOW))
      (fun _ => Halted ok start) False := by
  refine Act.Ensures.bind (charge_ensures moved fun next moved _ _ => ?_)
  refine Act.Ensures.bind (Act.ensures_get ?_)
  rw [moved.contract, moved.pointer, getSlice, if_pos inside, Act.unwrap_some, pure_bind]
  refine Act.Ensures.bind (push_ensures moved fun next moved _ => ?_)
  exact Act.ensures_modify (Went.goTo moved _)

end Jumps

section Table

variable {ok : η → Prop} {start : Interpreter η} {spec : SpecId} {host : Host η}
  {keccak256 : Bytes → U256}

/-- Every instruction but the jumps and the pushes leaves the instruction pointer alone, and
costs gas. -/
theorem eval_moves (fit : start.Fit ok) (refunds : start.gas.Refundable 0)
    (fits : start.contract.Fit)
    (serving : host.Serving spec start.contract.address start.isStatic ok)
    (behind : 0 < start.instructionPointer) {opcode : Nat} (noJump : opcode ≠ 0x56)
    (noJumpi : opcode ≠ 0x57) (noPush : ¬ (0x60 ≤ opcode ∧ opcode ≤ 0x7f)) :
    Moves ok start 1 (eval keccak256 spec host opcode) start := by
  have moved := fit.start refunds
  unfold eval
  split
  · exact stop_ensures moved
  · exact Moves.mono (binary_moves moved) (by decide)
  · exact Moves.mono (binary_moves moved) (by decide)
  · exact Moves.mono (binary_moves moved) (by decide)
  · exact Moves.mono (binary_moves moved) (by decide)
  · exact Moves.mono (binary_moves moved) (by decide)
  · exact Moves.mono (binary_moves moved) (by decide)
  · exact Moves.mono (smod_moves moved) (by decide)
  · exact Moves.mono (addmod_moves moved) (by decide)
  · exact Moves.mono (mulmod_moves moved) (by decide)
  · exact Moves.mono (evalExp_moves moved) (by decide)
  · exact Moves.mono (binary_moves moved) (by decide)
  · exact Moves.mono (binary_moves moved) (by decide)
  · exact Moves.mono (binary_moves moved) (by decide)
  · exact Moves.mono (binary_moves moved) (by decide)
  · exact Moves.mono (binary_moves moved) (by decide)
  · exact Moves.mono (binary_moves moved) (by decide)
  · exact Moves.mono (unary_moves moved) (by decide)
  · exact Moves.mono (binary_moves moved) (by decide)
  · exact Moves.mono (binary_moves moved) (by decide)
  · exact Moves.mono (binary_moves moved) (by decide)
  · exact Moves.mono (unary_moves moved) (by decide)
  · exact Moves.mono (binary_moves moved) (by decide)
  · exact checked_moves moved (Moves.mono (binary_moves moved) (by decide))
  · exact checked_moves moved (Moves.mono (binary_moves moved) (by decide))
  · exact checked_moves moved (Moves.mono (binary_moves moved) (by decide))
  · exact Moves.mono (sha3_moves moved) (by decide)
  · exact Moves.mono (pushed_moves moved) (by decide)
  · exact Moves.mono (balance_moves serving moved) (by decide)
  · exact Moves.mono (pushedEnv_moves moved) (by decide)
  · exact Moves.mono (pushed_moves moved) (by decide)
  · exact Moves.mono (pushed_moves moved) (by decide)
  · exact Moves.mono (calldataload_moves moved) (by decide)
  · exact Moves.mono (pushed_moves moved) (by decide)
  · exact Moves.mono (calldatacopy_moves moved fits) (by decide)
  · exact Moves.mono (pushed_moves moved) (by decide)
  · exact Moves.mono (codecopy_moves moved fits) (by decide)
  · exact Moves.mono (pushedEnv_moves moved) (by decide)
  · exact Moves.mono (extcodesize_moves serving moved) (by decide)
  · exact Moves.mono (extcodecopy_moves serving moved) (by decide)
  · exact Moves.mono (returndatasize_moves moved) (by decide)
  · exact Moves.mono (returndatacopy_moves moved) (by decide)
  · exact Moves.mono (extcodehash_moves serving moved) (by decide)
  · exact Moves.mono (blockhash_moves serving moved) (by decide)
  · exact Moves.mono (pushedEnv_moves moved) (by decide)
  · exact Moves.mono (pushedEnv_moves moved) (by decide)
  · exact Moves.mono (pushedEnv_moves moved) (by decide)
  · exact Moves.mono (difficulty_moves serving moved) (by decide)
  · exact Moves.mono (pushedEnv_moves moved) (by decide)
  · exact checked_moves moved (Moves.mono (pushedEnv_moves moved) (by decide))
  · exact Moves.mono (selfbalance_moves serving moved) (by decide)
  · exact Moves.mono (basefee_moves moved) (by decide)
  · exact Moves.mono (pop_moves moved) (by decide)
  · exact Moves.mono (mload_moves moved) (by decide)
  · exact Moves.mono (mstore_moves moved) (by decide)
  · exact Moves.mono (mstore8_moves moved) (by decide)
  · exact Moves.mono (sload_moves serving moved) (by decide)
  · exact Moves.mono (sstore_moves serving moved) (by decide)
  · exact absurd rfl noJump
  · exact absurd rfl noJumpi
  · exact Moves.mono (pc_moves behind moved) (by decide)
  · exact Moves.mono (pushed_moves moved) (by decide)
  · exact Moves.mono (gas_moves moved) (by decide)
  · exact Moves.mono (charge_moves moved) (by decide)
  · exact Moves.mono (push0_moves moved) (by decide)
  · exact Moves.mono (create_moves serving moved) (by decide)
  · exact Moves.mono (callInner_moves serving moved) (by decide)
  · exact Moves.mono (callInner_moves serving moved) (by decide)
  · exact finish_moves moved 1
  · exact Moves.mono (callInner_moves serving moved) (by decide)
  · exact Moves.mono (create_moves serving moved) (by decide)
  · exact Moves.mono (callInner_moves serving moved) (by decide)
  · exact checked_moves moved (finish_moves moved 1)
  · exact stop_ensures moved
  · exact selfdestruct_moves serving moved 1
  · rw [if_neg noPush]
    split
    · exact Moves.mono (dup_moves (Nat.succ_pos _) moved) (by decide)
    · split
      · exact Moves.mono (swap_moves moved) (by decide)
      · split
        · exact Moves.mono (log_moves serving moved) (by decide)
        · exact stop_ensures moved

end Table

end Instruction

namespace Interpreter

section Runs

variable {ok : η → Prop} {spec : SpecId} {host : Host η} {keccak256 : Bytes → U256}

/-- Between two instructions. -/
structure Going (ok : η → Prop) (interpreter : Interpreter η) : Prop where
  fit : interpreter.Fit ok
  refunds : interpreter.gas.Refundable 0
  contract : interpreter.contract.Fit
  placed : Placed interpreter

/-- The same contract in the same mode with the same gas limit. -/
def SameFrame (before after : Interpreter η) : Prop :=
  after.contract = before.contract ∧ after.isStatic = before.isStatic ∧
    after.gas.limit = before.gas.limit

/-- One instruction of a run does not panic, and where it goes on it has cost gas. -/
theorem step_moves {before : Interpreter η} (going : Going ok before)
    (serving : host.Serving spec before.contract.address before.isStatic ok) :
    ∃ start : Interpreter η, SameFrame before start ∧ start.gas = before.gas ∧
      Act.Ensures (step keccak256 spec host) before (fun _ => Instruction.Went ok start 1)
        (fun _ => Halted ok start) False := by
  obtain ⟨fit, refunds, contract, placed⟩ := going
  have inside := placed.inside
  have found := List.getElem?_eq_getElem inside
  generalize before.contract.bytecode.bytecode[before.instructionPointer] = opcode at found
  have next := fun nonzero => contract.code.runnable.next _ opcode placed.boundary found nonzero
  rw [instructionSize_eq] at next
  let start : Interpreter η :=
    { before with instructionPointer := before.instructionPointer + 1 }
  have startFit : start.Fit ok := { fit with }
  have startContract : start.contract.Fit := contract
  have moved : Moved ok start 0 start := startFit.start refunds
  -- what every instruction uses is at least one gas
  have goes : ∀ (least : Nat) (after : Interpreter η), 1 ≤ least →
      Instruction.Went ok start least after → Instruction.Went ok start 1 after :=
    fun least after costs went => Moved.mono went costs
  refine ⟨start, ⟨rfl, rfl, rfl⟩, rfl, ?_⟩
  refine Act.Ensures.bind (Act.ensures_get ?_)
  rw [found, Act.unwrap_some, pure_bind]
  refine Act.Ensures.bind (Act.ensures_modify ?_)
  change Act.Ensures (Instruction.eval keccak256 spec host opcode.toNat) start _ _ False
  by_cases zero : opcode = 0
  · subst zero
    exact moved.halted
  have next := next zero
  by_cases push : 0x60 ≤ opcode.toNat ∧ opcode.toNat ≤ 0x7f
  · rw [if_pos push] at next
    have ahead : start.instructionPointer + (opcode.toNat - 0x60 + 1) ≤
        start.contract.bytecode.bytecode.length := by
      change before.instructionPointer + 1 + (opcode.toNat - 0x60 + 1) ≤
        before.contract.bytecode.bytecode.length
      omega
    rw [eval_push push]
    exact Act.Ensures.mono (Instruction.pushN_goes moved ahead)
      (fun _ after => goes _ after (by decide)) fun _ _ halted => halted
  by_cases jump : opcode.toNat = 0x56
  · rw [jump]
    have jumps := Instruction.jump_goes moved
    exact Act.Ensures.mono jumps (fun _ after => goes _ after (by decide)) fun _ _ halted => halted
  by_cases jumpi : opcode.toNat = 0x57
  · rw [jumpi]
    have jumps := Instruction.jumpi_goes moved
    exact Act.Ensures.mono jumps (fun _ after => goes _ after (by decide)) fun _ _ halted => halted
  · exact Act.Ensures.mono (Instruction.eval_moves startFit refunds contract serving
      (Nat.succ_pos _) jump jumpi push) (fun _ _ moved => Instruction.Went.of_moved moved)
      fun _ _ halted => halted

/-- One instruction of a run: it does not panic, it costs gas, and the next instruction begins
where it leaves the instruction pointer. -/
theorem step_goes {before : Interpreter η} (going : Going ok before)
    (serving : host.Serving spec before.contract.address before.isStatic ok) :
    Act.Ensures (step keccak256 spec host) before
      (fun _ after => Going ok after ∧ SameFrame before after ∧
        before.gas.used + 1 ≤ after.gas.used)
      (fun _ after => after.Fit ok ∧ after.gas.Refunded ∧ SameFrame before after) False := by
  obtain ⟨start, same, gas, moves⟩ := step_moves going serving
  refine Act.Ensures.mono moves.traced ?_ ?_
  · rintro ⟨⟩ after ⟨went, goes⟩
    obtain ⟨placed, contract, limit⟩ := step_places going.placed goes
    have used := went.used
    rw [gas] at used
    refine ⟨⟨{ went.fit with }, went.refunds.mono (Nat.zero_le _), ?_, placed⟩,
      ⟨contract, ?_, limit⟩, used⟩
    · rw [contract]
      exact going.contract
    · exact Eq.trans went.isStatic same.2.1
  · intro _ after halted
    exact ⟨halted.fit, halted.refunded, halted.contract.trans same.1,
      halted.isStatic.trans same.2.1, halted.limit.trans same.2.2⟩

theorem SameFrame.trans {first second third : Interpreter η} (before : SameFrame first second)
    (after : SameFrame second third) : SameFrame first third :=
  ⟨after.1.trans before.1, after.2.1.trans before.2.1, after.2.2.trans before.2.2⟩

theorem SameFrame.serving {before after : Interpreter η} (same : SameFrame before after)
    (serving : host.Serving spec before.contract.address before.isStatic ok) :
    host.Serving spec after.contract.address after.isStatic ok := by
  rw [same.1, same.2.1]
  exact serving

theorem new_going {contract : Contract} {gasLimit : Nat} {isStatic : Bool} {state : η}
    (fits : contract.Fit) (sane : gasLimit < GAS_SANE) (serving : ok state) :
    Going ok (new contract gasLimit isStatic state) where
  fit :=
    { gas := Gas.new_sound (Nat.lt_trans sane (by decide))
      sane := sane
      paid := by
        change 0 = Gas.memoryGas (0 / 32)
        decide
      whole := rfl
      shallow := Nat.zero_le _
      range := Or.inr ⟨Nat.le_refl _, Nat.zero_le _⟩
      serving := serving }
  refunds := Gas.new_refundable gasLimit
  contract := fits
  placed := new_placed fits.code

/-- A run ends by a stop before its steps are more than its gas, and never panics. -/
theorem run_ends {fuel : Nat} {first : Interpreter η} (going : Going ok first)
    (serving : host.Serving spec first.contract.address first.isStatic ok)
    (enough : first.gas.limit < first.gas.used + fuel) :
    ∃ reason last, run keccak256 spec host fuel first = some (.stopped reason last) ∧
      last.Fit ok ∧ last.gas.Refunded ∧ SameFrame first last := by
  induction fuel generalizing first with
  | zero =>
      have sum := going.fit.gas.sum
      have bounded := going.fit.gas.bounded
      omega
  | succ fuel ih =>
      have ended : Act.Ensures (step keccak256 spec host) first _ _ False :=
        step_goes going serving
      unfold Act.Ensures at ended
      unfold run
      cases result : step keccak256 spec host first with
      | returned value next =>
          rw [result] at ended
          obtain ⟨after, same, costs⟩ := ended
          have limit := same.2.2
          obtain ⟨reason, last, ends, fit, refunded, sameLast⟩ :=
            ih after (same.serving serving) (by omega)
          exact ⟨reason, last, ends, fit, refunded, same.trans sameLast⟩
      | stopped reason last =>
          rw [result] at ended
          exact ⟨reason, last, rfl, ended⟩
      | fault =>
          rw [result] at ended
          exact ended.elim

theorem Fit.returnValue_total {interpreter : Interpreter η} (fit : interpreter.Fit ok) :
    ∃ bytes, interpreter.returnValue = some bytes := by
  unfold returnValue
  by_cases none_ : interpreter.returnRange.1 = U64_MAX
  · exact ⟨[], if_pos none_⟩
  · obtain ⟨ordered, inside⟩ := fit.range.resolve_left none_
    rw [if_neg none_, subU64, if_pos ordered]
    simp only [Option.bind_eq_bind, Option.bind_some, getSlice]
    rw [if_pos (by omega)]
    exact ⟨_, rfl⟩

theorem returnValue_length {interpreter : Interpreter η} {output : Bytes}
    (returned : interpreter.returnValue = some output) :
    output.length ≤ interpreter.memory.length := by
  unfold returnValue at returned
  split at returned
  · cases returned
    exact Nat.zero_le _
  · obtain ⟨size, _, slice⟩ := Option.bind_eq_some_iff.mp returned
    unfold getSlice at slice
    split at slice
    · rename_i inside
      cases slice
      rw [Buffer.length_load]
      omega
    · cases slice

variable {contract : Contract} {gasLimit : Nat} {isStatic : Bool} {state : η}

/-- From any well-formed code the interpreter runs to a stop: it never panics, reads no byte
past its code, its memory or the allocation of its stack, takes no more steps than it has gas, and
leaves its host as the host's own operations keep it. In static mode the host is asked for nothing
that writes. -/
theorem run_safe (fits : contract.Fit) (sane : gasLimit < GAS_SANE) (ready : ok state)
    (serving : host.Serving spec contract.address isStatic ok) :
    ∃ reason last output,
      run keccak256 spec host (gasLimit + 1) (new contract gasLimit isStatic state) =
        some (.stopped reason last) ∧
      last.gas.limit = gasLimit ∧ last.gas.allUsedGas ≤ gasLimit ∧
      last.gas.memory = Gas.memoryGas (last.memory.length / 32) ∧
      last.stack.length ≤ STACK_LIMIT ∧ last.gas.Refunded ∧ last.returnValue = some output ∧
      ok last.host := by
  have going : Going ok (new contract gasLimit isStatic state) := new_going fits sane ready
  have enough : gasLimit < 0 + (gasLimit + 1) := by omega
  obtain ⟨reason, last, ends, fit, refunded, same⟩ := run_ends going serving enough
  obtain ⟨output, total⟩ := fit.returnValue_total
  have limit : last.gas.limit = gasLimit := same.2.2
  exact ⟨reason, last, output, ends, limit, limit ▸ fit.gas.bounded, fit.paid, fit.shallow,
    refunded, total, fit.serving⟩

end Runs

theorem gasReturned_new (limit : Nat) : GasReturned limit (Gas.new limit) :=
  ⟨limit, congrArg some (Nat.sub_zero limit), Nat.le_refl limit, Nat.zero_le _⟩

/-- Nothing has been written yet. -/
def Unwritten (writes : Nat) : Prop := writes = 0

/-- In static mode it counts nothing. -/
theorem countingHost_serving (here : Address) :
    countingHost.Serving .shanghai here true Unwritten where
  prevrandao _ _ _ := rfl
  loadAccount _ _ ready := ⟨ready, trivial⟩
  blockHash _ _ ready := ⟨ready, trivial⟩
  balance _ _ ready := ⟨ready, trivial⟩
  code _ _ ready := by
    refine ⟨ready, ?_⟩
    intro code isCold same
    cases same
    decide
  codeHash _ _ ready := ⟨ready, trivial⟩
  sload _ _ ready := ⟨ready, trivial⟩
  sstore changing := by cases changing
  log changing := by cases changing
  selfdestruct changing := by cases changing
  create changing := by cases changing
  call inputs _ ready _ _ _ _ _ := ⟨ready, gasReturned_new inputs.gasLimit⟩

theorem storing_fit : storing.Fit where
  code := storing_wellFormed
  codeLength := by decide
  inputLength := by decide

theorem run_safe_storing : ∃ reason last output,
    run (fun _ => 0) .shanghai countingHost 100001 (new storing 100000 true 0) =
      some (.stopped reason last) ∧
    last.gas.limit = 100000 ∧ last.gas.allUsedGas ≤ 100000 ∧
    last.gas.memory = Gas.memoryGas (last.memory.length / 32) ∧
    last.stack.length ≤ STACK_LIMIT ∧ last.gas.Refunded ∧ last.returnValue = some output ∧
    Unwritten last.host := by
  have sane : 100000 < GAS_SANE := by decide
  have untouched : Unwritten 0 := rfl
  exact run_safe storing_fit sane untouched (countingHost_serving 5)

end Interpreter

end Revm
