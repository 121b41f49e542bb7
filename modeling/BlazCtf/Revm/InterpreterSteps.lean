import BlazCtf.Revm.InterpreterMoves
import BlazCtf.Revm.WordSpecs

set_option autoImplicit false

namespace Revm

open Evm Machine

variable {η : Type}

namespace Instruction

open Interpreter

section Plain

variable {ok : η → Prop} {start now : Interpreter η} {least : Nat}

theorem Moves.done (moved : Moved ok start least now) : Moves ok start least (pure ()) now :=
  Act.ensures_pure moved

theorem Moves.mono {act : Op η Unit} {fewer : Nat} (moves : Moves ok start least act now)
    (le : fewer ≤ least) : Moves ok start fewer act now :=
  Act.Ensures.mono moves (fun _ _ moved => moved.mono le) fun _ _ moved => moved

theorem charge_moves {cost : Nat} (moved : Moved ok start least now) :
    Moves ok start (least + cost) (charge cost) now :=
  charge_ensures moved fun _ moved _ _ => moved

theorem binary_moves {cost : Nat} {word : U256 → U256 → U256} (moved : Moved ok start least now) :
    Moves ok start (least + cost) (binary cost word) now := by
  refine Act.Ensures.bind (charge_ensures moved fun _ moved _ _ => ?_)
  refine Act.Ensures.bind (popTop2_ensures moved fun values _ moved some_ => ?_)
  exact setTop_ensures moved some_ fun _ moved => moved

theorem unary_moves {cost : Nat} {word : U256 → U256} (moved : Moved ok start least now) :
    Moves ok start (least + cost) (unary cost word) now := by
  refine Act.Ensures.bind (charge_ensures moved fun _ moved _ _ => ?_)
  refine Act.Ensures.bind (popTop1_ensures moved fun value some_ => ?_)
  exact setTop_ensures moved some_ fun _ moved => moved

theorem smod_moves (moved : Moved ok start least now) :
    Moves ok start (least + Gas.LOW) smod now := by
  refine Act.Ensures.bind (charge_ensures moved fun _ moved _ _ => ?_)
  refine Act.Ensures.bind (popTop2_ensures moved fun values _ moved some_ => ?_)
  obtain ⟨op1, op2⟩ := values
  by_cases zero : op2 = 0
  · rw [zero]
    exact Moves.done moved
  · simp only [ne_eq, zero, not_false_eq_true, if_true, i256Mod_eq_srem op1 op2 zero]
    exact setTop_ensures moved some_ fun _ moved => moved

theorem addmod_moves (moved : Moved ok start least now) :
    Moves ok start (least + Gas.MID) addmod now := by
  refine Act.Ensures.bind (charge_ensures moved fun _ moved _ _ => ?_)
  refine Act.Ensures.bind (popTop3_ensures moved fun values _ moved some_ => ?_)
  exact setTop_ensures moved some_ fun _ moved => moved

theorem mulmod_moves (moved : Moved ok start least now) :
    Moves ok start (least + Gas.MID) mulmod now := by
  refine Act.Ensures.bind (charge_ensures moved fun _ moved _ _ => ?_)
  refine Act.Ensures.bind (popTop3_ensures moved fun values _ moved some_ => ?_)
  exact setTop_ensures moved some_ fun _ moved => moved

theorem evalExp_moves {spec : SpecId} (moved : Moved ok start least now) :
    Moves ok start (least + Gas.EXP) (evalExp spec) now := by
  refine Act.Ensures.bind (popTop2_ensures moved fun values next moved some_ => ?_)
  obtain ⟨op1, op2⟩ := values
  obtain ⟨cost, computed, least_⟩ := expCost_total op2 spec
  simp only [computed, Act.unwrap_some, pure_bind]
  refine Act.Ensures.bind (charge_ensures moved fun _ moved stack _ => ?_)
  refine setTop_ensures moved (fun empty => some_ (stack ▸ empty)) fun _ moved => ?_
  exact moved.mono (Nat.add_le_add_left least_ _)

theorem checked_moves {enabled : Bool} {rest : Op η Unit} (moved : Moved ok start 0 now)
    (moves : Moves ok start least rest now) :
    Moves ok start least (do check enabled; rest) now :=
  Act.Ensures.bind (check_ensures moved moves)

theorem pushed_moves {cost : Nat} {word : Interpreter η → U256} (moved : Moved ok start least now) :
    Moves ok start (least + cost) (pushed cost word) now := by
  refine Act.Ensures.bind (charge_ensures moved fun _ moved _ _ => ?_)
  refine Act.Ensures.bind (Act.ensures_get ?_)
  exact push_ensures moved fun _ moved _ => moved

theorem sha3_moves {keccak256 : Bytes → U256} (moved : Moved ok start least now) :
    Moves ok start (least + Gas.SHA3) (sha3 keccak256) now := by
  refine Act.Ensures.bind (pop2_ensures moved fun values _ moved _ => ?_)
  refine Act.Ensures.bind (okOr_ensures moved fun len _ => ?_)
  refine Act.Ensures.bind (gasOrFail_ensures moved fun _ cost priced moved _ _ => ?_)
  have enough := moved.mono (Nat.add_le_add_left (le_of_plus priced) least)
  by_cases empty : len = 0
  · rw [if_pos empty]
    exact push_ensures enough fun _ moved _ => moved
  · rw [if_neg empty]
    refine Act.Ensures.bind (okOr_ensures enough fun offset _ => ?_)
    refine Act.Ensures.bind (memoryResize_ensures enough fun _ moved _ _ inside => ?_)
    refine Act.Ensures.bind (memorySlice_ensures inside fun bytes _ => ?_)
    exact push_ensures moved fun _ moved _ => moved

theorem copyInto_moves {source : Interpreter η → Bytes} (moved : Moved ok start least now)
    (small : ∀ next, Moved ok start least next → (source next).length ≤ ISIZE_MAX) :
    Moves ok start (least + Gas.VERYLOW) (copyInto source) now := by
  refine Act.Ensures.bind (pop3_ensures moved fun values _ moved _ => ?_)
  refine Act.Ensures.bind (okOr_ensures moved fun len _ => ?_)
  refine Act.Ensures.bind (gasOrFail_ensures moved fun _ cost priced moved _ _ => ?_)
  have enough := moved.mono (Nat.add_le_add_left (le_of_plus priced) least)
  by_cases empty : len = 0
  · rw [if_pos empty]
    exact enough
  · rw [if_neg empty]
    refine Act.Ensures.bind (okOr_ensures enough fun offset _ => ?_)
    refine Act.Ensures.bind (memoryResize_ensures enough fun next moved _ _ inside => ?_)
    refine Act.Ensures.bind (Act.ensures_get ?_)
    have data := small next (moved.mono (Nat.le_add_right _ _))
    exact editMemory_ensures moved (setData_total inside moved.fit.memory_lt data)
      fun _ moved => moved

theorem codecopy_moves (moved : Moved ok start least now) (fits : start.contract.Fit) :
    Moves ok start (least + Gas.VERYLOW) codecopy now := by
  refine copyInto_moves moved fun next moved => ?_
  rw [moved.contract]
  exact Nat.le_trans (List.length_take_le _ _) fits.codeLength

theorem calldatacopy_moves (moved : Moved ok start least now) (fits : start.contract.Fit) :
    Moves ok start (least + Gas.VERYLOW) calldatacopy now := by
  refine copyInto_moves moved fun next moved => ?_
  rw [moved.contract]
  exact fits.inputLength

theorem calldataload_moves (moved : Moved ok start least now) :
    Moves ok start (least + Gas.VERYLOW) calldataload now := by
  refine Act.Ensures.bind (charge_ensures moved fun _ moved _ _ => ?_)
  refine Act.Ensures.bind (pop1_ensures moved fun index _ moved _ => ?_)
  refine Act.Ensures.bind (Act.ensures_get ?_)
  exact push_ensures moved fun _ moved _ => moved

theorem returndatasize_moves {spec : SpecId} (moved : Moved ok start least now) :
    Moves ok start (least + Gas.BASE) (returndatasize spec) now := by
  refine Act.Ensures.bind (charge_ensures moved fun _ moved _ _ => ?_)
  refine Act.Ensures.bind (check_ensures moved ?_)
  refine Act.Ensures.bind (Act.ensures_get ?_)
  exact push_ensures moved fun _ moved _ => moved

theorem returndatacopy_moves {spec : SpecId} (moved : Moved ok start least now) :
    Moves ok start (least + Gas.VERYLOW) (returndatacopy spec) now := by
  refine Act.Ensures.bind (check_ensures moved ?_)
  refine Act.Ensures.bind (pop3_ensures moved fun values _ moved _ => ?_)
  refine Act.Ensures.bind (okOr_ensures moved fun len _ => ?_)
  refine Act.Ensures.bind (gasOrFail_ensures moved fun next cost priced moved _ _ => ?_)
  have enough := moved.mono (Nat.add_le_add_left (le_of_plus priced) least)
  refine Act.Ensures.bind (Act.ensures_get ?_)
  refine Act.Ensures.bind (okOr_ensures enough fun dataEnd ended => ?_)
  obtain ⟨sum, within⟩ := Option.filter_eq_some_iff.mp ended
  have total := addU64_eq sum
  have inData : dataEnd ≤ next.returnDataBuffer.length := of_decide_eq_true within
  by_cases empty : len = 0
  · simp only [empty, ne_eq, not_true_eq_false, if_false]
    exact enough
  · simp only [empty, ne_eq, not_false_eq_true, if_true]
    refine Act.Ensures.bind (okOr_ensures enough fun offset _ => ?_)
    refine Act.Ensures.bind (memoryResize_ensures enough fun _ moved _ _ inside => ?_)
    refine editMemory_ensures moved (setMemory_total (Or.inl ?_)) fun _ moved => moved
    rw [List.length_drop, List.length_take]
    omega

theorem gas_moves (moved : Moved ok start least now) :
    Moves ok start (least + Gas.BASE) gas now := by
  refine Act.Ensures.bind (charge_ensures moved fun next moved _ _ => ?_)
  refine Act.Ensures.bind (Act.ensures_get ?_)
  rw [moved.fit.gas.remaining]
  exact push_ensures moved fun _ moved _ => moved

/-! memory.rs -/

theorem mload_moves (moved : Moved ok start least now) :
    Moves ok start (least + Gas.VERYLOW) mload now := by
  refine Act.Ensures.bind (charge_ensures moved fun _ moved _ _ => ?_)
  refine Act.Ensures.bind (pop1_ensures moved fun index _ moved _ => ?_)
  refine Act.Ensures.bind (okOr_ensures moved fun offset _ => ?_)
  refine Act.Ensures.bind (memoryResize_ensures moved fun _ moved _ _ inside => ?_)
  refine Act.Ensures.bind (memorySlice_ensures inside fun bytes _ => ?_)
  exact push_ensures moved fun _ moved _ => moved

theorem mstore_moves (moved : Moved ok start least now) :
    Moves ok start (least + Gas.VERYLOW) mstore now := by
  refine Act.Ensures.bind (charge_ensures moved fun _ moved _ _ => ?_)
  refine Act.Ensures.bind (pop2_ensures moved fun values _ moved _ => ?_)
  obtain ⟨index, value⟩ := values
  refine Act.Ensures.bind (okOr_ensures moved fun offset _ => ?_)
  refine Act.Ensures.bind (memoryResize_ensures moved fun _ moved _ _ inside => ?_)
  have length := Bytes.length_toBE 32 value.toNat
  generalize Bytes.toBE 32 value.toNat = bytes at length ⊢
  rw [← length] at inside
  exact editMemory_ensures moved (putSlice_total _ _ _ inside) fun _ moved => moved

theorem mstore8_moves (moved : Moved ok start least now) :
    Moves ok start (least + Gas.VERYLOW) mstore8 now := by
  refine Act.Ensures.bind (charge_ensures moved fun _ moved _ _ => ?_)
  refine Act.Ensures.bind (pop2_ensures moved fun values _ moved _ => ?_)
  refine Act.Ensures.bind (okOr_ensures moved fun offset _ => ?_)
  refine Act.Ensures.bind (memoryResize_ensures moved fun _ moved _ _ inside => ?_)
  exact editMemory_ensures moved (putSlice_total _ _ _ inside) fun _ moved => moved

/-! stack.rs -/

theorem pop_moves (moved : Moved ok start least now) :
    Moves ok start (least + Gas.BASE) pop now := by
  refine Act.Ensures.bind (charge_ensures moved fun _ moved _ _ => ?_)
  exact Act.Ensures.bind (popMany_ensures moved fun _ _ _ moved _ => moved)

theorem push0_moves {spec : SpecId} (moved : Moved ok start least now) :
    Moves ok start (least + Gas.BASE) (push0 spec) now := by
  refine Act.Ensures.bind (check_ensures moved ?_)
  refine Act.Ensures.bind (charge_ensures moved fun _ moved _ _ => ?_)
  exact push_ensures moved fun _ moved _ => moved

theorem dup_moves {n : Nat} (positive : 0 < n) (moved : Moved ok start least now) :
    Moves ok start (least + Gas.VERYLOW) (dup n) now := by
  refine Act.Ensures.bind (charge_ensures moved fun next moved _ _ => ?_)
  refine Act.Ensures.bind (Act.ensures_get ?_)
  by_cases few : next.stack.length < n
  · rw [if_pos few]
    exact stop_ensures moved
  · rw [if_neg few]
    by_cases full : STACK_LIMIT < next.stack.length + 1
    · rw [if_pos full]
      exact stop_ensures moved
    · rw [if_neg full, List.getElem?_eq_getElem (show n - 1 < next.stack.length by omega)]
      exact moved.withStack (Nat.le_of_not_lt full)

theorem swap_moves {n : Nat} (moved : Moved ok start least now) :
    Moves ok start (least + Gas.VERYLOW) (swap n) now := by
  refine Act.Ensures.bind (charge_ensures moved fun next moved _ _ => ?_)
  refine Act.Ensures.bind (Act.ensures_get ?_)
  by_cases few : next.stack.length ≤ n
  · rw [if_pos few]
    exact stop_ensures moved
  · rw [if_neg few, List.getElem?_eq_getElem (show 0 < next.stack.length by omega),
      List.getElem?_eq_getElem (show n < next.stack.length by omega)]
    refine moved.withStack ?_
    rw [List.length_set, List.length_set]
    exact moved.fit.shallow

/-! control.rs -/

theorem pc_moves (behind : 0 < start.instructionPointer) (moved : Moved ok start least now) :
    Moves ok start (least + Gas.BASE) pc now := by
  refine Act.Ensures.bind (charge_ensures moved fun next moved _ _ => ?_)
  refine Act.Ensures.bind (Act.ensures_get ?_)
  rw [moved.pointer, subU64, if_pos (show 1 ≤ start.instructionPointer from behind)]
  exact push_ensures moved fun _ moved _ => moved

/-- A range of memory to be returned. -/
theorem Moved.withRange {range : Nat × Nat} (moved : Moved ok start least now)
    (inside : range.1 = U64_MAX ∨ range.1 ≤ range.2 ∧ range.2 ≤ now.memory.length) :
    Moved ok start least { now with returnRange := range } :=
  { moved with fit := { moved.fit with range := inside } }

theorem finish_moves {reason : InstructionResult} (moved : Moved ok start least now) (more : Nat) :
    Moves ok start more (finish reason) now := by
  refine Act.Ensures.bind (pop2_ensures moved fun values _ moved _ => ?_)
  refine Act.Ensures.bind (okOr_ensures moved fun len _ => ?_)
  by_cases empty : len = 0
  · rw [if_pos empty]
    refine Act.Ensures.bind (Act.ensures_modify ?_)
    exact stop_ensures (Moved.withRange moved (Or.inl rfl))
  · rw [if_neg empty]
    refine Act.Ensures.bind (okOr_ensures moved fun offset _ => ?_)
    refine Act.Ensures.bind (memoryResize_ensures moved fun _ moved _ _ inside => ?_)
    have small := moved.fit.memory_lt
    have fits : offset + len ≤ U64_MAX := by
      unfold U64_MAX
      omega
    rw [addU64, if_pos fits, Act.unwrap_some, pure_bind]
    refine Act.Ensures.bind (Act.ensures_modify ?_)
    exact stop_ensures (Moved.withRange moved (Or.inr ⟨Nat.le_add_right _ _, inside⟩))

end Plain

end Instruction

end Revm
