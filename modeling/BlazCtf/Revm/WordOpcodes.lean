import BlazCtf.Revm.InterpreterRuns

set_option autoImplicit false

namespace Revm

open Machine

variable {η : Type}

/-- What each opcode on two words costs and computes, in a fork that has it. The cost may depend
on the second operand. -/
def wordSpec (spec : SpecId) (opcode : Nat) : Option ((U256 → Nat) × (U256 → U256 → U256)) :=
  let truth (condition : Bool) : U256 := if condition then 1 else 0
  match opcode with
  | 0x01 => some (fun _ => 3, fun a b => a + b)
  | 0x02 => some (fun _ => 5, fun a b => a * b)
  | 0x03 => some (fun _ => 3, fun a b => a - b)
  | 0x04 => some (fun _ => 5, fun a b => if b = 0 then 0 else a / b)
  | 0x05 => some (fun _ => 5, fun a b => a.sdiv b)
  | 0x06 => some (fun _ => 5, fun a b => if b = 0 then 0 else a % b)
  | 0x07 => some (fun _ => 5, fun a b => if b = 0 then 0 else a.srem b)
  | 0x0a => some (fun b =>
      if b = 0 then 10
      else 10 + (if spec.enabled .spuriousDragon then 50 else 10) * (b.toNat.log2 / 8 + 1),
      fun a b => BitVec.ofNat 256 (a.toNat ^ b.toNat))
  | 0x0b => some (fun _ => 5, fun a b =>
      if a.toNat < 32 then (b.setWidth (8 * a.toNat + 8)).signExtend 256 else b)
  | 0x10 => some (fun _ => 3, fun a b => truth (decide (a.toNat < b.toNat)))
  | 0x11 => some (fun _ => 3, fun a b => truth (decide (b.toNat < a.toNat)))
  | 0x12 => some (fun _ => 3, fun a b => truth (decide (a.toInt < b.toInt)))
  | 0x13 => some (fun _ => 3, fun a b => truth (decide (b.toInt < a.toInt)))
  | 0x14 => some (fun _ => 3, fun a b => truth (decide (a = b)))
  | 0x16 => some (fun _ => 3, fun a b => a &&& b)
  | 0x17 => some (fun _ => 3, fun a b => a ||| b)
  | 0x18 => some (fun _ => 3, fun a b => a ^^^ b)
  | 0x1a => some (fun _ => 3, fun a b =>
      if a.toNat < 32 then (b >>> (248 - 8 * a.toNat)) &&& 255 else 0)
  | 0x1b =>
      if spec.enabled .constantinople then some (fun _ => 3, fun a b => b <<< a.toNat) else none
  | 0x1c =>
      if spec.enabled .constantinople then some (fun _ => 3, fun a b => b >>> a.toNat) else none
  | 0x1d =>
      if spec.enabled .constantinople then some (fun _ => 3, fun a b => b.sshiftRight a.toNat)
      else none
  | _ => none

namespace Instruction

section Words

variable {now : Interpreter η} {gas : Gas} {a b : U256} {rest : List U256} {cost : Nat}

theorem charge_apply (covered : now.gas.recordCost cost = some (gas, true)) :
    charge cost now = .returned () { now with gas := gas } := by
  change ((Act.unwrap (now.gas.recordCost cost) : Op η (Gas × Bool)) now).andThen _ = _
  rw [covered]
  rfl

theorem popTop2_apply (stack : now.stack = a :: b :: rest) :
    popTop2 now = .returned (a, b) { now with stack := b :: rest } := by
  unfold popTop2
  rw [stack]

/-- An instruction on two words, when there are two words and gas for it. -/
theorem binary_apply {word : U256 → U256 → U256} {result : U256}
    (stack : now.stack = a :: b :: rest) (covered : now.gas.recordCost cost = some (gas, true))
    (same : word a b = result) :
    binary cost word now = .returned () { now with gas := gas, stack := result :: rest } := by
  unfold binary
  rw [Act.bind_apply, charge_apply covered, Act.returned_andThen, Act.bind_apply,
    popTop2_apply (show ({ now with gas := gas } : Interpreter η).stack = a :: b :: rest from stack),
    Act.returned_andThen, ← same]
  rfl

theorem checked_apply {enabled : Bool} {act : Op η Unit} (has : enabled = true) :
    (do check enabled; act : Op η Unit) now = act now := by
  subst has
  rfl

theorem i256Cmp_lt : (i256Cmp a b == .lt) = decide (a.toInt < b.toInt) := by
  rw [i256Cmp_eq, Bool.eq_iff_iff, beq_iff_eq, decide_eq_true_iff]
  exact compare_lt_iff_lt

theorem i256Cmp_gt : (i256Cmp a b == .gt) = decide (b.toInt < a.toInt) := by
  rw [i256Cmp_eq, Bool.eq_iff_iff, beq_iff_eq, decide_eq_true_iff]
  exact compare_gt_iff_gt

theorem smod_apply (stack : now.stack = a :: b :: rest)
    (covered : now.gas.recordCost Gas.LOW = some (gas, true)) :
    smod now = .returned ()
      { now with gas := gas, stack := (if b = 0 then 0 else a.srem b) :: rest } := by
  unfold smod
  rw [Act.bind_apply, charge_apply covered, Act.returned_andThen, Act.bind_apply,
    popTop2_apply (show ({ now with gas := gas } : Interpreter η).stack = a :: b :: rest from stack),
    Act.returned_andThen]
  by_cases zero : b = 0
  · subst zero
    rfl
  · simp only [ne_eq, zero, not_false_eq_true, if_true, if_false, i256Mod_eq_srem a b zero]
    rfl

theorem evalExp_apply {spec : SpecId} (stack : now.stack = a :: b :: rest)
    (covered : now.gas.recordCost (if b = 0 then 10
      else 10 + (if spec.enabled .spuriousDragon then 50 else 10) *
        (b.toNat.log2 / 8 + 1)) = some (gas, true)) :
    evalExp spec now = .returned () { now with
      gas := gas, stack := BitVec.ofNat 256 (a.toNat ^ b.toNat) :: rest } := by
  unfold evalExp
  rw [Act.bind_apply, popTop2_apply stack, Act.returned_andThen]
  change ((Act.unwrap (expCost spec b) : Op η (Option Nat)) >>= fun cost =>
    gasOrFail cost >>= fun _ => setTop (wrappingPow a b)) _ = _
  rw [expCost_eq, Act.unwrap_some, pure_bind, Act.bind_apply]
  change (charge _ _).andThen _ = _
  rw [charge_apply (show ({ now with stack := b :: rest } : Interpreter η).gas.recordCost _ = _
    from covered), Act.returned_andThen, wrappingPow_eq]
  rfl

/-- Every opcode on two words does what it is specified to do, for all words: signed division,
remainder, comparison and shift included. -/
theorem eval_word {keccak256 : Bytes → U256} {spec : SpecId} {host : Host η} {opcode : Nat}
    {price : U256 → Nat} {word : U256 → U256 → U256}
    (specified : wordSpec spec opcode = some (price, word)) (stack : now.stack = a :: b :: rest)
    (covered : now.gas.recordCost (price b) = some (gas, true)) :
    eval keccak256 spec host opcode now =
      .returned () { now with gas := gas, stack := word a b :: rest } := by
  unfold wordSpec at specified
  simp only at specified
  split at specified
  · cases specified
    change wrappedAdd now = _
    exact binary_apply stack covered (by rfl)
  · cases specified
    change wrappingMul now = _
    exact binary_apply stack covered (by rfl)
  · cases specified
    change wrappingSub now = _
    exact binary_apply stack covered (by rfl)
  · cases specified
    change div now = _
    exact binary_apply stack covered (by rfl)
  · cases specified
    change sdiv now = _
    exact binary_apply stack covered (i256Div_eq_sdiv a b)
  · cases specified
    change rem now = _
    exact binary_apply stack covered (by rfl)
  · cases specified
    exact smod_apply stack covered
  · cases specified
    exact evalExp_apply stack covered
  · cases specified
    change signextend now = _
    exact binary_apply stack covered (signExtendWord_eq a b)
  · cases specified
    change lt now = _
    exact binary_apply stack covered (by rfl)
  · cases specified
    change gt now = _
    exact binary_apply stack covered (by rfl)
  · cases specified
    change slt now = _
    exact binary_apply stack covered (congrArg fromBool i256Cmp_lt)
  · cases specified
    change sgt now = _
    exact binary_apply stack covered (congrArg fromBool i256Cmp_gt)
  · cases specified
    change eq now = _
    exact binary_apply stack covered (by rfl)
  · cases specified
    change bitand now = _
    exact binary_apply stack covered (by rfl)
  · cases specified
    change bitor now = _
    exact binary_apply stack covered (by rfl)
  · cases specified
    change bitxor now = _
    exact binary_apply stack covered (by rfl)
  · cases specified
    change byte now = _
    exact binary_apply stack covered (byteWord_eq a b)
  · split at specified
    · rename_i has
      cases specified
      exact (checked_apply has).trans (binary_apply stack covered (shiftLeft_asU64Saturated b a))
    · cases specified
  · split at specified
    · rename_i has
      cases specified
      exact (checked_apply has).trans (binary_apply stack covered (shiftRight_asU64Saturated b a))
    · cases specified
  · split at specified
    · rename_i has
      cases specified
      exact (checked_apply has).trans (binary_apply stack covered (sarWord_eq b a))
    · cases specified
  · cases specified

/-- Minus seven and two on the stack, and gas for three divisions. -/
def dividing : Interpreter Nat :=
  { Interpreter.new Interpreter.storing 15 false 0 with stack := [-7, 2, 9] }

theorem eval_word_dividing :
    eval (fun _ => 0) .shanghai Interpreter.countingHost 0x05 dividing =
      .returned () { dividing with gas := ⟨15, 5, 5, 0, 0⟩, stack := [-3, 9] } := by
  have quotient : (-7 : U256).sdiv 2 = -3 := by decide
  have covered : dividing.gas.recordCost 5 = some (⟨15, 5, 5, 0, 0⟩, true) := by decide
  rw [← quotient]
  exact eval_word rfl rfl covered

end Words

end Instruction

end Revm
