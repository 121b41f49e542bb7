import BlazCtf.Revm.Instructions

set_option autoImplicit false

namespace Revm

open Evm Machine

/-- The gas that `used` and `memory` count is all there is, and it is within the limit. -/
structure Gas.Sound (gas : Gas) : Prop where
  limit : gas.limit < U64_MAX
  sum : gas.allUsedGas = gas.used + gas.memory
  bounded : gas.allUsedGas ≤ gas.limit

theorem Gas.new_sound {limit : Nat} (small : limit < U64_MAX) : (Gas.new limit).Sound :=
  ⟨small, rfl, Nat.zero_le _⟩

/-- What is left of the limit. -/
def Gas.left (gas : Gas) : Nat := gas.limit - gas.allUsedGas

theorem Gas.Sound.remaining {gas : Gas} (sound : gas.Sound) : gas.remaining = some gas.left :=
  if_pos sound.bounded

section Costs

variable {gas after : Gas} {cost : Nat} {covered : Bool}

theorem Gas.Sound.recordCost (sound : gas.Sound) :
    (gas.allUsedGas + cost ≤ gas.limit ∧
      gas.recordCost cost = some ({ gas with
        used := gas.used + cost, allUsedGas := gas.allUsedGas + cost }, true)) ∨
    (gas.limit < gas.allUsedGas + cost ∧ gas.recordCost cost = some (gas, false)) := by
  have limit := sound.limit
  have sum := sound.sum
  unfold Gas.recordCost addU64
  by_cases covered : gas.allUsedGas + cost ≤ gas.limit
  · left
    refine ⟨covered, ?_⟩
    rw [if_pos (by omega)]
    simp only [Nat.not_lt.mpr covered, if_false]
    rw [if_pos (by omega)]
    rfl
  · right
    refine ⟨Nat.lt_of_not_le covered, ?_⟩
    by_cases fits : gas.allUsedGas + cost ≤ U64_MAX
    · rw [if_pos fits]
      simp only [Nat.lt_of_not_le covered, if_true]
    · rw [if_neg fits]

theorem Gas.Sound.charged (sound : gas.Sound) (covered : gas.allUsedGas + cost ≤ gas.limit) :
    Gas.Sound { gas with used := gas.used + cost, allUsedGas := gas.allUsedGas + cost } where
  limit := sound.limit
  sum := by
    have sum := sound.sum
    change gas.allUsedGas + cost = gas.used + cost + gas.memory
    omega
  bounded := covered

theorem Gas.Sound.recordMemory {size : Nat} (sound : gas.Sound) (more : gas.memory < size)
    (paid : gas.recordMemory size = (after, true)) :
    after = { gas with memory := size, allUsedGas := gas.used + size } ∧ after.Sound ∧
      size ≤ gas.limit := by
  unfold Gas.recordMemory at paid
  rw [if_neg (Nat.not_le.mpr more)] at paid
  cases sum : addU64 gas.used size with
  | none =>
      rw [sum] at paid
      cases paid
  | some total =>
      rw [sum] at paid
      simp only at paid
      have totals : total = gas.used + size := by
        unfold addU64 at sum
        split at sum
        · exact (Option.some.inj sum).symm
        · cases sum
      split at paid
      · cases paid
      · rename_i inside
        cases paid
        subst totals
        have within : gas.used + size ≤ gas.limit := Nat.le_of_not_lt inside
        exact ⟨rfl, ⟨sound.limit, rfl, within⟩, by omega⟩

theorem Gas.Sound.eraseCost {left : Nat} (sound : gas.Sound) (spent : left ≤ gas.used) :
    gas.eraseCost left = some { gas with
      used := gas.used - left, allUsedGas := gas.allUsedGas - left } ∧
    Gas.Sound { gas with used := gas.used - left, allUsedGas := gas.allUsedGas - left } := by
  have sum := sound.sum
  have bounded := sound.bounded
  constructor
  · unfold Gas.eraseCost subU64
    rw [if_pos spent, if_pos (by omega)]
    rfl
  · refine ⟨sound.limit, ?_, ?_⟩
    · change gas.allUsedGas - left = gas.used - left + gas.memory
      omega
    · change gas.allUsedGas - left ≤ gas.limit
      omega

end Costs

/-- A gas limit at which the memory that can be paid for can always be had, and the refunds that
can be paid for do not overflow. -/
def GAS_SANE : Nat := 2 ^ 53

theorem memoryGas_linear {count : Nat} (paid : Gas.memoryGas count < GAS_SANE) :
    3 * count < GAS_SANE := by
  have linear : min (3 * count) U64_MAX ≤ Gas.memoryGas count := by
    unfold Gas.memoryGas saturatingAdd saturatingMul Gas.MEMORY
    omega
  unfold GAS_SANE at paid ⊢
  unfold U64_MAX at linear
  omega

theorem memoryGas_small {count : Nat} (paid : Gas.memoryGas count < GAS_SANE) :
    32 * count < 2 ^ 63 := by
  have linear := memoryGas_linear paid
  unfold GAS_SANE at linear
  omega

theorem memoryGas_lt {count more : Nat} (lt : count < more) (paid : Gas.memoryGas more < GAS_SANE) :
    Gas.memoryGas count < Gas.memoryGas more := by
  have square : count * count ≤ more * more := Nat.mul_le_mul (Nat.le_of_lt lt) (Nat.le_of_lt lt)
  have quotient : min (count * count) U64_MAX / 512 ≤ min (more * more) U64_MAX / 512 :=
    Nat.div_le_div_right (min_le_min_right U64_MAX square)
  unfold Gas.memoryGas saturatingAdd saturatingMul Gas.MEMORY at *
  unfold GAS_SANE at paid
  have max : U64_MAX = 2 ^ 64 - 1 := rfl
  omega

/-! Refunds. -/

/-- No gas is refunded more than this many times. -/
def REFUND_RATE : Nat := 1000

/-- What `SELFDESTRUCT` refunds before it is paid for, if it is to be paid for at all. -/
def REFUND_LAST : Nat := 24000

/-- The gas that is used covers the refunds, even without `spare` of it. -/
def Gas.Refundable (gas : Gas) (spare : Nat) : Prop :=
  gas.refunded.natAbs + REFUND_RATE * spare ≤ REFUND_RATE * gas.used

/-- The same with a self-destruct at the end. -/
def Gas.Refunded (gas : Gas) : Prop :=
  gas.refunded.natAbs ≤ REFUND_RATE * gas.used + REFUND_LAST

theorem addI64_fits {a b : Int} (room : a.natAbs + b.natAbs < 2 ^ 63) :
    addI64 a b = some (a + b) := by
  unfold addI64 I64_MIN I64_MAX
  rw [if_pos (by omega)]

section Refunds

variable {gas : Gas} {spare fewer cost : Nat} {amount : Int}

theorem Gas.Refundable.mono (refunds : gas.Refundable spare) (le : fewer ≤ spare) :
    gas.Refundable fewer :=
  Nat.le_trans (Nat.add_le_add_left (Nat.mul_le_mul_left _ le) _) refunds

theorem Gas.Refundable.refunded (refunds : gas.Refundable spare) : gas.Refunded :=
  Nat.le_trans (Nat.le_trans (Nat.le_add_right _ _) refunds) (Nat.le_add_right _ _)

theorem Gas.Refundable.charged (refunds : gas.Refundable spare) :
    Gas.Refundable { gas with used := gas.used + cost, allUsedGas := gas.allUsedGas + cost }
      (spare + cost) := by
  unfold Gas.Refundable at refunds ⊢
  rw [Nat.mul_add, Nat.mul_add, ← Nat.add_assoc]
  exact Nat.add_le_add_right refunds _

theorem Gas.Refunded.charged (refunds : gas.Refunded) :
    Gas.Refunded { gas with used := gas.used + cost, allUsedGas := gas.allUsedGas + cost } := by
  refine Nat.le_trans refunds (Nat.add_le_add_right ?_ _)
  exact Nat.mul_le_mul_left _ (Nat.le_add_right _ _)

/-- A refund for which there is gas to spare. -/
theorem Gas.Refundable.recordRefund (sound : gas.Sound) (sane : gas.limit < GAS_SANE)
    (refunds : gas.Refundable spare) (fewer_ : fewer ≤ spare)
    (paid : amount.natAbs + REFUND_RATE * fewer ≤ REFUND_RATE * spare) :
    gas.recordRefund amount = some { gas with refunded := gas.refunded + amount } ∧
      Gas.Refundable { gas with refunded := gas.refunded + amount } fewer := by
  have sum := sound.sum
  have bounded := sound.bounded
  unfold Gas.Refundable REFUND_RATE at *
  unfold GAS_SANE at sane
  constructor
  · unfold Gas.recordRefund
    rw [addI64_fits (by omega)]
    rfl
  · change (gas.refunded + amount).natAbs + 1000 * fewer ≤ 1000 * gas.used
    omega

/-- The refund of a self-destruct. -/
theorem Gas.Refundable.recordLast (sound : gas.Sound) (sane : gas.limit < GAS_SANE)
    (refunds : gas.Refundable 0) (last : amount.natAbs ≤ REFUND_LAST) :
    gas.recordRefund amount = some { gas with refunded := gas.refunded + amount } ∧
      Gas.Refunded { gas with refunded := gas.refunded + amount } := by
  have sum := sound.sum
  have bounded := sound.bounded
  unfold Gas.Refundable REFUND_RATE at refunds
  unfold REFUND_LAST at last
  unfold GAS_SANE at sane
  constructor
  · unfold Gas.recordRefund
    rw [addI64_fits (by omega)]
    rfl
  · change (gas.refunded + amount).natAbs ≤ REFUND_RATE * gas.used + REFUND_LAST
    unfold REFUND_RATE REFUND_LAST
    omega

/-- Gas that comes back is no longer there to cover refunds. -/
theorem Gas.Refundable.eraseCost {left : Nat} (refunds : gas.Refundable (spare + cost))
    (spent : left ≤ cost) (used : left ≤ gas.used) :
    Gas.Refundable { gas with used := gas.used - left, allUsedGas := gas.allUsedGas - left }
      (spare + (cost - left)) := by
  unfold Gas.Refundable REFUND_RATE at *
  change gas.refunded.natAbs + 1000 * (spare + (cost - left)) ≤ 1000 * (gas.used - left)
  omega

end Refunds

/-! The dynamic costs are at least their fixed part. -/

theorem addU64_eq {a b sum : Nat} (fits : addU64 a b = some sum) : sum = a + b := by
  unfold addU64 at fits
  split at fits
  · exact (Option.some.inj fits).symm
  · cases fits

theorem le_of_plus {base cost : Nat} {extra : Option Nat}
    (priced : (do let extra ← extra; addU64 base extra) = some cost) : base ≤ cost := by
  obtain ⟨amount, _, sum⟩ := Option.bind_eq_some_iff.mp priced
  have total := addU64_eq sum
  omega

theorem Gas.logCost_le {n len cost : Nat} (priced : Gas.logCost n len = some cost) :
    Gas.LOG ≤ cost := by
  obtain ⟨data, _, rest⟩ := Option.bind_eq_some_iff.mp priced
  obtain ⟨logged, first, second⟩ := Option.bind_eq_some_iff.mp rest
  have base := addU64_eq first
  have total := addU64_eq second
  omega

theorem Gas.extcodecopyCost_le {spec : SpecId} {len cost : Nat} {isCold : Bool}
    (priced : Gas.extcodecopyCost spec len isCold = some cost) : 20 ≤ cost := by
  have least := le_of_plus priced
  refine Nat.le_trans ?_ least
  unfold COLD_ACCOUNT_ACCESS_COST WARM_STORAGE_READ_COST
  split
  · split <;> omega
  · split <;> omega

/-! Parts of the memory. -/

theorem putSlice_total (memory value : Bytes) (offset : Nat)
    (inside : offset + value.length ≤ memory.length) :
    ∃ edited, Interpreter.putSlice memory offset value = some edited ∧
      edited.length = memory.length := by
  rw [Interpreter.putSlice, if_pos inside]
  exact ⟨_, rfl, Buffer.length_store _ _ _⟩

theorem setMemory_total {memory value : Bytes} {offset : Nat}
    (inside : offset + value.length ≤ memory.length ∨ value = []) :
    ∃ edited, Interpreter.setMemory memory offset value = some edited ∧
      edited.length = memory.length := by
  unfold Interpreter.setMemory
  cases value with
  | nil => exact ⟨memory, rfl, rfl⟩
  | cons byte bytes =>
      refine putSlice_total _ _ _ (inside.resolve_right ?_)
      exact List.cons_ne_nil byte bytes

theorem setData_total {memory data : Bytes} {memoryOffset dataOffset len : Nat}
    (inside : memoryOffset + len ≤ memory.length) (small : memory.length < 2 ^ 63)
    (dataSmall : data.length ≤ ISIZE_MAX) :
    ∃ edited, Interpreter.setData memory memoryOffset dataOffset len data = some edited ∧
      edited.length = memory.length := by
  unfold Interpreter.setData
  by_cases beyond : data.length ≤ dataOffset
  · rw [if_pos beyond]
    exact putSlice_total _ _ _ (by rw [List.length_replicate]; exact inside)
  · rw [if_neg beyond]
    have fits : dataOffset + len ≤ U64_MAX := by
      unfold ISIZE_MAX at dataSmall
      unfold U64_MAX
      omega
    have copies : ((data.take (min (dataOffset + len) data.length)).drop dataOffset).length =
        min (dataOffset + len) data.length - dataOffset := by
      rw [List.length_drop, List.length_take]
      omega
    obtain ⟨copied, put, copiedLength⟩ := putSlice_total memory
      ((data.take (min (dataOffset + len) data.length)).drop dataOffset) memoryOffset
      (by rw [copies]; omega)
    obtain ⟨filled, blanked, filledLength⟩ := putSlice_total copied
      (List.replicate (len - (min (dataOffset + len) data.length - dataOffset)) 0)
      (memoryOffset + (min (dataOffset + len) data.length - dataOffset))
      (by rw [List.length_replicate, copiedLength]; omega)
    refine ⟨filled, ?_, filledLength.trans copiedLength⟩
    rw [addU64, if_pos fits]
    simp only [Option.bind_eq_bind, Option.bind_some, put, blanked]

variable {η : Type}

/-- A contract whose code can be run and whose data fits into memory. -/
structure Contract.Fit (contract : Contract) : Prop where
  code : contract.bytecode.WellFormed
  codeLength : contract.bytecode.len ≤ ISIZE_MAX
  inputLength : contract.input.length ≤ ISIZE_MAX

/-- What holds of an interpreter all the time, inside of its instructions too. -/
structure Interpreter.Fit (ok : η → Prop) (interpreter : Interpreter η) : Prop where
  gas : interpreter.gas.Sound
  sane : interpreter.gas.limit < GAS_SANE
  paid : interpreter.gas.memory = Gas.memoryGas (interpreter.memory.length / 32)
  whole : interpreter.memory.length % 32 = 0
  shallow : interpreter.stack.length ≤ STACK_LIMIT
  range : interpreter.returnRange.1 = U64_MAX ∨
    interpreter.returnRange.1 ≤ interpreter.returnRange.2 ∧
      interpreter.returnRange.2 ≤ interpreter.memory.length
  serving : ok interpreter.host

/-- A request of the host ends well, with an answer as expected. -/
def Served {α : Type} (ok : η → Prop) (act : Act η Empty α) (host : η) (expected : α → Prop) :
    Prop :=
  Act.Ensures act host (fun value next => ok next ∧ expected value) (fun _ _ => True) False

/-- What comes back of the gas of a callee is not more than it got, and what it has used covers
its refunds. -/
def GasReturned (limit : Nat) (gas : Gas) : Prop :=
  ∃ left, gas.remaining = some left ∧ left ≤ limit ∧
    gas.refunded.natAbs ≤ REFUND_RATE * (limit - left) + REFUND_LAST

theorem Gas.Sound.afterCost {gas : Gas} (sound : gas.Sound) (refunded : gas.Refunded)
    (cost : Nat) :
    ∃ next covered, gas.recordCost cost = some (next, covered) ∧ next.Sound ∧ next.Refunded ∧
      next.limit = gas.limit := by
  rcases @Gas.Sound.recordCost gas cost sound with ⟨covered, charged⟩ | ⟨_, refused⟩
  · exact ⟨_, _, charged, sound.charged covered, refunded.charged, rfl⟩
  · exact ⟨_, _, refused, sound, refunded, rfl⟩

theorem Gas.new_refundable (limit : Nat) : (Gas.new limit).Refundable 0 := Nat.le_refl 0

/-- What is left of the gas can be given back. -/
theorem Gas.Sound.returned {gas : Gas} (sound : gas.Sound) (refunded : gas.Refunded) :
    GasReturned gas.limit gas := by
  refine ⟨gas.left, sound.remaining, Nat.sub_le _ _, Nat.le_trans refunded ?_⟩
  apply Nat.add_le_add_right
  apply Nat.mul_le_mul_left
  have sum := sound.sum
  have bounded := sound.bounded
  unfold Gas.left
  omega

/-- What an interpreter that runs at an address expects of its host. In static mode it asks for
nothing that changes the state, and calls in static mode only, without a payment to another. -/
structure Host.Serving (host : Host η) (spec : SpecId) (here : Address) (isStatic : Bool)
    (ok : η → Prop) : Prop where
  prevrandao : ∀ state, ok state → spec.enabled .merge = true →
    ((host.env state).prevrandao).isSome
  loadAccount : ∀ address state, ok state →
    Served ok (host.loadAccount address) state fun _ => True
  blockHash : ∀ number state, ok state → Served ok (host.blockHash number) state fun _ => True
  balance : ∀ address state, ok state → Served ok (host.balance address) state fun _ => True
  code : ∀ address state, ok state → Served ok (host.code address) state fun answer =>
    ∀ code isCold, answer = some (code, isCold) → code.bytecode.length ≤ ISIZE_MAX
  codeHash : ∀ address state, ok state → Served ok (host.codeHash address) state fun _ => True
  sload : ∀ key state, ok state → Served ok (host.sload here key) state fun _ => True
  sstore : isStatic = false → ∀ key value state, ok state →
    Served ok (host.sstore here key value) state fun _ => True
  log : isStatic = false → ∀ topics data state, ok state →
    Served ok (host.log here topics data) state fun _ => True
  selfdestruct : isStatic = false → ∀ target state, ok state →
    Served ok (host.selfdestruct here target) state fun _ => True
  create : isStatic = false → ∀ inputs state, ok state → inputs.caller = here →
    inputs.gasLimit < GAS_SANE → inputs.initCode.length ≤ ISIZE_MAX →
    Served ok (host.create inputs) state fun answer => GasReturned inputs.gasLimit answer.2.2.1
  call : ∀ inputs state, ok state → inputs.transfer.source = here →
    (inputs.context.address = here ∨ inputs.context.address = inputs.contract) →
    inputs.gasLimit < GAS_SANE → inputs.input.length ≤ ISIZE_MAX →
    (isStatic = true → inputs.isStatic = true ∧
      (inputs.transfer.value = 0 ∨ inputs.transfer.target = here)) →
    Served ok (host.call inputs) state fun answer => GasReturned inputs.gasLimit answer.2.1

/-- What a part of an instruction may have done since its start, apart from moving the
instruction pointer: it has used gas, `least` of it at the least. -/
structure Moved (ok : η → Prop) (start : Interpreter η) (least : Nat) (now : Interpreter η) :
    Prop where
  fit : now.Fit ok
  pointer : now.instructionPointer = start.instructionPointer
  contract : now.contract = start.contract
  isStatic : now.isStatic = start.isStatic
  limit : now.gas.limit = start.gas.limit
  used : start.gas.used + least ≤ now.gas.used
  refunds : now.gas.Refundable least

/-- Where an instruction stops. -/
structure Halted (ok : η → Prop) (start now : Interpreter η) : Prop where
  fit : now.Fit ok
  contract : now.contract = start.contract
  isStatic : now.isStatic = start.isStatic
  limit : now.gas.limit = start.gas.limit
  refunded : now.gas.Refunded

theorem Moved.halted {ok : η → Prop} {start now : Interpreter η} {least : Nat}
    (moved : Moved ok start least now) : Halted ok start now :=
  ⟨moved.fit, moved.contract, moved.isStatic, moved.limit, moved.refunds.refunded⟩

theorem Interpreter.Fit.start {ok : η → Prop} {interpreter : Interpreter η}
    (fit : interpreter.Fit ok) (refunds : interpreter.gas.Refundable 0) :
    Moved ok interpreter 0 interpreter :=
  ⟨fit, rfl, rfl, rfl, rfl, Nat.le_refl _, refunds⟩

/-- There is room behind the memory that can be paid for. -/
theorem Interpreter.Fit.memory_room {ok : η → Prop} {interpreter : Interpreter η}
    (fit : interpreter.Fit ok) : interpreter.memory.length + 33 ≤ ISIZE_MAX := by
  have sum := fit.gas.sum
  have bounded := fit.gas.bounded
  have sane := fit.sane
  have paid := fit.paid
  have whole := fit.whole
  have words : 3 * (interpreter.memory.length / 32) < GAS_SANE := memoryGas_linear (by omega)
  unfold GAS_SANE at words
  unfold ISIZE_MAX
  omega

theorem Interpreter.Fit.memory_lt {ok : η → Prop} {interpreter : Interpreter η}
    (fit : interpreter.Fit ok) : interpreter.memory.length < 2 ^ 63 := by
  have room := fit.memory_room
  unfold ISIZE_MAX at room
  omega

theorem Moved.mono {ok : η → Prop} {start now : Interpreter η} {least fewer : Nat}
    (moved : Moved ok start least now) (le : fewer ≤ least) : Moved ok start fewer now :=
  { moved with
    used := Nat.le_trans (Nat.add_le_add_left le _) moved.used
    refunds := moved.refunds.mono le }

/-- Another stack that is not too deep. -/
theorem Moved.withStack {ok : η → Prop} {start now : Interpreter η} {least : Nat}
    {stack : List U256} (moved : Moved ok start least now)
    (shallow : stack.length ≤ STACK_LIMIT) :
    Moved ok start least { now with stack := stack } :=
  { moved with fit := { moved.fit with shallow := shallow } }

/-- An instruction that does not panic, and has moved that much if it goes on. -/
def Moves (ok : η → Prop) (start : Interpreter η) (least : Nat) (act : Op η Unit)
    (now : Interpreter η) : Prop :=
  Act.Ensures act now (fun _ => Moved ok start least) (fun _ => Halted ok start) False

namespace Instruction

open Interpreter

/-! Each part of an instruction, with what is left to show of the rest. -/

section Parts

variable {ok : η → Prop} {start now : Interpreter η} {least : Nat} {α : Type}
  {returns : α → Interpreter η → Prop} {after : Unit → Interpreter η → Prop}

theorem stop_ensures {reason : InstructionResult} (moved : Moved ok start least now) :
    Act.Ensures (Act.stop reason : Op η α) now returns (fun _ => Halted ok start) False :=
  Act.ensures_stop moved.halted

theorem okOr_ensures {option : Option α} {reason : InstructionResult}
    (moved : Moved ok start least now)
    (rest : ∀ value, option = some value → returns value now) :
    Act.Ensures (Act.okOr option reason : Op η α) now returns (fun _ => Halted ok start) False := by
  cases option with
  | none => exact moved.halted
  | some value => exact rest value rfl

theorem check_ensures {enabled : Bool} (moved : Moved ok start least now)
    (rest : after () now) :
    Act.Ensures (check enabled) now after (fun _ => Halted ok start) False := by
  cases enabled with
  | false => exact moved.halted
  | true => exact rest

theorem checkStaticcall_ensures (moved : Moved ok start least now)
    (rest : start.isStatic = false → after () now) :
    Act.Ensures checkStaticcall now after (fun _ => Halted ok start) False := by
  refine Act.Ensures.bind (Act.ensures_get ?_)
  have same := moved.isStatic
  cases mode : now.isStatic with
  | true => exact moved.halted
  | false => exact rest (same.symm.trans mode)

theorem charge_ensures {cost : Nat} (moved : Moved ok start least now)
    (rest : ∀ next, Moved ok start (least + cost) next → next.stack = now.stack →
      next.memory = now.memory → after () next) :
    Act.Ensures (charge cost) now after (fun _ => Halted ok start) False := by
  refine Act.Ensures.bind (Act.ensures_get ?_)
  rcases moved.fit.gas.recordCost with ⟨covered, recorded⟩ | ⟨_, recorded⟩
  · rw [recorded]
    refine rest _ ?_ rfl rfl
    have used := moved.used
    refine { moved with
      fit := { moved.fit with gas := moved.fit.gas.charged covered }
      used := ?_
      refunds := moved.refunds.charged }
    change start.gas.used + (least + cost) ≤ now.gas.used + cost
    omega
  · rw [recorded]
    exact moved.halted

theorem gasOrFail_ensures {cost : Option Nat} (moved : Moved ok start least now)
    (rest : ∀ next amount, cost = some amount → Moved ok start (least + amount) next →
      next.stack = now.stack → next.memory = now.memory → after () next) :
    Act.Ensures (gasOrFail cost) now after (fun _ => Halted ok start) False := by
  cases cost with
  | none => exact moved.halted
  | some amount => exact charge_ensures moved fun next => rest next amount rfl

theorem refund_ensures {amount : Int} (fewer : Nat) (moved : Moved ok start least now)
    (le : fewer ≤ least)
    (paid : amount.natAbs + REFUND_RATE * fewer ≤ REFUND_RATE * least)
    (rest : ∀ next, Moved ok start fewer next → next.memory = now.memory → after () next) :
    Act.Ensures (refund amount) now after (fun _ => Halted ok start) False := by
  have gas := moved.fit.gas
  obtain ⟨recorded, refunds⟩ := moved.refunds.recordRefund gas moved.fit.sane le paid
  refine Act.Ensures.bind (Act.ensures_get ?_)
  rw [show now.gas.gasRefund amount = _ from recorded, Act.unwrap_some, pure_bind]
  refine Act.ensures_modify (rest _ ?_ rfl)
  exact { moved.mono le with
    fit := { moved.fit with gas := ⟨gas.limit, gas.sum, gas.bounded⟩ }
    refunds := refunds }

/-- The refund of a self-destruct, before it is paid for. -/
theorem lastRefund_ensures {amount : Int} (moved : Moved ok start least now)
    (last : amount.natAbs ≤ REFUND_LAST)
    (rest : ∀ next, Halted ok start next → after () next) :
    Act.Ensures (refund amount) now after (fun _ => Halted ok start) False := by
  have gas := moved.fit.gas
  obtain ⟨recorded, refunded⟩ :=
    (moved.refunds.mono (Nat.zero_le _)).recordLast gas moved.fit.sane last
  refine Act.Ensures.bind (Act.ensures_get ?_)
  rw [show now.gas.gasRefund amount = _ from recorded, Act.unwrap_some, pure_bind]
  refine Act.ensures_modify (rest _ ?_)
  exact { moved.halted with
    fit := { moved.fit with gas := ⟨gas.limit, gas.sum, gas.bounded⟩ }
    refunded := refunded }

/-- What pays at the very end. -/
theorem charge_halts {cost : Nat} {reason : InstructionResult} (halted : Halted ok start now) :
    Act.Ensures (do charge cost; Act.stop reason : Op η α) now returns
      (fun _ => Halted ok start) False := by
  refine Act.Ensures.bind (Act.Ensures.bind (Act.ensures_get ?_))
  rcases halted.fit.gas.recordCost with ⟨covered, recorded⟩ | ⟨_, recorded⟩
  · rw [recorded]
    exact { halted with
      fit := { halted.fit with gas := halted.fit.gas.charged covered }
      refunded := halted.refunded.charged }
  · rw [recorded]
    exact halted

theorem popMany_ensures {count : Nat} {returns : List U256 → Interpreter η → Prop}
    (moved : Moved ok start least now)
    (rest : ∀ values next, values.length = count → Moved ok start least next →
      next.memory = now.memory → returns values next) :
    Act.Ensures (popMany count) now returns (fun _ => Halted ok start) False := by
  unfold Act.Ensures popMany
  by_cases few : now.stack.length < count
  · rw [if_pos few]
    exact moved.halted
  · have shallow := moved.fit.shallow
    rw [if_neg few, if_neg (Nat.not_lt.mpr shallow)]
    refine rest _ _ ?_ (moved.withStack ?_) rfl
    · rw [List.length_take]
      omega
    · rw [List.length_drop]
      omega

theorem pop1_ensures {returns : U256 → Interpreter η → Prop} (moved : Moved ok start least now)
    (rest : ∀ value next, Moved ok start least next → next.memory = now.memory →
      returns value next) :
    Act.Ensures pop1 now returns (fun _ => Halted ok start) False := by
  refine Act.Ensures.bind (popMany_ensures moved fun values next count moved memory => ?_)
  match values, count with
  | [a], _ => exact rest a next moved memory

theorem pop2_ensures {returns : U256 × U256 → Interpreter η → Prop}
    (moved : Moved ok start least now)
    (rest : ∀ values next, Moved ok start least next → next.memory = now.memory →
      returns values next) :
    Act.Ensures pop2 now returns (fun _ => Halted ok start) False := by
  refine Act.Ensures.bind (popMany_ensures moved fun values next count moved memory => ?_)
  match values, count with
  | [a, b], _ => exact rest (a, b) next moved memory

theorem pop3_ensures {returns : U256 × U256 × U256 → Interpreter η → Prop}
    (moved : Moved ok start least now)
    (rest : ∀ values next, Moved ok start least next → next.memory = now.memory →
      returns values next) :
    Act.Ensures pop3 now returns (fun _ => Halted ok start) False := by
  refine Act.Ensures.bind (popMany_ensures moved fun values next count moved memory => ?_)
  match values, count with
  | [a, b, c], _ => exact rest (a, b, c) next moved memory

theorem pop4_ensures {returns : U256 × U256 × U256 × U256 → Interpreter η → Prop}
    (moved : Moved ok start least now)
    (rest : ∀ values next, Moved ok start least next → next.memory = now.memory →
      returns values next) :
    Act.Ensures pop4 now returns (fun _ => Halted ok start) False := by
  refine Act.Ensures.bind (popMany_ensures moved fun values next count moved memory => ?_)
  match values, count with
  | [a, b, c, d], _ => exact rest (a, b, c, d) next moved memory

theorem popAddress_ensures {returns : Address → Interpreter η → Prop}
    (moved : Moved ok start least now)
    (rest : ∀ value next, Moved ok start least next → next.memory = now.memory →
      returns value next) :
    Act.Ensures popAddress now returns (fun _ => Halted ok start) False :=
  Act.Ensures.bind (pop1_ensures moved fun word => rest (addressOf word))

theorem popTop1_ensures {returns : U256 → Interpreter η → Prop} (moved : Moved ok start least now)
    (rest : ∀ value, now.stack ≠ [] → returns value now) :
    Act.Ensures popTop1 now returns (fun _ => Halted ok start) False := by
  unfold Act.Ensures popTop1
  cases stack : now.stack with
  | nil => exact moved.halted
  | cons op1 below => exact rest op1 (stack ▸ List.cons_ne_nil op1 below)

theorem popTop2_ensures {returns : U256 × U256 → Interpreter η → Prop}
    (moved : Moved ok start least now)
    (rest : ∀ values next, Moved ok start least next → next.stack ≠ [] →
      returns values next) :
    Act.Ensures popTop2 now returns (fun _ => Halted ok start) False := by
  unfold Act.Ensures popTop2
  have shallow := moved.fit.shallow
  match stack : now.stack with
  | [] => exact moved.halted
  | [_] => exact moved.halted
  | op1 :: op2 :: below =>
      rw [stack] at shallow
      exact rest (op1, op2) _ (moved.withStack (Nat.le_of_succ_le shallow)) (List.cons_ne_nil _ _)

theorem popTop3_ensures {returns : U256 × U256 × U256 → Interpreter η → Prop}
    (moved : Moved ok start least now)
    (rest : ∀ values next, Moved ok start least next → next.stack ≠ [] →
      returns values next) :
    Act.Ensures popTop3 now returns (fun _ => Halted ok start) False := by
  unfold Act.Ensures popTop3
  have shallow := moved.fit.shallow
  match stack : now.stack with
  | [] => exact moved.halted
  | [_] => exact moved.halted
  | [_, _] => exact moved.halted
  | op1 :: op2 :: op3 :: below =>
      rw [stack] at shallow
      have fewer : (op3 :: below).length ≤ STACK_LIMIT :=
        Nat.le_of_succ_le (Nat.le_of_succ_le shallow)
      exact rest (op1, op2, op3) _ (moved.withStack fewer) (List.cons_ne_nil _ _)

theorem setTop_ensures {value : U256} (moved : Moved ok start least now)
    (some_ : now.stack ≠ []) (rest : ∀ next, Moved ok start least next → after () next) :
    Act.Ensures (setTop value) now after (fun _ => Halted ok start) False := by
  unfold Act.Ensures setTop
  have shallow := moved.fit.shallow
  cases stack : now.stack with
  | nil => exact absurd stack some_
  | cons op1 below =>
      rw [stack] at shallow
      exact rest _ (moved.withStack shallow)

theorem push_ensures {value : U256} (moved : Moved ok start least now)
    (rest : ∀ next, Moved ok start least next → next.memory = now.memory → after () next) :
    Act.Ensures (push value) now after (fun _ => Halted ok start) False := by
  unfold Act.Ensures push
  by_cases full : STACK_LIMIT < now.stack.length + 1
  · rw [if_pos full]
    exact moved.halted
  · rw [if_neg full]
    exact rest _ (moved.withStack (Nat.le_of_not_lt full)) rfl

theorem nextMultipleOf32_eq {x newSize : Nat} (fits : nextMultipleOf32 x = some newSize) :
    x ≤ newSize ∧ newSize % 32 = 0 ∧ newSize ≤ U64_MAX := by
  unfold nextMultipleOf32 addU64 at fits
  split at fits
  · cases fits
    omega
  · cases fits

/-- The memory that is there afterwards has been paid for, and holds the range. -/
theorem memoryResize_ensures {offset len : Nat} (moved : Moved ok start least now)
    (rest : ∀ next, Moved ok start least next → next.stack = now.stack →
      now.memory.length ≤ next.memory.length → offset + len ≤ next.memory.length →
      after () next) :
    Act.Ensures (memoryResize offset len) now after (fun _ => Halted ok start) False := by
  refine Act.Ensures.bind (okOr_ensures moved fun newSize sized => ?_)
  obtain ⟨covers, whole, _⟩ := nextMultipleOf32_eq sized
  have paid := moved.fit.paid
  have oldWhole := moved.fit.whole
  have sound := moved.fit.gas
  have sane := moved.fit.sane
  have limit := sound.limit
  have sum := sound.sum
  have bounded := sound.bounded
  -- a saturated sum is more than the memory that is there
  have inside : ∀ size, size < 2 ^ 63 → newSize ≤ size → offset + len ≤ size := by
    intro size small le
    unfold saturatingAdd at covers
    have max : U64_MAX = 2 ^ 64 - 1 := rfl
    omega
  refine Act.Ensures.bind (Act.ensures_get ?_)
  by_cases grows : now.memory.length < newSize
  · rw [if_pos grows]
    have oldPaid : Gas.memoryGas (now.memory.length / 32) < GAS_SANE := by omega
    cases recorded : now.gas.recordMemory (Gas.memoryGas (newSize / 32)) with
    | mk gas covered =>
        cases covered with
        | false => exact moved.halted
        | true =>
            have more : now.gas.memory < Gas.memoryGas (newSize / 32) := by
              by_contra cheap
              have small : Gas.memoryGas (newSize / 32) < GAS_SANE := by omega
              have more : now.memory.length / 32 < newSize / 32 := by omega
              have larger := memoryGas_lt more small
              omega
            obtain ⟨same, sound_, le⟩ := sound.recordMemory more recorded
            have words : 32 * (newSize / 32) < 2 ^ 63 :=
              memoryGas_small (Nat.lt_of_le_of_lt le sane)
            have small : newSize < 2 ^ 63 := by omega
            have grown : ((now.memory ++
                List.replicate (newSize - now.memory.length) 0).take newSize).length =
                newSize := by
              rw [List.length_take, List.length_append, List.length_replicate]
              omega
            refine Act.Ensures.bind (Act.ensures_modify ?_)
            unfold Act.Ensures resize
            rw [if_neg (by unfold ISIZE_MAX; omega)]
            subst same
            refine rest _ ?_ rfl ?_ ?_
            · refine { moved with
                fit := { moved.fit with
                  gas := sound_
                  paid := ?_
                  whole := ?_
                  range := ?_ } }
              · change Gas.memoryGas (newSize / 32) = Gas.memoryGas (List.length _ / 32)
                rw [grown]
              · rw [grown]
                exact whole
              · refine moved.fit.range.imp_right fun ⟨ordered, within⟩ => ⟨ordered, ?_⟩
                change now.returnRange.2 ≤ List.length _
                rw [grown]
                omega
            · rw [grown]
              omega
            · rw [grown]
              exact inside newSize small (Nat.le_refl _)
  · rw [if_neg grows]
    exact rest now moved rfl (Nat.le_refl _)
      (inside now.memory.length moved.fit.memory_lt (Nat.le_of_not_lt grows))

theorem memorySlice_ensures {offset size : Nat} {returns : Bytes → Interpreter η → Prop}
    (inside : offset + size ≤ now.memory.length)
    (rest : ∀ bytes : Bytes, bytes.length = size → returns bytes now) :
    Act.Ensures (memorySlice offset size) now returns (fun _ => Halted ok start) False := by
  refine Act.Ensures.bind (Act.ensures_get ?_)
  rw [getSlice, if_pos inside]
  exact rest _ (Buffer.length_load _ _ _)

theorem editMemory_ensures {edit : Bytes → Option Bytes} (moved : Moved ok start least now)
    (edits : ∃ memory, edit now.memory = some memory ∧ memory.length = now.memory.length)
    (rest : ∀ next, Moved ok start least next → after () next) :
    Act.Ensures (editMemory edit) now after (fun _ => Halted ok start) False := by
  obtain ⟨memory, edited, length⟩ := edits
  refine Act.Ensures.bind (Act.ensures_get ?_)
  rw [edited]
  refine rest _ { moved with fit := { moved.fit with paid := ?_, whole := ?_, range := ?_ } }
  · change now.gas.memory = Gas.memoryGas (memory.length / 32)
    rw [length]
    exact moved.fit.paid
  · change memory.length % 32 = 0
    rw [length]
    exact moved.fit.whole
  · change _ ∨ _ ≤ _ ∧ _ ≤ memory.length
    rw [length]
    exact moved.fit.range

theorem onHost_ensures {act : Act η Empty α} {expected : α → Prop}
    (moved : Moved ok start least now) (served : Served ok act now.host expected)
    (rest : ∀ value next, expected value → Moved ok start least next → next.stack = now.stack →
      next.memory = now.memory → returns value next) :
    Act.Ensures (onHost act) now returns (fun _ => Halted ok start) False := by
  unfold Served Act.Ensures at served
  unfold Act.Ensures onHost
  cases answered : act now.host with
  | returned value host =>
      rw [answered] at served
      exact rest value _ served.2 { moved with fit := { moved.fit with serving := served.1 } }
        rfl rfl
  | stopped reason host => cases reason
  | fault =>
      rw [answered] at served
      exact served

theorem answer_ensures {act : Act η Empty (Option α)} {expected : Option α → Prop}
    (moved : Moved ok start least now) (served : Served ok act now.host expected)
    (rest : ∀ value next, expected (some value) → Moved ok start least next →
      next.stack = now.stack → next.memory = now.memory → returns value next) :
    Act.Ensures (answer act) now returns (fun _ => Halted ok start) False := by
  refine Act.Ensures.bind
    (onHost_ensures moved served fun option next holds moved stack memory => ?_)
  refine okOr_ensures moved fun value found => ?_
  rw [found] at holds
  exact rest value next holds moved stack memory

end Parts

end Instruction

end Revm
