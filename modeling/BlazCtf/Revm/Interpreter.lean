import BlazCtf.Lib.Machine
import BlazCtf.Lib.Buffer
import BlazCtf.Revm.Analysis
import BlazCtf.Revm.Words

set_option autoImplicit false

namespace Revm

open Evm Machine

def STACK_LIMIT : Nat := 1024

def CALL_STACK_LIMIT : Nat := 1024

def MAX_CODE_SIZE : Nat := 0x6000

def MAX_INITCODE_SIZE : Nat := 2 * MAX_CODE_SIZE

/-- The largest allocation, `isize::MAX`. -/
def ISIZE_MAX : Nat := 2 ^ 63 - 1

/-- What the instructions read of the environment. -/
structure Env where
  chainId : U256
  limitContractCodeSize : Option Nat
  number : U256
  coinbase : Address
  timestamp : U256
  difficulty : U256
  prevrandao : Option U256
  basefee : U256
  gasLimit : U256
  caller : Address
  gasPrice : U256
  gasPriorityFee : Option U256

def Env.effectiveGasPrice (env : Env) : U256 :=
  match env.gasPriorityFee with
  | none => env.gasPrice
  | some fee => if env.gasPrice ≤ env.basefee + fee then env.gasPrice else env.basefee + fee

inductive CallScheme where
  | call
  | callCode
  | delegateCall
  | staticCall
  deriving DecidableEq

structure CallContext where
  address : Address
  caller : Address
  codeAddress : Address
  apparentValue : U256
  scheme : CallScheme

structure Transfer where
  source : Address
  target : Address
  value : U256

structure CallInputs where
  contract : Address
  transfer : Transfer
  input : Bytes
  gasLimit : Nat
  context : CallContext
  isStatic : Bool

inductive CreateScheme where
  | create
  | create2 (salt : U256)
  deriving DecidableEq

structure CreateInputs where
  caller : Address
  scheme : CreateScheme
  value : U256
  initCode : Bytes
  gasLimit : Nat

structure HostSelfDestruct where
  hadValue : Bool
  targetExists : Bool
  isCold : Bool
  previouslyDestroyed : Bool

/-- What the interpreter asks of its host. A call of the host may panic, but does not stop. -/
structure Host (η : Type) where
  env : η → Env
  loadAccount : Address → Act η Empty (Option (Bool × Bool))
  blockHash : U256 → Act η Empty (Option U256)
  balance : Address → Act η Empty (Option (U256 × Bool))
  code : Address → Act η Empty (Option (Bytecode × Bool))
  codeHash : Address → Act η Empty (Option (U256 × Bool))
  sload : Address → U256 → Act η Empty (Option (U256 × Bool))
  sstore : Address → U256 → U256 → Act η Empty (Option (U256 × U256 × U256 × Bool))
  log : Address → List U256 → Bytes → Act η Empty Unit
  selfdestruct : Address → Address → Act η Empty (Option HostSelfDestruct)
  create : CreateInputs → Act η Empty (InstructionResult × Option Address × Gas × Bytes)
  call : CallInputs → Act η Empty (InstructionResult × Gas × Bytes)

/-- An interpreter, with the host that its functions get beside it. The top of the stack comes
first. -/
structure Interpreter (η : Type) where
  instructionPointer : Nat
  gas : Gas
  memory : Bytes
  stack : List U256
  returnDataBuffer : Bytes
  returnRange : Nat × Nat
  isStatic : Bool
  contract : Contract
  host : η

/-- An instruction. To stop is to leave another `instruction_result` than `Continue`. -/
abbrev Op (η : Type) := Act (Interpreter η) InstructionResult

variable {η : Type}

namespace Interpreter

def new (contract : Contract) (gasLimit : Nat) (isStatic : Bool) (host : η) : Interpreter η where
  instructionPointer := 0
  gas := Gas.new gasLimit
  memory := []
  stack := []
  returnDataBuffer := []
  returnRange := (0, 0)
  isStatic := isStatic
  contract := contract
  host := host

/-- The bytes of memory in a range, if it is inside. -/
def getSlice (memory : Bytes) (offset size : Nat) : Option Bytes :=
  if offset + size ≤ memory.length then some (Buffer.load memory offset size) else none

/-- `data[offset..].copy_from_slice(value)`, if that is inside. -/
def putSlice (memory : Bytes) (offset : Nat) (value : Bytes) : Option Bytes :=
  if offset + value.length ≤ memory.length then some (Buffer.store memory offset value) else none

/-- `Memory::set` -/
def setMemory (memory : Bytes) (offset : Nat) (value : Bytes) : Option Bytes :=
  if value.isEmpty then some memory else putSlice memory offset value

/-- `Memory::set_data`. `None` for a panic, that of `data_offset + len` too. -/
def setData (memory : Bytes) (memoryOffset dataOffset len : Nat) (data : Bytes) :
    Option Bytes :=
  if data.length ≤ dataOffset then putSlice memory memoryOffset (List.replicate len 0)
  else do
    let wanted ← addU64 dataOffset len
    let dataEnd := min wanted data.length
    let copied ← putSlice memory memoryOffset ((data.take dataEnd).drop dataOffset)
    putSlice copied (memoryOffset + (dataEnd - dataOffset))
      (List.replicate (len - (dataEnd - dataOffset)) 0)

def nextMultipleOf32 (x : Nat) : Option Nat := addU64 x ((32 - x % 32) % 32)

/-- `None` where slicing panics. -/
def returnValue (interpreter : Interpreter η) : Option Bytes :=
  if interpreter.returnRange.1 = U64_MAX then some []
  else do
    let size ← subU64 interpreter.returnRange.2 interpreter.returnRange.1
    getSlice interpreter.memory interpreter.returnRange.1 size

end Interpreter

namespace Instruction

open Interpreter

/-! The macros. -/

def onHost {α : Type} (act : Act η Empty α) : Op η α := fun interpreter =>
  match act interpreter.host with
  | .returned value host => .returned value { interpreter with host := host }
  | .fault => .fault

def checkStaticcall : Op η Unit := do
  let interpreter ← Act.get
  if interpreter.isStatic then Act.stop .stateChangeDuringStaticCall else pure ()

def check (enabled : Bool) : Op η Unit :=
  if enabled then pure () else Act.stop .notActivated

/-- `gas!` -/
def charge (cost : Nat) : Op η Unit := do
  let interpreter ← Act.get
  let (gas, covered) ← Act.unwrap (interpreter.gas.recordCost cost)
  if covered then Act.modify fun interpreter => { interpreter with gas := gas }
  else Act.stop .outOfGas

def gasOrFail (cost : Option Nat) : Op η Unit :=
  match cost with
  | some cost => charge cost
  | none => Act.stop .outOfGas

/-- `refund!` -/
def refund (amount : Int) : Op η Unit := do
  let interpreter ← Act.get
  let gas ← Act.unwrap (interpreter.gas.gasRefund amount)
  Act.modify fun interpreter => { interpreter with gas := gas }

/-- `memory.resize(new_size)`, which panics above the largest allocation -/
def resize (newSize : Nat) : Op η Unit := fun interpreter =>
  if ISIZE_MAX < newSize then .fault
  else
    .returned () { interpreter with
      memory := (interpreter.memory ++
        List.replicate (newSize - interpreter.memory.length) 0).take newSize }

def memoryResize (offset len : Nat) : Op η Unit := do
  let newSize ← Act.okOr (nextMultipleOf32 (saturatingAdd offset len)) .memoryOOG
  let interpreter ← Act.get
  if interpreter.memory.length < newSize then
    let (gas, covered) := interpreter.gas.recordMemory (Gas.memoryGas (newSize / 32))
    if covered then
      Act.modify fun interpreter => { interpreter with gas := gas }
      resize newSize
    else Act.stop .memoryLimitOOG
  else pure ()

/-- `pop!`, for as many values as are asked for. `pop_unsafe` and the others read them once
`set_len` has lowered the length, behind the end of the vector, which its language does not allow;
here the words are still there, and only a read outside of the allocation is undefined. -/
def popMany (count : Nat) : Op η (List U256) := fun interpreter =>
  if interpreter.stack.length < count then .stopped .stackUnderflow interpreter
  else if STACK_LIMIT < interpreter.stack.length then .fault
  else
    .returned (interpreter.stack.take count)
      { interpreter with stack := interpreter.stack.drop count }

def pop1 : Op η U256 := do
  let values ← popMany 1
  match values with
  | [a] => return a
  | _ => Act.fault

def pop2 : Op η (U256 × U256) := do
  let values ← popMany 2
  match values with
  | [a, b] => return (a, b)
  | _ => Act.fault

def pop3 : Op η (U256 × U256 × U256) := do
  let values ← popMany 3
  match values with
  | [a, b, c] => return (a, b, c)
  | _ => Act.fault

def pop4 : Op η (U256 × U256 × U256 × U256) := do
  let values ← popMany 4
  match values with
  | [a, b, c, d] => return (a, b, c, d)
  | _ => Act.fault

def addressOf (word : U256) : Address := Fin.ofNat (2 ^ 160) word.toNat

def wordOf (address : Address) : U256 := BitVec.ofNat 256 address.val

def popAddress : Op η Address := do
  let word ← pop1
  return addressOf word

/-- `pop_top!`: all but the last of the operands are popped, the last one is to be replaced. -/
def popTop1 : Op η U256 := fun interpreter =>
  match interpreter.stack with
  | op1 :: _ => .returned op1 interpreter
  | _ => .stopped .stackUnderflow interpreter

def popTop2 : Op η (U256 × U256) := fun interpreter =>
  match interpreter.stack with
  | op1 :: op2 :: rest => .returned (op1, op2) { interpreter with stack := op2 :: rest }
  | _ => .stopped .stackUnderflow interpreter

def popTop3 : Op η (U256 × U256 × U256) := fun interpreter =>
  match interpreter.stack with
  | op1 :: op2 :: op3 :: rest =>
      .returned (op1, op2, op3) { interpreter with stack := op3 :: rest }
  | _ => .stopped .stackUnderflow interpreter

/-- The assignment to the top that `pop_top!` left. -/
def setTop (value : U256) : Op η Unit := fun interpreter =>
  match interpreter.stack with
  | _ :: rest => .returned () { interpreter with stack := value :: rest }
  | [] => .fault

def push (value : U256) : Op η Unit := fun interpreter =>
  if STACK_LIMIT < interpreter.stack.length + 1 then .stopped .stackOverflow interpreter
  else .returned () { interpreter with stack := value :: interpreter.stack }

def asUsizeOrFail (value : U256) (reason : InstructionResult) : Op η Nat :=
  Act.okOr (asUsize value) reason

/-- `memory.get_slice(offset, size)` -/
def memorySlice (offset size : Nat) : Op η Bytes := do
  let interpreter ← Act.get
  Act.unwrap (getSlice interpreter.memory offset size)

/-- A change of the memory that may panic. -/
def editMemory (edit : Bytes → Option Bytes) : Op η Unit := do
  let interpreter ← Act.get
  let memory ← Act.unwrap (edit interpreter.memory)
  Act.modify fun interpreter => { interpreter with memory := memory }

def fromBool (condition : Bool) : U256 := if condition then 1 else 0

/-! arithmetic.rs and bitwise.rs -/

/-- An instruction of a fixed cost that replaces two operands by a word. -/
def binary (cost : Nat) (word : U256 → U256 → U256) : Op η Unit := do
  charge cost
  let (op1, op2) ← popTop2
  setTop (word op1 op2)

/-- An instruction of a fixed cost that replaces its operand by a word. -/
def unary (cost : Nat) (word : U256 → U256) : Op η Unit := do
  charge cost
  let op1 ← popTop1
  setTop (word op1)

def wrappedAdd : Op η Unit := binary Gas.VERYLOW fun op1 op2 => op1 + op2

def wrappingMul : Op η Unit := binary Gas.LOW fun op1 op2 => op1 * op2

def wrappingSub : Op η Unit := binary Gas.VERYLOW fun op1 op2 => op1 - op2

def div : Op η Unit := binary Gas.LOW fun op1 op2 => if op2 = 0 then 0 else op1 / op2

def sdiv : Op η Unit := binary Gas.LOW i256Div

def rem : Op η Unit := binary Gas.LOW fun op1 op2 => if op2 = 0 then 0 else op1 % op2

def smod : Op η Unit := do
  charge Gas.LOW
  let (op1, op2) ← popTop2
  if op2 ≠ 0 then
    let word ← Act.unwrap (i256Mod op1 op2)
    setTop word
  else pure ()

def addmod : Op η Unit := do
  charge Gas.MID
  let (op1, op2, op3) ← popTop3
  setTop (addMod op1 op2 op3)

def mulmod : Op η Unit := do
  charge Gas.MID
  let (op1, op2, op3) ← popTop3
  setTop (mulMod op1 op2 op3)

def evalExp (spec : SpecId) : Op η Unit := do
  let (op1, op2) ← popTop2
  let cost ← Act.unwrap (expCost spec op2)
  gasOrFail cost
  setTop (wrappingPow op1 op2)

def signextend : Op η Unit := binary Gas.LOW signExtendWord

def lt : Op η Unit := binary Gas.VERYLOW fun op1 op2 => fromBool (decide (op1 < op2))

def gt : Op η Unit := binary Gas.VERYLOW fun op1 op2 => fromBool (decide (op2 < op1))

def slt : Op η Unit := binary Gas.VERYLOW fun op1 op2 => fromBool (i256Cmp op1 op2 == .lt)

def sgt : Op η Unit := binary Gas.VERYLOW fun op1 op2 => fromBool (i256Cmp op1 op2 == .gt)

def eq : Op η Unit := binary Gas.VERYLOW fun op1 op2 => fromBool (op1 == op2)

def iszero : Op η Unit := unary Gas.VERYLOW fun op1 => fromBool (op1 == 0)

def bitand : Op η Unit := binary Gas.VERYLOW fun op1 op2 => op1 &&& op2

def bitor : Op η Unit := binary Gas.VERYLOW fun op1 op2 => op1 ||| op2

def bitxor : Op η Unit := binary Gas.VERYLOW fun op1 op2 => op1 ^^^ op2

def not : Op η Unit := unary Gas.VERYLOW fun op1 => ~~~op1

def byte : Op η Unit := binary Gas.VERYLOW byteWord

def shl (spec : SpecId) : Op η Unit := do
  check (spec.enabled .constantinople)
  binary Gas.VERYLOW fun op1 op2 => op2 <<< asU64Saturated op1

def shr (spec : SpecId) : Op η Unit := do
  check (spec.enabled .constantinople)
  binary Gas.VERYLOW fun op1 op2 => op2 >>> asU64Saturated op1

def sar (spec : SpecId) : Op η Unit := do
  check (spec.enabled .constantinople)
  binary Gas.VERYLOW sarWord

/-! system.rs -/

def sha3 (keccak256 : Bytes → U256) : Op η Unit := do
  let (start, len) ← pop2
  let len ← asUsizeOrFail len .invalidOperandOOG
  gasOrFail (Gas.sha3Cost len)
  if len = 0 then push KECCAK_EMPTY
  else
    let start ← asUsizeOrFail start .invalidOperandOOG
    memoryResize start len
    let bytes ← memorySlice start len
    push (keccak256 bytes)

/-- An instruction of a fixed cost that pushes a word of the interpreter. -/
def pushed (cost : Nat) (word : Interpreter η → U256) : Op η Unit := do
  charge cost
  let interpreter ← Act.get
  push (word interpreter)

def address : Op η Unit := pushed Gas.BASE fun interpreter => wordOf interpreter.contract.address

def caller : Op η Unit := pushed Gas.BASE fun interpreter => wordOf interpreter.contract.caller

def codesize : Op η Unit :=
  pushed Gas.BASE fun interpreter => BitVec.ofNat 256 interpreter.contract.bytecode.len

/-- The copying instructions, from bytes that the interpreter has. -/
def copyInto (source : Interpreter η → Bytes) : Op η Unit := do
  let (memoryOffset, dataOffset, len) ← pop3
  let len ← asUsizeOrFail len .invalidOperandOOG
  gasOrFail (Gas.verylowcopyCost len)
  if len = 0 then pure ()
  else
    let memoryOffset ← asUsizeOrFail memoryOffset .invalidOperandOOG
    let dataOffset := asU64Saturated dataOffset
    memoryResize memoryOffset len
    let interpreter ← Act.get
    editMemory fun memory => setData memory memoryOffset dataOffset len (source interpreter)

def codecopy : Op η Unit :=
  copyInto fun interpreter => interpreter.contract.bytecode.originalBytecodeSlice

def calldatacopy : Op η Unit := copyInto fun interpreter => interpreter.contract.input

/-- 32 bytes of the input from an offset on, followed by zeros. -/
def loadInput (input : Bytes) (index : Nat) : U256 :=
  if index < input.length then
    let haveBytes := min (input.length - index) 32
    let bytes := (input.drop index).take haveBytes ++ List.replicate (32 - haveBytes) 0
    BitVec.ofNat 256 (Bytes.ofBE bytes)
  else 0

def calldataload : Op η Unit := do
  charge Gas.VERYLOW
  let index ← pop1
  let interpreter ← Act.get
  push (loadInput interpreter.contract.input (asU64Saturated index))

def calldatasize : Op η Unit :=
  pushed Gas.BASE fun interpreter => BitVec.ofNat 256 interpreter.contract.input.length

def callvalue : Op η Unit := pushed Gas.BASE fun interpreter => interpreter.contract.value

def returndatasize (spec : SpecId) : Op η Unit := do
  charge Gas.BASE
  check (spec.enabled .byzantium)
  let interpreter ← Act.get
  push (BitVec.ofNat 256 interpreter.returnDataBuffer.length)

def returndatacopy (spec : SpecId) : Op η Unit := do
  check (spec.enabled .byzantium)
  let (memoryOffset, offset, len) ← pop3
  let len ← asUsizeOrFail len .invalidOperandOOG
  gasOrFail (Gas.verylowcopyCost len)
  let dataOffset := asU64Saturated offset
  let interpreter ← Act.get
  let dataEnd := (addU64 dataOffset len).filter (· ≤ interpreter.returnDataBuffer.length)
  let dataEnd ← Act.okOr dataEnd .outOfOffset
  if len ≠ 0 then
    let memoryOffset ← asUsizeOrFail memoryOffset .invalidOperandOOG
    memoryResize memoryOffset len
    editMemory fun memory =>
      setMemory memory memoryOffset ((interpreter.returnDataBuffer.take dataEnd).drop dataOffset)
  else pure ()

def gas : Op η Unit := do
  charge Gas.BASE
  let interpreter ← Act.get
  let remaining ← Act.unwrap interpreter.gas.remaining
  push (BitVec.ofNat 256 remaining)

/-! memory.rs -/

def mload : Op η Unit := do
  charge Gas.VERYLOW
  let index ← pop1
  let index ← asUsizeOrFail index .invalidOperandOOG
  memoryResize index 32
  let bytes ← memorySlice index 32
  push (BitVec.ofNat 256 (Bytes.ofBE bytes))

def mstore : Op η Unit := do
  charge Gas.VERYLOW
  let (index, value) ← pop2
  let index ← asUsizeOrFail index .invalidOperandOOG
  memoryResize index 32
  editMemory fun memory => putSlice memory index (Bytes.toBE 32 value.toNat)

def mstore8 : Op η Unit := do
  charge Gas.VERYLOW
  let (index, value) ← pop2
  let index ← asUsizeOrFail index .invalidOperandOOG
  memoryResize index 1
  editMemory fun memory => putSlice memory index [UInt8.ofNat value.toNat]

def msize : Op η Unit :=
  pushed Gas.BASE fun interpreter => BitVec.ofNat 256 interpreter.memory.length

/-! control.rs -/

/-- The jump itself, to a destination that has been popped. -/
def jumpTo (dest : U256) : Op η Unit := do
  let dest ← asUsizeOrFail dest .invalidJump
  let interpreter ← Act.get
  if interpreter.contract.isValidJump dest then
    Act.modify fun interpreter => { interpreter with instructionPointer := dest }
  else Act.stop .invalidJump

def jump : Op η Unit := do
  charge Gas.MID
  let dest ← pop1
  jumpTo dest

def jumpi : Op η Unit := do
  charge Gas.HIGH
  let (dest, value) ← pop2
  if value ≠ 0 then jumpTo dest else pure ()

def jumpdest : Op η Unit := charge Gas.JUMPDEST

/-- The instruction pointer is behind the instruction by now. -/
def pc : Op η Unit := do
  charge Gas.BASE
  let interpreter ← Act.get
  let position ← Act.unwrap (subU64 interpreter.instructionPointer 1)
  push (BitVec.ofNat 256 position)

/-- What `ret` and `revert` have in common. -/
def finish (reason : InstructionResult) : Op η Unit := do
  let (start, len) ← pop2
  let len ← asUsizeOrFail len .invalidOperandOOG
  if len = 0 then
    Act.modify fun interpreter => { interpreter with returnRange := (U64_MAX, U64_MAX) }
    Act.stop reason
  else
    let offset ← asUsizeOrFail start .invalidOperandOOG
    memoryResize offset len
    let stop ← Act.unwrap (addU64 offset len)
    Act.modify fun interpreter => { interpreter with returnRange := (offset, stop) }
    Act.stop reason

def ret : Op η Unit := finish .return_

def revert (spec : SpecId) : Op η Unit := do
  check (spec.enabled .byzantium)
  finish .revert

/-! stack.rs -/

def pop : Op η Unit := do
  charge Gas.BASE
  let _ ← popMany 1
  return ()

def push0 (spec : SpecId) : Op η Unit := do
  check (spec.enabled .shanghai)
  charge Gas.BASE
  push 0

/-- The data is read from behind the instruction. A read past the end of the code is undefined. -/
def pushN (n : Nat) : Op η Unit := do
  charge Gas.VERYLOW
  let interpreter ← Act.get
  let slice ← Act.unwrap (getSlice interpreter.contract.bytecode.bytecode
    interpreter.instructionPointer n)
  push (pushSliceWord slice)
  Act.modify fun interpreter =>
    { interpreter with instructionPointer := interpreter.instructionPointer + n }

/-- The copy is written behind the end of the vector, before `set_len`; here that is a push,
as there is room for it in the allocation. -/
def dup (n : Nat) : Op η Unit := do
  charge Gas.VERYLOW
  let interpreter ← Act.get
  if interpreter.stack.length < n then Act.stop .stackUnderflow
  else if STACK_LIMIT < interpreter.stack.length + 1 then Act.stop .stackOverflow
  else
    let value ← Act.unwrap interpreter.stack[n - 1]?
    Act.modify fun interpreter => { interpreter with stack := value :: interpreter.stack }

def swap (n : Nat) : Op η Unit := do
  charge Gas.VERYLOW
  let interpreter ← Act.get
  if interpreter.stack.length ≤ n then Act.stop .stackUnderflow
  else
    let top ← Act.unwrap interpreter.stack[0]?
    let other ← Act.unwrap interpreter.stack[n]?
    Act.modify fun interpreter =>
      { interpreter with stack := (interpreter.stack.set 0 other).set n top }

/-! host_env.rs -/

/-- An instruction of a fixed cost that pushes a word of the environment. -/
def pushedEnv (host : Host η) (word : Env → U256) : Op η Unit :=
  pushed Gas.BASE fun interpreter => word (host.env interpreter.host)

def chainid (spec : SpecId) (host : Host η) : Op η Unit := do
  check (spec.enabled .istanbul)
  pushedEnv host Env.chainId

def coinbase (host : Host η) : Op η Unit := pushedEnv host fun env => wordOf env.coinbase

def timestamp (host : Host η) : Op η Unit := pushedEnv host Env.timestamp

def number (host : Host η) : Op η Unit := pushedEnv host Env.number

def difficulty (spec : SpecId) (host : Host η) : Op η Unit := do
  charge Gas.BASE
  let interpreter ← Act.get
  let env := host.env interpreter.host
  if spec.enabled .merge then
    let prevrandao ← Act.unwrap env.prevrandao
    push prevrandao
  else push env.difficulty

def gaslimit (host : Host η) : Op η Unit := pushedEnv host Env.gasLimit

def gasprice (host : Host η) : Op η Unit := pushedEnv host Env.effectiveGasPrice

def basefee (spec : SpecId) (host : Host η) : Op η Unit := do
  charge Gas.BASE
  check (spec.enabled .london)
  let interpreter ← Act.get
  push (host.env interpreter.host).basefee

def origin (host : Host η) : Op η Unit := pushedEnv host fun env => wordOf env.caller

end Instruction

end Revm
