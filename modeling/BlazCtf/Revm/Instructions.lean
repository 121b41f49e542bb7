import BlazCtf.Revm.Interpreter

set_option autoImplicit false

namespace Revm

open Evm Machine

variable {η : Type}

namespace Instruction

open Interpreter

/-! host.rs -/

/-- An answer of the host. `None` ends the transaction. -/
def answer {α : Type} (act : Act η Empty (Option α)) : Op η α := do
  let value ← onHost act
  Act.okOr value .fatalExternalError

def balance (spec : SpecId) (host : Host η) : Op η Unit := do
  let address ← popAddress
  let (balance, isCold) ← answer (host.balance address)
  charge (if spec.enabled .istanbul then Gas.accountAccessGas spec isCold
    else if spec.enabled .tangerine then 400
    else 20)
  push balance

def selfbalance (spec : SpecId) (host : Host η) : Op η Unit := do
  check (spec.enabled .istanbul)
  charge Gas.LOW
  let interpreter ← Act.get
  let (balance, _) ← answer (host.balance interpreter.contract.address)
  push balance

def extcodesize (spec : SpecId) (host : Host η) : Op η Unit := do
  let address ← popAddress
  let (code, isCold) ← answer (host.code address)
  charge (if spec.enabled .berlin then
      if isCold then Gas.COLD_ACCOUNT_ACCESS_COST else Gas.WARM_STORAGE_READ_COST
    else if spec.enabled .tangerine then 700
    else 20)
  push (BitVec.ofNat 256 code.len)

def extcodehash (spec : SpecId) (host : Host η) : Op η Unit := do
  check (spec.enabled .constantinople)
  let address ← popAddress
  let (codeHash, isCold) ← answer (host.codeHash address)
  charge (if spec.enabled .berlin then
      if isCold then Gas.COLD_ACCOUNT_ACCESS_COST else Gas.WARM_STORAGE_READ_COST
    else if spec.enabled .istanbul then 700
    else 400)
  push codeHash

def extcodecopy (spec : SpecId) (host : Host η) : Op η Unit := do
  let address ← popAddress
  let (memoryOffset, codeOffset, lenU256) ← pop3
  let (code, isCold) ← answer (host.code address)
  let len ← asUsizeOrFail lenU256 .invalidOperandOOG
  gasOrFail (Gas.extcodecopyCost spec len isCold)
  if len = 0 then pure ()
  else
    let memoryOffset ← asUsizeOrFail memoryOffset .invalidOperandOOG
    let codeOffset := min (asU64Saturated codeOffset) code.len
    memoryResize memoryOffset len
    editMemory fun memory => setData memory memoryOffset codeOffset len code.bytecode

/-- How far back a block is, if its hash is to be had. -/
def blockDistance (current number : U256) : Option Nat :=
  (checkedSub current number).map asU64Saturated |>.filter fun diff => diff ≤ 256 && diff != 0

def blockhash (host : Host η) : Op η Unit := do
  charge Gas.BLOCKHASH
  let number ← popTop1
  let interpreter ← Act.get
  match blockDistance (host.env interpreter.host).number number with
  | some _ =>
      let hash ← answer (host.blockHash number)
      setTop hash
  | none => setTop 0

def sload (spec : SpecId) (host : Host η) : Op η Unit := do
  let index ← pop1
  let interpreter ← Act.get
  let (value, isCold) ← answer (host.sload interpreter.contract.address index)
  charge (Gas.sloadCost spec isCold)
  push value

def sstore (spec : SpecId) (host : Host η) : Op η Unit := do
  checkStaticcall
  let (index, value) ← pop2
  let interpreter ← Act.get
  let (original, old, new, isCold) ←
    answer (host.sstore interpreter.contract.address index value)
  let interpreter ← Act.get
  let remainingGas ← Act.unwrap interpreter.gas.remaining
  gasOrFail (Gas.sstoreCost spec original old new remainingGas isCold)
  refund (Gas.sstoreRefund spec original old new)

def log (n : Nat) (host : Host η) : Op η Unit := do
  checkStaticcall
  let (offset, len) ← pop2
  let len ← asUsizeOrFail len .invalidOperandOOG
  gasOrFail (Gas.logCost n len)
  let data ← (if len = 0 then pure []
    else do
      let offset ← asUsizeOrFail offset .invalidOperandOOG
      memoryResize offset len
      memorySlice offset len : Op η Bytes)
  let topics ← popMany n
  let interpreter ← Act.get
  onHost (host.log interpreter.contract.address topics data)

def selfdestruct (spec : SpecId) (host : Host η) : Op η Unit := do
  checkStaticcall
  let target ← popAddress
  let interpreter ← Act.get
  let res ← answer (host.selfdestruct interpreter.contract.address target)
  (if !spec.enabled .london && !res.previouslyDestroyed then refund Gas.SELFDESTRUCT else pure ())
  charge (Gas.selfdestructCost spec res.hadValue res.targetExists res.isCold)
  Act.stop .selfDestruct

/-- The init code of a create, which is paid for since Shanghai. -/
def initCode (spec : SpecId) (host : Host η) (codeOffset : U256) (len : Nat) : Op η Bytes :=
  if len = 0 then pure []
  else do
    let codeOffset ← asUsizeOrFail codeOffset .invalidOperandOOG
    (if spec.enabled .shanghai then do
      let interpreter ← Act.get
      let maxInitcodeSize :=
        match (host.env interpreter.host).limitContractCodeSize with
        | some limit => saturatingMul limit 2
        | none => MAX_INITCODE_SIZE
      if maxInitcodeSize < len then Act.stop .createInitcodeSizeLimit
      else charge (Gas.initcodeCost len)
    else pure () : Op η Unit)
    memoryResize codeOffset len
    memorySlice codeOffset len

/-- The gas that a callee leaves over comes back. -/
def giveBack (gas : Gas) : Op η Unit := do
  let remaining ← Act.unwrap gas.remaining
  let interpreter ← Act.get
  let erased ← Act.unwrap (interpreter.gas.eraseCost remaining)
  Act.modify fun interpreter => { interpreter with gas := erased }

def recordRefund (gas : Gas) : Op η Unit := do
  let interpreter ← Act.get
  let recorded ← Act.unwrap (interpreter.gas.recordRefund gas.refunded)
  Act.modify fun interpreter => { interpreter with gas := recorded }

def setReturnData (bytes : Bytes) : Op η Unit :=
  Act.modify fun interpreter => { interpreter with returnDataBuffer := bytes }

def create (isCreate2 : Bool) (spec : SpecId) (host : Host η) : Op η Unit := do
  checkStaticcall
  (if isCreate2 then check (spec.enabled .petersburg) else pure ())
  setReturnData []
  let (value, codeOffset, len) ← pop3
  let len ← asUsizeOrFail len .invalidOperandOOG
  let code ← initCode spec host codeOffset len
  let scheme ← (if isCreate2 then do
      let salt ← pop1
      gasOrFail (Gas.create2Cost len)
      return .create2 salt
    else do
      charge Gas.CREATE
      return .create : Op η CreateScheme)
  let interpreter ← Act.get
  let remaining ← Act.unwrap interpreter.gas.remaining
  let gasLimit := if spec.enabled .tangerine then remaining - remaining / 64 else remaining
  charge gasLimit
  let (returnReason, address, gas, returnData) ← onHost (host.create
    { caller := interpreter.contract.address
      scheme := scheme
      value := value
      initCode := code
      gasLimit := gasLimit })
  setReturnData (if returnReason.isRevert then returnData else [])
  if returnReason.isOk then
    push (match address with
      | some address => wordOf address
      | none => 0)
    giveBack gas
    recordRefund gas
  else if returnReason.isRevert then
    push 0
    giveBack gas
  else if returnReason = .fatalExternalError then Act.stop .fatalExternalError
  else push 0

/-- A part of memory that a call reads, or will be written to. -/
def callRange (offset : U256) (len : Nat) : Op η Nat :=
  if len ≠ 0 then do
    let offset ← asUsizeOrFail offset .invalidOperandOOG
    memoryResize offset len
    return offset
  else pure U64_MAX

def callContext (contract : Contract) (scheme : CallScheme) (callee : Address) (value : U256) :
    CallContext :=
  match scheme with
  | .call | .staticCall => ⟨callee, contract.address, callee, value, scheme⟩
  | .callCode => ⟨contract.address, contract.address, callee, value, scheme⟩
  | .delegateCall => ⟨contract.address, contract.caller, callee, contract.value, scheme⟩

def callTransfer (contract : Contract) (scheme : CallScheme) (callee : Address) (value : U256) :
    Transfer :=
  match scheme with
  | .call => ⟨contract.address, callee, value⟩
  | .callCode => ⟨contract.address, contract.address, value⟩
  | _ => ⟨contract.address, contract.address, 0⟩

/-- The value that comes with a call. -/
def callValue (scheme : CallScheme) : Op η U256 :=
  match scheme with
  | .callCode => pop1
  | .call => do
      let value ← pop1
      let interpreter ← Act.get
      if interpreter.isStatic && value != 0 then Act.stop .callNotAllowedInsideStatic
      else return value
  | .delegateCall | .staticCall => pure 0

def callInner (spec : SpecId) (scheme : CallScheme) (host : Host η) : Op η Unit := do
  check (match scheme with
    | .delegateCall => spec.enabled .homestead
    | .staticCall => spec.enabled .byzantium
    | _ => true)
  setReturnData []
  let localGasLimit ← pop1
  let callee ← popAddress
  let localGasLimit := min localGasLimit.toNat U64_MAX
  let value ← callValue scheme
  let (inOffset, inLen, outOffset, outLen) ← pop4
  let inLen ← asUsizeOrFail inLen .invalidOperandOOG
  let input ← (if inLen ≠ 0 then do
      let inOffset ← asUsizeOrFail inOffset .invalidOperandOOG
      memoryResize inOffset inLen
      memorySlice inOffset inLen
    else pure [] : Op η Bytes)
  let outLen ← asUsizeOrFail outLen .invalidOperandOOG
  let outOffset ← callRange outOffset outLen
  let interpreter ← Act.get
  let context := callContext interpreter.contract scheme callee value
  let transfer := callTransfer interpreter.contract scheme callee value
  let (isCold, exist) ← answer (host.loadAccount callee)
  charge (Gas.callCost spec value (!exist) isCold
    (scheme = .call ∨ scheme = .callCode) (scheme = .call ∨ scheme = .staticCall))
  let interpreter ← Act.get
  let remaining ← Act.unwrap interpreter.gas.remaining
  let gasLimit :=
    if spec.enabled .tangerine then min (remaining - remaining / 64) localGasLimit
    else localGasLimit
  charge gasLimit
  let stipend :=
    if (scheme = .call ∨ scheme = .callCode) ∧ transfer.value ≠ 0 then
      saturatingAdd gasLimit Gas.CALL_STIPEND
    else gasLimit
  let (reason, gas, returnData) ← onHost (host.call
    { contract := callee
      transfer := transfer
      input := input
      gasLimit := stipend
      context := context
      isStatic := scheme = .staticCall ∨ interpreter.isStatic })
  setReturnData returnData
  let target := returnData.take (min outLen returnData.length)
  if reason.isOk then
    giveBack gas
    recordRefund gas
    editMemory fun memory => setMemory memory outOffset target
    push 1
  else if reason.isRevert then
    giveBack gas
    editMemory fun memory => setMemory memory outOffset target
    push 0
  else if reason = .fatalExternalError then Act.stop .fatalExternalError
  else push 0

/-! instructions.rs -/

def eval (keccak256 : Bytes → U256) (spec : SpecId) (host : Host η) (opcode : Nat) :
    Op η Unit :=
  match opcode with
  | 0x00 => Act.stop .stop
  | 0x01 => wrappedAdd
  | 0x02 => wrappingMul
  | 0x03 => wrappingSub
  | 0x04 => div
  | 0x05 => sdiv
  | 0x06 => rem
  | 0x07 => smod
  | 0x08 => addmod
  | 0x09 => mulmod
  | 0x0a => evalExp spec
  | 0x0b => signextend
  | 0x10 => lt
  | 0x11 => gt
  | 0x12 => slt
  | 0x13 => sgt
  | 0x14 => eq
  | 0x15 => iszero
  | 0x16 => bitand
  | 0x17 => bitor
  | 0x18 => bitxor
  | 0x19 => not
  | 0x1a => byte
  | 0x1b => shl spec
  | 0x1c => shr spec
  | 0x1d => sar spec
  | 0x20 => sha3 keccak256
  | 0x30 => address
  | 0x31 => balance spec host
  | 0x32 => origin host
  | 0x33 => caller
  | 0x34 => callvalue
  | 0x35 => calldataload
  | 0x36 => calldatasize
  | 0x37 => calldatacopy
  | 0x38 => codesize
  | 0x39 => codecopy
  | 0x3a => gasprice host
  | 0x3b => extcodesize spec host
  | 0x3c => extcodecopy spec host
  | 0x3d => returndatasize spec
  | 0x3e => returndatacopy spec
  | 0x3f => extcodehash spec host
  | 0x40 => blockhash host
  | 0x41 => coinbase host
  | 0x42 => timestamp host
  | 0x43 => number host
  | 0x44 => difficulty spec host
  | 0x45 => gaslimit host
  | 0x46 => chainid spec host
  | 0x47 => selfbalance spec host
  | 0x48 => basefee spec host
  | 0x50 => pop
  | 0x51 => mload
  | 0x52 => mstore
  | 0x53 => mstore8
  | 0x54 => sload spec host
  | 0x55 => sstore spec host
  | 0x56 => jump
  | 0x57 => jumpi
  | 0x58 => pc
  | 0x59 => msize
  | 0x5a => gas
  | 0x5b => jumpdest
  | 0x5f => push0 spec
  | 0xf0 => create false spec host
  | 0xf1 => callInner spec .call host
  | 0xf2 => callInner spec .callCode host
  | 0xf3 => ret
  | 0xf4 => callInner spec .delegateCall host
  | 0xf5 => create true spec host
  | 0xfa => callInner spec .staticCall host
  | 0xfd => revert spec
  | 0xfe => Act.stop .invalidFEOpcode
  | 0xff => selfdestruct spec host
  | opcode =>
      if 0x60 ≤ opcode ∧ opcode ≤ 0x7f then pushN (opcode - 0x60 + 1)
      else if 0x80 ≤ opcode ∧ opcode ≤ 0x8f then dup (opcode - 0x80 + 1)
      else if 0x90 ≤ opcode ∧ opcode ≤ 0x9f then swap (opcode - 0x90 + 1)
      else if 0xa0 ≤ opcode ∧ opcode ≤ 0xa4 then log (opcode - 0xa0) host
      else Act.stop .opcodeNotFound

end Instruction

namespace Interpreter

/-- One instruction. Reading an opcode past the end of the code is undefined. -/
def step (keccak256 : Bytes → U256) (spec : SpecId) (host : Host η) : Op η Unit := do
  let interpreter ← Act.get
  let opcode ← Act.unwrap
    interpreter.contract.bytecode.bytecode[interpreter.instructionPointer]?
  Act.modify fun interpreter =>
    { interpreter with instructionPointer := interpreter.instructionPointer + 1 }
  Instruction.eval keccak256 spec host opcode.toNat

/-- `run`, for a number of steps. `None` is a run that is not over by then. -/
def run (keccak256 : Bytes → U256) (spec : SpecId) (host : Host η) :
    Nat → Interpreter η → Option (Ended (Interpreter η) InstructionResult Unit)
  | 0, _ => none
  | fuel + 1, interpreter =>
      match step keccak256 spec host interpreter with
      | .returned _ next => run keccak256 spec host fuel next
      | ended => some ended

end Interpreter

end Revm
