import BlazCtf.Revm.JournaledState
import BlazCtf.Revm.Instructions

set_option autoImplicit false

namespace Revm

open Evm Machine

inductive AnalysisKind where
  | raw
  | check
  | analyse
  deriving DecidableEq

inductive PrecompileError where
  | outOfGas
  | other
  deriving DecidableEq

/-- What changes while a transaction runs. -/
structure EVMData where
  journaledState : JournaledState
  error : Option DatabaseError

/-- What stays the same while a transaction runs. A precompile gets the context of its call, and
answers with the gas it used. -/
structure EVMImpl where
  spec : SpecId
  env : Env
  perfAllPrecompilesHaveBalance : Bool
  perfAnalyseCreatedBytecodes : AnalysisKind
  db : Database
  precompiles : Address → Option (Bytes → Nat → CallContext → Except PrecompileError (Nat × Bytes))
  keccak256 : Bytes → U256
  createAddress : Address → Nat → Address
  create2Address : Address → U256 → U256 → Address

namespace EVMImpl

variable {ε α : Type}

/-- Code on the journaled state, with its result as a value. -/
def attempt (act : Journaled ε α) : Act EVMData Empty (Except ε α) := fun data =>
  match act data.journaledState with
  | .returned value next => .returned (.ok value) { data with journaledState := next }
  | .stopped reason next => .returned (.error reason) { data with journaledState := next }
  | .fault => .fault

/-- Code on the journaled state that does not stop. -/
def perform (act : Journaled Empty α) : Act EVMData Empty α := fun data =>
  match act data.journaledState with
  | .returned value next => .returned value { data with journaledState := next }
  | .stopped reason _ => nomatch reason
  | .fault => .fault

/-- `result.map_err(|e| self.data.error = Some(e)).ok()` -/
def noted (act : Journaled DatabaseError α) : Act EVMData Empty (Option α) := do
  match ← attempt act with
  | .ok value => return some value
  | .error error =>
      Act.modify fun data => { data with error := some error }
      return none

def blockHash (evm : EVMImpl) (number : U256) : Act EVMData Empty (Option U256) :=
  noted (fetch (evm.db.blockHash number))

def loadAccount (evm : EVMImpl) (address : Address) : Act EVMData Empty (Option (Bool × Bool)) :=
  noted (JournaledState.loadAccountExist evm.db address)

def balance (evm : EVMImpl) (address : Address) : Act EVMData Empty (Option (U256 × Bool)) := do
  let answer ← noted (JournaledState.loadAccount evm.db address)
  return answer.map fun (acc, isCold) => (acc.info.balance, isCold)

def code (evm : EVMImpl) (address : Address) : Act EVMData Empty (Option (Bytecode × Bool)) := do
  match ← noted (JournaledState.loadCode evm.db address) with
  | none => return none
  | some (acc, isCold) =>
      let code ← Act.unwrap acc.info.code
      return some (code, isCold)

def codeHash (evm : EVMImpl) (address : Address) : Act EVMData Empty (Option (U256 × Bool)) := do
  match ← noted (JournaledState.loadCode evm.db address) with
  | none => return none
  | some (acc, isCold) =>
      if (evm.precompiles address).isSome && evm.perfAllPrecompilesHaveBalance then
        return some (KECCAK_EMPTY, isCold)
      if acc.isEmpty then return some (0, isCold)
      return some (acc.info.codeHash, isCold)

def sload (evm : EVMImpl) (address : Address) (index : U256) :
    Act EVMData Empty (Option (U256 × Bool)) :=
  noted (JournaledState.sload evm.db address index)

def sstore (evm : EVMImpl) (address : Address) (index value : U256) :
    Act EVMData Empty (Option (U256 × U256 × U256 × Bool)) :=
  noted (JournaledState.sstore evm.db address index value)

def log (address : Address) (topics : List U256) (data : Bytes) : Act EVMData Empty Unit :=
  perform (JournaledState.log ⟨address, topics, data⟩)

def selfdestruct (evm : EVMImpl) (address target : Address) :
    Act EVMData Empty (Option HostSelfDestruct) := do
  let answer ← noted (JournaledState.selfdestruct evm.db address target)
  return answer.map fun result =>
    ⟨result.hadValue, result.targetExists, result.isCold, result.previouslyDestroyed⟩

/-- `Interpreter::new` and `run`, and `return_value` once it has stopped. No frame takes more steps
than it has gas. -/
def runFrame (evm : EVMImpl) (inner : Host EVMData) (contract : Contract) (gasLimit : Nat)
    (isStatic : Bool) : Act EVMData Empty (InstructionResult × Gas × Bytes) := fun data =>
  match Interpreter.run evm.keccak256 evm.spec inner (gasLimit + 1)
      (Interpreter.new contract gasLimit isStatic data) with
  | some (.stopped reason last) =>
      match last.returnValue with
      | some output => .returned (reason, last.gas, output) last.host
      | none => .fault
  | _ => .fault

/-- The part of `call_inner` that runs a precompile. -/
def callPrecompile (inputs : CallInputs) (checkpoint : JournalCheckpoint)
    (out : Except PrecompileError (Nat × Bytes)) :
    Act EVMData Empty (InstructionResult × Gas × Bytes) := do
  let gas := Gas.new inputs.gasLimit
  match out with
  | .ok (gasUsed, data) =>
      let (gas, covered) ← Act.unwrap (gas.recordCost gasUsed)
      if covered then
        perform JournaledState.checkpointCommit
        return (.return_, gas, data)
      else
        perform (JournaledState.checkpointRevert checkpoint)
        return (.precompileOOG, gas, [])
  | .error error =>
      perform (JournaledState.checkpointRevert checkpoint)
      return (if error = .outOfGas then .precompileOOG else .precompileError, gas, [])

/-- The end of a frame. -/
def closeFrame (checkpoint : JournalCheckpoint) (exitReason : InstructionResult) :
    Act EVMData Empty Unit :=
  if exitReason.isOk then perform JournaledState.checkpointCommit
  else perform (JournaledState.checkpointRevert checkpoint)

/-- The part of `call_inner` that runs a contract. -/
def callContract (evm : EVMImpl) (inner : Host EVMData) (inputs : CallInputs)
    (checkpoint : JournalCheckpoint) (bytecode : Bytecode) :
    Act EVMData Empty (InstructionResult × Gas × Bytes) := do
  let contract ← Act.unwrap (Contract.new inputs.input bytecode inputs.context.address
    inputs.context.caller inputs.context.apparentValue)
  let (exitReason, gas, output) ← runFrame evm inner contract inputs.gasLimit inputs.isStatic
  closeFrame checkpoint exitReason
  return (exitReason, gas, output)

/-- A call without a payment touches the account as one with a payment would. -/
def touchCallee (evm : EVMImpl) (inputs : CallInputs) : Act EVMData Empty Unit := do
  if inputs.transfer.value = 0 then
    let _ ← evm.loadAccount inputs.context.address
    perform (JournaledState.touch inputs.context.address)

/-- The frames that are called run on the inner host. -/
def callInner (evm : EVMImpl) (inner : Host EVMData) (inputs : CallInputs) :
    Act EVMData Empty (InstructionResult × Gas × Bytes) := do
  let gas := Gas.new inputs.gasLimit
  match ← evm.code inputs.contract with
  | none => return (.fatalExternalError, gas, [])
  | some (bytecode, _) =>
      let data ← Act.get
      if data.journaledState.depth > CALL_STACK_LIMIT then return (.callTooDeep, gas, [])
      let checkpoint ← perform JournaledState.checkpoint
      touchCallee evm inputs
      match ← attempt (JournaledState.transfer evm.db inputs.transfer.source inputs.transfer.target
          inputs.transfer.value) with
      | .error reason =>
          perform (JournaledState.checkpointRevert checkpoint)
          return (reason, gas, [])
      | .ok _ =>
          match evm.precompiles inputs.contract with
          | some precompile =>
              callPrecompile inputs checkpoint
                (precompile inputs.input inputs.gasLimit inputs.context)
          | none => callContract evm inner inputs checkpoint bytecode

def analysed (evm : EVMImpl) (bytes : Bytes) : Bytecode :=
  match evm.perfAnalyseCreatedBytecodes with
  | .raw => Bytecode.newRaw evm.keccak256 bytes
  | .check => (Bytecode.newRaw evm.keccak256 bytes).toChecked
  | .analyse => (Bytecode.newRaw evm.keccak256 bytes).toAnalysed

/-- The end of `create_inner` when the code is kept. -/
def keepCode (evm : EVMImpl) (created : Address) (gas : Gas) (bytes : Bytes) :
    Act EVMData Empty (InstructionResult × Option Address × Gas × Bytes) := do
  perform JournaledState.checkpointCommit
  perform (JournaledState.setCode created (evm.analysed bytes))
  return (.return_, some created, gas, bytes)

/-- What `create_inner` does with the code that the init code has returned. Before Homestead a
contract that cannot pay for its code is left without. -/
def depositCode (evm : EVMImpl) (checkpoint : JournalCheckpoint) (created : Address) (gas : Gas)
    (bytes : Bytes) : Act EVMData Empty (InstructionResult × Option Address × Gas × Bytes) := do
  if evm.spec.enabled .london && bytes.head? == some 0xEF then
    perform (JournaledState.checkpointRevert checkpoint)
    return (.createContractStartingWithEF, some created, gas, bytes)
  if evm.spec.enabled .spuriousDragon &&
      decide (bytes.length > evm.env.limitContractCodeSize.getD MAX_CODE_SIZE) then
    perform (JournaledState.checkpointRevert checkpoint)
    return (.createContractSizeLimit, some created, gas, bytes)
  let gasForCode ← Act.unwrap (mulU64 bytes.length Gas.CODEDEPOSIT)
  let (gas, covered) ← Act.unwrap (gas.recordCost gasForCode)
  if covered then
    keepCode evm created gas bytes
  else if evm.spec.enabled .homestead then
    perform (JournaledState.checkpointRevert checkpoint)
    return (.outOfGas, some created, gas, bytes)
  else
    keepCode evm created gas []

/-- The part of `create_inner` that runs the init code. -/
def runInitCode (evm : EVMImpl) (inner : Host EVMData) (inputs : CreateInputs)
    (checkpoint : JournalCheckpoint) (created : Address) :
    Act EVMData Empty (InstructionResult × Option Address × Gas × Bytes) := do
  let contract ← Act.unwrap (Contract.new [] (Bytecode.newRaw evm.keccak256 inputs.initCode)
    created inputs.caller inputs.value)
  let (exitReason, gas, bytes) ← runFrame evm inner contract inputs.gasLimit false
  if exitReason.isOk then
    depositCode evm checkpoint created gas bytes
  else
    perform (JournaledState.checkpointRevert checkpoint)
    return (exitReason, some created, gas, bytes)

/-- `create_inner` from where the address is known. An error of the database leaves the checkpoint
open. -/
def createAt (evm : EVMImpl) (inner : Host EVMData) (inputs : CreateInputs) (created : Address) :
    Act EVMData Empty (InstructionResult × Option Address × Gas × Bytes) := do
  let gas := Gas.new inputs.gasLimit
  let _ ← evm.loadAccount created
  let checkpoint ← perform JournaledState.checkpoint
  match ← noted (JournaledState.createAccount evm.db created (evm.precompiles created).isSome) with
  | none => return (.fatalExternalError, some created, gas, [])
  | some false =>
      perform (JournaledState.checkpointRevert checkpoint)
      return (.createCollision, some created, gas, [])
  | some true =>
      match ← attempt (JournaledState.transfer evm.db inputs.caller created inputs.value) with
      | .error reason =>
          perform (JournaledState.checkpointRevert checkpoint)
          return (reason, some created, gas, [])
      | .ok _ =>
          if evm.spec.enabled .spuriousDragon then
            match ← perform (JournaledState.incNonce created) with
            | none =>
                perform (JournaledState.checkpointRevert checkpoint)
                return (.return_, none, gas, [])
            | some _ => runInitCode evm inner inputs checkpoint created
          else
            runInitCode evm inner inputs checkpoint created

def createInner (evm : EVMImpl) (inner : Host EVMData) (inputs : CreateInputs) :
    Act EVMData Empty (InstructionResult × Option Address × Gas × Bytes) := do
  let gas := Gas.new inputs.gasLimit
  let _ ← evm.loadAccount inputs.caller
  let data ← Act.get
  if data.journaledState.depth > CALL_STACK_LIMIT then return (.callTooDeep, none, gas, [])
  match ← evm.balance inputs.caller with
  | none => return (.fatalExternalError, none, gas, [])
  | some (balance, _) =>
      if balance < inputs.value then return (.outOfFund, none, gas, [])
      match ← perform (JournaledState.incNonce inputs.caller) with
      | none => return (.return_, none, gas, [])
      | some nonce =>
          match inputs.scheme with
          | .create => createAt evm inner inputs (evm.createAddress inputs.caller (nonce - 1))
          | .create2 salt =>
              createAt evm inner inputs
                (evm.create2Address inputs.caller (evm.keccak256 inputs.initCode) salt)

/-- `impl Host for EVMImpl`, where the frames that are called or created run on `inner`. -/
def hostOver (evm : EVMImpl) (inner : Host EVMData) : Host EVMData where
  env _ := evm.env
  loadAccount := evm.loadAccount
  blockHash := evm.blockHash
  balance := evm.balance
  code := evm.code
  codeHash := evm.codeHash
  sload := evm.sload
  sstore := evm.sstore
  log := log
  selfdestruct := evm.selfdestruct
  create := evm.createInner inner
  call := evm.callInner inner

/-- A host that only panics. -/
def exhausted (evm : EVMImpl) : Host EVMData where
  env _ := evm.env
  loadAccount _ := Act.fault
  blockHash _ := Act.fault
  balance _ := Act.fault
  code _ := Act.fault
  codeHash _ := Act.fault
  sload _ _ := Act.fault
  sstore _ _ _ := Act.fault
  log _ _ _ := Act.fault
  selfdestruct _ _ := Act.fault
  create _ := Act.fault
  call _ := Act.fault

/-- The host itself is the one its frames run on; here it is unfolded a number of times. -/
def host (evm : EVMImpl) : Nat → Host EVMData
  | 0 => evm.exhausted
  | frames + 1 => evm.hostOver (evm.host frames)

end EVMImpl

end Revm
