import BlazCtf.Lib.Checked

set_option autoImplicit false

namespace Revm

open Evm

abbrev U256 := BitVec 256

abbrev Bytes := List UInt8

def checkedAdd (a b : U256) : Option U256 :=
  if a.toNat + b.toNat < 2 ^ 256 then some (a + b) else none

def checkedSub (a b : U256) : Option U256 := if b ≤ a then some (a - b) else none

/-- `u64::MAX`, and `usize::MAX` on the 64-bit machines it runs on. -/
def U64_MAX : Nat := 2 ^ 64 - 1

/-- The hash of the empty string. -/
def KECCAK_EMPTY : U256 :=
  0xc5d2460186f7233c927e7db2dcc703c0e500b653ca82273b7bfad8045d85a470#256

/-- The hard forks, in order. -/
inductive SpecId where
  | frontier
  | frontierThawing
  | homestead
  | daoFork
  | tangerine
  | spuriousDragon
  | byzantium
  | constantinople
  | petersburg
  | istanbul
  | muirGlacier
  | berlin
  | london
  | arrowGlacier
  | grayGlacier
  | merge
  | shanghai
  | cancun
  | latest
  deriving DecidableEq

def SpecId.enabled (our other : SpecId) : Bool := decide (other.ctorIdx ≤ our.ctorIdx)

inductive InstructionResult where
  | continue_
  | stop
  | return_
  | selfDestruct
  | revert
  | callTooDeep
  | outOfFund
  | outOfGas
  | memoryOOG
  | memoryLimitOOG
  | precompileOOG
  | invalidOperandOOG
  | opcodeNotFound
  | callNotAllowedInsideStatic
  | stateChangeDuringStaticCall
  | invalidFEOpcode
  | invalidJump
  | notActivated
  | stackUnderflow
  | stackOverflow
  | outOfOffset
  | createCollision
  | overflowPayment
  | precompileError
  | nonceOverflow
  | createContractSizeLimit
  | createContractStartingWithEF
  | createInitcodeSizeLimit
  | fatalExternalError
  deriving DecidableEq

/-- `return_ok!()` -/
def InstructionResult.isOk : InstructionResult → Bool
  | .continue_ | .stop | .return_ | .selfDestruct => true
  | _ => false

/-- `return_revert!()` -/
def InstructionResult.isRevert : InstructionResult → Bool
  | .revert | .callTooDeep | .outOfFund => true
  | _ => false

/-- `analysed` carries the length of the original code and the map of its jump destinations. -/
inductive BytecodeState where
  | raw
  | checked (len : Nat)
  | analysed (len : Nat) (jumpMap : List Bool)
  deriving DecidableEq

structure Bytecode where
  bytecode : Bytes
  hash : U256
  state : BytecodeState
  deriving DecidableEq

namespace Bytecode

/-- One STOP opcode. -/
def new : Bytecode := ⟨[0], KECCAK_EMPTY, .analysed 0 []⟩

def newRaw (keccak256 : Bytes → U256) (bytecode : Bytes) : Bytecode :=
  ⟨bytecode, if bytecode.isEmpty then KECCAK_EMPTY else keccak256 bytecode, .raw⟩

def len (code : Bytecode) : Nat :=
  match code.state with
  | .raw => code.bytecode.length
  | .checked len => len
  | .analysed len _ => len

def isEmpty (code : Bytecode) : Bool := code.len == 0

def originalBytes (code : Bytecode) : Bytes :=
  match code.state with
  | .raw => code.bytecode
  | .checked len => code.bytecode.take len
  | .analysed len _ => code.bytecode.take len

/-- Code that has not been checked is followed by 33 zero bytes. -/
def toChecked (code : Bytecode) : Bytecode :=
  match code.state with
  | .raw =>
      { code with
        bytecode := code.bytecode ++ List.replicate 33 0
        state := .checked code.bytecode.length }
  | _ => code

end Bytecode

structure AccountInfo where
  balance : U256
  nonce : Nat
  codeHash : U256
  code : Option Bytecode

instance : Inhabited AccountInfo := ⟨⟨0, 0, KECCAK_EMPTY, some Bytecode.new⟩⟩

def AccountInfo.isEmpty (info : AccountInfo) : Bool :=
  info.balance = 0 ∧ info.nonce = 0 ∧ (info.codeHash = KECCAK_EMPTY ∨ info.codeHash = 0)

structure StorageSlot where
  originalValue : U256
  presentValue : U256
  deriving DecidableEq

instance : Inhabited StorageSlot := ⟨⟨0, 0⟩⟩

def StorageSlot.new (original : U256) : StorageSlot := ⟨original, original⟩

structure Account where
  info : AccountInfo
  storage : U256 → Option StorageSlot
  storageCleared : Bool
  isDestroyed : Bool
  isTouched : Bool
  isNotExisting : Bool

namespace Account

def isEmpty (account : Account) : Bool := account.info.isEmpty

def newNotExisting : Account := ⟨default, fun _ => none, false, false, false, true⟩

def ofInfo (info : AccountInfo) : Account := ⟨info, fun _ => none, false, false, false, false⟩

def withBalance (account : Account) (balance : U256) : Account :=
  { account with info := { account.info with balance := balance } }

/-- `account.into()`, or an account that does not exist -/
def ofBasic : Option AccountInfo → Account
  | some info => ofInfo info
  | none => newNotExisting

end Account

abbrev State := Address → Option Account

/-- What the database answers. `none` is an error. -/
structure Database where
  basic : Address → Option (Option AccountInfo)
  codeByHash : U256 → Option Bytecode
  storage : Address → U256 → Option U256
  blockHash : U256 → Option U256

/-- What the first read of a slot finds. The database is not asked for a cleared storage. -/
def Account.unread (db : Database) (address : Address) (account : Account) (key : U256) :
    Option U256 :=
  if account.storageCleared then some 0 else db.storage address key

structure DatabaseError where
  deriving DecidableEq

structure Log where
  address : Address
  topics : List U256
  data : Bytes
  deriving DecidableEq

end Revm
