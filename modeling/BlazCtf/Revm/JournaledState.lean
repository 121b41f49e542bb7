import BlazCtf.Lib.Machine
import BlazCtf.Revm.Primitives

set_option autoImplicit false

namespace Revm

open Evm Machine
open Function (update)

inductive JournalEntry where
  | accountLoaded (address : Address)
  | accountDestroyed (address target : Address) (wasDestroyed : Bool) (hadBalance : U256)
  | accountTouched (address : Address)
  | balanceTransfer (source target : Address) (balance : U256)
  | nonceChange (address : Address)
  | storageChange (address : Address) (key : U256) (hadValue : Option U256)
  | codeChange (address : Address) (hadCode : Bytecode)
  deriving DecidableEq

/-- The frames of the journal come newest first, and so do the entries of a frame. -/
structure JournaledState where
  state : State
  logs : List Log
  depth : Nat
  journal : List (List JournalEntry)
  isBeforeSpuriousDragon : Bool
  numOfPrecompiles : Nat

structure JournalCheckpoint where
  logI : Nat
  journalI : Nat
  deriving DecidableEq

structure SelfDestructResult where
  hadValue : Bool
  targetExists : Bool
  isCold : Bool
  previouslyDestroyed : Bool
  deriving DecidableEq

/-- Code that works on the journaled state. -/
abbrev Journaled (ε : Type) := Act JournaledState ε

variable {ε : Type}

def isPrecompile (address : Address) (numOfPrecompiles : Nat) : Bool :=
  address.val < 2 ^ 16 ∧ (address.val + (2 ^ 16 - 1)) % 2 ^ 16 < numOfPrecompiles % 2 ^ 16

/-- `result?` for what the database answers -/
def fetch {σ α : Type} : Option α → Act σ DatabaseError α
  | some value => pure value
  | none => Act.stop {}

namespace JournaledState

def new (numOfPrecompiles : Nat) : JournaledState :=
  ⟨fun _ => none, [], 0, [[]], false, numOfPrecompiles⟩

def newLegacy (numOfPrecompiles : Nat) : JournaledState :=
  { new numOfPrecompiles with isBeforeSpuriousDragon := true }

/-- `self.state.get_mut(&address).unwrap()` -/
def account (address : Address) : Journaled ε Account := do
  let journaled ← Act.get
  Act.unwrap (journaled.state address)

def putAccount (address : Address) (account : Account) : Journaled ε Unit :=
  Act.modify fun journaled =>
    { journaled with state := update journaled.state address (some account) }

/-- `self.journal.last_mut().unwrap().push(entry)` -/
def push (entry : JournalEntry) : Journaled ε Unit := fun journaled =>
  match journaled.journal with
  | [] => .fault
  | frame :: frames => .returned () { journaled with journal := (entry :: frame) :: frames }

/-- `Self::touch_account`, on an account that is there -/
def touchAccount (address : Address) : Journaled ε Unit := do
  let acc ← account address
  if !acc.isTouched then
    push (.accountTouched address)
    putAccount address { acc with isTouched := true }

def touch (address : Address) : Journaled ε Unit := do
  let journaled ← Act.get
  if (journaled.state address).isSome then touchAccount address

/-- The entry records the new code, not the code the account had. -/
def setCode (address : Address) (code : Bytecode) : Journaled ε Unit := do
  touchAccount address
  let acc ← account address
  push (.codeChange address code)
  putAccount address { acc with info := { acc.info with codeHash := code.hash, code := some code } }

def incNonce (address : Address) : Journaled ε (Option Nat) := do
  let acc ← account address
  if acc.info.nonce = U64_MAX then return none
  touchAccount address
  let acc ← account address
  push (.nonceChange address)
  putAccount address { acc with info := { acc.info with nonce := acc.info.nonce + 1 } }
  return some (acc.info.nonce + 1)

def loadAccount (db : Database) (address : Address) :
    Journaled DatabaseError (Account × Bool) := do
  let journaled ← Act.get
  match journaled.state address with
  | some acc => return (acc, false)
  | none =>
      let found ← fetch (db.basic address)
      let acc := Account.ofBasic found
      push (.accountLoaded address)
      putAccount address acc
      return (acc, !isPrecompile address journaled.numOfPrecompiles)

def loadCode (db : Database) (address : Address) : Journaled DatabaseError (Account × Bool) := do
  let (acc, isCold) ← loadAccount db address
  if acc.info.code.isNone then
    if acc.info.codeHash = KECCAK_EMPTY then
      let acc := { acc with info := { acc.info with code := some Bytecode.new } }
      putAccount address acc
      return (acc, isCold)
    else
      let code ← fetch (db.codeByHash acc.info.codeHash)
      let acc := { acc with info := { acc.info with code := some code } }
      putAccount address acc
      return (acc, isCold)
  return (acc, isCold)

def loadAccountExist (db : Database) (address : Address) :
    Journaled DatabaseError (Bool × Bool) := do
  let journaled ← Act.get
  let (acc, isCold) ← loadCode db address
  let exist :=
    if journaled.isBeforeSpuriousDragon then !acc.isNotExisting || acc.isTouched
    else !acc.isEmpty
  return (isCold, exist)

/-- A transfer that fails for lack of funds has moved nothing; one that overflows the target
has taken the balance from the source without an entry. -/
def transfer (db : Database) (source target : Address) (balance : U256) :
    Journaled InstructionResult (Bool × Bool) := do
  let (_, sourceIsCold) ← (loadAccount db source).mapError fun _ => .fatalExternalError
  let (_, targetIsCold) ← (loadAccount db target).mapError fun _ => .fatalExternalError
  touchAccount source
  let acc ← account source
  let left ← Act.okOr (checkedSub acc.info.balance balance) .outOfFund
  putAccount source (acc.withBalance left)
  touchAccount target
  let acc ← account target
  let total ← Act.okOr (checkedAdd acc.info.balance balance) .overflowPayment
  putAccount target (acc.withBalance total)
  push (.balanceTransfer source target balance)
  return (sourceIsCold, targetIsCold)

/-- What `create_account` makes of an account, but for the touch. -/
def cleared (acc : Account) : Account :=
  { acc with
    storageCleared := true
    storage := fun key => (acc.storage key).map fun _ => default
    info := { acc.info with codeHash := KECCAK_EMPTY, code := none } }

def createAccount (db : Database) (address : Address) (isPrecompile : Bool) :
    Journaled DatabaseError Bool := do
  let (acc, _) ← loadCode db address
  if acc.info.code.any fun code => !code.isEmpty then return false
  if acc.info.nonce ≠ 0 then return false
  if isPrecompile then return false
  putAccount address (cleared acc)
  if !acc.isTouched then
    putAccount address { cleared acc with isTouched := true }
    push (.accountTouched address)
  return true

def selfdestruct (db : Database) (address target : Address) :
    Journaled DatabaseError SelfDestructResult := do
  let (isCold, targetExists) ← loadAccountExist db target
  let acc ← account address
  let balance := acc.info.balance
  putAccount address { acc.withBalance 0 with isDestroyed := true }
  if address ≠ target then
    touchAccount target
    let targetAccount ← account target
    putAccount target (targetAccount.withBalance (targetAccount.info.balance + balance))
  push (.accountDestroyed address target acc.isDestroyed balance)
  return ⟨balance ≠ 0, targetExists, isCold, acc.isDestroyed⟩

def sload (db : Database) (address : Address) (key : U256) :
    Journaled DatabaseError (U256 × Bool) := do
  let acc ← account address
  match acc.storage key with
  | some slot => return (slot.presentValue, false)
  | none =>
      let value ← fetch (acc.unread db address key)
      push (.storageChange address key none)
      putAccount address
        { acc with storage := update acc.storage key (some (StorageSlot.new value)) }
      return (value, true)

def sstore (db : Database) (address : Address) (key new : U256) :
    Journaled DatabaseError (U256 × U256 × U256 × Bool) := do
  let (present, isCold) ← sload db address key
  let acc ← account address
  let slot ← Act.unwrap (acc.storage key)
  if present = new then return (slot.originalValue, present, new, isCold)
  push (.storageChange address key (some present))
  putAccount address
    { acc with storage := update acc.storage key (some { slot with presentValue := new }) }
  return (slot.originalValue, present, new, isCold)

def log (entry : Log) : Journaled ε Unit :=
  Act.modify fun journaled => { journaled with logs := journaled.logs ++ [entry] }

/-- The address of the third precompile, which stays touched. -/
def PRECOMPILE3 : Address := 3

/-- `state.get_mut(&address).unwrap()` with a change -/
def change (state : State) (address : Address) (with_ : Account → Option Account) :
    Option State := do
  let acc ← state address
  let changed ← with_ acc
  return update state address (some changed)

/-- One round of `journal_revert`. -/
def undo (isSpuriousDragonEnabled : Bool) (entry : JournalEntry) (state : State) :
    Option State :=
  match entry with
  | .accountLoaded address =>
      if isSpuriousDragonEnabled ∧ address = PRECOMPILE3 then some state
      else some (update state address none)
  | .accountTouched address =>
      if isSpuriousDragonEnabled ∧ address = PRECOMPILE3 then some state
      else change state address fun acc => some { acc with isTouched := false }
  | .accountDestroyed address target wasDestroyed hadBalance => do
      let state ← change state address fun acc =>
        some { acc.withBalance (acc.info.balance + hadBalance) with isDestroyed := wasDestroyed }
      if address ≠ target then
        change state target fun acc => some (acc.withBalance (acc.info.balance - hadBalance))
      else some state
  | .balanceTransfer source target balance => do
      let state ← change state source fun acc =>
        some (acc.withBalance (acc.info.balance + balance))
      change state target fun acc => some (acc.withBalance (acc.info.balance - balance))
  | .nonceChange address =>
      change state address fun acc =>
        if acc.info.nonce = 0 then none
        else some { acc with info := { acc.info with nonce := acc.info.nonce - 1 } }
  | .storageChange address key hadValue =>
      change state address fun acc =>
        match hadValue with
        | some value => (acc.storage key).map fun slot =>
            { acc with storage := update acc.storage key (some { slot with presentValue := value }) }
        | none => some { acc with storage := update acc.storage key none }
  | .codeChange address hadCode =>
      change state address fun acc =>
        some { acc with info := { acc.info with codeHash := hadCode.hash, code := some hadCode } }

/-- `journal_revert`, on entries that come newest first -/
def journalRevert (isSpuriousDragonEnabled : Bool) :
    List JournalEntry → State → Option State
  | [], state => some state
  | entry :: older, state => do
      let state ← undo isSpuriousDragonEnabled entry state
      journalRevert isSpuriousDragonEnabled older state

def checkpoint : Journaled ε JournalCheckpoint := do
  let journaled ← Act.get
  Act.modify fun journaled =>
    { journaled with depth := journaled.depth + 1, journal := [] :: journaled.journal }
  return ⟨journaled.logs.length, journaled.journal.length⟩

/-- `self.depth -= 1` -/
def leave : Journaled ε Unit := fun journaled =>
  if journaled.depth = 0 then .fault
  else .returned () { journaled with depth := journaled.depth - 1 }

def checkpointCommit : Journaled ε Unit := leave

def checkpointRevert (checkpoint : JournalCheckpoint) : Journaled ε Unit := do
  leave
  let journaled ← Act.get
  let leng := journaled.journal.length
  if leng < checkpoint.journalI then Act.fault
  let frames := journaled.journal.take (leng - checkpoint.journalI)
  let state ← Act.unwrap
    (journalRevert (!journaled.isBeforeSpuriousDragon) frames.flatten journaled.state)
  Act.modify fun journaled =>
    { journaled with
      state := state
      logs := journaled.logs.take checkpoint.logI
      journal := journaled.journal.drop (leng - checkpoint.journalI) }

end JournaledState

end Revm
