import BlazCtf.Admin.MultiSig
import BlazCtf.Lib.Run

set_option autoImplicit false

namespace Admin

open Evm
open Function (update)

/-- The code of an account: none, the `SimpleMultiSigGov` contract, or anything else. -/
inductive Code where
  | empty
  | gov
  | other
  deriving DecidableEq

/-- The journaled state, as far as it matters here: codes, nonces, the three
first storage slots, and the accounts that are to be removed. -/
structure World where
  code : Address → Code
  nonce : Address → Nat
  slots : Address → Owners
  destroyed : List Address

namespace World

def incNonce (world : World) (address : Address) : World :=
  { world with nonce := update world.nonce address (world.nonce address + 1) }

/-- What `create_account` prepares, with the nonce of a new contract. -/
def createAccount (world : World) (address : Address) : World :=
  { world with
    nonce := update world.nonce address 1
    slots := update world.slots address fun _ => 0 }

def setCode (world : World) (address : Address) (code : Code) : World :=
  { world with code := update world.code address code }

end World

/-- The code that a call frame runs: the modelled contract in one of its
functions, on the owner slots it reads, or other code. -/
inductive Running where
  | other
  | gov (call : GovCall) (owners : Owners)
  deriving DecidableEq

/-- A call frame: its `CallContext`, call data and static flag. -/
structure Frame where
  context : CallContext
  input : List UInt8
  isStatic : Bool
  running : Running
  deriving DecidableEq

/-- A call of the admin precompile: the node before and after it, the frames it
was made from (the innermost first), and the code and the owner slots of `MULTISIG` at
that time. -/
structure AdminCall where
  before : Node
  after : Node
  context : CallContext
  input : List UInt8
  callers : List Frame
  multisigCode : Code
  multisigSlots : Owners
  deriving DecidableEq

/-- An `execTransaction` that makes its call. -/
structure Execution where
  contract : Address
  owners : Owners
  target : Address
  data : List UInt8
  signatures : Signatures
  deriving DecidableEq

/-- The journaled state and the node process. The lists are not read by the code:
they record the admin calls and the executions, also of frames that revert. -/
structure State where
  world : World
  node : Node
  adminCalls : List AdminCall
  executions : List Execution

inductive Exit where
  | ok
  | revert
  | abort
  deriving DecidableEq

/- What the frames of a transaction do where it is not modelled. For other code
this is a list of moves; for the modelled contract it is the gas it has left at
its call, what its callee does, and whether the gas lasts to its end. -/
mutual

inductive Move where
  | call (scheme : CallScheme) (target : Address) (value : Nat) (input : List UInt8) (gas : Nat)
      (entered : Bool) (callee : Script)
  | create (address : Address) (entered : Bool) (init : Script) (deployed : Code)
  | setSlots (owners : Owners)
  | selfdestruct

inductive Script where
  | code (moves : List Move) (returns : Bool)
  | gov (reaches : Bool) (gasLeft : Nat) (callee : Script) (finishes : Bool)

end

/-- The parts of `call_inner` that do not depend on the callee: an end other than
a return reverts the journal to the checkpoint, and nothing else. -/
def settle (checkpoint : World) : State × Exit → State × Exit
  | (state, .ok) => (state, .ok)
  | (state, exit) => ({ state with world := checkpoint }, exit)

/-- Addresses that `call_inner` dispatches to native code. -/
def isPrecompile (address : Address) : Bool :=
  (1 ≤ address ∧ address ≤ 9) ∨ address = admin

/-- A call that loses the node is the last thing that happens in it. -/
def runAdmin (callers : List Frame) (state : State) (context : CallContext) (input : List UInt8)
    (gas : Nat) : State × Exit :=
  let (after, result) := adminFuncRun state.node input gas context
  let exit := match result with
    | .ok _ _ => if after.lost && !state.node.lost then .abort else .ok
    | .err _ => .revert
    | .panic => .abort
  let made : AdminCall := ⟨state.node, after, context, input, callers,
    state.world.code state.node.multisig, state.world.slots state.node.multisig⟩
  ({ state with node := after, adminCalls := made :: state.adminCalls }, exit)

/-- How a frame makes a call, given the frames above it (itself first). -/
abbrev Caller := List Frame → State → CallContext → Bool → List UInt8 → Nat → Script → State × Exit

/-- The `CallContext` that the interpreter builds for a call made by a frame. -/
def callContext (frame : Frame) (scheme : CallScheme) (target : Address) (value : Nat) :
    CallContext :=
  match scheme with
  | .call | .staticCall => ⟨target, frame.context.address, target, value, scheme⟩
  | .callCode => ⟨frame.context.address, frame.context.address, target, value, scheme⟩
  | .delegateCall =>
      ⟨frame.context.address, frame.context.caller, target, frame.context.apparentValue, scheme⟩

section Contract

variable (env : Env) (call : Caller) (callers : List Frame) (frame : Frame)

/-- `ADMIN.staticcall{gas: 2000}(..)`. Its result is not looked at, but a panic
ends everything. -/
def staticcallAdmin (state : State) (gasLeft : Nat) (input : List UInt8) : State × Exit :=
  match call (frame :: callers) state (callContext frame .staticCall admin 0) true input
    (min (gasLeft - gasLeft / 64) 2000) (.code [] true) with
  | (state, .abort) => (state, .abort)
  | (state, _) => (state, .ok)

def emergencyStop (state : State) (gasLeft : Nat) : State × Exit :=
  if frame.context.caller ≠ frame.context.address then (state, .revert)
  else staticcallAdmin call callers frame state gasLeft [0x01]

def reloadConfig (state : State) (gasLeft kind : Nat) (data : List UInt8) : State × Exit :=
  if frame.context.caller ≠ frame.context.address then (state, .revert)
  else
    match adminInput data kind with
    | .error _ => (state, .revert)
    | .ok none => (state, .ok)
    | .ok (some input) => staticcallAdmin call callers frame state gasLeft input

def execTransaction (state : State) (owners : Owners) (target : Address) (data : List UInt8)
    (signatures : Signatures) (gasLeft : Nat) (callee : Script) : State × Exit :=
  if env.approvals owners target data signatures < 2 then (state, .revert)
  else
    let made : Execution := ⟨frame.context.address, owners, target, data, signatures⟩
    let state := { state with executions := made :: state.executions }
    call (frame :: callers) state (callContext frame .call target 0) frame.isStatic data
      (gasLeft - gasLeft / 64) callee

def runFunction (state : State) (owners : Owners) (gasLeft : Nat) (callee : Script) :
    GovCall → State × Exit
  | .execTransaction target data signatures =>
      execTransaction env call callers frame state owners target data signatures gasLeft callee
  | .emergencyStop => emergencyStop call callers frame state gasLeft
  | .reloadConfig kind data => reloadConfig call callers frame state gasLeft kind data

/-- A frame of the contract, whose functions are not payable. -/
def runGov (state : State) (govCall : GovCall) (owners : Owners) : Script → State × Exit
  | .code _ _ => (state, .revert)
  | .gov false _ _ _ => (state, .revert)
  | .gov true gasLeft callee finishes =>
      if frame.context.apparentValue ≠ 0 then (state, .revert)
      else
        match runFunction env call callers frame state owners gasLeft callee govCall with
        | (state, .ok) => (state, if finishes then .ok else .revert)
        | failed => failed

end Contract

/-- How a frame goes on after a move. -/
inductive Next where
  | goOn
  | stop (exit : Exit)
  deriving DecidableEq

section Moves

variable (call : Caller) (callers : List Frame) (frame : Frame)

/-- The frame of the initialisation code of a new account. -/
def initFrame (creator : Frame) (address : Address) : Frame :=
  ⟨⟨address, creator.context.address, address, 0, .call⟩, [], false, .other⟩

/-- `create_inner` up to its checkpoint, the collision check included, and the
deposit of the returned code. -/
def runCreate (runInit : List Frame → Frame → State → Script → State × Exit) (state : State)
    (address : Address) (init : Script) (deployed : Code) : State × Next :=
  let world := state.world.incNonce frame.context.address
  if world.code address ≠ .empty ∨ world.nonce address ≠ 0 ∨ isPrecompile address then
    ({ state with world }, .goOn)
  else
    match settle world (runInit (frame :: callers) (initFrame frame address)
      { state with world := world.createAccount address } init) with
    | (state, .ok) => ({ state with world := state.world.setCode address deployed }, .goOn)
    | (state, .revert) => (state, .goOn)
    | (state, .abort) => (state, .stop .abort)

def runMove (runInit : List Frame → Frame → State → Script → State × Exit) (state : State) :
    Move → State × Next
  | .call scheme target value input gas entered callee =>
      if frame.isStatic ∧ scheme = .call ∧ value ≠ 0 then (state, .stop .revert)
      else if entered = false then (state, .goOn)
      else
        let isStatic := frame.isStatic || scheme = .staticCall
        match call (frame :: callers) state (callContext frame scheme target value) isStatic input
          gas callee with
        | (state, .abort) => (state, .stop .abort)
        | (state, _) => (state, .goOn)
  | .create address entered init deployed =>
      if frame.isStatic then (state, .stop .revert)
      else if entered = false then (state, .goOn)
      else runCreate callers frame runInit state address init deployed
  | .setSlots owners =>
      if frame.isStatic then (state, .stop .revert)
      else
        ({ state with world := { state.world with
          slots := update state.world.slots frame.context.address owners } }, .goOn)
  | .selfdestruct =>
      if frame.isStatic then (state, .stop .revert)
      else
        ({ state with world := { state.world with
          destroyed := frame.context.address :: state.world.destroyed } }, .stop .ok)

def runMoves (runInit : List Frame → Frame → State → Script → State × Exit) (returns : Bool) :
    State → List Move → State × Exit
  | state, [] => (state, if returns then .ok else .revert)
  | state, move :: rest =>
      match runMove call callers frame runInit state move with
      | (state, .goOn) => runMoves runInit returns state rest
      | (state, .stop exit) => (state, exit)

end Moves

/-- The code of a frame that is not the modelled contract. -/
def runOther (call : Caller) (runInit : List Frame → Frame → State → Script → State × Exit)
    (callers : List Frame) (frame : Frame) (state : State) : Script → State × Exit
  | .gov _ _ _ _ => (state, .revert)
  | .code moves returns => runMoves call callers frame runInit returns state moves

/-- `call_inner` and the initialisation code of `create_inner`, with the number of
call frames that may still be stacked. -/
def evm (env : Env) : Nat → Caller × (List Frame → Frame → State → Script → State × Exit)
  | 0 => ⟨fun _ state _ _ _ _ _ => (state, .revert), fun _ _ state _ => (state, .revert)⟩
  | depth + 1 =>
      let inner := evm env depth
      ⟨fun callers state context isStatic input gas script =>
        if context.codeAddress = admin then
          settle state.world (runAdmin callers state context input gas)
        else if isPrecompile context.codeAddress then (state, .ok)
        else
          match state.world.code context.codeAddress with
          | .empty => (state, .ok)
          | .gov =>
              match env.decode input with
              | none => (state, .revert)
              | some govCall =>
                  let owners := state.world.slots context.address
                  let frame : Frame := ⟨context, input, isStatic, .gov govCall owners⟩
                  settle state.world
                    (runGov env inner.1 callers frame state govCall owners script)
          | .other =>
              let frame : Frame := ⟨context, input, isStatic, .other⟩
              settle state.world (runOther inner.1 inner.2 callers frame state script),
       fun callers frame state script => runOther inner.1 inner.2 callers frame state script⟩

def callStackLimit : Nat := 1024

/-- A transaction, with what its frames do. -/
structure Transaction where
  sender : Address
  target : Option Address
  value : Nat
  input : List UInt8
  gas : Nat
  newAddress : Address
  deployed : Code
  script : Script

/-- The accounts that destroyed themselves are removed at the end of a transaction. -/
def World.finalize (world : World) : World where
  code address := if address ∈ world.destroyed then .empty else world.code address
  nonce address := if address ∈ world.destroyed then 0 else world.nonce address
  slots address := if address ∈ world.destroyed then fun _ => 0 else world.slots address
  destroyed := []

/-- The sender, which stands below the frames of a transaction. -/
def Transaction.origin (tx : Transaction) : Frame :=
  ⟨⟨tx.sender, tx.sender, tx.sender, tx.value, .call⟩, [], false, .other⟩

def execute (env : Env) (state : State) (tx : Transaction) : State × Exit :=
  let inner := evm env (callStackLimit + 1)
  match tx.target with
  | some target =>
      inner.1 [tx.origin] { state with world := state.world.incNonce tx.sender }
        (callContext tx.origin .call target tx.value) false tx.input tx.gas tx.script
  | none =>
      match runCreate [] tx.origin inner.2 state tx.newAddress tx.script tx.deployed with
      | (state, .goOn) => (state, .ok)
      | (state, .stop exit) => (state, exit)

/-- `transact`: a sender with code is rejected, and a panic commits nothing. A lost
node serves nothing more. -/
def transact (env : Env) (state : State) (tx : Transaction) : State :=
  if state.node.lost = true ∨ state.world.code tx.sender ≠ .empty then state
  else
    match execute env state tx with
    | (after, .abort) => { after with world := state.world }
    | (after, _) => { after with world := after.world.finalize }

/-- A state whose records are empty. -/
def State.boot (world : World) (node : Node) : State := ⟨world, node, [], []⟩

/-- `eth_call`: any sender, and the journaled state is thrown away. The records
keep what transactions do. -/
def simulate (env : Env) (state : State) (tx : Transaction) : State :=
  if state.node.lost = true then state
  else { state with node := (execute env (State.boot state.world state.node) tx).1.node }

/-- What the node is asked to do. -/
inductive Request where
  | transaction (tx : Transaction)
  | simulation (tx : Transaction)

def serve (env : Env) (state : State) : Request → State
  | .transaction tx => transact env state tx
  | .simulation tx => simulate env state tx

/-- A transaction that is executed to its end, successfully or not. -/
def Stored (env : Env) (state : State) (tx : Transaction) : Prop :=
  state.node.lost = false ∧ state.world.code tx.sender = .empty ∧ (execute env state tx).2 ≠ .abort

instance (env : Env) (state : State) (tx : Transaction) : Decidable (Stored env state tx) :=
  inferInstanceAs (Decidable (_ ∧ _ ∧ _))

/-- The transactions that the chain stores while it serves some requests. -/
def committed (env : Env) : State → List Request → List Transaction
  | _, [] => []
  | state, .transaction tx :: rest =>
      if Stored env state tx then tx :: committed env (transact env state tx) rest
      else committed env (transact env state tx) rest
  | state, .simulation tx :: rest => committed env (simulate env state tx) rest

end Admin
