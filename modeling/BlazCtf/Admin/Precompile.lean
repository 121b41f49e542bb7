import BlazCtf.Lib.Checked
import BlazCtf.Lib.Bytes

set_option autoImplicit false

namespace Admin

open Evm

inductive CallScheme where
  | call
  | callCode
  | delegateCall
  | staticCall
  deriving DecidableEq

structure CallContext where
  address : Address
  caller : Address
  codeAddress : Address
  apparentValue : Nat
  scheme : CallScheme
  deriving DecidableEq

inductive ConfigKind where
  | multisigAddress
  | requiredGas
  | setBalance
  | dumpState
  | unknown
  deriving DecidableEq

def ConfigKind.fromU8 (value : UInt8) : ConfigKind :=
  if value = 1 then .multisigAddress
  else if value = 2 then .requiredGas
  else if value = 3 then .setBalance
  else if value = 4 then .dumpState
  else .unknown

inductive AdminCallKind where
  | emergencyStop
  | reloadRuntimeConfig
  | mint
  | burn
  | unknown
  deriving DecidableEq

def AdminCallKind.fromU8 (value : UInt8) : AdminCallKind :=
  if value = 1 then .emergencyStop
  else if value = 2 then .reloadRuntimeConfig
  else if value = 3 then .mint
  else if value = 4 then .burn
  else .unknown

/-- The node process as far as the precompile can change it: the two static
registers, the number of SIGTERMs it sent to itself, and whether it is lost: it has
panicked (a release build aborts), or has written behind a block of its heap. What
follows in a lost node is not modelled. -/
structure Node where
  multisig : Address
  requiredGas : Nat
  terminations : Nat
  lost : Bool
  deriving DecidableEq

/-- The registers of a node that has just started. -/
def Node.start : Node := ⟨0x31337, 2000, 0, false⟩

inductive Error where
  | outOfGas
  | enterpriseHalt
  deriving DecidableEq

/-- The result of a precompile, or a panic of the thread that runs it. -/
inductive PrecompileResult where
  | ok (gas : Nat) (output : List UInt8)
  | err (error : Error)
  | panic
  deriving DecidableEq

/-- A native function returns a `u64` or panics. -/
abbrev Native := Option (Node × Nat)

def isMultisig (node : Node) (context : CallContext) : Bool :=
  context.caller = node.multisig ∧ context.scheme = .staticCall

def fnEmergencyStop (node : Node) (_i : List UInt8) : Native :=
  some ({ node with terminations := node.terminations + 1 }, 0)

/-- `B160::from_slice` panics on any length but 20. -/
def fnReloadMultisigAddress (node : Node) (x : List UInt8) : Native :=
  if x.length = 20 then
    some ({ node with multisig := Fin.ofNat (2 ^ 160) (Bytes.ofBE x) }, 0)
  else none

/-- `copy_from_slice` panics on any length but 8. -/
def fnReloadRequiredGas (node : Node) (x : List UInt8) : Native :=
  if x.length = 8 then some ({ node with requiredGas := Bytes.ofBE x }, 0) else none

def fnSetBalance (node : Node) (_x : List UInt8) : Native := some (node, 0)

/-- The loop reads `x[i]` for `i` up to and including the smaller of `x.len()` and
`0x10`, so it panics on every input that is not longer than `0x10`. On any other its
last round writes behind the block of `0x100` bytes. What is then written to the dump
file is not a slice of the input, and the file stays empty. -/
def fnDumpState (node : Node) (x : List UInt8) : Native :=
  if x.length ≤ 0x10 then none else some ({ node with lost := true }, 0)

def fnReloadRuntimeConfig (node : Node) : List UInt8 → Native
  | [] => some (node, 1)
  | kind :: rest =>
      match ConfigKind.fromU8 kind with
      | .multisigAddress => fnReloadMultisigAddress node rest
      | .requiredGas => fnReloadRequiredGas node rest
      | .setBalance => fnSetBalance node rest
      | .dumpState => fnDumpState node rest
      | .unknown => some (node, 1)

def fnMint (node : Node) (_i : List UInt8) : Native := some (node, 0)

def fnBurn (node : Node) (_i : List UInt8) : Native := some (node, 0)

/-- The dispatch of `admin_func_run` on the first byte. -/
def adminDispatch (node : Node) (kind : UInt8) (rest : List UInt8) : Native :=
  match AdminCallKind.fromU8 kind with
  | .emergencyStop => fnEmergencyStop node rest
  | .reloadRuntimeConfig => fnReloadRuntimeConfig node rest
  | .mint => fnMint node rest
  | .burn => fnBurn node rest
  | .unknown => some (node, 2 ^ 64 - 1)

def adminFuncRun (node : Node) (i : List UInt8) (targetGas : Nat) (context : CallContext) :
    Node × PrecompileResult :=
  if node.requiredGas ≠ targetGas then (node, .err .outOfGas)
  else
    match i with
    | [] => (node, .err .enterpriseHalt)
    | kind :: rest =>
        if isMultisig node context = false then (node, .err .enterpriseHalt)
        else
          match adminDispatch node kind rest with
          | none => ({ node with lost := true }, .panic)
          | some (after, 0) => (after, .ok node.requiredGas [0])
          | some (after, 1) => (after, .ok node.requiredGas [1])
          | some (after, _) => (after, .err .enterpriseHalt)

/-- A call that is not a STATICCALL by the registered account changes nothing. -/
theorem adminFuncRun_unauthorised {node : Node} {i : List UInt8} {targetGas : Nat}
    {context : CallContext} (refused : isMultisig node context = false) :
    (adminFuncRun node i targetGas context).1 = node := by
  unfold adminFuncRun
  split
  · rfl
  · cases i with
    | nil => rfl
    | cons kind rest => rfl

/-- Who made an admin call that changed the node. -/
theorem caller_of_effect {node : Node} {i : List UInt8} {targetGas : Nat} {context : CallContext}
    (effect : (adminFuncRun node i targetGas context).1 ≠ node) :
    context.caller = node.multisig ∧ context.scheme = .staticCall := by
  by_contra refused
  apply effect
  apply adminFuncRun_unauthorised
  simpa only [isMultisig, decide_eq_false_iff_not] using refused

end Admin
