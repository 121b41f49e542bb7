import BlazCtf.Lib.Checked
import BlazCtf.Lib.Bytes
import Mathlib.Order.Defs.LinearOrder

set_option autoImplicit false

namespace CyberCartel

open Evm

/-- `keccak256` and `ecrecover` (zero where there is no signer), on 32-byte words
`H` with their order and `bytes32(0)`. -/
structure Crypto (H : Type) where
  zero : H
  keccak256 : List UInt8 → H
  ecrecover : H → UInt8 → Nat → Nat → Address

instance instNeZeroUint32 : NeZero (2 ^ 32) := ⟨by decide⟩

instance instNeZeroUint24 : NeZero (2 ^ 24) := ⟨by decide⟩

instance instNeZeroUint8 : NeZero (2 ^ 8) := ⟨by decide⟩

structure Proposal where
  expiredAt : Fin (2 ^ 32)
  gas : Fin (2 ^ 24)
  nonce : Fin (2 ^ 8)
  data : List UInt8
  deriving DecidableEq

/-- A signature in memory: its bytes, and what lies behind them, which
`recoverSigner` reads when there are fewer than 65. -/
structure Signature where
  bytes : List UInt8
  beyond : Nat → UInt8

def Signature.read (signature : Signature) (start count : Nat) : List UInt8 :=
  (List.range count).map fun offset =>
    signature.bytes.getD (start + offset) (signature.beyond (start + offset))

structure BodyGuard where
  treasury : Address
  lastNonce : Fin (2 ^ 8)
  minVotes : Nat
  guardians : Address → Bool

def digestSeed : List UInt8 := [0x80, 0x84, 0x03, 0x97, 0xb6, 0x52, 0x01, 0x80, 0x80]

namespace BodyGuard

/-- The constructor; the length of the list is cast to `uint8`. -/
def deploy (treasury : Address) (guardians : List Address) : BodyGuard where
  treasury := treasury
  lastNonce := 0
  minVotes := guardians.length % 2 ^ 8
  guardians := fun account => account ∈ guardians

section Contract

variable {H : Type} (crypto : Crypto H) (guard : BodyGuard)

/-- `abi.encodePacked(expiredAt, gas, data, nonce, treasury, DIGEST_SEED)`. -/
def packProposal (treasury : Address) (proposal : Proposal) : List UInt8 :=
  Bytes.toBE 4 proposal.expiredAt ++ (Bytes.toBE 3 proposal.gas ++ (proposal.data ++
    (Bytes.toBE 1 proposal.nonce ++ (Bytes.toBE 20 treasury ++ digestSeed))))

def hashProposal (proposal : Proposal) : H :=
  crypto.keccak256 (packProposal guard.treasury proposal)

def recoverSigner (digest : H) (signature : Signature) : Address :=
  let r := Bytes.ofBE (signature.read 0 32)
  let s := Bytes.ofBE (signature.read 32 32)
  let v := UInt8.ofNat (Bytes.ofBE (signature.read 64 1))
  crypto.ecrecover digest v r s

variable [LinearOrder H]

/-- The loop of `validateSignatures`, which orders the hashes of the signatures
and not the signers. -/
def validateFrom (digest : H) : H → List Signature → Outcome Bool
  | _, [] => pure true
  | lastSignHash, signature :: rest => do
      let signer := recoverSigner crypto digest signature
      require (guard.guardians signer = true) "Not a guardian"
      let signHash := crypto.keccak256 signature.bytes
      if signHash ≤ lastSignHash then pure false
      else validateFrom digest signHash rest

def validateSignatures (digest : H) (signatures : List Signature) : Outcome Bool :=
  validateFrom crypto guard digest crypto.zero signatures

/-- The number of signatures that `propose` asks for. -/
def votesNeeded (msgSender : Address) : Outcome Nat :=
  if guard.guardians msgSender = true then checkedSub guard.minVotes 1 "minVotes_--"
  else pure guard.minVotes

/-- `propose` up to its call of the treasury. -/
def authorise (msgSender : Address) (timestamp : Nat) (proposal : Proposal)
    (signatures : List Signature) : Outcome BodyGuard := do
  require (proposal.expiredAt > timestamp) "Expired"
  require (proposal.nonce > guard.lastNonce) "Invalid nonce"
  let minVotes ← guard.votesNeeded msgSender
  require (minVotes ≤ signatures.length) "Not enough signatures"
  let valid ← validateSignatures crypto guard (hashProposal crypto guard proposal) signatures
  require (valid = true) "Invalid signatures"
  pure { guard with lastNonce := proposal.nonce }

end Contract

/-- A call of `propose`, with what the treasury does when it is called: further
calls of `propose`, and whether its own call succeeds. -/
inductive Attempt where
  | propose (msgSender : Address) (timestamp : Nat) (proposal : Proposal)
      (signatures : List Signature) (nested : List Attempt) (success : Bool)

def Attempt.proposal : Attempt → Proposal
  | .propose _ _ proposal _ _ _ => proposal

section Run

variable {H : Type} [LinearOrder H] (crypto : Crypto H)

mutual

/-- `propose`, with the proposals that it and the calls inside it execute, in the
order of their treasury calls. -/
def propose (guard : BodyGuard) : Attempt → Outcome (BodyGuard × List Proposal)
  | .propose msgSender timestamp proposal signatures nested success => do
      let guard ← authorise crypto guard msgSender timestamp proposal signatures
      let (guard, executed) := proposeAll guard nested
      require (success = true) "Execution failed"
      pure (guard, proposal :: executed)

/-- Calls made one after another; one that fails changes nothing. -/
def proposeAll (guard : BodyGuard) : List Attempt → BodyGuard × List Proposal
  | [] => (guard, [])
  | attempt :: rest =>
      match propose guard attempt with
      | .ok (guard, executed) =>
          let (guard, later) := proposeAll guard rest
          (guard, executed ++ later)
      | .error _ => proposeAll guard rest

end

end Run

end BodyGuard

end CyberCartel
