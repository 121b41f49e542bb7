import BlazCtf.Admin.Precompile

set_option autoImplicit false

namespace Admin

open Evm

/-- The address of the admin precompile, `ADMIN` in the contract. -/
def admin : Address := 1337

/-- The three owner slots, in the order `o0`, `o1`, `o2`. -/
abbrev Owners := Fin 3 → Address

/-- The arguments `vs`, `rs` and `ss`. -/
structure Signatures where
  vs : Fin 3 → UInt8
  rs : Fin 3 → Nat
  ss : Fin 3 → Nat
  deriving DecidableEq

/-- The external functions of `SimpleMultiSigGov`. -/
inductive GovCall where
  | execTransaction (target : Address) (data : List UInt8) (signatures : Signatures)
  | emergencyStop
  | reloadConfig (kind : Nat) (data : List UInt8)
  deriving DecidableEq

/-- The hash functions and the signature recovery of the chain, and the
dispatcher of the compiled contract: which call some call data stands for. -/
structure Env where
  keccak256 : List UInt8 → List UInt8
  sha256 : List UInt8 → List UInt8
  ecrecover : List UInt8 → UInt8 → Nat → Nat → Address
  decode : List UInt8 → Option GovCall

namespace Env

variable (env : Env)

/-- `sha256(abi.encodePacked(keccak256(abi.encodePacked(to, data))))`. -/
def transactionHash (target : Address) (data : List UInt8) : List UInt8 :=
  env.sha256 (env.keccak256 (Bytes.toBE 20 target ++ data))

/-- What `ecrecover` returns for the signature in one slot. -/
def recovered (target : Address) (data : List UInt8) (signatures : Signatures) (slot : Fin 3) :
    Address :=
  env.ecrecover (env.transactionHash target data) (signatures.vs slot) (signatures.rs slot)
    (signatures.ss slot)

/-- The counter `cnt` of `execTransaction`. -/
def approvals (owners : Owners) (target : Address) (data : List UInt8) (signatures : Signatures) :
    Nat :=
  let cnt := 0
  let cnt := if env.recovered target data signatures 0 = owners 0 then cnt + 1 else cnt
  let cnt := if env.recovered target data signatures 1 = owners 1 then cnt + 1 else cnt
  if env.recovered target data signatures 2 = owners 2 then cnt + 1 else cnt

end Env

/-- `abi.decode` of one value of a type that is narrower than a word. -/
def abiDecode (bound : Nat) (data : List UInt8) : Outcome Nat :=
  if 32 ≤ data.length ∧ Bytes.ofBE (data.take 32) < bound then .ok (Bytes.ofBE (data.take 32))
  else .error .bare

/-- The bytes that `reloadConfig` sends to the precompile, if it sends any. -/
def adminInput (data : List UInt8) (kind : Nat) : Outcome (Option (List UInt8)) :=
  if kind = 1 then do
    let newAdmin ← abiDecode (2 ^ 160) data
    pure (some ([0x02, 0x01] ++ Bytes.toBE 20 newAdmin))
  else if kind = 2 then do
    let requiredGas ← abiDecode (2 ^ 64) data
    pure (some ([0x02, 0x02] ++ Bytes.toBE 8 requiredGas))
  else if kind = 3 then pure none
  else if kind = 4 then pure (some ([0x02, 0x04] ++ data))
  else pure none

/-- Two different slots match when the counter reaches two. -/
theorem two_slots_of_approvals {env : Env} {owners : Owners} {target : Address}
    {data : List UInt8} {signatures : Signatures}
    (enough : 2 ≤ env.approvals owners target data signatures) :
    ∃ first second, first ≠ second ∧
      env.recovered target data signatures first = owners first ∧
      env.recovered target data signatures second = owners second := by
  simp only [Env.approvals] at enough
  by_cases zero : env.recovered target data signatures 0 = owners 0
  · by_cases one : env.recovered target data signatures 1 = owners 1
    · exact ⟨0, 1, by decide, zero, one⟩
    · by_cases two : env.recovered target data signatures 2 = owners 2
      · exact ⟨0, 2, by decide, zero, two⟩
      · simp only [zero, one, two, ↓reduceIte] at enough
        omega
  · by_cases one : env.recovered target data signatures 1 = owners 1
    · by_cases two : env.recovered target data signatures 2 = owners 2
      · exact ⟨1, 2, by decide, one, two⟩
      · simp only [zero, one, two, ↓reduceIte] at enough
        omega
    · by_cases two : env.recovered target data signatures 2 = owners 2
      · simp only [zero, one, two, ↓reduceIte] at enough
        omega
      · simp only [zero, one, two, ↓reduceIte] at enough
        omega

/-- The call data of a function of the contract, as the ABI encodes it. -/
def abiEncode : GovCall → List UInt8
  | .emergencyStop => [0x63, 0xa5, 0x99, 0xa4]
  | .reloadConfig kind data =>
      [0xa4, 0x9a, 0xe8, 0xdc] ++ Bytes.toBE 32 kind ++ Bytes.toBE 32 0x40 ++ encodeBytes data
  | .execTransaction target data signatures =>
      [0x9f, 0x36, 0x6f, 0x39] ++ Bytes.toBE 32 target ++ Bytes.toBE 32 0x160 ++
        words (fun slot => (signatures.vs slot).toNat) ++ words signatures.rs ++
        words signatures.ss ++ encodeBytes data
where
  words (values : Fin 3 → Nat) : List UInt8 :=
    Bytes.toBE 32 (values 0) ++ Bytes.toBE 32 (values 1) ++ Bytes.toBE 32 (values 2)
  encodeBytes (data : List UInt8) : List UInt8 :=
    Bytes.toBE 32 data.length ++ data ++ List.replicate ((32 - data.length % 32) % 32) 0

/-- A chain for concrete runs of the given calls: its hashes are the bytes
themselves, and a signature with `v = 27` names its signer in `r`. -/
def sampleEnv (calls : List GovCall) : Env where
  keccak256 bytes := bytes
  sha256 bytes := bytes
  ecrecover _ v r _ := if v = 27 then Fin.ofNat (2 ^ 160) r else 0
  decode bytes := calls.find? fun made => abiEncode made = bytes

/-- Signatures of `0xa0` and `0xa1`, and none in the last slot. -/
def sampleSignatures : Signatures where
  vs slot := if slot = 2 then 0 else 27
  rs slot := 0xa0 + slot.val
  ss _ := 1

/-- The owners `0xa0`, `0xa1` and `0xa2`. -/
def sampleOwners : Owners := fun slot => Fin.ofNat (2 ^ 160) (0xa0 + slot.val)

end Admin
