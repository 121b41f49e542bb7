import BlazCtf.Lib.Solana

set_option autoImplicit false

namespace Safusol

open Solana

def INIT : Nat := 0xe1c7392a
def REGISTER : Nat := 0x1aa3a008
def DEPOSIT : Nat := 0xb6b55f25
def WITHDRAW : Nat := 0x2e1a7d4d
def TOGGLE : Nat := 0x40a3d246

def SIZE_PUBKEY : Nat := 32

/-- The size that every account gets that the program has created. -/
def MAX_PERMITTED_DATA_INCREASE : Nat := 10240

/-- The six accounts that the entrypoint reads by position, and the instruction data. -/
structure Instruction where
  caller : Meta
  vault : Meta
  balance : Meta
  program : Meta
  system : Meta
  config : Meta
  data : List UInt8

namespace Instruction

def accounts (instruction : Instruction) : List Meta :=
  [instruction.caller, instruction.vault, instruction.balance, instruction.program,
    instruction.system, instruction.config]

variable (runtime : Runtime) (instruction : Instruction)

/-- The program does not look at the length of the data, which is followed by the
program id in its input. -/
def read (offset count : Nat) : Nat :=
  Bytes.ofLE (Buffer.load (instruction.data ++ runtime.program.bytes) offset count)

def selector : Nat := instruction.read runtime 0 4

def bump (index : Nat) : UInt8 := UInt8.ofNat (instruction.read runtime (4 + index) 1)

def amount : UInt64 := UInt64.ofNat (instruction.read runtime 4 8)

end Instruction

/-! `ConfigAccount` is 32 bytes of owner and a flag, `BalanceAccount` one word; which
of them an account holds is nowhere recorded. -/

def ownerOf (data : List UInt8) : List UInt8 := Buffer.load data 0 SIZE_PUBKEY

def locked (data : List UInt8) : Bool := data.getD SIZE_PUBKEY 0 ≠ 0

def balanceOf (data : List UInt8) : UInt64 := Buffer.loadU64 data 0

def setBalance (ledger : Ledger) (key : Pubkey) (balance : UInt64) : Ledger :=
  setData ledger key (Buffer.storeU64 (ledger key).data 0 balance)

def setLocked (ledger : Ledger) (key : Pubkey) (locked : Bool) : Ledger :=
  setData ledger key (Buffer.store (ledger key).data SIZE_PUBKEY [if locked then 1 else 0])

def setOwner (ledger : Ledger) (key owner : Pubkey) : Ledger :=
  setData ledger key (Buffer.store (ledger key).data 0 owner.bytes)

section Program

variable (runtime : Runtime) (ledger : Ledger) (instruction : Instruction)

/-- Invoke the program passed as `SYSTEM_ID`. One that passes this very program gets
nowhere: it would be entered with two accounts, and reads the key of the fourth. -/
def invoke (call : SystemInstruction) (seeds : List (List (List UInt8))) (ledger : Ledger) :
    Option Ledger :=
  invokeSigned runtime instruction.accounts instruction.system.key call seeds ledger

/-- The creation of an account for the program. The first four bytes of
`creation_ix_data` are left as they are on the fresh stack, where zeros ask for
`CreateAccount`. -/
def create (key : Pubkey) (lamports : UInt64) (seeds : List (List UInt8)) (ledger : Ledger) :
    Option Ledger :=
  invoke runtime instruction
    (.createAccount instruction.caller.key key lamports MAX_PERMITTED_DATA_INCREASE
      instruction.program.key) [seeds] ledger

def init : Option Ledger := do
  let vault_seed := [0x56, 0x41, 0x55, 0x4c, 0x54]
  let ledger ← create runtime instruction instruction.vault.key 10000000000
    [vault_seed, [instruction.bump runtime 0]] ledger
  let config_seed := [0x43, 0x4f, 0x4e, 0x46, 0x49, 0x47]
  let ledger ← create runtime instruction instruction.config.key 1000000000
    [config_seed, [instruction.bump runtime 1]] ledger
  let owned := setOwner ledger instruction.config.key instruction.caller.key
  settle runtime.program instruction.accounts ledger
    (setLocked owned instruction.config.key true)

def registerUser : Option Ledger :=
  let balance_seed := [0x42, 0x41, 0x4c, 0x41, 0x4e, 0x43, 0x45]
  create runtime instruction instruction.balance.key 0
    [balance_seed, instruction.caller.key.bytes, [instruction.bump runtime 0]] ledger

def deposit : Option Ledger :=
  let amount := instruction.amount runtime
  if amount = 0 then none
  else do
    let lamports_before := (ledger instruction.vault.key).lamports
    let ledger ← invoke runtime instruction
      (.transfer instruction.caller.key instruction.vault.key amount) [] ledger
    if (ledger instruction.vault.key).lamports ≠ lamports_before + amount then none
    else
      let balance := balanceOf (ledger instruction.balance.key).data
      settle runtime.program instruction.accounts ledger
        (setBalance ledger instruction.balance.key (balance + amount))

/-- The lamports are moved whatever the balance; both subtractions wrap. -/
def withdraw : Option Ledger :=
  if locked (ledger instruction.config.key).data = true then none
  else
    let amount := instruction.amount runtime
    let debited := setLamports ledger instruction.vault.key
      ((ledger instruction.vault.key).lamports - amount)
    let credited := setLamports debited instruction.caller.key
      ((debited instruction.caller.key).lamports + amount)
    let balance := balanceOf (credited instruction.balance.key).data
    settle runtime.program instruction.accounts ledger
      (setBalance credited instruction.balance.key (balance - amount))

/-- The flag is flipped before the caller is compared with the owner. -/
def toggle : Option Ledger :=
  let flipped := setLocked ledger instruction.config.key
    (!locked (ledger instruction.config.key).data)
  if ownerOf (flipped instruction.config.key).data ≠ instruction.caller.key.bytes then none
  else settle runtime.program instruction.accounts ledger flipped

def entrypoint : Option Ledger :=
  if instruction.program.key ≠ runtime.program then none
  else if signs instruction.accounts instruction.caller.key = false then none
  else if instruction.selector runtime = INIT then
    if (ledger instruction.vault.key).lamports ≠ 0 ∨ (ledger instruction.config.key).data ≠ []
    then none
    else init runtime ledger instruction
  else if instruction.selector runtime = REGISTER then
    if (ledger instruction.vault.key).owner ≠ runtime.program ∨
        (ledger instruction.balance.key).data ≠ [] then none
    else registerUser runtime ledger instruction
  else if instruction.selector runtime = DEPOSIT then
    if (ledger instruction.vault.key).owner ≠ runtime.program ∨
        (ledger instruction.balance.key).owner ≠ runtime.program ∨
        (ledger instruction.balance.key).data = [] then none
    else deposit runtime ledger instruction
  else if instruction.selector runtime = WITHDRAW then
    if (ledger instruction.vault.key).owner ≠ runtime.program ∨
        (ledger instruction.balance.key).owner ≠ runtime.program ∨
        (ledger instruction.config.key).owner ≠ runtime.program ∨
        (ledger instruction.balance.key).data = [] ∨
        (ledger instruction.config.key).data = [] then none
    else withdraw runtime ledger instruction
  else if instruction.selector runtime = TOGGLE then
    if (ledger instruction.config.key).owner ≠ runtime.program ∨
        (ledger instruction.config.key).data = [] then none
    else toggle runtime ledger instruction
  else some ledger

end Program

/-- The ledger, with the instructions that have succeeded, the last one first. -/
structure State where
  ledger : Ledger
  history : List Instruction

/-- One instruction; one that fails has no effect. -/
def step (runtime : Runtime) (state : State) (instruction : Instruction) : State :=
  match entrypoint runtime state.ledger instruction with
  | some ledger =>
      { ledger := ledger
        history := instruction :: state.history }
  | none => state

def run (runtime : Runtime) (state : State) (instructions : List Instruction) : State :=
  instructions.foldl (step runtime) state

end Safusol
