import BlazCtf.Lib.Memory
import BlazCtf.Lib.Solana

set_option autoImplicit false

namespace Solalloc

open Memory

def STACK_START_ADDRESS : Nat := 0x200000000
def HEAP_START_ADDRESS : Nat := 0x300000000
def HEAP_LENGTH : Nat := 32 * 1024
def HEAP_END_ADDRESS : Nat := HEAP_START_ADDRESS + HEAP_LENGTH
def INPUT_START_ADDRESS : Nat := 0x400000000

def INIT : UInt8 := 0
def DEPOSIT : UInt8 := 1
def WITHDRAW : UInt8 := 2

def SIZE_PUBKEY : Nat := 32
def MAX_PERMITTED_DATA_INCREASE : Nat := 10240

/-- How much the machine maps of the program, the stack, the heap and the input, each
at the start of 4 GiB of its own. -/
structure Machine where
  text : Nat
  stack : Nat
  heap : Nat
  input : Nat
  heapWhole : HEAP_LENGTH ≤ heap
  textFits : text < 2 ^ 32
  stackFits : stack < 2 ^ 32
  heapFits : heap < 2 ^ 32
  inputFits : input < 2 ^ 32

def Machine.map (machine : Machine) : List Region :=
  [⟨0x100000000, machine.text, false⟩, ⟨STACK_START_ADDRESS, machine.stack, true⟩,
    ⟨HEAP_START_ADDRESS, machine.heap, true⟩, ⟨INPUT_START_ADDRESS, machine.input, true⟩]

/-- `SolAccountInfo`: pointers into the input, and flags. -/
structure AccountInfo where
  key : UInt64
  lamports : UInt64
  dataLen : UInt64
  data : UInt64
  owner : UInt64
  rentEpoch : UInt64
  isSigner : Bool
  isWritable : Bool
  executable : Bool

def AccountInfo.size : Nat := 56

def byteOf (flag : Bool) : UInt8 := if flag then 1 else 0

def AccountInfo.bytes (info : AccountInfo) : List UInt8 :=
  Bytes.toLE 8 info.key.toNat ++ (Bytes.toLE 8 info.lamports.toNat ++
    (Bytes.toLE 8 info.dataLen.toNat ++ (Bytes.toLE 8 info.data.toNat ++
      (Bytes.toLE 8 info.owner.toNat ++ (Bytes.toLE 8 info.rentEpoch.toNat ++
        [byteOf info.isSigner, byteOf info.isWritable, byteOf info.executable])))))

/-- What `sol_deserialize` finds in the input: the first four accounts, and where the
instruction data and the program id are. -/
structure Parameters where
  caller : AccountInfo
  dataAccount : AccountInfo
  programAccount : AccountInfo
  systemAccount : AccountInfo
  data : UInt64
  programId : UInt64

/-- Where the entrypoint keeps the variables whose address it hands out. The others
(`offset`, `len_actions`, `params`) stay in registers. -/
structure Locals where
  callerKey : Nat
  dataAccountKey : Nat
  programId : Nat
  systemId : Nat
  seed : Nat
  userBump : Nat
  seeds : Nat
  dataAccountKeyVerify : Nat
  accounts : Nat

def Locals.ranges (locals : Locals) : List (Nat × Nat) :=
  [(locals.callerKey, 32), (locals.dataAccountKey, 32), (locals.programId, 32),
    (locals.systemId, 32), (locals.seed, 4), (locals.userBump, 1), (locals.seeds, 32),
    (locals.dataAccountKeyVerify, 32), (locals.accounts, 4 * AccountInfo.size)]

/-- A stack frame: its variables lie on the stack and do not overlap. -/
structure Layout extends Locals where
  apart : toLocals.ranges.Pairwise fun first second =>
    first.1 + first.2 ≤ second.1 ∨ second.1 + second.2 ≤ first.1
  onStack : ∀ range ∈ toLocals.ranges,
    STACK_START_ADDRESS ≤ range.1 ∧ range.1 + range.2 ≤ HEAP_START_ADDRESS

/-- An instruction for another program, with the keys and flags of its accounts. -/
structure Invocation where
  program : List UInt8
  accounts : List (List UInt8 × Bool × Bool)
  data : List UInt8
  infos : Nat
  seeds : List (List (List UInt8))

/-- The surroundings: the machine and what a program may spend on it, and the syscalls
that derive addresses and that invoke other programs. -/
structure Runtime where
  machine : Machine
  budget : Nat
  createProgramAddress : List (List UInt8) → List UInt8 → Option Solana.Pubkey
  invoke : Image → Invocation → Option Image

section Allocator

variable (map : List Region)

def initAllocator (memory : Image) : Option Image :=
  writeWord map memory HEAP_START_ADDRESS (HEAP_START_ADDRESS + 8)

/-- `(size + 7) & ~7`. -/
def sizeAligned (size : Nat) : Nat := (size + 7) % 2 ^ 64 / 8 * 8

/-- The sum that is compared with the end of the heap wraps. -/
def malloc (memory : Image) (size : Nat) : Option (Nat × Image) :=
  if size = 0 then some (0, memory)
  else do
    let freePtr ← readWord map memory HEAP_START_ADDRESS
    let next := (freePtr + sizeAligned size) % 2 ^ 64
    if next > HEAP_END_ADDRESS then some (0, memory)
    else do
      let memory ← writeWord map memory HEAP_START_ADDRESS next
      some (freePtr, memory)

end Allocator

section Actions

variable (runtime : Runtime) (layout : Layout)

/-- The fields of `accounts[1]`, as the program finds them on the stack. -/
def dataAccountField (memory : Image) (offset : Nat) : Option Nat :=
  readWord runtime.machine.map memory (layout.accounts + AccountInfo.size + offset)

def callerField (memory : Image) (offset : Nat) : Option Nat :=
  readWord runtime.machine.map memory (layout.accounts + offset)

/-- The seeds that the syscalls read through the pointers in `seeds`. -/
def readSeeds (memory : Image) : Option (List (List UInt8)) := do
  let map := runtime.machine.map
  let first ← readWord map memory layout.seeds
  let firstLength ← readWord map memory (layout.seeds + 8)
  let second ← readWord map memory (layout.seeds + 16)
  let secondLength ← readWord map memory (layout.seeds + 24)
  let seed ← read map memory first firstLength
  let bump ← read map memory second secondLength
  some [seed, bump]

/-- The check that the data account is derived from the seeds, made by every action. -/
def checkAddress (memory : Image) (input : Nat) : Option Image := do
  let map := runtime.machine.map
  let bump ← readByte map memory input
  let memory ← write map memory layout.userBump [bump]
  let seeds ← readSeeds runtime layout memory
  let programId ← read map memory layout.programId SIZE_PUBKEY
  let address ← runtime.createProgramAddress seeds programId
  let memory ← write map memory layout.dataAccountKeyVerify address.bytes
  let key ← read map memory layout.dataAccountKey SIZE_PUBKEY
  let verify ← read map memory layout.dataAccountKeyVerify SIZE_PUBKEY
  if key ≠ verify then none else some memory

/-- The message is copied to a block of `msg_size` bytes, however long it is. -/
def copyMessage (memory : Image) (input offset : Nat) : Option (Nat × Image) := do
  let map := runtime.machine.map
  let msgSize ← readWord map memory (input + 10)
  let (message, memory) ← malloc map memory msgSize
  if message = 0 then some (offset, memory)
  else do
    let memory ← strcpy map runtime.budget memory message (input + 18)
    let length ← strlen map runtime.budget memory message
    some ((offset + length + 1) % 2 ^ 64, memory)

def init (memory : Image) : Option Image := do
  let map := runtime.machine.map
  let dataLen ← dataAccountField runtime layout memory 16
  if dataLen ≠ 0 then none
  else do
    let callerKey ← read map memory layout.callerKey SIZE_PUBKEY
    let dataAccountKey ← read map memory layout.dataAccountKey SIZE_PUBKEY
    let programId ← read map memory layout.programId SIZE_PUBKEY
    let systemId ← read map memory layout.systemId SIZE_PUBKEY
    let seeds ← readSeeds runtime layout memory
    let memory ← runtime.invoke memory
      { program := systemId
        accounts := [(callerKey, true, true), (dataAccountKey, true, true)]
        data := [0, 0, 0, 0] ++ Bytes.toLE 8 10000000000 ++
          Bytes.toLE 8 MAX_PERMITTED_DATA_INCREASE ++ programId
        infos := layout.accounts
        seeds := [seeds] }
    let memory ← writeWord map memory (layout.accounts + AccountInfo.size + 16) SIZE_PUBKEY
    let data ← dataAccountField runtime layout memory 24
    memcpy map SIZE_PUBKEY memory data layout.callerKey

/-- The transfer of a deposit, by the program passed as `SYSTEM_ID`. -/
def transfer (memory : Image) (amount : Nat) : Option Image := do
  let map := runtime.machine.map
  let caller ← callerField runtime layout memory 0
  let callerKey ← read map memory caller SIZE_PUBKEY
  let dataAccount ← dataAccountField runtime layout memory 0
  let dataAccountKey ← read map memory dataAccount SIZE_PUBKEY
  let systemId ← read map memory layout.systemId SIZE_PUBKEY
  runtime.invoke memory
    { program := systemId
      accounts := [(callerKey, true, true), (dataAccountKey, true, false)]
      data := [2, 0, 0, 0] ++ Bytes.toLE 8 amount
      infos := layout.accounts
      seeds := [] }

def deposit (memory : Image) (input offset : Nat) : Option (Nat × Image) := do
  let amount ← readWord runtime.machine.map memory (input + 2)
  let (offset, memory) ← copyMessage runtime memory input offset
  let memory ← transfer runtime layout memory amount
  some (offset, memory)

/-- Only the owner can withdraw; both words wrap. -/
def withdraw (memory : Image) (input offset : Nat) : Option (Nat × Image) := do
  let map := runtime.machine.map
  let amount ← readWord map memory (input + 2)
  let (offset, memory) ← copyMessage runtime memory input offset
  let data ← dataAccountField runtime layout memory 24
  let owner ← read map memory data SIZE_PUBKEY
  let callerKey ← read map memory layout.callerKey SIZE_PUBKEY
  if owner ≠ callerKey then none
  else do
    let lamports ← dataAccountField runtime layout memory 8
    let held ← readWord map memory lamports
    let memory ← writeWord map memory lamports ((held + 2 ^ 64 - amount) % 2 ^ 64)
    let lamports ← callerField runtime layout memory 8
    let held ← readWord map memory lamports
    let memory ← writeWord map memory lamports ((held + amount) % 2 ^ 64)
    some (offset, memory)

/-- One round of the loop, at an offset in the instruction data. -/
def act (data offset : Nat) (memory : Image) : Option (Nat × Image) := do
  let input := (data + offset) % 2 ^ 64
  let memory ← checkAddress runtime layout memory input
  let type ← readByte runtime.machine.map memory (input + 1)
  if type = INIT then do
    let memory ← init runtime layout memory
    some ((offset + 2) % 2 ^ 64, memory)
  else if type = DEPOSIT then deposit runtime layout memory input ((offset + 18) % 2 ^ 64)
  else if type = WITHDRAW then withdraw runtime layout memory input ((offset + 18) % 2 ^ 64)
  else none

def actions (data : Nat) : Nat → Nat → Image → Option Image
  | 0, _, memory => some memory
  | count + 1, offset, memory => do
      let (offset, memory) ← act runtime layout data offset memory
      actions data count offset memory

end Actions

section Entrypoint

variable (runtime : Runtime) (layout : Layout) (params : Parameters)

/-- The entries that `sol_deserialize` writes to `accounts`. -/
def storeAccounts (memory : Image) : Option Image := do
  let map := runtime.machine.map
  let memory ← write map memory layout.accounts params.caller.bytes
  let memory ← write map memory (layout.accounts + AccountInfo.size) params.dataAccount.bytes
  let memory ← write map memory (layout.accounts + 2 * AccountInfo.size)
    params.programAccount.bytes
  write map memory (layout.accounts + 3 * AccountInfo.size) params.systemAccount.bytes

/-- The copies of the user provided keys. -/
def copyKeys (memory : Image) : Option Image := do
  let map := runtime.machine.map
  let memory ← memcpy map SIZE_PUBKEY memory layout.callerKey params.caller.key.toNat
  let memory ← memcpy map SIZE_PUBKEY memory layout.dataAccountKey params.dataAccount.key.toNat
  let memory ← memcpy map SIZE_PUBKEY memory layout.programId params.programAccount.key.toNat
  memcpy map SIZE_PUBKEY memory layout.systemId params.systemAccount.key.toNat

def setUp (memory : Image) : Option Image := do
  let map := runtime.machine.map
  let memory ← write map memory layout.seed [0x42, 0x4c, 0x41, 0x5a]
  let memory ← write map memory layout.seeds
    (Bytes.toLE 8 layout.seed ++ (Bytes.toLE 8 4 ++
      (Bytes.toLE 8 layout.userBump ++ Bytes.toLE 8 1)))
  let memory ← initAllocator map memory
  let memory ← storeAccounts runtime layout params memory
  copyKeys runtime layout params memory

/-- The number of actions, once the caller and the program id are checked. -/
def countActions (memory : Image) : Option Nat := do
  let map := runtime.machine.map
  if params.caller.isSigner = false then none
  else do
    let programId ← read map memory layout.programId SIZE_PUBKEY
    let expected ← read map memory params.programId.toNat SIZE_PUBKEY
    if programId ≠ expected then none
    else do
      let lenActions ← readByte map memory params.data.toNat
      if lenActions = 0 ∨ lenActions > 3 then none else some lenActions.toNat

/-- The memory when the program returns SUCCESS. An instruction that returns an error
or faults has no effect. -/
def entrypoint (memory : Image) : Option Image := do
  let memory ← setUp runtime layout params memory
  let lenActions ← countActions runtime layout params memory
  actions runtime layout params.data.toNat lenActions 1 memory

end Entrypoint

end Solalloc
