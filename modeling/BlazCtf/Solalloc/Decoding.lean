import BlazCtf.Lib.CString
import BlazCtf.Solalloc.Allocator
import BlazCtf.Solalloc.Owner

set_option autoImplicit false

namespace Solalloc

open Memory

/-- What a client asks for. -/
inductive Action where
  | init (bump : UInt8)
  | deposit (bump : UInt8) (amount : UInt64) (message : List UInt8)
  | withdraw (bump : UInt8) (amount : UInt64) (message : List UInt8)
  deriving DecidableEq

namespace Action

def message : Action → List UInt8
  | .init _ => []
  | .deposit _ _ message => message
  | .withdraw _ _ message => message

/-- The fields of `UserInput` behind the type; the message ends with its zero. -/
def body (amount : UInt64) (message : List UInt8) : List UInt8 :=
  Bytes.toLE 8 amount.toNat ++ (Bytes.toLE 8 (message.length + 1) ++ (message ++ [0]))

def encode : Action → List UInt8
  | .init bump => [bump, INIT]
  | .deposit bump amount message => bump :: DEPOSIT :: body amount message
  | .withdraw bump amount message => bump :: WITHDRAW :: body amount message

/-- The size of the action's block, rounded up. -/
def room : Action → Nat
  | .init _ => 0
  | .deposit _ _ message => (message.length + 1 + 7) / 8 * 8
  | .withdraw _ _ message => (message.length + 1 + 7) / 8 * 8

end Action

/-- The instruction data: the number of actions and the actions. -/
def encodeActions (wanted : List Action) : List UInt8 :=
  UInt8.ofNat wanted.length :: wanted.flatMap Action.encode

section Visits

variable (runtime : Runtime) (layout : Layout)

/-- The message as the program then has it in its block; none without a block. -/
def copiedMessage (memory : Image) (input : Nat) : Option (List UInt8) := do
  let map := runtime.machine.map
  let msgSize ← readWord map memory (input + 10)
  let (message, memory) ← malloc map memory msgSize
  if message = 0 then some []
  else do
    let memory ← strcpy map runtime.budget memory message (input + 18)
    let length ← strlen map runtime.budget memory message
    some (bytesAt memory message length)

/-- The action that a round takes from the instruction data. -/
def visit (data offset : Nat) (memory : Image) : Option Action := do
  let map := runtime.machine.map
  let input := (data + offset) % 2 ^ 64
  let bump ← readByte map memory input
  let memory ← checkAddress runtime layout memory input
  let type ← readByte map memory (input + 1)
  if type = INIT then some (.init bump)
  else if type = DEPOSIT ∨ type = WITHDRAW then do
    let amount ← readWord map memory (input + 2)
    let message ← copiedMessage runtime memory input
    if type = DEPOSIT then some (.deposit bump (UInt64.ofNat amount) message)
    else some (.withdraw bump (UInt64.ofNat amount) message)
  else none

/-- Why a round does not return: the account's address is not that of the seeds, the
action cannot be taken from the data, or what it asks for is refused. -/
inductive Failure where
  | address
  | decoding
  | effect
  deriving DecidableEq

def failure (data offset : Nat) (memory : Image) : Failure :=
  if (checkAddress runtime layout memory ((data + offset) % 2 ^ 64)).isNone then .address
  else if (visit runtime layout data offset memory).isNone then .decoding
  else .effect

/-- The loop with the actions it visits: these, and where it ends if no action returns
an error, or why it stops. -/
def visits (data : Nat) : Nat → Nat → Image → List Action × Except Failure (Nat × Image)
  | 0, offset, memory => ([], .ok (offset, memory))
  | count + 1, offset, memory =>
      let visited := (visit runtime layout data offset memory).toList
      match act runtime layout data offset memory with
      | none => (visited, .error (failure runtime layout data offset memory))
      | some (offset, memory) =>
          let (later, final) := visits data count offset memory
          (visited ++ later, final)

/-- It is the loop of the entrypoint. -/
theorem actions_eq_visits (data count : Nat) : ∀ offset memory,
    actions runtime layout data count offset memory =
      (visits runtime layout data count offset memory).2.toOption.map Prod.snd := by
  induction count with
  | zero =>
      intro offset memory
      rfl
  | succ count ih =>
      intro offset memory
      cases acted : act runtime layout data offset memory with
      | none =>
          simp only [actions, visits, acted, Option.bind_eq_bind, Option.bind_none]
          rfl
      | some result => simp [actions, visits, acted, ih]

end Visits

/-- What the runtime and `sol_deserialize` promise about instruction data of a length:
it lies in the input, apart from the lamports and the data of the accounts, and
programs that are invoked write to accounts only. -/
structure Runtime.Serves (runtime : Runtime) (params : Parameters) (length : Nat) : Prop where
  above : INPUT_START_ADDRESS ≤ params.data.toNat
  below : params.data.toNat + length ≤ INPUT_START_ADDRESS + runtime.machine.input
  callerLamports : INPUT_START_ADDRESS ≤ params.caller.lamports.toNat ∧
    (params.caller.lamports.toNat + 8 ≤ params.data.toNat ∨
      params.data.toNat + length ≤ params.caller.lamports.toNat)
  dataLamports : INPUT_START_ADDRESS ≤ params.dataAccount.lamports.toNat ∧
    (params.dataAccount.lamports.toNat + 8 ≤ params.data.toNat ∨
      params.data.toNat + length ≤ params.dataAccount.lamports.toNat)
  accountData : INPUT_START_ADDRESS ≤ params.dataAccount.data.toNat ∧
    (params.dataAccount.data.toNat + SIZE_PUBKEY ≤ params.data.toNat ∨
      params.data.toNat + length ≤ params.dataAccount.data.toNat)
  invoked : ∀ before call after, runtime.invoke before call = some after →
    (∀ address, address < INPUT_START_ADDRESS → after address = before address) ∧
      bytesAt after params.data.toNat length = bytesAt before params.data.toNat length

/-- What decoding rests on between two rounds: the instruction data, the pointers that
the program writes through, and `free_ptr`. -/
structure Intact (layout : Layout) (params : Parameters) (data : List UInt8) (free : Nat)
    (memory : Image) : Prop where
  data : bytesAt memory params.data.toNat data.length = data
  callerLamports : wordAt memory (layout.accounts + 8) = params.caller.lamports.toNat
  dataLamports : wordAt memory (layout.accounts + AccountInfo.size + 8) =
    params.dataAccount.lamports.toNat
  accountData : wordAt memory (layout.accounts + AccountInfo.size + 24) =
    params.dataAccount.data.toNat
  free : wordAt memory HEAP_START_ADDRESS = free

section Kept

variable {runtime : Runtime} {layout : Layout} {params : Parameters} {data : List UInt8}
  {free : Nat} {before after : Image}

theorem Intact.of_same (intact : Intact layout params data free before)
    (sameData : bytesAt after params.data.toNat data.length =
      bytesAt before params.data.toNat data.length)
    (sameWords : ∀ start ∈ [layout.accounts + 8, layout.accounts + AccountInfo.size + 8,
        layout.accounts + AccountInfo.size + 24, HEAP_START_ADDRESS],
      wordAt after start = wordAt before start) :
    Intact layout params data free after where
  data := sameData.trans intact.data
  callerLamports := (sameWords _ (by simp)).trans intact.callerLamports
  dataLamports := (sameWords _ (by simp)).trans intact.dataLamports
  accountData := (sameWords _ (by simp)).trans intact.accountData
  free := (sameWords _ (by simp)).trans intact.free

theorem Intact.of_frame {low high : Nat} (intact : Intact layout params data free before)
    (frame : Frame low high before after)
    (dataApart : params.data.toNat + data.length ≤ low ∨ high ≤ params.data.toNat)
    (wordsApart : ∀ start ∈ [layout.accounts + 8, layout.accounts + AccountInfo.size + 8,
        layout.accounts + AccountInfo.size + 24, HEAP_START_ADDRESS],
      start + 8 ≤ low ∨ high ≤ start) :
    Intact layout params data free after :=
  intact.of_same (frame.bytesAt dataApart) fun start listed =>
    frame.wordAt (wordsApart start listed)

/-- Changes to other variables of the stack frame. -/
theorem Intact.local_change (range : Nat × Nat) (serves : runtime.Serves params data.length)
    (intact : Intact layout params data free before) (member : range ∈ layout.ranges.dropLast)
    (frame : Frame range.1 (range.1 + range.2) before after) :
    Intact layout params data free after := by
  have apart := layout.accounts_apart range member
  have stacked := (layout.onStack range (List.dropLast_subset _ member)).2
  have above := serves.above
  have order : HEAP_START_ADDRESS ≤ INPUT_START_ADDRESS := by decide
  simp only [AccountInfo.size] at apart
  apply intact.of_frame frame (Or.inr (by omega))
  intro start listed
  simp only [AccountInfo.size, List.mem_cons, List.not_mem_nil, or_false] at listed
  omega

/-- Changes in the heap behind the allocator. -/
theorem Intact.heap_change {low high : Nat} (serves : runtime.Serves params data.length)
    (intact : Intact layout params data free before) (above : HEAP_START_ADDRESS + 8 ≤ low)
    (below : high ≤ HEAP_END_ADDRESS) (frame : Frame low high before after) :
    Intact layout params data free after := by
  have stacked := layout.accounts_stacked
  have behind := serves.above
  have order : HEAP_END_ADDRESS ≤ INPUT_START_ADDRESS := by decide
  simp only [AccountInfo.size] at stacked
  apply intact.of_frame frame (Or.inr (by omega))
  intro start listed
  simp only [AccountInfo.size, List.mem_cons, List.not_mem_nil, or_false] at listed
  omega

/-- Changes in the input, apart from the instruction data. -/
theorem Intact.input_change {low high : Nat} (intact : Intact layout params data free before)
    (inInput : INPUT_START_ADDRESS ≤ low)
    (apart : high ≤ params.data.toNat ∨ params.data.toNat + data.length ≤ low)
    (frame : Frame low high before after) : Intact layout params data free after := by
  have stacked := layout.accounts_stacked
  have order : HEAP_START_ADDRESS + 8 ≤ INPUT_START_ADDRESS := by decide
  simp only [AccountInfo.size] at stacked
  apply intact.of_frame frame (Or.symm apart)
  intro start listed
  simp only [AccountInfo.size, List.mem_cons, List.not_mem_nil, or_false] at listed
  omega

theorem Intact.invoke {call : Invocation} (serves : runtime.Serves params data.length)
    (intact : Intact layout params data free before)
    (success : runtime.invoke before call = some after) :
    Intact layout params data free after := by
  obtain ⟨outside, sameData⟩ := serves.invoked before call after success
  have stacked := layout.accounts_stacked
  have order : HEAP_START_ADDRESS + 8 ≤ INPUT_START_ADDRESS := by decide
  simp only [AccountInfo.size] at stacked
  apply intact.of_same sameData
  intro start listed
  simp only [AccountInfo.size, List.mem_cons, List.not_mem_nil, or_false] at listed
  exact wordAt_congr fun address _ _ => outside address (by omega)

theorem Intact.checkAddress {input : Nat} (serves : runtime.Serves params data.length)
    (intact : Intact layout params data free before)
    (success : checkAddress runtime layout before input = some after) :
    Intact layout params data free after := by
  simp only [Solalloc.checkAddress, Option.bind_eq_bind, Option.bind_eq_some_iff] at success
  obtain ⟨bump, -, bumped, wroteBump, seeds, -, programId, -, address, -, verified, wroteVerify,
    key, -, verify, -, compared⟩ := success
  split at compared
  · cases compared
  obtain rfl := Option.some.inj compared
  have intact := intact.local_change (layout.userBump, 1) serves (by simp [Locals.ranges])
    (write_frame wroteBump)
  have frame := write_frame wroteVerify
  rw [address.size] at frame
  exact intact.local_change (layout.dataAccountKeyVerify, 32) serves (by simp [Locals.ranges]) frame

theorem Intact.init (serves : runtime.Serves params data.length)
    (intact : Intact layout params data free before)
    (success : init runtime layout before = some after) :
    Intact layout params data free after := by
  simp only [Solalloc.init, Option.bind_eq_bind, Option.bind_eq_some_iff] at success
  obtain ⟨dataLen, -, success⟩ := success
  split at success
  · cases success
  simp only [Option.bind_eq_some_iff] at success
  obtain ⟨_, -, _, -, _, -, _, -, _, -, invoked, invocation, enlarged, wroteLength, target, field,
    copied⟩ := success
  have intact := intact.invoke serves invocation
  -- the length stands between the two pointers
  have lengthFrame := writeWord_frame wroteLength
  have stacked := layout.accounts_stacked
  have order : HEAP_START_ADDRESS + 8 ≤ INPUT_START_ADDRESS := by decide
  have above := serves.above
  have intact : Intact layout params data free enlarged := by
    simp only [AccountInfo.size] at stacked lengthFrame
    apply intact.of_frame lengthFrame (Or.inr (by omega))
    intro start listed
    simp only [AccountInfo.size, List.mem_cons, List.not_mem_nil, or_false] at listed
    omega
  have isData : target = params.dataAccount.data.toNat :=
    (readWord_eq_some field).trans intact.accountData
  have frame := memcpy_frame copied
  rw [isData] at frame
  exact intact.input_change serves.accountData.1 serves.accountData.2 frame

theorem Intact.transfer {amount : Nat} (serves : runtime.Serves params data.length)
    (intact : Intact layout params data free before)
    (success : transfer runtime layout before amount = some after) :
    Intact layout params data free after := by
  simp only [Solalloc.transfer, Option.bind_eq_bind, Option.bind_eq_some_iff] at success
  obtain ⟨_, -, _, -, _, -, _, -, _, -, invocation⟩ := success
  exact intact.invoke serves invocation

end Kept

section Fields

variable {memory : Image}

/-- A part of the data stands where the part before it ends. -/
theorem bytesAt_middle {start : Nat} {first middle last : List UInt8}
    (stored : bytesAt memory start (first ++ middle ++ last).length = first ++ middle ++ last) :
    bytesAt memory (start + first.length) middle.length = middle := by
  rw [List.length_append, List.length_append, bytesAt_append, bytesAt_append] at stored
  have front := (List.append_inj stored (by simp)).1
  exact (List.append_inj front (by simp)).2

theorem body_fields {start : Nat} {amount : UInt64} {message : List UInt8}
    (small : message.length + 1 < 2 ^ 64)
    (stored : bytesAt memory start (Action.body amount message).length =
      Action.body amount message) :
    wordAt memory start = amount.toNat ∧ wordAt memory (start + 8) = message.length + 1 ∧
      bytesAt memory (start + 16) (message.length + 1) = message ++ [0] := by
  have parts : bytesAt memory start (Action.body amount message).length =
      bytesAt memory start 8 ++ (bytesAt memory (start + 8) 8 ++
        bytesAt memory (start + 16) (message.length + 1)) := by
    rw [← bytesAt_append, ← bytesAt_append]
    simp [Action.body]
  rw [parts, Action.body] at stored
  obtain ⟨amountStored, rest⟩ := List.append_inj stored (by simp)
  obtain ⟨sizeStored, messageStored⟩ := List.append_inj rest (by simp)
  refine ⟨?_, ?_, messageStored⟩
  · rw [wordAt, amountStored, Bytes.ofLE_toLE amount.toNat_lt]
  · rw [wordAt, sizeStored, Bytes.ofLE_toLE small]

end Fields

section Copying

variable {runtime : Runtime} {layout : Layout} {params : Parameters} {data : List UInt8}
  {free : Nat} {before after : Image}

/-- A block that fits is the one at `free_ptr`. -/
theorem Intact.malloc {size block : Nat} (serves : runtime.Serves params data.length)
    (intact : Intact layout params data free before) (nonzero : size ≠ 0)
    (fits : free + (size + 7) / 8 * 8 ≤ HEAP_END_ADDRESS)
    (success : malloc runtime.machine.map before size = some (block, after)) :
    block = free ∧ Intact layout params data (free + (size + 7) / 8 * 8) after ∧
      Frame HEAP_START_ADDRESS (HEAP_START_ADDRESS + 8) before after := by
  have small : HEAP_END_ADDRESS < 2 ^ 64 := by decide
  have rounded : sizeAligned size = (size + 7) / 8 * 8 := by
    rw [sizeAligned, Nat.mod_eq_of_lt (by omega)]
  obtain ⟨pointer, allocated, returned, outcome⟩ := malloc_returns runtime.machine before size
  rw [success] at returned
  obtain ⟨rfl, rfl⟩ := Prod.mk.inj (Option.some.inj returned)
  rw [intact.free, rounded, Nat.mod_eq_of_lt (by omega)] at outcome
  rcases outcome with ⟨none, -, -⟩ | ⟨-, -, isFree, stored, frame⟩
  · rcases none with zero | full
    · exact absurd zero nonzero
    · exact absurd fits (Nat.not_le_of_gt full)
  · have stacked := layout.accounts_stacked
    have behind := serves.above
    have order : HEAP_START_ADDRESS + 8 ≤ INPUT_START_ADDRESS := by decide
    simp only [AccountInfo.size] at stacked
    refine ⟨isFree, ?_, frame⟩
    constructor
    · exact (frame.bytesAt (Or.inr (by omega))).trans intact.data
    · exact (frame.wordAt (Or.inl (by omega))).trans intact.callerLamports
    · refine (frame.wordAt (Or.inl ?_)).trans intact.dataLamports
      simp only [AccountInfo.size]
      omega
    · refine (frame.wordAt (Or.inl ?_)).trans intact.accountData
      simp only [AccountInfo.size]
      omega
    · exact stored

/-- Where an action's message stands in the instruction data. -/
structure MessageAt (input : Nat) (message : List UInt8) (memory : Image) : Prop where
  inInput : INPUT_START_ADDRESS ≤ input
  noZero : 0 ∉ message
  size : wordAt memory (input + 10) = message.length + 1
  stored : bytesAt memory (input + 18) (message.length + 1) = message ++ [0]

/-- The block is in the heap and the message in the input, where it stays. -/
theorem Intact.allocated {input block : Nat} {message : List UInt8} {allocated : Image}
    (serves : runtime.Serves params data.length)
    (intact : Intact layout params data free before)
    (fits : free + (message.length + 1 + 7) / 8 * 8 ≤ HEAP_END_ADDRESS)
    (present : MessageAt input message before)
    (given : Solalloc.malloc runtime.machine.map before (message.length + 1) =
      some (block, allocated)) :
    block = free ∧
      Intact layout params data (free + (message.length + 1 + 7) / 8 * 8) allocated ∧
      bytesAt allocated (input + 18) (message.length + 1) = message ++ [0] ∧
      block + message.length < input + 18 := by
  obtain ⟨rfl, intact, frame⟩ := intact.malloc serves (Nat.succ_ne_zero _) fits given
  have order : HEAP_END_ADDRESS ≤ INPUT_START_ADDRESS := by decide
  have heapFirst : HEAP_START_ADDRESS + 8 ≤ HEAP_END_ADDRESS := by decide
  have inInput := present.inInput
  refine ⟨rfl, intact, ?_, by omega⟩
  rw [frame.bytesAt (Or.inr (by omega))]
  exact present.stored

/-- So the copy is the message. -/
theorem Intact.message {input block : Nat} {message : List UInt8} {allocated copied : Image}
    (serves : runtime.Serves params data.length)
    (intact : Intact layout params data free before) (above : HEAP_START_ADDRESS + 8 ≤ free)
    (fits : free + (message.length + 1 + 7) / 8 * 8 ≤ HEAP_END_ADDRESS)
    (present : MessageAt input message before)
    (given : Solalloc.malloc runtime.machine.map before (message.length + 1) =
      some (block, allocated))
    (copy : strcpy runtime.machine.map runtime.budget allocated block (input + 18) =
      some copied) :
    Intact layout params data (free + (message.length + 1 + 7) / 8 * 8) copied ∧
      bytesAt copied block (message.length + 1) = message ++ [0] := by
  obtain ⟨rfl, intact, stored, apart⟩ := intact.allocated serves fits present given
  obtain ⟨copiedMessage, copyFrame⟩ := strcpy_string present.noZero stored (Or.inr apart) copy
  exact ⟨intact.heap_change serves above (by omega) copyFrame, copiedMessage⟩

theorem Intact.copyMessage {input offset next : Nat} {message : List UInt8}
    (serves : runtime.Serves params data.length)
    (intact : Intact layout params data free before) (above : HEAP_START_ADDRESS + 8 ≤ free)
    (fits : free + (message.length + 1 + 7) / 8 * 8 ≤ HEAP_END_ADDRESS)
    (present : MessageAt input message before)
    (success : copyMessage runtime before input offset = some (next, after)) :
    next = (offset + message.length + 1) % 2 ^ 64 ∧
      Intact layout params data (free + (message.length + 1 + 7) / 8 * 8) after := by
  simp only [Solalloc.copyMessage, Option.bind_eq_bind, Option.bind_eq_some_iff,
    Prod.exists] at success
  obtain ⟨msgSize, found, block, allocated, given, success⟩ := success
  obtain rfl := (readWord_eq_some found).trans present.size
  have isFree := (intact.malloc serves (Nat.succ_ne_zero _) fits given).1
  have positive : 0 < HEAP_START_ADDRESS := by decide
  rw [if_neg (by omega)] at success
  simp only [Option.bind_eq_some_iff] at success
  obtain ⟨copied, copy, length, measured, same⟩ := success
  obtain ⟨intact, inBlock⟩ := intact.message serves above fits present given copy
  obtain ⟨rfl, rfl⟩ := Prod.mk.inj (Option.some.inj same)
  rw [strlen_string present.noZero inBlock measured]
  exact ⟨rfl, intact⟩

theorem Intact.copiedMessage {input : Nat} {message found : List UInt8}
    (serves : runtime.Serves params data.length)
    (intact : Intact layout params data free before) (above : HEAP_START_ADDRESS + 8 ≤ free)
    (fits : free + (message.length + 1 + 7) / 8 * 8 ≤ HEAP_END_ADDRESS)
    (present : MessageAt input message before)
    (success : copiedMessage runtime before input = some found) : found = message := by
  simp only [Solalloc.copiedMessage, Option.bind_eq_bind, Option.bind_eq_some_iff,
    Prod.exists] at success
  obtain ⟨msgSize, sizeRead, block, allocated, given, success⟩ := success
  obtain rfl := (readWord_eq_some sizeRead).trans present.size
  have isFree := (intact.malloc serves (Nat.succ_ne_zero _) fits given).1
  have positive : 0 < HEAP_START_ADDRESS := by decide
  rw [if_neg (by omega)] at success
  simp only [Option.bind_eq_some_iff] at success
  obtain ⟨copied, copy, length, measured, same⟩ := success
  obtain ⟨-, inBlock⟩ := intact.message serves above fits present given copy
  rw [← Option.some.inj same, strlen_string present.noZero inBlock measured]
  rw [bytesAt_append] at inBlock
  exact (List.append_inj inBlock (by simp)).1

/-- With fuel for its bytes, a message that fits is copied and measured. -/
theorem Intact.copiedMessage_returns {input : Nat} {message : List UInt8}
    (serves : runtime.Serves params data.length)
    (intact : Intact layout params data free before) (above : HEAP_START_ADDRESS + 8 ≤ free)
    (fits : free + (message.length + 1 + 7) / 8 * 8 ≤ HEAP_END_ADDRESS)
    (present : MessageAt input message before)
    (mapped : Readable runtime.machine.map (input + 10) (8 + (message.length + 1)))
    (enough : message.length < runtime.budget) :
    ∃ found, Solalloc.copiedMessage runtime before input = some found := by
  have sizeRead : readWord runtime.machine.map before (input + 10) =
      some (message.length + 1) := by
    rw [readWord, if_pos (mapped.part (Nat.le_refl _) (by omega)), present.size]
  obtain ⟨block, allocated, given, -⟩ :=
    malloc_returns runtime.machine before (message.length + 1)
  obtain ⟨isFree, -, stored, apart⟩ := intact.allocated serves fits present given
  have nonzero : block ≠ 0 := by
    have positive : 0 < HEAP_START_ADDRESS := by decide
    omega
  obtain ⟨copied, copy⟩ : ∃ copied, strcpy runtime.machine.map runtime.budget allocated block
      (input + 18) = some copied := by
    apply strcpy_returns stored (Or.inr apart)
    · exact mapped.part (by omega) (by omega)
    · exact runtime.machine.heap_writable (by omega) (by omega)
    · exact enough
  obtain ⟨-, inBlock⟩ := intact.message serves above fits present given copy
  obtain ⟨length, measured⟩ : ∃ length, strlen runtime.machine.map runtime.budget copied block =
      some length := by
    apply strlen_returns inBlock
    · exact runtime.machine.heap_readable (by omega) (by omega)
    · exact enough
  refine ⟨bytesAt copied block length, ?_⟩
  simp only [Solalloc.copiedMessage, sizeRead, given, copy, measured, Option.bind_eq_bind,
    Option.bind_some, if_neg nonzero]

end Copying

end Solalloc
