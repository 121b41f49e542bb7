import BlazCtf.Solalloc.Guard

set_option autoImplicit false

namespace Solalloc

open Memory

section Prepare

variable {runtime : Runtime} {layout : Layout} {params : Parameters} {before after : Image}

@[simp] theorem AccountInfo.length_bytes (info : AccountInfo) : info.bytes.length = 51 := by
  simp [AccountInfo.bytes]

/-- The words of an account's entry, read back. -/
theorem entry_words {info : AccountInfo} {memory : Image} {address : Nat}
    (stored : bytesAt memory address 51 = info.bytes) :
    wordAt memory (address + 16) = info.dataLen.toNat ∧
      wordAt memory (address + 24) = info.data.toNat := by
  have parts : bytesAt memory address 51 = bytesAt memory address 8 ++
      (bytesAt memory (address + 8) 8 ++ (bytesAt memory (address + 16) 8 ++
        (bytesAt memory (address + 24) 8 ++ bytesAt memory (address + 32) 19))) := by
    rw [← bytesAt_append, ← bytesAt_append, ← bytesAt_append, ← bytesAt_append]
  rw [parts, AccountInfo.bytes] at stored
  obtain ⟨-, rest⟩ := List.append_inj stored (by simp)
  obtain ⟨-, rest⟩ := List.append_inj rest (by simp)
  obtain ⟨dataLen, rest⟩ := List.append_inj rest (by simp)
  obtain ⟨data, -⟩ := List.append_inj rest (by simp)
  constructor
  · rw [wordAt, dataLen, Bytes.ofLE_toLE info.dataLen.toNat_lt]
  · rw [wordAt, data, Bytes.ofLE_toLE info.data.toNat_lt]

/-- All entries lie on the stack, and the second is that of the data account. -/
theorem storeAccounts_ok (success : storeAccounts runtime layout params before = some after) :
    Frame 0 HEAP_START_ADDRESS before after ∧
      bytesAt after (layout.accounts + AccountInfo.size) 51 = params.dataAccount.bytes := by
  simp only [storeAccounts, Option.bind_eq_bind, Option.bind_eq_some_iff] at success
  obtain ⟨first, wroteFirst, second, wroteSecond, third, wroteThird, wroteFourth⟩ := success
  have stacked := layout.accounts_stacked
  have firstFrame := write_frame wroteFirst
  have secondFrame := write_frame wroteSecond
  have thirdFrame := write_frame wroteThird
  have fourthFrame := write_frame wroteFourth
  have stored := bytesAt_write wroteSecond
  simp only [AccountInfo.length_bytes, AccountInfo.size] at *
  constructor
  · have upToSecond := (firstFrame.mono (Nat.zero_le _) (by omega)).trans
      (secondFrame.mono (Nat.zero_le _) (show _ ≤ HEAP_START_ADDRESS by omega))
    have upToThird := upToSecond.trans (thirdFrame.mono (Nat.zero_le _) (by omega))
    exact upToThird.trans (fourthFrame.mono (Nat.zero_le _) (by omega))
  · rw [fourthFrame.bytesAt (Or.inl (by omega)), thirdFrame.bytesAt (Or.inl (by omega)), stored]

variable (layout) in
/-- The copy of a key to a variable of the stack frame other than `caller_key`. -/
theorem key_frame {target source : Nat} (member : (target, 32) ∈ layout.ranges.tail)
    (notAccounts : (target, 32) ∈ layout.ranges.dropLast)
    (copied : memcpy runtime.machine.map SIZE_PUBKEY before target source = some after) :
    bytesAt after layout.callerKey SIZE_PUBKEY = bytesAt before layout.callerKey SIZE_PUBKEY ∧
      bytesAt after (layout.accounts + AccountInfo.size) 51 =
        bytesAt before (layout.accounts + AccountInfo.size) 51 ∧
      Frame 0 HEAP_START_ADDRESS before after := by
  have frame : Frame target (target + 32) before after := memcpy_frame copied
  have callerApart := layout.callerKey_apart _ member
  have accountsApart := layout.accounts_apart _ notAccounts
  simp only [AccountInfo.size] at accountsApart ⊢
  refine ⟨frame.bytesAt callerApart, frame.bytesAt (by omega), ?_⟩
  exact frame.mono (Nat.zero_le _) (layout.onStack _ (List.mem_of_mem_tail member)).2

/-- The key of the caller is copied from the input, and the entries stay. -/
theorem copyKeys_ok (inInput : INPUT_START_ADDRESS ≤ params.caller.key.toNat)
    (success : copyKeys runtime layout params before = some after) :
    Frame 0 HEAP_START_ADDRESS before after ∧
      bytesAt after layout.callerKey SIZE_PUBKEY =
        bytesAt before params.caller.key.toNat SIZE_PUBKEY ∧
      bytesAt after (layout.accounts + AccountInfo.size) 51 =
        bytesAt before (layout.accounts + AccountInfo.size) 51 := by
  simp only [copyKeys, Option.bind_eq_bind, Option.bind_eq_some_iff] at success
  obtain ⟨caller, copiedCaller, dataAccount, copiedData, program, copiedProgram, copiedSystem⟩ :=
    success
  have stacked := layout.callerKey_stacked
  have order : HEAP_START_ADDRESS ≤ INPUT_START_ADDRESS := by decide
  have frame : Frame layout.callerKey (layout.callerKey + 32) before caller :=
    memcpy_frame copiedCaller
  have copied := memcpy_bytesAt (Or.inr (by simp only [SIZE_PUBKEY]; omega)) copiedCaller
  obtain ⟨dataCaller, dataEntry, dataFrame⟩ :=
    key_frame layout (by simp [Locals.ranges]) (by simp [Locals.ranges]) copiedData
  obtain ⟨programCaller, programEntry, programFrame⟩ :=
    key_frame layout (by simp [Locals.ranges]) (by simp [Locals.ranges]) copiedProgram
  obtain ⟨systemCaller, systemEntry, systemFrame⟩ :=
    key_frame layout (by simp [Locals.ranges]) (by simp [Locals.ranges]) copiedSystem
  have apart := layout.callerKey_apart (layout.accounts, 4 * AccountInfo.size)
    (by simp [Locals.ranges])
  refine ⟨?_, ?_, ?_⟩
  · exact (frame.mono (Nat.zero_le _) stacked).trans
      (dataFrame.trans (programFrame.trans systemFrame))
  · rw [systemCaller, programCaller, dataCaller, copied]
  · rw [systemEntry, programEntry, dataEntry]
    simp only [AccountInfo.size] at apart ⊢
    exact frame.bytesAt (by omega)

theorem setUp_guarded (lawful : runtime.Lawful params)
    (initialised : params.dataAccount.dataLen ≠ 0)
    (success : setUp runtime layout params before = some after) :
    Guarded layout params (bytesAt before params.caller.key.toNat SIZE_PUBKEY)
      (bytesAt before params.dataAccount.data.toNat SIZE_PUBKEY)
      (wordAt before params.dataAccount.lamports.toNat) after := by
  simp only [setUp, Option.bind_eq_bind, Option.bind_eq_some_iff] at success
  obtain ⟨seeded, wroteSeed, pointed, wroteSeeds, allocated, wroteFree, entered, entries, keys⟩ :=
    success
  have seedFrame : Frame 0 HEAP_START_ADDRESS before seeded :=
    (write_frame wroteSeed).mono (Nat.zero_le _)
      (layout.onStack (layout.seed, 4) (by simp [Locals.ranges])).2
  have seedsFrame : Frame 0 HEAP_START_ADDRESS seeded pointed := by
    apply (write_frame wroteSeeds).mono (Nat.zero_le _)
    simpa using (layout.onStack (layout.seeds, 32) (by simp [Locals.ranges])).2
  have freeFrame := writeWord_frame wroteFree
  have free := wordAt_writeWord (by decide) wroteFree
  obtain ⟨entriesFrame, entry⟩ := storeAccounts_ok entries
  obtain ⟨keysFrame, callerKey, sameEntry⟩ := copyKeys_ok lawful.callerKey keys
  obtain ⟨dataLen, data⟩ := entry_words (sameEntry.trans entry)
  -- after the allocator only the stack is written, and nothing in the input at all
  have stackOnly : Frame 0 HEAP_START_ADDRESS allocated after := entriesFrame.trans keysFrame
  have order : HEAP_START_ADDRESS + 8 ≤ INPUT_START_ADDRESS := by decide
  have untilFree : Frame 0 INPUT_START_ADDRESS before allocated :=
    ((seedFrame.trans seedsFrame).mono (Nat.le_refl _) (by decide)).trans
      (freeFrame.mono (Nat.zero_le _) order)
  have untilKeys : Frame 0 INPUT_START_ADDRESS before entered :=
    untilFree.trans (entriesFrame.mono (Nat.le_refl _) (by decide))
  have input : Frame 0 INPUT_START_ADDRESS before after :=
    untilFree.trans (stackOnly.mono (Nat.le_refl _) (by decide))
  have freePtr := (stackOnly.wordAt (Or.inr (Nat.le_refl HEAP_START_ADDRESS))).trans free
  constructor
  · rw [callerKey, untilKeys.bytesAt (Or.inr lawful.callerKey)]
  · rw [dataLen]
    exact fun zero => initialised (UInt64.toNat_inj.mp zero)
  · exact data
  · exact input.bytesAt (Or.inr lawful.data)
  · exact Nat.le_of_eq (input.wordAt (Or.inr lawful.lamports)).symm
  · exact Nat.le_of_eq freePtr.symm
  · rw [freePtr]
    decide

end Prepare

section Integrity

variable {runtime : Runtime} {layout : Layout} {params : Parameters} {before after : Image}

/-- An instruction whose blocks all fit, by a caller that is not the owner stored in an
initialised account, leaves the owner as it was and takes no lamports. -/
theorem owner_kept_without_wrap (lawful : runtime.Lawful params)
    (initialised : params.dataAccount.dataLen ≠ 0)
    (stranger : bytesAt before params.caller.key.toNat SIZE_PUBKEY ≠
      bytesAt before params.dataAccount.data.toNat SIZE_PUBKEY)
    (noWrap : ∀ memory ∈ setUp runtime layout params before,
      ∀ lenActions ∈ countActions runtime layout params memory,
        NoWrap runtime layout params.data.toNat lenActions 1 memory)
    (success : entrypoint runtime layout params before = some after) :
    bytesAt after params.dataAccount.data.toNat SIZE_PUBKEY =
        bytesAt before params.dataAccount.data.toNat SIZE_PUBKEY ∧
      wordAt before params.dataAccount.lamports.toNat ≤
        wordAt after params.dataAccount.lamports.toNat := by
  simp only [entrypoint, Option.bind_eq_bind, Option.bind_eq_some_iff] at success
  obtain ⟨memory, prepared, lenActions, counted, acted⟩ := success
  have guarded := (setUp_guarded lawful initialised prepared).actions lawful stranger
    (noWrap memory prepared lenActions counted) acted
  exact ⟨guarded.owner, guarded.lamports⟩

end Integrity

/-- A stack frame with the variables in the order of their declarations. -/
def sampleLayout : Layout where
  callerKey := 0x200000100
  dataAccountKey := 0x200000120
  programId := 0x200000140
  systemId := 0x200000160
  seed := 0x200000180
  userBump := 0x200000184
  seeds := 0x200000188
  dataAccountKeyVerify := 0x2000001a8
  accounts := 0x2000001c8
  apart := by decide
  onStack := by decide

/-- Where the input holds what belongs to an account. -/
def sampleInfo (start : UInt64) (dataLen : UInt64) (isSigner : Bool) : AccountInfo where
  key := start
  lamports := start + 64
  dataLen := dataLen
  data := start + 80
  owner := start + 32
  rentEpoch := 0
  isSigner := isSigner
  isWritable := true
  executable := false

def sampleParameters : Parameters where
  caller := sampleInfo 0x400000100 0 true
  dataAccount := sampleInfo 0x400000200 10240 false
  programAccount := sampleInfo 0x400000300 0 false
  systemAccount := sampleInfo 0x400000400 0 false
  data := 0x400000500
  programId := 0x400000300

/-- The account holds 10 SOL for an owner whose key is all `0x33`, the caller has 1 SOL. -/
def sampleImage (data : List UInt8) : Image :=
  let blank : Image := fun _ => 0
  let caller := put (put blank 0x400000100 (List.replicate 32 0x11)) 0x400000140
    (Bytes.toLE 8 1000000000)
  let account := put (put (put caller 0x400000200 (List.replicate 32 0x22)) 0x400000240
    (Bytes.toLE 8 10000000000)) 0x400000250 (List.replicate 32 0x33)
  put (put account 0x400000300 (List.replicate 32 0x44)) 0x400000500 data

/-- The transfer of the system program, between the two accounts. -/
def sampleInvoke (memory : Image) (call : Invocation) : Option Image :=
  let amount := Bytes.ofLE (call.data.drop 4)
  if call.data.take 4 ≠ [2, 0, 0, 0] ∨ wordAt memory 0x400000140 < amount ∨
      2 ^ 64 ≤ wordAt memory 0x400000240 + amount then none
  else some (put (put memory 0x400000140 (Bytes.toLE 8 (wordAt memory 0x400000140 - amount)))
    0x400000240 (Bytes.toLE 8 (wordAt memory 0x400000240 + amount)))

def sampleRuntime : Runtime where
  machine :=
    { text := 4096
      stack := 4096
      heap := 32768
      input := 4096
      heapWhole := by decide
      textFits := by decide
      stackFits := by decide
      heapFits := by decide
      inputFits := by decide }
  budget := 200000
  createProgramAddress := fun seeds _ =>
    if seeds = [[0x42, 0x4c, 0x41, 0x5a], [0xff]] then
      some ⟨List.replicate 32 0x22, List.length_replicate⟩
    else none
  invoke := sampleInvoke

def sampleAction (type : UInt8) (amount msgSize : Nat) (message : List UInt8) : List UInt8 :=
  [0xff, type] ++ Bytes.toLE 8 amount ++ Bytes.toLE 8 msgSize ++ message ++ [0]

/-- The first block wraps the allocator to the copy of the caller's key on the stack,
and the message of the second is the key of the owner. -/
def forgedWithdrawal : List UInt8 :=
  [2] ++ sampleAction DEPOSIT 0 0xffffffff000000f8 [] ++
    sampleAction WITHDRAW 5000000000 33 (List.replicate 32 0x33)

def smallDeposit : List UInt8 := [1] ++ sampleAction DEPOSIT 7 4 [0x61, 0x62, 0x63]

/-- The transfer changes the two balances only, and not that of the account downwards. -/
theorem sampleInvoke_effect {before after : Image} {call : Invocation}
    (invoked : sampleInvoke before call = some after) :
    Frame 0x400000140 0x400000248 before after ∧
      wordAt before 0x400000240 ≤ wordAt after 0x400000240 := by
  unfold sampleInvoke at invoked
  simp only at invoked
  split at invoked
  · cases invoked
  rename_i permitted
  obtain ⟨-, -, small⟩ : _ ∧ _ ∧ ¬ _ := by simpa only [not_or] using permitted
  obtain rfl := Option.some.inj invoked
  have debit := put_frame before 0x400000140
    (Bytes.toLE 8 (wordAt before 0x400000140 - Bytes.ofLE (call.data.drop 4)))
  have credit := put_frame (put before 0x400000140
    (Bytes.toLE 8 (wordAt before 0x400000140 - Bytes.ofLE (call.data.drop 4)))) 0x400000240
    (Bytes.toLE 8 (wordAt before 0x400000240 + Bytes.ofLE (call.data.drop 4)))
  have stored := bytesAt_put (put before 0x400000140
    (Bytes.toLE 8 (wordAt before 0x400000140 - Bytes.ofLE (call.data.drop 4)))) 0x400000240
    (Bytes.toLE 8 (wordAt before 0x400000240 + Bytes.ofLE (call.data.drop 4)))
  rw [Bytes.length_toLE] at debit credit stored
  constructor
  · exact (debit.mono (Nat.le_refl 0x400000140) (by decide)).trans
      (credit.mono (by decide) (Nat.le_refl (0x400000240 + 8)))
  · show wordAt before 0x400000240 ≤ Bytes.ofLE (bytesAt _ 0x400000240 8)
    rw [stored, Bytes.ofLE_toLE (Nat.lt_of_not_le small)]
    exact Nat.le_add_right _ _

theorem sampleRuntime_lawful : sampleRuntime.Lawful sampleParameters where
  callerKey := by decide
  lamports := by decide
  data := by decide
  invoked := by
    intro before call after success
    obtain ⟨balances, more⟩ := sampleInvoke_effect success
    refine ⟨fun address below => balances address (Or.inl (Nat.lt_trans below (by decide))), ?_,
      more⟩
    exact balances.bytesAt (Or.inr (by decide))

theorem small_deposit_keeps_owner :
    ∃ after, entrypoint sampleRuntime sampleLayout sampleParameters (sampleImage smallDeposit) =
        some after ∧
      bytesAt after 0x400000250 32 = List.replicate 32 0x33 ∧
      10000000000 ≤ wordAt after 0x400000240 := by
  have succeeds : (entrypoint sampleRuntime sampleLayout sampleParameters
      (sampleImage smallDeposit)).isSome = true := by
    decide +kernel
  obtain ⟨after, success⟩ := Option.isSome_iff_exists.mp succeeds
  have kept := owner_kept_without_wrap sampleRuntime_lawful (by decide) (by decide +kernel)
    (by decide +kernel) success
  have owner : bytesAt (sampleImage smallDeposit) sampleParameters.dataAccount.data.toNat
      SIZE_PUBKEY = List.replicate 32 0x33 := by
    decide +kernel
  have lamports : wordAt (sampleImage smallDeposit) sampleParameters.dataAccount.lamports.toNat =
      10000000000 := by
    decide +kernel
  rw [owner, lamports] at kept
  exact ⟨after, success, kept.1, kept.2⟩

/-- A caller whose key is not that of the owner takes 5 SOL. -/
theorem forged_withdrawal_takes_lamports :
    sampleRuntime.Lawful sampleParameters ∧ sampleParameters.dataAccount.dataLen ≠ 0 ∧
      bytesAt (sampleImage forgedWithdrawal) sampleParameters.caller.key.toNat SIZE_PUBKEY ≠
        bytesAt (sampleImage forgedWithdrawal) sampleParameters.dataAccount.data.toNat
          SIZE_PUBKEY ∧
      wordAt (sampleImage forgedWithdrawal) sampleParameters.dataAccount.lamports.toNat =
        10000000000 ∧
      (entrypoint sampleRuntime sampleLayout sampleParameters (sampleImage forgedWithdrawal)).map
        (fun after => wordAt after sampleParameters.dataAccount.lamports.toNat) =
          some 5000000000 := by
  refine ⟨sampleRuntime_lawful, by decide, ?_, ?_, ?_⟩ <;> decide +kernel

end Solalloc
