import BlazCtf.Solalloc.Program

set_option autoImplicit false

namespace Solalloc

open Memory

/-- What the runtime promises a program about an account of its own: the pointers lead
into the input, and programs that are invoked write nothing but accounts there,
leave this one's data as it is and do not take its lamports. -/
structure Runtime.Lawful (runtime : Runtime) (params : Parameters) : Prop where
  callerKey : INPUT_START_ADDRESS ≤ params.caller.key.toNat
  lamports : INPUT_START_ADDRESS ≤ params.dataAccount.lamports.toNat
  data : INPUT_START_ADDRESS ≤ params.dataAccount.data.toNat
  invoked : ∀ before call after, runtime.invoke before call = some after →
    (∀ address, address < INPUT_START_ADDRESS → after address = before address) ∧
      bytesAt after params.dataAccount.data.toNat SIZE_PUBKEY =
        bytesAt before params.dataAccount.data.toNat SIZE_PUBKEY ∧
      wordAt before params.dataAccount.lamports.toNat ≤
        wordAt after params.dataAccount.lamports.toNat

/-- The allocator does not wrap when it is asked for a block. -/
def Fits (memory : Image) (size : Nat) : Prop :=
  wordAt memory HEAP_START_ADDRESS + sizeAligned size < 2 ^ 64

instance instDecidableFits (memory : Image) (size : Nat) : Decidable (Fits memory size) :=
  inferInstanceAs (Decidable (_ < _))

/-- An action that asks for a block asks for one that fits. -/
def ActionFits (runtime : Runtime) (layout : Layout) (data offset : Nat) (memory : Image) : Prop :=
  ∀ checked ∈ checkAddress runtime layout memory ((data + offset) % 2 ^ 64),
    checked ((data + offset) % 2 ^ 64 + 1) ≠ INIT →
      Fits checked (wordAt checked ((data + offset) % 2 ^ 64 + 10))

/-- So do all actions of the instruction. -/
def NoWrap (runtime : Runtime) (layout : Layout) (data : Nat) : Nat → Nat → Image → Prop
  | 0, _, _ => True
  | count + 1, offset, memory =>
      ActionFits runtime layout data offset memory ∧
        ∀ result ∈ act runtime layout data offset memory,
          NoWrap runtime layout data count result.1 result.2

instance instDecidableActionFits (runtime : Runtime) (layout : Layout) (data offset : Nat)
    (memory : Image) : Decidable (ActionFits runtime layout data offset memory) :=
  inferInstanceAs (Decidable (∀ _ ∈ _, _))

instance instDecidableNoWrap (runtime : Runtime) (layout : Layout) (data : Nat) :
    ∀ count offset memory, Decidable (NoWrap runtime layout data count offset memory)
  | 0, _, _ => isTrue trivial
  | count + 1, offset, memory =>
      have _ := fun result : Nat × Image =>
        instDecidableNoWrap runtime layout data count result.1 result.2
      inferInstanceAs (Decidable (ActionFits runtime layout data offset memory ∧ ∀ _ ∈ _, _))

theorem Layout.callerKey_apart (layout : Layout) :
    ∀ range ∈ layout.ranges.tail, layout.callerKey + 32 ≤ range.1 ∨
      range.1 + range.2 ≤ layout.callerKey :=
  (List.pairwise_cons.mp layout.apart).1

theorem Layout.accounts_apart (layout : Layout) :
    ∀ range ∈ layout.ranges.dropLast, range.1 + range.2 ≤ layout.accounts ∨
      layout.accounts + 4 * AccountInfo.size ≤ range.1 := by
  intro range member
  have split : layout.ranges = layout.ranges.dropLast ++
      [(layout.accounts, 4 * AccountInfo.size)] := rfl
  have apart := layout.apart
  rw [split] at apart
  exact (List.pairwise_append.mp apart).2.2 range member _ List.mem_cons_self

/-- The heap ends where nothing can be written. -/
theorem Machine.heap_wall (machine : Machine) :
    ¬ Writable machine.map (HEAP_START_ADDRESS + machine.heap) 1 := by
  rintro ⟨region, member, writable, low, high⟩
  have heapFits := machine.heapFits
  have stackFits := machine.stackFits
  simp only [Machine.map, List.mem_cons, List.not_mem_nil, or_false] at member
  simp only [HEAP_START_ADDRESS] at low high
  rcases member with rfl | rfl | rfl | rfl
  · cases writable
  · simp only [STACK_START_ADDRESS] at low high
    omega
  · simp only [HEAP_START_ADDRESS] at low high
    omega
  · simp only [INPUT_START_ADDRESS] at low high
    omega

section Guarded

/-- What protects the owner: the copy of the caller's key, what the program knows of
the data account, and an allocator that stays in the heap. -/
structure Guarded (layout : Layout) (params : Parameters) (caller owner : List UInt8)
    (least : Nat) (memory : Image) : Prop where
  callerKey : bytesAt memory layout.callerKey SIZE_PUBKEY = caller
  dataLen : wordAt memory (layout.accounts + AccountInfo.size + 16) ≠ 0
  data : wordAt memory (layout.accounts + AccountInfo.size + 24) = params.dataAccount.data.toNat
  owner : bytesAt memory params.dataAccount.data.toNat SIZE_PUBKEY = owner
  lamports : least ≤ wordAt memory params.dataAccount.lamports.toNat
  above : HEAP_START_ADDRESS + 8 ≤ wordAt memory HEAP_START_ADDRESS
  below : wordAt memory HEAP_START_ADDRESS ≤ HEAP_END_ADDRESS

variable {runtime : Runtime} {layout : Layout} {params : Parameters} {caller owner : List UInt8}
  {least : Nat} {before after : Image}

/-- The protection depends on two variables of the stack frame, the data account and
the allocator. -/
theorem Guarded.of_same (guarded : Guarded layout params caller owner least before)
    (callerKey : ∀ address, layout.callerKey ≤ address → address < layout.callerKey + 32 →
      after address = before address)
    (accounts : ∀ address, layout.accounts ≤ address →
      address < layout.accounts + 4 * AccountInfo.size → after address = before address)
    (sameOwner : bytesAt after params.dataAccount.data.toNat SIZE_PUBKEY =
      bytesAt before params.dataAccount.data.toNat SIZE_PUBKEY)
    (more : wordAt before params.dataAccount.lamports.toNat ≤
      wordAt after params.dataAccount.lamports.toNat)
    (above : HEAP_START_ADDRESS + 8 ≤ wordAt after HEAP_START_ADDRESS)
    (below : wordAt after HEAP_START_ADDRESS ≤ HEAP_END_ADDRESS) :
    Guarded layout params caller owner least after := by
  have sameField : ∀ offset, offset + 8 ≤ AccountInfo.size →
      wordAt after (layout.accounts + AccountInfo.size + offset) =
        wordAt before (layout.accounts + AccountInfo.size + offset) := by
    intro offset fits
    apply wordAt_congr
    intro address low high
    apply accounts
    · omega
    · omega
  constructor
  · exact (bytesAt_congr callerKey).trans guarded.callerKey
  · rw [sameField 16 (by decide)]
    exact guarded.dataLen
  · rw [sameField 24 (by decide)]
    exact guarded.data
  · exact sameOwner.trans guarded.owner
  · exact Nat.le_trans guarded.lamports more
  · exact above
  · exact below

theorem Guarded.frame {low high : Nat} (lawful : runtime.Lawful params)
    (guarded : Guarded layout params caller owner least before)
    (frame : Frame low high before after)
    (callerApart : layout.callerKey + 32 ≤ low ∨ high ≤ layout.callerKey)
    (accountsApart : layout.accounts + 4 * AccountInfo.size ≤ low ∨ high ≤ layout.accounts)
    (heapApart : HEAP_START_ADDRESS + 8 ≤ low ∨ high ≤ HEAP_START_ADDRESS)
    (inputApart : high ≤ INPUT_START_ADDRESS) :
    Guarded layout params caller owner least after := by
  have sameFree := frame.wordAt heapApart
  apply guarded.of_same
  · intro address _ _
    exact frame address (by omega)
  · intro address _ _
    exact frame address (by omega)
  · exact frame.bytesAt (Or.inr (Nat.le_trans inputApart lawful.data))
  · exact Nat.le_of_eq (frame.wordAt (Or.inr (Nat.le_trans inputApart lawful.lamports))).symm
  · rw [sameFree]
    exact guarded.above
  · rw [sameFree]
    exact guarded.below

theorem Layout.callerKey_stacked (layout : Layout) :
    layout.callerKey + 32 ≤ HEAP_START_ADDRESS :=
  (layout.onStack (layout.callerKey, 32) (by simp [Locals.ranges])).2

theorem Layout.accounts_stacked (layout : Layout) :
    layout.accounts + 4 * AccountInfo.size ≤ HEAP_START_ADDRESS :=
  (layout.onStack (layout.accounts, 4 * AccountInfo.size) (by simp [Locals.ranges])).2

/-- Writes to the other variables of the stack frame. -/
theorem Guarded.write_local (range : Nat × Nat) {bytes : List UInt8}
    (lawful : runtime.Lawful params) (guarded : Guarded layout params caller owner least before)
    (notCaller : range ∈ layout.ranges.tail) (notAccounts : range ∈ layout.ranges.dropLast)
    (size : bytes.length = range.2)
    (written : write runtime.machine.map before range.1 bytes = some after) :
    Guarded layout params caller owner least after := by
  have frame := write_frame written
  rw [size] at frame
  have stacked := layout.onStack range (List.mem_of_mem_tail notCaller)
  have callerApart := layout.callerKey_apart range notCaller
  have accountsApart := layout.accounts_apart range notAccounts
  apply guarded.frame lawful frame callerApart
  · omega
  · exact Or.inr stacked.2
  · exact Nat.le_trans stacked.2 (by decide)

theorem Guarded.checkAddress {input : Nat} (lawful : runtime.Lawful params)
    (guarded : Guarded layout params caller owner least before)
    (success : checkAddress runtime layout before input = some after) :
    Guarded layout params caller owner least after := by
  simp only [Solalloc.checkAddress, Option.bind_eq_bind, Option.bind_eq_some_iff] at success
  obtain ⟨bump, -, bumped, wroteBump, seeds, -, programId, -, address, -, verified, wroteVerify,
    key, -, verify, -, compared⟩ := success
  split at compared
  · cases compared
  obtain rfl := Option.some.inj compared
  have guarded := guarded.write_local (layout.userBump, 1) lawful
    (by simp [Locals.ranges]) (by simp [Locals.ranges]) rfl wroteBump
  exact guarded.write_local (layout.dataAccountKeyVerify, 32) lawful
    (by simp [Locals.ranges]) (by simp [Locals.ranges]) address.size wroteVerify

/-- Blocks that fit lie in the heap, behind the allocator. -/
theorem Guarded.malloc {size message : Nat} (lawful : runtime.Lawful params)
    (guarded : Guarded layout params caller owner least before) (fits : Fits before size)
    (success : malloc runtime.machine.map before size = some (message, after)) :
    Guarded layout params caller owner least after ∧
      (message ≠ 0 → HEAP_START_ADDRESS + 8 ≤ message ∧ message ≤ HEAP_END_ADDRESS) := by
  unfold Solalloc.malloc at success
  split at success
  · obtain ⟨rfl, rfl⟩ := Prod.mk.inj (Option.some.inj success)
    exact ⟨guarded, fun nonzero => absurd rfl nonzero⟩
  · simp only [Option.bind_eq_bind, Option.bind_eq_some_iff] at success
    obtain ⟨freePtr, found, success⟩ := success
    obtain rfl := readWord_eq_some found
    split at success
    · obtain ⟨rfl, rfl⟩ := Prod.mk.inj (Option.some.inj success)
      exact ⟨guarded, fun nonzero => absurd rfl nonzero⟩
    · rename_i small
      simp only [Option.bind_eq_some_iff] at success
      obtain ⟨written, wrote, same⟩ := success
      obtain ⟨rfl, rfl⟩ := Prod.mk.inj (Option.some.inj same)
      unfold Fits at fits
      rw [Nat.mod_eq_of_lt fits] at small wrote
      have stored := wordAt_writeWord fits wrote
      have frame := writeWord_frame wrote
      have callerStacked := layout.callerKey_stacked
      have accountsStacked := layout.accounts_stacked
      have heapEnds : HEAP_START_ADDRESS + 8 ≤ INPUT_START_ADDRESS := by decide
      refine ⟨?_, fun _ => ⟨guarded.above, guarded.below⟩⟩
      apply guarded.of_same
      · intro address _ _
        exact frame address (by omega)
      · intro address _ _
        exact frame address (by omega)
      · exact frame.bytesAt (Or.inr (Nat.le_trans heapEnds lawful.data))
      · exact Nat.le_of_eq (frame.wordAt (Or.inr (Nat.le_trans heapEnds lawful.lamports))).symm
      · rw [stored]
        exact Nat.le_trans guarded.above (Nat.le_add_right _ _)
      · rw [stored]
        exact Nat.le_of_not_gt small

/-- However long the message is, it stays in the heap. -/
theorem Guarded.copyMessage {input offset next : Nat} (lawful : runtime.Lawful params)
    (guarded : Guarded layout params caller owner least before)
    (fits : Fits before (wordAt before (input + 10)))
    (success : copyMessage runtime before input offset = some (next, after)) :
    Guarded layout params caller owner least after := by
  simp only [Solalloc.copyMessage, Option.bind_eq_bind, Option.bind_eq_some_iff,
    Prod.exists] at success
  obtain ⟨msgSize, found, message, allocated, gave, success⟩ := success
  obtain rfl := readWord_eq_some found
  obtain ⟨stillGuarded, inHeap⟩ := guarded.malloc lawful fits gave
  split at success
  · obtain ⟨-, rfl⟩ := Prod.mk.inj (Option.some.inj success)
    exact stillGuarded
  · rename_i nonzero
    simp only [Option.bind_eq_some_iff] at success
    obtain ⟨copied, copy, length, -, same⟩ := success
    obtain ⟨-, rfl⟩ := Prod.mk.inj (Option.some.inj same)
    obtain ⟨above, below⟩ := inHeap nonzero
    have whole := runtime.machine.heapWhole
    have heapFits := runtime.machine.heapFits
    have belowWall : message ≤ HEAP_START_ADDRESS + runtime.machine.heap := by
      simp only [HEAP_END_ADDRESS] at below
      omega
    apply stillGuarded.frame lawful (strcpy_frame above belowWall runtime.machine.heap_wall copy)
    · exact Or.inl (Nat.le_trans layout.callerKey_stacked (Nat.le_add_right _ _))
    · exact Or.inl (Nat.le_trans layout.accounts_stacked (Nat.le_add_right _ _))
    · exact Or.inl (Nat.le_refl _)
    · simp only [HEAP_START_ADDRESS, INPUT_START_ADDRESS]
      omega

theorem Guarded.invoke {call : Invocation} (lawful : runtime.Lawful params)
    (guarded : Guarded layout params caller owner least before)
    (success : runtime.invoke before call = some after) :
    Guarded layout params caller owner least after := by
  obtain ⟨outside, sameOwner, more⟩ := lawful.invoked before call after success
  have callerStacked := layout.callerKey_stacked
  have accountsStacked := layout.accounts_stacked
  have order : HEAP_START_ADDRESS + 8 ≤ INPUT_START_ADDRESS := by decide
  have sameFree : wordAt after HEAP_START_ADDRESS = wordAt before HEAP_START_ADDRESS :=
    wordAt_congr fun _ _ _ => outside _ (by omega)
  apply guarded.of_same
  · intro address _ _
    exact outside address (by omega)
  · intro address _ _
    exact outside address (by omega)
  · exact sameOwner
  · exact more
  · rw [sameFree]
    exact guarded.above
  · rw [sameFree]
    exact guarded.below

theorem Guarded.deposit {input offset next : Nat} (lawful : runtime.Lawful params)
    (guarded : Guarded layout params caller owner least before)
    (fits : Fits before (wordAt before (input + 10)))
    (success : deposit runtime layout before input offset = some (next, after)) :
    Guarded layout params caller owner least after := by
  simp only [Solalloc.deposit, Option.bind_eq_bind, Option.bind_eq_some_iff,
    Prod.exists] at success
  obtain ⟨amount, -, moved, copied, copy, transferred, transfer, same⟩ := success
  obtain ⟨-, rfl⟩ := Prod.mk.inj (Option.some.inj same)
  have guarded := guarded.copyMessage lawful fits copy
  simp only [Solalloc.transfer, Option.bind_eq_bind, Option.bind_eq_some_iff] at transfer
  obtain ⟨_, -, _, -, _, -, _, -, _, -, invoked⟩ := transfer
  exact guarded.invoke lawful invoked

/-- A caller that is not the owner does not get past the comparison. -/
theorem Guarded.withdraw_fails {input offset : Nat} (lawful : runtime.Lawful params)
    (guarded : Guarded layout params caller owner least before) (stranger : caller ≠ owner)
    (fits : Fits before (wordAt before (input + 10))) :
    withdraw runtime layout before input offset = none := by
  apply Option.eq_none_iff_forall_ne_some.mpr
  intro result success
  simp only [Solalloc.withdraw, Option.bind_eq_bind, Option.bind_eq_some_iff,
    Prod.exists] at success
  obtain ⟨amount, -, moved, copied, copy, data, field, stored, fetched, key, loaded, compared⟩ :=
    success
  have guarded := guarded.copyMessage lawful fits copy
  have isData : data = params.dataAccount.data.toNat :=
    (readWord_eq_some field).trans guarded.data
  have isOwner : stored = owner := by
    rw [read_eq_some fetched, isData]
    exact guarded.owner
  have isCaller : key = caller := (read_eq_some loaded).trans guarded.callerKey
  rw [isOwner, isCaller, if_pos (Ne.symm stranger)] at compared
  cases compared

/-- An initialised account is not initialised again. -/
theorem Guarded.init_fails (guarded : Guarded layout params caller owner least before) :
    init runtime layout before = none := by
  apply Option.eq_none_iff_forall_ne_some.mpr
  intro result success
  simp only [Solalloc.init, Option.bind_eq_bind, Option.bind_eq_some_iff] at success
  obtain ⟨dataLen, field, compared⟩ := success
  have initialised : dataLen ≠ 0 := by
    rw [readWord_eq_some field]
    exact guarded.dataLen
  rw [if_pos initialised] at compared
  cases compared

theorem Guarded.act {data offset next : Nat} (lawful : runtime.Lawful params)
    (guarded : Guarded layout params caller owner least before) (stranger : caller ≠ owner)
    (fits : ActionFits runtime layout data offset before)
    (success : act runtime layout data offset before = some (next, after)) :
    Guarded layout params caller owner least after := by
  simp only [Solalloc.act, Option.bind_eq_bind, Option.bind_eq_some_iff] at success
  obtain ⟨checked, check, type, fetched, success⟩ := success
  have guarded := guarded.checkAddress lawful check
  have isType := readByte_eq_some fetched
  split at success
  · rw [guarded.init_fails] at success
    cases success
  · rename_i notInit
    have blockFits := fits checked check (isType ▸ notInit)
    split at success
    · exact guarded.deposit lawful blockFits success
    · split at success
      · rw [guarded.withdraw_fails lawful stranger blockFits] at success
        cases success
      · cases success

theorem Guarded.actions {data count offset : Nat} (lawful : runtime.Lawful params)
    (guarded : Guarded layout params caller owner least before) (stranger : caller ≠ owner)
    (fits : NoWrap runtime layout data count offset before)
    (success : actions runtime layout data count offset before = some after) :
    Guarded layout params caller owner least after := by
  induction count generalizing offset before with
  | zero =>
      rw [← Option.some.inj success]
      exact guarded
  | succ count ih =>
      simp only [Solalloc.actions, Option.bind_eq_bind, Option.bind_eq_some_iff,
        Prod.exists] at success
      obtain ⟨next, middle, acted, rest⟩ := success
      exact ih (guarded.act lawful stranger fits.1 acted) (fits.2 (next, middle) acted) rest

end Guarded

end Solalloc
