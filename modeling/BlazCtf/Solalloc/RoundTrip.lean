import BlazCtf.Solalloc.Decoding

set_option autoImplicit false

namespace Solalloc

open Memory

/-- A round that finds an action encoded at its offset, with room for the message. -/
structure Round (layout : Layout) (params : Parameters) (data : List UInt8) (free offset : Nat)
    (wanted : Action) (memory : Image) : Prop where
  intact : Intact layout params data free memory
  above : HEAP_START_ADDRESS + 8 ≤ free
  fits : free + wanted.room ≤ HEAP_END_ADDRESS
  noZero : 0 ∉ wanted.message
  stored : bytesAt memory (params.data.toNat + offset) wanted.encode.length = wanted.encode
  inside : offset + wanted.encode.length ≤ data.length

section Rounds

variable {runtime : Runtime} {layout : Layout} {params : Parameters} {data : List UInt8}
  {free offset : Nat} {wanted : Action} {memory after : Image}

theorem Runtime.Serves.input_small {length : Nat} (serves : runtime.Serves params length) :
    params.data.toNat + length < 2 ^ 64 := by
  have below := serves.below
  have inputFits := runtime.machine.inputFits
  simp only [INPUT_START_ADDRESS] at below
  omega

/-- The address of the action, which does not wrap. -/
theorem Round.input_eq (serves : runtime.Serves params data.length)
    (round : Round layout params data free offset wanted memory) :
    (params.data.toNat + offset) % 2 ^ 64 = params.data.toNat + offset := by
  have small := serves.input_small
  have inside := round.inside
  exact Nat.mod_eq_of_lt (by omega)

theorem Round.checkAddress {input : Nat} (serves : runtime.Serves params data.length)
    (round : Round layout params data free offset wanted memory)
    (success : checkAddress runtime layout memory input = some after) :
    Round layout params data free offset wanted after := by
  have intact := round.intact.checkAddress serves success
  refine { round with intact := intact, stored := ?_ }
  have inside := round.inside
  -- the encoding is a part of the data, which is the same in both memories
  have same : bytesAt after (params.data.toNat + offset) wanted.encode.length =
      bytesAt memory (params.data.toNat + offset) wanted.encode.length := by
    have whole := intact.data.trans round.intact.data.symm
    rw [show data.length = offset + wanted.encode.length +
      (data.length - (offset + wanted.encode.length)) by omega, bytesAt_append, bytesAt_append,
      bytesAt_append memory, bytesAt_append memory] at whole
    have front := (List.append_inj whole (by simp)).1
    exact (List.append_inj front (by simp)).2
  exact same.trans round.stored

/-- The fields of a deposit or a withdrawal. -/
theorem Round.fields {bump type : UInt8} {amount : UInt64} {message : List UInt8}
    (serves : runtime.Serves params data.length)
    (round : Round layout params data free offset wanted memory)
    (encoded : wanted.encode = bump :: type :: Action.body amount message)
    (sameMessage : wanted.message = message) :
    memory (params.data.toNat + offset) = bump ∧
      memory (params.data.toNat + offset + 1) = type ∧
      wordAt memory (params.data.toNat + offset + 2) = amount.toNat ∧
      MessageAt (params.data.toNat + offset) message memory := by
  have stored := round.stored
  have inside := round.inside
  have small := serves.input_small
  have above := serves.above
  rw [encoded] at stored inside
  obtain ⟨isBump, rest⟩ := bytesAt_eq_cons_iff.mp stored
  obtain ⟨isType, bodyStored⟩ := bytesAt_eq_cons_iff.mp rest
  simp only [Action.body, List.length_cons, List.length_append, Bytes.length_toLE,
    List.length_nil] at inside
  obtain ⟨isAmount, isSize, isMessage⟩ := body_fields (by omega) bodyStored
  refine ⟨isBump, isType, isAmount, by omega, ?_, isSize, isMessage⟩
  rw [← sameMessage]
  exact round.noZero

theorem Round.init_fields {bump : UInt8}
    (round : Round layout params data free offset (.init bump) memory) :
    memory (params.data.toNat + offset) = bump ∧
      memory (params.data.toNat + offset + 1) = INIT := by
  obtain ⟨isBump, rest⟩ := bytesAt_eq_cons_iff.mp round.stored
  exact ⟨isBump, (bytesAt_eq_cons_iff.mp rest).1⟩

/-- What a round reads of a deposit or a withdrawal is what was encoded. -/
theorem Round.taken {bump type : UInt8} {amount : UInt64} {message text : List UInt8} {value : Nat}
    (serves : runtime.Serves params data.length)
    (round : Round layout params data free offset wanted memory)
    (encoded : wanted.encode = bump :: type :: Action.body amount message)
    (sameMessage : wanted.message = message)
    (sameRoom : wanted.room = (message.length + 1 + 7) / 8 * 8)
    (gotAmount : readWord runtime.machine.map memory (params.data.toNat + offset + 2) =
      some value)
    (gotText : copiedMessage runtime memory (params.data.toNat + offset) = some text) :
    UInt64.ofNat value = amount ∧ text = message := by
  obtain ⟨-, -, isAmount, present⟩ := round.fields serves encoded sameMessage
  have fits := round.fits
  rw [sameRoom] at fits
  refine ⟨?_, round.intact.copiedMessage serves round.above fits present gotText⟩
  rw [readWord_eq_some gotAmount, isAmount, UInt64.ofNat_toNat]

/-- A round takes no other action from the data than the one that is encoded there. -/
theorem Round.visit {action : Action} (serves : runtime.Serves params data.length)
    (round : Round layout params data free offset wanted memory)
    (found : visit runtime layout params.data.toNat offset memory = some action) :
    action = wanted := by
  simp only [Solalloc.visit, round.input_eq serves, Option.bind_eq_bind,
    Option.bind_eq_some_iff] at found
  obtain ⟨bump, bumpRead, checked, check, type, typeRead, found⟩ := found
  have checkedRound := round.checkAddress serves check
  have isBump := readByte_eq_some bumpRead
  have isType := readByte_eq_some typeRead
  cases wanted with
  | init wantedBump =>
      rw [isType, checkedRound.init_fields.2, if_pos rfl] at found
      rw [← Option.some.inj found, isBump, round.init_fields.1]
  | deposit wantedBump amount message =>
      obtain ⟨-, isDeposit, -⟩ := checkedRound.fields serves rfl rfl
      rw [isType, isDeposit, if_neg (by decide), if_pos (Or.inl rfl)] at found
      simp only [Option.bind_eq_some_iff, if_pos] at found
      obtain ⟨value, gotAmount, text, gotText, same⟩ := found
      obtain ⟨isAmount, isText⟩ := checkedRound.taken serves rfl rfl rfl gotAmount gotText
      rw [← Option.some.inj same, isBump, (round.fields serves rfl rfl).1, isText, isAmount]
  | withdraw wantedBump amount message =>
      obtain ⟨-, isWithdraw, -⟩ := checkedRound.fields serves rfl rfl
      rw [isType, isWithdraw, if_neg (by decide), if_pos (Or.inr rfl)] at found
      simp only [Option.bind_eq_some_iff, if_neg (show WITHDRAW ≠ DEPOSIT by decide)] at found
      obtain ⟨value, gotAmount, text, gotText, same⟩ := found
      obtain ⟨isAmount, isText⟩ := checkedRound.taken serves rfl rfl rfl gotAmount gotText
      rw [← Option.some.inj same, isBump, (round.fields serves rfl rfl).1, isText, isAmount]

theorem Runtime.Serves.readable {length : Nat} (serves : runtime.Serves params length) :
    Readable runtime.machine.map params.data.toNat length := by
  refine ⟨⟨INPUT_START_ADDRESS, runtime.machine.input, true⟩, ?_, serves.above, serves.below⟩
  simp [Machine.map]

/-- The fields of a deposit or a withdrawal can be read and its message copied: it lies in
the data, and takes less fuel than the heap has bytes. -/
theorem Round.fields_return {bump type : UInt8} {amount : UInt64} {message : List UInt8}
    (serves : runtime.Serves params data.length) (enough : HEAP_LENGTH ≤ runtime.budget)
    (round : Round layout params data free offset wanted memory)
    (encoded : wanted.encode = bump :: type :: Action.body amount message)
    (sameMessage : wanted.message = message)
    (sameRoom : wanted.room = (message.length + 1 + 7) / 8 * 8) :
    readByte runtime.machine.map memory (params.data.toNat + offset + 1) = some type ∧
      (∃ value, readWord runtime.machine.map memory (params.data.toNat + offset + 2) =
        some value) ∧
      ∃ found, copiedMessage runtime memory (params.data.toNat + offset) = some found := by
  obtain ⟨-, isType, -, present⟩ := round.fields serves encoded sameMessage
  have mapped := serves.readable
  have above := round.above
  have fits := round.fits
  have inside := round.inside
  rw [sameRoom] at fits
  simp only [encoded, Action.body, List.length_cons, List.length_append, Bytes.length_toLE,
    List.length_nil] at inside
  have short : message.length < HEAP_LENGTH := by
    simp only [HEAP_END_ADDRESS] at fits
    omega
  refine ⟨?_, ⟨_, if_pos (mapped.part (by omega) (by omega))⟩, ?_⟩
  · rw [readByte, if_pos (mapped.part (by omega) (by omega)), isType]
  · apply round.intact.copiedMessage_returns serves above fits present
    · exact mapped.part (by omega) (by omega)
    · exact Nat.lt_of_lt_of_le short enough

/-- Behind the address check nothing but fuel keeps a round from taking its action. -/
theorem Round.visit_returns {checked : Image} (serves : runtime.Serves params data.length)
    (enough : HEAP_LENGTH ≤ runtime.budget)
    (round : Round layout params data free offset wanted memory)
    (check : Solalloc.checkAddress runtime layout memory (params.data.toNat + offset) =
      some checked) :
    ∃ action, Solalloc.visit runtime layout params.data.toNat offset memory = some action := by
  have checkedRound := round.checkAddress serves check
  have inside := round.inside
  have bumpRead : readByte runtime.machine.map memory (params.data.toNat + offset) =
      some (memory (params.data.toNat + offset)) := by
    apply if_pos
    apply serves.readable.part (Nat.le_add_right _ _)
    cases wanted <;> simp only [Action.encode, List.length_cons] at inside <;> omega
  simp only [Solalloc.visit, round.input_eq serves, bumpRead, check, Option.bind_eq_bind,
    Option.bind_some]
  cases wanted with
  | init bump =>
      simp only [Action.encode, List.length_cons, List.length_nil] at inside
      have typeRead : readByte runtime.machine.map checked (params.data.toNat + offset + 1) =
          some INIT := by
        rw [readByte, if_pos (serves.readable.part (by omega) (by omega)),
          checkedRound.init_fields.2]
      rw [typeRead, Option.bind_some, if_pos rfl]
      exact ⟨_, rfl⟩
  | deposit bump amount message =>
      obtain ⟨typeRead, ⟨value, amountRead⟩, text, copied⟩ :=
        checkedRound.fields_return serves enough rfl rfl rfl
      rw [typeRead, Option.bind_some, if_neg (by decide), if_pos (Or.inl rfl), amountRead, copied,
        Option.bind_some, Option.bind_some, if_pos rfl]
      exact ⟨_, rfl⟩
  | withdraw bump amount message =>
      obtain ⟨typeRead, ⟨value, amountRead⟩, text, copied⟩ :=
        checkedRound.fields_return serves enough rfl rfl rfl
      rw [typeRead, Option.bind_some, if_neg (by decide), if_pos (Or.inr rfl), amountRead, copied,
        Option.bind_some, Option.bind_some, if_neg (by decide)]
      exact ⟨_, rfl⟩

/-- So a round that does not return has not failed to decode its action. -/
theorem Round.failure (serves : runtime.Serves params data.length)
    (enough : HEAP_LENGTH ≤ runtime.budget)
    (round : Round layout params data free offset wanted memory) :
    Solalloc.failure runtime layout params.data.toNat offset memory ≠ .decoding := by
  unfold Solalloc.failure
  rw [round.input_eq serves]
  cases check : Solalloc.checkAddress runtime layout memory (params.data.toNat + offset) with
  | none =>
      rw [Option.isNone_none, if_pos rfl]
      nofun
  | some checked =>
      obtain ⟨action, found⟩ := round.visit_returns serves enough check
      rw [Option.isNone_some, if_neg (by decide), found, Option.isNone_some, if_neg (by decide)]
      nofun

theorem Intact.withdraw {input next : Nat} {message : List UInt8}
    (serves : runtime.Serves params data.length)
    (intact : Intact layout params data free memory) (above : HEAP_START_ADDRESS + 8 ≤ free)
    (fits : free + (message.length + 1 + 7) / 8 * 8 ≤ HEAP_END_ADDRESS)
    (present : MessageAt input message memory)
    (success : withdraw runtime layout memory input offset = some (next, after)) :
    next = (offset + message.length + 1) % 2 ^ 64 ∧
      Intact layout params data (free + (message.length + 1 + 7) / 8 * 8) after := by
  simp only [Solalloc.withdraw, Option.bind_eq_bind, Option.bind_eq_some_iff,
    Prod.exists] at success
  obtain ⟨amount, -, moved, copied, copy, _, -, _, -, _, -, success⟩ := success
  obtain ⟨isNext, intact⟩ := intact.copyMessage serves above fits present copy
  split at success
  · cases success
  simp only [Option.bind_eq_some_iff] at success
  obtain ⟨fromPointer, fromField, _, -, debited, debit, toPointer, toField, _, -, credited, credit,
    same⟩ := success
  obtain ⟨rfl, rfl⟩ := Prod.mk.inj (Option.some.inj same)
  -- both pointers are those of the accounts, which lead past the instruction data
  have isFrom := (readWord_eq_some fromField).trans intact.dataLamports
  have debitFrame := writeWord_frame debit
  rw [isFrom] at debitFrame
  have intact := intact.input_change serves.dataLamports.1 serves.dataLamports.2 debitFrame
  have isTo := (readWord_eq_some toField).trans intact.callerLamports
  have creditFrame := writeWord_frame credit
  rw [isTo] at creditFrame
  exact ⟨isNext, intact.input_change serves.callerLamports.1 serves.callerLamports.2 creditFrame⟩

/-- A round that returns moves the offset past its action and `free_ptr` past its block. -/
theorem Round.act {next : Nat} (serves : runtime.Serves params data.length)
    (round : Round layout params data free offset wanted memory)
    (success : act runtime layout params.data.toNat offset memory = some (next, after)) :
    next = offset + wanted.encode.length ∧
      Intact layout params data (free + wanted.room) after := by
  simp only [Solalloc.act, round.input_eq serves, Option.bind_eq_bind,
    Option.bind_eq_some_iff] at success
  obtain ⟨checked, check, type, typeRead, success⟩ := success
  have checkedRound := round.checkAddress serves check
  have isType := readByte_eq_some typeRead
  have small := serves.input_small
  have inside := round.inside
  cases wanted with
  | init bump =>
      rw [isType, checkedRound.init_fields.2, if_pos rfl] at success
      simp only [Option.bind_eq_some_iff] at success
      obtain ⟨initialised, init, same⟩ := success
      obtain ⟨rfl, rfl⟩ := Prod.mk.inj (Option.some.inj same)
      simp only [Action.encode, List.length_cons, List.length_nil, Action.room] at inside ⊢
      exact ⟨Nat.mod_eq_of_lt (by omega), checkedRound.intact.init serves init⟩
  | deposit bump amount message =>
      obtain ⟨-, isDeposit, -, present⟩ := checkedRound.fields serves rfl rfl
      rw [isType, isDeposit, if_neg (by decide), if_pos rfl] at success
      simp only [deposit, Option.bind_eq_bind, Option.bind_eq_some_iff, Prod.exists] at success
      obtain ⟨_, -, moved, copied, copy, transferred, transfer, same⟩ := success
      obtain ⟨rfl, rfl⟩ := Prod.mk.inj (Option.some.inj same)
      obtain ⟨isNext, intact⟩ := checkedRound.intact.copyMessage serves checkedRound.above
        checkedRound.fits present copy
      simp only [Action.encode, Action.body, List.length_cons, List.length_append,
        Bytes.length_toLE, List.length_nil, Action.room] at inside ⊢
      refine ⟨?_, intact.transfer serves transfer⟩
      omega
  | withdraw bump amount message =>
      obtain ⟨-, isWithdraw, -, present⟩ := checkedRound.fields serves rfl rfl
      rw [isType, isWithdraw, if_neg (by decide), if_neg (by decide), if_pos rfl] at success
      obtain ⟨isNext, intact⟩ := checkedRound.intact.withdraw serves checkedRound.above
        checkedRound.fits present success
      simp only [Action.encode, Action.body, List.length_cons, List.length_append,
        Bytes.length_toLE, List.length_nil, Action.room] at inside ⊢
      refine ⟨?_, intact⟩
      omega

end Rounds

section Loop

variable {runtime : Runtime} {layout : Layout} {params : Parameters} {data : List UInt8}
  {before after : Image}

theorem copiedMessage_of_copyMessage {input offset next : Nat} {memory : Image}
    (copied : copyMessage runtime memory input offset = some (next, after)) :
    ∃ message, copiedMessage runtime memory input = some message := by
  simp only [copyMessage, Option.bind_eq_bind, Option.bind_eq_some_iff, Prod.exists] at copied
  obtain ⟨msgSize, sizeRead, block, allocated, given, copied⟩ := copied
  simp only [copiedMessage, sizeRead, given, Option.bind_eq_bind, Option.bind_some]
  split at copied
  · rename_i null
    exact ⟨[], if_pos null⟩
  · rename_i nonzero
    simp only [Option.bind_eq_some_iff] at copied
    obtain ⟨filled, copy, length, measured, -⟩ := copied
    refine ⟨bytesAt filled block length, ?_⟩
    simp [nonzero, copy, measured]

/-- A round that returns has visited an action. -/
theorem visit_of_act {start offset next : Nat} {memory : Image}
    (acted : act runtime layout start offset memory = some (next, after)) :
    ∃ action, visit runtime layout start offset memory = some action := by
  simp only [act, Option.bind_eq_bind, Option.bind_eq_some_iff] at acted
  obtain ⟨checked, check, type, typeRead, acted⟩ := acted
  have read := check
  simp only [checkAddress, Option.bind_eq_bind, Option.bind_eq_some_iff] at read
  obtain ⟨bump, bumpRead, -⟩ := read
  simp only [visit, bumpRead, check, typeRead, Option.bind_eq_bind, Option.bind_some]
  split at acted
  · rename_i isInit
    exact ⟨.init bump, if_pos isInit⟩
  · rename_i notInit
    rw [if_neg notInit]
    split at acted
    · rename_i isDeposit
      simp only [deposit, Option.bind_eq_bind, Option.bind_eq_some_iff, Prod.exists] at acted
      obtain ⟨amount, amountRead, _, _, copied, -⟩ := acted
      obtain ⟨message, found⟩ := copiedMessage_of_copyMessage copied
      simp only [isDeposit, true_or, if_true, amountRead, found, Option.bind_some]
      exact ⟨_, rfl⟩
    · rename_i notDeposit
      split at acted
      · rename_i isWithdraw
        simp only [withdraw, Option.bind_eq_bind, Option.bind_eq_some_iff, Prod.exists] at acted
        obtain ⟨amount, amountRead, _, _, copied, -⟩ := acted
        obtain ⟨message, found⟩ := copiedMessage_of_copyMessage copied
        simp only [isWithdraw, or_true, if_true, amountRead, found, Option.bind_some]
        exact ⟨_, if_neg (by decide)⟩
      · cases acted

/-- The loop over an encoded list, at the offset where its first action stands: it visits
a prefix of the list, and the whole list if no action returns an error; and it does not
stop for want of an action. -/
theorem visits_encoded (serves : runtime.Serves params data.length) (rest : List Action) :
    ∀ (first : List UInt8) (free : Nat) (memory : Image),
      data = first ++ rest.flatMap Action.encode → Intact layout params data free memory →
      HEAP_START_ADDRESS + 8 ≤ free →
      free + (rest.map Action.room).sum ≤ HEAP_END_ADDRESS →
      (∀ action ∈ rest, 0 ∉ action.message) →
      let result := visits runtime layout params.data.toNat rest.length first.length memory
      result.1 <+: rest ∧
        (∀ offset after, result.2 = .ok (offset, after) →
          result.1 = rest ∧ offset = data.length) ∧
        (HEAP_LENGTH ≤ runtime.budget → result.2 ≠ .error .decoding) := by
  induction rest with
  | nil =>
      intro first free memory whole _ _ _ _
      refine ⟨List.nil_prefix, ?_, nofun⟩
      intro offset after final
      obtain ⟨rfl, -⟩ := Prod.mk.inj (Except.ok.inj final)
      rw [whole, List.flatMap_nil, List.append_nil]
      exact ⟨rfl, rfl⟩
  | cons wanted rest ih =>
      intro first free memory whole intact above fits noZero
      rw [List.flatMap_cons] at whole
      rw [List.map_cons, List.sum_cons] at fits
      have round : Round layout params data free first.length wanted memory := by
        have split : data = first ++ wanted.encode ++ rest.flatMap Action.encode := by
          rw [whole, List.append_assoc]
        constructor
        · exact intact
        · exact above
        · omega
        · exact noZero wanted List.mem_cons_self
        · have stored := intact.data
          rw [split] at stored
          exact bytesAt_middle stored
        · simp only [split, List.length_append]
          omega
      have visited : (visit runtime layout params.data.toNat first.length memory).toList = [] ∨
          (visit runtime layout params.data.toNat first.length memory).toList = [wanted] := by
        cases found : visit runtime layout params.data.toNat first.length memory with
        | none => exact Or.inl rfl
        | some action =>
            rw [round.visit serves found]
            exact Or.inr rfl
      cases acted : act runtime layout params.data.toNat first.length memory with
      | none =>
          simp only [List.length_cons, visits, acted, reduceCtorEq, false_implies, implies_true,
            true_and, ne_eq, Except.error.injEq]
          constructor
          · rcases visited with none | some
            · rw [none]
              exact List.nil_prefix
            · rw [some]
              exact ⟨rest, rfl⟩
          · intro enough
            exact round.failure serves enough
      | some result =>
          obtain ⟨next, middle⟩ := result
          obtain ⟨rfl, kept⟩ := round.act serves acted
          obtain ⟨action, found⟩ := visit_of_act acted
          have isWanted := round.visit serves found
          have later := ih (first ++ wanted.encode) (free + wanted.room) middle
            (by rw [whole, List.append_assoc]) kept (by omega) (by omega)
            (fun other member => noZero other (List.mem_cons_of_mem wanted member))
          rw [List.length_append] at later
          simp only [List.length_cons, visits, acted, found, isWanted, Option.toList_some,
            List.singleton_append]
          obtain ⟨isPrefix, complete, stops⟩ := later
          refine ⟨List.cons_prefix_cons.mpr ⟨rfl, isPrefix⟩, ?_, stops⟩
          intro offset after final
          obtain ⟨all, ends⟩ := complete offset after final
          exact ⟨by rw [all], ends⟩

end Loop

section Start

variable {runtime : Runtime} {layout : Layout} {params : Parameters} {data : List UInt8}
  {before after : Image}

theorem entry_lamports {info : AccountInfo} {memory : Image} {address : Nat}
    (stored : bytesAt memory address 51 = info.bytes) :
    wordAt memory (address + 8) = info.lamports.toNat := by
  have parts : bytesAt memory address 51 = bytesAt memory address 8 ++
      (bytesAt memory (address + 8) 8 ++ bytesAt memory (address + 16) 35) := by
    rw [← bytesAt_append, ← bytesAt_append]
  rw [parts, AccountInfo.bytes] at stored
  obtain ⟨-, rest⟩ := List.append_inj stored (by simp)
  obtain ⟨lamports, -⟩ := List.append_inj rest (by simp)
  rw [wordAt, lamports, Bytes.ofLE_toLE info.lamports.toNat_lt]

/-- The entry of the caller, which the entries behind it leave as it is. -/
theorem storeAccounts_caller (success : storeAccounts runtime layout params before = some after) :
    bytesAt after layout.accounts 51 = params.caller.bytes := by
  simp only [storeAccounts, Option.bind_eq_bind, Option.bind_eq_some_iff] at success
  obtain ⟨first, wroteFirst, second, wroteSecond, third, wroteThird, wroteFourth⟩ := success
  have secondFrame := write_frame wroteSecond
  have thirdFrame := write_frame wroteThird
  have fourthFrame := write_frame wroteFourth
  have stored := bytesAt_write wroteFirst
  simp only [AccountInfo.length_bytes, AccountInfo.size] at *
  rw [fourthFrame.bytesAt (Or.inl (by omega)), thirdFrame.bytesAt (Or.inl (by omega)),
    secondFrame.bytesAt (Or.inl (by omega)), stored]

theorem Intact.copyKeys {free : Nat} (serves : runtime.Serves params data.length)
    (intact : Intact layout params data free before)
    (success : copyKeys runtime layout params before = some after) :
    Intact layout params data free after := by
  simp only [Solalloc.copyKeys, Option.bind_eq_bind, Option.bind_eq_some_iff] at success
  obtain ⟨caller, copiedCaller, account, copiedAccount, program, copiedProgram, copiedSystem⟩ :=
    success
  have intact := intact.local_change (layout.callerKey, 32) serves (by simp [Locals.ranges])
    (memcpy_frame copiedCaller)
  have intact := intact.local_change (layout.dataAccountKey, 32) serves (by simp [Locals.ranges])
    (memcpy_frame copiedAccount)
  have intact := intact.local_change (layout.programId, 32) serves (by simp [Locals.ranges])
    (memcpy_frame copiedProgram)
  exact intact.local_change (layout.systemId, 32) serves (by simp [Locals.ranges])
    (memcpy_frame copiedSystem)

/-- The loop starts with the data as it came in and an empty heap. -/
theorem setUp_intact (serves : runtime.Serves params data.length)
    (loaded : bytesAt before params.data.toNat data.length = data)
    (success : setUp runtime layout params before = some after) :
    Intact layout params data (HEAP_START_ADDRESS + 8) after := by
  simp only [setUp, Option.bind_eq_bind, Option.bind_eq_some_iff] at success
  obtain ⟨seeded, wroteSeed, pointed, wroteSeeds, allocated, wroteFree, entered, entries, keys⟩ :=
    success
  apply Intact.copyKeys serves ?_ keys
  have order : HEAP_START_ADDRESS + 8 ≤ INPUT_START_ADDRESS := by decide
  have above := serves.above
  have seedStacked := (layout.onStack (layout.seed, 4) (by simp [Locals.ranges])).2
  have seedsStacked := (layout.onStack (layout.seeds, 32) (by simp [Locals.ranges])).2
  have seedFrame := write_frame wroteSeed
  have seedsFrame := write_frame wroteSeeds
  have freeFrame := writeWord_frame wroteFree
  obtain ⟨entriesFrame, accountEntry⟩ := storeAccounts_ok entries
  simp only [List.length_cons, List.length_nil] at seedFrame
  simp only [List.length_append, Bytes.length_toLE] at seedsFrame
  constructor
  · rw [entriesFrame.bytesAt (Or.inr (by omega)), freeFrame.bytesAt (Or.inr (by omega)),
      seedsFrame.bytesAt (Or.inr (by omega)), seedFrame.bytesAt (Or.inr (by omega)), loaded]
  · exact entry_lamports (storeAccounts_caller entries)
  · exact entry_lamports accountEntry
  · exact (entry_words accountEntry).2
  · rw [entriesFrame.wordAt (Or.inr (Nat.le_refl _))]
    exact wordAt_writeWord (by decide) wroteFree

theorem countActions_byte {memory : Image} {count : Nat}
    (counted : countActions runtime layout params memory = some count) :
    count = (memory params.data.toNat).toNat := by
  unfold countActions at counted
  split at counted
  · cases counted
  simp only [Option.bind_eq_bind, Option.bind_eq_some_iff] at counted
  obtain ⟨_, -, _, -, counted⟩ := counted
  split at counted
  · cases counted
  simp only [Option.bind_eq_some_iff] at counted
  obtain ⟨lenActions, fetched, counted⟩ := counted
  split at counted
  · cases counted
  rw [← Option.some.inj counted, readByte_eq_some fetched]

end Start

/-- For every list of one to three actions whose messages hold no zero and fit into the
heap together: the loop of the entrypoint, run on its encoding, visits these actions in
their order, all of them if none returns an error, and then ends at the end of the
data. With fuel for a message it stops only if an action returns an error: for the
address of the account, or when what it asks for is refused. -/
theorem actions_round_trip (runtime : Runtime) (layout : Layout) (params : Parameters)
    (wanted : List Action) (few : 1 ≤ wanted.length ∧ wanted.length ≤ 3)
    (noZero : ∀ action ∈ wanted, 0 ∉ action.message)
    (fits : (wanted.map Action.room).sum ≤ HEAP_LENGTH - 8)
    (serves : runtime.Serves params (encodeActions wanted).length) (before memory : Image)
    (loaded : bytesAt before params.data.toNat (encodeActions wanted).length =
      encodeActions wanted)
    (prepared : setUp runtime layout params before = some memory) (lenActions : Nat)
    (counted : countActions runtime layout params memory = some lenActions) :
    let result := visits runtime layout params.data.toNat lenActions 1 memory
    actions runtime layout params.data.toNat lenActions 1 memory =
        result.2.toOption.map Prod.snd ∧
      result.1 <+: wanted ∧
      (∀ offset after, result.2 = .ok (offset, after) →
        result.1 = wanted ∧ offset = (encodeActions wanted).length) ∧
      (HEAP_LENGTH ≤ runtime.budget → result.2 ≠ .error .decoding) := by
  have intact := setUp_intact serves loaded prepared
  have isCount : lenActions = wanted.length := by
    have first := (bytesAt_eq_cons_iff.mp intact.data).1
    rw [countActions_byte counted, first]
    exact UInt8.toNat_ofNat_of_lt (Nat.lt_of_le_of_lt few.2 (by decide))
  subst isCount
  refine ⟨actions_eq_visits runtime layout _ _ _ _, ?_⟩
  apply visits_encoded serves wanted [UInt8.ofNat wanted.length] _ memory rfl intact
    (Nat.le_refl _) ?_ noZero
  simp only [HEAP_END_ADDRESS, HEAP_LENGTH] at fits ⊢
  omega

/-- Two deposits of the caller, the second with an empty message. -/
def twoDeposits : List Action := [.deposit 0xff 7 [0x61, 0x62, 0x63], .deposit 0xff 5 []]

theorem sampleRuntime_serves :
    sampleRuntime.Serves sampleParameters (encodeActions twoDeposits).length where
  above := by decide
  below := by decide
  callerLamports := by decide
  dataLamports := by decide
  accountData := by decide
  invoked := by
    intro before call after success
    have balances := (sampleInvoke_effect success).1
    exact ⟨fun address below => balances address (Or.inl (Nat.lt_trans below (by decide))),
      balances.bytesAt (Or.inr (by decide))⟩

theorem two_deposits_round_trip :
    ∃ memory offset after,
      setUp sampleRuntime sampleLayout sampleParameters
        (sampleImage (encodeActions twoDeposits)) = some memory ∧
      (visits sampleRuntime sampleLayout sampleParameters.data.toNat 2 1 memory).2 =
        .ok (offset, after) ∧
      (visits sampleRuntime sampleLayout sampleParameters.data.toNat 2 1 memory).1 = twoDeposits ∧
      offset = (encodeActions twoDeposits).length := by
  have starts : (setUp sampleRuntime sampleLayout sampleParameters
      (sampleImage (encodeActions twoDeposits))).isSome = true := by
    decide +kernel
  have counts : (setUp sampleRuntime sampleLayout sampleParameters
      (sampleImage (encodeActions twoDeposits))).bind
        (countActions sampleRuntime sampleLayout sampleParameters) = some 2 := by
    decide +kernel
  have returns : ((setUp sampleRuntime sampleLayout sampleParameters
      (sampleImage (encodeActions twoDeposits))).bind fun memory => (visits sampleRuntime
        sampleLayout sampleParameters.data.toNat 2 1 memory).2.toOption).isSome = true := by
    decide +kernel
  obtain ⟨memory, prepared⟩ := Option.isSome_iff_exists.mp starts
  rw [prepared, Option.bind_some] at counts returns
  cases final : (visits sampleRuntime sampleLayout sampleParameters.data.toNat 2 1 memory).2 with
  | error failure =>
      rw [final] at returns
      cases returns
  | ok reached =>
      obtain ⟨offset, after⟩ := reached
      have complete := (actions_round_trip sampleRuntime sampleLayout sampleParameters
        twoDeposits (by decide) (by decide) (by decide) sampleRuntime_serves _ memory
        (by decide +kernel) prepared 2 counts).2.2.1 offset after final
      exact ⟨memory, offset, after, prepared, final, complete.1, complete.2⟩

end Solalloc
