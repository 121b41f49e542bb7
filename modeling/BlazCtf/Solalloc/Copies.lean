import BlazCtf.Lib.CString
import BlazCtf.Solalloc.Owner

set_option autoImplicit false

namespace Solalloc

open Memory

/-- A copy of a message: to a block of a size, from where, and the memory it starts in. -/
structure MessageCopy where
  size : Nat
  block : Nat
  source : Nat
  memory : Image

section Copies

variable (runtime : Runtime) (layout : Layout)

/-- The copy that the round at an offset makes, if it is a deposit or a withdrawal that
gets so far and obtains a block. -/
def messageCopy (data offset : Nat) (memory : Image) : Option MessageCopy := do
  let map := runtime.machine.map
  let input := (data + offset) % 2 ^ 64
  let memory ← checkAddress runtime layout memory input
  let type ← readByte map memory (input + 1)
  if type = DEPOSIT ∨ type = WITHDRAW then do
    let _ ← readWord map memory (input + 2)
    let msgSize ← readWord map memory (input + 10)
    let (message, memory) ← malloc map memory msgSize
    if message = 0 then none else some ⟨msgSize, message, input + 18, memory⟩
  else none

/-- Every copy of the rounds that are reached has a property. -/
def EachCopy (data : Nat) (P : MessageCopy → Prop) : Nat → Nat → Image → Prop
  | 0, _, _ => True
  | count + 1, offset, memory =>
      (∀ copy ∈ messageCopy runtime layout data offset memory, P copy) ∧
        ∀ result ∈ act runtime layout data offset memory,
          EachCopy data P count result.1 result.2

instance instDecidableEachCopy (data : Nat) (P : MessageCopy → Prop) [DecidablePred P] :
    ∀ count offset memory, Decidable (EachCopy runtime layout data P count offset memory)
  | 0, _, _ => isTrue trivial
  | count + 1, offset, memory =>
      have _ := fun result : Nat × Image =>
        instDecidableEachCopy data P count result.1 result.2
      inferInstanceAs (Decidable
        ((∀ copy ∈ messageCopy runtime layout data offset memory, P copy) ∧ ∀ _ ∈ _, _))

/-- So has every copy of an instruction. -/
def CopiesMeet (params : Parameters) (P : MessageCopy → Prop) (memory : Image) : Prop :=
  ∀ prepared ∈ setUp runtime layout params memory,
    ∀ lenActions ∈ countActions runtime layout params prepared,
      EachCopy runtime layout params.data.toNat P lenActions 1 prepared

instance instDecidableCopiesMeet (params : Parameters) (P : MessageCopy → Prop)
    [DecidablePred P] (memory : Image) :
    Decidable (CopiesMeet runtime layout params P memory) :=
  inferInstanceAs (Decidable (∀ _ ∈ _, ∀ _ ∈ _, _))

/-- What `strcpy` reads lies in the instruction data and what it writes in the block. -/
def InBounds (data length : Nat) (copy : MessageCopy) : Prop :=
  ∀ touch ∈ strcpyTouches runtime.machine.map runtime.budget copy.memory copy.block copy.source,
    touch.Within data (data + length) copy.block (copy.block + copy.size)

instance instDecidableInBounds (data length : Nat) : DecidablePred (InBounds runtime data length) :=
  fun _ => inferInstanceAs (Decidable (∀ _ ∈ _, _))

/-- How many bytes of the message there is room for: up to `msg_size`, and up to the
end of the instruction data. -/
def copyRoom (data length : Nat) (copy : MessageCopy) : Nat :=
  if data ≤ copy.source then min copy.size (data + length - copy.source) else 0

/-- The message ends within its room. -/
def MessageEnds (data length : Nat) (copy : MessageCopy) : Prop :=
  CopyEnds runtime.machine.map runtime.budget copy.memory copy.block copy.source
    (copyRoom data length copy)

instance instDecidableMessageEnds (data length : Nat) :
    DecidablePred (MessageEnds runtime data length) :=
  fun _ => inferInstanceAs (Decidable (_ ∨ _ ∨ _))

end Copies

section Bounds

variable {runtime : Runtime} {layout : Layout}

theorem copyMessage_copied {input offset next size block : Nat} {memory after allocated : Image}
    (returned : copyMessage runtime memory input offset = some (next, after))
    (found : readWord runtime.machine.map memory (input + 10) = some size)
    (given : malloc runtime.machine.map memory size = some (block, allocated))
    (nonzero : block ≠ 0) :
    ∃ copied, strcpy runtime.machine.map runtime.budget allocated block (input + 18) =
      some copied := by
  simp only [copyMessage, found, given, Option.bind_eq_bind, Option.bind_some, if_neg nonzero,
    Option.bind_eq_some_iff] at returned
  obtain ⟨copied, copy, -⟩ := returned
  exact ⟨copied, copy⟩

/-- A round that returns has made its copy, and what that has changed is among what it
touched. -/
theorem act_copied {data offset next : Nat} {memory after : Image} {copy : MessageCopy}
    (acted : act runtime layout data offset memory = some (next, after))
    (made : messageCopy runtime layout data offset memory = some copy) :
    ∃ copied, strcpy runtime.machine.map runtime.budget copy.memory copy.block copy.source =
        some copied ∧
      ∀ address, copied address ≠ copy.memory address → .write address ∈
        strcpyTouches runtime.machine.map runtime.budget copy.memory copy.block copy.source := by
  simp only [act, messageCopy, Option.bind_eq_bind, Option.bind_eq_some_iff] at acted made
  obtain ⟨checked, check, type, fetched, made⟩ := made
  obtain ⟨again, sameCheck, sameType, sameFetched, acted⟩ := acted
  obtain rfl := Option.some.inj (check.symm.trans sameCheck)
  obtain rfl := Option.some.inj (fetched.symm.trans sameFetched)
  split at made
  · rename_i kind
    simp only [Option.bind_eq_some_iff, Prod.exists] at made
    obtain ⟨amount, amountRead, size, sizeRead, block, allocated, given, made⟩ := made
    split at made
    · cases made
    rename_i nonzero
    obtain rfl := Option.some.inj made
    have returned : ∃ behind next after,
        copyMessage runtime checked ((data + offset) % 2 ^ 64) behind = some (next, after) := by
      rcases kind with rfl | rfl
      · rw [if_neg (by decide), if_pos rfl] at acted
        simp only [deposit, Option.bind_eq_bind, Option.bind_eq_some_iff, Prod.exists] at acted
        obtain ⟨_, -, moved, copied, returned, -⟩ := acted
        exact ⟨_, moved, copied, returned⟩
      · rw [if_neg (by decide), if_neg (by decide), if_pos rfl] at acted
        simp only [withdraw, Option.bind_eq_bind, Option.bind_eq_some_iff, Prod.exists] at acted
        obtain ⟨_, -, moved, copied, returned, -⟩ := acted
        exact ⟨_, moved, copied, returned⟩
    obtain ⟨_, _, _, returned⟩ := returned
    obtain ⟨copied, copy⟩ := copyMessage_copied returned sizeRead given nonzero
    exact ⟨copied, copy, strcpy_touched copy⟩
  · cases made

theorem inBounds_iff {data length : Nat} (mapped : Readable runtime.machine.map data length)
    (copy : MessageCopy) :
    InBounds runtime data length copy ↔ MessageEnds runtime data length copy := by
  unfold InBounds MessageEnds copyRoom
  by_cases behind : data ≤ copy.source
  · have readable : ∀ address, data ≤ address → address < data + length →
        Readable runtime.machine.map address 1 :=
      fun _ above below => mapped.part above below
    rw [if_pos behind, strcpyTouches_within_iff readable runtime.budget copy.memory copy.block
      copy.source (Nat.le_refl copy.block) behind, Nat.add_sub_cancel_left]
  · rw [if_neg behind, copyEnds_no_room]
    constructor
    · intro within
      cases budget : runtime.budget with
      | zero => rfl
      | succ rest =>
          rw [budget] at within
          have outside := within (.read copy.source) (by simp [strcpyTouches])
          exact absurd outside.1 behind
    · intro spent
      rw [spent]
      simp [strcpyTouches]

theorem eachCopy_iff {P Q : MessageCopy → Prop} (same : ∀ copy, P copy ↔ Q copy) {data : Nat}
    (count : Nat) : ∀ offset memory,
    EachCopy runtime layout data P count offset memory ↔
      EachCopy runtime layout data Q count offset memory := by
  induction count with
  | zero =>
      intro offset memory
      exact Iff.rfl
  | succ count ih =>
      intro offset memory
      simp only [EachCopy, same, ih]

end Bounds

/-- For every instruction data that the machine maps, all copies of the instruction stay
in bounds if and only if every message that is copied ends within its room. A round that
returns has made its copy, and what that has changed is among what it touched. -/
theorem copies_in_bounds_iff (runtime : Runtime) (layout : Layout) (params : Parameters)
    (length : Nat) (mapped : Readable runtime.machine.map params.data.toNat length)
    (memory : Image) :
    (CopiesMeet runtime layout params (InBounds runtime params.data.toNat length) memory ↔
      CopiesMeet runtime layout params (MessageEnds runtime params.data.toNat length) memory) ∧
    ∀ (offset : Nat) (before : Image),
      ∀ copy ∈ messageCopy runtime layout params.data.toNat offset before,
        act runtime layout params.data.toNat offset before ≠ none →
          ∃ copied, strcpy runtime.machine.map runtime.budget copy.memory copy.block copy.source =
              some copied ∧
            ∀ address, copied address ≠ copy.memory address → .write address ∈
              strcpyTouches runtime.machine.map runtime.budget copy.memory copy.block
                copy.source := by
  unfold CopiesMeet
  have same := fun copy => inBounds_iff mapped copy
  refine ⟨⟨?_, ?_⟩, ?_⟩
  · intro bounded prepared isPrepared lenActions counted
    exact (eachCopy_iff same _ _ _).mp (bounded prepared isPrepared lenActions counted)
  · intro ends prepared isPrepared lenActions counted
    exact (eachCopy_iff same _ _ _).mpr (ends prepared isPrepared lenActions counted)
  · intro offset before copy made returns
    obtain ⟨⟨next, after⟩, acted⟩ := Option.ne_none_iff_exists'.mp returns
    exact act_copied acted made

theorem small_deposit_in_bounds :
    CopiesMeet sampleRuntime sampleLayout sampleParameters
      (InBounds sampleRuntime sampleParameters.data.toNat smallDeposit.length)
      (sampleImage smallDeposit) := by
  apply (copies_in_bounds_iff sampleRuntime sampleLayout sampleParameters smallDeposit.length
    (by decide) (sampleImage smallDeposit)).1.mpr
  decide +kernel

/-- A message of three bytes for a block of one. -/
def longMessage : List UInt8 := [1] ++ sampleAction DEPOSIT 7 1 [0x61, 0x62]

theorem long_message_leaves_block :
    ¬ CopiesMeet sampleRuntime sampleLayout sampleParameters
      (InBounds sampleRuntime sampleParameters.data.toNat longMessage.length)
      (sampleImage longMessage) := by
  decide +kernel

end Solalloc
