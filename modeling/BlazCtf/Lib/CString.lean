import BlazCtf.Lib.Memory

set_option autoImplicit false

namespace Memory

/-- An attempt to read or write a byte. -/
inductive Touch where
  | read (address : Nat)
  | write (address : Nat)
  deriving DecidableEq

/-- What `strcpy` touches, the access that ends it with a fault included. -/
def strcpyTouches (map : List Region) : Nat → Image → Nat → Nat → List Touch
  | 0, _, _, _ => []
  | budget + 1, image, target, source =>
      .read source ::
        match readByte map image source with
        | none => []
        | some byte =>
            .write target ::
              match write map image target [byte] with
              | none => []
              | some image =>
                  if byte = 0 then []
                  else strcpyTouches map budget image (target + 1) (source + 1)

/-- The reads lie in `[first, last)` and the writes in `[low, high)`. -/
def Touch.Within (first last low high : Nat) : Touch → Prop
  | .read address => first ≤ address ∧ address < last
  | .write address => low ≤ address ∧ address < high

instance instDecidableWithin (first last low high : Nat) :
    ∀ touch : Touch, Decidable (touch.Within first last low high)
  | .read _ => inferInstanceAs (Decidable (_ ∧ _))
  | .write _ => inferInstanceAs (Decidable (_ ∧ _))

/-- A copy ends within so many bytes: a zero is among them and the target does not
begin in front of it, which would overwrite it before it is read; or one of them
cannot be written; or the budget does not allow more. -/
def CopyEnds (map : List Region) (budget : Nat) (image : Image) (target source room : Nat) :
    Prop :=
  (∃ index < room, image (source + index) = 0 ∧
      ¬ (source < target ∧ target ≤ source + index)) ∨
    (∃ index < room, ¬ Writable map (target + index) 1) ∨ budget ≤ room

section Copies

variable {map : List Region} {image before after : Image}

theorem put_byte_at (image : Image) (address : Nat) (byte : UInt8) :
    put image address [byte] address = byte := by
  simp [put]

theorem put_byte_of_ne {address other : Nat} (image : Image) (byte : UInt8)
    (different : other ≠ address) : put image address [byte] other = image other := by
  apply put_frame image address [byte] other
  rw [List.length_singleton]
  omega

theorem copyEnds_no_room {budget target source : Nat} :
    CopyEnds map budget image target source 0 ↔ budget = 0 := by
  simp [CopyEnds]

/-- One step of a copy that goes on: the byte that is written is not zero, so it is
not a zero that the rest of the copy finds, and any zero it overwrites is one that
the target begins in front of. -/
theorem copyEnds_succ {budget target source room : Nat}
    (more : image source ≠ 0) (writable : Writable map target 1) :
    CopyEnds map budget (put image target [image source]) (target + 1) (source + 1) room ↔
      CopyEnds map (budget + 1) image target source (room + 1) := by
  constructor
  · rintro (⟨index, inside, zero, clear⟩ | ⟨index, inside, unwritable⟩ | short)
    · left
      have elsewhere : source + 1 + index ≠ target := by
        intro same
        rw [same, put_byte_at] at zero
        exact more zero
      rw [put_byte_of_ne image _ elsewhere] at zero
      refine ⟨index + 1, by omega, ?_, by omega⟩
      rw [← zero]
      congr 1
      omega
    · right
      left
      refine ⟨index + 1, by omega, ?_⟩
      rw [show target + (index + 1) = target + 1 + index by omega]
      exact unwritable
    · right
      right
      omega
  · rintro (⟨index, inside, zero, clear⟩ | ⟨index, inside, unwritable⟩ | short)
    · left
      have positive : index ≠ 0 := by
        rintro rfl
        exact more zero
      refine ⟨index - 1, by omega, ?_, by omega⟩
      rw [put_byte_of_ne image _ (by omega), ← zero]
      congr 1
      omega
    · right
      left
      have positive : index ≠ 0 := by
        rintro rfl
        exact unwritable writable
      refine ⟨index - 1, by omega, ?_⟩
      rw [show target + 1 + (index - 1) = target + index by omega]
      exact unwritable
    · right
      right
      omega

theorem strcpyTouches_succ {budget target source : Nat} (readable : Readable map source 1) :
    strcpyTouches map (budget + 1) image target source =
      .read source :: .write target ::
        if Writable map target 1 then
          if image source = 0 then []
          else strcpyTouches map budget (put image target [image source]) (target + 1) (source + 1)
        else [] := by
  have fetched : readByte map image source = some (image source) := if_pos readable
  simp only [strcpyTouches, fetched, write, List.length_singleton]
  split <;> simp_all

/-- A copy stays within readable bytes and its block if and only if it ends within
the shorter of the two. -/
theorem strcpyTouches_within_iff {first last low high : Nat}
    (readable : ∀ address, first ≤ address → address < last → Readable map address 1) :
    ∀ budget image target source, low ≤ target → first ≤ source →
      ((∀ touch ∈ strcpyTouches map budget image target source,
          touch.Within first last low high) ↔
        CopyEnds map budget image target source (min (high - target) (last - source))) := by
  intro budget
  induction budget with
  | zero =>
      intro image target source _ _
      simp [strcpyTouches, CopyEnds]
  | succ budget ih =>
      intro image target source above after
      by_cases mayRead : source < last
      · rw [strcpyTouches_succ (readable source after mayRead)]
        have readWithin : (Touch.read source).Within first last low high := ⟨after, mayRead⟩
        by_cases mayWrite : target < high
        · have writeWithin : (Touch.write target).Within first last low high := ⟨above, mayWrite⟩
          have room : min (high - target) (last - source) =
              min (high - (target + 1)) (last - (source + 1)) + 1 := by
            omega
          by_cases writable : Writable map target 1
          · by_cases zero : image source = 0
            · have ends : CopyEnds map (budget + 1) image target source
                  (min (high - target) (last - source)) :=
                Or.inl ⟨0, by omega, zero, by omega⟩
              simp [writable, zero, readWithin, writeWithin, ends]
            · rw [room, ← copyEnds_succ zero writable,
                ← ih _ (target + 1) (source + 1) (by omega) (by omega)]
              simp [writable, zero, readWithin, writeWithin]
          · have ends : CopyEnds map (budget + 1) image target source
                (min (high - target) (last - source)) :=
              Or.inr (Or.inl ⟨0, by omega, writable⟩)
            simp [writable, readWithin, writeWithin, ends]
        · -- the block is full before the string ends
          have full : min (high - target) (last - source) = 0 := by omega
          rw [full]
          constructor
          · intro within
            have outside := within (.write target) (by simp)
            exact absurd outside.2 mayWrite
          · intro ends
            cases copyEnds_no_room.mp ends
      · have spent : min (high - target) (last - source) = 0 := by omega
        rw [spent]
        constructor
        · intro within
          have outside := within (.read source) (by simp [strcpyTouches])
          exact absurd outside.2 mayRead
        · intro ends
          cases copyEnds_no_room.mp ends

theorem strlen_step {budget address length : Nat}
    (success : strlen map budget image address = some length) :
    ∃ rest, budget = rest + 1 ∧
      (image address = 0 ∧ length = 0 ∨
        image address ≠ 0 ∧ ∃ more, strlen map rest image (address + 1) = some more ∧
          length = more + 1) := by
  cases budget with
  | zero => cases success
  | succ rest =>
      simp only [strlen, Option.bind_eq_bind, Option.bind_eq_some_iff] at success
      obtain ⟨byte, fetched, success⟩ := success
      obtain rfl := readByte_eq_some fetched
      refine ⟨rest, rfl, ?_⟩
      split at success
      · rename_i zero
        exact Or.inl ⟨zero, (Option.some.inj success).symm⟩
      · rename_i nonzero
        simp only [Option.bind_eq_some_iff] at success
        obtain ⟨more, measured, same⟩ := success
        exact Or.inr ⟨nonzero, more, measured, (Option.some.inj same).symm⟩

/-- What a copy changes, it has touched. -/
theorem strcpy_touched {budget target source : Nat}
    (success : strcpy map budget before target source = some after) :
    ∀ address, after address ≠ before address →
      .write address ∈ strcpyTouches map budget before target source := by
  induction budget generalizing before target source with
  | zero => cases success
  | succ budget ih =>
      intro address changed
      obtain ⟨_, middle, same, fetched, written, ends⟩ := strcpy_step success
      obtain rfl := Nat.succ.inj same
      simp only [strcpyTouches, fetched, written, List.mem_cons, reduceCtorEq, false_or,
        Touch.write.injEq]
      by_cases here : address = target
      · exact Or.inl here
      · right
        have same : middle address = before address := by
          apply write_frame written
          rw [List.length_singleton]
          omega
        rcases ends with ⟨-, rfl⟩ | ⟨more, rest⟩
        · exact absurd same changed
        · rw [if_neg more]
          apply ih rest
          rw [same]
          exact changed

end Copies

section Strings

variable {map : List Region} {image before after : Image}

theorem bytesAt_eq_cons_iff {address count : Nat} {byte : UInt8} {rest : List UInt8} :
    bytesAt image address (count + 1) = byte :: rest ↔
      image address = byte ∧ bytesAt image (address + 1) count = rest := by
  rw [bytesAt_succ, List.cons.injEq]

/-- A string that ends where its length says, copied to a place apart from it. -/
theorem strcpy_string {message : List UInt8} {budget target source : Nat}
    (noZero : 0 ∉ message)
    (stored : bytesAt before source (message.length + 1) = message ++ [0])
    (apart : source + message.length < target ∨ target + message.length < source)
    (success : strcpy map budget before target source = some after) :
    bytesAt after target (message.length + 1) = message ++ [0] ∧
      Frame target (target + message.length + 1) before after := by
  induction message generalizing before budget target source with
  | nil =>
      obtain ⟨_, _, -, -, written, ends⟩ := strcpy_step success
      have zero : before source = 0 := (bytesAt_eq_cons_iff.mp stored).1
      rcases ends with ⟨-, rfl⟩ | ⟨more, -⟩
      · rw [zero] at written
        exact ⟨bytesAt_write written, write_frame written⟩
      · exact absurd zero more
  | cons head tail ih =>
      obtain ⟨_, _, -, -, written, ends⟩ := strcpy_step success
      simp only [List.length_cons] at apart stored ⊢
      obtain ⟨first, others⟩ := bytesAt_eq_cons_iff.mp stored
      rcases ends with ⟨zero, -⟩ | ⟨-, rest⟩
      · rw [first] at zero
        exact absurd (zero ▸ List.mem_cons_self) noZero
      · have wroteOne := write_frame written
        rw [List.length_singleton] at wroteOne
        rw [← wroteOne.bytesAt (by omega)] at others
        obtain ⟨copied, frame⟩ := ih (fun member => noZero (List.mem_cons_of_mem head member))
          others (by omega) rest
        constructor
        · apply bytesAt_eq_cons_iff.mpr
          refine ⟨?_, copied⟩
          rw [frame target (by omega)]
          have here := bytesAt_write written
          rw [List.length_singleton] at here
          exact (bytesAt_eq_cons_iff.mp here).1.trans first
        · exact (wroteOne.mono (Nat.le_refl _) (by omega)).trans
            (frame.mono (by omega) (by omega))

theorem strlen_string {message : List UInt8} {budget address length : Nat}
    (noZero : 0 ∉ message)
    (stored : bytesAt image address (message.length + 1) = message ++ [0])
    (success : strlen map budget image address = some length) : length = message.length := by
  induction message generalizing budget address length with
  | nil =>
      have zero : image address = 0 := (bytesAt_eq_cons_iff.mp stored).1
      obtain ⟨_, -, ⟨-, none⟩ | ⟨nonzero, -⟩⟩ := strlen_step success
      · exact none
      · exact absurd zero nonzero
  | cons head tail ih =>
      obtain ⟨first, others⟩ := bytesAt_eq_cons_iff.mp stored
      obtain ⟨_, -, ⟨zero, -⟩ | ⟨-, more, measured, rfl⟩⟩ := strlen_step success
      · rw [first] at zero
        exact absurd (zero ▸ List.mem_cons_self) noZero
      · rw [ih (fun member => noZero (List.mem_cons_of_mem head member)) others measured,
          List.length_cons]

theorem readByte_head {address count : Nat} {byte : UInt8} {rest : List UInt8}
    (readable : Readable map address (count + 1))
    (stored : bytesAt image address (count + 1) = byte :: rest) :
    readByte map image address = some byte := by
  have first := (bytesAt_eq_cons_iff.mp stored).1
  rw [readByte, if_pos (readable.part (Nat.le_refl address) (by omega)), first]

/-- With fuel for its bytes, a string that can be read is copied to a place apart from it
that can be written. -/
theorem strcpy_returns {message : List UInt8} {budget target source : Nat}
    (stored : bytesAt before source (message.length + 1) = message ++ [0])
    (apart : source + message.length < target ∨ target + message.length < source)
    (readable : Readable map source (message.length + 1))
    (writable : Writable map target (message.length + 1)) (enough : message.length < budget) :
    ∃ after, strcpy map budget before target source = some after := by
  induction message generalizing before budget target source with
  | nil =>
      obtain ⟨fuel, rfl⟩ := Nat.exists_eq_succ_of_ne_zero (Nat.ne_of_gt enough)
      have fetched : readByte map before source = some 0 := readByte_head readable stored
      have written : write map before target [0] = some (put before target [0]) :=
        if_pos writable
      exact ⟨put before target [0], by simp [strcpy, fetched, written]⟩
  | cons head tail ih =>
      obtain ⟨fuel, rfl⟩ := Nat.exists_eq_succ_of_ne_zero (Nat.ne_of_gt (Nat.zero_lt_of_lt enough))
      simp only [List.length_cons] at stored apart readable writable enough
      have fetched : readByte map before source = some head := readByte_head readable stored
      have written : write map before target [head] = some (put before target [head]) :=
        if_pos (writable.part (Nat.le_refl target) (by simp))
      simp only [strcpy, fetched, written, Option.bind_eq_bind, Option.bind_some]
      by_cases ends : head = 0
      · rw [if_pos ends]
        exact ⟨_, rfl⟩
      · rw [if_neg ends]
        have wroteOne := write_frame written
        rw [List.length_singleton] at wroteOne
        apply ih
        · rw [wroteOne.bytesAt (by omega)]
          exact (bytesAt_eq_cons_iff.mp stored).2
        · omega
        · exact readable.part (by omega) (by omega)
        · exact writable.part (by omega) (by omega)
        · omega

theorem strlen_returns {message : List UInt8} {budget address : Nat}
    (stored : bytesAt image address (message.length + 1) = message ++ [0])
    (readable : Readable map address (message.length + 1)) (enough : message.length < budget) :
    ∃ length, strlen map budget image address = some length := by
  induction message generalizing budget address with
  | nil =>
      obtain ⟨fuel, rfl⟩ := Nat.exists_eq_succ_of_ne_zero (Nat.ne_of_gt enough)
      have fetched : readByte map image address = some 0 := readByte_head readable stored
      exact ⟨0, by simp [strlen, fetched]⟩
  | cons head tail ih =>
      obtain ⟨fuel, rfl⟩ := Nat.exists_eq_succ_of_ne_zero (Nat.ne_of_gt (Nat.zero_lt_of_lt enough))
      simp only [List.length_cons] at stored readable enough
      have fetched : readByte map image address = some head := readByte_head readable stored
      simp only [strlen, fetched, Option.bind_eq_bind, Option.bind_some]
      by_cases ends : head = 0
      · rw [if_pos ends]
        exact ⟨0, rfl⟩
      · rw [if_neg ends]
        obtain ⟨rest, measured⟩ : ∃ length, strlen map fuel image (address + 1) = some length := by
          apply ih (bytesAt_eq_cons_iff.mp stored).2
          · exact readable.part (by omega) (by omega)
          · omega
        exact ⟨rest + 1, by rw [measured, Option.bind_some]⟩

end Strings

end Memory
