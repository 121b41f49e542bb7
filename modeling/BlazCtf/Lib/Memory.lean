import BlazCtf.Lib.Bytes

set_option autoImplicit false

namespace Memory

/-- A flat address space. -/
abbrev Image := Nat → UInt8

/-- A mapped range of addresses. -/
structure Region where
  start : Nat
  size : Nat
  writable : Bool

def Region.Covers (region : Region) (address count : Nat) : Prop :=
  region.start ≤ address ∧ address + count ≤ region.start + region.size

instance instDecidableCovers (region : Region) (address count : Nat) :
    Decidable (region.Covers address count) :=
  inferInstanceAs (Decidable (_ ∧ _))

def Readable (map : List Region) (address count : Nat) : Prop :=
  ∃ region ∈ map, region.Covers address count

def Writable (map : List Region) (address count : Nat) : Prop :=
  ∃ region ∈ map, region.writable = true ∧ region.Covers address count

instance instDecidableReadable (map : List Region) (address count : Nat) :
    Decidable (Readable map address count) :=
  inferInstanceAs (Decidable (∃ region ∈ map, _))

instance instDecidableWritable (map : List Region) (address count : Nat) :
    Decidable (Writable map address count) :=
  inferInstanceAs (Decidable (∃ region ∈ map, _))

section Ranges

variable {map : List Region} {start whole address count : Nat}

theorem Readable.part (mapped : Readable map start whole) (above : start ≤ address)
    (below : address + count ≤ start + whole) : Readable map address count := by
  obtain ⟨region, member, low, high⟩ := mapped
  exact ⟨region, member, Nat.le_trans low above, Nat.le_trans below high⟩

theorem Writable.part (mapped : Writable map start whole) (above : start ≤ address)
    (below : address + count ≤ start + whole) : Writable map address count := by
  obtain ⟨region, member, writable, low, high⟩ := mapped
  exact ⟨region, member, writable, Nat.le_trans low above, Nat.le_trans below high⟩

end Ranges

def bytesAt (image : Image) (address count : Nat) : List UInt8 :=
  (List.range count).map fun index => image (address + index)

/-- The little-endian 64-bit word at an address. -/
def wordAt (image : Image) (address : Nat) : Nat := Bytes.ofLE (bytesAt image address 8)

def put (image : Image) (address : Nat) (bytes : List UInt8) : Image := fun other =>
  if address ≤ other ∧ other < address + bytes.length then bytes.getD (other - address) 0
  else image other

/-! Accesses, which fault outside the map. -/

def readByte (map : List Region) (image : Image) (address : Nat) : Option UInt8 :=
  if Readable map address 1 then some (image address) else none

def read (map : List Region) (image : Image) (address count : Nat) : Option (List UInt8) :=
  if Readable map address count then some (bytesAt image address count) else none

def readWord (map : List Region) (image : Image) (address : Nat) : Option Nat :=
  if Readable map address 8 then some (wordAt image address) else none

def write (map : List Region) (image : Image) (address : Nat) (bytes : List UInt8) :
    Option Image :=
  if Writable map address bytes.length then some (put image address bytes) else none

def writeWord (map : List Region) (image : Image) (address value : Nat) : Option Image :=
  write map image address (Bytes.toLE 8 value)

/-- The bytes are copied one by one, in ascending order. -/
def memcpy (map : List Region) : Nat → Image → Nat → Nat → Option Image
  | 0, image, _, _ => some image
  | size + 1, image, target, source => do
      let byte ← readByte map image source
      let image ← write map image target [byte]
      memcpy map size image (target + 1) (source + 1)

/-- Copy up to and including the first zero. The budget is what the machine allows a
program to spend; no address wraps, as none is used again after a fault. -/
def strcpy (map : List Region) : Nat → Image → Nat → Nat → Option Image
  | 0, _, _, _ => none
  | budget + 1, image, target, source => do
      let byte ← readByte map image source
      let image ← write map image target [byte]
      if byte = 0 then some image
      else strcpy map budget image (target + 1) (source + 1)

def strlen (map : List Region) : Nat → Image → Nat → Option Nat
  | 0, _, _ => none
  | budget + 1, image, address => do
      let byte ← readByte map image address
      if byte = 0 then some 0
      else do
        let rest ← strlen map budget image (address + 1)
        some (rest + 1)

/-! What accesses leave alone. -/

/-- All changes lie between two addresses. -/
def Frame (low high : Nat) (before after : Image) : Prop :=
  ∀ address, address < low ∨ high ≤ address → after address = before address

section Frames

variable {map : List Region} {before middle after image : Image} {low high : Nat}

theorem Frame.refl (low high : Nat) (image : Image) : Frame low high image image :=
  fun _ _ => rfl

theorem Frame.trans (first : Frame low high before middle) (second : Frame low high middle after) :
    Frame low high before after := by
  intro address outside
  rw [second address outside, first address outside]

theorem Frame.mono {wideLow wideHigh : Nat} (frame : Frame low high before after)
    (lower : wideLow ≤ low) (higher : high ≤ wideHigh) : Frame wideLow wideHigh before after := by
  intro address outside
  exact frame address (by omega)

theorem bytesAt_congr {address count : Nat}
    (same : ∀ other, address ≤ other → other < address + count → after other = before other) :
    bytesAt after address count = bytesAt before address count := by
  apply List.map_congr_left
  intro index member
  have below := List.mem_range.mp member
  exact same _ (by omega) (by omega)

theorem wordAt_congr {address : Nat}
    (same : ∀ other, address ≤ other → other < address + 8 → after other = before other) :
    wordAt after address = wordAt before address := by
  rw [wordAt, bytesAt_congr same, wordAt]

theorem Frame.bytesAt {address count : Nat} (frame : Frame low high before after)
    (apart : address + count ≤ low ∨ high ≤ address) :
    bytesAt after address count = bytesAt before address count :=
  bytesAt_congr fun _ _ _ => frame _ (by omega)

theorem Frame.wordAt {address : Nat} (frame : Frame low high before after)
    (apart : address + 8 ≤ low ∨ high ≤ address) :
    wordAt after address = wordAt before address := by
  rw [Memory.wordAt, frame.bytesAt apart, Memory.wordAt]

theorem put_frame (image : Image) (address : Nat) (bytes : List UInt8) :
    Frame address (address + bytes.length) image (put image address bytes) := by
  intro other outside
  exact if_neg (by omega)

@[simp] theorem length_bytesAt (image : Image) (address count : Nat) :
    (bytesAt image address count).length = count := by
  simp [Memory.bytesAt]

theorem bytesAt_succ (image : Image) (address count : Nat) :
    bytesAt image address (count + 1) = image address :: bytesAt image (address + 1) count := by
  simp only [Memory.bytesAt, List.range_succ_eq_map, List.map_cons, List.map_map, Nat.add_zero]
  congr 1
  apply List.map_congr_left
  intro index _
  show image (address + (index + 1)) = image (address + 1 + index)
  congr 1
  omega

theorem bytesAt_append (image : Image) (address first second : Nat) :
    bytesAt image address (first + second) =
      bytesAt image address first ++ bytesAt image (address + first) second := by
  induction first generalizing address with
  | zero => simp [Memory.bytesAt]
  | succ first ih =>
      rw [show first + 1 + second = (first + second) + 1 by omega, bytesAt_succ, bytesAt_succ, ih,
        show address + 1 + first = address + (first + 1) by omega]
      rfl

theorem bytesAt_put (image : Image) (address : Nat) (bytes : List UInt8) :
    bytesAt (put image address bytes) address bytes.length = bytes := by
  apply List.ext_getElem (by simp)
  intro index first second
  simp only [Memory.bytesAt, List.getElem_map, List.getElem_range, put]
  rw [if_pos (by omega), Nat.add_sub_cancel_left, List.getD_eq_getElem?_getD,
    List.getElem?_eq_getElem second, Option.getD_some]

theorem write_eq_some {address : Nat} {bytes : List UInt8}
    (success : write map before address bytes = some after) :
    Writable map address bytes.length ∧ after = put before address bytes := by
  unfold write at success
  split at success
  · rename_i writable
    exact ⟨writable, (Option.some.inj success).symm⟩
  · cases success

theorem write_frame {address : Nat} {bytes : List UInt8}
    (success : write map before address bytes = some after) :
    Frame address (address + bytes.length) before after := by
  obtain ⟨-, rfl⟩ := write_eq_some success
  exact put_frame before address bytes

theorem bytesAt_write {address : Nat} {bytes : List UInt8}
    (success : write map before address bytes = some after) :
    bytesAt after address bytes.length = bytes := by
  obtain ⟨-, rfl⟩ := write_eq_some success
  exact bytesAt_put before address bytes

theorem writeWord_frame {address value : Nat}
    (success : writeWord map before address value = some after) :
    Frame address (address + 8) before after := by
  have frame := write_frame success
  rwa [Bytes.length_toLE] at frame

theorem wordAt_writeWord {address value : Nat} (fits : value < 2 ^ 64)
    (success : writeWord map before address value = some after) :
    wordAt after address = value := by
  have stored := bytesAt_write success
  rw [Bytes.length_toLE] at stored
  rw [Memory.wordAt, stored, Bytes.ofLE_toLE fits]

theorem readByte_eq_some {address : Nat} {byte : UInt8}
    (success : readByte map image address = some byte) : byte = image address := by
  unfold readByte at success
  split at success
  · exact (Option.some.inj success).symm
  · cases success

theorem read_eq_some {address count : Nat} {bytes : List UInt8}
    (success : read map image address count = some bytes) :
    bytes = bytesAt image address count := by
  unfold read at success
  split at success
  · exact (Option.some.inj success).symm
  · cases success

theorem readWord_eq_some {address value : Nat}
    (success : readWord map image address = some value) : value = wordAt image address := by
  unfold readWord at success
  split at success
  · exact (Option.some.inj success).symm
  · cases success

theorem memcpy_frame {size target source : Nat}
    (success : memcpy map size before target source = some after) :
    Frame target (target + size) before after := by
  induction size generalizing before target source with
  | zero =>
      rw [Option.some.inj success]
      exact Frame.refl _ _ _
  | succ size ih =>
      simp only [memcpy, Option.bind_eq_bind, Option.bind_eq_some_iff] at success
      obtain ⟨byte, -, middle, written, rest⟩ := success
      have first := (write_frame written).mono (Nat.le_refl target)
        (show target + [byte].length ≤ target + (size + 1) by
          rw [List.length_singleton]
          omega)
      have second := (ih rest).mono (show target ≤ target + 1 by omega)
        (show target + 1 + size ≤ target + (size + 1) by omega)
      exact first.trans second

/-- Ranges that do not overlap are copied as they were. -/
theorem memcpy_bytesAt {size target source : Nat}
    (apart : source + size ≤ target ∨ target + size ≤ source)
    (success : memcpy map size before target source = some after) :
    bytesAt after target size = bytesAt before source size := by
  induction size generalizing before target source with
  | zero => rfl
  | succ size ih =>
      simp only [memcpy, Option.bind_eq_bind, Option.bind_eq_some_iff] at success
      obtain ⟨byte, fetched, middle, written, rest⟩ := success
      have isByte := readByte_eq_some fetched
      have frame := write_frame written
      rw [List.length_singleton] at frame
      have stored := bytesAt_write written
      rw [List.length_singleton, bytesAt_succ] at stored
      have head : after target = middle target := memcpy_frame rest target (by omega)
      rw [bytesAt_succ, bytesAt_succ, ih (by omega) rest, frame.bytesAt (by omega), head,
        (List.cons.inj stored).1, isByte]

/-- A copy that returns has read a byte and written it, and was over or went on. -/
theorem strcpy_step {budget target source : Nat}
    (success : strcpy map budget before target source = some after) :
    ∃ rest middle, budget = rest + 1 ∧ readByte map before source = some (before source) ∧
      write map before target [before source] = some middle ∧
      (before source = 0 ∧ after = middle ∨
        before source ≠ 0 ∧
          strcpy map rest middle (target + 1) (source + 1) = some after) := by
  cases budget with
  | zero => cases success
  | succ rest =>
      simp only [strcpy, Option.bind_eq_bind, Option.bind_eq_some_iff] at success
      obtain ⟨byte, fetched, middle, written, success⟩ := success
      obtain rfl := readByte_eq_some fetched
      refine ⟨rest, middle, rfl, fetched, written, ?_⟩
      split at success
      · rename_i zero
        exact Or.inl ⟨zero, (Option.some.inj success).symm⟩
      · rename_i more
        exact Or.inr ⟨more, success⟩

/-- A string copied from below a place that cannot be written stays below it. -/
theorem strcpy_frame {budget target source : Nat} (above : low ≤ target) (below : target ≤ high)
    (wall : ¬ Writable map high 1)
    (success : strcpy map budget before target source = some after) :
    Frame low high before after := by
  induction budget generalizing before target source with
  | zero => cases success
  | succ budget ih =>
      obtain ⟨_, middle, same, -, written, ends⟩ := strcpy_step success
      obtain rfl := Nat.succ.inj same
      have writable : Writable map target 1 := (write_eq_some written).1
      have inside : target < high := by
        apply Nat.lt_of_le_of_ne below
        rintro rfl
        exact wall writable
      have first : Frame low high before middle := by
        apply (write_frame written).mono above
        rw [List.length_singleton]
        omega
      rcases ends with ⟨-, rfl⟩ | ⟨-, rest⟩
      · exact first
      · exact first.trans (ih (by omega) (by omega) rest)

end Frames

end Memory
