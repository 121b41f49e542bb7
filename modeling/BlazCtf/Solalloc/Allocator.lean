import BlazCtf.Solalloc.Program

set_option autoImplicit false

namespace Solalloc

open Memory

/-- A call of `malloc`: what it was asked for, what it returned, and `free_ptr` then. -/
structure Grant where
  size : Nat
  pointer : Nat
  freePtr : Nat
  deriving DecidableEq

/-- Calls of `malloc` one after another. -/
def mallocAll (map : List Region) : Image → List UInt64 → Option (List Grant)
  | _, [] => some []
  | memory, size :: rest => do
      let (pointer, memory) ← malloc map memory size.toNat
      let grants ← mallocAll map memory rest
      some (⟨size.toNat, pointer, wordAt memory HEAP_START_ADDRESS⟩ :: grants)

/-- What the callers of an allocator rely on: the blocks that are not NULL are aligned,
lie in the heap and do not overlap, and neither does `free_ptr` leave the heap. -/
structure SoundGrants (grants : List Grant) : Prop where
  aligned : ∀ grant ∈ grants, grant.pointer ≠ 0 → grant.pointer % 8 = 0
  inside : ∀ grant ∈ grants, grant.pointer ≠ 0 →
    HEAP_START_ADDRESS + 8 ≤ grant.pointer ∧ grant.pointer + grant.size ≤ HEAP_END_ADDRESS
  disjoint : grants.Pairwise fun first second => first.pointer ≠ 0 → second.pointer ≠ 0 →
    first.pointer + first.size ≤ second.pointer ∨ second.pointer + second.size ≤ first.pointer
  freePtr : ∀ grant ∈ grants,
    HEAP_START_ADDRESS + 8 ≤ grant.freePtr ∧ grant.freePtr ≤ HEAP_END_ADDRESS

/-- In no call of the sequence does an addition of `malloc` pass 64 bits, at the
`free_ptr` that the call finds. -/
def NoOverflow (map : List Region) : Image → List UInt64 → Prop
  | _, [] => True
  | memory, size :: rest =>
      wordAt memory HEAP_START_ADDRESS + size.toNat + 7 < 2 ^ 64 ∧
        ∀ result ∈ malloc map memory size.toNat, NoOverflow map result.2 rest

/-- Where `free_ptr` stands between calls. -/
structure InHeap (freePtr : Nat) : Prop where
  aligned : freePtr % 8 = 0
  above : HEAP_START_ADDRESS + 8 ≤ freePtr
  below : freePtr ≤ HEAP_END_ADDRESS

section Heap

variable (machine : Machine)

theorem Machine.heap_writable {address count : Nat} (above : HEAP_START_ADDRESS ≤ address)
    (below : address + count ≤ HEAP_END_ADDRESS) : Writable machine.map address count := by
  have whole := machine.heapWhole
  refine ⟨⟨HEAP_START_ADDRESS, machine.heap, true⟩, ?_, rfl, above, ?_⟩
  · simp [Machine.map]
  · show address + count ≤ HEAP_START_ADDRESS + machine.heap
    simp only [HEAP_END_ADDRESS] at below
    omega

theorem Machine.heap_readable {address count : Nat} (above : HEAP_START_ADDRESS ≤ address)
    (below : address + count ≤ HEAP_END_ADDRESS) : Readable machine.map address count := by
  obtain ⟨region, member, -, covers⟩ := machine.heap_writable above below
  exact ⟨region, member, covers⟩

theorem initAllocator_returns (memory : Image) :
    ∃ start, initAllocator machine.map memory = some start ∧
      wordAt start HEAP_START_ADDRESS = HEAP_START_ADDRESS + 8 := by
  have writable : Writable machine.map HEAP_START_ADDRESS
      (Bytes.toLE 8 (HEAP_START_ADDRESS + 8)).length := by
    rw [Bytes.length_toLE]
    exact machine.heap_writable (Nat.le_refl _) (by decide)
  have written : initAllocator machine.map memory =
      some (put memory HEAP_START_ADDRESS (Bytes.toLE 8 (HEAP_START_ADDRESS + 8))) :=
    if_pos writable
  exact ⟨_, written, wordAt_writeWord (by decide) written⟩

/-- `malloc` always returns: NULL and nothing changed, or the block at `free_ptr`. -/
theorem malloc_returns (memory : Image) (size : Nat) :
    ∃ pointer after, malloc machine.map memory size = some (pointer, after) ∧
      ((size = 0 ∨ HEAP_END_ADDRESS <
          (wordAt memory HEAP_START_ADDRESS + sizeAligned size) % 2 ^ 64) ∧
          pointer = 0 ∧ after = memory ∨
        size ≠ 0 ∧ (wordAt memory HEAP_START_ADDRESS + sizeAligned size) % 2 ^ 64 ≤
            HEAP_END_ADDRESS ∧
          pointer = wordAt memory HEAP_START_ADDRESS ∧
          wordAt after HEAP_START_ADDRESS =
            (wordAt memory HEAP_START_ADDRESS + sizeAligned size) % 2 ^ 64 ∧
          Frame HEAP_START_ADDRESS (HEAP_START_ADDRESS + 8) memory after) := by
  by_cases empty : size = 0
  · exact ⟨0, memory, if_pos empty, Or.inl ⟨Or.inl empty, rfl, rfl⟩⟩
  · have readable := machine.heap_readable (Nat.le_refl HEAP_START_ADDRESS)
      (show HEAP_START_ADDRESS + 8 ≤ HEAP_END_ADDRESS by decide)
    have found : readWord machine.map memory HEAP_START_ADDRESS =
        some (wordAt memory HEAP_START_ADDRESS) := if_pos readable
    simp only [malloc, if_neg empty, found, Option.bind_eq_bind, Option.bind_some]
    generalize next : (wordAt memory HEAP_START_ADDRESS + sizeAligned size) % 2 ^ 64 = bumped
    by_cases full : bumped > HEAP_END_ADDRESS
    · rw [if_pos full]
      exact ⟨0, memory, rfl, Or.inl ⟨Or.inr full, rfl, rfl⟩⟩
    · have writable : Writable machine.map HEAP_START_ADDRESS (Bytes.toLE 8 bumped).length := by
        rw [Bytes.length_toLE]
        exact machine.heap_writable (Nat.le_refl _) (by decide)
      have written : writeWord machine.map memory HEAP_START_ADDRESS bumped =
          some (put memory HEAP_START_ADDRESS (Bytes.toLE 8 bumped)) := if_pos writable
      have fits : bumped < 2 ^ 64 := by
        rw [← next]
        exact Nat.mod_lt _ (by decide)
      rw [if_neg full, written]
      exact ⟨_, _, rfl, Or.inr ⟨empty, Nat.le_of_not_gt full, rfl, wordAt_writeWord fits written,
        writeWord_frame written⟩⟩

end Heap

/-- Rounding up adds at most seven bytes, where it does not wrap. -/
theorem sizeAligned_bounds {size : Nat} (fits : size + 7 < 2 ^ 64) :
    size ≤ sizeAligned size ∧ sizeAligned size ≤ size + 7 ∧ sizeAligned size % 8 = 0 := by
  simp only [sizeAligned, Nat.mod_eq_of_lt fits]
  omega

/-- A call that does not wrap gives NULL or a block that ends where `free_ptr` goes. -/
theorem grant_in_heap {memory after : Image} {machine : Machine} {size pointer : Nat}
    (heap : InHeap (wordAt memory HEAP_START_ADDRESS))
    (fits : wordAt memory HEAP_START_ADDRESS + size + 7 < 2 ^ 64)
    (given : malloc machine.map memory size = some (pointer, after)) :
    InHeap (wordAt after HEAP_START_ADDRESS) ∧
      wordAt memory HEAP_START_ADDRESS ≤ wordAt after HEAP_START_ADDRESS ∧
      (pointer ≠ 0 → pointer = wordAt memory HEAP_START_ADDRESS ∧
        pointer + size ≤ wordAt after HEAP_START_ADDRESS) := by
  obtain ⟨found, image, returned, outcome⟩ := malloc_returns machine memory size
  rw [given] at returned
  obtain ⟨rfl, rfl⟩ := Prod.mk.inj (Option.some.inj returned)
  rcases outcome with ⟨-, rfl, rfl⟩ | ⟨-, below, rfl, next, -⟩
  · exact ⟨heap, Nat.le_refl _, fun nonzero => absurd rfl nonzero⟩
  · obtain ⟨covers, rounded, multiple⟩ := sizeAligned_bounds (show size + 7 < 2 ^ 64 by omega)
    have aligned := heap.aligned
    have above := heap.above
    -- both summands are multiples of eight, so the sum stays eight short of the limit
    have small : wordAt memory HEAP_START_ADDRESS + sizeAligned size < 2 ^ 64 := by omega
    rw [Nat.mod_eq_of_lt small] at below next
    rw [next]
    exact ⟨⟨by omega, by omega, below⟩, by omega, fun _ => ⟨rfl, by omega⟩⟩

/-- A call that wraps gives a block that does not fit into the heap. -/
theorem grant_outside {memory after : Image} {machine : Machine} {size pointer : Nat}
    (heap : InHeap (wordAt memory HEAP_START_ADDRESS)) (bounded : size < 2 ^ 64)
    (wraps : 2 ^ 64 ≤ wordAt memory HEAP_START_ADDRESS + size + 7)
    (given : malloc machine.map memory size = some (pointer, after)) :
    pointer ≠ 0 ∧ HEAP_END_ADDRESS < pointer + size := by
  have above := heap.above
  have below := heap.below
  have aligned := heap.aligned
  obtain ⟨found, image, returned, outcome⟩ := malloc_returns machine memory size
  rw [given] at returned
  obtain ⟨rfl, rfl⟩ := Prod.mk.inj (Option.some.inj returned)
  simp only [HEAP_START_ADDRESS, HEAP_END_ADDRESS, HEAP_LENGTH, sizeAligned] at *
  rcases outcome with ⟨nothing, rfl, rfl⟩ | ⟨-, -, rfl, -, -⟩
  · omega
  · omega

section Sequences

variable {machine : Machine} {memory after : Image}

theorem mallocAll_returns (sizes : List UInt64) : ∀ memory,
    ∃ grants, mallocAll machine.map memory sizes = some grants := by
  induction sizes with
  | nil =>
      intro memory
      exact ⟨[], rfl⟩
  | cons size rest ih =>
      intro memory
      obtain ⟨pointer, after, given, -⟩ := malloc_returns machine memory size.toNat
      obtain ⟨grants, later⟩ := ih after
      refine ⟨⟨size.toNat, pointer, wordAt after HEAP_START_ADDRESS⟩ :: grants, ?_⟩
      simp only [mallocAll, given, later, Option.bind_eq_bind, Option.bind_some]

theorem mallocAll_cons {size : UInt64} {rest : List UInt64} {grants : List Grant}
    (ran : mallocAll machine.map memory (size :: rest) = some grants) :
    ∃ pointer after later, malloc machine.map memory size.toNat = some (pointer, after) ∧
      mallocAll machine.map after rest = some later ∧
      grants = ⟨size.toNat, pointer, wordAt after HEAP_START_ADDRESS⟩ :: later := by
  simp only [mallocAll, Option.bind_eq_bind, Option.bind_eq_some_iff, Prod.exists] at ran
  obtain ⟨pointer, after, given, later, rest, same⟩ := ran
  exact ⟨pointer, after, later, given, rest, (Option.some.inj same).symm⟩

theorem noOverflow_cons_iff {size : UInt64} {rest : List UInt64} {pointer : Nat}
    (given : malloc machine.map memory size.toNat = some (pointer, after)) :
    NoOverflow machine.map memory (size :: rest) ↔
      wordAt memory HEAP_START_ADDRESS + size.toNat + 7 < 2 ^ 64 ∧
        NoOverflow machine.map after rest := by
  simp [NoOverflow, given]

theorem SoundGrants.tail {grant : Grant} {later : List Grant}
    (sound : SoundGrants (grant :: later)) : SoundGrants later where
  aligned := fun other member => sound.aligned other (List.mem_cons_of_mem grant member)
  inside := fun other member => sound.inside other (List.mem_cons_of_mem grant member)
  disjoint := (List.pairwise_cons.mp sound.disjoint).2
  freePtr := fun other member => sound.freePtr other (List.mem_cons_of_mem grant member)

/-- Without a wrap the blocks follow each other upwards from `free_ptr`. -/
theorem grants_sound (sizes : List UInt64) : ∀ (memory : Image) (grants : List Grant),
    InHeap (wordAt memory HEAP_START_ADDRESS) →
      mallocAll machine.map memory sizes = some grants →
      NoOverflow machine.map memory sizes →
      SoundGrants grants ∧ ∀ grant ∈ grants, grant.pointer ≠ 0 →
        wordAt memory HEAP_START_ADDRESS ≤ grant.pointer := by
  induction sizes with
  | nil =>
      intro memory grants _ ran _
      obtain rfl := Option.some.inj ran
      exact ⟨⟨by simp, by simp, List.Pairwise.nil, by simp⟩, by simp⟩
  | cons size rest ih =>
      intro memory grants heap ran fits
      obtain ⟨pointer, after, later, given, continued, rfl⟩ := mallocAll_cons ran
      obtain ⟨fitsNow, fitsLater⟩ := (noOverflow_cons_iff given).mp fits
      obtain ⟨heapAfter, grows, block⟩ := grant_in_heap heap fitsNow given
      obtain ⟨sound, above⟩ := ih after later heapAfter continued fitsLater
      constructor
      · constructor
        · intro grant member nonzero
          rcases List.mem_cons.mp member with rfl | member
          · rw [(block nonzero).1]
            exact heap.aligned
          · exact sound.aligned grant member nonzero
        · intro grant member nonzero
          rcases List.mem_cons.mp member with rfl | member
          · obtain ⟨same, ends⟩ := block nonzero
            exact ⟨Nat.le_trans heap.above (Nat.le_of_eq same.symm),
              Nat.le_trans ends heapAfter.below⟩
          · exact sound.inside grant member nonzero
        · apply List.pairwise_cons.mpr
          refine ⟨?_, sound.disjoint⟩
          intro grant member nonzero otherNonzero
          exact Or.inl (Nat.le_trans (block nonzero).2 (above grant member otherNonzero))
        · intro grant member
          rcases List.mem_cons.mp member with rfl | member
          · exact ⟨heapAfter.above, heapAfter.below⟩
          · exact sound.freePtr grant member
      · intro grant member nonzero
        rcases List.mem_cons.mp member with rfl | member
        · exact Nat.le_of_eq (block nonzero).1.symm
        · exact Nat.le_trans grows (above grant member nonzero)

/-- The first call that wraps is granted a block that is not sound. -/
theorem noOverflow_of_sound (sizes : List UInt64) : ∀ (memory : Image) (grants : List Grant),
    InHeap (wordAt memory HEAP_START_ADDRESS) →
      mallocAll machine.map memory sizes = some grants → SoundGrants grants →
      NoOverflow machine.map memory sizes := by
  induction sizes with
  | nil =>
      intro memory grants _ _ _
      trivial
  | cons size rest ih =>
      intro memory grants heap ran sound
      obtain ⟨pointer, after, later, given, continued, rfl⟩ := mallocAll_cons ran
      apply (noOverflow_cons_iff given).mpr
      have fitsNow : wordAt memory HEAP_START_ADDRESS + size.toNat + 7 < 2 ^ 64 := by
        apply Nat.lt_of_not_le
        intro wraps
        obtain ⟨nonzero, outside⟩ := grant_outside heap size.toNat_lt wraps given
        have inside := sound.inside _ List.mem_cons_self nonzero
        exact absurd inside.2 (Nat.not_le_of_gt outside)
      have heapAfter := (grant_in_heap heap fitsNow given).1
      exact ⟨fitsNow, ih after later heapAfter continued sound.tail⟩

end Sequences

/-- After `init_allocator`, on every machine and for every sequence of sizes, all calls
of `malloc` return, and they are sound if and only if no addition wraps. -/
theorem malloc_sound_iff (machine : Machine) (memory : Image) (sizes : List UInt64) :
    ∃ start grants, initAllocator machine.map memory = some start ∧
      mallocAll machine.map start sizes = some grants ∧
      (SoundGrants grants ↔ NoOverflow machine.map start sizes) := by
  obtain ⟨start, initial, free⟩ := initAllocator_returns machine memory
  obtain ⟨grants, ran⟩ := mallocAll_returns sizes start
  have heap : InHeap (wordAt start HEAP_START_ADDRESS) := by
    rw [free]
    exact ⟨by decide, Nat.le_refl _, by decide⟩
  refine ⟨start, grants, initial, ran, ?_⟩
  constructor
  · exact noOverflow_of_sound sizes start grants heap ran
  · intro fits
    exact (grants_sound sizes start grants heap ran fits).1

/-- The smallest machine, with the heap that the program counts on. -/
def heapMachine : Machine where
  text := 0
  stack := 0
  heap := HEAP_LENGTH
  input := 0
  heapWhole := Nat.le_refl _
  textFits := by decide
  stackFits := by decide
  heapFits := by decide
  inputFits := by decide

/-- The largest size is rounded up to zero, and its block is handed out again. -/
def overlappingGrants : List Grant :=
  [⟨2 ^ 64 - 1, 0x300000008, 0x300000008⟩, ⟨8, 0x300000008, 0x300000010⟩]

theorem largest_size_overlaps :
    (initAllocator heapMachine.map fun _ => 0).bind
        (fun start => mallocAll heapMachine.map start [0xffffffffffffffff, 8]) =
          some overlappingGrants ∧
      ¬ SoundGrants overlappingGrants := by
  constructor
  · decide +kernel
  · intro sound
    exact absurd (sound.inside _ List.mem_cons_self (by decide)).2 (by decide)

end Solalloc
