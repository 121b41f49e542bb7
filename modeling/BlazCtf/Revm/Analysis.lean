import BlazCtf.Revm.Primitives

set_option autoImplicit false

namespace Revm

def JUMPDEST : UInt8 := 0x5b

def PUSH1 : UInt8 := 0x60

/-- How far the next instruction is. -/
def instructionSize (opcode : UInt8) : Nat :=
  let pushOffset := opcode - PUSH1
  if pushOffset < 32 then pushOffset.toNat + 2 else 1

/-- The loop of `analyze`, at an offset of the code and with the jumps found so far. -/
def analyzeFrom (code : Bytes) (position : Nat) (jumps : List Bool) : List Bool :=
  match _found : code[position]? with
  | none => jumps
  | some opcode =>
      if opcode = JUMPDEST then analyzeFrom code (position + 1) (jumps.set position true)
      else analyzeFrom code (position + instructionSize opcode) jumps
termination_by code.length - position
decreasing_by
  all_goals
    have inside := (List.getElem?_eq_some_iff.mp _found).1
    have forward : 0 < instructionSize opcode := by
      unfold instructionSize
      dsimp only
      split <;> omega
    omega

def analyze (code : Bytes) : List Bool :=
  analyzeFrom code 0 (List.replicate code.length false)

namespace Bytecode

def toAnalysed (code : Bytecode) : Bytecode :=
  match code.state with
  | .raw =>
      let checked := code.toChecked.bytecode
      ⟨checked, code.hash, .analysed code.bytecode.length (analyze checked)⟩
  | .checked len => ⟨code.bytecode, code.hash, .analysed len (analyze code.bytecode)⟩
  | .analysed _ _ => code

end Bytecode

structure BytecodeLocked where
  bytecode : Bytes
  len : Nat
  hash : U256
  jumpMap : List Bool
  deriving DecidableEq

namespace BytecodeLocked

def tryFrom (code : Bytecode) : Option BytecodeLocked :=
  match code.state with
  | .analysed len jumpMap => some ⟨code.bytecode, len, code.hash, jumpMap⟩
  | _ => none

def unlock (locked : BytecodeLocked) : Bytecode :=
  ⟨locked.bytecode, locked.hash, .analysed locked.len locked.jumpMap⟩

def originalBytecodeSlice (locked : BytecodeLocked) : Bytes := locked.bytecode.take locked.len

end BytecodeLocked

structure Contract where
  input : Bytes
  bytecode : BytecodeLocked
  address : Evm.Address
  caller : Evm.Address
  value : U256

namespace Contract

/-- `None` is the panic of `expect("it is analyzed")`. -/
def new (input : Bytes) (bytecode : Bytecode) (address caller : Evm.Address) (value : U256) :
    Option Contract := do
  let bytecode ← BytecodeLocked.tryFrom bytecode.toAnalysed
  return ⟨input, bytecode, address, caller, value⟩

def isValidJump (contract : Contract) (position : Nat) : Bool :=
  contract.bytecode.jumpMap.getD position false

end Contract

/-- Where an instruction begins, if the code is read from its start on. -/
inductive Boundary (code : Bytes) : Nat → Prop
  | start : Boundary code 0
  | next {position : Nat} {opcode : UInt8} (before : Boundary code position)
      (found : code[position]? = some opcode) :
      Boundary code (position + instructionSize opcode)

section Jumps

variable {code : Bytes} {position target : Nat} {jumps : List Bool}

theorem instructionSize_jumpdest : instructionSize JUMPDEST = 1 := by decide

/-- No instruction takes more than its opcode and 32 bytes. -/
theorem instructionSize_le (opcode : UInt8) : instructionSize opcode ≤ 33 := by
  unfold instructionSize
  dsimp only
  split
  · rename_i small
    have below : (opcode - PUSH1).toNat < 32 := small
    omega
  · omega

@[simp] theorem length_analyzeFrom : (analyzeFrom code position jumps).length = jumps.length := by
  fun_induction analyzeFrom code position jumps with
  | case1 position jumps found => rfl
  | case2 position jumps found ih => rw [ih, List.length_set]
  | case3 position jumps opcode found other ih => exact ih

/-- Boundaries from an offset on. -/
inductive Reaches (code : Bytes) : Nat → Nat → Prop
  | refl (position : Nat) : Reaches code position position
  | step {position target : Nat} {opcode : UInt8} (found : code[position]? = some opcode)
      (rest : Reaches code (position + instructionSize opcode) target) :
      Reaches code position target

theorem Reaches.le (reaches : Reaches code position target) : position ≤ target := by
  induction reaches with
  | refl position => exact Nat.le_refl position
  | step found rest ih => omega

theorem Boundary.reaches (boundary : Boundary code position)
    (reaches : Reaches code position target) : Boundary code target := by
  induction reaches with
  | refl position => exact boundary
  | step found rest ih => exact ih (boundary.next found)

theorem Reaches.trans {middle : Nat} (first : Reaches code position middle)
    (second : Reaches code middle target) : Reaches code position target := by
  induction first with
  | refl position => exact second
  | step found rest ih => exact .step found (ih second)

theorem reaches_of_boundary (boundary : Boundary code position) : Reaches code 0 position := by
  induction boundary with
  | start => exact .refl 0
  | next before found ih => exact ih.trans (.step found (.refl _))

theorem reaches_iff {opcode : UInt8} (found : code[position]? = some opcode) :
    Reaches code position target ↔
      target = position ∨ Reaches code (position + instructionSize opcode) target := by
  constructor
  · intro reaches
    cases reaches with
    | refl => exact Or.inl rfl
    | step there rest =>
        rw [found] at there
        cases there
        exact Or.inr rest
  · rintro (rfl | rest)
    · exact .refl target
    · exact .step found rest

theorem getD_set {place : Nat} (inside : position < jumps.length) :
    (jumps.set position true).getD place false = true ↔
      place = position ∨ jumps.getD place false = true := by
  simp only [List.getD_eq_getElem?_getD, List.getElem?_set]
  by_cases at_ : position = place
  · subst at_
    rw [if_pos rfl, if_pos inside]
    exact ⟨fun _ => Or.inl rfl, fun _ => rfl⟩
  · rw [if_neg at_]
    exact ⟨Or.inr, fun either => either.resolve_left fun same => at_ same.symm⟩

/-- The loop marks the jump destinations it comes by, and leaves the rest as it was. -/
theorem analyzeFrom_getD (fits : jumps.length = code.length) (place : Nat) :
    (analyzeFrom code position jumps).getD place false = true ↔
      jumps.getD place false = true ∨ Reaches code position place ∧ code[place]? = some JUMPDEST := by
  fun_induction analyzeFrom code position jumps with
  | case1 position jumps absent =>
      constructor
      · exact Or.inl
      · rintro (marked | ⟨reaches, found⟩)
        · exact marked
        · cases reaches with
          | refl =>
              rw [absent] at found
              cases found
          | step there rest =>
              rw [absent] at there
              cases there
  | case2 position jumps found ih =>
      have inside : position < jumps.length := by
        rw [fits]
        exact (List.getElem?_eq_some_iff.mp found).1
      rw [ih (by rw [List.length_set, fits]), getD_set inside, reaches_iff found,
        instructionSize_jumpdest]
      constructor
      · rintro ((rfl | marked) | ⟨later, there⟩)
        · exact Or.inr ⟨Or.inl rfl, found⟩
        · exact Or.inl marked
        · exact Or.inr ⟨Or.inr later, there⟩
      · rintro (marked | ⟨rfl | later, there⟩)
        · exact Or.inl (Or.inr marked)
        · exact Or.inl (Or.inl rfl)
        · exact Or.inr ⟨later, there⟩
  | case3 position jumps opcode found other ih =>
      rw [ih fits, reaches_iff found]
      constructor
      · rintro (marked | ⟨later, there⟩)
        · exact Or.inl marked
        · exact Or.inr ⟨Or.inr later, there⟩
      · rintro (marked | ⟨rfl | later, there⟩)
        · exact Or.inl marked
        · rw [found, Option.some.injEq] at there
          exact absurd there other
        · exact Or.inr ⟨later, there⟩

/-- The jump map holds exactly the jump destinations at which an instruction begins; a byte of
the same value inside the data of a push is none. -/
theorem analyze_getD (code : Bytes) (place : Nat) :
    (analyze code).getD place false = true ↔
      Boundary code place ∧ code[place]? = some JUMPDEST := by
  have blank : (List.replicate code.length false).getD place false = false := by
    rw [List.getD_eq_getElem?_getD, List.getElem?_replicate]
    split <;> rfl
  rw [analyze, analyzeFrom_getD List.length_replicate, blank]
  constructor
  · rintro (marked | ⟨reaches, found⟩)
    · cases marked
    · exact ⟨Boundary.start.reaches reaches, found⟩
  · rintro ⟨boundary, found⟩
    exact Or.inr ⟨reaches_of_boundary boundary, found⟩

end Jumps

/-- Code in which an instruction other than a STOP is always followed by another one. -/
structure Runnable (code : Bytes) : Prop where
  nonempty : 0 < code.length
  next : ∀ position opcode, Boundary code position → code[position]? = some opcode →
    opcode ≠ 0 → position + instructionSize opcode < code.length

/-- Code of a length, and zeros behind it. -/
structure Padded (code : Bytes) (len : Nat) : Prop where
  room : len + 33 ≤ code.length
  zeros : ∀ position, len ≤ position → position < code.length → code[position]? = some 0

theorem Padded.runnable {code : Bytes} {len : Nat} (padded : Padded code len) :
    Runnable code where
  nonempty := by
    have room := padded.room
    omega
  next := by
    intro position opcode _ found nonzero
    have inside := (List.getElem?_eq_some_iff.mp found).1
    have before : position < len := by
      by_contra after
      have zero := padded.zeros position (Nat.le_of_not_lt after) inside
      rw [found, Option.some.injEq] at zero
      exact nonzero zero
    have size := instructionSize_le opcode
    have room := padded.room
    omega

theorem padded_append (code : Bytes) : Padded (code ++ List.replicate 33 0) code.length where
  room := by rw [List.length_append, List.length_replicate]
  zeros := by
    intro position after inside
    rw [List.length_append, List.length_replicate] at inside
    rw [List.getElem?_append_right after, List.getElem?_replicate, if_pos (by omega)]

/-- Code that can be run without looking where it ends. -/
structure BytecodeLocked.WellFormed (locked : BytecodeLocked) : Prop where
  runnable : Runnable locked.bytecode
  len_le : locked.len ≤ locked.bytecode.length
  jumps : ∀ place, locked.jumpMap.getD place false = true →
    Boundary locked.bytecode place ∧ locked.bytecode[place]? = some JUMPDEST

/-- What the database and the journal hold as code. -/
def Bytecode.WellFormed (code : Bytecode) : Prop :=
  match code.state with
  | .raw => True
  | .checked len => Padded code.bytecode len
  | .analysed len jumpMap => BytecodeLocked.WellFormed ⟨code.bytecode, len, code.hash, jumpMap⟩

theorem Bytecode.new_wellFormed : Bytecode.new.WellFormed where
  runnable :=
    { nonempty := by decide
      next := by
        intro position opcode _ found nonzero
        have inside : position < 1 := (List.getElem?_eq_some_iff.mp found).1
        obtain rfl : position = 0 := by omega
        cases found
        exact absurd rfl nonzero }
  len_le := by decide
  jumps := by
    intro place marked
    rw [List.getD_nil] at marked
    cases marked

/-- Analysed code can always be locked, and the pushes and jumps of what comes of it stay
inside. -/
theorem Bytecode.WellFormed.locks {code : Bytecode} (good : code.WellFormed) :
    ∃ locked, BytecodeLocked.tryFrom code.toAnalysed = some locked ∧ locked.WellFormed := by
  unfold WellFormed at good
  unfold BytecodeLocked.tryFrom toAnalysed
  cases kind : code.state with
  | raw =>
      have checked : code.toChecked.bytecode = code.bytecode ++ List.replicate 33 0 := by
        rw [toChecked, kind]
      have padded : Padded code.toChecked.bytecode code.bytecode.length := by
        rw [checked]
        exact padded_append code.bytecode
      refine ⟨_, rfl, padded.runnable, ?_, fun place => (analyze_getD _ place).mp⟩
      exact Nat.le_trans (Nat.le_add_right _ 33) padded.room
  | checked len =>
      rw [kind] at good
      have padded : Padded code.bytecode len := good
      refine ⟨_, rfl, padded.runnable, ?_, fun place => (analyze_getD _ place).mp⟩
      exact Nat.le_trans (Nat.le_add_right _ 33) padded.room
  | analysed len jumpMap =>
      rw [kind] at good
      simp only [kind]
      exact ⟨_, rfl, good⟩

theorem Bytecode.newRaw_wellFormed (keccak256 : Bytes → U256) (code : Bytes) :
    (Bytecode.newRaw keccak256 code).WellFormed := trivial

section Locks

variable {code : Bytecode}

theorem Bytecode.WellFormed.len_le (good : code.WellFormed) : code.len ≤ code.bytecode.length := by
  unfold WellFormed at good
  unfold len
  cases kind : code.state with
  | raw => exact Nat.le_refl _
  | checked len =>
      rw [kind] at good
      exact Nat.le_trans (Nat.le_add_right _ 33) good.room
  | analysed len jumpMap =>
      rw [kind] at good
      exact BytecodeLocked.WellFormed.len_le good

theorem BytecodeLocked.tryFrom_len {locked : BytecodeLocked}
    (locks : BytecodeLocked.tryFrom code.toAnalysed = some locked) : locked.len = code.len := by
  unfold BytecodeLocked.tryFrom Bytecode.toAnalysed at locks
  unfold Bytecode.len
  cases kind : code.state with
  | raw =>
      rw [kind] at locks
      cases locks
      rfl
  | checked len =>
      rw [kind] at locks
      cases locks
      rfl
  | analysed len jumpMap =>
      simp only [kind] at locks
      cases locks
      rfl

/-- Analysing code leaves it well formed. -/
theorem Bytecode.WellFormed.toAnalysed (good : code.WellFormed) : code.toAnalysed.WellFormed := by
  obtain ⟨locked, locks, wellFormed⟩ := good.locks
  unfold BytecodeLocked.tryFrom at locks
  unfold WellFormed
  cases kind : code.toAnalysed.state with
  | raw =>
      rw [kind] at locks
      cases locks
  | checked len =>
      rw [kind] at locks
      cases locks
  | analysed len jumpMap =>
      rw [kind] at locks
      cases locks
      exact wellFormed

end Locks

end Revm
