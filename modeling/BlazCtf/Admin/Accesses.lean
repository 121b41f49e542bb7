import BlazCtf.Admin.MultiSig

set_option autoImplicit false

namespace Admin

/-- What a native function does that can go wrong: taking a slice of some length for an
array, indexing a slice, and writing to some bytes of the block it allocated. -/
inductive Access where
  | convert (length required : Nat)
  | read (index length : Nat)
  | write (start count : Nat)
  deriving DecidableEq

/-- The size of the block that `fn_dump_state` allocates. -/
def dumpSize : Nat := 0x100

/-- The size of the `&[u8]` that one step of its pointer moves over. -/
def sliceSize : Nat := 16

def Access.Safe : Access → Prop
  | .convert length required => length = required
  | .read index length => index < length
  | .write start count => start + count ≤ dumpSize

instance instDecidableSafe : ∀ access, Decidable (Access.Safe access)
  | .convert length required => inferInstanceAs (Decidable (length = required))
  | .read index length => inferInstanceAs (Decidable (index < length))
  | .write start count => inferInstanceAs (Decidable (start + count ≤ dumpSize))

/-- A native function with the accesses it makes, a panicking one included. -/
structure Emitted where
  accesses : List Access
  result : Native
  deriving DecidableEq

/-- The `while` of `fn_dump_state` from an index on, with the rounds that its bound on
the index leaves. -/
def dumpLoop (length : Nat) : Nat → Nat → List Access × Bool
  | 0, _ => ([], true)
  | rounds + 1, i =>
      if i ≤ length then
        if i < length then
          let (rest, finished) := dumpLoop length rounds (i + 1)
          (.read i length :: .write (i * sliceSize) sliceSize :: rest, finished)
        else ([.read i length], false)
      else ([], true)

/-- The loop runs while `i <= 0x10`. -/
def emitDumpState (node : Node) (x : List UInt8) : Emitted :=
  let (accesses, finished) := dumpLoop x.length 0x11 0
  ⟨accesses, if finished then some ({ node with lost := true }, 0) else none⟩

def emitReloadMultisigAddress (node : Node) (x : List UInt8) : Emitted :=
  ⟨[.convert x.length 20], fnReloadMultisigAddress node x⟩

def emitReloadRequiredGas (node : Node) (x : List UInt8) : Emitted :=
  ⟨[.convert x.length 8], fnReloadRequiredGas node x⟩

def emitReloadRuntimeConfig (node : Node) : List UInt8 → Emitted
  | [] => ⟨[], some (node, 1)⟩
  | kind :: rest =>
      match ConfigKind.fromU8 kind with
      | .multisigAddress => emitReloadMultisigAddress node rest
      | .requiredGas => emitReloadRequiredGas node rest
      | .setBalance => ⟨[], fnSetBalance node rest⟩
      | .dumpState => emitDumpState node rest
      | .unknown => ⟨[], some (node, 1)⟩

def emitDispatch (node : Node) (kind : UInt8) (rest : List UInt8) : Emitted :=
  match AdminCallKind.fromU8 kind with
  | .emergencyStop => ⟨[], fnEmergencyStop node rest⟩
  | .reloadRuntimeConfig => emitReloadRuntimeConfig node rest
  | .mint => ⟨[], fnMint node rest⟩
  | .burn => ⟨[], fnBurn node rest⟩
  | .unknown => ⟨[], some (node, 2 ^ 64 - 1)⟩

/-- The accesses of `admin_func_run`, which makes none unless it dispatches. -/
def adminAccesses (node : Node) (i : List UInt8) (targetGas : Nat) (context : CallContext) :
    List Access :=
  match i with
  | [] => []
  | kind :: rest =>
      if node.requiredGas = targetGas ∧ isMultisig node context = true then
        (emitDispatch node kind rest).accesses
      else []

section Loop

variable {length : Nat}

/-- The loop panics when it gets to the end of the slice before its bound. -/
theorem dumpLoop_finished (rounds i : Nat) (before : i ≤ length) :
    (dumpLoop length rounds i).2 = true ↔ i + rounds ≤ length := by
  induction rounds generalizing i with
  | zero =>
      simp only [dumpLoop, Nat.add_zero]
      exact ⟨fun _ => before, fun _ => trivial⟩
  | succ rounds ih =>
      rw [dumpLoop, if_pos before]
      by_cases inside : i < length
      · have rest := ih (i + 1) inside
        rw [if_pos inside]
        rw [show i + (rounds + 1) = i + 1 + rounds by omega]
        exact rest
      · rw [if_neg inside]
        simp only [Bool.false_eq_true, false_iff]
        omega

/-- As long as it is not over, the loop writes the slot of each index it has left. -/
theorem dumpLoop_writes (rounds i slot : Nat) (inside : i + rounds ≤ length) (low : i ≤ slot)
    (high : slot < i + rounds) :
    .write (slot * sliceSize) sliceSize ∈ (dumpLoop length rounds i).1 := by
  induction rounds generalizing i with
  | zero => omega
  | succ rounds ih =>
      rw [dumpLoop, if_pos (show i ≤ length by omega), if_pos (show i < length by omega)]
      by_cases here : slot = i
      · subst here
        exact List.mem_cons_of_mem _ List.mem_cons_self
      · apply List.mem_cons_of_mem
        apply List.mem_cons_of_mem
        exact ih (i + 1) (by omega) (by omega) (by omega)

/-- Whatever it is given, the loop reads past the end of the slice or writes behind the
block. -/
theorem dumpLoop_unsafe (length : Nat) :
    (dumpLoop length 0x11 0).2 = false ∨
      .write dumpSize sliceSize ∈ (dumpLoop length 0x11 0).1 := by
  have finished := dumpLoop_finished 0x11 0 (Nat.zero_le length)
  by_cases long : 0x11 ≤ length
  · right
    exact dumpLoop_writes 0x11 0 0x10 (by omega) (by omega) (by omega)
  · left
    rw [← Bool.not_eq_true, finished]
    omega

end Loop

section Emitted

variable (node : Node)

theorem emitDumpState_result (x : List UInt8) :
    (emitDumpState node x).result = fnDumpState node x := by
  have finished := dumpLoop_finished 0x11 0 (Nat.zero_le x.length)
  unfold emitDumpState fnDumpState
  by_cases short : x.length ≤ 0x10
  · have panicked : (dumpLoop x.length 0x11 0).2 = false := by
      rw [← Bool.not_eq_true, finished]
      omega
    simp only [panicked, short, ↓reduceIte, Bool.false_eq_true]
  · have done : (dumpLoop x.length 0x11 0).2 = true := by
      rw [finished]
      omega
    simp only [done, short, ↓reduceIte]

theorem emitReloadRuntimeConfig_result (x : List UInt8) :
    (emitReloadRuntimeConfig node x).result = fnReloadRuntimeConfig node x := by
  cases x with
  | nil => rfl
  | cons kind rest =>
      simp only [emitReloadRuntimeConfig, fnReloadRuntimeConfig]
      cases ConfigKind.fromU8 kind with
      | multisigAddress => rfl
      | requiredGas => rfl
      | setBalance => rfl
      | dumpState => exact emitDumpState_result node rest
      | unknown => rfl

/-- The accesses are those of the modelled functions. -/
theorem emitDispatch_result (kind : UInt8) (rest : List UInt8) :
    (emitDispatch node kind rest).result = adminDispatch node kind rest := by
  unfold emitDispatch adminDispatch
  cases AdminCallKind.fromU8 kind with
  | emergencyStop => rfl
  | reloadRuntimeConfig => exact emitReloadRuntimeConfig_result node rest
  | mint => rfl
  | burn => rfl
  | unknown => rfl

/-- No panic, and every access is safe. -/
def Emitted.Safe (emitted : Emitted) : Prop :=
  emitted.result ≠ none ∧ ∀ access ∈ emitted.accesses, access.Safe

/-- The rest of a reload that a native function cannot take: an address or a gas value
of another length, and any state to dump. -/
def Unfit : List UInt8 → Prop
  | [] => False
  | kind :: rest =>
      kind = 1 ∧ rest.length ≠ 20 ∨ kind = 2 ∧ rest.length ≠ 8 ∨ kind = 4

theorem emitDumpState_unsafe (x : List UInt8) : ¬ (emitDumpState node x).Safe := by
  rintro ⟨returns, safe⟩
  rcases dumpLoop_unsafe x.length with panicked | behind
  · apply returns
    simp only [emitDumpState, panicked, Bool.false_eq_true, ↓reduceIte]
  · have inside : Access.Safe (.write dumpSize sliceSize) := safe _ behind
    exact absurd inside (by decide)

/-- A function that converts its slice and panics for any other length. -/
theorem Emitted.convert_safe_iff {length required : Nat} {result : Node × Nat} :
    Emitted.Safe ⟨[.convert length required], if length = required then some result else none⟩ ↔
      length = required := by
  simp only [Emitted.Safe, List.mem_singleton, forall_eq, Access.Safe]
  constructor
  · rintro ⟨_, fits⟩
    exact fits
  · intro fits
    simp only [fits, ↓reduceIte, ne_eq, reduceCtorEq, not_false_eq_true, and_self]

theorem emitReloadMultisigAddress_safe_iff (x : List UInt8) :
    (emitReloadMultisigAddress node x).Safe ↔ x.length = 20 :=
  Emitted.convert_safe_iff

theorem emitReloadRequiredGas_safe_iff (x : List UInt8) :
    (emitReloadRequiredGas node x).Safe ↔ x.length = 8 :=
  Emitted.convert_safe_iff

/-- A function without accesses that returns. -/
theorem Emitted.safe_of_plain {result : Node × Nat} : Emitted.Safe ⟨[], some result⟩ :=
  ⟨nofun, nofun⟩

theorem emitReloadRuntimeConfig_safe_iff (x : List UInt8) :
    (emitReloadRuntimeConfig node x).Safe ↔ ¬ Unfit x := by
  cases x with
  | nil => exact ⟨fun _ => id, fun _ => Emitted.safe_of_plain⟩
  | cons kind rest =>
      simp only [emitReloadRuntimeConfig, Unfit]
      by_cases one : kind = 1
      · subst one
        have fits := emitReloadMultisigAddress_safe_iff node rest
        simpa [ConfigKind.fromU8] using fits
      · by_cases two : kind = 2
        · subst two
          have fits := emitReloadRequiredGas_safe_iff node rest
          simpa [ConfigKind.fromU8] using fits
        · by_cases three : kind = 3
          · subst three
            have plain : Emitted.Safe ⟨[], fnSetBalance node rest⟩ := Emitted.safe_of_plain
            simpa [ConfigKind.fromU8] using plain
          · by_cases four : kind = 4
            · subst four
              have refused := emitDumpState_unsafe node rest
              simpa [ConfigKind.fromU8] using refused
            · have plain : Emitted.Safe ⟨[], some (node, 1)⟩ := Emitted.safe_of_plain
              simpa [ConfigKind.fromU8, one, two, three, four] using plain

theorem emitDispatch_safe_iff (kind : UInt8) (rest : List UInt8) :
    (emitDispatch node kind rest).Safe ↔ ¬ (kind = 2 ∧ Unfit rest) := by
  unfold emitDispatch
  by_cases two : kind = 2
  · subst two
    have reload := emitReloadRuntimeConfig_safe_iff node rest
    simpa [AdminCallKind.fromU8] using reload
  · have other : ¬ (kind = 2 ∧ Unfit rest) := fun both => two both.1
    refine ⟨fun _ => other, fun _ => ?_⟩
    split
    · exact Emitted.safe_of_plain
    · rename_i reload
      revert reload
      simp only [AdminCallKind.fromU8, two, ↓reduceIte]
      split
      · exact nofun
      · split
        · exact nofun
        · split
          · exact nofun
          · exact nofun
    · exact Emitted.safe_of_plain
    · exact Emitted.safe_of_plain
    · exact Emitted.safe_of_plain

end Emitted

/-- A dispatched call panics when the native function does. -/
theorem adminFuncRun_panic_iff {node : Node} {kind : UInt8} {rest : List UInt8} {targetGas : Nat}
    {context : CallContext} (required : node.requiredGas = targetGas)
    (authorised : isMultisig node context = true) :
    (adminFuncRun node (kind :: rest) targetGas context).2 = .panic ↔
      adminDispatch node kind rest = none := by
  simp only [adminFuncRun, required, authorised, ne_eq, not_true_eq_false, ↓reduceIte,
    Bool.true_eq_false]
  cases adminDispatch node kind rest with
  | none => exact ⟨fun _ => rfl, fun _ => rfl⟩
  | some done =>
      obtain ⟨after, code⟩ := done
      match code with
      | 0 => exact ⟨nofun, nofun⟩
      | 1 => exact ⟨nofun, nofun⟩
      | _ + 2 => exact ⟨nofun, nofun⟩

/-- A call that is not dispatched returns an error. -/
theorem adminFuncRun_refused {node : Node} {i : List UInt8} {targetGas : Nat}
    {context : CallContext}
    (refused : ¬ (node.requiredGas = targetGas ∧ isMultisig node context = true)) :
    ∃ error, adminFuncRun node i targetGas context = (node, .err error) := by
  unfold adminFuncRun
  split
  · exact ⟨_, rfl⟩
  · rename_i required
    have unauthorised : isMultisig node context = false := by
      rw [← Bool.not_eq_true]
      exact fun authorised => refused ⟨Decidable.not_not.mp required, authorised⟩
    cases i with
    | nil => exact ⟨_, rfl⟩
    | cons kind rest =>
        simp only [unauthorised, ↓reduceIte]
        exact ⟨_, rfl⟩

/-- For every input, gas and context: the precompile returns without a panic, converts
no slice of a wrong length and accesses no memory out of bounds, unless it lets a reload
of an unfit rest through. -/
theorem input_safe_iff (node : Node) (i : List UInt8) (targetGas : Nat) (context : CallContext) :
    ((adminFuncRun node i targetGas context).2 ≠ .panic ∧
        ∀ access ∈ adminAccesses node i targetGas context, access.Safe) ↔
      ¬ (node.requiredGas = targetGas ∧ isMultisig node context = true ∧
        ∃ rest, i = 2 :: rest ∧ Unfit rest) := by
  by_cases admitted : node.requiredGas = targetGas ∧ isMultisig node context = true
  · obtain ⟨required, authorised⟩ := admitted
    cases i with
    | nil =>
        have halted : adminFuncRun node [] targetGas context = (node, .err .enterpriseHalt) := by
          simp only [adminFuncRun, required, ne_eq, not_true_eq_false, ↓reduceIte]
        rw [halted]
        refine ⟨?_, fun _ => ⟨nofun, nofun⟩⟩
        rintro _ ⟨_, _, rest, spelled, _⟩
        cases spelled
    | cons kind rest =>
        have safe := emitDispatch_safe_iff node kind rest
        have accesses : adminAccesses node (kind :: rest) targetGas context =
            (emitDispatch node kind rest).accesses := if_pos ⟨required, authorised⟩
        have reload : (∃ tail, kind :: rest = 2 :: tail ∧ Unfit tail) ↔ kind = 2 ∧ Unfit rest := by
          constructor
          · rintro ⟨tail, spelled, unfit⟩
            cases spelled
            exact ⟨rfl, unfit⟩
          · rintro ⟨rfl, unfit⟩
            exact ⟨rest, rfl, unfit⟩
        rw [Emitted.Safe, emitDispatch_result] at safe
        rw [accesses, ne_eq, adminFuncRun_panic_iff required authorised, safe, reload]
        simp only [required, authorised, true_and]
  · obtain ⟨error, returned⟩ := adminFuncRun_refused (i := i) admitted
    have accesses : adminAccesses node i targetGas context = [] := by
      cases i with
      | nil => rfl
      | cons kind rest => exact if_neg admitted
    rw [returned, accesses]
    exact ⟨fun _ all => admitted ⟨all.1, all.2.1⟩, fun _ => ⟨nofun, nofun⟩⟩

/-- The registered contract, with the required gas. -/
def multisigContext : CallContext := ⟨1337, 0x31337, 1337, 0, .staticCall⟩

/-- What `reloadConfig(4, data)` sends makes the precompile panic when `data` is short and
write behind its block when it is long. -/
theorem dump_state_unsafe :
    adminInput [] 4 = .ok (some [2, 4]) ∧
    (adminFuncRun Node.start [2, 4] 2000 multisigContext).2 = .panic ∧
    adminInput (List.replicate 17 0) 4 = .ok (some ([2, 4] ++ List.replicate 17 0)) ∧
    (adminFuncRun Node.start ([2, 4] ++ List.replicate 17 0) 2000 multisigContext).2 =
      .ok 2000 [0] ∧
    .write 256 16 ∈ adminAccesses Node.start ([2, 4] ++ List.replicate 17 0) 2000
      multisigContext ∧
    ¬ Access.Safe (.write 256 16) := by
  decide +kernel

end Admin
