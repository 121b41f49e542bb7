import BlazCtf.Revm.EvmCalls
import BlazCtf.Revm.JournalRuns

set_option autoImplicit false

namespace Revm

open Evm Machine UndoLog

namespace EVMImpl

/-- A journaled state between two calls from outside. -/
structure Ready (evm : EVMImpl) (journaled : JournaledState) : Prop where
  framed : journaled.journal ≠ []
  depth : journaled.depth = 0
  fork : journaled.isBeforeSpuriousDragon = false
  codes : ∀ address acc code, journaled.state address = some acc → acc.info.code = some code →
    code.Fit
  entries : ∀ frame ∈ journaled.journal, ∀ address code,
    JournalEntry.codeChange address code ∈ frame → code.Fit
  money : supply evm.db journaled.state < 2 ^ 256

/-- An EVM over the database with one account of 100, without precompiles. Its hash is 0. -/
def purseEvm : EVMImpl where
  spec := .shanghai
  env := Interpreter.countingHost.env 0
  perfAllPrecompilesHaveBalance := false
  perfAnalyseCreatedBytecodes := .analyse
  db := purse
  precompiles _ := none
  keccak256 _ := 0
  createAddress _ _ := 7
  create2Address _ _ _ := 7

theorem purseEvm_fit : purseEvm.Fit where
  isSpuriousDragonEnabled := rfl
  limited := by decide
  answers := ⟨fun _ => rfl, fun _ => rfl⟩
  prevrandao _ := rfl
  basicFit address info code found has := by
    simp only [purseEvm, purse, Option.some.injEq] at found
    split at found
    · cases found
      cases has
    · cases found
  codeByHashFit _ code found := by
    cases found
    exact Bytecode.new_fit

theorem purseEvm_ready : purseEvm.Ready (JournaledState.new 3) where
  framed := by decide
  depth := rfl
  fork := rfl
  codes _ _ _ absent := by cases absent
  entries frame member _ _ inside := by
    cases List.mem_singleton.mp member
    cases inside
  money := purse_small

/-- The account pays 5 to an address that nobody has seen. -/
def payment : CallInputs where
  contract := 2
  transfer := ⟨1, 2, 5⟩
  input := []
  gasLimit := 100000
  context := ⟨2, 1, 2, 5, .call⟩
  isStatic := false

/-- The account creates a contract that gets 5 and returns its one byte of memory. -/
def creation : CreateInputs where
  caller := 1
  scheme := .create
  value := 5
  initCode := [0x60, 1, 0x60, 0, 0xf3]
  gasLimit := 100000

-- a sum over all addresses is not computed
attribute [local irreducible] Revm.supply

section Ends

variable {evm : EVMImpl} {journaled : JournaledState} {data : EVMData} {base : State} {bound : Nat}
  {small : bound < 2 ^ 256}

theorem Ready.sound (fit : evm.Fit) (ready : evm.Ready journaled) :
    Sound (evm.ground fit ready.money journaled.state) ⟨journaled, []⟩ := by
  refine ⟨⟨⟨ready.framed, Nat.le_refl _, ready.fork⟩, ready.depth, .refl _⟩,
    Covered.of_no_marks rfl, ready.codes, ?_⟩
  intro frame member entry inside
  cases entry with
  | codeChange _ _ => exact ready.entries frame member _ _ inside
  | _ => trivial

theorem ready_of_sound {fit : evm.Fit}
    (sound : Sound (evm.ground fit small base) ⟨journaled, []⟩) : evm.Ready journaled where
  framed := sound.stacked.1.framed
  depth := sound.stacked.2.1
  fork := sound.stacked.1.fork
  codes := sound.codes.state
  entries frame member _ _ inside := sound.codes.journal frame member _ inside
  money := Nat.lt_of_le_of_lt sound.stacked.1.funded small

/-- What a call or a creation leaves: no money was made, and no nonce has fallen. -/
structure Ended (evm : EVMImpl) (before after : JournaledState) : Prop where
  ready : evm.Ready after
  supply : supply evm.db after.state ≤ supply evm.db before.state
  loaded : ∀ address, (before.state address).isSome → (after.state address).isSome
  nonces : ∀ address, ((before.state address).getD (evm.db.fresh address)).info.nonce ≤
    ((after.state address).getD (evm.db.fresh address)).info.nonce

theorem Ready.ended {fit : evm.Fit} {next : EVMData}
    (ready : evm.Ready data.journaledState)
    (settled : Settled (evm.ground fit ready.money data.journaledState.state) []
      data.journaledState.state next) :
    evm.Ended data.journaledState next.journaledState where
  ready := ready_of_sound settled.sound
  supply := settled.sound.stacked.1.funded
  loaded := settled.loaded
  nonces address := (settled.sound.stacked.2.2 address).nonce

theorem host_serves_outermost {fit : evm.Fit} {frames : Nat} (enough : CALL_STACK_LIMIT < frames)
    (opened : JournalCheckpoint × JournaledState) :
    evm.Serves (evm.ground fit small base) (evm.host frames) [opened] := by
  apply host_serves
  · exact Nat.le_add_left 1 CALL_STACK_LIMIT
  · rw [List.length_singleton]
    omega

/-- However its frames call each other, a call from outside ends after finitely many steps: nothing
panics, neither in the interpreter nor in the journal, and no gas comes out of nothing. -/
theorem callInner_total (fit : evm.Fit) (ready : evm.Ready data.journaledState) {frames : Nat}
    (enough : CALL_STACK_LIMIT < frames) (inputs : CallInputs) (sane : inputs.gasLimit < GAS_SANE)
    (short : inputs.input.length ≤ ISIZE_MAX)
    (there : inputs.context.address = inputs.contract) :
    ∃ reason gas output next,
      evm.callInner (evm.host frames) inputs data =
        .returned (reason, gas, output) next ∧
      GasReturned inputs.gasLimit gas ∧ evm.Ended data.journaledState next.journaledState ∧
      ∃ asked coded, evm.code inputs.contract data = .returned asked coded ∧
        (reason.isOk = false →
          Restored evm.db true coded.journaledState.state next.journaledState.state) := by
  obtain ⟨⟨reason, gas, output⟩, next, ended, settled, back, asked, coded, answered, closed⟩ :=
    (callInner_settles sane short (ready.sound fit) (Or.inl there)
      fun _ => host_serves_outermost enough).returned
  exact ⟨reason, gas, output, next, ended, back, ready.ended settled, asked, coded, answered,
    fun failed => Setting.restored (closed.undone failed)⟩

theorem callInner_total_payment :
    ∃ reason gas output next,
      purseEvm.callInner (purseEvm.host (CALL_STACK_LIMIT + 1)) payment
          ⟨JournaledState.new 3, none⟩ = .returned (reason, gas, output) next ∧
      GasReturned 100000 gas ∧ purseEvm.Ended (JournaledState.new 3) next.journaledState ∧
      ∃ asked coded, purseEvm.code 2 ⟨JournaledState.new 3, none⟩ = .returned asked coded ∧
        (reason.isOk = false →
          Restored purse true coded.journaledState.state next.journaledState.state) := by
  have sane : payment.gasLimit < GAS_SANE := by decide
  have ready : purseEvm.Ready (EVMData.mk (JournaledState.new 3) none).journaledState :=
    purseEvm_ready
  exact callInner_total purseEvm_fit ready (Nat.lt_succ_self _) payment sane (by decide) rfl

/-- The same of a creation from outside. -/
theorem createInner_total (fit : evm.Fit) (ready : evm.Ready data.journaledState) {frames : Nat}
    (enough : CALL_STACK_LIMIT < frames) (inputs : CreateInputs) (sane : inputs.gasLimit < GAS_SANE)
    (short : inputs.initCode.length ≤ ISIZE_MAX) :
    ∃ reason created gas output next,
      evm.createInner (evm.host frames) inputs data =
        .returned (reason, created, gas, output) next ∧
      GasReturned inputs.gasLimit gas ∧ evm.Ended data.journaledState next.journaledState := by
  obtain ⟨⟨reason, created, gas, output⟩, next, ended, settled, back⟩ :=
    (createInner_settles sane short (ready.sound fit)
      fun _ => host_serves_outermost enough).returned
  exact ⟨reason, created, gas, output, next, ended, back, ready.ended settled⟩

theorem createInner_total_creation :
    ∃ reason created gas output next,
      purseEvm.createInner (purseEvm.host (CALL_STACK_LIMIT + 1)) creation
          ⟨JournaledState.new 3, none⟩ = .returned (reason, created, gas, output) next ∧
      GasReturned 100000 gas ∧ purseEvm.Ended (JournaledState.new 3) next.journaledState := by
  have sane : creation.gasLimit < GAS_SANE := by decide
  have ready : purseEvm.Ready (EVMData.mk (JournaledState.new 3) none).journaledState :=
    purseEvm_ready
  exact createInner_total purseEvm_fit ready (Nat.lt_succ_self _) creation sane (by decide)

end Ends

end EVMImpl

end Revm
