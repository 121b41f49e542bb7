import BlazCtf.Revm.EvmImpl
import BlazCtf.Revm.InterpreterRuns
import BlazCtf.Revm.JournalSound

set_option autoImplicit false

namespace Revm

open Evm Machine UndoLog

/-- Code that can be run. -/
structure Bytecode.Fit (code : Bytecode) : Prop where
  wellFormed : code.WellFormed
  short : code.bytecode.length ≤ ISIZE_MAX

/-- An EVM since Spurious Dragon, with a limit to the size of codes, over a database that gives
good codes. -/
structure EVMImpl.Fit (evm : EVMImpl) : Prop where
  isSpuriousDragonEnabled : evm.spec.enabled .spuriousDragon = true
  limited : evm.env.limitContractCodeSize.getD MAX_CODE_SIZE ≤ 2 ^ 56
  answers : evm.db.Answers
  prevrandao : evm.spec.enabled .merge = true → evm.env.prevrandao.isSome
  basicFit : ∀ address info code, evm.db.basic address = some (some info) →
    info.code = some code → code.Fit
  codeByHashFit : ∀ codeHash code, evm.db.codeByHash codeHash = some code → code.Fit

theorem Bytecode.new_fit : Bytecode.new.Fit := ⟨new_wellFormed, by decide⟩

theorem Contract.new_fits {code : Bytecode} {input : Bytes} (good : code.Fit)
    (short : input.length ≤ ISIZE_MAX) (address caller : Address) (value : U256) :
    ∃ contract, Contract.new input code address caller value = some contract ∧ contract.Fit ∧
      contract.address = address := by
  obtain ⟨locked, locks, wellFormed⟩ := good.wellFormed.locks
  have length : locked.len ≤ ISIZE_MAX := by
    rw [BytecodeLocked.tryFrom_len locks]
    exact Nat.le_trans good.wellFormed.len_le good.short
  refine ⟨⟨input, locked, address, caller, value⟩, ?_, ⟨wellFormed, length, short⟩, rfl⟩
  rw [Contract.new, locks]
  rfl

/-- What comes out of a frame. -/
structure FrameEnded (gasLimit : Nat) (gas : Gas) (output : Bytes) : Prop where
  sound : gas.Sound
  refunded : gas.Refunded
  limit : gas.limit = gasLimit
  short : output.length + 33 ≤ ISIZE_MAX

theorem FrameEnded.returned {gasLimit : Nat} {gas : Gas} {output : Bytes}
    (ended : FrameEnded gasLimit gas output) : GasReturned gasLimit gas :=
  ended.limit ▸ ended.sound.returned ended.refunded

/-- An execution stands on the same checkpoints again, with everything still loaded. -/
structure Settled (ground : Ground) (below : List (JournalCheckpoint × JournaledState))
    (origin : State) (data : EVMData) : Prop where
  sound : Sound ground ⟨data.journaledState, below⟩
  loaded : ∀ address, (origin address).isSome → (data.journaledState.state address).isSome

/-- What the end of a frame leaves. A frame that does not succeed leaves what it began with. -/
structure Closed (ground : Ground) (below : List (JournalCheckpoint × JournaledState))
    (origin : State) (reason : InstructionResult) (data : EVMData) : Prop
    extends Settled ground below origin data where
  undone : reason.isOk = false → ground.Alike origin data.journaledState.state origin

section Settled

variable {ground : Ground} {below : List (JournalCheckpoint × JournaledState)} {origin : State}
  {data next : EVMData}

theorem Settled.refl (sound : Sound ground ⟨data.journaledState, below⟩) :
    Settled ground below data.journaledState.state data := ⟨sound, fun _ known => known⟩

theorem Settled.trans (early : Settled ground below origin data)
    (late : Settled ground below data.journaledState.state next) :
    Settled ground below origin next :=
  ⟨late.sound, fun address known => late.loaded address (early.loaded address known)⟩

theorem Closed.refl {reason : InstructionResult}
    (sound : Sound ground ⟨data.journaledState, below⟩) :
    Closed ground below data.journaledState.state reason data :=
  ⟨.refl sound, fun _ => ground.discipline.refl _ _⟩

end Settled

namespace EVMImpl

theorem analysed_fit {evm : EVMImpl} {bytes : Bytes} (short : bytes.length + 33 ≤ ISIZE_MAX) :
    (evm.analysed bytes).Fit := by
  have raw : (Bytecode.newRaw evm.keccak256 bytes).WellFormed :=
    Bytecode.newRaw_wellFormed evm.keccak256 bytes
  have padded : (bytes ++ List.replicate 33 (0 : UInt8)).length ≤ ISIZE_MAX := by
    rw [List.length_append, List.length_replicate]
    exact short
  unfold analysed
  cases evm.perfAnalyseCreatedBytecodes with
  | raw => exact ⟨raw, Nat.le_trans (Nat.le_add_right _ 33) short⟩
  | check => exact ⟨padded_append bytes, padded⟩
  | analyse => exact ⟨raw.toAnalysed, padded⟩

/-- The EVM holds an execution to the fork, to codes that can be run, to the money there is, and to
the accounts that it began with. -/
def ground (evm : EVMImpl) (fit : evm.Fit) {bound : Nat} (small : bound < 2 ^ 256)
    (base : State) : Ground where
  db := evm.db
  isSpuriousDragonEnabled := true
  good := Bytecode.Fit
  newGood := Bytecode.new_fit
  basicGood := fit.basicFit
  codeByHashGood := fit.codeByHashFit
  bound := bound
  small := small
  base := base

section Journal

variable {ground : Ground} {below : List (JournalCheckpoint × JournaledState)} {data : EVMData}
  {ε α : Type} {allowed : ε → Prop} {checkpoint : JournalCheckpoint} {snapshot : JournaledState}

theorem attempt_settles {act : Journaled ε α}
    (sound : Sound ground ⟨data.journaledState, below⟩)
    (journals : Journals ground.toSetting (Execution.origins ground ⟨data.journaledState, below⟩)
      False act data.journaledState allowed) :
    Act.Returns (attempt act) data
      (fun answer next => Settled ground below data.journaledState.state next ∧
        (∀ value, answer = .ok value →
          act data.journaledState = .returned value next.journaledState) ∧
        ∀ reason, answer = .error reason →
          act data.journaledState = .stopped reason next.journaledState) := by
  have ended := sound.journals journals
  unfold Act.Ensures at ended
  unfold Act.Returns Act.Ensures attempt
  cases result : act data.journaledState with
  | returned value next =>
      rw [result] at ended
      refine ⟨⟨ended.1, ended.2⟩, ?_, fun _ other => nomatch other⟩
      intro other same
      cases same
      rfl
  | stopped reason next =>
      rw [result] at ended
      refine ⟨⟨ended.2.1, ended.2.2⟩, fun _ other => (nomatch other), ?_⟩
      intro other same
      cases same
      rfl
  | fault =>
      rw [result] at ended
      exact ended

theorem noted_settles {act : Journaled DatabaseError α} {allowed : DatabaseError → Prop}
    (sound : Sound ground ⟨data.journaledState, below⟩)
    (journals : Journals ground.toSetting (Execution.origins ground ⟨data.journaledState, below⟩)
      False act data.journaledState allowed) :
    Act.Returns (noted act) data
      (fun answer next => Settled ground below data.journaledState.state next ∧
        (∀ value, answer = some value →
          act data.journaledState = .returned value next.journaledState) ∧
        (answer = none →
          ∃ reason, act data.journaledState = .stopped reason next.journaledState)) := by
  refine Act.Returns.bind (attempt_settles sound journals) ?_
  rintro (error | value) middle ⟨settled, done, stopped⟩
  · exact ⟨⟨settled.sound, settled.loaded⟩, fun _ other => (nomatch other),
      fun _ => ⟨error, stopped error rfl⟩⟩
  · refine ⟨settled, ?_, fun other => (nomatch other)⟩
    intro other same
    cases same
    exact done value rfl

theorem perform_settles {act : Journaled Empty α}
    (sound : Sound ground ⟨data.journaledState, below⟩)
    (journals : Journals ground.toSetting (Execution.origins ground ⟨data.journaledState, below⟩)
      False act data.journaledState) :
    Act.Returns (perform act) data
      (fun value next => Settled ground below data.journaledState.state next ∧
        act data.journaledState = .returned value next.journaledState) := by
  have ended := sound.journals journals
  unfold Act.Ensures at ended
  unfold Act.Returns Act.Ensures perform
  cases result : act data.journaledState with
  | returned value next =>
      rw [result] at ended
      exact ⟨⟨ended.1, ended.2⟩, rfl⟩
  | stopped reason next => exact nomatch reason
  | fault =>
      rw [result] at ended
      exact ended

theorem checkpoint_opens (sound : Sound ground ⟨data.journaledState, below⟩) :
    Act.Returns (perform JournaledState.checkpoint) data
      (fun checkpoint next => Settled ground ((checkpoint, data.journaledState) :: below)
        data.journaledState.state next) :=
  ⟨sound.checkpoint, fun _ known => known⟩

theorem commit_settles
    (sound : Sound ground ⟨data.journaledState, (checkpoint, snapshot) :: below⟩) :
    Act.Returns (perform JournaledState.checkpointCommit) data
      (fun _ next => Settled ground below snapshot.state next ∧
        next.journaledState.state = data.journaledState.state) := by
  unfold Act.Returns Act.Ensures perform
  rw [JournaledState.checkpointCommit, leave_apply sound.deep]
  exact ⟨⟨sound.commit, fun address => (sound.stacked.2.1.kept address).loaded⟩, rfl⟩

theorem revert_closes
    (sound : Sound ground ⟨data.journaledState, (checkpoint, snapshot) :: below⟩) :
    Act.Returns (perform (JournaledState.checkpointRevert checkpoint)) data
      (fun _ next => ∀ reason, Closed ground below snapshot.state reason next) := by
  obtain ⟨back, result, alike, after⟩ := sound.revert
  unfold Act.Returns Act.Ensures perform
  rw [result Empty]
  exact fun reason => ⟨⟨after, fun address => (Setting.Kept.of_alike alike address).loaded⟩,
    fun _ => alike⟩

end Journal

section Requests

variable {evm : EVMImpl} {fit : evm.Fit} {bound : Nat} {small : bound < 2 ^ 256} {base : State}
  {below : List (JournalCheckpoint × JournaledState)} {data : EVMData} {address : Address}

theorem loadAccount_settles
    (sound : Sound (evm.ground fit small base) ⟨data.journaledState, below⟩) :
    Act.Returns (evm.loadAccount address) data
      (fun _ next => Settled (evm.ground fit small base) below data.journaledState.state next) :=
  (noted_settles sound JournaledState.loadAccountExist_journals).mono
    fun _ _ ended => ended.1

theorem balance_settles
    (sound : Sound (evm.ground fit small base) ⟨data.journaledState, below⟩) :
    Act.Returns (evm.balance address) data
      (fun answer next => Settled (evm.ground fit small base) below data.journaledState.state next ∧
        (answer.isSome → (next.journaledState.state address).isSome)) := by
  refine Act.Returns.bind (noted_settles sound JournaledState.loadAccount_journals) ?_
  rintro (_ | value) next ⟨settled, done, _⟩
  · exact ⟨settled, fun some_ => by cases some_⟩
  · obtain ⟨acc, present⟩ := JournaledState.loadAccount_present (done value rfl)
    exact ⟨settled, fun _ => by rw [present]; rfl⟩

/-- Loading a code gives one that can be run, and leaves its account loaded. -/
theorem code_settles
    (sound : Sound (evm.ground fit small base) ⟨data.journaledState, below⟩) :
    Act.Returns (evm.code address) data
      (fun answer next => Settled (evm.ground fit small base) below data.journaledState.state next ∧
        ∀ code isCold, answer = some (code, isCold) →
          code.Fit ∧ (next.journaledState.state address).isSome) := by
  refine Act.Returns.bind (noted_settles sound JournaledState.loadCode_journals) ?_
  rintro (_ | ⟨acc, isCold⟩) next ⟨settled, done, _⟩
  · exact ⟨settled, fun _ _ none_ => by cases none_⟩
  · obtain ⟨present, fetched⟩ := JournaledState.loadCode_found.of_returned (done _ rfl)
    obtain ⟨code, has⟩ := Option.isSome_iff_exists.mp fetched
    dsimp only at present has ⊢
    rw [has]
    refine ⟨settled, fun other _ same => ?_⟩
    cases same
    exact ⟨settled.sound.codes.state address acc code present has, by rw [present]; rfl⟩

theorem codeHash_settles
    (sound : Sound (evm.ground fit small base) ⟨data.journaledState, below⟩) :
    Act.Returns (evm.codeHash address) data
      (fun _ next => Settled (evm.ground fit small base) below data.journaledState.state next) := by
  refine Act.Returns.bind (noted_settles sound JournaledState.loadCode_journals) ?_
  rintro (_ | ⟨acc, isCold⟩) next ⟨settled, _, _⟩
  · exact settled
  · dsimp only
    split
    · exact settled
    · split
      · exact settled
      · exact settled

end Requests

section Frames

variable {evm : EVMImpl} {inner : Host EVMData} {contract : Contract} {gasLimit : Nat}
  {isStatic : Bool} {data : EVMData} {ok : EVMData → Prop}

/-- A frame stops, and never panics. -/
theorem runFrame_ends (fits : contract.Fit) (sane : gasLimit < GAS_SANE) (ready : ok data)
    (serving : inner.Serving evm.spec contract.address isStatic ok) :
    Act.Returns (evm.runFrame inner contract gasLimit isStatic) data
      (fun ended next => FrameEnded gasLimit ended.2.1 ended.2.2 ∧ ok next) := by
  have enough : gasLimit < 0 + (gasLimit + 1) := by omega
  have ran : ∃ reason last, Interpreter.run evm.keccak256 evm.spec inner (gasLimit + 1)
      (Interpreter.new contract gasLimit isStatic data) = some (.stopped reason last) ∧
      last.Fit ok ∧ last.gas.Refunded ∧
        Interpreter.SameFrame (Interpreter.new contract gasLimit isStatic data) last :=
    Interpreter.run_ends (Interpreter.new_going fits sane ready) serving enough
  obtain ⟨reason, last, ends, fit, refunded, same⟩ := ran
  obtain ⟨output, total⟩ := fit.returnValue_total
  have short : output.length + 33 ≤ ISIZE_MAX :=
    Nat.le_trans (Nat.add_le_add_right (Interpreter.returnValue_length total) 33) fit.memory_room
  unfold Act.Returns Act.Ensures runFrame
  rw [ends]
  simp only [total]
  exact ⟨⟨fit.gas, refunded, same.2.2, short⟩, fit.serving⟩

end Frames

/-- What holds of the host of a frame that runs at an address. -/
def Standing (ground : Ground) (below : List (JournalCheckpoint × JournaledState))
    (here : Address) (data : EVMData) : Prop :=
  Sound ground ⟨data.journaledState, below⟩ ∧ (data.journaledState.state here).isSome

/-- A host for the frames on these checkpoints, wherever they run. -/
def Serves (evm : EVMImpl) (ground : Ground) (inner : Host EVMData)
    (below : List (JournalCheckpoint × JournaledState)) : Prop :=
  ∀ here isStatic, inner.Serving evm.spec here isStatic (Standing ground below here)

end EVMImpl

end Revm
