import BlazCtf.Revm.EvmFrames

set_option autoImplicit false

namespace Revm

open Evm Machine UndoLog

namespace EVMImpl

section Calls

variable {evm : EVMImpl} {inner : Host EVMData} {data : EVMData} {fit : evm.Fit} {bound : Nat}
  {small : bound < 2 ^ 256} {base : State}
  {below : List (JournalCheckpoint × JournaledState)} {checkpoint : JournalCheckpoint}
  {snapshot : JournaledState}

theorem closeFrame_closes (exitReason : InstructionResult)
    (sound : Sound (evm.ground fit small base)
      ⟨data.journaledState, (checkpoint, snapshot) :: below⟩) :
    Act.Returns (closeFrame checkpoint exitReason) data
      (fun _ next => Closed (evm.ground fit small base) below snapshot.state exitReason next) := by
  unfold closeFrame
  split
  · rename_i success
    refine (commit_settles sound).mono fun _ _ ended => ⟨ended.1, fun failed => ?_⟩
    rw [success] at failed
    cases failed
  · exact (revert_closes sound).mono fun _ _ closed => closed exitReason

theorem touchCallee_settles {inputs : CallInputs}
    (sound : Sound (evm.ground fit small base) ⟨data.journaledState, below⟩) :
    Act.Returns (evm.touchCallee inputs) data
      (fun _ next => Settled (evm.ground fit small base) below data.journaledState.state next) := by
  unfold touchCallee
  split
  · refine Act.Returns.bind (loadAccount_settles sound) ?_
    intro _ middle loaded
    exact (perform_settles loaded.sound
      JournaledState.touch_journals).mono fun _ _ ended => loaded.trans ended.1
  · exact .refl sound

theorem callPrecompile_closes {inputs : CallInputs} (sane : inputs.gasLimit < GAS_SANE)
    (out : Except PrecompileError (Nat × Bytes))
    (sound : Sound (evm.ground fit small base)
      ⟨data.journaledState, (checkpoint, snapshot) :: below⟩) :
    Act.Returns (callPrecompile inputs checkpoint out) data
      (fun answer next => Closed (evm.ground fit small base) below snapshot.state answer.1 next ∧
        GasReturned inputs.gasLimit answer.2.1) := by
  have fresh : (Gas.new inputs.gasLimit).Sound := Gas.new_sound (Nat.lt_trans sane (by decide))
  have unrefunded := (Gas.new_refundable inputs.gasLimit).refunded
  cases out with
  | error error =>
      exact Act.Returns.bind (revert_closes sound) fun _ _ closed =>
        ⟨closed _, fresh.returned unrefunded⟩
  | ok value =>
      obtain ⟨gasUsed, output⟩ := value
      obtain ⟨gas, covered, recorded, gasSound, refunded, limit⟩ :=
        fresh.afterCost unrefunded gasUsed
      have back : GasReturned inputs.gasLimit gas := by
        have returned := gasSound.returned refunded
        rw [limit] at returned
        exact returned
      unfold callPrecompile
      simp only [recorded, Act.unwrap_some, pure_bind]
      cases covered with
      | true =>
          exact Act.Returns.bind (commit_settles sound) fun _ _ ended =>
            ⟨⟨ended.1, fun failed => by cases failed⟩, back⟩
      | false =>
          exact Act.Returns.bind (revert_closes sound) fun _ _ closed => ⟨closed _, back⟩

theorem callContract_closes {inputs : CallInputs} {bytecode : Bytecode}
    (sane : inputs.gasLimit < GAS_SANE) (short : inputs.input.length ≤ ISIZE_MAX)
    (good : bytecode.Fit)
    (sound : Sound (evm.ground fit small base)
      ⟨data.journaledState, (checkpoint, snapshot) :: below⟩)
    (there : (data.journaledState.state inputs.context.address).isSome)
    (serves : evm.Serves (evm.ground fit small base) inner ((checkpoint, snapshot) :: below)) :
    Act.Returns (evm.callContract inner inputs checkpoint bytecode) data
      (fun answer next => Closed (evm.ground fit small base) below snapshot.state answer.1 next ∧
        GasReturned inputs.gasLimit answer.2.1) := by
  obtain ⟨contract, made, fits, at_⟩ := Contract.new_fits good short inputs.context.address
    inputs.context.caller inputs.context.apparentValue
  have serving := serves contract.address inputs.isStatic
  unfold callContract
  simp only [made, Act.unwrap_some, pure_bind]
  refine Act.Returns.bind (runFrame_ends fits sane ⟨sound, at_ ▸ there⟩ serving) ?_
  rintro ⟨exitReason, gas, output⟩ last ⟨ended, standing⟩
  exact Act.Returns.bind (closeFrame_closes exitReason standing.1) fun _ _ closed =>
    ⟨closed, ended.returned⟩

/-- A call ends, on whatever depth, and never panics. -/
theorem callInner_settles {inputs : CallInputs} (sane : inputs.gasLimit < GAS_SANE)
    (short : inputs.input.length ≤ ISIZE_MAX)
    (sound : Sound (evm.ground fit small base) ⟨data.journaledState, below⟩)
    (there : inputs.context.address = inputs.contract ∨
      (data.journaledState.state inputs.context.address).isSome)
    (serves : below.length ≤ CALL_STACK_LIMIT → ∀ opened,
      evm.Serves (evm.ground fit small base) inner (opened :: below)) :
    Act.Returns (evm.callInner inner inputs) data
      (fun answer next => Settled (evm.ground fit small base) below data.journaledState.state next ∧
        GasReturned inputs.gasLimit answer.2.1 ∧
        ∃ asked coded, evm.code inputs.contract data = .returned asked coded ∧
          Closed (evm.ground fit small base) below coded.journaledState.state answer.1 next) := by
  have fresh : GasReturned inputs.gasLimit (Gas.new inputs.gasLimit) :=
    Interpreter.gasReturned_new inputs.gasLimit
  refine Act.Returns.bind (code_settles sound).traced ?_
  rintro (_ | ⟨bytecode, isCold⟩) coded ⟨⟨early, found⟩, asked⟩
  · exact ⟨early, fresh, _, coded, asked, .refl early.sound⟩
  obtain ⟨good, present⟩ := found bytecode isCold rfl
  apply Act.Ensures.bind
  apply Act.ensures_get
  split
  · exact ⟨early, fresh, _, coded, asked, .refl early.sound⟩
  rename_i shallow
  have depth : coded.journaledState.depth = below.length := early.sound.stacked.depth_eq
  have serves := serves (depth ▸ Nat.le_of_not_lt shallow)
  have here : (coded.journaledState.state inputs.context.address).isSome := by
    rcases there with same | known
    · rw [same]
      exact present
    · exact early.loaded _ known
  refine Act.Returns.bind (checkpoint_opens early.sound) ?_
  intro checkpoint opened entered
  refine Act.Returns.bind (touchCallee_settles entered.sound) ?_
  intro _ touched touches
  refine Act.Returns.bind (attempt_settles touches.sound
    (JournaledState.transfer_journals inputs.transfer.value touches.sound.stacked.bounded)) ?_
  rintro (reason | value) paid ⟨pays, _, _⟩
  · exact Act.Returns.bind (revert_closes pays.sound) fun _ _ closed =>
      ⟨early.trans (closed reason).toSettled, fresh, _, coded, asked,
        closed reason⟩
  have inside := (entered.trans touches).trans pays
  dsimp only
  cases evm.precompiles inputs.contract with
  | some precompile =>
      exact (callPrecompile_closes sane _ inside.sound).mono
        fun _ _ ended => ⟨early.trans ended.1.toSettled, ended.2, _, coded, asked, ended.1⟩
  | none =>
      exact (callContract_closes sane short good inside.sound (inside.loaded _ here)
        (serves _)).mono
        fun _ _ ended => ⟨early.trans ended.1.toSettled, ended.2, _, coded, asked, ended.1⟩

end Calls

section Creations

variable {evm : EVMImpl} {inner : Host EVMData} {data : EVMData} {fit : evm.Fit} {bound : Nat}
  {small : bound < 2 ^ 256} {base : State}
  {below : List (JournalCheckpoint × JournaledState)} {checkpoint : JournalCheckpoint}
  {snapshot : JournaledState} {created : Address} {gasLimit : Nat} {gas : Gas} {bytes : Bytes}

/-- No state that a revert may go back to has a nonce or code at this address. -/
def Free (ground : Ground) (below : List (JournalCheckpoint × JournaledState))
    (created : Address) : Prop :=
  ¬ KeepsTouch ground.isSpuriousDragonEnabled created →
    ∀ origin ∈ below.map (fun opened => opened.2.state) ++ [ground.base],
      ∀ old, origin created = some old → ¬ old.Firm ground.db

theorem keepCode_settles (short : bytes.length + 33 ≤ ISIZE_MAX)
    (sound : Sound (evm.ground fit small base)
      ⟨data.journaledState, (checkpoint, snapshot) :: below⟩)
    (there : (data.journaledState.state created).isSome)
    (free : Free (evm.ground fit small base) below created) :
    Act.Returns (evm.keepCode created gas bytes) data
      (fun answer next => Settled (evm.ground fit small base) below snapshot.state next ∧
        answer.2.2.1 = gas) := by
  refine Act.Returns.bind (commit_settles sound) ?_
  rintro _ committed ⟨settled, same⟩
  rw [← same] at there
  apply Act.Ensures.bind
  refine (perform_settles settled.sound
    (JournaledState.setCode_journals (fun gone => absurd gone (Option.isSome_iff_ne_none.mp there))
      (analysed_fit short) free)).mono
    fun _ _ ended => ⟨settled.trans ended.1, rfl⟩

theorem depositCode_settles (ended : FrameEnded gasLimit gas bytes)
    (sound : Sound (evm.ground fit small base)
      ⟨data.journaledState, (checkpoint, snapshot) :: below⟩)
    (there : (data.journaledState.state created).isSome)
    (free : Free (evm.ground fit small base) below created) :
    Act.Returns (evm.depositCode checkpoint created gas bytes) data
      (fun answer next => Settled (evm.ground fit small base) below snapshot.state next ∧
        GasReturned gasLimit answer.2.2.1) := by
  unfold depositCode
  split
  · exact Act.Returns.bind (revert_closes sound) fun _ _ closed =>
      ⟨(closed .revert).toSettled, ended.returned⟩
  split
  · exact Act.Returns.bind (revert_closes sound) fun _ _ closed =>
      ⟨(closed .revert).toSettled, ended.returned⟩
  rename_i within
  have small_ : bytes.length ≤ 2 ^ 56 := by
    rw [fit.isSpuriousDragonEnabled, Bool.true_and, decide_eq_true_iff, not_lt] at within
    exact within.trans fit.limited
  have cost : mulU64 bytes.length Gas.CODEDEPOSIT = some (bytes.length * Gas.CODEDEPOSIT) := by
    unfold mulU64
    rw [if_pos]
    unfold Gas.CODEDEPOSIT U64_MAX
    omega
  obtain ⟨paid, covered, recorded, sound_, refunded, limit⟩ :=
    ended.sound.afterCost ended.refunded (bytes.length * Gas.CODEDEPOSIT)
  have back : GasReturned gasLimit paid := by
    have returned := sound_.returned refunded
    rw [limit, ended.limit] at returned
    exact returned
  simp only [cost, recorded, Act.unwrap_some, pure_bind]
  split
  · refine (keepCode_settles ended.short sound there free).mono ?_
    rintro ⟨_, _, left, _⟩ next ⟨settled, same⟩
    exact ⟨settled, same ▸ back⟩
  split
  · exact Act.Returns.bind (revert_closes sound) fun _ _ closed =>
      ⟨(closed .revert).toSettled, back⟩
  · refine (keepCode_settles (by decide) sound there free).mono ?_
    rintro ⟨_, _, left, _⟩ next ⟨settled, same⟩
    exact ⟨settled, same ▸ back⟩

theorem runInitCode_settles {inputs : CreateInputs} (sane : inputs.gasLimit < GAS_SANE)
    (short : inputs.initCode.length ≤ ISIZE_MAX)
    (sound : Sound (evm.ground fit small base)
      ⟨data.journaledState, (checkpoint, snapshot) :: below⟩)
    (there : (data.journaledState.state created).isSome)
    (free : Free (evm.ground fit small base) below created)
    (serves : evm.Serves (evm.ground fit small base) inner ((checkpoint, snapshot) :: below)) :
    Act.Returns (evm.runInitCode inner inputs checkpoint created) data
      (fun answer next => Settled (evm.ground fit small base) below snapshot.state next ∧
        GasReturned inputs.gasLimit answer.2.2.1) := by
  have good : (Bytecode.newRaw evm.keccak256 inputs.initCode).Fit :=
    ⟨Bytecode.newRaw_wellFormed evm.keccak256 inputs.initCode, short⟩
  have none_ : ([] : Bytes).length ≤ ISIZE_MAX := Nat.zero_le _
  obtain ⟨contract, made, fits, at_⟩ :=
    Contract.new_fits good none_ created inputs.caller inputs.value
  unfold runInitCode
  simp only [made, Act.unwrap_some, pure_bind]
  refine Act.Returns.bind (runFrame_ends fits sane ⟨sound, at_ ▸ there⟩
    (serves contract.address false)) ?_
  rintro ⟨exitReason, gas, bytes⟩ last ⟨ended, standing, here⟩
  dsimp only at ended ⊢
  split
  · exact depositCode_settles ended standing (at_ ▸ here) free
  · exact Act.Returns.bind (revert_closes standing) fun _ _ closed =>
      ⟨(closed .revert).toSettled, ended.returned⟩

theorem createAt_settles {inputs : CreateInputs} (sane : inputs.gasLimit < GAS_SANE)
    (short : inputs.initCode.length ≤ ISIZE_MAX)
    (sound : Sound (evm.ground fit small base) ⟨data.journaledState, below⟩)
    (serves : ∀ opened, evm.Serves (evm.ground fit small base) inner (opened :: below)) :
    Act.Returns (evm.createAt inner inputs created) data
      (fun answer next => Settled (evm.ground fit small base) below data.journaledState.state next ∧
        GasReturned inputs.gasLimit answer.2.2.1) := by
  have fresh : GasReturned inputs.gasLimit (Gas.new inputs.gasLimit) :=
    Interpreter.gasReturned_new inputs.gasLimit
  refine Act.Returns.bind (loadAccount_settles sound) ?_
  intro _ loaded early
  refine Act.Returns.bind (checkpoint_opens early.sound) ?_
  intro checkpoint opened entered
  refine Act.Returns.bind (noted_settles entered.sound (JournaledState.createAccount_journals _
    entered.sound.stacked.kept)) ?_
  rintro (_ | made) cleared ⟨clears, done, failed⟩
  · obtain ⟨reason, stopped⟩ := failed rfl
    exact ((JournaledState.createAccount_answers fit.answers _).of_stopped stopped).elim
  have inside := entered.trans clears
  cases made with
  | false =>
      exact Act.Returns.bind (revert_closes clears.sound) fun _ _ closed =>
        ⟨early.trans (closed .revert).toSettled, fresh⟩
  | true =>
      obtain ⟨there, free⟩ := (JournaledState.createAccount_made
        (evm.precompiles created).isSome entered.sound.stacked.kept).of_returned
        (done true rfl) rfl
      have free : Free (evm.ground fit small base) below created :=
        fun ordinary origin member => free ordinary origin (List.mem_cons_of_mem _ member)
      refine Act.Returns.bind (attempt_settles clears.sound
        (JournaledState.transfer_journals inputs.value clears.sound.stacked.bounded)) ?_
      rintro (reason | value) paid ⟨pays, _, _⟩
      · exact Act.Returns.bind (revert_closes pays.sound) fun _ _ closed =>
          ⟨early.trans (closed .revert).toSettled, fresh⟩
      have here := pays.loaded created there
      dsimp only
      rw [if_pos fit.isSpuriousDragonEnabled]
      refine Act.Returns.bind (perform_settles pays.sound
        (JournaledState.incNonce_journals fun gone =>
          absurd gone (Option.isSome_iff_ne_none.mp here))) ?_
      rintro (_ | nonce) counted ⟨counts, _⟩
      · exact Act.Returns.bind (revert_closes counts.sound) fun _ _ closed =>
          ⟨early.trans (closed .revert).toSettled, fresh⟩
      · exact (runInitCode_settles sane short counts.sound (counts.loaded created here)
          free (serves _)).mono fun _ _ ended => ⟨early.trans ended.1, ended.2⟩

/-- A creation ends, on whatever depth, and never panics. -/
theorem createInner_settles {inputs : CreateInputs} (sane : inputs.gasLimit < GAS_SANE)
    (short : inputs.initCode.length ≤ ISIZE_MAX)
    (sound : Sound (evm.ground fit small base) ⟨data.journaledState, below⟩)
    (serves : below.length ≤ CALL_STACK_LIMIT → ∀ opened,
      evm.Serves (evm.ground fit small base) inner (opened :: below)) :
    Act.Returns (evm.createInner inner inputs) data
      (fun answer next => Settled (evm.ground fit small base) below data.journaledState.state next ∧
        GasReturned inputs.gasLimit answer.2.2.1) := by
  have fresh : GasReturned inputs.gasLimit (Gas.new inputs.gasLimit) :=
    Interpreter.gasReturned_new inputs.gasLimit
  refine Act.Returns.bind (loadAccount_settles sound) ?_
  intro _ loaded early
  apply Act.Ensures.bind
  apply Act.ensures_get
  split
  · exact ⟨early, fresh⟩
  rename_i shallow
  have depth : loaded.journaledState.depth = below.length := early.sound.stacked.depth_eq
  have serves := serves (depth ▸ Nat.le_of_not_lt shallow)
  refine Act.Returns.bind (balance_settles early.sound) ?_
  rintro (_ | ⟨balance, isCold⟩) asked ⟨asks, present⟩
  · exact ⟨early.trans asks, fresh⟩
  have here := present rfl
  dsimp only
  split
  · exact ⟨early.trans asks, fresh⟩
  refine Act.Returns.bind (perform_settles asks.sound
    (JournaledState.incNonce_journals fun gone =>
      absurd gone (Option.isSome_iff_ne_none.mp here))) ?_
  rintro (_ | nonce) counted ⟨counts, _⟩
  · exact ⟨(early.trans asks).trans counts, fresh⟩
  dsimp only
  cases inputs.scheme with
  | create =>
      exact (createAt_settles sane short counts.sound serves).mono
        fun _ _ ended => ⟨((early.trans asks).trans counts).trans ended.1, ended.2⟩
  | create2 salt =>
      exact (createAt_settles sane short counts.sound serves).mono
        fun _ _ ended => ⟨((early.trans asks).trans counts).trans ended.1, ended.2⟩

end Creations

section Hosts

variable {evm : EVMImpl} {inner : Host EVMData} {data : EVMData} {fit : evm.Fit} {bound : Nat}
  {small : bound < 2 ^ 256} {base : State}
  {below : List (JournalCheckpoint × JournaledState)} {here : Address}

/-- What settles on its checkpoints leaves the account of the frame loaded. -/
theorem Standing.served {α : Type} {act : Act EVMData Empty α} {ground : Ground}
    {expected : α → Prop} (standing : Standing ground below here data)
    (settles : Act.Returns act data
      (fun value next => Settled ground below data.journaledState.state next ∧ expected value)) :
    Served (Standing ground below here) act data expected :=
  settles.mono fun _ _ ended => ⟨⟨ended.1.sound, ended.1.loaded here standing.2⟩, ended.2⟩

theorem hostOver_serves
    (serves : below.length ≤ CALL_STACK_LIMIT → ∀ opened,
      evm.Serves (evm.ground fit small base) inner (opened :: below)) :
    evm.Serves (evm.ground fit small base) (evm.hostOver inner) below := by
  intro here isStatic
  have present : ∀ data, Standing (evm.ground fit small base) below here data →
      data.journaledState.state here = none → False := by
    intro data standing gone
    exact absurd gone (Option.isSome_iff_ne_none.mp standing.2)
  exact
    { prevrandao := fun _ _ => fit.prevrandao
      loadAccount := fun address data standing => standing.served
        ((loadAccount_settles standing.1).mono fun _ _ settled => ⟨settled, trivial⟩)
      blockHash := fun number data standing => standing.served
        ((noted_settles standing.1 (JournaledState.journals_fetch _)).mono
          fun _ _ ended => ⟨ended.1, trivial⟩)
      balance := fun address data standing => standing.served
        ((balance_settles standing.1).mono fun _ _ ended => ⟨ended.1, trivial⟩)
      code := fun address data standing => standing.served
        ((code_settles standing.1).mono
          fun _ _ ended => ⟨ended.1, fun code isCold same => (ended.2 code isCold same).1.short⟩)
      codeHash := fun address data standing => standing.served
        ((codeHash_settles standing.1).mono fun _ _ settled => ⟨settled, trivial⟩)
      sload := fun key data standing => standing.served
        ((noted_settles standing.1
          (JournaledState.sload_journals key (present data standing))).mono
          fun _ _ ended => ⟨ended.1, trivial⟩)
      sstore := fun _ key value data standing => standing.served
        ((noted_settles standing.1
          (JournaledState.sstore_journals key value (present data standing))).mono
          fun _ _ ended => ⟨ended.1, trivial⟩)
      log := fun _ topics bytes data standing => standing.served
        ((perform_settles standing.1
          (JournaledState.log_journals ⟨here, topics, bytes⟩)).mono
          fun _ _ ended => ⟨ended.1, trivial⟩)
      selfdestruct := fun _ target data standing => standing.served
        (Act.Returns.bind (noted_settles standing.1
          (JournaledState.selfdestruct_journals (present data standing)
            standing.1.stacked.bounded))
          fun _ _ ended => ⟨ended.1, trivial⟩)
      create := fun _ inputs data standing _ sane short => standing.served
        (createInner_settles sane short standing.1 serves)
      call := fun inputs data standing _ there sane short _ => standing.served
        ((callInner_settles sane short standing.1
          (there.elim (fun same => Or.inr (same ▸ standing.2)) Or.inl) serves).mono
          fun _ _ ended => ⟨ended.1, ended.2.1⟩) }

/-- The depth of calls is limited, so the host is unfolded often enough. -/
theorem host_serves (frames : Nat) (room : below.length ≤ CALL_STACK_LIMIT + 1)
    (enough : CALL_STACK_LIMIT + 2 ≤ below.length + frames) :
    evm.Serves (evm.ground fit small base) (evm.host frames) below := by
  induction frames generalizing below with
  | zero => omega
  | succ frames ih =>
      apply hostOver_serves
      intro shallow opened
      apply ih
      · rw [List.length_cons]
        omega
      · rw [List.length_cons]
        omega

end Hosts

end EVMImpl

end Revm
