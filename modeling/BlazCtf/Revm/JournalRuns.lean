import Mathlib.Logic.Relation
import BlazCtf.Revm.JournalSound

set_option autoImplicit false

namespace Revm

open Evm Machine UndoLog

/-- What the interpreter does to the journaled state between two checkpoints. -/
inductive Command where
  | touch (address : Address)
  | setCode (address : Address) (code : Bytecode)
  | incNonce (address : Address)
  | transfer (source target : Address) (balance : U256)
  | createAccount (address : Address) (isPrecompile : Bool)
  | selfdestruct (address target : Address)
  | loadAccount (address : Address)
  | loadCode (address : Address)
  | loadAccountExist (address : Address)
  | sload (address : Address) (key : U256)
  | sstore (address : Address) (key new : U256)
  | log (entry : Log)

namespace Command

def run (db : Database) (journaled : JournaledState) : Command → Option JournaledState
  | touch address => (JournaledState.touch (ε := Unit) address journaled).left
  | setCode address code => (JournaledState.setCode (ε := Unit) address code journaled).left
  | incNonce address => (JournaledState.incNonce (ε := Unit) address journaled).left
  | transfer source target balance =>
      (JournaledState.transfer db source target balance journaled).left
  | createAccount address isPrecompile =>
      (JournaledState.createAccount db address isPrecompile journaled).left
  | selfdestruct address target => (JournaledState.selfdestruct db address target journaled).left
  | loadAccount address => (JournaledState.loadAccount db address journaled).left
  | loadCode address => (JournaledState.loadCode db address journaled).left
  | loadAccountExist address => (JournaledState.loadAccountExist db address journaled).left
  | sload address key => (JournaledState.sload db address key journaled).left
  | sstore address key new => (JournaledState.sstore db address key new journaled).left
  | log entry => (JournaledState.log (ε := Unit) entry journaled).left

/-- The accounts that the code takes to be loaded. -/
def Loaded (state : State) : Command → Prop
  | setCode address _ | incNonce address | selfdestruct address _ | sload address _
  | sstore address _ _ => (state address).isSome
  | _ => True

end Command

namespace Execution

/-- Code is only set where no state that a revert goes back to had code or a nonce. -/
def Fair (ground : Ground) (execution : Execution) : Command → Prop
  | .setCode address code => ground.good code ∧
      (¬ KeepsTouch ground.isSpuriousDragonEnabled address →
        ∀ origin ∈ execution.origins ground, ∀ old, origin address = some old →
          ¬ old.Firm ground.db)
  | _ => True

/-- Checkpoints are given up and gone back to in the order of the calls, the newest first. -/
inductive Step (ground : Ground) : Execution → Execution → Prop
  | command {journaled next : JournaledState}
      {checkpoints : List (JournalCheckpoint × JournaledState)} (command : Command)
      (fair : Fair ground ⟨journaled, checkpoints⟩ command)
      (ran : command.run ground.db journaled = some next) :
      Step ground ⟨journaled, checkpoints⟩ ⟨next, checkpoints⟩
  | checkpoint {journaled next : JournaledState} {checkpoint : JournalCheckpoint}
      {checkpoints : List (JournalCheckpoint × JournaledState)}
      (set : JournaledState.checkpoint (ε := Unit) journaled = .returned checkpoint next) :
      Step ground ⟨journaled, checkpoints⟩ ⟨next, (checkpoint, journaled) :: checkpoints⟩
  | commit {journaled next : JournaledState} {opened : JournalCheckpoint × JournaledState}
      {checkpoints : List (JournalCheckpoint × JournaledState)}
      (committed : JournaledState.checkpointCommit (ε := Unit) journaled = .returned () next) :
      Step ground ⟨journaled, opened :: checkpoints⟩ ⟨next, checkpoints⟩
  | revert {journaled next snapshot : JournaledState} {checkpoint : JournalCheckpoint}
      {checkpoints : List (JournalCheckpoint × JournaledState)}
      (reverted : JournaledState.checkpointRevert (ε := Unit) checkpoint journaled =
        .returned () next) :
      Step ground ⟨journaled, (checkpoint, snapshot) :: checkpoints⟩ ⟨next, checkpoints⟩

end Execution

/-- All the money in the database. -/
def Database.supply (db : Database) : Nat := Revm.supply db fun _ => none

/-- An execution that began without accounts is held to the money in the database. -/
def Database.ground (db : Database) (isSpuriousDragonEnabled : Bool)
    (small : db.supply < 2 ^ 256) : Ground where
  db := db
  isSpuriousDragonEnabled := isSpuriousDragonEnabled
  good _ := True
  newGood := trivial
  basicGood _ _ _ _ _ := trivial
  codeByHashGood _ _ _ := trivial
  bound := db.supply
  small := small
  base _ := none

/-- `JournaledState::new` since Spurious Dragon, `new_legacy` before. -/
def JournaledState.start (isSpuriousDragonEnabled : Bool) (numOfPrecompiles : Nat) :
    JournaledState :=
  if isSpuriousDragonEnabled then new numOfPrecompiles else newLegacy numOfPrecompiles

/-- An execution that began without accounts. -/
def Reached (db : Database) (isSpuriousDragonEnabled : Bool) (small : db.supply < 2 ^ 256)
    (execution : Execution) : Prop :=
  ∃ numOfPrecompiles, Relation.ReflTransGen
    (Execution.Step (db.ground isSpuriousDragonEnabled small))
    ⟨JournaledState.start isSpuriousDragonEnabled numOfPrecompiles, []⟩ execution

/-- `Journals.leaves` for code that may stop for every reason. -/
theorem Journals.leaves_any {α : Type} {setting : Setting} {snapshots : List State} {panics : Prop}
    {act : Journaled Unit α} {before : JournaledState} (framed : before.journal ≠ [])
    (journals : Journals setting snapshots panics act before) :
    Leaves (act before).left (Logged setting snapshots before) panics :=
  journals.leaves framed

/-- Each command logs what it does. It only panics where its account is not loaded. -/
theorem Command.leaves {ground : Ground} {journaled : JournaledState} {panics : Prop}
    {checkpoints : List (JournalCheckpoint × JournaledState)} {command : Command}
    (sound : Sound ground ⟨journaled, checkpoints⟩)
    (fair : Execution.Fair ground ⟨journaled, checkpoints⟩ command)
    (absent : ¬ command.Loaded journaled.state → panics) :
    Leaves (command.run ground.db journaled)
      (Logged ground.toSetting (Execution.origins ground ⟨journaled, checkpoints⟩) journaled)
      panics := by
  have framed : journaled.journal ≠ [] := sound.stacked.upright.framed
  have gone : ∀ {address : Address}, journaled.state address = none →
      ¬ (journaled.state address).isSome := by
    intro address unloaded loaded
    exact absurd unloaded (Option.isSome_iff_ne_none.mp loaded)
  cases command with
  | touch address =>
      exact Journals.leaves_any framed JournaledState.touch_journals
  | setCode address code =>
      exact Journals.leaves_any framed
        (JournaledState.setCode_journals (absent ∘ gone) fair.1 fair.2)
  | incNonce address =>
      exact Journals.leaves_any framed (JournaledState.incNonce_journals (absent ∘ gone))
  | transfer source target balance =>
      exact (JournaledState.transfer_journals balance sound.stacked.bounded).leaves framed
  | createAccount address isPrecompile =>
      exact (JournaledState.createAccount_journals isPrecompile sound.stacked.kept).leaves framed
  | selfdestruct address target =>
      exact (JournaledState.selfdestruct_journals (absent ∘ gone)
        sound.stacked.bounded).leaves framed
  | loadAccount address => exact JournaledState.loadAccount_journals.leaves framed
  | loadCode address => exact JournaledState.loadCode_journals.leaves framed
  | loadAccountExist address => exact JournaledState.loadAccountExist_journals.leaves framed
  | sload address key => exact (JournaledState.sload_journals key (absent ∘ gone)).leaves framed
  | sstore address key new =>
      exact (JournaledState.sstore_journals key new (absent ∘ gone)).leaves framed
  | log entry =>
      exact Journals.leaves_any framed (JournaledState.log_journals entry)

theorem Command.logged {ground : Ground} {journaled next : JournaledState}
    {checkpoints : List (JournalCheckpoint × JournaledState)} {command : Command}
    (sound : Sound ground ⟨journaled, checkpoints⟩)
    (fair : Execution.Fair ground ⟨journaled, checkpoints⟩ command)
    (ran : command.run ground.db journaled = some next) :
    Logged ground.toSetting (Execution.origins ground ⟨journaled, checkpoints⟩) journaled next := by
  have leaves := Command.leaves sound fair fun _ => trivial
  rw [ran] at leaves
  exact leaves

theorem Sound.step {ground : Ground} {execution next : Execution} (sound : Sound ground execution)
    (step : Execution.Step ground execution next) : Sound ground next := by
  cases step with
  | command command fair ran => exact sound.logged (Command.logged sound fair ran)
  | checkpoint set =>
      cases set
      exact sound.checkpoint
  | commit committed =>
      rw [JournaledState.checkpointCommit, leave_apply sound.deep] at committed
      cases committed
      exact sound.commit
  | revert reverted =>
      obtain ⟨back, result, _, after⟩ := sound.revert
      rw [result] at reverted
      cases reverted
      exact after

theorem Sound.start {ground : Ground} (isEmpty : ground.base = fun _ => none)
    (funded : supply ground.db (fun _ => none) ≤ ground.bound) (numOfPrecompiles : Nat) :
    Sound ground ⟨JournaledState.start ground.isSpuriousDragonEnabled numOfPrecompiles, []⟩ := by
  have begun : ∀ start : JournaledState, start.state = (fun _ => none) → start.journal = [[]] →
      start.depth = 0 → start.isBeforeSpuriousDragon = !ground.isSpuriousDragonEnabled →
      Sound ground ⟨start, []⟩ := by
    intro start state journal depth fork
    refine ⟨⟨⟨by rw [journal]; simp, by rw [state]; exact funded, fork⟩, depth, ?_⟩,
      Covered.of_no_marks rfl, ?_, ?_⟩
    · rw [isEmpty]
      change ground.KeptAll (fun _ => none) start.state
      rw [state]
      exact .refl _
    · intro address acc code there
      rw [show start.state address = none from congrFun state address] at there
      cases there
    · intro frame member entry inside
      rw [show (⟨start, []⟩ : Execution).journaled.journal = [[]] from journal] at member
      cases List.mem_singleton.mp member
      cases inside
  unfold JournaledState.start
  cases fork : ground.isSpuriousDragonEnabled with
  | true => exact begun _ rfl rfl rfl (by rw [fork]; rfl)
  | false => exact begun _ rfl rfl rfl (by rw [fork]; rfl)

-- a sum over all addresses is not computed
attribute [local irreducible] Revm.supply

theorem Reached.sound {db : Database} {sd : Bool} {small : db.supply < 2 ^ 256}
    {execution : Execution} (reached : Reached db sd small execution) :
    Sound (db.ground sd small) execution := by
  obtain ⟨numOfPrecompiles, run⟩ := reached
  induction run with
  | refl => exact Sound.start rfl le_rfl numOfPrecompiles
  | tail _ step sound => exact sound.step step

/-- An account with another code. -/
def recoded (acc : Account) (code : Bytecode) : Account :=
  { acc with info := { acc.info with codeHash := code.hash, code := some code } }

theorem setCode_apply {journaled : JournaledState} {address : Address} {acc : Account}
    {frame : List JournalEntry} {frames : List (List JournalEntry)} (code : Bytecode)
    (present : journaled.state address = some acc) (journal : journaled.journal = frame :: frames) :
    (JournaledState.setCode (ε := Unit) address code) journaled =
      .returned () { journaled with
        state := Function.update journaled.state address
          (some (recoded { acc with isTouched := true } code))
        journal := (.codeChange address code ::
          ((if acc.isTouched then [] else [.accountTouched address]) ++ frame)) :: frames } := by
  rw [JournaledState.setCode, Act.bind_apply, JournaledState.touchAccount_apply _ present]
  cases touched : acc.isTouched with
  | true =>
      have same : { acc with isTouched := true } = acc := by rw [← touched]
      simp only [if_true, Act.returned_andThen, Act.bind_apply,
        JournaledState.account_apply _ present, JournaledState.push, journal,
        JournaledState.putAccount, Act.modify_apply, same]
      rfl
  | false =>
      simp only [Bool.false_eq_true, if_false, JournaledState.push, journal, Act.returned_andThen,
        JournaledState.putAccount, Act.modify_apply, Act.bind_apply, JournaledState.account,
        Act.get_apply, Function.update_self, Act.unwrap_some, Act.pure_apply,
        Function.update_idem]
      rfl

/-- What `Fair` asks of `setCode` is needed: the entry holds the new code, so a revert leaves an
account that was there with the new code instead of its own. -/
theorem setCode_not_reverted {journaled : JournaledState} {address : Address} {acc : Account}
    (code : Bytecode) (present : journaled.state address = some acc)
    (ordinary : ¬ KeepsTouch (!journaled.isBeforeSpuriousDragon) address) :
    (do
      let checkpoint ← JournaledState.checkpoint
      JournaledState.setCode address code
      JournaledState.checkpointRevert checkpoint : Journaled Unit Unit) journaled =
      .returned () { journaled with
        state := Function.update journaled.state address (some (recoded acc code)) } := by
  have set : JournaledState.setCode (ε := Unit) address code { journaled with
      depth := journaled.depth + 1, journal := [] :: journaled.journal } = _ :=
    setCode_apply code present rfl
  have undone : rewind (JournaledState.undo !journaled.isBeforeSpuriousDragon)
      (.codeChange address code ::
        ((if acc.isTouched then [] else [.accountTouched address]) ++ []))
      (Function.update journaled.state address
        (some (recoded { acc with isTouched := true } code))) =
      some (Function.update journaled.state address (some (recoded acc code))) := by
    have code_ := JournaledState.change_total (fun acc => recoded acc code)
      (Function.update_self address (some (recoded { acc with isTouched := true } code))
        journaled.state)
    rw [Function.update_idem] at code_
    rw [rewind_cons]
    refine (congrArg (Option.bind · _) code_).trans ?_
    rw [Option.bind_some]
    cases touched : acc.isTouched with
    | true =>
        have same : { acc with isTouched := true } = acc := by rw [← touched]
        rw [same]
        rfl
    | false =>
        have untouch := JournaledState.change_total (fun acc => { acc with isTouched := false })
          (Function.update_self address (some (recoded { acc with isTouched := true } code))
            journaled.state)
        rw [Function.update_idem] at untouch
        have back : recoded acc code = { recoded acc code with isTouched := false } := by
          rw [← touched]
          rfl
        rw [back]
        refine (congrArg (Option.bind · _) ?_).trans (Option.bind_some _ _)
        exact (if_neg ordinary).trans untouch
  rw [Act.bind_apply, checkpoint_apply, Act.returned_andThen, Act.bind_apply, set,
    Act.returned_andThen, checkpointRevert_apply (Nat.succ_ne_zero _) (Nat.le_succ _)
      ((congrArg (rewind _ · _) (since_top _ _)).trans undone)]
  simp only [List.length_cons, Nat.add_sub_cancel_left, Nat.add_sub_cancel, List.drop_one,
    List.tail_cons, List.take_length]

section Runs

variable {db : Database} {sd : Bool} {small : db.supply < 2 ^ 256} {execution : Execution}

/-- Going back to the newest open checkpoint never panics, and brings back what it was set in. -/
theorem checkpointRevert_restores {journaled snapshot : JournaledState}
    {checkpoint : JournalCheckpoint} {below : List (JournalCheckpoint × JournaledState)}
    (reached : Reached db sd small ⟨journaled, (checkpoint, snapshot) :: below⟩) :
    ∃ after : JournaledState,
      JournaledState.checkpointRevert (ε := Unit) checkpoint journaled = .returned () after ∧
      after.logs = snapshot.logs ∧ after.journal = snapshot.journal ∧
      after.depth = snapshot.depth ∧ Restored db sd snapshot.state after.state := by
  obtain ⟨back, result, alike, _⟩ := reached.sound.revert
  exact ⟨_, result Unit, rfl, rfl, rfl, Setting.restored alike⟩

/-- A database with one account of 100. -/
def purse : Database where
  basic address :=
    some (if address = 1 then some ⟨100, 0, KECCAK_EMPTY, none⟩ else none)
  codeByHash _ := some Bytecode.new
  storage _ _ := some 0
  blockHash _ := some 0

theorem purse_supply : purse.supply = 100 := by
  have single : ∀ address : Address,
      balanceAt purse (fun _ => none) address = if address = 1 then 100 else 0 := by
    intro address
    by_cases one : address = 1
    · subst one
      rfl
    · simp only [balanceAt, Option.getD_none, Database.fresh, purse, if_neg one, Option.getD_some]
      rfl
  unfold Database.supply supply
  rw [Finset.sum_congr rfl fun address _ => single address, Finset.sum_ite_eq' Finset.univ 1]
  exact if_pos (Finset.mem_univ _)

/-- The account is loaded, and in a checkpoint pays 5 to an address that nobody has seen. -/
def purseLoaded : JournaledState :=
  (Command.run purse (JournaledState.new 3) (.loadAccount 1)).getD (JournaledState.new 3)

def purseOpened : JournaledState :=
  { purseLoaded with depth := 1, journal := [] :: purseLoaded.journal }

def purseSpent : JournaledState :=
  (Command.run purse purseOpened (.transfer 1 2 5)).getD purseOpened

theorem purse_small : purse.supply < 2 ^ 256 := by
  rw [purse_supply]
  decide

theorem purse_reached :
    Reached purse true purse_small ⟨purseSpent, [(⟨0, 1⟩, purseLoaded)]⟩ := by
  refine ⟨3, ?_⟩
  have loaded : Execution.Step (purse.ground true purse_small) ⟨JournaledState.start true 3, []⟩
      ⟨purseLoaded, []⟩ := .command (.loadAccount 1) trivial rfl
  have opened : Execution.Step (purse.ground true purse_small) ⟨purseLoaded, []⟩
      ⟨purseOpened, [(⟨0, 1⟩, purseLoaded)]⟩ := .checkpoint rfl
  have spent : Execution.Step (purse.ground true purse_small) ⟨purseOpened, [(⟨0, 1⟩, purseLoaded)]⟩
      ⟨purseSpent, [(⟨0, 1⟩, purseLoaded)]⟩ := .command (.transfer 1 2 5) trivial rfl
  exact ((Relation.ReflTransGen.single loaded).tail opened).tail spent

theorem checkpointRevert_restores_payment :
    (purseSpent.state 2).map (fun acc => acc.info.balance) = some 5 ∧
    ∃ after : JournaledState,
      JournaledState.checkpointRevert (ε := Unit) ⟨0, 1⟩ purseSpent = .returned () after ∧
      (after.state 1).map (fun acc => acc.info.balance) = some 100 ∧ after.state 2 = none := by
  obtain ⟨after, reverted, _, _, _, restored⟩ := checkpointRevert_restores purse_reached
  refine ⟨rfl, after, reverted, ?_, ?_⟩
  · have ordinary : ¬ KeepsTouch true 1 := fun special => absurd special.2 (by decide)
    have back := congrArg (Option.map AccountView.balance) (restored.books 1 ordinary)
    rw [Option.map_map, Option.map_map] at back
    exact back
  · have ordinary : ¬ KeepsTouch true 2 := fun special => absurd special.2 (by decide)
    exact Option.map_eq_none_iff.mp (restored.books 2 ordinary)

/-- A command whose account is loaded never panics, and the execution goes on. -/
theorem command_never_panics (reached : Reached db sd small execution) (command : Command)
    (fair : Execution.Fair (db.ground sd small) execution command)
    (loaded : command.Loaded execution.journaled.state) :
    ∃ next, command.run db execution.journaled = some next ∧
      Reached db sd small ⟨next, execution.checkpoints⟩ := by
  have leaves := Command.leaves reached.sound fair fun absent => absent loaded
  cases ran : command.run db execution.journaled with
  | none =>
      rw [show (db.ground sd small).db = db from rfl, ran] at leaves
      exact leaves.elim
  | some next =>
      obtain ⟨numOfPrecompiles, run⟩ := reached
      exact ⟨next, rfl, numOfPrecompiles, run.tail (.command command fair ran)⟩

theorem command_never_panics_store :
    ∃ next, Command.run purse purseSpent (.sstore 1 0 7) = some next ∧
      Reached purse true purse_small ⟨next, [(⟨0, 1⟩, purseLoaded)]⟩ :=
  command_never_panics purse_reached (.sstore 1 0 7) trivial rfl

/-- In every run, reverts included, the balances together never exceed what the database began
with. -/
theorem supply_never_grows (reached : Reached db sd small execution) :
    supply db execution.journaled.state ≤ db.supply := reached.sound.stacked.upright.funded

theorem supply_never_grows_payment : supply purse purseSpent.state ≤ 100 := by
  have bounded := supply_never_grows purse_reached
  rwa [purse_supply] at bounded

/-- The balance of the target is always large enough for what is paid to it, so the source never
loses money without the journal knowing. -/
theorem transfer_never_overflows (reached : Reached db sd small execution)
    (source target : Address) (balance : U256) (after : JournaledState) :
    JournaledState.transfer db source target balance execution.journaled ≠
      .stopped .overflowPayment after := by
  intro stopped
  have sound := reached.sound
  have bounded : supply db execution.journaled.state < 2 ^ 256 :=
    Nat.lt_of_le_of_lt sound.stacked.upright.funded small
  have journals : Journals (db.ground sd small).toSetting [] True
      (JournaledState.transfer db source target balance) execution.journaled _ :=
    JournaledState.transfer_journals balance bounded
  have allowed := (Act.Ensures.of_stopped (journals fun _ => trivial) stopped).1
  rcases allowed with other | ⟨other, _⟩ <;> cases other

theorem transfer_never_overflows_payment :
    JournaledState.transfer purse 1 2 7 purseSpent ≠ .stopped .overflowPayment purseSpent :=
  transfer_never_overflows purse_reached 1 2 7 purseSpent

theorem setCode_not_reverted_purse :
    (do
      let checkpoint ← JournaledState.checkpoint
      JournaledState.setCode 1 Bytecode.new
      JournaledState.checkpointRevert checkpoint : Journaled Unit Unit) purseLoaded =
      .returned () { purseLoaded with
        state := Function.update purseLoaded.state 1
          (some (recoded (purse.fresh 1) Bytecode.new)) } :=
  setCode_not_reverted Bytecode.new rfl fun special => absurd special.2 (by decide)

end Runs

end Revm
