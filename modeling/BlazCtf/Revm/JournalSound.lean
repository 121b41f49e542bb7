import BlazCtf.Revm.JournalSteps

set_option autoImplicit false

namespace Revm

open Evm Machine UndoLog

/-- A journaled state and its open checkpoints, the newest first, each with the state it was set
in. -/
structure Execution where
  journaled : JournaledState
  checkpoints : List (JournalCheckpoint × JournaledState)

/-- What an execution is held to: a setting, all the money there may be, which is less than a
balance can hold, and the accounts that no checkpoint goes back behind. -/
structure Ground extends Setting where
  bound : Nat
  small : bound < 2 ^ 256
  base : State

namespace Execution

/-- The states that something is still compared with. -/
def origins (ground : Ground) (execution : Execution) : List State :=
  execution.checkpoints.map (fun opened => opened.2.state) ++ [ground.base]

def session (execution : Execution) : Session State JournalEntry where
  state := execution.journaled.state
  frames := execution.journaled.journal
  marks := execution.checkpoints.map fun opened => (opened.1.journalI, opened.2.state)

end Execution

/-- What holds of a journaled state by itself. -/
structure Upright (ground : Ground) (journaled : JournaledState) : Prop where
  framed : journaled.journal ≠ []
  funded : supply ground.db journaled.state ≤ ground.bound
  fork : journaled.isBeforeSpuriousDragon = !ground.isSpuriousDragonEnabled

/-- A journaled state goes on from the one in which its newest checkpoint was set. -/
structure Above (ground : Ground) (checkpoint : JournalCheckpoint)
    (snapshot top : JournaledState) : Prop where
  depth : top.depth = snapshot.depth + 1
  kept : ground.KeptAll snapshot.state top.state
  logI : checkpoint.logI = snapshot.logs.length
  logs : snapshot.logs <+: top.logs
  journalI : checkpoint.journalI = snapshot.journal.length
  journal : snapshot.journal <:+ top.journal.tail

/-- What the open checkpoints know of each other. -/
def Stacked (ground : Ground) :
    JournaledState → List (JournalCheckpoint × JournaledState) → Prop
  | top, [] => Upright ground top ∧ top.depth = 0 ∧ ground.KeptAll ground.base top.state
  | top, (checkpoint, snapshot) :: below =>
      Upright ground top ∧ Above ground checkpoint snapshot top ∧ Stacked ground snapshot below

/-- What holds of an execution at every moment. -/
structure Sound (ground : Ground) (execution : Execution) : Prop where
  stacked : Stacked ground execution.journaled execution.checkpoints
  covered : Covered ground.undo ground.Alike execution.session
  codes : ground.CodesGood execution.journaled

section Stacked

variable {ground : Ground} {snapshots : List State} {top next snapshot : JournaledState}
  {checkpoint : JournalCheckpoint} {below : List (JournalCheckpoint × JournaledState)}

theorem record_tail (entries : List JournalEntry) (journal : List (List JournalEntry)) :
    (record entries journal).tail = journal.tail := by
  cases journal <;> rfl

theorem Stacked.upright (stacked : Stacked ground top below) : Upright ground top := by
  cases below with
  | nil => exact stacked.1
  | cons opened below => exact stacked.1

/-- No sum of balances overflows. -/
theorem Stacked.bounded (stacked : Stacked ground top below) :
    supply ground.db top.state < 2 ^ 256 :=
  Nat.lt_of_le_of_lt stacked.upright.funded ground.small

theorem Stacked.depth_eq (stacked : Stacked ground top below) : top.depth = below.length := by
  induction below generalizing top with
  | nil => exact stacked.2.1
  | cons opened below ih =>
      obtain ⟨_, above, rest⟩ := stacked
      rw [above.depth, ih rest, List.length_cons]

theorem Stacked.kept (stacked : Stacked ground top below) :
    ∀ origin ∈ Execution.origins ground ⟨top, below⟩, ground.KeptAll origin top.state := by
  induction below generalizing top with
  | nil =>
      intro origin member
      cases List.mem_singleton.mp member
      exact stacked.2.2
  | cons opened below ih =>
      obtain ⟨_, above, rest⟩ := stacked
      intro origin member
      rcases List.mem_cons.mp member with rfl | lower
      · exact above.kept
      · exact (ih rest origin lower).trans above.kept

/-- One state in the place of another that stands on the same checkpoints. -/
theorem Stacked.replace (stacked : Stacked ground top below) (upright : Upright ground next)
    (depth : next.depth = top.depth) (journal : next.journal.tail = top.journal.tail)
    (logs : top.logs <+: next.logs)
    (kept : ∀ origin ∈ Execution.origins ground ⟨top, below⟩, ground.KeptAll origin next.state) :
    Stacked ground next below := by
  cases below with
  | nil => exact ⟨upright, depth.trans stacked.2.1, kept _ List.mem_cons_self⟩
  | cons opened below =>
      obtain ⟨_, above, rest⟩ := stacked
      exact ⟨upright,
        { depth := depth.trans above.depth
          kept := kept _ List.mem_cons_self
          logI := above.logI
          logs := above.logs.trans logs
          journalI := above.journalI
          journal := journal ▸ above.journal }, rest⟩

theorem Stacked.logged (stacked : Stacked ground top below)
    (logged : Logged ground.toSetting (Execution.origins ground ⟨top, below⟩) top next) :
    Stacked ground next below := by
  have upright := stacked.upright
  have framed : next.journal ≠ [] := fun empty => upright.framed (logged.journal_nil empty)
  obtain ⟨entries, frames, _⟩ := logged.journal
  refine stacked.replace ⟨framed, logged.supply.trans upright.funded,
    logged.isBeforeSpuriousDragon.trans upright.fork⟩ logged.depth ?_ logged.logs
    fun origin member => logged.kept origin member (stacked.kept origin member)
  rw [frames, record_tail]

/-- A committed state stands on what its checkpoint stood on. -/
theorem Stacked.commit (stacked : Stacked ground top ((checkpoint, snapshot) :: below)) :
    Stacked ground { top with depth := top.depth - 1 } below := by
  obtain ⟨upright, above, rest⟩ := stacked
  have depth := above.depth
  have left : top.depth - 1 = snapshot.depth := by omega
  have still : Upright ground { top with depth := top.depth - 1 } :=
    ⟨upright.framed, upright.funded, upright.fork⟩
  cases below with
  | nil => exact ⟨still, left.trans rest.2.1, rest.2.2.trans above.kept⟩
  | cons lower below =>
      obtain ⟨_, under, deepest⟩ := rest
      exact ⟨still,
        { depth := left.trans under.depth
          kept := under.kept.trans above.kept
          logI := under.logI
          logs := under.logs.trans above.logs
          journalI := under.journalI
          journal := under.journal.trans ((List.tail_suffix _).trans above.journal) }, deepest⟩

end Stacked

section Checkpoints

variable {ground : Ground} {journaled : JournaledState}

theorem checkpoint_apply {ε : Type} :
    (JournaledState.checkpoint (ε := ε)) journaled =
      .returned ⟨journaled.logs.length, journaled.journal.length⟩
        { journaled with depth := journaled.depth + 1, journal := [] :: journaled.journal } := rfl

theorem leave_apply {ε : Type} (deep : journaled.depth ≠ 0) :
    (JournaledState.leave (ε := ε)) journaled =
      .returned () { journaled with depth := journaled.depth - 1 } := if_neg deep

theorem checkpointRevert_apply {checkpoint : JournalCheckpoint} {back : State} {ε : Type}
    (deep : journaled.depth ≠ 0) (below : checkpoint.journalI ≤ journaled.journal.length)
    (undone : rewind (JournaledState.undo !journaled.isBeforeSpuriousDragon)
      (since journaled.journal checkpoint.journalI) journaled.state = some back) :
    JournaledState.checkpointRevert (ε := ε) checkpoint journaled =
      .returned () { journaled with
        depth := journaled.depth - 1
        state := back
        logs := journaled.logs.take checkpoint.logI
        journal := journaled.journal.drop (journaled.journal.length - checkpoint.journalI) } := by
  have reverted : JournaledState.journalRevert (!journaled.isBeforeSpuriousDragon)
      (journaled.journal.take (journaled.journal.length - checkpoint.journalI)).flatten
      journaled.state = some back := by
    rw [journalRevert_eq_rewind]
    exact undone
  rw [JournaledState.checkpointRevert, Act.bind_apply, leave_apply deep, Act.returned_andThen,
    Act.bind_apply, Act.get_apply, Act.returned_andThen]
  simp only [Nat.not_lt.mpr below, if_false, pure_bind, reverted, Act.unwrap_some]
  rfl

/-- What a revert brings back of the accounts: of each the balance, the nonce and the flags, and of
one with a nonce or code all that can be told of it. Only the third precompile may stay loaded and
touched. -/
structure Restored (db : Database) (isSpuriousDragonEnabled : Bool) (snapshot back : State) :
    Prop where
  books : ∀ address, ¬ KeepsTouch isSpuriousDragonEnabled address →
    (back address).map (Recall.books.view db address) =
      (snapshot address).map (Recall.books.view db address)
  whole : ∀ address old, ¬ KeepsTouch isSpuriousDragonEnabled address →
    snapshot address = some old → old.Firm db →
      ∃ acc, back address = some acc ∧ acc.view db address = old.view db address
  untouched : ∀ address, KeepsTouch isSpuriousDragonEnabled address →
    Recall.untouched.view db address ((back address).getD (db.fresh address)) =
      Recall.untouched.view db address ((snapshot address).getD (db.fresh address))

theorem Setting.restored {setting : Setting} {snapshot back : State}
    (alike : setting.Alike snapshot back snapshot) :
    Restored setting.db setting.isSpuriousDragonEnabled snapshot back := by
  constructor
  · intro address ordinary
    have here := alike address
    unfold AlikeAt at here
    rw [if_neg ordinary] at here
    cases known : snapshot address with
    | none =>
        rw [known] at here
        have gone : back address = none := by simpa using here
        simp only [gone, Option.map_none]
    | some acc =>
        rw [known] at here
        exact here.1
  · intro address old ordinary known firm
    have here := alike address
    unfold AlikeAt at here
    rw [if_neg ordinary, known] at here
    obtain ⟨acc, there, agree⟩ := Option.map_eq_some_iff.mp (here.2 firm)
    exact ⟨acc, there, agree⟩
  · intro address special
    have here := alike address
    unfold AlikeAt at here
    rw [if_pos special] at here
    exact here.2

/-- A state that is like the snapshot has the snapshot's money. -/
theorem Setting.alike_supply {setting : Setting} {snapshot back : State}
    (alike : setting.Alike snapshot back snapshot) :
    supply setting.db back = supply setting.db snapshot := by
  have restored := setting.restored alike
  unfold supply
  apply Finset.sum_congr rfl
  intro address _
  by_cases special : KeepsTouch setting.isSpuriousDragonEnabled address
  · exact congrArg (fun view : AccountView => view.balance.toNat)
      (restored.untouched address special)
  · have here := restored.books address special
    cases known : snapshot address with
    | none =>
        rw [known, Option.map_none, Option.map_eq_none_iff] at here
        rw [balanceAt_of_none here, balanceAt_of_none known]
    | some acc =>
        rw [known] at here
        obtain ⟨other, found, agree⟩ := Option.map_eq_some_iff.mp here
        rw [balanceAt_of_some found, balanceAt_of_some known]
        exact congrArg (fun view : AccountView => view.balance.toNat) agree

end Checkpoints

/-- Every code in the accounts is good. -/
def Setting.CodesIn (setting : Setting) (state : State) : Prop :=
  ∀ address acc code, state address = some acc → acc.info.code = some code → setting.good code

section Codes

variable {setting : Setting} {state back : State} {address : Address}

theorem change_codes {with_ : Account → Option Account} (good : setting.CodesIn state)
    (changed : JournaledState.change state address with_ = some back)
    (keeps : ∀ acc new code, with_ acc = some new → new.info.code = some code →
      setting.good code ∨ acc.info.code = some code) : setting.CodesIn back := by
  intro place acc code there same
  obtain ⟨old, new, present, made, rfl⟩ := change_eq_some changed
  by_cases at_ : place = address
  · subst at_
    rw [Function.update_self] at there
    cases there
    rcases keeps old acc code made same with fine | had
    · exact fine
    · exact good place old code present had
  · rw [Function.update_of_ne at_] at there
    exact good place acc code there same

/-- A change that has nothing to do with codes. -/
theorem change_codes_kept {with_ : Account → Account} (good : setting.CodesIn state)
    (changed : JournaledState.change state address (fun acc => some (with_ acc)) = some back)
    (keeps : ∀ acc, (with_ acc).info.code = acc.info.code) : setting.CodesIn back := by
  refine change_codes good changed fun acc new code made same => Or.inr ?_
  cases made
  rw [← keeps]
  exact same

theorem undo_codes {entry : JournalEntry} (good : setting.CodesIn state)
    (goodEntry : setting.GoodEntry entry) (undone : setting.undo entry state = some back) :
    setting.CodesIn back := by
  cases entry with
  | accountLoaded address =>
      simp only [Setting.undo, JournaledState.undo] at undone
      split at undone
      · cases undone
        exact good
      · cases undone
        intro place acc code there same
        by_cases at_ : place = address
        · subst at_
          rw [Function.update_self] at there
          cases there
        · rw [Function.update_of_ne at_] at there
          exact good place acc code there same
  | accountTouched address =>
      simp only [Setting.undo, JournaledState.undo] at undone
      split at undone
      · cases undone
        exact good
      · exact change_codes_kept good undone fun _ => rfl
  | accountDestroyed address target wasDestroyed hadBalance =>
      simp only [Setting.undo, JournaledState.undo, Option.bind_eq_bind, Option.bind_eq_some_iff]
        at undone
      obtain ⟨middle, one, undone⟩ := undone
      have middleGood := change_codes_kept good one fun _ => rfl
      split at undone
      · exact change_codes_kept middleGood undone fun _ => rfl
      · cases undone
        exact middleGood
  | balanceTransfer source target balance =>
      simp only [Setting.undo, JournaledState.undo, Option.bind_eq_bind, Option.bind_eq_some_iff]
        at undone
      obtain ⟨middle, one, undone⟩ := undone
      have middleGood := change_codes_kept good one fun _ => rfl
      exact change_codes_kept middleGood undone fun _ => rfl
  | nonceChange address =>
      refine change_codes good undone fun acc new code made same => Or.inr ?_
      split at made
      · cases made
      · cases made
        exact same
  | storageChange address key hadValue =>
      refine change_codes good undone fun acc new code made same => Or.inr ?_
      cases hadValue with
      | none =>
          cases made
          exact same
      | some value =>
          obtain ⟨slot, _, rfl⟩ := Option.map_eq_some_iff.mp made
          exact same
  | codeChange address hadCode =>
      refine change_codes good undone fun acc new code made same => Or.inl ?_
      cases made
      cases same
      exact goodEntry

theorem rewind_codes (entries : List JournalEntry) (good : setting.CodesIn state)
    (goodEntries : ∀ entry ∈ entries, setting.GoodEntry entry)
    (undone : rewind setting.undo entries state = some back) : setting.CodesIn back := by
  induction entries generalizing state with
  | nil =>
      cases undone
      exact good
  | cons entry older ih =>
      rw [rewind_cons, Option.bind_eq_some_iff] at undone
      obtain ⟨middle, one, rest⟩ := undone
      exact ih (undo_codes good (goodEntries entry List.mem_cons_self) one)
        (fun other member => goodEntries other (List.mem_cons_of_mem _ member)) rest

end Codes

namespace Sound

variable {ground : Ground} {execution : Execution} {journaled next : JournaledState}
  {below : List (JournalCheckpoint × JournaledState)}

/-- What is logged is a move of the session. -/
theorem logged (sound : Sound ground ⟨journaled, below⟩)
    (logged : Logged ground.toSetting (Execution.origins ground ⟨journaled, below⟩) journaled next) :
    Sound ground ⟨next, below⟩ := by
  refine ⟨sound.stacked.logged logged, ?_, logged.codes sound.codes⟩
  obtain ⟨entries, frames, undone⟩ := logged.journal
  obtain ⟨frame, older, split⟩ := List.exists_cons_of_ne_nil sound.stacked.upright.framed
  have covered := sound.covered
  have session : Execution.session ⟨journaled, below⟩ =
      ⟨journaled.state, frame :: older, (Execution.session ⟨journaled, below⟩).marks⟩ := by
    rw [Execution.session, split]
  rw [session] at covered
  have marked : ∀ mark snapshot, (mark, snapshot) ∈ (Execution.session ⟨journaled, below⟩).marks →
      Undone ground.undo ground.Alike snapshot entries journaled.state next.state := by
    intro mark snapshot member
    obtain ⟨opened, there, at_⟩ := List.mem_map.mp member
    cases at_
    exact undone opened.2.state (List.mem_append_left _ (List.mem_map_of_mem there))
  have moved := covered.move ground.discipline (Move.record entries marked)
  have nextFrames : next.journal = (entries ++ frame) :: older := by
    rw [frames, split, record]
  rw [← nextFrames] at moved
  exact moved

/-- Code that journals what it does. -/
theorem journals {ε α : Type} {act : Journaled ε α} {allowed : ε → Prop} {faults : Prop}
    (sound : Sound ground ⟨journaled, below⟩)
    (journals : Journals ground.toSetting (Execution.origins ground ⟨journaled, below⟩) faults act
      journaled allowed) :
    Act.Ensures act journaled
      (fun _ next => Sound ground ⟨next, below⟩ ∧
        ∀ address, (journaled.state address).isSome → (next.state address).isSome)
      (fun reason next => allowed reason ∧ Sound ground ⟨next, below⟩ ∧
        ∀ address, (journaled.state address).isSome → (next.state address).isSome) faults :=
  Act.Ensures.mono (journals fun empty => absurd empty sound.stacked.upright.framed)
    (fun _ _ logged => ⟨sound.logged logged, logged.loaded⟩)
    fun _ _ logged => ⟨logged.1, sound.logged logged.2, logged.2.loaded⟩

theorem checkpoint (sound : Sound ground ⟨journaled, below⟩) :
    Sound ground ⟨{ journaled with
        depth := journaled.depth + 1, journal := [] :: journaled.journal },
      (⟨journaled.logs.length, journaled.journal.length⟩, journaled) :: below⟩ := by
  have upright := sound.stacked.upright
  refine ⟨⟨⟨List.cons_ne_nil _ _, upright.funded, upright.fork⟩,
    ⟨rfl, .refl _, rfl, List.prefix_rfl, rfl, List.suffix_rfl⟩, sound.stacked⟩,
    sound.covered.move ground.discipline Move.checkpoint, sound.codes.state, ?_⟩
  intro frame member
  rcases List.mem_cons.mp member with rfl | older
  · exact fun _ inside => nomatch inside
  · exact sound.codes.journal frame older

theorem commit {opened : JournalCheckpoint × JournaledState}
    (sound : Sound ground ⟨journaled, opened :: below⟩) :
    Sound ground ⟨{ journaled with depth := journaled.depth - 1 }, below⟩ :=
  ⟨sound.stacked.commit, sound.covered.move ground.discipline Move.commit, sound.codes.state,
    sound.codes.journal⟩

theorem deep {opened : JournalCheckpoint × JournaledState}
    (sound : Sound ground ⟨journaled, opened :: below⟩) : journaled.depth ≠ 0 := by
  have depth : journaled.depth = _ := sound.stacked.depth_eq
  rw [depth, List.length_cons]
  exact Nat.succ_ne_zero _

/-- The newest checkpoint can be gone back to, and what comes of it. -/
theorem reverts {checkpoint : JournalCheckpoint} {snapshot : JournaledState}
    (sound : Sound ground ⟨journaled, (checkpoint, snapshot) :: below⟩) :
    ∃ back, rewind (JournaledState.undo !journaled.isBeforeSpuriousDragon)
        (since journaled.journal checkpoint.journalI) journaled.state = some back ∧
      ground.Alike snapshot.state back snapshot.state ∧
      checkpoint.journalI ≤ journaled.journal.length ∧
      journaled.logs.take checkpoint.logI = snapshot.logs ∧
      journaled.journal.drop (journaled.journal.length - checkpoint.journalI) =
        snapshot.journal := by
  obtain ⟨upright, above, _⟩ := sound.stacked
  obtain ⟨back, undone, alike⟩ := sound.covered.revert rfl
  have fork : (!journaled.isBeforeSpuriousDragon) = ground.isSpuriousDragonEnabled := by
    rw [upright.fork, Bool.not_not]
  have suffix : snapshot.journal <:+ journaled.journal :=
    above.journal.trans (List.tail_suffix _)
  refine ⟨back, fork ▸ undone, alike, ?_, ?_, ?_⟩
  · rw [above.journalI]
    exact suffix.length_le
  · rw [above.logI]
    exact (List.prefix_iff_eq_take.mp above.logs).symm
  · rw [above.journalI]
    exact (List.suffix_iff_eq_drop.mp suffix).symm

/-- What going back to the newest checkpoint gives is sound on the rest of them. -/
theorem revert {checkpoint : JournalCheckpoint} {snapshot : JournaledState}
    (sound : Sound ground ⟨journaled, (checkpoint, snapshot) :: below⟩) :
    ∃ back, (∀ ε : Type, JournaledState.checkpointRevert (ε := ε) checkpoint journaled =
        .returned () { snapshot with
          state := back
          numOfPrecompiles := journaled.numOfPrecompiles }) ∧
      ground.Alike snapshot.state back snapshot.state ∧
      Sound ground ⟨{ snapshot with
        state := back
        numOfPrecompiles := journaled.numOfPrecompiles }, below⟩ := by
  obtain ⟨back, undone, alike, inside, oldLogs, oldJournal⟩ := sound.reverts
  obtain ⟨upright, above, rest⟩ := sound.stacked
  have lower := rest.upright
  have fork : journaled.isBeforeSpuriousDragon = snapshot.isBeforeSpuriousDragon :=
    upright.fork.trans lower.fork.symm
  have leaves : journaled.depth - 1 = snapshot.depth := by
    have depth : journaled.depth = snapshot.depth + 1 := above.depth
    omega
  refine ⟨back, fun ε => ?_, alike, ?_, ?_, ?_⟩
  · rw [checkpointRevert_apply sound.deep inside undone, leaves, oldLogs, oldJournal, fork]
  · have funded : supply ground.db back ≤ ground.bound :=
      (Setting.alike_supply alike).trans_le lower.funded
    exact rest.replace ⟨lower.framed, funded, lower.fork⟩ rfl rfl List.prefix_rfl
      fun origin member => (rest.kept origin member).trans (.of_alike alike)
  · have same : (!journaled.isBeforeSpuriousDragon) = ground.isSpuriousDragonEnabled := by
      rw [upright.fork, Bool.not_not]
    rw [same] at undone
    have moved := sound.covered.move ground.discipline (Move.revert undone)
    rw [oldJournal] at moved
    exact moved
  · have same : (!journaled.isBeforeSpuriousDragon) = ground.isSpuriousDragonEnabled := by
      rw [upright.fork, Bool.not_not]
    rw [same] at undone
    refine ⟨rewind_codes _ sound.codes.state ?_ undone, ?_⟩
    · intro entry member
      obtain ⟨frame, taken, inside⟩ := List.mem_flatten.mp member
      exact sound.codes.journal frame (List.mem_of_mem_take taken) entry inside
    · intro frame member
      have had : frame ∈ journaled.journal.drop _ := oldJournal.symm ▸ member
      exact sound.codes.journal frame (List.mem_of_mem_drop had)

end Sound

end Revm
