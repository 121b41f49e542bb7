import BlazCtf.Revm.Views

set_option autoImplicit false

namespace Revm

open Evm Machine UndoLog
open Function (update)

/-- Entries added to the newest frame. -/
def record (entries : List JournalEntry) : List (List JournalEntry) → List (List JournalEntry)
  | [] => []
  | frame :: frames => (entries ++ frame) :: frames

theorem record_nil (journal : List (List JournalEntry)) : record [] journal = journal := by
  cases journal <;> rfl

theorem record_append (later early : List JournalEntry) (journal : List (List JournalEntry)) :
    record (later ++ early) journal = record later (record early journal) := by
  cases journal with
  | nil => rfl
  | cons frame frames => simp only [record, List.append_assoc]

/-- What an execution stands on: the database, the hard fork, and what is true of every code that
the database may give. -/
structure Setting where
  db : Database
  isSpuriousDragonEnabled : Bool
  good : Bytecode → Prop
  newGood : good Bytecode.new
  basicGood : ∀ address info code, db.basic address = some (some info) →
    info.code = some code → good code
  codeByHashGood : ∀ codeHash code, db.codeByHash codeHash = some code → good code

namespace Setting

variable (setting : Setting)

def undo : JournalEntry → State → Option State :=
  JournaledState.undo setting.isSpuriousDragonEnabled

def Alike : State → State → State → Prop :=
  Revm.Alike setting.db setting.isSpuriousDragonEnabled

theorem discipline : Discipline setting.undo setting.Alike :=
  undo_discipline setting.db setting.isSpuriousDragonEnabled

/-- What an account has become: it stays loaded, its nonce does not fall, and once no contract
can be created at its address, none ever can. -/
structure Kept (address : Address) (before after : Option Account) : Prop where
  loaded : before.isSome → after.isSome
  nonce : (before.getD (setting.db.fresh address)).info.nonce ≤
    (after.getD (setting.db.fresh address)).info.nonce
  firm : ¬ KeepsTouch setting.isSpuriousDragonEnabled address →
    ∀ old, before = some old → old.Firm setting.db →
      ∃ acc, after = some acc ∧ acc.Firm setting.db

def KeptAll (before after : State) : Prop :=
  ∀ address, setting.Kept address (before address) (after address)

def GoodEntry : JournalEntry → Prop
  | .codeChange _ code => setting.good code
  | _ => True

/-- Every code that is there, or that a revert may bring back, is good. -/
structure CodesGood (journaled : JournaledState) : Prop where
  state : ∀ address acc code, journaled.state address = some acc →
    acc.info.code = some code → setting.good code
  journal : ∀ frame ∈ journaled.journal, ∀ entry ∈ frame, setting.GoodEntry entry

end Setting

section Kept

variable {setting : Setting} {address : Address} {first second third : Option Account}

theorem Setting.Kept.refl (account : Option Account) : setting.Kept address account account :=
  ⟨id, Nat.le_refl _, fun _ old known firm => ⟨old, known, firm⟩⟩

theorem Setting.Kept.trans (early : setting.Kept address first second)
    (late : setting.Kept address second third) : setting.Kept address first third where
  loaded known := late.loaded (early.loaded known)
  nonce := Nat.le_trans early.nonce late.nonce
  firm ordinary old known firm := by
    obtain ⟨middle, there, alsoFirm⟩ := early.firm ordinary old known firm
    exact late.firm ordinary middle there alsoFirm

theorem Setting.KeptAll.refl (state : State) : setting.KeptAll state state :=
  fun _ => .refl _

theorem Setting.KeptAll.trans {one two three : State} (early : setting.KeptAll one two)
    (late : setting.KeptAll two three) : setting.KeptAll one three :=
  fun address => (early address).trans (late address)

/-- An account of the same nonce and code. -/
theorem Setting.Kept.of_info {old acc : Account} (nonce : acc.info.nonce = old.info.nonce)
    (code : setting.db.codeOf acc.info.codeHash acc.info.code =
      setting.db.codeOf old.info.codeHash old.info.code) :
    setting.Kept address (some old) (some acc) where
  loaded _ := rfl
  nonce := by
    rw [Option.getD_some, Option.getD_some, nonce]
  firm _ other same firm := by
    cases same
    refine ⟨acc, rfl, ?_⟩
    unfold Account.Firm
    rw [nonce, code]
    exact firm

/-- Undoing leaves nonces and loaded accounts as they were. -/
theorem Setting.Kept.of_alike {snapshot back : State}
    (alike : setting.Alike snapshot back snapshot) : setting.KeptAll snapshot back := by
  intro address
  have here := alike address
  unfold AlikeAt at here
  split at here
  · rename_i special
    refine ⟨here.1, ?_, fun ordinary => absurd special ordinary⟩
    exact (congrArg AccountView.nonce here.2).ge
  · rename_i ordinary
    cases known : snapshot address with
    | none =>
        rw [known] at here
        have gone : back address = none := by simpa using here
        rw [gone]
        exact .refl _
    | some old =>
        rw [known] at here
        obtain ⟨acc, there, agree⟩ := Option.map_eq_some_iff.mp here.1
        have nonce : acc.info.nonce = old.info.nonce := congrArg AccountView.nonce agree
        rw [there]
        refine ⟨fun _ => rfl, by rw [Option.getD_some, Option.getD_some, nonce], ?_⟩
        intro _ other same firm
        cases same
        have whole := here.2 firm
        rw [there] at whole
        have views := Option.some.inj whole
        have codes : setting.db.codeOf acc.info.codeHash acc.info.code =
            setting.db.codeOf old.info.codeHash old.info.code := congrArg AccountView.code views
        refine ⟨acc, rfl, ?_⟩
        unfold Account.Firm
        rw [nonce, codes]
        exact firm

end Kept

/-- From one state to the other the journal has grown by entries that can be undone, for whoever
goes back to one of the snapshots, and no money was made. -/
structure Logged (setting : Setting) (snapshots : List State) (before after : JournaledState) :
    Prop where
  journal : ∃ logged, after.journal = record logged before.journal ∧ ∀ snapshot ∈ snapshots,
    Undone setting.undo setting.Alike snapshot logged before.state after.state
  kept : ∀ origin ∈ snapshots, setting.KeptAll origin before.state →
    setting.KeptAll origin after.state
  loaded : ∀ address, (before.state address).isSome → (after.state address).isSome
  codes : setting.CodesGood before → setting.CodesGood after
  logs : before.logs <+: after.logs
  supply : supply setting.db after.state ≤ supply setting.db before.state
  depth : after.depth = before.depth
  isBeforeSpuriousDragon : after.isBeforeSpuriousDragon = before.isBeforeSpuriousDragon

/-- What a write to one account has to respect. -/
structure Writes (setting : Setting) (snapshots : List State) (state : State) (address : Address)
    (acc : Account) : Prop where
  kept : ∀ origin ∈ snapshots, setting.Kept address (origin address) (state address) →
    setting.Kept address (origin address) (some acc)
  codes : ∀ code, acc.info.code = some code → setting.good code ∨
    ∃ old, state address = some old ∧ old.info.code = some code

section Writes

variable {setting : Setting} {snapshots : List State} {state : State} {address : Address}
  {old acc : Account}

/-- A write that leaves nonce and code as they were. -/
theorem Writes.of_info (present : state address = some old)
    (nonce : acc.info.nonce = old.info.nonce) (codeHash : acc.info.codeHash = old.info.codeHash)
    (code : acc.info.code = old.info.code) : Writes setting snapshots state address acc where
  kept origin _ kept := by
    rw [present] at kept
    exact kept.trans (.of_info nonce (by rw [codeHash, code]))
  codes other same := Or.inr ⟨old, present, by rw [← code, same]⟩

theorem Setting.KeptAll.update {origin : State} (kept : setting.KeptAll origin state)
    (here : setting.Kept address (origin address) (some acc)) :
    setting.KeptAll origin (update state address (some acc)) := by
  intro place
  by_cases at_ : place = address
  · subst at_
    rw [Function.update_self]
    exact here
  · rw [Function.update_of_ne at_]
    exact kept place

theorem loaded_update {place : Address} (known : (state place).isSome) :
    (update state address (some acc) place).isSome := by
  by_cases at_ : place = address
  · subst at_
    rw [Function.update_self]
    rfl
  · rw [Function.update_of_ne at_]
    exact known

theorem codes_update
    (good : ∀ address acc code, state address = some acc → acc.info.code = some code →
      setting.good code) (writes : Writes setting snapshots state address acc) :
    ∀ place acc_ code, update state address (some acc) place = some acc_ →
      acc_.info.code = some code → setting.good code := by
  intro place other code there same
  by_cases at_ : place = address
  · subst at_
    rw [Function.update_self] at there
    cases there
    rcases writes.codes code same with fine | ⟨old, present, had⟩
    · exact fine
    · exact good place old code present had
  · rw [Function.update_of_ne at_] at there
    exact good place other code there same

theorem entries_record {entries : List JournalEntry} {journal : List (List JournalEntry)}
    (good : ∀ frame ∈ journal, ∀ entry ∈ frame, setting.GoodEntry entry)
    (alsoGood : ∀ entry ∈ entries, setting.GoodEntry entry) :
    ∀ frame ∈ record entries journal, ∀ entry ∈ frame, setting.GoodEntry entry := by
  cases journal with
  | nil => exact good
  | cons top rest =>
      intro frame member entry inside
      rcases List.mem_cons.mp member with rfl | older
      · rcases List.mem_append.mp inside with new | had
        · exact alsoGood entry new
        · exact good top List.mem_cons_self entry had
      · exact good frame (List.mem_cons_of_mem _ older) entry inside

end Writes

section Logged

variable {setting : Setting} {snapshots : List State} {before middle after : JournaledState}

theorem Logged.refl (journaled : JournaledState) :
    Logged setting snapshots journaled journaled where
  journal := ⟨[], (record_nil _).symm, fun _ _ => Undone.nil setting.discipline⟩
  kept _ _ kept := kept
  loaded _ known := known
  codes good := good
  logs := List.prefix_rfl
  supply := le_rfl
  depth := rfl
  isBeforeSpuriousDragon := rfl

theorem Logged.trans (early : Logged setting snapshots before middle)
    (late : Logged setting snapshots middle after) : Logged setting snapshots before after where
  journal := by
    obtain ⟨first, firstFrames, firstUndone⟩ := early.journal
    obtain ⟨second, secondFrames, secondUndone⟩ := late.journal
    refine ⟨second ++ first, ?_, ?_⟩
    · rw [secondFrames, firstFrames, record_append]
    · intro snapshot member
      exact (firstUndone snapshot member).trans setting.discipline (secondUndone snapshot member)
  kept origin member kept := late.kept origin member (early.kept origin member kept)
  loaded address known := late.loaded address (early.loaded address known)
  codes good := late.codes (early.codes good)
  logs := early.logs.trans late.logs
  supply := late.supply.trans early.supply
  depth := late.depth.trans early.depth
  isBeforeSpuriousDragon := late.isBeforeSpuriousDragon.trans early.isBeforeSpuriousDragon

theorem Logged.journal_nil (logged : Logged setting snapshots before after)
    (empty : after.journal = []) : before.journal = [] := by
  obtain ⟨entries, frames, _⟩ := logged.journal
  rw [frames] at empty
  cases journal : before.journal with
  | nil => rfl
  | cons frame older =>
      rw [journal] at empty
      cases empty

/-- A write to one account under its entry. -/
theorem Logged.of_entry {address : Address} {acc : Account} {entry : JournalEntry}
    (undone : ∀ snapshot ∈ snapshots, Undone setting.undo setting.Alike snapshot [entry]
      before.state (update before.state address (some acc)))
    (good : setting.GoodEntry entry) (writes : Writes setting snapshots before.state address acc)
    (poorer : acc.info.balance.toNat ≤ balanceAt setting.db before.state address) :
    Logged setting snapshots before { before with
      state := update before.state address (some acc)
      journal := record [entry] before.journal } where
  journal := ⟨[entry], rfl, undone⟩
  kept origin member kept := kept.update (writes.kept origin member (kept address))
  loaded _ known := loaded_update known
  codes codes := ⟨codes_update codes.state writes,
    entries_record codes.journal (List.forall_mem_singleton.mpr good)⟩
  logs := List.prefix_rfl
  supply := supply_write poorer
  depth := rfl
  isBeforeSpuriousDragon := rfl

/-- Writes to two accounts under one entry. -/
theorem Logged.of_entry_two {address target : Address} {one two : Account} {entry : JournalEntry}
    (undone : ∀ snapshot ∈ snapshots, Undone setting.undo setting.Alike snapshot [entry]
      before.state (update (update before.state address (some one)) target (some two)))
    (good : setting.GoodEntry entry) (first : Writes setting snapshots before.state address one)
    (second : Writes setting snapshots (update before.state address (some one)) target two)
    (money : Revm.supply setting.db
        (update (update before.state address (some one)) target (some two)) ≤
      Revm.supply setting.db before.state) :
    Logged setting snapshots before { before with
      state := update (update before.state address (some one)) target (some two)
      journal := record [entry] before.journal } where
  journal := ⟨[entry], rfl, undone⟩
  kept origin member kept := by
    have middle := kept.update (first.kept origin member (kept address))
    exact middle.update (second.kept origin member (middle target))
  loaded _ known := loaded_update (loaded_update known)
  codes codes := ⟨codes_update (codes_update codes.state first) second,
    entries_record codes.journal (List.forall_mem_singleton.mpr good)⟩
  logs := List.prefix_rfl
  supply := money
  depth := rfl
  isBeforeSpuriousDragon := rfl

/-- A change of one account that leaves no trace in the journal, nor in the view. -/
theorem Logged.of_alike {address : Address} {acc : Account}
    (alike : ∀ snapshot ∈ snapshots, AlikeAt setting.db setting.isSpuriousDragonEnabled address
      (snapshot address) (some acc) (before.state address))
    (writes : Writes setting snapshots before.state address acc)
    (poorer : acc.info.balance.toNat ≤ balanceAt setting.db before.state address) :
    Logged setting snapshots before
      { before with state := update before.state address (some acc) } where
  journal := ⟨[], (record_nil _).symm, fun snapshot member =>
    ⟨_, rfl, Alike.update_left (alike snapshot member)⟩⟩
  kept origin member kept := kept.update (writes.kept origin member (kept address))
  loaded _ known := loaded_update known
  codes codes := ⟨codes_update codes.state writes, codes.journal⟩
  logs := List.prefix_rfl
  supply := supply_write poorer
  depth := rfl
  isBeforeSpuriousDragon := rfl

end Logged

/-- What the code does, however it ends, can be undone; it only stops for allowed reasons, and
faults only if `faults`. -/
def Journals {ε α : Type} (setting : Setting) (snapshots : List State) (faults : Prop)
    (act : Journaled ε α) (before : JournaledState) (allowed : ε → Prop := fun _ => True) : Prop :=
  (before.journal = [] → faults) → Act.Ensures act before
    (fun _ => Logged setting snapshots before)
    (fun reason after => allowed reason ∧ Logged setting snapshots before after) faults

section Journals

variable {setting : Setting} {snapshots : List State} {before : JournaledState} {faults : Prop}
  {ε δ α β : Type} {act : Journaled ε α} {allowed : ε → Prop}

theorem journals_of_returned (value : α) {after : JournaledState}
    (ended : act before = .returned value after) (logged : Logged setting snapshots before after) :
    Journals setting snapshots faults act before allowed := by
  intro _
  unfold Act.Ensures
  rw [ended]
  exact logged

theorem journals_of_fault (ended : act before = .fault)
    (allows : (before.journal = [] → faults) → faults) :
    Journals setting snapshots faults act before allowed := by
  intro framed
  unfold Act.Ensures
  rw [ended]
  exact allows framed

theorem journals_pure (value : α) :
    Journals setting snapshots faults (pure value : Journaled ε α) before allowed :=
  fun _ => Logged.refl before

theorem journals_stop {reason : ε} (fine : allowed reason) :
    Journals setting snapshots faults (Act.stop reason : Journaled ε α) before allowed :=
  fun _ => ⟨fine, Logged.refl before⟩

theorem Journals.bind {next : α → Journaled ε β}
    (head : Journals setting snapshots faults act before allowed)
    (tail : ∀ value middle, act before = .returned value middle →
      Logged setting snapshots before middle →
      Journals setting snapshots faults (next value) middle allowed) :
    Journals setting snapshots faults (act >>= next) before allowed := by
  intro framed
  have head := head framed
  unfold Act.Ensures
  rw [Act.bind_apply]
  cases ended : act before with
  | fault =>
      unfold Act.Ensures at head
      rw [ended] at head
      exact head
  | stopped reason middle => exact head.of_stopped ended
  | returned value middle =>
      have early : Logged setting snapshots before middle := head.of_returned ended
      have late := tail value middle ended early fun empty => framed (early.journal_nil empty)
      exact late.mono (fun _ _ late => early.trans late)
        (fun _ _ late => ⟨late.1, early.trans late.2⟩)

theorem Journals.any (journals : Journals setting snapshots faults act before allowed) :
    Journals setting snapshots faults act before :=
  fun framed => Act.Ensures.mono (journals framed) (fun _ _ logged => logged)
    fun _ _ logged => ⟨trivial, logged.2⟩

/-- What the code leaves behind is logged, also where it stops. -/
theorem Journals.leaves (framed : before.journal ≠ [])
    (journals : Journals setting snapshots faults act before allowed) :
    Leaves (act before).left (Logged setting snapshots before) faults :=
  Act.Ensures.leaves (Act.Ensures.mono (journals fun empty => absurd empty framed)
    (fun _ _ logged => logged) fun _ _ logged => logged.2)

theorem Journals.mapError {rename : ε → δ} {allowed : δ → Prop} {fine : ε → Prop}
    (journals : Journals setting snapshots faults act before fine)
    (renamed : ∀ reason, fine reason → allowed (rename reason)) :
    Journals setting snapshots faults (act.mapError rename) before allowed :=
  fun framed => Act.Ensures.mapError (Act.Ensures.mono (journals framed) (fun _ _ logged => logged)
    fun reason _ logged => ⟨renamed reason logged.1, logged.2⟩)

/-- Code that first does something else than write. -/
theorem journals_bind_reading {next : α → Journaled ε β} (value : α)
    (ended : act before = .returned value before)
    (tail : Journals setting snapshots faults (next value) before allowed) :
    Journals setting snapshots faults (act >>= next) before allowed := by
  apply Journals.bind (journals_of_returned _ ended (Logged.refl before))
  intro other middle alsoEnded _
  rw [ended] at alsoEnded
  cases alsoEnded
  exact tail

end Journals

namespace JournaledState

section Steps

variable {ε : Type} {allowed : ε → Prop} {setting : Setting} {snapshots : List State}
  {faults : Prop} {before : JournaledState} {address target : Address} {acc : Account}

theorem account_apply (before : JournaledState) (present : before.state address = some acc) :
    (account address : Journaled ε Account) before = .returned acc before := by
  simp only [account, Act.bind_apply, Act.get_apply, Act.returned_andThen, present,
    Act.unwrap_some, Act.pure_apply]

theorem account_fault (before : JournaledState) (absent : before.state address = none) :
    (account address : Journaled ε Account) before = .fault := by
  simp only [account, Act.bind_apply, Act.get_apply, Act.returned_andThen, absent,
    Act.unwrap_none, Act.fault_apply]

/-- Code that works on an account that is there. -/
theorem journals_account {α : Type} {next : Account → Journaled ε α}
    (absent : before.state address = none → faults)
    (tail : ∀ acc, before.state address = some acc →
      Journals setting snapshots faults (next acc) before allowed) :
    Journals setting snapshots faults (account address >>= next) before allowed := by
  cases present : before.state address with
  | none =>
      apply journals_of_fault _ fun _ => absent present
      rw [Act.bind_apply, account_fault _ present, Act.fault_andThen]
  | some acc => exact journals_bind_reading acc (account_apply _ present) (tail acc present)

theorem push_apply (before : JournaledState) (entry : JournalEntry) {frame : List JournalEntry}
    {frames : List (List JournalEntry)} (journal : before.journal = frame :: frames) :
    (push entry : Journaled ε Unit) before =
      .returned () { before with journal := record [entry] before.journal } := by
  unfold push
  rw [journal]
  rfl

/-- A write and its entry, and what comes after. -/
theorem journals_put_push {α : Type} {next : Journaled ε α} (entry : JournalEntry)
    (undone : ∀ snapshot ∈ snapshots, Undone setting.undo setting.Alike snapshot [entry]
      before.state (update before.state address (some acc)))
    (good : setting.GoodEntry entry) (writes : Writes setting snapshots before.state address acc)
    (poorer : acc.info.balance.toNat ≤ balanceAt setting.db before.state address)
    (tail : ∀ after : JournaledState, after.state = update before.state address (some acc) →
      Journals setting snapshots faults next after allowed) :
    Journals setting snapshots faults (do putAccount address acc; push entry; next) before
      allowed := by
  cases journal : before.journal with
  | nil =>
      apply journals_of_fault _ fun framed => framed journal
      simp only [putAccount, push, Act.bind_apply, Act.modify_apply, Act.returned_andThen, journal,
        Act.fault_andThen]
  | cons frame frames =>
      have written : (do putAccount address acc; push entry : Journaled ε Unit) before =
          .returned () { before with
            state := update before.state address (some acc)
            journal := record [entry] before.journal } := by
        rw [Act.bind_apply]
        exact push_apply { before with state := update before.state address (some acc) } entry
          journal
      rw [← bind_assoc]
      apply Journals.bind (journals_of_returned _ written
        (Logged.of_entry undone good writes poorer))
      intro value middle ended _
      rw [written] at ended
      cases ended
      exact tail _ rfl

/-- Two writes and one entry for both. -/
theorem journals_put_put_push {α : Type} {one two : Account} (entry : JournalEntry) (value : α)
    (undone : ∀ snapshot ∈ snapshots, Undone setting.undo setting.Alike snapshot [entry]
      before.state (update (update before.state address (some one)) target (some two)))
    (good : setting.GoodEntry entry) (first : Writes setting snapshots before.state address one)
    (second : Writes setting snapshots (update before.state address (some one)) target two)
    (money : Revm.supply setting.db
        (update (update before.state address (some one)) target (some two)) ≤
      Revm.supply setting.db before.state) :
    Journals setting snapshots faults
      (do putAccount address one; putAccount target two; push entry; return value :
        Journaled ε α) before allowed := by
  cases journal : before.journal with
  | nil =>
      apply journals_of_fault _ fun framed => framed journal
      simp only [putAccount, push, Act.bind_apply, Act.modify_apply, Act.returned_andThen, journal,
        Act.fault_andThen]
  | cons frame frames =>
      apply journals_of_returned value _ (Logged.of_entry_two undone good first second money)
      simp only [putAccount, push, Act.bind_apply, Act.modify_apply, Act.returned_andThen, journal]
      rfl

/-- A write without an entry, that cannot be told. -/
theorem journals_put {α : Type} {next : Journaled ε α}
    (alike : ∀ snapshot ∈ snapshots, AlikeAt setting.db setting.isSpuriousDragonEnabled address
      (snapshot address) (some acc) (before.state address))
    (writes : Writes setting snapshots before.state address acc)
    (poorer : acc.info.balance.toNat ≤ balanceAt setting.db before.state address)
    (tail : Journals setting snapshots faults next
      { before with state := update before.state address (some acc) } allowed) :
    Journals setting snapshots faults (do putAccount address acc; next) before allowed := by
  have written : (putAccount address acc : Journaled ε Unit) before =
      .returned () { before with state := update before.state address (some acc) } := rfl
  apply Journals.bind (journals_of_returned _ written (Logged.of_alike alike writes poorer))
  intro value middle ended _
  rw [written] at ended
  cases ended
  exact tail

theorem push_put_comm {α : Type} {next : Journaled ε α} (entry : JournalEntry) :
    (do push entry; putAccount address acc; next) =
      (do putAccount address acc; push entry; next) := by
  funext before
  simp only [putAccount, push, Act.bind_apply, Act.modify_apply, Act.returned_andThen]
  cases before.journal <;> rfl

theorem journals_push_put {α : Type} {next : Journaled ε α} (entry : JournalEntry)
    (undone : ∀ snapshot ∈ snapshots, Undone setting.undo setting.Alike snapshot [entry]
      before.state (update before.state address (some acc)))
    (good : setting.GoodEntry entry) (writes : Writes setting snapshots before.state address acc)
    (poorer : acc.info.balance.toNat ≤ balanceAt setting.db before.state address)
    (tail : ∀ after : JournaledState, after.state = update before.state address (some acc) →
      Journals setting snapshots faults next after allowed) :
    Journals setting snapshots faults (do push entry; putAccount address acc; next) before
      allowed := by
  rw [push_put_comm]
  exact journals_put_push entry undone good writes poorer tail

end Steps

section Entries

variable {setting : Setting} {snapshot state : State} {address target : Address}
  {acc new : Account}

theorem undone_of_rewind {entries : List JournalEntry} {next : State}
    (back : rewind setting.undo entries next = some state) :
    Undone setting.undo setting.Alike snapshot entries state next :=
  ⟨state, back, Alike.refl state⟩

theorem update_back (present : state address = some acc) (account : Option Account) :
    update (update state address account) address (some acc) = state := by
  rw [Function.update_idem, ← present, Function.update_eq_self]

/-- An entry whose undoing changes one account back. -/
theorem undone_of_change {entry : JournalEntry} (with_ : Account → Option Account)
    (undoes : ∀ state, setting.undo entry state = change state address with_)
    (present : state address = some acc) (back : with_ new = some acc) :
    Undone setting.undo setting.Alike snapshot [entry] state
      (update state address (some new)) := by
  apply undone_of_rewind
  have changed := change_of_some with_
    (Function.update_self address (some new) state) back
  rw [update_back present] at changed
  rw [rewind_cons, undoes, changed]
  rfl

theorem undone_touch (present : state address = some acc) (untouched : acc.isTouched = false) :
    Undone setting.undo setting.Alike snapshot [.accountTouched address] state
      (update state address (some { acc with isTouched := true })) := by
  by_cases special : KeepsTouch setting.isSpuriousDragonEnabled address
  · refine ⟨_, by rw [rewind_cons, Setting.undo, undo, if_pos special]; rfl, Alike.update_left ?_⟩
    rw [present]
    unfold AlikeAt
    rw [if_pos special]
    exact ⟨fun _ => rfl, rfl⟩
  · apply undone_of_change (fun acc => some { acc with isTouched := false }) _ present
    · rw [← untouched]
    · intro state
      rw [Setting.undo, undo, if_neg special]

theorem undone_load (absent : state address = none)
    (fresh : new = setting.db.fresh address) :
    Undone setting.undo setting.Alike snapshot [.accountLoaded address] state
      (update state address (some new)) := by
  by_cases special : KeepsTouch setting.isSpuriousDragonEnabled address
  · refine ⟨_, by rw [rewind_cons, Setting.undo, undo, if_pos special]; rfl, Alike.update_left ?_⟩
    rw [absent]
    unfold AlikeAt
    rw [if_pos special, fresh]
    exact ⟨fun _ => rfl, rfl⟩
  · apply undone_of_rewind
    rw [rewind_cons, Setting.undo, undo, if_neg special, Function.update_idem, ← absent,
      Function.update_eq_self]
    rfl

theorem change_total (with_ : Account → Account) (present : state address = some acc) :
    change state address (fun acc => some (with_ acc)) =
      some (update state address (some (with_ acc))) :=
  change_of_some _ present rfl

/-- Two accounts changed, or one changed twice, and changed back in the same order. -/
theorem changes_back (out into outBack intoBack : Account → Account) {other : Account}
    (present : state address = some acc)
    (found : update state address (some (out acc)) target = some other)
    (apart : address ≠ target → outBack (out acc) = acc ∧ intoBack (into other) = other)
    (same : address = target → intoBack (outBack (into (out acc))) = acc) :
    ((change (update (update state address (some (out acc))) target (some (into other))) address
        fun acc => some (outBack acc)).bind fun state =>
      change state target fun acc => some (intoBack acc)) = some state := by
  by_cases at_ : address = target
  · subst at_
    rw [Function.update_self, Option.some.injEq] at found
    subst found
    rw [change_total outBack (Function.update_self _ _ _), Option.bind_some,
      change_total intoBack (Function.update_self _ _ _), same rfl, Function.update_idem,
      Function.update_idem, update_back present]
  · obtain ⟨outGone, intoGone⟩ := apart at_
    rw [Function.update_of_ne (Ne.symm at_)] at found
    have first : update (update state address (some (out acc))) target (some (into other))
        address = some (out acc) := by
      rw [Function.update_of_ne at_, Function.update_self]
    have second : ∀ place, update (update (update state address place) target
        (some (into other))) address (some acc) target = some (into other) := by
      intro place
      rw [Function.update_of_ne (Ne.symm at_), Function.update_self]
    rw [change_total outBack first, Option.bind_some, outGone, change_total intoBack (second _),
      intoGone, Function.update_comm at_, Function.update_idem, Function.update_comm at_,
      Function.update_idem, ← found, Function.update_eq_self, ← present, Function.update_eq_self]

end Entries

end JournaledState

end Revm
