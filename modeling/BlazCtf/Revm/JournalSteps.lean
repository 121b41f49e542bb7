import BlazCtf.Revm.JournalUndo

set_option autoImplicit false

namespace Revm

open Evm Machine UndoLog
open Function (update)

/-- A database that has no errors. -/
structure Database.Answers (db : Database) : Prop where
  basic : ∀ address, (db.basic address).isSome
  codeByHash : ∀ codeHash, (db.codeByHash codeHash).isSome

namespace JournaledState

section Loads

variable {ε : Type} {allowed : ε → Prop} {setting : Setting} {snapshots : List State}
  {faults : Prop} {db : Database} {before : JournaledState} {address : Address}

theorem journals_fetch {α : Type} (found : Option α) :
    Journals setting snapshots faults (fetch found : Journaled DatabaseError α) before := by
  cases found with
  | none => exact journals_stop trivial
  | some value => exact journals_pure value

theorem touchAccount_journals (absent : before.state address = none → faults) :
    Journals setting snapshots faults (touchAccount address : Journaled ε Unit) before allowed := by
  apply journals_account absent
  intro acc present
  cases touched : acc.isTouched with
  | true => exact journals_pure ()
  | false =>
      rw [Bool.not_false, if_pos rfl, ← bind_pure (putAccount _ _)]
      exact journals_push_put _ (fun _ _ => undone_touch present touched) trivial
        (.of_info present rfl rfl rfl) (balanceAt_of_some present).ge fun _ _ => journals_pure ()

theorem touch_journals :
    Journals setting snapshots faults (touch address : Journaled ε Unit) before allowed := by
  apply journals_bind_reading _ Act.get_apply
  split
  · rename_i present
    apply touchAccount_journals
    intro absent
    rw [absent] at present
    cases present
  · exact journals_pure ()

/-- An account that was not loaded. -/
theorem writes_fresh {answer : Option AccountInfo} (absent : before.state address = none)
    (found : setting.db.basic address = some answer) :
    Writes setting snapshots before.state address (Account.ofBasic answer) where
  kept origin _ kept := by
    rw [absent] at kept
    refine kept.trans ⟨fun _ => rfl, ?_, fun _ _ gone => nomatch gone⟩
    rw [Option.getD_none, Option.getD_some, Database.fresh, found, Option.getD_some]
  codes code same := by
    left
    cases answer with
    | none =>
        cases same
        exact setting.newGood
    | some info => exact setting.basicGood address info code found same

theorem loadAccount_journals :
    Journals setting snapshots faults (loadAccount setting.db address) before
      (fun _ => before.state address = none) := by
  apply journals_bind_reading _ Act.get_apply
  cases present : before.state address with
  | some acc => exact journals_pure _
  | none =>
      cases found : setting.db.basic address with
      | none => exact journals_stop rfl
      | some answer =>
          have fresh : Account.ofBasic answer = setting.db.fresh address := by
            rw [Database.fresh, found, Option.getD_some]
          rw [fetch, pure_bind]
          exact journals_push_put _ (fun _ _ => undone_load present fresh) trivial
            (writes_fresh present found) (fresh ▸ (balanceAt_of_none present).ge)
            fun _ _ => journals_pure _

/-- The account that loading gives is the one in the state. -/
theorem loadAccount_found : Act.Ensures (loadAccount db address) before
    (fun value after => after.state address = some value.1) (fun _ _ => True) True := by
  apply Act.Ensures.bind
  apply Act.ensures_get
  cases present : before.state address with
  | some acc => exact present
  | none =>
      apply Act.Ensures.bind
      cases db.basic address with
      | none => trivial
      | some answer =>
          apply Act.ensures_pure
          apply Act.Ensures.bind
          unfold Act.Ensures push
          cases before.journal with
          | nil => trivial
          | cons frame frames => exact Function.update_self _ _ _

theorem loadAccount_present {value : Account × Bool} {after : JournaledState}
    (ended : loadAccount db address before = .returned value after) :
    ∃ acc, after.state address = some acc := ⟨value.1, loadAccount_found.of_returned ended⟩

/-- Fetching the code of an account changes nothing that can be told. -/
theorem Account.view_fetched {acc : Account} {code : Bytecode} (missing : acc.info.code = none)
    (fetched : db.codeOf acc.info.codeHash none = some code.originalBytes) :
    Account.view db address { acc with info := { acc.info with code := some code } } =
      acc.view db address := by
  have codes : db.codeOf acc.info.codeHash (some code) =
      db.codeOf acc.info.codeHash acc.info.code := by
    rw [missing, fetched]
    rfl
  simp only [Account.view, codes]
  rfl

theorem codeOf_empty (db : Database) :
    db.codeOf KECCAK_EMPTY none = some Bytecode.new.originalBytes := rfl

theorem codeOf_fetched {codeHash : U256} {code : Bytecode} (other : codeHash ≠ KECCAK_EMPTY)
    (found : db.codeByHash codeHash = some code) :
    db.codeOf codeHash none = some code.originalBytes := by
  rw [Database.codeOf, if_neg other, found, Option.map_some]

theorem loadCode_journals :
    Journals setting snapshots faults (loadCode setting.db address) before := by
  apply Journals.bind loadAccount_journals.any
  intro value middle ended _
  obtain ⟨acc, isCold⟩ := value
  have present : middle.state address = some acc := loadAccount_found.of_returned ended
  -- the code that is fetched cannot be told from the one that was not
  have fetches : ∀ code, acc.info.code = none → setting.good code →
      setting.db.codeOf acc.info.codeHash none = some code.originalBytes →
      Journals setting snapshots faults (do
        putAccount address { acc with info := { acc.info with code := some code } }
        return ({ acc with info := { acc.info with code := some code } }, isCold) :
          Journaled DatabaseError (Account × Bool)) middle := by
    intro code missing good fetched
    refine journals_put (fun snapshot _ => ?_) ⟨fun origin _ kept => ?_, fun other same => ?_⟩
      (balanceAt_of_some present).ge (journals_pure _)
    · rw [present]
      exact AlikeAt.of_view (Account.view_fetched missing fetched)
    · rw [present] at kept
      refine kept.trans (.of_info rfl ?_)
      rw [missing, fetched]
      rfl
    · cases same
      exact Or.inl good
  cases missing : acc.info.code with
  | some code =>
      simp only [missing, Option.isNone_some, Bool.false_eq_true, if_false]
      exact journals_pure _
  | none =>
      simp only [missing, Option.isNone_none, if_true]
      by_cases empty : acc.info.codeHash = KECCAK_EMPTY
      · rw [if_pos empty]
        exact fetches Bytecode.new missing setting.newGood (empty ▸ codeOf_empty setting.db)
      · rw [if_neg empty]
        cases found : setting.db.codeByHash acc.info.codeHash with
        | none => exact journals_stop trivial
        | some code =>
            rw [fetch, pure_bind]
            exact fetches code missing (setting.codeByHashGood _ code found)
              (codeOf_fetched empty found)

theorem loadAccountExist_journals :
    Journals setting snapshots faults (loadAccountExist setting.db address) before := by
  apply journals_bind_reading _ Act.get_apply
  apply Journals.bind loadCode_journals
  intro value middle _ _
  exact journals_pure _

/-- The account that a load with its code gives is in the state, and has a code. -/
theorem loadCode_found : Act.Ensures (loadCode db address) before
    (fun value after => after.state address = some value.1 ∧ value.1.info.code.isSome)
    (fun _ _ => True) True := by
  apply Act.Ensures.bind
  refine loadAccount_found.mono ?_ fun _ _ _ => trivial
  rintro ⟨acc, isCold⟩ middle present
  dsimp only at present ⊢
  cases missing : acc.info.code with
  | some code =>
      simp only [Option.isNone_some, Bool.false_eq_true, if_false]
      exact ⟨present, by rw [missing]; rfl⟩
  | none =>
      simp only [Option.isNone_none, if_true]
      split
      · exact ⟨Function.update_self _ _ _, rfl⟩
      · cases db.codeByHash acc.info.codeHash with
        | none => trivial
        | some code => exact ⟨Function.update_self _ _ _, rfl⟩

theorem loadAccountExist_present {value : Bool × Bool} {after : JournaledState}
    (ended : loadAccountExist db address before = .returned value after) :
    ∃ acc, after.state address = some acc := by
  have found : Act.Ensures (loadAccountExist db address) before
      (fun _ after => ∃ acc, after.state address = some acc) (fun _ _ => True) True := by
    apply Act.Ensures.bind
    apply Act.ensures_get
    apply Act.Ensures.bind
    exact loadCode_found.mono (fun value _ found => ⟨value.1, found.1⟩) fun _ _ _ => trivial
  exact found.of_returned ended

end Loads

section Writes

variable {ε : Type} {allowed : ε → Prop} {setting : Setting} {snapshots : List State}
  {faults : Prop} {db : Database} {before : JournaledState} {address : Address}

theorem incNonce_journals (absent : before.state address = none → faults) :
    Journals setting snapshots faults (incNonce address : Journaled ε (Option Nat)) before
      allowed := by
  apply journals_account absent
  intro acc present
  split
  · exact journals_pure _
  · apply Journals.bind (touchAccount_journals absent)
    intro _ middle _ early
    have loaded := early.loaded address (by rw [present]; rfl)
    apply journals_account fun gone => by rw [gone] at loaded; cases loaded
    intro touched present
    refine journals_push_put _ (fun _ _ => ?_) trivial ⟨fun origin _ kept => ?_, fun code same => ?_⟩
      (balanceAt_of_some present).ge fun _ _ => journals_pure _
    · exact undone_of_change _ (fun _ => rfl) present
        (if_neg (Nat.succ_ne_zero touched.info.nonce))
    · rw [present] at kept
      refine kept.trans ⟨fun _ => rfl, Nat.le_succ _, fun _ other same _ => ?_⟩
      exact ⟨_, rfl, Or.inl (Nat.succ_ne_zero _)⟩
    · exact Or.inr ⟨touched, present, same⟩

/-- The entry for the code holds the new code, so only where there was neither nonce nor code
does that not matter. -/
theorem setCode_journals {code : Bytecode} (absent : before.state address = none → faults)
    (good : setting.good code)
    (soft : ¬ KeepsTouch setting.isSpuriousDragonEnabled address → ∀ snapshot ∈ snapshots,
      ∀ old, snapshot address = some old → ¬ old.Firm setting.db) :
    Journals setting snapshots faults (setCode address code : Journaled ε Unit) before allowed := by
  apply Journals.bind (touchAccount_journals absent)
  intro _ middle _ early
  have loaded : middle.state address = none → faults := by
    intro gone
    cases known : before.state address with
    | none => exact absent known
    | some acc =>
        have there := early.loaded address (by rw [known]; rfl)
        rw [gone] at there
        cases there
  apply journals_account loaded
  intro acc present
  rw [← bind_pure (putAccount _ _)]
  refine journals_push_put _ (fun snapshot member => ?_) good ⟨fun origin member kept => ?_,
    fun other same => ?_⟩ (balanceAt_of_some present).ge fun _ _ => journals_pure _
  · have undone := change_total
      (fun acc => { acc with info := { acc.info with codeHash := code.hash, code := some code } })
      (Function.update_self address
        (some { acc with info := { acc.info with codeHash := code.hash, code := some code } })
        middle.state)
    rw [Function.update_idem] at undone
    refine ⟨_, by rw [rewind_cons, Setting.undo, undo, undone]; rfl, Alike.update_left ?_⟩
    rw [present]
    refine AlikeAt.of_books (fun ordinary => soft ordinary snapshot member) fun memo notWhole => ?_
    cases memo with
    | whole => exact absurd rfl notWhole
    | books => rfl
    | untouched => rfl
    | shape => rfl
  · rw [present] at kept
    refine ⟨fun _ => rfl, kept.nonce, fun ordinary old known firm => ?_⟩
    exact absurd firm (soft ordinary origin member old known)
  · cases same
    exact Or.inl good

theorem undone_read {acc : Account} {key : U256} {snapshot state : State} (slot : StorageSlot)
    (present : state address = some acc) (unread : acc.storage key = none) :
    Undone setting.undo setting.Alike snapshot [.storageChange address key none] state
      (update state address
        (some { acc with storage := update acc.storage key (some slot) })) := by
  apply undone_of_change (fun acc => some { acc with storage := update acc.storage key none })
    (fun _ => rfl) present
  rw [Function.update_idem, ← unread, Function.update_eq_self]

theorem undone_write {acc : Account} {key : U256} {snapshot state : State} {slot : StorageSlot}
    (new : U256) (present : state address = some acc) (read : acc.storage key = some slot) :
    Undone setting.undo setting.Alike snapshot
      [.storageChange address key (some slot.presentValue)] state
      (update state address (some
        { acc with storage := update acc.storage key (some { slot with presentValue := new }) })) := by
  apply undone_of_change _ (fun _ => rfl) present
  dsimp only
  rw [Function.update_self, Option.map_some, Function.update_idem, ← read,
    Function.update_eq_self]

theorem sload_journals (key : U256) (absent : before.state address = none → faults) :
    Journals setting snapshots faults (sload setting.db address key) before := by
  apply journals_account absent
  intro acc present
  cases unread : acc.storage key with
  | some slot => exact journals_pure _
  | none =>
      have reads : ∀ value : U256, Journals setting snapshots faults (do
          push (.storageChange address key none)
          putAccount address
            { acc with storage := update acc.storage key (some (StorageSlot.new value)) }
          return (value, true) : Journaled DatabaseError (U256 × Bool)) before := by
        intro value
        exact journals_push_put _ (fun _ _ => undone_read _ present unread) trivial
          (.of_info present rfl rfl rfl) (balanceAt_of_some present).ge fun _ _ => journals_pure _
      dsimp only
      cases acc.unread setting.db address key with
      | none => exact journals_stop trivial
      | some value => exact reads value

/-- The value that a load gives is in the slot. -/
theorem sload_slot (key : U256) : Act.Ensures (sload db address key) before
    (fun value after => ∃ acc slot, after.state address = some acc ∧ acc.storage key = some slot ∧
      slot.presentValue = value.1) (fun _ _ => True) True := by
  cases present : before.state address with
  | none =>
      unfold Act.Ensures
      rw [sload, Act.bind_apply, account_fault _ present]
      trivial
  | some acc =>
      apply Act.Ensures.bind
      unfold Act.Ensures
      rw [account_apply _ present]
      beta_reduce
      cases unread : acc.storage key with
      | some slot =>
          simp only [unread]
          exact ⟨acc, slot, present, unread, rfl⟩
      | none =>
          have reads : ∀ value : U256, Act.Ensures (do
              push (.storageChange address key none)
              putAccount address
                { acc with storage := update acc.storage key (some (StorageSlot.new value)) }
              return (value, true) : Journaled DatabaseError (U256 × Bool)) before
              (fun value after => ∃ acc slot, after.state address = some acc ∧
                acc.storage key = some slot ∧ slot.presentValue = value.1)
              (fun _ _ => True) True := by
            intro value
            apply Act.Ensures.bind
            unfold Act.Ensures push
            cases before.journal with
            | nil => trivial
            | cons frame frames =>
                exact ⟨_, _, Function.update_self _ _ _, Function.update_self _ _ _, rfl⟩
          simp only [unread]
          cases acc.unread db address key with
          | none => trivial
          | some value => exact reads value

theorem sstore_journals (key new : U256) (absent : before.state address = none → faults) :
    Journals setting snapshots faults (sstore setting.db address key new) before := by
  apply Journals.bind (sload_journals key absent)
  intro value middle ended _
  obtain ⟨present, isCold⟩ := value
  obtain ⟨acc, slot, found, read, same⟩ := (sload_slot key).of_returned ended
  apply journals_bind_reading _ (account_apply _ found)
  rw [read, Act.unwrap_some, pure_bind]
  split
  · exact journals_pure _
  · subst same
    exact journals_push_put _ (fun _ _ => undone_write new found read) trivial
      (.of_info found rfl rfl rfl) (balanceAt_of_some found).ge fun _ _ => journals_pure _

theorem log_journals (entry : Log) :
    Journals setting snapshots faults (log entry : Journaled ε Unit) before allowed := by
  apply journals_of_returned () (Act.modify_apply _)
  exact
    { Logged.refl before with
      logs := List.prefix_append _ _
      codes := fun good => ⟨good.state, good.journal⟩ }

end Writes

section Moves

variable {ε : Type} {allowed : ε → Prop} {setting : Setting} {snapshots : List State}
  {faults : Prop} {db : Database} {before : JournaledState} {address source target : Address}
  {acc : Account}

theorem touchAccount_apply (before : JournaledState) (present : before.state address = some acc) :
    (touchAccount address : Journaled ε Unit) before =
      if acc.isTouched then .returned () before
      else ((push (.accountTouched address) : Journaled ε Unit) before).andThen fun _ =>
        putAccount address { acc with isTouched := true } := by
  rw [touchAccount, Act.bind_apply, account_apply _ present, Act.returned_andThen]
  cases acc.isTouched <;> rfl

/-- Touching one account and writing another, in either order. -/
theorem put_touch_comm {α : Type} {next : Journaled ε α} (apart : address ≠ target) :
    (do putAccount address acc; touchAccount target; next) =
      (do touchAccount target; putAccount address acc; next) := by
  funext before
  have written : (putAccount address acc : Journaled ε Unit) before =
    .returned () { before with state := update before.state address (some acc) } := rfl
  cases present : before.state target with
  | none =>
      have after : update before.state address (some acc) target = none := by
        rw [Function.update_of_ne (Ne.symm apart), present]
      have fails : ∀ journaled : JournaledState, journaled.state target = none →
          (touchAccount target : Journaled ε Unit) journaled = .fault := by
        intro journaled absent
        rw [touchAccount, Act.bind_apply, account_fault _ absent, Act.fault_andThen]
      rw [Act.bind_apply, written, Act.returned_andThen, Act.bind_apply, fails _ after,
        Act.bind_apply, fails _ present]
      rfl
  | some other =>
      have after : update before.state address (some acc) target = some other := by
        rw [Function.update_of_ne (Ne.symm apart), present]
      rw [Act.bind_apply, written, Act.returned_andThen, Act.bind_apply,
        touchAccount_apply { before with state := update before.state address (some acc) } after,
        Act.bind_apply, touchAccount_apply _ present]
      cases touched : other.isTouched with
      | true => rfl
      | false =>
          simp only [Bool.false_eq_true, if_false, push]
          cases before.journal with
          | nil => rfl
          | cons frame frames =>
              simp only [Act.returned_andThen, putAccount, Act.modify_apply, Act.bind_apply]
              rw [Function.update_comm apart]

/-- An account that is touched stays as it is. -/
theorem touch_touched (before : JournaledState) (present : before.state address = some acc)
    (touched : acc.isTouched) :
    (touchAccount address : Journaled ε Unit) before = .returned () before := by
  rw [touchAccount_apply _ present, if_pos touched]

/-- Touching changes no other account, and none that is touched. -/
theorem touchAccount_frame : Act.Ensures (touchAccount address : Journaled ε Unit) before
    (fun _ after => (∃ acc, after.state address = some acc ∧ acc.isTouched) ∧
      ∀ place acc, before.state place = some acc → place ≠ address ∨ acc.isTouched →
        after.state place = some acc)
    (fun _ _ => True) True := by
  cases present : before.state address with
  | none =>
      unfold Act.Ensures
      rw [touchAccount, Act.bind_apply, account_fault _ present]
      trivial
  | some acc =>
      unfold Act.Ensures
      rw [touchAccount_apply _ present]
      cases touched : acc.isTouched with
      | true => exact ⟨⟨acc, present, touched⟩, fun _ _ known _ => known⟩
      | false =>
          simp only [Bool.false_eq_true, if_false, push]
          cases before.journal with
          | nil => trivial
          | cons frame frames =>
              refine ⟨⟨_, Function.update_self _ _ _, rfl⟩, ?_⟩
              intro place other known apart
              have elsewhere : place ≠ address := by
                rcases apart with elsewhere | alreadyTouched
                · exact elsewhere
                · rintro rfl
                  rw [present] at known
                  cases known
                  rw [touched] at alreadyTouched
                  cases alreadyTouched
              exact (Function.update_of_ne elsewhere _ _).trans known

theorem journals_congr {α : Type} {act other : Journaled ε α} (same : act before = other before)
    (journals : Journals setting snapshots faults other before allowed) :
    Journals setting snapshots faults act before allowed := by
  unfold Journals Act.Ensures at journals ⊢
  rw [same]
  exact journals

/-- Touching one account after writing another touched one may as well be done first. -/
theorem journals_put_touch {α : Type} {next : Journaled ε α} {new : Account}
    (present : before.state address = some acc)
    (apart : address ≠ target ∨ acc.isTouched ∧ new.isTouched)
    (tail : Journals setting snapshots faults (do touchAccount target; putAccount address new; next)
      before allowed) :
    Journals setting snapshots faults (do putAccount address new; touchAccount target; next) before
      allowed := by
  by_cases at_ : address = target
  · subst at_
    obtain ⟨touched, alsoTouched⟩ := apart.resolve_left fun apart => apart rfl
    apply journals_congr _ tail
    have nothing := touch_touched (ε := ε) before present touched
    have nothingAfter := touch_touched (ε := ε)
      { before with state := update before.state address (some new) }
      (Function.update_self _ _ _) alsoTouched
    rw [Act.bind_apply, putAccount, Act.modify_apply, Act.returned_andThen, Act.bind_apply,
      nothingAfter, Act.bind_apply, nothing]
    rfl
  · rw [put_touch_comm at_]
    exact tail

theorem journals_put_read {α : Type} {next : Account → Journaled ε α} {new : Account}
    (absent : before.state target = none → faults)
    (tail : ∀ other, update before.state address (some new) target = some other →
      Journals setting snapshots faults (do putAccount address new; next other) before allowed) :
    Journals setting snapshots faults
      (do putAccount address new; let other ← account target; next other) before allowed := by
  have written : (putAccount address new : Journaled ε Unit) before =
    .returned () { before with state := update before.state address (some new) } := rfl
  cases found : update before.state address (some new) target with
  | none =>
      apply journals_of_fault _ fun _ => absent (by
        by_cases at_ : target = address
        · subst at_
          rw [Function.update_self] at found
          cases found
        · rwa [Function.update_of_ne at_] at found)
      rw [Act.bind_apply, written, Act.returned_andThen, Act.bind_apply,
        account_fault { before with state := update before.state address (some new) } found,
        Act.fault_andThen]
  | some other =>
      apply journals_congr _ (tail other found)
      rw [Act.bind_apply, written, Act.returned_andThen, Act.bind_apply,
        account_apply { before with state := update before.state address (some new) } found]
      rfl

theorem undone_transfer {state snapshot : State} {other : Account} (balance : U256)
    (present : state source = some acc)
    (found : update state source (some (acc.withBalance (acc.info.balance - balance))) target =
      some other) :
    Undone setting.undo setting.Alike snapshot [.balanceTransfer source target balance] state
      (update (update state source (some (acc.withBalance (acc.info.balance - balance)))) target
        (some (other.withBalance (other.info.balance + balance)))) := by
  apply undone_of_rewind
  have back := changes_back (fun acc => acc.withBalance (acc.info.balance - balance))
    (fun acc => acc.withBalance (acc.info.balance + balance))
    (fun acc => acc.withBalance (acc.info.balance + balance))
    (fun acc => acc.withBalance (acc.info.balance - balance)) present found
    (fun _ => by
      constructor
      · simp only [Account.withBalance, BitVec.sub_add_cancel]
      · simp only [Account.withBalance, BitVec.add_sub_cancel])
    (fun _ => by simp only [Account.withBalance, BitVec.sub_add_cancel, BitVec.add_sub_cancel])
  rw [rewind_cons]
  exact congrArg (Option.bind · (rewind setting.undo [])) back

/-- Taking from one account leaves room for it in any. -/
theorem supply_withdrawn {state : State} {balance : U256} (present : state source = some acc)
    (enough : balance ≤ acc.info.balance) :
    supply db (update state source (some (acc.withBalance (acc.info.balance - balance)))) +
      balance.toNat = supply db state := by
  have total : supply db (update state source
        (some (acc.withBalance (acc.info.balance - balance)))) + balanceAt db state source =
      supply db state + (acc.info.balance - balance).toNat := supply_update _
  have left : (acc.info.balance - balance).toNat = acc.info.balance.toNat - balance.toNat :=
    BitVec.toNat_sub_of_le enough
  have smaller : balance.toNat ≤ acc.info.balance.toNat := enough
  rw [balanceAt_of_some present] at total
  omega

theorem supply_deposited {state : State} {other : Account} {balance : U256}
    (found : state target = some other)
    (room : other.info.balance.toNat + balance.toNat < 2 ^ 256) :
    supply db (update state target (some (other.withBalance (other.info.balance + balance)))) =
      supply db state + balance.toNat := by
  have total : supply db (update state target
        (some (other.withBalance (other.info.balance + balance)))) + balanceAt db state target =
      supply db state + (other.info.balance + balance).toNat := supply_update _
  have sum : (other.info.balance + balance).toNat =
      other.info.balance.toNat + balance.toNat := by
    rw [BitVec.toNat_add]
    exact Nat.mod_eq_of_lt room
  rw [balanceAt_of_some found] at total
  omega

/-- While there is less money than a balance can hold, no transfer overflows, and none of
accounts that are loaded asks the database. -/
theorem transfer_journals (balance : U256) (bounded : supply setting.db before.state < 2 ^ 256) :
    Journals setting snapshots faults (transfer setting.db source target balance) before
      (fun reason => reason = .outOfFund ∨ reason = .fatalExternalError ∧
        (before.state source = none ∨ before.state target = none)) := by
  refine Journals.bind
    (loadAccount_journals.mapError fun _ absent => Or.inr ⟨rfl, Or.inl absent⟩) ?_
  intro _ first ended early
  have gone : first.state target = none → before.state target = none := by
    intro absent
    by_contra known
    have loaded := early.loaded target (Option.isSome_iff_ne_none.mpr known)
    rw [absent] at loaded
    cases loaded
  have sourceLoaded : (first.state source).isSome := by
    obtain ⟨acc, present⟩ := loadAccount_present (Act.mapError_returned ended)
    rw [present]
    rfl
  refine Journals.bind
    (loadAccount_journals.mapError fun _ absent => Or.inr ⟨rfl, Or.inr (gone absent)⟩) ?_
  intro _ second ended alsoEarly
  have targetLoaded : (second.state target).isSome := by
    obtain ⟨acc, present⟩ := loadAccount_present (Act.mapError_returned ended)
    rw [present]
    rfl
  have sourceKept := alsoEarly.loaded source sourceLoaded
  apply Journals.bind
    (touchAccount_journals fun absent => by rw [absent] at sourceKept; cases sourceKept)
  intro _ third ended late
  have targetKept := late.loaded target targetLoaded
  have less : supply setting.db third.state < 2 ^ 256 :=
    Nat.lt_of_le_of_lt (late.supply.trans (alsoEarly.supply.trans early.supply)) bounded
  obtain ⟨⟨acc, present, touched⟩, _⟩ := touchAccount_frame.of_returned ended
  apply journals_bind_reading acc (account_apply _ present)
  by_cases enough : balance ≤ acc.info.balance
  swap
  · rw [checkedSub, if_neg enough, Act.okOr_none]
    exact journals_stop (Or.inl rfl)
  rw [checkedSub, if_pos enough, Act.okOr_some, pure_bind]
  refine journals_put_touch present (Or.inr ⟨touched, by exact touched⟩) ?_
  apply Journals.bind
    (touchAccount_journals fun absent => by rw [absent] at targetKept; cases targetKept)
  intro _ fourth alsoEnded later
  have targetStays := later.loaded target targetKept
  have kept : fourth.state source = some acc :=
    (touchAccount_frame.of_returned alsoEnded).2 source acc present (Or.inr touched)
  apply journals_put_read fun absent => by rw [absent] at targetStays; cases targetStays
  intro other found
  have withdrawn : _ = supply setting.db fourth.state := supply_withdrawn kept enough
  have room : other.info.balance.toNat + balance.toNat < 2 ^ 256 := by
    have part : balanceAt setting.db (update fourth.state source
        (some (acc.withBalance (acc.info.balance - balance)))) target ≤ _ := balance_le_supply
    rw [balanceAt_of_some found] at part
    have fewer := later.supply
    omega
  rw [checkedAdd, if_pos room, Act.okOr_some, pure_bind]
  apply journals_put_put_push
  · exact fun _ _ => undone_transfer balance kept found
  · trivial
  · exact .of_info kept rfl rfl rfl
  · exact .of_info found rfl rfl rfl
  · exact ((supply_deposited found room).trans withdrawn).le

theorem zero_plus (balance : U256) : 0 + balance = balance := BitVec.zero_add balance

theorem undone_destroy {state snapshot : State} {other : Account}
    (apart : source ≠ target) (present : state source = some acc)
    (found : update state source (some { acc.withBalance 0 with isDestroyed := true }) target =
      some other) :
    Undone setting.undo setting.Alike snapshot
      [.accountDestroyed source target acc.isDestroyed acc.info.balance] state
      (update (update state source (some { acc.withBalance 0 with isDestroyed := true })) target
        (some (other.withBalance (other.info.balance + acc.info.balance)))) := by
  apply undone_of_rewind
  have back := changes_back (fun acc => { acc.withBalance 0 with isDestroyed := true })
    (fun other => other.withBalance (other.info.balance + acc.info.balance))
    (fun gone => { gone.withBalance (gone.info.balance + acc.info.balance) with
      isDestroyed := acc.isDestroyed })
    (fun other => other.withBalance (other.info.balance - acc.info.balance)) present found
    (fun _ => by
      constructor
      · simp only [Account.withBalance, zero_plus]
      · simp only [Account.withBalance, BitVec.add_sub_cancel])
    (fun same => absurd same apart)
  rw [rewind_cons, Setting.undo, undo]
  simp only [if_pos apart]
  exact congrArg (Option.bind · (rewind setting.undo [])) back

theorem undone_destroy_self {state snapshot : State} (present : state source = some acc) :
    Undone setting.undo setting.Alike snapshot
      [.accountDestroyed source source acc.isDestroyed acc.info.balance] state
      (update state source (some { acc.withBalance 0 with isDestroyed := true })) := by
  apply undone_of_change
    (fun gone => some { gone.withBalance (gone.info.balance + acc.info.balance) with
      isDestroyed := acc.isDestroyed }) _ present
  · simp only [Account.withBalance, zero_plus]
  · intro other
    rw [Setting.undo, undo]
    simp only [ne_eq, not_true_eq_false, if_false]
    exact bind_pure _

theorem selfdestruct_journals (absent : before.state address = none → faults)
    (bounded : supply setting.db before.state < 2 ^ 256) :
    Journals setting snapshots faults (selfdestruct setting.db address target) before := by
  apply Journals.bind loadAccountExist_journals
  intro value first ended early
  have gone : first.state address = none → faults := by
    intro none_
    by_cases known : before.state address = none
    · exact absent known
    · have loaded := early.loaded address (Option.isSome_iff_ne_none.mpr known)
      rw [none_] at loaded
      cases loaded
  apply journals_account gone
  intro acc present
  have less : supply setting.db first.state < 2 ^ 256 := Nat.lt_of_le_of_lt early.supply bounded
  by_cases apart : address = target
  · subst apart
    simp only [ne_eq, not_true_eq_false, if_false]
    exact journals_put_push _ (fun _ _ => undone_destroy_self present) trivial
      (.of_info present rfl rfl rfl) (Nat.zero_le _) fun _ _ => journals_pure _
  · simp only [ne_eq, apart, not_false_eq_true, if_true]
    have targetLoaded : (first.state target).isSome := by
      obtain ⟨found, there⟩ := loadAccountExist_present ended
      rw [there]
      rfl
    apply journals_put_touch present (Or.inl apart)
    apply Journals.bind
      (touchAccount_journals fun none_ => by rw [none_] at targetLoaded; cases targetLoaded)
    intro _ second ended late
    have targetKept := late.loaded target targetLoaded
    have kept : second.state address = some acc :=
      (touchAccount_frame.of_returned ended).2 address acc present (Or.inl apart)
    apply journals_put_read fun none_ => by rw [none_] at targetKept; cases targetKept
    intro other found
    have withdrawn : supply setting.db (update second.state address
          (some { acc.withBalance 0 with isDestroyed := true })) + acc.info.balance.toNat =
        supply setting.db second.state := by
      have total : supply setting.db (update second.state address
            (some { acc.withBalance 0 with isDestroyed := true })) +
          balanceAt setting.db second.state address = supply setting.db second.state + 0 :=
        supply_update _
      rw [balanceAt_of_some kept, Nat.add_zero] at total
      exact total
    have room : other.info.balance.toNat + acc.info.balance.toNat < 2 ^ 256 := by
      have part : balanceAt setting.db (update second.state address
          (some { acc.withBalance 0 with isDestroyed := true })) target ≤ _ := balance_le_supply
      rw [balanceAt_of_some found] at part
      have fewer := late.supply
      omega
    apply journals_put_put_push
    · exact fun _ _ => undone_destroy apart kept found
    · trivial
    · exact .of_info kept rfl rfl rfl
    · exact .of_info found rfl rfl rfl
    · exact ((supply_deposited found room).trans withdrawn).le

end Moves

section Create

variable {setting : Setting} {snapshots : List State} {faults : Prop} {before : JournaledState}
  {address : Address} {acc : Account}

theorem originalBytes_of_isEmpty {code : Bytecode} (empty : code.isEmpty = true) :
    code.originalBytes = [] := by
  have none : code.len = 0 := by simpa [Bytecode.isEmpty] using empty
  unfold Bytecode.len at none
  unfold Bytecode.originalBytes
  cases kind : code.state with
  | raw =>
      rw [kind] at none
      exact List.eq_nil_of_length_eq_zero none
  | checked len =>
      rw [kind] at none
      simp only [none, List.take_zero]
  | analysed len jumpMap =>
      rw [kind] at none
      simp only [none, List.take_zero]

/-- What is left of an account whose code and storage have been cleared. -/
theorem alikeAt_cleared {known : Option Account}
    (soft : ¬ KeepsTouch setting.isSpuriousDragonEnabled address → ∀ old, known = some old →
      ¬ old.Firm setting.db) :
    AlikeAt setting.db setting.isSpuriousDragonEnabled address known (some (cleared acc))
      (some acc) := by
  refine AlikeAt.of_books soft fun memo notWhole => ?_
  have slots : (fun key => ((acc.storage key).map fun _ => (default : StorageSlot)).map
      fun _ => (default : StorageSlot)) = fun key => (acc.storage key).map fun _ => default := by
    funext key
    rw [Option.map_map]
    rfl
  cases memo with
  | whole => exact absurd rfl notWhole
  | books => simp only [Recall.view, cleared, slots]
  | untouched => simp only [Recall.view, cleared, slots]
  | shape => simp only [Recall.view, cleared, slots]

/-- An account of no nonce with an empty code. -/
theorem soft_of_empty {db : Database} {code : Bytecode} (has : acc.info.code = some code)
    (empty : code.isEmpty = true) (noNonce : ¬ acc.info.nonce ≠ 0) : ¬ acc.Firm db := by
  rintro (nonce | coded)
  · exact noNonce nonce
  · rw [has] at coded
    exact coded (congrArg some (originalBytes_of_isEmpty empty))

/-- An account that has neither nonce nor code had neither before. -/
theorem soft_before {origin : State} (kept : setting.KeptAll origin before.state)
    (present : before.state address = some acc) (soft : ¬ acc.Firm setting.db)
    (ordinary : ¬ KeepsTouch setting.isSpuriousDragonEnabled address) :
    ∀ old, origin address = some old → ¬ old.Firm setting.db := by
  intro old known firm
  obtain ⟨now, there, firmNow⟩ := (kept address).firm ordinary old known firm
  rw [present] at there
  cases there
  exact soft firmNow

/-- Clearing an account leaves no entry. It is only done to one that has neither nonce nor code,
and had neither in any state that a revert may go back to. -/
theorem createAccount_journals (isPrecompile : Bool)
    (lasting : ∀ origin ∈ snapshots, setting.KeptAll origin before.state) :
    Journals setting snapshots faults (createAccount setting.db address isPrecompile) before := by
  apply Journals.bind loadCode_journals
  intro value middle ended early
  obtain ⟨acc, isCold⟩ := value
  obtain ⟨present, fetched⟩ := loadCode_found.of_returned ended
  obtain ⟨code, has⟩ := Option.isSome_iff_exists.mp fetched
  dsimp only at present has ⊢
  split
  · exact journals_pure _
  · rename_i notFull
    have empty : code.isEmpty = true := by
      rw [has] at notFull
      simpa using notFull
    split
    · exact journals_pure _
    · rename_i noNonce
      split
      · exact journals_pure _
      · have softBefore : ∀ origin ∈ snapshots,
            ¬ KeepsTouch setting.isSpuriousDragonEnabled address →
            ∀ old, origin address = some old → ¬ old.Firm setting.db :=
          fun origin member => soft_before (early.kept origin member (lasting origin member)) present
            (soft_of_empty has empty noNonce)
        refine journals_put (fun snapshot member => ?_) ⟨fun origin member kept => ?_,
          fun code same => by cases same⟩ (balanceAt_of_some present).ge ?_
        · rw [present]
          exact alikeAt_cleared (softBefore snapshot member)
        · rw [present] at kept
          exact ⟨fun _ => rfl, kept.nonce, fun ordinary old known firm =>
            absurd firm (softBefore origin member ordinary old known)⟩
        · split
          · rename_i untouched
            have notYet : acc.isTouched = false := by simpa using untouched
            refine journals_put_push _ (fun _ _ => ?_) trivial
              (.of_info (Function.update_self _ _ _) rfl rfl rfl) ?_ fun _ _ => journals_pure _
            · exact undone_touch (Function.update_self _ _ _) notYet
            · rw [balanceAt_of_some (Function.update_self _ _ _)]
          · exact journals_pure _

/-- Where an account is made there was neither nonce nor code in any state that a revert may go
back to. -/
theorem createAccount_made (isPrecompile : Bool)
    (lasting : ∀ origin ∈ snapshots, setting.KeptAll origin before.state) :
    Act.Ensures (createAccount setting.db address isPrecompile) before
      (fun made after => made = true → (after.state address).isSome ∧
        (¬ KeepsTouch setting.isSpuriousDragonEnabled address → ∀ origin ∈ snapshots,
          ∀ old, origin address = some old → ¬ old.Firm setting.db))
      (fun _ _ => True) True := by
  have journals : Journals setting snapshots True (loadCode setting.db address) before :=
    loadCode_journals
  apply Act.Ensures.bind
  refine (loadCode_found.and (journals fun _ => trivial)).mono ?_ fun _ _ _ => trivial
  rintro ⟨acc, isCold⟩ middle ⟨⟨present, fetched⟩, early⟩
  obtain ⟨code, has⟩ := Option.isSome_iff_exists.mp fetched
  dsimp only at present has ⊢
  split
  · exact fun refused => nomatch refused
  rename_i notFull
  have empty : code.isEmpty = true := by
    rw [has] at notFull
    simpa using notFull
  split
  · exact fun refused => nomatch refused
  rename_i noNonce
  split
  · exact fun refused => nomatch refused
  have softs : ¬ KeepsTouch setting.isSpuriousDragonEnabled address → ∀ origin ∈ snapshots,
      ∀ old, origin address = some old → ¬ old.Firm setting.db :=
    fun ordinary origin member => soft_before (early.kept origin member (lasting origin member))
      present (soft_of_empty has empty noNonce) ordinary
  apply Act.Ensures.bind
  apply Act.ensures_modify
  split
  · apply Act.Ensures.bind
    apply Act.ensures_modify
    apply Act.Ensures.bind
    unfold Act.Ensures push
    dsimp only
    cases middle.journal with
    | nil => trivial
    | cons frame frames =>
        refine fun _ => ⟨?_, softs⟩
        dsimp only
        rw [Function.update_self]
        rfl
  · refine fun _ => ⟨?_, softs⟩
    dsimp only
    rw [Function.update_self]
    rfl

end Create

section Answers

variable {db : Database} {before : JournaledState} {address : Address}

theorem loadAccount_answers (answers : db.Answers) :
    Act.Ensures (loadAccount db address) before (fun _ _ => True) (fun _ _ => False) True := by
  apply Act.Ensures.bind
  apply Act.ensures_get
  cases before.state address with
  | some acc => trivial
  | none =>
      obtain ⟨found, has⟩ := Option.isSome_iff_exists.mp (answers.basic address)
      dsimp only
      rw [has, fetch, pure_bind]
      apply Act.Ensures.bind
      unfold Act.Ensures push
      cases before.journal with
      | nil => trivial
      | cons frame frames => trivial

theorem loadCode_answers (answers : db.Answers) :
    Act.Ensures (loadCode db address) before (fun _ _ => True) (fun _ _ => False) True := by
  apply Act.Ensures.bind
  refine (loadAccount_answers answers).mono ?_ fun _ _ never => never
  rintro ⟨acc, isCold⟩ middle -
  dsimp only
  split
  · split
    · trivial
    · obtain ⟨code, has⟩ := Option.isSome_iff_exists.mp (answers.codeByHash acc.info.codeHash)
      rw [has]
      trivial
  · trivial

/-- With a database that has no errors an account is made, or refused. -/
theorem createAccount_answers (answers : db.Answers) (isPrecompile : Bool) :
    Act.Ensures (createAccount db address isPrecompile) before (fun _ _ => True)
      (fun _ _ => False) True := by
  apply Act.Ensures.bind
  refine (loadCode_answers answers).mono ?_ fun _ _ never => never
  rintro ⟨acc, isCold⟩ middle -
  dsimp only
  split
  · trivial
  split
  · trivial
  split
  · trivial
  apply Act.Ensures.bind
  apply Act.ensures_modify
  split
  · apply Act.Ensures.bind
    apply Act.ensures_modify
    apply Act.Ensures.bind
    unfold Act.Ensures push
    dsimp only
    cases middle.journal with
    | nil => trivial
    | cons frame frames => trivial
  · trivial

end Answers

end JournaledState

end Revm
