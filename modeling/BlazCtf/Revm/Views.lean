import BlazCtf.Lib.Ledger
import BlazCtf.Lib.UndoLog
import BlazCtf.Revm.JournaledState

set_option autoImplicit false

namespace Revm

open Evm Machine UndoLog
open Function (update)

/-- The code of an account, whether or not it has been fetched. -/
def Database.codeOf (db : Database) (codeHash : U256) (code : Option Bytecode) : Option Bytes :=
  match code with
  | some code => some code.originalBytes
  | none =>
      if codeHash = KECCAK_EMPTY then some []
      else (db.codeByHash codeHash).map Bytecode.originalBytes

/-- What the program can find out about an account. `unread` is what the first read of a slot
finds. -/
@[ext] structure AccountView where
  balance : U256
  nonce : Nat
  codeHash : U256
  code : Option Bytes
  isDestroyed : Bool
  isTouched : Bool
  isNotExisting : Bool
  storage : U256 → Option StorageSlot
  unread : U256 → Option U256

def Account.view (db : Database) (address : Address) (account : Account) : AccountView where
  balance := account.info.balance
  nonce := account.info.nonce
  codeHash := account.info.codeHash
  code := db.codeOf account.info.codeHash account.info.code
  isDestroyed := account.isDestroyed
  isTouched := account.isTouched
  isNotExisting := account.isNotExisting
  storage := account.storage
  unread := account.unread db address

/-- The account has a nonce or code, so that no contract can be created at its address. -/
def Account.Firm (db : Database) (account : Account) : Prop :=
  account.info.nonce ≠ 0 ∨ db.codeOf account.info.codeHash account.info.code ≠ some []

/-- The account that loading an address puts into the state. -/
def Database.fresh (db : Database) (address : Address) : Account :=
  Account.ofBasic ((db.basic address).getD none)

/-- The balance that the program would see at an address. -/
def balanceAt (db : Database) (state : State) (address : Address) : Nat :=
  ((state address).getD (db.fresh address)).info.balance.toNat

/-- All the money there is. -/
def supply (db : Database) (state : State) : Nat := ∑ address, balanceAt db state address

/-- How much of an account a revert has to bring back: all of it, all but its code and what is in
its storage, of that all but whether it was touched, or only what undoing its own entries needs,
since it will be removed. -/
inductive Recall where
  | whole
  | books
  | untouched
  | shape

def Recall.view (memo : Recall) (db : Database) (address : Address) (account : Account) :
    AccountView :=
  match memo with
  | .whole => account.view db address
  | .books =>
      ⟨account.info.balance, account.info.nonce, 0, none, account.isDestroyed, account.isTouched,
        account.isNotExisting, fun key => (account.storage key).map fun _ => default,
        fun _ => none⟩
  | .untouched =>
      ⟨account.info.balance, account.info.nonce, 0, none, account.isDestroyed, false,
        account.isNotExisting, fun key => (account.storage key).map fun _ => default,
        fun _ => none⟩
  | .shape =>
      ⟨0, account.info.nonce, 0, none, false, false, false,
        fun key => (account.storage key).map fun _ => default, fun _ => none⟩

/-- The third precompile stays loaded and touched since Spurious Dragon. -/
abbrev KeepsTouch (isSpuriousDragonEnabled : Bool) (address : Address) : Prop :=
  isSpuriousDragonEnabled ∧ address = JournaledState.PRECOMPILE3

/-- Alike for one who will go back to a state where the account was `known`. Where there was
neither nonce nor code, a contract may be created, and the journal does not say what its code
and storage were before. -/
def AlikeAt (db : Database) (isSpuriousDragonEnabled : Bool) (address : Address)
    (known first second : Option Account) : Prop :=
  if KeepsTouch isSpuriousDragonEnabled address then
    (second.isSome → first.isSome) ∧
      Recall.untouched.view db address (first.getD (db.fresh address)) =
        Recall.untouched.view db address (second.getD (db.fresh address))
  else
    match known with
    | some old =>
        first.map (Recall.books.view db address) = second.map (Recall.books.view db address) ∧
        (old.Firm db →
          first.map (Recall.whole.view db address) = second.map (Recall.whole.view db address))
    | none =>
        first.map (Recall.shape.view db address) = second.map (Recall.shape.view db address)

def Alike (db : Database) (isSpuriousDragonEnabled : Bool) (snapshot first second : State) :
    Prop :=
  ∀ address, AlikeAt db isSpuriousDragonEnabled address (snapshot address) (first address)
    (second address)

theorem Recall.view_of_whole {db : Database} {address : Address} {first second : Account}
    (memo : Recall) (same : first.view db address = second.view db address) :
    memo.view db address first = memo.view db address second := by
  have balance : first.info.balance = second.info.balance := congrArg AccountView.balance same
  have nonce : first.info.nonce = second.info.nonce := congrArg AccountView.nonce same
  have isDestroyed : first.isDestroyed = second.isDestroyed :=
    congrArg AccountView.isDestroyed same
  have isTouched : first.isTouched = second.isTouched := congrArg AccountView.isTouched same
  have isNotExisting : first.isNotExisting = second.isNotExisting :=
    congrArg AccountView.isNotExisting same
  have storage : first.storage = second.storage := congrArg AccountView.storage same
  cases memo with
  | whole => exact same
  | books =>
      simp only [Recall.view, balance, nonce, isDestroyed, isTouched, isNotExisting, storage]
  | untouched => simp only [Recall.view, balance, nonce, isDestroyed, isNotExisting, storage]
  | shape => simp only [Recall.view, nonce, storage]

/-- A change of one account that does to alike accounts alike things. -/
def Respectful (db : Database) (address : Address) (with_ : Account → Option Account) : Prop :=
  ∀ (memo : Recall) first second changed,
    memo.view db address first = memo.view db address second →
    with_ second = some changed →
    ∃ other, with_ first = some other ∧
      memo.view db address other = memo.view db address changed

section Supply

variable {db : Database} {state : State} {address : Address} {acc : Account}

theorem balanceAt_of_some (present : state address = some acc) :
    balanceAt db state address = acc.info.balance.toNat := by
  rw [balanceAt, present, Option.getD_some]

theorem balanceAt_of_none (absent : state address = none) :
    balanceAt db state address = (db.fresh address).info.balance.toNat := by
  rw [balanceAt, absent, Option.getD_none]

theorem balanceAt_update (account : Account) :
    balanceAt db (update state address (some account)) =
      update (balanceAt db state) address account.info.balance.toNat := by
  funext place
  by_cases at_ : place = address
  · subst at_
    rw [balanceAt, Function.update_self, Function.update_self, Option.getD_some]
  · rw [balanceAt, Function.update_of_ne at_, Function.update_of_ne at_, balanceAt]

theorem supply_update (account : Account) :
    supply db (update state address (some account)) + balanceAt db state address =
      supply db state + account.info.balance.toNat := by
  unfold supply
  rw [balanceAt_update]
  exact Ledger.sum_update_add Finset.univ id (balanceAt db state) (Finset.mem_univ address) _

/-- A write that leaves the balance as it was, or takes of it. -/
theorem supply_write {account : Account}
    (poorer : account.info.balance.toNat ≤ balanceAt db state address) :
    supply db (update state address (some account)) ≤ supply db state := by
  have total : supply db (update state address (some account)) + balanceAt db state address =
      supply db state + account.info.balance.toNat := supply_update account
  omega

theorem balance_le_supply : balanceAt db state address ≤ supply db state :=
  Finset.single_le_sum (fun _ _ => Nat.zero_le _) (Finset.mem_univ address)

end Supply

section AlikeAt

variable {db : Database} {sd : Bool} {address : Address}
  {known first second third : Option Account}

theorem AlikeAt.refl (account : Option Account) : AlikeAt db sd address known account account := by
  unfold AlikeAt
  split
  · exact ⟨id, rfl⟩
  · cases known with
    | some old => exact ⟨rfl, fun _ => rfl⟩
    | none => rfl

theorem AlikeAt.trans (left : AlikeAt db sd address known first second)
    (right : AlikeAt db sd address known second third) :
    AlikeAt db sd address known first third := by
  unfold AlikeAt at left right ⊢
  split at left
  · rename_i special
    rw [if_pos special] at right ⊢
    exact ⟨left.1 ∘ right.1, left.2.trans right.2⟩
  · rename_i special
    rw [if_neg special] at right ⊢
    cases known with
    | some old => exact ⟨left.1.trans right.1, fun firm => (left.2 firm).trans (right.2 firm)⟩
    | none => exact left.trans right

/-- The accounts of alike states are there together, and alike in what is to be recalled. -/
theorem AlikeAt.account {acc : Account} (same : AlikeAt db sd address known first (some acc)) :
    ∃ (memo : Recall) (other : Account), first = some other ∧
      memo.view db address other = memo.view db address acc ∧
      ∀ one two, memo.view db address one = memo.view db address two →
        AlikeAt db sd address known (some one) (some two) := by
  unfold AlikeAt at same ⊢
  split at same
  · rename_i special
    obtain ⟨other, rfl⟩ := Option.isSome_iff_exists.mp (same.1 rfl)
    refine ⟨.untouched, other, rfl, same.2, ?_⟩
    intro one two agree
    rw [if_pos special]
    exact ⟨fun _ => rfl, agree⟩
  · rename_i special
    simp only [if_neg special]
    cases known with
    | some old =>
        by_cases firm : old.Firm db
        · obtain ⟨other, rfl, agrees⟩ := Option.map_eq_some_iff.mp (same.2 firm)
          refine ⟨.whole, other, rfl, agrees, ?_⟩
          intro one two agree
          exact ⟨congrArg some (Recall.books.view_of_whole agree), fun _ => congrArg some agree⟩
        · obtain ⟨other, rfl, agrees⟩ := Option.map_eq_some_iff.mp same.1
          refine ⟨.books, other, rfl, agrees, ?_⟩
          intro one two agree
          exact ⟨congrArg some agree, fun firmly => absurd firmly firm⟩
    | none =>
        obtain ⟨other, rfl, agrees⟩ := Option.map_eq_some_iff.mp same
        exact ⟨.shape, other, rfl, agrees, fun one two agree => congrArg some agree⟩

/-- An account that seems the same was alike all the time. -/
theorem AlikeAt.of_view {one two : Account}
    (agree : one.view db address = two.view db address) :
    AlikeAt db sd address known (some one) (some two) := by
  unfold AlikeAt
  split
  · exact ⟨fun _ => rfl, Recall.untouched.view_of_whole agree⟩
  · cases known with
    | some old =>
        exact ⟨congrArg some (Recall.books.view_of_whole agree), fun _ => congrArg some agree⟩
    | none => exact congrArg some (Recall.shape.view_of_whole agree)

/-- Another code or storage does not matter where there was neither nonce nor code. -/
theorem AlikeAt.of_books {one two : Account}
    (soft : ¬ KeepsTouch sd address → ∀ old, known = some old → ¬ old.Firm db)
    (agree : ∀ memo : Recall, memo ≠ .whole → memo.view db address one = memo.view db address two) :
    AlikeAt db sd address known (some one) (some two) := by
  unfold AlikeAt
  split
  · exact ⟨fun _ => rfl, agree .untouched (by simp)⟩
  · rename_i ordinary
    cases known with
    | some old =>
        exact ⟨congrArg some (agree .books (by simp)),
          fun firm => absurd firm (soft ordinary old rfl)⟩
    | none => exact congrArg some (agree .shape (by simp))

end AlikeAt

section Alike

variable {db : Database} {sd : Bool} {snapshot first second third back : State}
  {address : Address} {with_ : Account → Option Account}

theorem Alike.refl (state : State) : Alike db sd snapshot state state :=
  fun _ => AlikeAt.refl _

theorem Alike.trans (left : Alike db sd snapshot first second)
    (right : Alike db sd snapshot second third) : Alike db sd snapshot first third :=
  fun address => (left address).trans (right address)

theorem Alike.update {one two : Option Account} (same : Alike db sd snapshot first second)
    (here : AlikeAt db sd address (snapshot address) one two) :
    Alike db sd snapshot (update first address one) (update second address two) := by
  intro place
  by_cases at_ : place = address
  · subst at_
    rw [Function.update_self, Function.update_self]
    exact here
  · rw [Function.update_of_ne at_, Function.update_of_ne at_]
    exact same place

/-- What is done to one account only has to be alike there. -/
theorem Alike.update_left {one : Option Account}
    (here : AlikeAt db sd address (snapshot address) one (second address)) :
    Alike db sd snapshot (Function.update second address one) second := by
  have both := (Alike.refl second : Alike db sd snapshot second second).update here
  rwa [Function.update_eq_self] at both

theorem change_eq_some {state changed : State} (done : JournaledState.change state address with_ =
    some changed) : ∃ acc new, state address = some acc ∧ with_ acc = some new ∧
      changed = update state address (some new) := by
  simp only [JournaledState.change, Option.bind_eq_bind, Option.bind_eq_some_iff,
    Option.pure_def, Option.some.injEq] at done
  obtain ⟨acc, present, new, made, rfl⟩ := done
  exact ⟨acc, new, present, made, rfl⟩

theorem change_of_some (with_ : Account → Option Account) {state : State} {acc new : Account}
    (present : state address = some acc)
    (made : with_ acc = some new) :
    JournaledState.change state address with_ = some (update state address (some new)) := by
  simp only [JournaledState.change, present, made, Option.bind_eq_bind, Option.bind_some,
    Option.pure_def]

theorem Alike.change (same : Alike db sd snapshot first second)
    (respects : Respectful db address with_)
    (changed : JournaledState.change second address with_ = some back) :
    ∃ other, JournaledState.change first address with_ = some other ∧
      Alike db sd snapshot other back := by
  obtain ⟨acc, new, present, made, rfl⟩ := change_eq_some changed
  have here := same address
  rw [present] at here
  obtain ⟨memo, other, found, agrees, alike⟩ := here.account
  obtain ⟨made', done, agree⟩ := respects memo other acc new agrees made
  exact ⟨_, change_of_some _ found done, same.update (alike made' new agree)⟩

end Alike

section Undo

variable {db : Database} {sd : Bool} {snapshot first second back : State} {address : Address}

/-- A change that always succeeds and shows in the view as a change of the view. -/
theorem Respectful.of_view (with_ : Account → Account) (seen : Recall → AccountView → AccountView)
    (shows : ∀ (memo : Recall) acc,
      memo.view db address (with_ acc) = seen memo (memo.view db address acc)) :
    Respectful db address fun acc => some (with_ acc) := by
  intro memo first second changed agree made
  cases made
  exact ⟨with_ first, rfl, by rw [shows, shows, agree]⟩

theorem respectful_untouch :
    Respectful db address fun acc => some { acc with isTouched := false } :=
  Respectful.of_view (fun acc => { acc with isTouched := false })
    (fun _ view => { view with isTouched := false })
    (fun memo acc => by cases memo <;> rfl)

/-- A change that shows in all views but shapes. -/
def Recall.unlessShape (memo : Recall) (seen : AccountView → AccountView) (view : AccountView) :
    AccountView :=
  match memo with
  | .whole | .books | .untouched => seen view
  | .shape => view

/-- A change that shows in whole views only. -/
def Recall.ifWhole (memo : Recall) (seen : AccountView → AccountView) (view : AccountView) :
    AccountView :=
  match memo with
  | .whole => seen view
  | .books | .untouched | .shape => view

theorem respectful_balance (with_ : U256 → U256) :
    Respectful db address fun acc => some (acc.withBalance (with_ acc.info.balance)) :=
  Respectful.of_view (fun acc => acc.withBalance (with_ acc.info.balance))
    (fun memo => memo.unlessShape fun view => { view with balance := with_ view.balance })
    (fun memo acc => by cases memo <;> rfl)

theorem respectful_undestroy (wasDestroyed : Bool) (hadBalance : U256) :
    Respectful db address fun acc =>
      some { acc.withBalance (acc.info.balance + hadBalance) with isDestroyed := wasDestroyed } :=
  Respectful.of_view
    (fun acc =>
      { acc.withBalance (acc.info.balance + hadBalance) with isDestroyed := wasDestroyed })
    (fun memo => memo.unlessShape fun view =>
      { view with isDestroyed := wasDestroyed, balance := view.balance + hadBalance })
    (fun memo acc => by cases memo <;> rfl)

theorem respectful_code (code : Bytecode) :
    Respectful db address fun acc =>
      some { acc with info := { acc.info with codeHash := code.hash, code := some code } } :=
  Respectful.of_view
    (fun acc => { acc with info := { acc.info with codeHash := code.hash, code := some code } })
    (fun memo => memo.ifWhole fun view =>
      { view with codeHash := code.hash, code := some code.originalBytes })
    (fun memo acc => by cases memo <;> rfl)

theorem Recall.nonce_eq {memo : Recall} {one two : Account}
    (agree : memo.view db address one = memo.view db address two) :
    one.info.nonce = two.info.nonce := by
  cases memo <;> exact congrArg AccountView.nonce agree

theorem respectful_nonce :
    Respectful db address fun acc =>
      if acc.info.nonce = 0 then none
      else some { acc with info := { acc.info with nonce := acc.info.nonce - 1 } } := by
  intro memo first second changed agree made
  beta_reduce at made ⊢
  have nonces : first.info.nonce = second.info.nonce := memo.nonce_eq agree
  by_cases zero : second.info.nonce = 0
  · rw [if_pos zero] at made
    cases made
  · rw [if_neg zero, Option.some.injEq] at made
    subst made
    refine ⟨_, if_neg (nonces ▸ zero), ?_⟩
    have shows : ∀ acc : Account,
        memo.view db address { acc with info := { acc.info with nonce := acc.info.nonce - 1 } } =
          (fun view => { view with nonce := view.nonce - 1 }) (memo.view db address acc) := by
      intro acc
      cases memo <;> rfl
    rw [shows, shows, agree]

/-- What is recalled of a slot. -/
def Recall.slot (memo : Recall) (slot : Option StorageSlot) : Option StorageSlot :=
  match memo with
  | .whole => slot
  | .books | .untouched | .shape => slot.map fun _ => default

theorem Recall.view_storage (memo : Recall) (acc : Account) :
    (memo.view db address acc).storage = fun key => memo.slot (acc.storage key) := by
  cases memo <;> rfl

theorem Recall.slots_together {memo : Recall} {one two : Account}
    (agree : memo.view db address one = memo.view db address two) (key : U256) :
    (one.storage key).isSome = (two.storage key).isSome := by
  have slots := congrArg (fun view => (view.storage key).isSome) agree
  simp only [memo.view_storage] at slots
  cases memo with
  | whole => exact slots
  | books => simpa only [Recall.slot, Option.isSome_map] using slots
  | untouched => simpa only [Recall.slot, Option.isSome_map] using slots
  | shape => simpa only [Recall.slot, Option.isSome_map] using slots

theorem Recall.view_update (memo : Recall) (acc : Account) (key : U256)
    (slot : Option StorageSlot) :
    memo.view db address { acc with storage := update acc.storage key slot } =
      { memo.view db address acc with
        storage := update (memo.view db address acc).storage key (memo.slot slot) } := by
  have inside := Function.comp_update memo.slot acc.storage key slot
  have storage : (memo.view db address
        { acc with storage := update acc.storage key slot }).storage =
      update (memo.view db address acc).storage key (memo.slot slot) := by
    rw [memo.view_storage, memo.view_storage]
    exact inside
  cases memo <;> exact AccountView.ext rfl rfl rfl rfl rfl rfl rfl storage rfl

theorem respectful_unload (key : U256) :
    Respectful db address fun acc =>
      some { acc with storage := update acc.storage key none } :=
  Respectful.of_view (fun acc => { acc with storage := update acc.storage key none })
    (fun memo view => { view with storage := update view.storage key (memo.slot none) })
    (fun memo acc => memo.view_update acc key none)

theorem respectful_restore (key value : U256) :
    Respectful db address fun acc => (acc.storage key).map fun slot =>
      { acc with storage := update acc.storage key (some { slot with presentValue := value }) } := by
  intro memo first second changed agree made
  obtain ⟨slot, present, rfl⟩ := Option.map_eq_some_iff.mp made
  have together := memo.slots_together agree key
  rw [present, Option.isSome_some] at together
  obtain ⟨other, found⟩ := Option.isSome_iff_exists.mp together
  refine ⟨_, Option.map_eq_some_iff.mpr ⟨other, found, rfl⟩, ?_⟩
  have slots : memo.slot (some { other with presentValue := value }) =
      memo.slot (some { slot with presentValue := value }) := by
    cases memo with
    | books => rfl
    | untouched => rfl
    | shape => rfl
    | whole =>
        have both := congrArg (fun view => view.storage key) agree
        simp only [Recall.view, Account.view, found, present, Option.some.injEq] at both
        rw [both]
  rw [memo.view_update, memo.view_update, agree, slots]

/-- Undoing an entry takes alike states to alike states. -/
theorem undo_alike (entry : JournalEntry) (same : Alike db sd snapshot first second)
    (undone : JournaledState.undo sd entry second = some back) :
    ∃ other, JournaledState.undo sd entry first = some other ∧ Alike db sd snapshot other back := by
  cases entry with
  | accountLoaded address =>
      simp only [JournaledState.undo] at undone ⊢
      split at undone
      · rename_i special
        cases undone
        rw [if_pos special]
        exact ⟨first, rfl, same⟩
      · rename_i special
        cases undone
        rw [if_neg special]
        exact ⟨_, rfl, same.update (AlikeAt.refl none)⟩
  | accountTouched address =>
      simp only [JournaledState.undo] at undone ⊢
      split at undone
      · rename_i special
        cases undone
        rw [if_pos special]
        exact ⟨first, rfl, same⟩
      · rename_i special
        rw [if_neg special]
        exact same.change respectful_untouch undone
  | accountDestroyed address target wasDestroyed hadBalance =>
      simp only [JournaledState.undo, Option.bind_eq_bind, Option.bind_eq_some_iff] at undone ⊢
      obtain ⟨middle, one, undone⟩ := undone
      obtain ⟨other, done, alike⟩ := same.change (respectful_undestroy wasDestroyed hadBalance) one
      split at undone
      · rename_i apart
        obtain ⟨last, alsoDone, finally_⟩ :=
          alike.change (respectful_balance fun balance => balance - hadBalance) undone
        exact ⟨last, ⟨other, done, by rw [if_pos apart]; exact alsoDone⟩, finally_⟩
      · rename_i apart
        cases undone
        exact ⟨other, ⟨other, done, by rw [if_neg apart]⟩, alike⟩
  | balanceTransfer source target balance =>
      simp only [JournaledState.undo, Option.bind_eq_bind, Option.bind_eq_some_iff] at undone ⊢
      obtain ⟨middle, one, undone⟩ := undone
      obtain ⟨other, done, alike⟩ := same.change (respectful_balance fun had => had + balance) one
      obtain ⟨last, alsoDone, finally_⟩ :=
        alike.change (respectful_balance fun had => had - balance) undone
      exact ⟨last, ⟨other, done, alsoDone⟩, finally_⟩
  | nonceChange address => exact same.change respectful_nonce undone
  | storageChange address key hadValue =>
      cases hadValue with
      | none => exact same.change (respectful_unload key) undone
      | some value => exact same.change (respectful_restore key value) undone
  | codeChange address hadCode => exact same.change (respectful_code hadCode) undone

/-- The rules of going back over the journal. -/
theorem undo_discipline (db : Database) (sd : Bool) :
    Discipline (JournaledState.undo sd) (Alike db sd) where
  refl _ state := Alike.refl state
  trans _ _ _ _ left right := left.trans right
  step _ entry _ _ _ same undone := undo_alike entry same undone

theorem journalRevert_eq_rewind (entries : List JournalEntry) (state : State) :
    JournaledState.journalRevert sd entries state =
      rewind (JournaledState.undo sd) entries state := by
  induction entries generalizing state with
  | nil => rfl
  | cons entry older ih =>
      rw [JournaledState.journalRevert, rewind_cons]
      cases JournaledState.undo sd entry state with
      | none => rfl
      | some next => exact ih next

end Undo

end Revm
