import BlazCtf.EightInch.SimpleErc20
import BlazCtf.Lib.Run

set_option autoImplicit false

namespace EightInch

namespace SimpleERC20

open Evm
open Function (update)

/-- A `uint256` argument. -/
abbrev Amount := Fin (2 ^ 256)

/-- A transaction that changes the token. -/
inductive Call where
  | transfer (msgSender recipient : Address) (value : Amount)
  | approve (msgSender spender : Address) (value : Amount)
  | transferFrom (msgSender sender recipient : Address) (value : Amount)
  deriving DecidableEq

def call (token : SimpleERC20) : Call → Outcome SimpleERC20
  | .transfer msgSender recipient value =>
      Prod.fst <$> token.transfer msgSender recipient value
  | .approve msgSender spender value => Prod.fst <$> token.approve msgSender spender value
  | .transferFrom msgSender sender recipient value =>
      Prod.fst <$> token.transferFrom msgSender sender recipient value

/-- What a call takes out of the balance of an account by its arguments. -/
def Call.debit (account : Address) : Call → Nat
  | .transfer msgSender _ value => if msgSender = account then value else 0
  | .approve _ _ _ => 0
  | .transferFrom _ sender _ value => if sender = account then value else 0

/-- What a call adds to the balance of an account by its arguments. -/
def Call.credit (account : Address) : Call → Nat
  | .transfer _ recipient value => if recipient = account then value else 0
  | .approve _ _ _ => 0
  | .transferFrom _ _ recipient value => if recipient = account then value else 0

/-- A call that has succeeded, with all balances before and after it. -/
structure Entry where
  made : Call
  before : Address → Nat
  after : Address → Nat

/-- What has moved out of an account, by its balance: how far that is below what it
had together with what the call added to it. -/
def Entry.movedOut (entry : Entry) (account : Address) : Nat :=
  entry.before account + entry.made.credit account - entry.after account

/-- The token with the calls that have succeeded so far, the newest first. -/
structure Recorded where
  token : SimpleERC20
  done : List Entry

def Recorded.call (book : Recorded) (made : Call) : Outcome Recorded := do
  let token ← book.token.call made
  pure ⟨token, ⟨made, book.token.balanceOf, token.balanceOf⟩ :: book.done⟩

/-- The value of the last `approve(spender, value)` by the owner, zero before the first one. -/
def approved (owner spender : Address) : List Entry → Nat
  | [] => 0
  | entry :: older =>
      match entry.made with
      | .approve msgSender allowed value =>
          if msgSender = owner ∧ allowed = spender then value else approved owner spender older
      | _ => approved owner spender older

/-- What has moved out of the owner since then in calls of `transferFrom` by the spender. -/
def spent (owner spender : Address) : List Entry → Nat
  | [] => 0
  | entry :: older =>
      match entry.made with
      | .approve msgSender allowed _ =>
          if msgSender = owner ∧ allowed = spender then 0 else spent owner spender older
      | .transferFrom msgSender sender _ _ =>
          if sender = owner ∧ msgSender = spender then
            spent owner spender older + entry.movedOut owner
          else spent owner spender older
      | .transfer _ _ _ => spent owner spender older

/-- The balances after a call are those before it with what the call takes and adds. -/
def Entry.Moves (entry : Entry) : Prop :=
  ∀ account, entry.after account + entry.made.debit account =
    entry.before account + entry.made.credit account

/-- The laws of the books: all balances add up to the supply, every call has moved what
it names, and what is left of an allowance is what has not been spent of it. -/
structure Balanced (supply : Nat) (book : Recorded) : Prop where
  total : book.token.totalSupply = supply
  balances : ∑ account, book.token.balanceOf account = supply
  moves : ∀ entry ∈ book.done, entry.Moves
  allowances : ∀ owner spender,
    spent owner spender book.done + book.token.allowance owner spender =
      approved owner spender book.done

section Steps

variable {token after : SimpleERC20} {book next : Recorded} {made : Call} {supply : Nat}

theorem call_map_ok {outcome : Outcome (SimpleERC20 × Bool)}
    (success : Prod.fst <$> outcome = .ok after) : ∃ result, outcome = .ok (after, result) := by
  cases outcome with
  | error reason => cases success
  | ok value =>
    obtain ⟨token, result⟩ := value
    obtain rfl : token = after := Except.ok.inj success
    exact ⟨result, rfl⟩

theorem Recorded.call_ok (success : book.call made = .ok next) :
    book.token.call made = .ok next.token ∧
      next.done = ⟨made, book.token.balanceOf, next.token.balanceOf⟩ :: book.done := by
  simp only [Recorded.call, bind_ok_iff, pure_ok_iff] at success
  obtain ⟨token, called, rfl⟩ := success
  exact ⟨called, rfl⟩

theorem deploy_balanced (msgSender : Address) (supply : Nat) :
    Balanced supply ⟨deploy msgSender supply, []⟩ where
  total := rfl
  balances := by
    have minted := Ledger.sum_update_add Finset.univ (fun n : Nat => n) (fun _ : Address => 0)
      (Finset.mem_univ msgSender) supply
    rw [Finset.sum_const_zero, Nat.add_zero, Nat.zero_add] at minted
    exact minted
  moves entry member := by cases member
  allowances _ _ := rfl

/-- A move on the books of one account. -/
theorem move_entry {balance : Address → Nat} {sender : Address} {value : Nat}
    (funded : value ≤ balance sender) (recipient account : Address) :
    Ledger.move balance sender recipient value account +
        (if sender = account then value else 0) =
      balance account + (if recipient = account then value else 0) := by
  have sums := Ledger.sum_move_on {account} recipient funded
  simpa only [Finset.sum_singleton, Finset.mem_singleton] using sums

theorem Balanced.transfer {msgSender recipient : Address} {value : Amount}
    (balanced : Balanced supply book)
    (success : book.token.call (.transfer msgSender recipient value) = .ok after) :
    Balanced supply ⟨after, ⟨.transfer msgSender recipient value, book.token.balanceOf,
      after.balanceOf⟩ :: book.done⟩ := by
  obtain ⟨result, returned⟩ := call_map_ok success
  obtain ⟨funded, rfl⟩ := transfer_ok returned
  refine ⟨balanced.total, (Ledger.sum_move funded).trans balanced.balances, ?_,
    balanced.allowances⟩
  exact List.forall_mem_cons.mpr ⟨move_entry funded recipient, balanced.moves⟩

theorem Balanced.approve {msgSender spender : Address} {value : Amount}
    (balanced : Balanced supply book)
    (success : book.token.call (.approve msgSender spender value) = .ok after) :
    Balanced supply ⟨after, ⟨.approve msgSender spender value, book.token.balanceOf,
      after.balanceOf⟩ :: book.done⟩ := by
  obtain ⟨result, returned⟩ := call_map_ok success
  obtain rfl := approve_ok returned
  refine ⟨balanced.total, balanced.balances,
    List.forall_mem_cons.mpr ⟨fun account => rfl, balanced.moves⟩, ?_⟩
  intro owner allowed
  have before := balanced.allowances owner allowed
  simp only [approved, spent, Ledger.update_entry]
  by_cases same : msgSender = owner ∧ spender = allowed
  · simp only [if_pos same, Nat.zero_add]
  · simpa only [if_neg same] using before

theorem Balanced.transferFrom {msgSender sender recipient : Address} {value : Amount}
    (balanced : Balanced supply book)
    (success : book.token.call (.transferFrom msgSender sender recipient value) = .ok after) :
    Balanced supply ⟨after, ⟨.transferFrom msgSender sender recipient value,
      book.token.balanceOf, after.balanceOf⟩ :: book.done⟩ := by
  obtain ⟨result, returned⟩ := call_map_ok success
  obtain ⟨funded, allowed, rfl⟩ := transferFrom_ok returned
  have moves := move_entry funded recipient
  refine ⟨balanced.total, (Ledger.sum_move funded).trans balanced.balances,
    List.forall_mem_cons.mpr ⟨moves, balanced.moves⟩, ?_⟩
  intro owner spender
  have before := balanced.allowances owner spender
  simp only [approved, spent, Ledger.update_entry]
  by_cases same : sender = owner ∧ msgSender = spender
  · obtain ⟨rfl, rfl⟩ := same
    -- the allowance falls by the argument, the balance by what the entry shows
    have fall := moves sender
    simp only [and_self, if_true, Entry.movedOut, Call.credit] at fall ⊢
    omega
  · simpa only [if_neg same] using before

theorem Balanced.call (balanced : Balanced supply book) (success : book.call made = .ok next) :
    Balanced supply next := by
  obtain ⟨called, recorded⟩ := Recorded.call_ok success
  obtain ⟨token, done⟩ := next
  obtain rfl : done = ⟨made, book.token.balanceOf, token.balanceOf⟩ :: book.done := recorded
  cases made with
  | transfer msgSender recipient value => exact balanced.transfer called
  | approve msgSender spender value => exact balanced.approve called
  | transferFrom msgSender sender recipient value => exact balanced.transferFrom called

theorem moveBalance_avoids_overflow {sender : Address} (recipient : Address) {value : Nat}
    (funded : value ≤ token.balanceOf sender)
    (fits : ∑ account, token.balanceOf account < 2 ^ 256) :
    Avoids (.panic 0x11 "balanceOf[_to] += _value")
      (token.moveBalance sender recipient value) := by
  apply avoids_bind (avoids_checkedSub (by decide))
  intro debited subtracted
  obtain ⟨_, rfl⟩ := checkedSub_ok_iff.mp subtracted
  have credit := Ledger.credit_le_sum recipient funded
  apply avoids_bind (avoids_checkedAdd_of_lt (Nat.lt_of_le_of_lt credit fits))
  intro _ _
  exact avoids_pure _ _

theorem avoids_map {reason : Revert} {outcome : Outcome (SimpleERC20 × Bool)}
    (avoids : Avoids reason outcome) : Avoids reason (Prod.fst <$> outcome) := by
  cases outcome with
  | error other =>
    intro failed
    exact avoids (congrArg Except.error (Except.error.inj failed))
  | ok value => exact avoids_ok reason value.1

/-- No call can overflow a balance. -/
theorem call_avoids_overflow (fits : ∑ account, token.balanceOf account < 2 ^ 256)
    (made : Call) : Avoids (.panic 0x11 "balanceOf[_to] += _value") (token.call made) := by
  cases made with
  | transfer msgSender recipient value =>
    apply avoids_map
    apply avoids_bind avoids_require
    intro _ _
    apply avoids_bind avoids_require
    intro _ enough
    apply avoids_bind (moveBalance_avoids_overflow recipient (require_ok_iff.mp enough) fits)
    intro _ _
    exact avoids_pure _ _
  | approve msgSender spender value => exact avoids_map (avoids_pure _ _)
  | transferFrom msgSender sender recipient value =>
    apply avoids_map
    apply avoids_bind avoids_require
    intro _ _
    apply avoids_bind avoids_require
    intro _ enough
    apply avoids_bind avoids_require
    intro _ _
    apply avoids_bind (moveBalance_avoids_overflow recipient (require_ok_iff.mp enough) fits)
    intro _ _
    apply avoids_bind (avoids_checkedSub (by decide))
    intro _ _
    exact avoids_pure _ _

end Steps

/-- After any run, whoever calls and whichever of the accounts are the same, all balances
add up to the supply, no further call can overflow one, every call has moved on the balances
what it names, and what a spender has moved out of an owner since the last approval is what
is missing of it. -/
theorem accounts_balanced (deployer : Address) (supply : Amount) (calls : List Call) :
    let book := run Recorded.call ⟨deploy deployer supply, []⟩ calls
    ∑ account, book.token.balanceOf account = book.token.totalSupply ∧
      (∀ made, Avoids (.panic 0x11 "balanceOf[_to] += _value") (book.token.call made)) ∧
      (∀ entry ∈ book.done, entry.Moves) ∧
      ∀ owner spender,
        book.token.allowance owner spender ≤ approved owner spender book.done ∧
        spent owner spender book.done =
          approved owner spender book.done - book.token.allowance owner spender ∧
        spent owner spender book.done ≤ approved owner spender book.done := by
  intro book
  have balanced : Balanced supply book :=
    run_invariant (Balanced supply) (fun _ _ _ holds success => holds.call success) calls _
      (deploy_balanced deployer supply)
  refine ⟨balanced.balances.trans balanced.total.symm, ?_, balanced.moves, ?_⟩
  · have fits : ∑ account, book.token.balanceOf account < 2 ^ 256 := by
      rw [balanced.balances]
      exact supply.isLt
    exact call_avoids_overflow fits
  · intro owner spender
    have law := balanced.allowances owner spender
    exact ⟨by omega, by omega, by omega⟩

/-- Account 1 lets account 2 spend nine of its hundred; it takes three for itself and
sends two from account 1 back to account 1. -/
def sampleCalls : List Call :=
  [.approve 1 2 9, .transferFrom 2 1 2 3, .transferFrom 2 1 1 2]

theorem sampleCalls_spend_five :
    let book := run Recorded.call ⟨deploy 1 100, []⟩ sampleCalls
    book.token.balanceOf 1 = 97 ∧ book.token.balanceOf 2 = 3 ∧
      book.token.allowance 1 2 = 4 ∧ approved 1 2 book.done = 9 ∧
      spent 1 2 book.done = 5 := by
  intro book
  obtain ⟨-, -, -, spending⟩ := accounts_balanced 1 100 sampleCalls
  obtain ⟨-, spends, -⟩ := spending 1 2
  have left : book.token.allowance 1 2 = 4 := by decide +kernel
  have last : approved 1 2 book.done = 9 := by decide +kernel
  refine ⟨by decide +kernel, by decide +kernel, left, last, ?_⟩
  calc spent 1 2 book.done = approved 1 2 book.done - book.token.allowance 1 2 := spends
    _ = 5 := by rw [left, last]

end SimpleERC20

end EightInch
