import BlazCtf.TonyLend.PoolBooks
import BlazCtf.Erc20.Standard

set_option autoImplicit false

namespace TonyLend

open Evm
open Function (update)
open OpenZeppelin (ERC20)

/-- A chain on which every token is a standard ERC20 and oracle prices are set
by whoever controls the oracles. -/
structure Chain where
  tokens : Address → ERC20
  prices : Address → Nat → Option Nat

inductive Action where
  | transfer (token recipient : Address) (value : Nat)
  | approve (token spender : Address) (value : Nat)
  | transferFrom (token sender recipient : Address) (value : Nat)
  | setPrices (prices : Address → Nat → Option Nat)

/-- Commit a token's answer; a token that reverts gives none. -/
def Chain.answer (chain : Chain) (token : Address) (outcome : Outcome (ERC20 × Bool)) :
    Option (Chain × Bool) :=
  match outcome with
  | .ok (after, result) => some ({ chain with tokens := update chain.tokens token after }, result)
  | .error _ => none

/-- Standard tokens: they call nobody back. -/
def standard : Outside Chain Action where
  act chain msgSender action :=
    match action with
    | .transfer token recipient value =>
        (chain.answer token ((chain.tokens token).transfer msgSender recipient value)).map Prod.fst
    | .approve token spender value =>
        (chain.answer token ((chain.tokens token).approve msgSender spender value)).map Prod.fst
    | .transferFrom token sender recipient value =>
        (chain.answer token
          ((chain.tokens token).transferFrom msgSender sender recipient value)).map Prod.fst
    | .setPrices prices => some { chain with prices }
  price chain oracle assetId := chain.prices oracle assetId
  transferFrom chain token msgSender sender recipient value :=
    (chain.answer token ((chain.tokens token).transferFrom msgSender sender recipient value)).map
      fun answered => (answered.1, answered.2, [])
  transfer chain token msgSender recipient value :=
    (chain.answer token ((chain.tokens token).transfer msgSender recipient value)).map
      fun answered => (answered.1, answered.2, [])

def deployChain (deployer : Address → Address) (supply : Address → Fin (2 ^ 256))
    (prices : Address → Nat → Option Nat) : Chain :=
  ⟨fun token => ERC20.deploy (deployer token) (supply token), prices⟩

/-- The pool's tokens are funded ledgers in which it has approved nobody. -/
structure Chain.Sound (this : Address) (chain : Chain) : Prop where
  funded : ∀ token, (chain.tokens token).Funded
  unapproved : ∀ token spender, (chain.tokens token).allowances this spender = 0

def Chain.cash (this : Address) (chain : Chain) (token : Address) : Int :=
  (chain.tokens token).balances this

namespace Chain

variable {this : Address} {chain after : Chain}

theorem Sound.of_deploy (deployer : Address → Address) (supply : Address → Fin (2 ^ 256))
    (prices : Address → Nat → Option Nat) : Sound this (deployChain deployer supply prices) :=
  ⟨fun token => ERC20.deploy_funded (deployer token) (supply token), fun _ _ => rfl⟩

theorem answer_some {token : Address} {outcome : Outcome (ERC20 × Bool)} {result : Bool}
    (answered : chain.answer token outcome = some (after, result)) :
    ∃ next, outcome = .ok (next, result) ∧
      after = { chain with tokens := update chain.tokens token next } := by
  unfold answer at answered
  split at answered
  · rename_i next returned
    simp only [Option.some.injEq, Prod.mk.injEq] at answered
    obtain ⟨rfl, rfl⟩ := answered
    exact ⟨next, rfl, rfl⟩
  · cases answered

/-- Replacing one token by an undisturbed one keeps the chain sound and the cash. -/
theorem Sound.of_undisturbed (sound : Sound this chain) {token : Address} {next : ERC20}
    (calm : ERC20.Undisturbed this (chain.tokens token) next) :
    Sound this { chain with tokens := update chain.tokens token next } ∧
      ∀ other, chain.cash this other ≤
        cash this { chain with tokens := update chain.tokens token next } other := by
  refine ⟨⟨?_, ?_⟩, ?_⟩
  · intro other
    by_cases same : other = token
    · subst same
      simpa using calm.funded
    · simpa [Function.update_of_ne same] using sound.funded other
  · intro other spender
    by_cases same : other = token
    · subst same
      simpa using calm.allowances spender
    · simpa [Function.update_of_ne same] using sound.unapproved other spender
  · intro other
    by_cases same : other = token
    · subst same
      simpa [cash] using calm.balance
    · simp [cash, Function.update_of_ne same]

end Chain

section Cash

variable {this : Address} {w after : World Chain}

/-- A collection brings the value in and changes nothing in the pool. -/
theorem collect_cash {token sender : Address} {value : Nat} {result : Bool}
    (success : callTransferFrom standard this w token sender this value = .ok (after, result))
    (sound : w.outside.Sound this) (external : sender ≠ this) :
    after.pool = w.pool ∧ after.blockNumber = w.blockNumber ∧ after.outside.Sound this ∧
      ∀ other, after.outside.cash this other =
        w.outside.cash this other + if other = token then (value : Int) else 0 := by
  obtain ⟨outside, nested, answered, rfl⟩ := callTransferFrom_ok success
  simp only [standard, Option.map_eq_some_iff, Prod.mk.injEq, Prod.exists] at answered
  obtain ⟨chain, _, answered, rfl, _, rfl⟩ := answered
  obtain ⟨next, moved, rfl⟩ := Chain.answer_some answered
  refine ⟨rfl, rfl, (sound.of_undisturbed (ERC20.transferFrom_undisturbed (sound.funded token)
    (sound.unapproved token) moved)).1, ?_⟩
  intro other
  obtain ⟨_, _, _, _, rfl⟩ := ERC20.transferFrom_ok (sound.funded token) moved
  by_cases same : other = token
  · subst same
    simp [Chain.cash, Ledger.move_target external]
  · simp [Chain.cash, same]

/-- A payment takes the value out and changes nothing in the pool. -/
theorem pay_cash {token recipient : Address} {value : Nat} {result : Bool}
    (success : callTransfer standard this w token recipient value = .ok (after, result))
    (sound : w.outside.Sound this) (external : recipient ≠ this) :
    after.pool = w.pool ∧ after.blockNumber = w.blockNumber ∧ after.outside.Sound this ∧
      ∀ other, after.outside.cash this other =
        w.outside.cash this other + if other = token then -(value : Int) else 0 := by
  obtain ⟨outside, nested, answered, rfl⟩ := callTransfer_ok success
  simp only [standard, Option.map_eq_some_iff, Prod.mk.injEq, Prod.exists] at answered
  obtain ⟨chain, _, answered, rfl, _, rfl⟩ := answered
  obtain ⟨next, moved, rfl⟩ := Chain.answer_some answered
  obtain ⟨enough, rfl⟩ := ERC20.transfer_ok (sound.funded token) moved
  refine ⟨rfl, rfl, ⟨?_, ?_⟩, ?_⟩
  · intro other
    by_cases same : other = token
    · subst same
      simpa using (sound.funded other).of_move enough
    · simpa [Function.update_of_ne same] using sound.funded other
  · intro other spender
    by_cases same : other = token
    · subst same
      simpa using sound.unapproved other spender
    · simpa [Function.update_of_ne same] using sound.unapproved other spender
  · intro other
    by_cases same : other = token
    · subst same
      simp only [Chain.cash, Function.update_self, Ledger.move_source external.symm, ↓reduceIte]
      omega
    · simp [Chain.cash, same]

/-- Nothing another account does lowers the pool's cash. -/
theorem act_cash {msgSender : Address} {action : Action} {chain next : Chain}
    (sound : chain.Sound this) (external : msgSender ≠ this)
    (success : standard.act chain msgSender action = some next) :
    next.Sound this ∧ ∀ token, chain.cash this token ≤ next.cash this token := by
  cases action with
  | transfer token recipient value =>
      simp only [standard, Option.map_eq_some_iff, Prod.exists] at success
      obtain ⟨_, _, answered, rfl⟩ := success
      obtain ⟨after, moved, rfl⟩ := Chain.answer_some answered
      exact sound.of_undisturbed (ERC20.transfer_undisturbed (sound.funded token)
        (sound.unapproved token) external moved)
  | approve token spender value =>
      simp only [standard, Option.map_eq_some_iff, Prod.exists] at success
      obtain ⟨_, _, answered, rfl⟩ := success
      obtain ⟨after, moved, rfl⟩ := Chain.answer_some answered
      exact sound.of_undisturbed (ERC20.approve_undisturbed (sound.funded token)
        (sound.unapproved token) external moved)
  | transferFrom token sender recipient value =>
      simp only [standard, Option.map_eq_some_iff, Prod.exists] at success
      obtain ⟨_, _, answered, rfl⟩ := success
      obtain ⟨after, moved, rfl⟩ := Chain.answer_some answered
      exact sound.of_undisturbed (ERC20.transferFrom_undisturbed (sound.funded token)
        (sound.unapproved token) moved)
  | setPrices prices =>
      simp only [standard, Option.some.injEq] at success
      subst success
      exact ⟨⟨sound.funded, sound.unapproved⟩, fun _ => Int.le_refl _⟩

end Cash

end TonyLend
