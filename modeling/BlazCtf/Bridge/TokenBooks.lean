import BlazCtf.Bridge.Outbox

set_option autoImplicit false

namespace Bridge

open Evm
open Function (update)
open OpenZeppelin (ERC20)
open OpenZeppelin.ERC20 (Undisturbed row_zero)
open OpenZeppelin.ERC20.V4 (Request perform doMint doBurn)

namespace Contract

/-- An ordinary token, not made by a bridge. -/
def Standard : Contract → Prop
  | .standard _ _ _ => True
  | _ => False

def holding (contract : Contract) (holder : Address) : Nat :=
  match contract.ledger with
  | some ledger => ledger.balances holder
  | none => 0

def supply (contract : Contract) : Nat :=
  match contract.ledger with
  | some ledger => ledger.totalSupply
  | none => 0

variable {contract : Contract} {ledger : ERC20}

theorem holding_of_ledger (held : contract.ledger = some ledger) (holder : Address) :
    contract.holding holder = ledger.balances holder := by
  rw [holding, held]

theorem supply_of_ledger (held : contract.ledger = some ledger) :
    contract.supply = ledger.totalSupply := by
  rw [supply, held]

theorem ledger_withLedger (held : contract.ledger = some ledger) (next : ERC20) :
    (contract.withLedger next).ledger = some next := by
  cases contract <;> first | rfl | cases held

end Contract

variable {H : Type} {net : Network H} {initial : Address → Contract}
variable {sendable allowed : Address → Prop}

/-- A ledger from which nobody but the bridge takes what the bridge holds. -/
structure Guarded (net : Network H) (ledger : ERC20) : Prop where
  funded : ledger.Funded
  unspent : ∀ spender, ledger.allowances net.this spender = 0

section Ledgers

variable {ledger next : ERC20} {sender recipient account : Address} {amount : Nat}

theorem Guarded.request {msgSender : Address} {request : Request} (guarded : Guarded net ledger)
    (external : msgSender ≠ net.this) (done : perform ledger msgSender request = .ok next) :
    Guarded net next ∧ ledger.balances net.this ≤ next.balances net.this ∧
      next.totalSupply = ledger.totalSupply := by
  have untouched := ERC20.V4.perform_undisturbed guarded.funded guarded.unspent external done
  exact ⟨⟨untouched.funded, untouched.allowances⟩, untouched.balance,
    (ERC20.V4.perform_funded guarded.funded done).2⟩

/-- `ERC20Out` pulls tokens into the bridge. -/
theorem Guarded.pull (guarded : Guarded net ledger) (external : sender ≠ net.this)
    (done : perform ledger net.this (.transferFrom sender net.this amount) = .ok next) :
    Guarded net next ∧ next.balances net.this = ledger.balances net.this + amount ∧
      next.totalSupply = ledger.totalSupply := by
  obtain ⟨funded, supply⟩ := ERC20.V4.perform_funded guarded.funded done
  obtain ⟨_, _, left, bound, rfl⟩ := ERC20.V4.transferFrom_ok guarded.funded done
  exact ⟨⟨funded, row_zero guarded.unspent bound⟩, Ledger.move_target external, supply⟩

/-- `ERC20In` pays tokens out of the bridge. -/
theorem Guarded.pay (guarded : Guarded net ledger)
    (done : perform ledger net.this (.transfer recipient amount) = .ok next) :
    Guarded net next ∧ ledger.balances net.this ≤ next.balances net.this + amount ∧
      next.totalSupply = ledger.totalSupply := by
  obtain ⟨funded, supply⟩ := ERC20.V4.perform_funded guarded.funded done
  obtain ⟨enough, rfl⟩ := ERC20.V4.doTransfer_ok guarded.funded done
  refine ⟨⟨funded, guarded.unspent⟩, ?_, supply⟩
  by_cases own : recipient = net.this
  · rw [own, Ledger.move_self enough]
    exact Nat.le_add_right _ _
  · dsimp only
    rw [Ledger.move_source (Ne.symm own)]
    omega

theorem Guarded.mint (guarded : Guarded net ledger)
    (done : doMint ledger account amount = .ok next) :
    Guarded net next ∧ next.totalSupply = ledger.totalSupply + amount := by
  obtain ⟨funded, supply, allowances⟩ := ERC20.V4.doMint_ok guarded.funded done
  exact ⟨⟨funded, fun spender => by rw [allowances, guarded.unspent]⟩, supply⟩

theorem Guarded.burn (guarded : Guarded net ledger)
    (done : doBurn ledger account amount = .ok next) :
    Guarded net next ∧ next.totalSupply + amount = ledger.totalSupply := by
  obtain ⟨funded, supply, allowances⟩ := ERC20.V4.doBurn_ok guarded.funded done
  exact ⟨⟨funded, fun spender => by rw [allowances, guarded.unspent]⟩, supply⟩

end Ledgers

/-- What the code at an address can become: the bridge creates its tokens at
vacant addresses, and nothing else changes its kind. -/
inductive Became (net : Network H) (s : State H) (address : Address) : Contract → Contract → Prop
  | vacant : Became net s address .vacant .vacant
  | foreign : Became net s address .foreign .foreign
  | standard {name symbol : String} {old ledger : ERC20} (guarded : Guarded net ledger) :
      Became net s address (.standard name symbol old) (.standard name symbol ledger)
  | created {name symbol : String} {ledger : ERC20} {remoteToken : Address}
      (guarded : Guarded net ledger) (named : address ≠ 0)
      (listed : s.remoteTokenToLocalToken remoteToken = address)
      (flagged : s.isBridgedERC20 address = true) :
      Became net s address .vacant (.bridged name symbol ledger remoteToken)

/-- The code around a bridge, compared with the code at its deployment. -/
def Registry (net : Network H) (initial : Address → Contract) (s : State H) : Prop :=
  ∀ address, Became net s address (initial address) (s.contracts address)

section Registry

variable {s after : State H} {address token : Address} {old contract : Contract}
variable {ledger next : ERC20}

theorem Became.guarded (became : Became net s address old contract)
    (held : contract.ledger = some ledger) : Guarded net ledger := by
  cases became with
  | vacant => cases held
  | foreign => cases held
  | standard guarded => exact Option.some.inj held ▸ guarded
  | created guarded named listed flagged => exact Option.some.inj held ▸ guarded

theorem Became.withLedger (became : Became net s address old contract)
    (held : contract.ledger = some ledger) (guarded : Guarded net next) :
    Became net s address old (contract.withLedger next) := by
  cases became with
  | vacant => cases held
  | foreign => cases held
  | standard _ => exact .standard guarded
  | created _ named listed flagged => exact .created guarded named listed flagged

theorem Became.same (became : Became net s address old contract)
    (localTokens : after.remoteTokenToLocalToken = s.remoteTokenToLocalToken)
    (bridgedTokens : after.isBridgedERC20 = s.isBridgedERC20) :
    Became net after address old contract := by
  cases became with
  | vacant => exact .vacant
  | foreign => exact .foreign
  | standard guarded => exact .standard guarded
  | created guarded named listed flagged =>
      exact .created guarded named (by rw [localTokens, listed]) (by rw [bridgedTokens, flagged])

/-- A token that the bridge did not make was there from the start. -/
theorem Became.not_vacant (became : Became net s address old contract)
    (held : contract.ledger = some ledger) (plain : s.isBridgedERC20 address = false) :
    old ≠ .vacant := by
  cases became with
  | vacant => cases held
  | foreign => cases held
  | standard guarded => simp
  | created guarded named listed flagged =>
      rw [flagged] at plain
      cases plain

theorem Became.foreign_not_vacant (became : Became net s address old contract)
    (runs : contract = .foreign) : old ≠ .vacant := by
  cases became with
  | foreign => simp
  | _ => cases runs

theorem Became.standard_of_standard (became : Became net s address old contract)
    (home : old.Standard) : ∃ name symbol ledger, contract = .standard name symbol ledger := by
  cases became with
  | vacant => cases home
  | foreign => cases home
  | standard guarded => exact ⟨_, _, _, rfl⟩
  | created guarded named listed flagged => cases home

namespace Registry

theorem same (registry : Registry net initial s) (contracts : after.contracts = s.contracts)
    (localTokens : after.remoteTokenToLocalToken = s.remoteTokenToLocalToken)
    (bridgedTokens : after.isBridgedERC20 = s.isBridgedERC20) : Registry net initial after := by
  intro address
  rw [contracts]
  exact (registry address).same localTokens bridgedTokens

/-- One contract changes, into something it can become. -/
theorem updated (registry : Registry net initial s)
    (became : Became net s token (initial token) contract)
    (contracts : after.contracts = update s.contracts token contract)
    (localTokens : after.remoteTokenToLocalToken = s.remoteTokenToLocalToken)
    (bridgedTokens : after.isBridgedERC20 = s.isBridgedERC20) : Registry net initial after := by
  intro address
  rw [contracts]
  by_cases here : address = token
  · subst here
    rw [Function.update_self]
    exact became.same localTokens bridgedTokens
  · rw [Function.update_of_ne here]
    exact (registry address).same localTokens bridgedTokens

/-- A new token at a vacant address. -/
theorem created (registry : Registry net initial s) {remoteToken : Address} {name symbol : String}
    (empty : s.contracts token = .vacant) (named : token ≠ 0)
    (unknown : s.remoteTokenToLocalToken remoteToken = 0)
    (contracts : after.contracts = update s.contracts token
      (.bridged name symbol ⟨fun _ => 0, fun _ _ => 0, 0⟩ remoteToken))
    (localTokens : after.remoteTokenToLocalToken =
      update s.remoteTokenToLocalToken remoteToken token)
    (bridgedTokens : after.isBridgedERC20 = update s.isBridgedERC20 token true) :
    Registry net initial after := by
  intro address
  rw [contracts]
  have before := registry address
  by_cases here : address = token
  · subst here
    rw [empty] at before
    rw [Function.update_self]
    cases start : initial address with
    | vacant =>
        refine .created ⟨⟨by simp, by simp⟩, fun _ => rfl⟩ named ?_ ?_
        · rw [localTokens, Function.update_self]
        · rw [bridgedTokens, Function.update_self]
    | _ =>
        rw [start] at before
        cases before
  · rw [Function.update_of_ne here]
    generalize initial address = old, s.contracts address = contract at before
    cases before with
    | vacant => exact .vacant
    | foreign => exact .foreign
    | standard guarded => exact .standard guarded
    | @created _ _ _ other guarded real listed flagged =>
        have distinct : other ≠ remoteToken := by
          rintro rfl
          exact real (listed.symm.trans unknown)
        refine .created guarded real ?_ ?_
        · rw [localTokens, Function.update_of_ne distinct, listed]
        · rw [bridgedTokens, Function.update_of_ne here, flagged]

theorem step (registry : Registry net initial s) (step : Step net allowed s after) :
    Registry net initial after := by
  have localTokens := step.kept.localTokens
  have bridgedTokens := step.kept.bridgedTokens
  cases step with
  | forceEth value => exact registry.same rfl localTokens bridgedTokens
  | request external held done =>
      have asked := ((registry _).guarded held).request external done
      exact registry.updated ((registry _).withLedger held asked.1) rfl localTokens bridgedTokens
  | ethOut recipient value => exact registry.same rfl localTokens bridgedTokens
  | lock name symbol permitted external plain held done =>
      have pulled := ((registry _).guarded held).pull external done
      exact registry.updated ((registry _).withLedger held pulled.1)
        (contracts_sentOut _ _ _ _ _ _ _) localTokens bridgedTokens
  | lockForeign recipient amount name symbol permitted code =>
      exact registry.same (contracts_sentOut _ _ _ _ _ _ _) localTokens bridgedTokens
  | burn recipient flagged held done =>
      have holds := congrArg Contract.ledger held
      have burned := ((registry _).guarded holds).burn done
      have became := (registry _).withLedger holds burned.1
      rw [held] at became
      exact registry.updated became rfl localTokens bridgedTokens

theorem received [DecidableEq H] {packet : Packet} (registry : Registry net initial s)
    (effect : Received net packet s after) : Registry net initial after := by
  cases effect with
  | ethIn named funded => exact registry.same rfl rfl rfl
  | registered named known => exact registry.same rfl rfl rfl
  | created named unknown other empty =>
      exact registry.created empty (net.newToken_ne_zero _) unknown rfl rfl rfl
  | minted named known held done =>
      have holds := congrArg Contract.ledger held
      have minted := ((registry _).guarded holds).mint done
      have became := (registry _).withLedger holds minted.1
      rw [held] at became
      exact registry.updated became rfl rfl rfl
  | released named unknown other held done =>
      have paid := ((registry _).guarded held).pay done
      exact registry.updated ((registry _).withLedger held paid.1) rfl rfl rfl
  | releasedForeign named unknown runs => exact registry.same rfl rfl rfl

end Registry

end Registry

/-- The amount of a token that a message brings. -/
def Calldata.amountOf (token : Address) : Calldata → Nat
  | .erc20In named _ amount => if named = token then amount else 0
  | _ => 0

def sentIn (s : State H) (token : Address) : Nat :=
  (s.sent.map fun message => message.msgData.amountOf token).sum

def receivedIn (s : State H) (token : Address) : Nat :=
  (s.executed.map fun packet => packet.message.amountOf token).sum

theorem tally_self (amounts : Address → Nat) (token : Address) (amount : Nat) :
    tally amounts token amount token = amounts token + amount := by
  rw [tally, Function.update_self]

theorem tally_of_ne {token other : Address} (distinct : other ≠ token) (amounts : Address → Nat)
    (amount : Nat) : tally amounts token amount other = amounts other := by
  rw [tally, Function.update_of_ne distinct]

theorem tally_apply (amounts : Address → Nat) (token other : Address) (amount : Nat) :
    tally amounts token amount other = amounts other + if token = other then amount else 0 := by
  by_cases same : token = other
  · subst same
    rw [tally_self, if_pos rfl]
  · rw [tally_of_ne (Ne.symm same), if_neg same, Nat.add_zero]

/-- The token messages account for the amounts that `ERC20Out` took and `ERC20In`
gave, and name only tokens that can be sent. -/
structure Flow (sendable : Address → Prop) (s : State H) : Prop where
  sent : ∀ token, sentIn s token = s.locked token + s.burned token
  received : ∀ token, receivedIn s token = s.minted token + s.released token
  lockable : ∀ token, s.locked token ≠ 0 → sendable token
  registrable : ∀ message ∈ s.sent, ∀ token name symbol,
    message.msgData = .erc20Register token name symbol → sendable token

section Flow

variable {s after : State H} {token : Address}

theorem sentIn_announced (s : State H) (value : Nat) (message : Calldata) (token : Address) :
    sentIn (announced net s value message) token = message.amountOf token + sentIn s token := rfl

theorem sentIn_sentOut (s : State H) (token recipient : Address) (amount : Nat)
    (name symbol : String) (other : Address) :
    sentIn (sentOut net s token recipient amount name symbol) other =
      sentIn s other + if token = other then amount else 0 := by
  unfold sentOut
  rw [sentIn_announced, Nat.add_comm]
  congr 1
  split
  · rfl
  · change 0 + sentIn s other = sentIn s other
    rw [Nat.zero_add]

theorem mem_sentOut {recipient : Address} {amount : Nat} {name symbol : String} {message : Sent}
    (member : message ∈ (sentOut net s token recipient amount name symbol).sent) :
    message ∈ s.sent ∨ message.msgData = .erc20In token recipient amount ∨
      message.msgData = .erc20Register token name symbol := by
  unfold sentOut at member
  rcases List.mem_cons.mp member with rfl | earlier
  · exact .inr (.inl rfl)
  · split at earlier
    · exact .inl earlier
    · rcases List.mem_cons.mp earlier with rfl | earlier
      · exact .inr (.inr rfl)
      · exact .inl earlier

theorem tallies_sentOut (net : Network H) (s : State H) (token recipient : Address)
    (amount : Nat) (name symbol : String) :
    (sentOut net s token recipient amount name symbol).locked = s.locked ∧
      (sentOut net s token recipient amount name symbol).burned = s.burned := by
  unfold sentOut
  split <;> exact ⟨rfl, rfl⟩

/-- A message adds what it brings to the amounts given. -/
theorem Received.tallies [DecidableEq H] {packet : Packet} (effect : Received net packet s after) :
    after.locked = s.locked ∧ after.burned = s.burned ∧
      ∀ token, packet.message.amountOf token + s.minted token + s.released token =
        after.minted token + after.released token := by
  cases effect with
  | ethIn named funded =>
      refine ⟨rfl, rfl, fun token => ?_⟩
      simp [named, Calldata.amountOf, marked]
  | registered named known =>
      refine ⟨rfl, rfl, fun token => ?_⟩
      simp [named, Calldata.amountOf, marked]
  | created named unknown other empty =>
      refine ⟨rfl, rfl, fun token => ?_⟩
      simp [named, Calldata.amountOf, marked]
  | minted named known held done =>
      refine ⟨rfl, rfl, fun token => ?_⟩
      simp only [named, Calldata.amountOf, marked, State.setContract, tally_apply]
      omega
  | released named unknown other held done =>
      refine ⟨rfl, rfl, fun token => ?_⟩
      simp only [named, Calldata.amountOf, marked, State.setContract, tally_apply]
      omega
  | releasedForeign named unknown runs =>
      refine ⟨rfl, rfl, fun token => ?_⟩
      simp only [named, Calldata.amountOf, marked, tally_apply]
      omega

namespace Flow

/-- Users' calls add to the log what they add to the amounts taken. -/
theorem grown (flow : Flow sendable s) (kept : Kept s after)
    (taken : ∀ token, sentIn after token + s.locked token + s.burned token =
      sentIn s token + after.locked token + after.burned token)
    (lockable : ∀ token, after.locked token ≠ 0 → s.locked token ≠ 0 ∨ sendable token)
    (registrable : ∀ message ∈ after.sent, message ∈ s.sent ∨ ∀ token name symbol,
      message.msgData = .erc20Register token name symbol → sendable token) :
    Flow sendable after where
  sent token := by
    have before := flow.sent token
    have change := taken token
    omega
  received token := by
    rw [receivedIn, kept.executed, kept.minted, kept.released]
    exact flow.received token
  lockable token locked := (lockable token locked).elim (flow.lockable token) id
  registrable message member := (registrable message member).elim (flow.registrable message) id

/-- The messages of a lock. -/
theorem lock (flow : Flow sendable s) {recipient : Address} {amount : Nat} {name symbol : String}
    {middle : State H} (permitted : sendable token)
    (kept : Kept s (sentOut net middle token recipient amount name symbol))
    (sent : middle.sent = s.sent) (locked : middle.locked = tally s.locked token amount)
    (burned : middle.burned = s.burned) :
    Flow sendable (sentOut net middle token recipient amount name symbol) := by
  obtain ⟨lockedOut, burnedOut⟩ :=
    tallies_sentOut net middle token recipient amount name symbol
  refine flow.grown kept ?_ ?_ ?_
  · intro other
    have before : sentIn middle other = sentIn s other := by rw [sentIn, sent, sentIn]
    rw [sentIn_sentOut, lockedOut, burnedOut, locked, burned, tally_apply, before]
    omega
  · intro other some
    rw [lockedOut, locked, tally_apply] at some
    by_cases same : token = other
    · exact .inr (same ▸ permitted)
    · rw [if_neg same, Nat.add_zero] at some
      exact .inl some
  · intro message member
    rcases mem_sentOut member with earlier | brings | registers
    · exact .inl (sent ▸ earlier)
    · refine .inr fun other name symbol named => ?_
      rw [brings] at named
      cases named
    · refine .inr fun other name symbol named => ?_
      rw [registers] at named
      cases named
      exact permitted

theorem step (flow : Flow sendable s) (registry : Registry net initial s)
    (usable : ∀ token, allowed token → initial token ≠ .vacant → sendable token)
    (step : Step net allowed s after) : Flow sendable after := by
  have kept := step.kept
  cases step with
  | forceEth value => exact flow.grown kept (fun _ => rfl) (fun _ => .inl) (fun _ => .inl)
  | request external held done =>
      exact flow.grown kept (fun _ => rfl) (fun _ => .inl) (fun _ => .inl)
  | ethOut recipient value =>
      refine flow.grown kept ?_ (fun _ => .inl) ?_
      · intro token
        rw [sentIn_announced]
        change 0 + sentIn s token + _ + _ = _
        rw [Nat.zero_add]
        rfl
      · intro message member
        rcases List.mem_cons.mp member with rfl | earlier
        · exact .inr fun _ _ _ named => nomatch named
        · exact .inl earlier
  | lock name symbol permitted external plain held done =>
      exact flow.lock (usable _ permitted ((registry _).not_vacant held plain)) kept rfl rfl rfl
  | lockForeign recipient amount name symbol permitted code =>
      exact flow.lock (usable _ permitted ((registry _).foreign_not_vacant code)) kept rfl rfl rfl
  | burn recipient flagged held done =>
      refine flow.grown kept ?_ (fun _ => .inl) ?_
      · intro token
        rw [sentIn_announced]
        change (if _ then _ else 0) + sentIn s token + s.locked token + s.burned token =
          sentIn s token + s.locked token + tally s.burned _ _ token
        rw [tally_apply]
        omega
      · intro message member
        rcases List.mem_cons.mp member with rfl | earlier
        · exact .inr fun _ _ _ named => nomatch named
        · exact .inl earlier

theorem relayed [DecidableEq H] {packet : Packet} (flow : Flow sendable s)
    (effect : Received net packet s after) : Flow sendable after := by
  obtain ⟨executed, _, _, sent⟩ := effect.record
  obtain ⟨locked, burned, given⟩ := effect.tallies
  refine ⟨?_, ?_, ?_, ?_⟩
  · rw [locked, burned]
    intro token
    rw [sentIn, sent]
    exact flow.sent token
  · intro token
    have before := flow.received token
    have change := given token
    rw [receivedIn] at before ⊢
    rw [executed, List.map_cons, List.sum_cons]
    omega
  · rw [locked]
    exact flow.lockable
  · rw [sent]
    exact flow.registrable

end Flow

end Flow

end Bridge
