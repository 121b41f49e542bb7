import BlazCtf.Bridge.System
import BlazCtf.Bridge.TokenReserve

set_option autoImplicit false

namespace Bridge

open Evm
open Function (update)
open OpenZeppelin (ERC20)
open OpenZeppelin.ERC20.V4 (Request perform doTransfer)

variable {H : Type}

/-- The code around a bridge before its first call: ordinary tokens that account
for their supply, none of which the bridge has approved anybody to take, and
none of its own tokens. -/
structure Deployed (net : Network H) (contracts : Address → Contract) : Prop where
  real : net.this ≠ 0
  vacant : contracts net.this = .vacant
  guarded : ∀ token name symbol ledger, contracts token = .standard name symbol ledger →
    Guarded net ledger
  unmade : ∀ token name symbol ledger remoteToken,
    contracts token ≠ .bridged name symbol ledger remoteToken

/-- An address with code on this side that is an ordinary token on the other. -/
def Collides (contracts : Side → Address → Contract) (side : Side) (token : Address) : Prop :=
  contracts side token ≠ .vacant ∧ (contracts side.other token).Standard

/-- The calls of an action never send a token whose address collides. -/
def Action.Apart {pair : Pair H} (contracts : Side → Address → Contract) : Action pair → Prop
  | .user side made => Sends (fun token => ¬ Collides contracts side token) made
  | .relay side _ code _ =>
      ∀ made ∈ code, Sends (fun token => ¬ Collides contracts side token) made

/-- The books of one bridge, given the log of the other. -/
structure Accounts (net : Network H) (initial : Address → Contract) (sendable : Address → Prop)
    (remote : Address) (source : Nat) (logs : List Sent) (s : State H) : Prop where
  registry : Registry net initial s
  flow : Flow sendable s
  backed : Backed net initial s
  known : ∀ remoteToken, s.remoteTokenToLocalToken remoteToken ≠ 0 → ∃ message ∈ logs,
    ∃ name symbol, message.msgData = .erc20Register remoteToken name symbol
  wired : s.remoteBridgeChainId remote = source

namespace Accounts

variable {net : Network H} {initial : Address → Contract} {sendable allowed : Address → Prop}
variable {remote : Address} {source : Nat} {logs : List Sent} {s after : State H}

theorem mono (accounts : Accounts net initial sendable remote source logs s) {more : List Sent}
    (grown : logs <:+ more) : Accounts net initial sendable remote source more s := by
  refine ⟨accounts.registry, accounts.flow, accounts.backed, ?_, accounts.wired⟩
  intro remoteToken known
  obtain ⟨message, member, registers⟩ := accounts.known remoteToken known
  exact ⟨message, grown.subset member, registers⟩

theorem steps (accounts : Accounts net initial sendable remote source logs s)
    (outbox : Outbox net remote s)
    (usable : ∀ token, allowed token → initial token ≠ .vacant → sendable token)
    (steps : Steps net allowed s after) :
    Accounts net initial sendable remote source logs after := by
  induction steps with
  | refl => exact accounts
  | tail earlier step ih =>
      refine ⟨ih.registry.step step, ih.flow.step ih.registry usable step,
        ih.backed.step ih.registry (outbox.steps earlier).tokens step, ?_, ?_⟩
      · rw [step.kept.localTokens]
        exact ih.known
      · rw [step.kept.remoteBridgeChainId]
        exact ih.wired

/-- Only a registration of the other bridge makes a local token. -/
theorem received [DecidableEq H] {packet : Packet} {message : Sent}
    (accounts : Accounts net initial sendable remote source logs s) (outbox : Outbox net remote s)
    (listed : message ∈ logs) (submitted : packet = packetOf source message)
    (effect : Received net packet s after) :
    Accounts net initial sendable remote source logs after := by
  refine ⟨accounts.registry.received effect, accounts.flow.relayed effect,
    accounts.backed.received accounts.registry outbox.tokens effect, ?_, ?_⟩
  · cases effect with
    | @created remoteToken name symbol named unknown other empty =>
        intro other known
        by_cases same : other = remoteToken
        · subst same
          exact ⟨message, listed, name, symbol, by rw [← named, submitted]; rfl⟩
        · dsimp only at known
          rw [Function.update_of_ne same] at known
          exact accounts.known other known
    | _ => exact accounts.known
  · cases effect <;> exact accounts.wired

theorem cleared (accounts : Accounts net initial sendable remote source logs s) :
    Accounts net initial sendable remote source logs
      { s with relayedMessageSenderChainId := 0, relayedMessageSenderAddress := 0 } where
  registry := accounts.registry.same rfl rfl rfl
  flow := ⟨accounts.flow.sent, accounts.flow.received, accounts.flow.lockable,
    accounts.flow.registrable⟩
  backed := accounts.backed.same rfl rfl rfl
  known := accounts.known
  wired := accounts.wired

end Accounts

/-- The tokens that can be sent when no address collides. -/
def Sendable (contracts : Side → Address → Contract) (side : Side) (token : Address) : Prop :=
  contracts side token ≠ .vacant ∧ ¬ (contracts side.other token).Standard

abbrev SideAccounts (pair : Pair H) (contracts : Side → Address → Contract) (side : Side) :
    List Sent → State H → Prop :=
  Accounts (pair.net side) (contracts side) (Sendable contracts side) (pair.net side.other).this
    (pair.net side.other).chainId

/-- The books of both bridges. -/
structure Balanced (pair : Pair H) (contracts : Side → Address → Contract) (w : Side → State H) :
    Prop where
  sound : Sound pair w
  accounts : ∀ side, SideAccounts pair contracts side (w side.other).sent (w side)

section Balanced

variable {pair : Pair H} {contracts : Side → Address → Contract} {w after : Side → State H}

theorem start_balanced (deployed : ∀ side, Deployed (pair.net side) (contracts side))
    (eth : Side → Nat) : Balanced pair contracts (start pair eth contracts) := by
  refine ⟨start_sound pair eth contracts, ?_⟩
  intro side
  refine ⟨?_, ⟨fun _ => rfl, fun _ => rfl, fun _ some => absurd rfl some, List.forall_mem_nil _⟩,
    ⟨fun _ _ => rfl, fun _ => rfl, fun _ _ => Nat.le_refl _⟩, fun _ some => absurd rfl some, ?_⟩
  · intro address
    change Became _ _ address (contracts side address) (contracts side address)
    cases code : contracts side address with
    | vacant => exact .vacant
    | foreign => exact .foreign
    | standard name symbol ledger =>
        exact .standard ((deployed side).guarded address name symbol ledger code)
    | bridged name symbol ledger remoteToken =>
        exact absurd code ((deployed side).unmade address name symbol ledger remoteToken)
  · simp [start, pair.chainId_other]

theorem Sendable.of_not_collides (side : Side) (token : Address)
    (apart : ¬ Collides contracts side token) (present : contracts side token ≠ .vacant) :
    Sendable contracts side token :=
  ⟨present, fun standard => apart ⟨present, standard⟩⟩

variable [DecidableEq H]

theorem act_balanced {action : Action pair} (balanced : Balanced pair contracts w)
    (apart : action.Apart contracts) (success : act pair w action = .ok after) :
    Balanced pair contracts after := by
  refine ⟨act_sound balanced.sound success, ?_⟩
  cases action with
  | user side made =>
      simp only [act, bind_ok_iff, pure_ok_iff] at success
      obtain ⟨s, called, rfl⟩ := success
      have steps := call_steps callDepth apart called
      refine forall_update_side (P := SideAccounts pair contracts) balanced.accounts ?_
        (fun _ grown old => old.mono grown) (steps_sent_suffix steps)
      exact (balanced.accounts side).steps (balanced.sound.outbox side)
        (Sendable.of_not_collides side) steps
  | relay side message code answer =>
      simp only [act] at success
      split at success
      · rename_i honest
        simp only [bind_ok_iff, pure_ok_iff] at success
        obtain ⟨s, relayed, rfl⟩ := success
        obtain ⟨received, last, relay⟩ := relay_ok balanced.sound apart honest.1 relayed
        have outbox := (balanced.sound.outbox side).received relay.effect
        have accounts := ((balanced.accounts side).received (balanced.sound.outbox side) honest.1
          rfl relay.effect).steps outbox (Sendable.of_not_collides side) relay.steps
        have grown := steps_sent_suffix relay.steps
        rw [relay.effect.record.2.2.2] at grown
        rw [relay.cleared]
        exact forall_update_side (P := SideAccounts pair contracts) balanced.accounts
          accounts.cleared (fun _ grown old => old.mono grown) grown
      · cases success

theorem run_balanced (deployed : ∀ side, Deployed (pair.net side) (contracts side))
    (eth : Side → Nat) (actions : List (Action pair))
    (apart : ∀ action ∈ actions, action.Apart contracts) :
    Balanced pair contracts (run (act pair) (start pair eth contracts) actions) :=
  run_invariant_of_mem (Balanced pair contracts)
    (fun _ action _ balanced member => act_balanced balanced (apart action member))
    (start_balanced deployed eth)

end Balanced

/-- The amount of a token in messages to one side that it has not executed. -/
def inFlight (pair : Pair H) (w : Side → State H) (side : Side) (token : Address) : Nat :=
  (((w side.other).sent.filter fun message =>
    packetOf (pair.net side.other).chainId message ∉ (w side).executed).map fun message =>
      message.msgData.amountOf token).sum

section Home

variable {pair : Pair H} {contracts : Side → Address → Contract} {w : Side → State H}
variable {side : Side} {token : Address}

theorem inFlight_add_le (sound : Sound pair w) (side : Side) (token : Address) :
    inFlight pair w side token + receivedIn (w side) token ≤ sentIn (w side.other) token :=
  Ledger.sum_pending_add_done_le (packetOf (pair.net side.other).chainId)
    (fun packet => packet.message.amountOf token) (sound.inbox side).once
    (sound.inbox side).included

namespace Balanced

/-- No other bridge can send an ordinary token's address back as its own. -/
theorem not_sendable (home : (contracts side token).Standard) :
    ¬ Sendable contracts side.other token := by
  intro sendable
  refine sendable.2 ?_
  rw [Side.other_other]
  exact home

theorem unmapped (balanced : Balanced pair contracts w) (home : (contracts side token).Standard) :
    (w side).remoteTokenToLocalToken token = 0 := by
  by_contra known
  obtain ⟨message, member, name, symbol, registers⟩ := (balanced.accounts side).known token known
  exact not_sendable home
    ((balanced.accounts side.other).flow.registrable message member token name symbol registers)

/-- At home nothing is minted or burned for the token, and away nothing is locked. -/
theorem amounts (balanced : Balanced pair contracts w) (home : (contracts side token).Standard) :
    (w side).minted token = 0 ∧ (w side).burned token = 0 ∧ (w side.other).locked token = 0 := by
  have minted := (balanced.accounts side).backed.absent token (balanced.unmapped home)
  have supply := (balanced.accounts side).backed.supply token
  refine ⟨minted, by omega, ?_⟩
  by_contra locked
  exact not_sendable home ((balanced.accounts side.other).flow.lockable token locked)

/-- What is away or under way was locked at home and not released. -/
theorem covered (balanced : Balanced pair contracts w) (home : (contracts side token).Standard) :
    bridgedSupply (w side.other) token + inFlight pair w side.other token +
        inFlight pair w side token + (w side).released token ≤ (w side).locked token ∧
      inFlight pair w side token + (w side).released token ≤ (w side.other).burned token := by
  obtain ⟨minted, burned, locked⟩ := balanced.amounts home
  have supply := (balanced.accounts side.other).backed.supply token
  have outward := inFlight_add_le balanced.sound side.other token
  have homeward := inFlight_add_le balanced.sound side token
  rw [Side.other_other] at outward
  rw [(balanced.accounts side).flow.sent, (balanced.accounts side.other).flow.received] at outward
  rw [(balanced.accounts side.other).flow.sent, (balanced.accounts side).flow.received] at homeward
  omega

/-- The bridge can pay what is on its way home. -/
theorem inFlight_le_holding (balanced : Balanced pair contracts w)
    (home : (contracts side token).Standard) :
    inFlight pair w side token ≤ ((w side).contracts token).holding (pair.net side).this := by
  have covered := (balanced.covered home).1
  have reserve := (balanced.accounts side).backed.reserve token home
  omega

end Balanced

theorem amountOf_le_inFlight (token : Address) {message : Sent}
    (member : message ∈ (w side.other).sent)
    (pending : packetOf (pair.net side.other).chainId message ∉ (w side).executed) :
    message.msgData.amountOf token ≤ inFlight pair w side token := by
  refine List.single_le_sum (fun _ _ => Nat.zero_le _) _ ?_
  refine List.mem_map.mpr ⟨message, List.mem_filter.mpr ⟨member, ?_⟩, rfl⟩
  simpa using pending

variable [DecidableEq H]

/-- A burn away that has not been relayed can be, and pays its recipient at home. -/
theorem Balanced.relay_pays (balanced : Balanced pair contracts w)
    (deployed : Deployed (pair.net side) (contracts side))
    (home : (contracts side token).Standard) {message : Sent}
    (listed : message ∈ (w side.other).sent) {recipient : Address} {amount : Nat}
    (named : message.msgData = .erc20In token recipient amount) (real : recipient ≠ 0)
    (numbered : (pair.net side.other).chainId ≠ 0)
    (fresh : (w side).relayedMessages
      ((pair.net side).keccak (packetOf (pair.net side.other).chainId message)) = false)
    (code : List (Call (pair.net side))) (answer : Answer) :
    ∃ after name symbol ledger, act pair w (.relay side message code answer) = .ok after ∧
      (w side).contracts token = .standard name symbol ledger ∧
      (after side).contracts token = .standard name symbol { ledger with
        balances := Ledger.move ledger.balances (pair.net side).this recipient amount } := by
  obtain ⟨chain, target, source, asked⟩ :=
    (balanced.sound.outbox side.other).addressed message listed
  rw [← pair.chainId_other side.other, Side.other_other] at chain
  rw [Side.other_other] at target
  rw [named] at asked
  obtain ⟨name, symbol, ledger, held⟩ :=
    ((balanced.accounts side).registry token).standard_of_standard home
  have guarded := ((balanced.accounts side).registry token).guarded (congrArg Contract.ledger held)
  have other : token ≠ (pair.net side).this := by
    rintro rfl
    rw [deployed.vacant] at home
    exact home
  have wired : (w side).remoteBridgeChainId message.sourceAddress =
      (pair.net side.other).chainId := by
    rw [source]
    exact (balanced.accounts side).wired
  have pending : packetOf (pair.net side.other).chainId message ∉ (w side).executed := by
    intro executed
    have flagged := ((balanced.sound.inbox side).flagged _).mpr ⟨_, executed, rfl⟩
    rw [fresh] at flagged
    cases flagged
  have enough : amount ≤ ledger.balances (pair.net side).this := by
    have due := amountOf_le_inFlight token listed pending
    have payable := balanced.inFlight_le_holding home
    rw [held, Contract.holding_of_ledger rfl] at payable
    rw [named, Calldata.amountOf, if_pos rfl] at due
    exact Nat.le_trans due payable
  obtain ⟨next, done⟩ := ERC20.V4.doTransfer_succeeds deployed.real real enough
  obtain ⟨_, rfl⟩ := ERC20.V4.doTransfer_ok guarded.funded done
  obtain ⟨after, relayed, contractsAfter⟩ := relay_releases 1022 code answer
    (pair.net side).relayer [] (packetOf (pair.net side.other).chainId message) target
    asked.erc20In_free named (pair.chainId_ne side) numbered wired fresh
    (balanced.unmapped home) other held done
  refine ⟨update w side after, name, symbol, ledger, ?_, held, ?_⟩
  · simp only [act, listed, chain, and_self, ↓reduceIte, transact, deliver_eq, dispatch,
      Traced.outcome_bind, Traced.outcome_lift, bind_ok_iff]
    refine ⟨after, ⟨(), rfl, ?_⟩, rfl⟩
    rw [receiveEth, if_neg (pair.net side).relayer_external]
    exact relayed
  · rw [Function.update_self, contractsAfter, Function.update_self]

end Home

/-- When no address that `ERC20Out` is called with has code on that chain and is
an ordinary token on the other, an ordinary token stays backed over every
interleaving: the bridge holds what it held and what was locked, less what was
released for burns; what is away or under way was locked and not released; and
every burn that was not relayed yet pays when it is. -/
theorem home_tokens_backed [DecidableEq H] (pair : Pair H) (contracts : Side → Address → Contract)
    (deployed : ∀ side, Deployed (pair.net side) (contracts side)) (eth : Side → Nat)
    (actions : List (Action pair)) (apart : ∀ action ∈ actions, action.Apart contracts)
    (side : Side) (token : Address) (home : (contracts side token).Standard) :
    let w := run (act pair) (start pair eth contracts) actions
    let this := (pair.net side).this
    let source := (pair.net side.other).chainId
    (contracts side token).holding this + (w side).locked token ≤
      ((w side).contracts token).holding this + (w side).released token ∧
    (w side).released token ≤ (w side.other).burned token ∧
    bridgedSupply (w side.other) token + inFlight pair w side.other token +
      inFlight pair w side token + (w side).released token ≤ (w side).locked token ∧
    ∀ message ∈ (w side.other).sent, ∀ recipient amount,
      message.msgData = .erc20In token recipient amount → recipient ≠ 0 → source ≠ 0 →
      (w side).relayedMessages ((pair.net side).keccak (packetOf source message)) = false →
      ∀ (code : List (Call (pair.net side))) (answer : Answer), ∃ after name symbol ledger,
        act pair w (.relay side message code answer) = .ok after ∧
        (w side).contracts token = .standard name symbol ledger ∧
        (after side).contracts token = .standard name symbol
          { ledger with balances := Ledger.move ledger.balances this recipient amount } := by
  intro w this source
  have balanced : Balanced pair contracts w := run_balanced deployed eth actions apart
  obtain ⟨covered, released⟩ := balanced.covered home
  refine ⟨(balanced.accounts side).backed.reserve token home, by omega, covered, ?_⟩
  intro message listed recipient amount named real numbered fresh code answer
  exact balanced.relay_pays (deployed side) home listed named real numbered fresh code answer

/-- One ordinary token at address 50. -/
def oneToken (ledger : ERC20) : Address → Contract :=
  update (fun _ => .vacant) 50 (.standard "Token" "T" ledger)

theorem oneToken_standard (ledger : ERC20) : (oneToken ledger 50).Standard := by
  rw [oneToken, Function.update_self]
  exact trivial

theorem oneToken_deployed {net : Network H} (real : net.this ≠ 0) (other : net.this ≠ 50)
    (account : Address) (supply : Fin (2 ^ 256)) :
    Deployed net (oneToken (ERC20.deploy account supply)) where
  real := real
  vacant := by rw [oneToken, Function.update_of_ne other]
  guarded token name symbol ledger held := by
    by_cases here : token = 50
    · subst here
      rw [oneToken, Function.update_self, Contract.standard.injEq] at held
      obtain ⟨_, _, rfl⟩ := held
      exact ⟨ERC20.deploy_funded account supply, fun _ => rfl⟩
    · rw [oneToken, Function.update_of_ne here] at held
      cases held
  unmade token name symbol ledger remoteToken held := by
    by_cases here : token = 50
    · subst here
      rw [oneToken, Function.update_self] at held
      cases held
    · rw [oneToken, Function.update_of_ne here] at held
      cases held

/-- Account 3 on the left approves the bridge and sends 7 of its tokens to
account 4 on the right. -/
def sendSeven : List (Action samplePair) :=
  [.user .left (.token sampleSender 50 (.token (.approve 100 7))),
   .user .left (.message sampleSender 0 (.erc20Out 50 4 7) [] .silent)]

/-- Account 4 gets bridged tokens and sends 3 of them back to account 5. -/
def sendThreeBack : List (Action samplePair) :=
  [.relay .right ⟨78705, 200, 100, 0, 0, .erc20Register 50 "Token" "T"⟩ [] .silent,
   .relay .right ⟨78705, 200, 100, 0, 1, .erc20In 50 4 7⟩ [] .silent,
   .user .right (.message ⟨4, 4, by decide, by decide, by decide⟩ 0 (.erc20Out 1000 5 3) []
     .silent),
   .relay .left ⟨78704, 100, 200, 0, 0, .erc20In 50 5 3⟩ [] .silent]

/-- The token lives on the left only. -/
def homeLeft : Side → Address → Contract
  | .left => oneToken (ERC20.deploy 3 10)
  | .right => fun _ => .vacant

theorem homeLeft_deployed (side : Side) : Deployed (samplePair.net side) (homeLeft side) := by
  cases side with
  | left => exact oneToken_deployed (by decide) (by decide) 3 10
  | right =>
      exact ⟨by decide, rfl, fun _ _ _ _ held => (nomatch held),
        fun _ _ _ _ _ held => (nomatch held)⟩

/-- The right side has no code, and the left side no token of the right. -/
theorem homeLeft_apart (side : Side) (token : Address) : ¬ Collides homeLeft side token := by
  rintro ⟨present, standard⟩
  cases side with
  | left => exact standard
  | right => exact present rfl

theorem sample_apart :
    ∀ action ∈ sendSeven ++ sendThreeBack, action.Apart homeLeft := by
  simp only [sendSeven, sendThreeBack, List.cons_append, List.nil_append, List.forall_mem_cons]
  refine ⟨.token _ _ _, ?_, List.forall_mem_nil _, List.forall_mem_nil _, ?_,
    List.forall_mem_nil _, List.forall_mem_nil _⟩
  · exact .message (fun token _ _ _ => homeLeft_apart .left token) (List.forall_mem_nil _)
  · exact .message (fun token _ _ _ => homeLeft_apart .right token) (List.forall_mem_nil _)

theorem home_tokens_backed_sample :
    ∃ w, run (act samplePair) (start samplePair (fun _ => 0) homeLeft)
        (sendSeven ++ sendThreeBack) = w ∧
      ((w .left).contracts 50).holding (samplePair.net .left).this = 4 ∧
      (w .left).released 50 = 3 ∧
      (homeLeft .left 50).holding (samplePair.net .left).this + (w .left).locked 50 ≤
        ((w .left).contracts 50).holding (samplePair.net .left).this + (w .left).released 50 := by
  have backed := home_tokens_backed samplePair homeLeft homeLeft_deployed (fun _ => 0)
    (sendSeven ++ sendThreeBack) sample_apart .left 50 (oneToken_standard _)
  exact ⟨_, rfl, by decide +kernel, by decide +kernel, backed.1⟩

/-- The same address holds a token of account 3 on the left, and on the right a
token of which the bridge has 7. -/
def homeBoth : Side → Address → Contract
  | .left => oneToken (ERC20.deploy 3 10)
  | .right => oneToken (ERC20.deploy 200 7)

/-- With colliding addresses, a lock on the left relayed before its registration
releases the unrelated token on the right, although nothing was burned for it. -/
theorem colliding_token_not_backed :
    (∀ side, Deployed (samplePair.net side) (homeBoth side)) ∧ (homeBoth .right 50).Standard ∧
    let w := run (act samplePair) (start samplePair (fun _ => 0) homeBoth)
      (sendSeven ++ [.relay .right ⟨78705, 200, 100, 0, 1, .erc20In 50 4 7⟩ [] .silent])
    ¬ (homeBoth .right 50).holding 200 + (w .right).locked 50 ≤
      ((w .right).contracts 50).holding 200 + (w .left).burned 50 := by
  refine ⟨?_, oneToken_standard _, by decide +kernel⟩
  intro side
  cases side with
  | left => exact oneToken_deployed (by decide) (by decide) 3 10
  | right => exact oneToken_deployed (by decide) (by decide) 200 7

end Bridge
