import BlazCtf.Bridge.Contract
import Mathlib.Logic.Relation

set_option autoImplicit false

namespace Bridge

open Evm
open Function (update)
open OpenZeppelin (ERC20)
open OpenZeppelin.ERC20.V4 (Request perform doMint doBurn)

variable {H : Type} {net : Network H} {allowed : Address → Prop}

/-- The log entry of `this.sendRemoteMessage` to the remote bridge. -/
def announced (net : Network H) (s : State H) (value : Nat) (message : Calldata) : State H :=
  { s with
    sent := ⟨net.chainId ^^^ 1, s.remoteBridge (net.chainId ^^^ 1), net.this, value, s.msgNonce,
      message⟩ :: s.sent
    msgNonce := (s.msgNonce + 1) % 2 ^ 256 }

/-- The messages for tokens taken by `ERC20Out`, the first time with a registration. -/
def sentOut (net : Network H) (s : State H) (token recipient : Address) (amount : Nat)
    (name symbol : String) : State H :=
  announced net
    (if s.isTokenRegisteredAtRemote (net.chainId ^^^ 1) token then s
    else { announced net s 0 (.erc20Register token name symbol) with
      isTokenRegisteredAtRemote := update s.isTokenRegisteredAtRemote (net.chainId ^^^ 1)
        (update (s.isTokenRegisteredAtRemote (net.chainId ^^^ 1)) token true) })
    0 (.erc20In token recipient amount)

/-- The smallest pieces of what accounts other than the relayer can do, when they
send only `allowed` tokens. -/
inductive Step (net : Network H) (allowed : Address → Prop) : State H → State H → Prop
  | forceEth (s : State H) (value : Nat) :
      Step net allowed s { s with eth := s.eth + value, forced := s.forced + value }
  | request {s : State H} {token msgSender : Address} {request : Request} {ledger after : ERC20}
      (external : msgSender ≠ net.this) (held : (s.contracts token).ledger = some ledger)
      (done : perform ledger msgSender request = .ok after) :
      Step net allowed s (s.setContract token ((s.contracts token).withLedger after))
  | ethOut (s : State H) (recipient : Address) (value : Nat) :
      Step net allowed s (announced net
        { s with eth := s.eth + value, taken := s.taken + value } value (.ethIn recipient))
  | lock {s : State H} {token msgSender recipient : Address} {amount : Nat} {ledger after : ERC20}
      (name symbol : String) (permitted : allowed token) (external : msgSender ≠ net.this)
      (plain : s.isBridgedERC20 token = false) (held : (s.contracts token).ledger = some ledger)
      (done : perform ledger net.this (.transferFrom msgSender net.this amount) = .ok after) :
      Step net allowed s (sentOut net
        { s.setContract token ((s.contracts token).withLedger after) with
          locked := tally s.locked token amount } token recipient amount name symbol)
  | lockForeign {s : State H} {token : Address} (recipient : Address) (amount : Nat)
      (name symbol : String) (permitted : allowed token) (code : s.contracts token = .foreign) :
      Step net allowed s (sentOut net { s with locked := tally s.locked token amount } token
        recipient amount name symbol)
  | burn {s : State H} {token msgSender : Address} (recipient : Address) {amount : Nat}
      {ledger after : ERC20} {name symbol : String} {remoteToken : Address}
      (flagged : s.isBridgedERC20 token = true)
      (held : s.contracts token = .bridged name symbol ledger remoteToken)
      (done : doBurn ledger msgSender amount = .ok after) :
      Step net allowed s (announced net
        { s.setContract token (.bridged name symbol after remoteToken) with
          burned := tally s.burned remoteToken amount } 0
        (.erc20In remoteToken recipient amount))

/-- Any number of such pieces. -/
abbrev Steps (net : Network H) (allowed : Address → Prop) : State H → State H → Prop :=
  Relation.ReflTransGen (Step net allowed)

/-- What accounts other than the relayer leave as it is. -/
structure Kept (s after : State H) : Prop where
  remoteBridge : after.remoteBridge = s.remoteBridge
  remoteBridgeChainId : after.remoteBridgeChainId = s.remoteBridgeChainId
  relayedMessages : after.relayedMessages = s.relayedMessages
  senderChainId : after.relayedMessageSenderChainId = s.relayedMessageSenderChainId
  senderAddress : after.relayedMessageSenderAddress = s.relayedMessageSenderAddress
  localTokens : after.remoteTokenToLocalToken = s.remoteTokenToLocalToken
  bridgedTokens : after.isBridgedERC20 = s.isBridgedERC20
  accountNonce : after.accountNonce = s.accountNonce
  executed : after.executed = s.executed
  paid : after.paid = s.paid
  minted : after.minted = s.minted
  released : after.released = s.released

section Frame

variable {s after : State H}

/-- The storage and the records that only the relayer's calls change. -/
def relayerView (s : State H) :=
  (s.remoteBridge, s.remoteBridgeChainId, s.relayedMessages, s.relayedMessageSenderChainId,
    s.relayedMessageSenderAddress, s.remoteTokenToLocalToken, s.isBridgedERC20, s.accountNonce,
    s.executed, s.paid, s.minted, s.released)

theorem Kept.of_view (same : relayerView after = relayerView s) : Kept s after := by
  simp only [relayerView, Prod.mk.injEq] at same
  obtain ⟨h1, h2, h3, h4, h5, h6, h7, h8, h9, h10, h11, h12⟩ := same
  exact ⟨h1, h2, h3, h4, h5, h6, h7, h8, h9, h10, h11, h12⟩

theorem Kept.refl (s : State H) : Kept s s := .of_view rfl

theorem Kept.trans {middle : State H} (first : Kept s middle) (second : Kept middle after) :
    Kept s after where
  remoteBridge := second.remoteBridge.trans first.remoteBridge
  remoteBridgeChainId := second.remoteBridgeChainId.trans first.remoteBridgeChainId
  relayedMessages := second.relayedMessages.trans first.relayedMessages
  senderChainId := second.senderChainId.trans first.senderChainId
  senderAddress := second.senderAddress.trans first.senderAddress
  localTokens := second.localTokens.trans first.localTokens
  bridgedTokens := second.bridgedTokens.trans first.bridgedTokens
  accountNonce := second.accountNonce.trans first.accountNonce
  executed := second.executed.trans first.executed
  paid := second.paid.trans first.paid
  minted := second.minted.trans first.minted
  released := second.released.trans first.released

theorem kept_announced (s : State H) (value : Nat) (message : Calldata) :
    Kept s (announced net s value message) := .of_view rfl

theorem kept_setContract (s : State H) (token : Address) (contract : Contract) :
    Kept s (s.setContract token contract) := .of_view rfl

theorem Kept.sentOut (kept : Kept s after) (token recipient : Address) (amount : Nat)
    (name symbol : String) : Kept s (sentOut net after token recipient amount name symbol) := by
  refine kept.trans ?_
  unfold Bridge.sentOut
  split
  · exact kept_announced after 0 _
  · exact .of_view rfl

theorem contracts_sentOut (net : Network H) (s : State H) (token recipient : Address) (amount : Nat)
    (name symbol : String) :
    (sentOut net s token recipient amount name symbol).contracts = s.contracts := by
  unfold sentOut
  split <;> rfl

theorem Step.kept (step : Step net allowed s after) : Kept s after := by
  cases step with
  | forceEth value => exact .of_view rfl
  | request external held done => exact kept_setContract s _ _
  | ethOut recipient value => exact .of_view rfl
  | lock name symbol permitted external plain held done =>
      refine Kept.sentOut ?_ _ _ _ _ _
      exact .of_view rfl
  | lockForeign recipient amount name symbol permitted code =>
      refine Kept.sentOut ?_ _ _ _ _ _
      exact .of_view rfl
  | burn recipient flagged held done => exact .of_view rfl

theorem steps_kept (steps : Steps net allowed s after) : Kept s after := by
  induction steps with
  | refl => exact .refl s
  | tail _ step ih => exact ih.trans step.kept

/-- Foreign code stays foreign. -/
theorem Step.foreign {address : Address} (step : Step net allowed s after)
    (code : s.contracts address = .foreign) : after.contracts address = .foreign := by
  have elsewhere : ∀ {token : Address} {contract : Contract} {ledger : ERC20},
      (s.contracts token).ledger = some ledger →
      (s.setContract token contract).contracts address = .foreign := by
    intro token contract ledger held
    have distinct : address ≠ token := by
      rintro rfl
      rw [code] at held
      cases held
    simpa [State.setContract, Function.update_of_ne distinct] using code
  cases step with
  | forceEth value => exact code
  | request external held done => exact elsewhere held
  | ethOut recipient value => exact code
  | lock name symbol permitted external plain held done =>
      rw [contracts_sentOut]
      exact elsewhere held
  | lockForeign recipient amount name symbol permitted runs =>
      rw [contracts_sentOut]
      exact code
  | burn recipient flagged held done => exact elsewhere (congrArg Contract.ledger held)

theorem steps_foreign {address : Address} (steps : Steps net allowed s after)
    (code : s.contracts address = .foreign) : after.contracts address = .foreign := by
  induction steps with
  | refl => exact code
  | tail _ step ih => exact step.foreign ih

end Frame

section Tokens

variable {within : List Relay} {s after : State H} {token msgSender : Address}

theorem tokenCall_request {request : Request}
    (success : (tokenCall net within s token msgSender (.token request)).outcome = .ok after) :
    ∃ ledger next, (s.contracts token).ledger = some ledger ∧
      perform ledger msgSender request = .ok next ∧
      after = s.setContract token ((s.contracts token).withLedger next) := by
  simp only [tokenCall, Traced.outcome_bind, Traced.outcome_lift, Traced.outcome_pure, bind_ok_iff,
    callee_ok_iff, Except.ok.injEq] at success
  obtain ⟨ledger, held, next, done, rfl⟩ := success
  exact ⟨ledger, next, held, done, rfl⟩

theorem tokenCall_burn {sender : Address} {amount : Nat}
    (success : (tokenCall net within s token msgSender (.burn sender amount)).outcome =
      .ok after) :
    ∃ name symbol ledger remoteToken next,
      s.contracts token = .bridged name symbol ledger remoteToken ∧
      doBurn ledger sender amount = .ok next ∧
      after = s.setContract token (.bridged name symbol next remoteToken) := by
  unfold tokenCall at success
  split at success
  · contradiction
  · contradiction
  · rename_i named held
    cases named
    simp only [Traced.outcome_bind, Traced.outcome_lift, Traced.outcome_pure, bind_ok_iff,
      Except.ok.injEq] at success
    obtain ⟨_, _, next, done, rfl⟩ := success
    exact ⟨_, _, _, _, next, held, done, rfl⟩
  · cases success

theorem tokenCall_mint {recipient : Address} {amount : Nat}
    (success : (tokenCall net within s token msgSender (.mint recipient amount)).outcome =
      .ok after) :
    msgSender = net.this ∧ ∃ name symbol ledger remoteToken next,
      s.contracts token = .bridged name symbol ledger remoteToken ∧
      doMint ledger recipient amount = .ok next ∧
      after = s.setContract token (.bridged name symbol next remoteToken) := by
  unfold tokenCall at success
  split at success
  · contradiction
  · rename_i named held
    cases named
    simp only [Traced.outcome_bind, Traced.outcome_lift, Traced.outcome_pure, Traced.outcome_visit,
      bind_ok_iff, require_ok_iff, Except.ok.injEq] at success
    obtain ⟨_, own, _, _, _, _, next, done, rfl⟩ := success
    exact ⟨own, _, _, _, _, next, held, done, rfl⟩
  · contradiction
  · cases success

theorem tokenCall_steps {data : Calldata} (external : msgSender ≠ net.this)
    (success : (tokenCall net within s token msgSender data).outcome = .ok after) :
    Steps net allowed s after := by
  unfold tokenCall at success
  split at success
  · simp only [Traced.outcome_bind, Traced.outcome_lift, Traced.outcome_pure, bind_ok_iff,
      callee_ok_iff, Except.ok.injEq] at success
    obtain ⟨ledger, held, after, done, rfl⟩ := success
    exact .single (.request external held done)
  · simp only [Traced.outcome_bind, Traced.outcome_lift, bind_ok_iff, require_ok_iff] at success
    exact absurd success.choose_spec.1 external
  · simp only [Traced.outcome_bind, Traced.outcome_lift, bind_ok_iff, require_ok_iff] at success
    exact absurd success.choose_spec.1 external
  · cases success

end Tokens

/-- A call that, at any depth, names only `allowed` tokens in `ERC20Out`. -/
inductive Sends (allowed : Address → Prop) : Call net → Prop
  | message {sender : Sender net} {value : Nat} {data : Calldata} {code : List (Call net)}
      {answer : Answer}
      (permitted : ∀ token recipient amount, data = .erc20Out token recipient amount →
        allowed token)
      (calls : ∀ made ∈ code, Sends allowed made) :
      Sends allowed (.message sender value data code answer)
  | token (sender : Sender net) (token : Address) (data : Calldata) :
      Sends allowed (.token sender token data)
  | forceEth (value : Nat) : Sends allowed (.forceEth value)

/-- Every call names some tokens. -/
theorem sends_any : ∀ made : Call net, Sends (fun _ => True) made
  | .message _ _ _ code _ => .message (fun _ _ _ _ => trivial) fun made _ => sends_any made
  | .token sender token data => .token sender token data
  | .forceEth value => .forceEth value

/-- The functions reserved for the relayer. -/
def Calldata.relays : Calldata → Bool
  | .registerRemoteBridge _ _ | .relayMessage _ _ _ _ _ _ => true
  | _ => false

section Decomposition

variable [DecidableEq H]

/-- The calls the bridge can make with `depth` frames left. -/
def callOutAt (depth : Nat) (code : List (Call net)) (answer : Answer) (origin : Address) :
    CallOut H :=
  match depth with
  | 0 => fun _ _ _ _ _ => .fail .bare
  | depth + 1 => callOutWith (deliver depth) code answer origin

theorem deliver_eq (depth : Nat) (code : List (Call net)) (answer : Answer) (within : List Relay)
    (s : State H) (origin msgSender : Address) (value : Nat) (data : Calldata) :
    deliver depth code answer within s origin msgSender value data =
      dispatch net answer (callOutAt depth code answer origin) within
        (receiveEth net s msgSender value) origin msgSender value data := by
  cases depth <;> rfl

theorem nonPayable_ok {value : Nat} {u : Unit} (success : nonPayable value = .ok u) :
    value = 0 := by
  unfold nonPayable at success
  split at success
  · assumption
  · cases success

/-- What a successful call of the bridge did, by the code at its target. -/
inductive Called (left : Nat) (code : List (Call net)) (answer : Answer) (origin : Address)
    (within : List Relay) (s : State H) (target : Address) (value : Nat) (data : Calldata) :
    State H → Bool → Prop
  | self {after : State H} (own : target = net.this)
      (delivered : (deliver left code answer within s origin net.this value data).outcome =
        .ok after) : Called left code answer origin within s target value data after true
  | vacant (other : target ≠ net.this) (empty : s.contracts target = .vacant) :
      Called left code answer origin within s target value data
        { s with eth := s.eth - value } true
  | foreign {result : Bool} (other : target ≠ net.this) (runs : s.contracts target = .foreign)
      (answered : answer.returns = some result) :
      Called left code answer origin within s target value data
        (run (fun s made => (call left within s made).outcome) { s with eth := s.eth - value } code)
        result
  | token {ledger : ERC20} {after : State H} (other : target ≠ net.this)
      (held : (s.contracts target).ledger = some ledger) (free : value = 0)
      (done : (tokenCall net within s target net.this data).outcome = .ok after) :
      Called left code answer origin within s target value data after true

theorem callOutAt_ok {depth : Nat} {code : List (Call net)} {answer : Answer} {origin : Address}
    {within : List Relay} {s after : State H} {target : Address} {value : Nat} {data : Calldata}
    {result : Bool}
    (success : (callOutAt depth code answer origin within s target value data).outcome =
      .ok (after, result)) :
    ∃ left, depth = left + 1 ∧ value ≤ s.eth ∧
      Called left code answer origin within s target value data after result := by
  cases depth with
  | zero => cases success
  | succ left =>
      refine ⟨left, rfl, ?_⟩
      simp only [callOutAt, callOutWith] at success
      split at success
      · cases success
      · rename_i funded
        refine ⟨Nat.le_of_not_lt funded, ?_⟩
        split at success
        · rename_i own
          simp only [Traced.outcome_bind, Traced.outcome_pure, bind_ok_iff, Except.ok.injEq,
            Prod.mk.injEq] at success
          obtain ⟨_, delivered, rfl, rfl⟩ := success
          exact .self own delivered
        · rename_i other
          split at success
          · rename_i empty
            simp only [Traced.outcome_pure, Except.ok.injEq, Prod.mk.injEq] at success
            obtain ⟨rfl, rfl⟩ := success
            exact .vacant other empty
          · rename_i foreign
            simp only [Traced.outcome_bind, Traced.outcome_runAll, Traced.outcome_lift,
              Traced.outcome_pure, bind_ok_iff, callee_ok_iff, Except.ok.injEq,
              Prod.mk.injEq] at success
            obtain ⟨_, rfl, _, answered, rfl, rfl⟩ := success
            exact .foreign other foreign answered
          all_goals
            rename_i held
            simp only [Traced.outcome_bind, Traced.outcome_lift, Traced.outcome_pure, bind_ok_iff,
              Except.ok.injEq, Prod.mk.injEq] at success
            obtain ⟨_, free, _, done, rfl, rfl⟩ := success
            exact .token other (congrArg Contract.ledger held) (nonPayable_ok free) done

variable {depth : Nat} {code : List (Call net)} {answer : Answer} {origin msgSender : Address}
variable {within : List Relay} {s after : State H} {value : Nat}

theorem callSendRemoteMessage_ok {remoteBridge : Address} {message : Calldata}
    (success : (callSendRemoteMessage net (callOutAt depth code answer origin) within s value
      remoteBridge message).outcome = .ok after)
    (same : remoteBridge = s.remoteBridge (net.chainId ^^^ 1)) :
    after = announced net s value message := by
  simp only [callSendRemoteMessage, Traced.outcome_bind, bind_ok_iff, Prod.exists,
    Traced.outcome_pure, Except.ok.injEq] at success
  obtain ⟨_, _, called, rfl⟩ := success
  obtain ⟨left, _, _, reached⟩ := callOutAt_ok called
  cases reached with
  | self own delivered =>
      simp only [deliver_eq, dispatch, receiveEth, ↓reduceIte, sendRemoteMessage,
        Traced.outcome_lift, bind_ok_iff, pure_ok_iff] at delivered
      obtain ⟨_, _, _, _, _, _, rfl⟩ := delivered
      rw [same]
      rfl
  | vacant other => exact absurd rfl other
  | foreign other => exact absurd rfl other
  | token other => exact absurd rfl other

/-- What the calls of foreign code do when at most `depth` calls can be nested. -/
def Nested (depth : Nat) (code : List (Call net)) (allowed : Address → Prop) : Prop :=
  ∀ left, depth = left + 1 → ∀ made ∈ code, ∀ {within : List Relay} {s after : State H},
    (call left within s made).outcome = .ok after → Steps net allowed s after

/-- The nested calls of foreign code, one after another. -/
theorem run_steps {left : Nat}
    (nested : ∀ made ∈ code, ∀ {within : List Relay} {s after : State H},
      (call left within s made).outcome = .ok after → Steps net allowed s after) (s : State H) :
    Steps net allowed s (run (fun s made => (call left within s made).outcome) s code) :=
  run_invariant_of_mem (Steps net allowed s)
    (fun _ made _ reached member success => reached.trans (nested made member success)) .refl

/-- A token call of the bridge that returned went to foreign code or to a ledger. -/
theorem callToken_ok {target : Address} {data : Calldata} {result : Bool} {u : Unit}
    (nested : Nested depth code allowed)
    (unknown : (∃ request, data = .token request) ∨ (∃ sender amount, data = .burn sender amount) ∨
      ∃ recipient amount, data = .mint recipient amount)
    (success : (callOutAt depth code answer origin within s target 0 data).outcome =
      .ok (after, result))
    (hasCode : requireCode net s target = .ok u) :
    target ≠ net.this ∧
      ((s.contracts target = .foreign ∧ Steps net allowed s after) ∨
        ((s.contracts target).ledger.isSome ∧
          (tokenCall net within s target net.this data).outcome = .ok after)) := by
  obtain ⟨left, frames, _, reached⟩ := callOutAt_ok success
  cases reached with
  | self own delivered =>
      rw [deliver_eq] at delivered
      rcases unknown with ⟨_, rfl⟩ | ⟨_, _, rfl⟩ | ⟨_, _, rfl⟩ <;> cases delivered
  | vacant other empty =>
      simp [requireCode, other, empty] at hasCode
  | foreign other runs answered =>
      exact ⟨other, .inl ⟨runs, run_steps (nested left frames) _⟩⟩
  | token other held free done => exact ⟨other, .inr ⟨by simp [held], done⟩⟩

/-- The messages at the end of `ERC20Out`. -/
theorem sentOut_ok {token recipient remoteBridge : Address} {amount : Nat} {middle : State H}
    (first : (registerToken net answer (callOutAt depth code answer origin) within s remoteBridge
      token).outcome = .ok middle)
    (second : (callSendRemoteMessage net (callOutAt depth code answer origin) within middle 0
      remoteBridge (.erc20In token recipient amount)).outcome = .ok after)
    (same : remoteBridge = s.remoteBridge (net.chainId ^^^ 1)) :
    ∃ name symbol, after = sentOut net s token recipient amount name symbol := by
  unfold registerToken at first
  split at first
  · rename_i listed
    rw [Traced.outcome_pure, Except.ok.injEq] at first
    subst first
    refine ⟨"", "", ?_⟩
    rw [callSendRemoteMessage_ok second same, sentOut, if_pos listed]
  · rename_i unlisted
    simp only [Traced.outcome_bind, Traced.outcome_lift, Traced.outcome_pure, bind_ok_iff,
      Prod.exists, Except.ok.injEq] at first
    obtain ⟨name, symbol, _, _, registered, rfl⟩ := first
    have announcement := callSendRemoteMessage_ok registered same
    subst announcement
    refine ⟨name, symbol, ?_⟩
    rw [callSendRemoteMessage_ok second same, sentOut, if_neg unlisted]
    rfl

theorem erc20Out_steps {token recipient : Address} {amount : Nat}
    (nested : Nested depth code allowed)
    (permitted : allowed token) (external : msgSender ≠ net.this)
    (success : (erc20Out net answer (callOutAt depth code answer origin) within s msgSender token
      recipient amount).outcome = .ok after) : Steps net allowed s after := by
  unfold erc20Out at success
  dsimp only at success
  split at success
  · rename_i flagged
    simp only [Traced.outcome_bind, Traced.outcome_lift, bind_ok_iff, Prod.exists] at success
    obtain ⟨_, hasCode, middle, _, called, remoteToken, remote, announcement⟩ := success
    obtain ⟨_, ⟨runs, steps⟩ | ⟨_, burned⟩⟩ :=
      callToken_ok nested (.inr (.inl ⟨_, _, rfl⟩)) called hasCode
    · -- flagged tokens are the bridge's own, and foreign code is not one of them
      rw [remoteTokenOf, steps_foreign steps runs] at remote
      cases remote
    · obtain ⟨name, symbol, ledger, remoteToken', next, held, done, rfl⟩ := tokenCall_burn burned
      simp only [remoteTokenOf, State.setContract, Function.update_self, Except.ok.injEq] at remote
      subst remote
      rw [callSendRemoteMessage_ok announcement rfl]
      exact .single (.burn recipient flagged held done)
  · rename_i plain
    simp only [Traced.outcome_bind, Traced.outcome_lift, bind_ok_iff, Prod.exists] at success
    obtain ⟨_, hasCode, middle, _, called, _, _, registered, first, second⟩ := success
    obtain ⟨_, ⟨runs, steps⟩ | ⟨_, moved⟩⟩ := callToken_ok nested (.inl ⟨_, rfl⟩) called hasCode
    · have same := congrFun (steps_kept steps).remoteBridge (net.chainId ^^^ 1)
      obtain ⟨name, symbol, rfl⟩ := sentOut_ok first second same.symm
      exact steps.tail (.lockForeign recipient amount name symbol permitted
        (steps_foreign steps runs))
    · obtain ⟨ledger, next, held, done, rfl⟩ := tokenCall_request moved
      obtain ⟨name, symbol, rfl⟩ := sentOut_ok first second rfl
      exact .single (.lock name symbol permitted external (Bool.eq_false_iff.mpr plain) held done)

theorem ethOut_steps {recipient : Address} (external : msgSender ≠ net.this)
    (success : (ethOut net (callOutAt depth code answer origin) within
      (receiveEth net s msgSender value) value recipient).outcome = .ok after) :
    Steps net allowed s after := by
  rw [receiveEth, if_neg external] at success
  rw [callSendRemoteMessage_ok success rfl]
  exact .single (.ethOut s recipient value)

/-- A message of anybody but the bridge that does not use the relayer's rights. -/
theorem dispatch_steps {data : Calldata}
    (nested : Nested depth code allowed)
    (permitted : ∀ token recipient amount, data = .erc20Out token recipient amount → allowed token)
    (external : msgSender ≠ net.this)
    (unprivileged : msgSender ≠ net.relayer ∨ data.relays = false)
    (success : (dispatch net answer (callOutAt depth code answer origin) within
      (receiveEth net s msgSender value) origin msgSender value data).outcome = .ok after) :
    Steps net allowed s after := by
  cases data with
  | receive =>
      simp only [dispatch, Traced.outcome_bind, bind_ok_iff] at success
      obtain ⟨_, _, sent⟩ := success
      exact ethOut_steps external sent
  | ethOut recipient => exact ethOut_steps external success
  | erc20Out token recipient amount =>
      simp only [dispatch, Traced.outcome_bind, Traced.outcome_lift, bind_ok_iff] at success
      obtain ⟨_, free, sent⟩ := success
      have zero := nonPayable_ok free
      subst zero
      rw [receiveEth, if_neg external] at sent
      exact erc20Out_steps nested (permitted _ _ _ rfl) external sent
  | registerRemoteBridge remoteChainId remoteBridge =>
      simp only [dispatch, registerRemoteBridge, Traced.outcome_bind, Traced.outcome_lift,
        bind_ok_iff, require_ok_iff] at success
      obtain ⟨_, _, _, relayer, _⟩ := success
      rcases unprivileged with other | unlike
      · exact absurd relayer other
      · cases unlike
  | relayMessage targetAddress sourceChainId sourceAddress packetValue nonce message =>
      simp only [dispatch, relayMessage, Traced.outcome_bind, Traced.outcome_lift,
        bind_ok_iff, require_ok_iff] at success
      obtain ⟨_, _, _, relayer, _⟩ := success
      rcases unprivileged with other | unlike
      · exact absurd relayer other
      · cases unlike
  | ethIn recipient =>
      simp only [dispatch, ethIn, onlyRemoteBridge, Traced.outcome_bind, Traced.outcome_lift,
        bind_ok_iff, require_ok_iff] at success
      obtain ⟨_, own, _⟩ := success
      exact absurd own.1 external
  | erc20Register remoteToken name symbol =>
      simp only [dispatch, erc20Register, onlyRemoteBridge, Traced.outcome_bind,
        Traced.outcome_lift, bind_ok_iff, require_ok_iff] at success
      obtain ⟨_, _, _, own, _⟩ := success
      exact absurd own.1 external
  | erc20In token recipient amount =>
      simp only [dispatch, erc20In, onlyRemoteBridge, Traced.outcome_bind, Traced.outcome_lift,
        bind_ok_iff, require_ok_iff] at success
      obtain ⟨_, own, _⟩ := success
      exact absurd own.1 external
  | sendRemoteMessage targetChainId targetAddress message =>
      simp only [dispatch, sendRemoteMessage, Traced.outcome_lift, bind_ok_iff,
        require_ok_iff] at success
      obtain ⟨_, _, _, _, _, own, _⟩ := success
      exact absurd own external
  | token request => cases success
  | mint recipient amount => cases success
  | burn sender amount => cases success
  | unknown bytes => cases success

theorem call_steps_of_nested {made : Call net} (sends : Sends allowed made)
    (nested : ∀ code : List (Call net), (∀ made ∈ code, Sends allowed made) →
      Nested depth code allowed)
    (success : (call depth within s made).outcome = .ok after) : Steps net allowed s after := by
  cases sends with
  | forceEth value =>
      obtain rfl := Except.ok.inj success
      exact .single (.forceEth s value)
  | token sender token data => exact tokenCall_steps sender.external success
  | message permitted calls =>
      simp only [call, callWith, deliver_eq] at success
      exact dispatch_steps (nested _ calls) permitted (Sender.external _)
        (.inl (Sender.notRelayer _)) success

/-- Whatever a call from outside does, however deep the calls in it are nested,
is a sequence of the smallest pieces. -/
theorem call_steps (depth : Nat) : ∀ {made : Call net}, Sends allowed made →
    ∀ {within : List Relay} {s after : State H},
      (call depth within s made).outcome = .ok after → Steps net allowed s after := by
  induction depth with
  | zero =>
      intro made sends within s after
      refine call_steps_of_nested sends ?_
      intro code calls left frames
      cases frames
  | succ depth ih =>
      intro made sends within s after
      refine call_steps_of_nested sends ?_
      intro code calls left frames made member
      obtain rfl := Nat.succ.inj frames
      exact ih (calls made member)

theorem nested_of_sends (calls : ∀ made ∈ code, Sends allowed made) : Nested depth code allowed :=
  fun left _ made member => call_steps left (calls made member)

end Decomposition

end Bridge
