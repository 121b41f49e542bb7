import BlazCtf.Bridge.Steps

set_option autoImplicit false

namespace Bridge

open Evm
open Function (update)

variable {H : Type} {net : Network H}

/-- No guarded body starts. -/
def Quiet {α : Type} (body : Traced (Visit H) α) : Prop := ∀ mark, mark ∉ body.visits

section Tokens

variable {within : List Relay} {s : State H} {token msgSender : Address}

/-- Only `mint` is guarded on a token, and only the bridge passes its guard. -/
theorem tokenCall_visits {data : Calldata} {mark : Visit H}
    (member : mark ∈ (tokenCall net within s token msgSender data).visits) :
    msgSender = net.this ∧ remoteBridgeSpeaks s ∧ mark = ⟨.mint token, within, s⟩ ∧
      ∃ recipient amount, data = .mint recipient amount := by
  unfold tokenCall at member
  split at member
  · simp at member
  · simp only [Traced.mem_visits_bind, Traced.visits_lift, Traced.outcome_lift,
      Traced.visits_visit, Traced.visits_pure, require_ok_iff, List.mem_singleton, List.not_mem_nil,
      false_or, and_false, exists_false, or_false] at member
    obtain ⟨_, own, _, speaks, marked⟩ := member
    exact ⟨own, speaks, marked, _, _, rfl⟩
  · simp at member
  · simp at member

theorem tokenCall_quiet {data : Calldata}
    (other : msgSender ≠ net.this ∨ ∀ recipient amount, data ≠ .mint recipient amount) :
    Quiet (tokenCall net within s token msgSender data) := by
  intro mark member
  obtain ⟨own, _, _, recipient, amount, minting⟩ := tokenCall_visits member
  rcases other with external | unlike
  · exact external own
  · exact unlike recipient amount minting

end Tokens

section Calls

variable [DecidableEq H] {depth : Nat} {code : List (Call net)} {answer : Answer}
variable {origin msgSender : Address} {within : List Relay} {s : State H} {value : Nat}

/-- Where the marks of a call by the bridge come from: its own dispatcher, or a
token; foreign code starts no guarded body. -/
theorem callOutAt_visits {target : Address} {data : Calldata} {mark : Visit H}
    (nested : ∀ left, depth = left + 1 → ∀ {within : List Relay} {s : State H} {made : Call net},
      Quiet (call left within s made))
    (member : mark ∈ (callOutAt depth code answer origin within s target value data).visits) :
    (target = net.this ∧ ∃ left, depth = left + 1 ∧
        mark ∈ (deliver left code answer within s origin net.this value data).visits) ∨
      (target ≠ net.this ∧ mark ∈ (tokenCall net within s target net.this data).visits) := by
  cases depth with
  | zero => cases member
  | succ left =>
      simp only [callOutAt, callOutWith] at member
      split at member
      · cases member
      · split at member
        · rename_i own
          simp only [Traced.mem_visits_bind, Traced.visits_pure, List.not_mem_nil, and_false,
            exists_false, or_false] at member
          exact .inl ⟨own, left, rfl, member⟩
        · rename_i other
          refine .inr ⟨other, ?_⟩
          split at member
          · cases member
          · simp only [Traced.mem_visits_bind, Traced.visits_lift, Traced.visits_pure,
              List.not_mem_nil, and_false, exists_false, or_false] at member
            exact (Traced.mem_visits_runAll (fun _ => True) (fun _ => False)
              (fun _ _ _ _ _ _ => trivial) (fun _ _ _ _ _ => nested left rfl _)
              trivial member).elim
          all_goals
            simp only [Traced.mem_visits_bind, Traced.visits_lift, Traced.visits_pure,
              List.not_mem_nil, false_or, and_false, exists_false, or_false] at member
            exact member.choose_spec.2

variable (nested : ∀ left, depth = left + 1 → ∀ {within : List Relay} {s : State H}
  {made : Call net}, Quiet (call left within s made))

include nested

theorem callSendRemoteMessage_quiet {remoteBridge : Address} {message : Calldata} :
    Quiet (callSendRemoteMessage net (callOutAt depth code answer origin) within s value
      remoteBridge message) := by
  intro mark member
  simp only [callSendRemoteMessage, Traced.mem_visits_bind, Traced.visits_pure, List.not_mem_nil,
    and_false, exists_false, or_false] at member
  rcases callOutAt_visits nested member with ⟨_, left, _, inner⟩ | ⟨other, _⟩
  · rw [deliver_eq] at inner
    cases inner
  · exact other rfl

/-- Calls of the token functions other than `mint`. -/
theorem callToken_quiet {target : Address} {data : Calldata}
    (unlike : (∃ request, data = .token request) ∨ ∃ sender amount, data = .burn sender amount) :
    Quiet (callOutAt depth code answer origin within s target value data) := by
  intro mark member
  rcases callOutAt_visits nested member with ⟨_, left, _, inner⟩ | ⟨_, inner⟩
  · rw [deliver_eq] at inner
    rcases unlike with ⟨_, rfl⟩ | ⟨_, _, rfl⟩ <;> cases inner
  · refine tokenCall_quiet (.inr ?_) mark inner
    rcases unlike with ⟨_, rfl⟩ | ⟨_, _, rfl⟩ <;> simp

/-- Plain ETH transfers; the bridge takes none from itself. -/
theorem callReceive_quiet {target : Address} (originExternal : origin ≠ net.this) :
    Quiet (callOutAt depth code answer origin within s target value .receive) := by
  intro mark member
  rcases callOutAt_visits nested member with ⟨_, left, _, inner⟩ | ⟨_, inner⟩
  · rw [deliver_eq] at inner
    simp only [dispatch, Traced.mem_visits_bind, Traced.visits_lift, Traced.outcome_lift,
      require_ok_iff, List.not_mem_nil, false_or] at inner
    obtain ⟨_, own, _⟩ := inner
    exact originExternal own.symm
  · exact tokenCall_quiet (.inr (by simp)) mark inner

theorem ethOut_quiet {recipient : Address} :
    Quiet (ethOut net (callOutAt depth code answer origin) within s value recipient) :=
  callSendRemoteMessage_quiet nested

theorem registerToken_quiet {remoteBridge token : Address} :
    Quiet (registerToken net answer (callOutAt depth code answer origin) within s remoteBridge
      token) := by
  intro mark member
  unfold registerToken at member
  split at member
  · cases member
  · simp only [Traced.mem_visits_bind, Traced.visits_lift, Traced.visits_pure, List.not_mem_nil,
      false_or, and_false, exists_false, or_false] at member
    obtain ⟨_, _, inner⟩ := member
    exact callSendRemoteMessage_quiet nested mark inner

theorem erc20Out_quiet {token recipient : Address} {amount : Nat} :
    Quiet (erc20Out net answer (callOutAt depth code answer origin) within s msgSender token
      recipient amount) := by
  intro mark member
  unfold erc20Out at member
  dsimp only at member
  split at member
  · simp only [Traced.mem_visits_bind, Traced.visits_lift, List.not_mem_nil, false_or] at member
    obtain ⟨_, _, burning | ⟨_, _, _, _, sending⟩⟩ := member
    · exact callToken_quiet nested (.inr ⟨_, _, rfl⟩) mark burning
    · exact callSendRemoteMessage_quiet nested mark sending
  · simp only [Traced.mem_visits_bind, Traced.visits_lift, List.not_mem_nil, false_or] at member
    obtain ⟨_, _, moving | ⟨_, _, _, _, registering | ⟨_, _, sending⟩⟩⟩ := member
    · exact callToken_quiet nested (.inl ⟨_, rfl⟩) mark moving
    · exact registerToken_quiet nested mark registering
    · exact callSendRemoteMessage_quiet nested mark sending

/-- A message of anybody but the bridge that does not use the relayer's rights
starts no guarded body. -/
theorem dispatch_quiet {data : Calldata} (external : msgSender ≠ net.this)
    (unprivileged : msgSender ≠ net.relayer ∨ data.relays = false) :
    Quiet (dispatch net answer (callOutAt depth code answer origin) within s origin msgSender value
      data) := by
  intro mark member
  cases data with
  | receive =>
      simp only [dispatch, Traced.mem_visits_bind, Traced.visits_lift, List.not_mem_nil,
        false_or] at member
      obtain ⟨_, _, sending⟩ := member
      exact ethOut_quiet nested mark sending
  | ethOut recipient => exact ethOut_quiet nested mark member
  | erc20Out token recipient amount =>
      simp only [dispatch, Traced.mem_visits_bind, Traced.visits_lift, List.not_mem_nil,
        false_or] at member
      obtain ⟨_, _, sending⟩ := member
      exact erc20Out_quiet nested mark sending
  | registerRemoteBridge remoteChainId remoteBridge => simp [dispatch] at member
  | relayMessage targetAddress sourceChainId sourceAddress packetValue nonce message =>
      simp only [dispatch, relayMessage, Traced.mem_visits_bind, Traced.visits_lift,
        Traced.outcome_lift, require_ok_iff, List.not_mem_nil, false_or] at member
      obtain ⟨_, _, _, relayer, _⟩ := member
      rcases unprivileged with other | unlike
      · exact other relayer
      · cases unlike
  | ethIn recipient =>
      simp only [dispatch, ethIn, onlyRemoteBridge, Traced.mem_visits_bind, Traced.visits_lift,
        Traced.outcome_lift, require_ok_iff, List.not_mem_nil, false_or] at member
      obtain ⟨_, own, _⟩ := member
      exact external own.1
  | erc20Register remoteToken name symbol =>
      simp only [dispatch, erc20Register, onlyRemoteBridge, Traced.mem_visits_bind,
        Traced.visits_lift, Traced.outcome_lift, require_ok_iff, List.not_mem_nil,
        false_or] at member
      obtain ⟨_, _, _, own, _⟩ := member
      exact external own.1
  | erc20In token recipient amount =>
      simp only [dispatch, erc20In, onlyRemoteBridge, Traced.mem_visits_bind, Traced.visits_lift,
        Traced.outcome_lift, require_ok_iff, List.not_mem_nil, false_or] at member
      obtain ⟨_, own, _⟩ := member
      exact external own.1
  | sendRemoteMessage targetChainId targetAddress message => simp [dispatch] at member
  | token request => cases member
  | mint recipient amount => cases member
  | burn sender amount => cases member
  | unknown bytes => cases member

theorem call_quiet_of_nested {made : Call net} : Quiet (call depth within s made) := by
  cases made with
  | forceEth value =>
      intro mark member
      cases member
  | token sender token data => exact tokenCall_quiet (.inl sender.external)
  | message sender value data code answer =>
      simp only [call, callWith, deliver_eq]
      exact dispatch_quiet nested sender.external (.inl sender.notRelayer)

omit nested

/-- Calls from outside start no guarded body, at any depth. -/
theorem call_quiet (depth : Nat) : ∀ {within : List Relay} {s : State H} {made : Call net},
    Quiet (call depth within s made) := by
  induction depth with
  | zero =>
      intro within s made
      refine call_quiet_of_nested ?_
      intro left frames
      cases frames
  | succ depth ih =>
      intro within s made
      refine call_quiet_of_nested ?_
      intro left frames
      obtain rfl := Nat.succ.inj frames
      exact ih

/-- What a message of the bridge to itself marks: its guard has been passed in
the state of the mark, inside the relays around the message. -/
theorem deliver_self_visits {data : Calldata} {mark : Visit H} (originExternal : origin ≠ net.this)
    (member : mark ∈ (deliver depth code answer within s origin net.this value data).visits) :
    remoteBridgeSpeaks s ∧ mark.within = within ∧
      mark.state.remoteBridgeChainId = s.remoteBridgeChainId := by
  have nested : ∀ left, depth = left + 1 → ∀ {within : List Relay} {s : State H}
      {made : Call net}, Quiet (call left within s made) := fun left _ => call_quiet left
  rw [deliver_eq, receiveEth, if_pos rfl] at member
  cases data with
  | receive =>
      simp only [dispatch, Traced.mem_visits_bind, Traced.visits_lift, Traced.outcome_lift,
        require_ok_iff, List.not_mem_nil, false_or] at member
      obtain ⟨_, own, _⟩ := member
      exact absurd own.symm originExternal
  | ethOut recipient => exact absurd member (ethOut_quiet nested mark)
  | erc20Out token recipient amount =>
      simp only [dispatch, Traced.mem_visits_bind, Traced.visits_lift, List.not_mem_nil,
        false_or] at member
      obtain ⟨_, _, sending⟩ := member
      exact absurd sending (erc20Out_quiet nested mark)
  | registerRemoteBridge remoteChainId remoteBridge => simp [dispatch] at member
  | relayMessage targetAddress sourceChainId sourceAddress packetValue nonce message =>
      simp only [dispatch, relayMessage, Traced.mem_visits_bind, Traced.visits_lift,
        Traced.outcome_lift, require_ok_iff, List.not_mem_nil, false_or] at member
      obtain ⟨_, _, _, relayer, _⟩ := member
      exact absurd relayer.symm net.relayer_external
  | ethIn recipient =>
      simp only [dispatch, ethIn, onlyRemoteBridge, Traced.mem_visits_bind, Traced.visits_lift,
        Traced.outcome_lift, Traced.visits_visit, Traced.visits_failAs, Traced.visits_pure,
        require_ok_iff, List.mem_singleton, List.not_mem_nil, false_or, and_false, exists_false,
        or_false] at member
      obtain ⟨_, guarded, rfl | ⟨_, _, _, _, paying⟩⟩ := member
      · exact ⟨guarded.2, rfl, rfl⟩
      · exact absurd paying (callReceive_quiet nested originExternal mark)
  | erc20Register remoteToken name symbol =>
      simp only [dispatch, erc20Register, onlyRemoteBridge, Traced.mem_visits_bind,
        Traced.visits_lift, Traced.outcome_lift, Traced.visits_visit, require_ok_iff,
        List.mem_singleton, List.not_mem_nil, false_or] at member
      obtain ⟨_, _, _, guarded, rfl | ⟨_, _, creating⟩⟩ := member
      · exact ⟨guarded.2, rfl, rfl⟩
      · split at creating <;> simp at creating
  | erc20In token recipient amount =>
      simp only [dispatch, erc20In, onlyRemoteBridge, Traced.mem_visits_bind, Traced.visits_lift,
        Traced.outcome_lift, Traced.visits_visit, require_ok_iff, List.mem_singleton,
        List.not_mem_nil, false_or] at member
      obtain ⟨_, guarded, rfl | ⟨_, _, paying⟩⟩ := member
      · exact ⟨guarded.2, rfl, rfl⟩
      · split at paying
        · simp only [Traced.mem_visits_bind, Traced.visits_lift, Traced.visits_pure,
            List.not_mem_nil, false_or, and_false, exists_false, or_false] at paying
          obtain ⟨_, _, minting⟩ := paying
          rcases callOutAt_visits nested minting with ⟨_, left, _, inner⟩ | ⟨_, inner⟩
          · rw [deliver_eq] at inner
            cases inner
          · obtain ⟨_, speaks, rfl, _⟩ := tokenCall_visits inner
            exact ⟨speaks, rfl, rfl⟩
        · simp only [Traced.mem_visits_bind, Traced.visits_lift, Traced.visits_pure,
            List.not_mem_nil, false_or, and_false, exists_false, or_false] at paying
          obtain ⟨_, _, moving⟩ := paying
          exact absurd moving (callToken_quiet nested (.inl ⟨_, rfl⟩) mark)
  | sendRemoteMessage targetChainId targetAddress message => simp [dispatch] at member
  | token request => cases member
  | mint recipient amount => cases member
  | burn sender amount => cases member
  | unknown bytes => cases member

end Calls

/-- The body runs inside a relay by the relayer, with a registered source, that
targets the bridge or, for `mint`, the minting token itself. -/
def Authorised (net : Network H) (mark : Visit H) : Prop :=
  ∃ relay ∈ mark.within, relay.msgSender = net.relayer ∧
    (relay.targetAddress = net.this ∨ mark.body = .mint relay.targetAddress) ∧
    mark.state.remoteBridgeChainId relay.sourceAddress = relay.sourceChainId ∧
    relay.sourceChainId ≠ 0

/-- No relay is in progress. -/
def Idle (s : State H) : Prop :=
  s.relayedMessageSenderChainId = 0 ∧ s.relayedMessageSenderAddress = 0

theorem Kept.idle {s after : State H} (kept : Kept s after) (idle : Idle s) : Idle after :=
  ⟨kept.senderChainId.trans idle.1, kept.senderAddress.trans idle.2⟩

section Transactions

variable [DecidableEq H]

theorem relayMessage_authorised {depth : Nat} {code : List (Call net)} {answer : Answer}
    {s : State H} {packet : Packet} {mark : Visit H}
    (member : mark ∈ (relayMessage net (callOutAt depth code answer net.relayer) [] s net.relayer
      packet).visits) : Authorised net mark := by
  simp only [relayMessage, Traced.mem_visits_bind, Traced.visits_lift, Traced.outcome_lift,
    Traced.visits_failAs, Traced.visits_pure, require_ok_iff, List.not_mem_nil, false_or,
    and_false, exists_false, or_false] at member
  obtain ⟨_, _, _, _, _, _, called⟩ := member
  rcases callOutAt_visits (fun left _ => call_quiet left) called with
    ⟨own, left, _, inner⟩ | ⟨_, inner⟩
  · obtain ⟨speaks, inside, same⟩ := deliver_self_visits net.relayer_external inner
    refine ⟨⟨net.relayer, packet.targetAddress, packet.sourceChainId, packet.sourceAddress⟩, ?_,
      rfl, .inl own, ?_, speaks.1⟩
    · rw [inside]
      exact List.mem_singleton_self _
    · rw [same]
      exact speaks.2
  · obtain ⟨_, speaks, rfl, _⟩ := tokenCall_visits inner
    exact ⟨_, List.mem_singleton_self _, rfl, .inr rfl, speaks.2, speaks.1⟩

theorem transact_authorised {s : State H} {tx : Tx net} {mark : Visit H}
    (member : mark ∈ (transact s tx).visits) : Authorised net mark := by
  cases tx with
  | user made => exact absurd member (call_quiet callDepth mark)
  | relayerToken token data =>
      exact absurd member (tokenCall_quiet (.inl net.relayer_external) mark)
  | relayer value data code answer =>
      simp only [transact, deliver_eq] at member
      cases privileged : data.relays with
      | false =>
          exact absurd member (dispatch_quiet (fun left _ => call_quiet left)
            net.relayer_external (.inr privileged) mark)
      | true =>
          cases data with
          | registerRemoteBridge remoteChainId remoteBridge => simp [dispatch] at member
          | relayMessage targetAddress sourceChainId sourceAddress packetValue nonce message =>
              simp only [dispatch, Traced.mem_visits_bind, Traced.visits_lift, List.not_mem_nil,
                false_or] at member
              obtain ⟨_, _, relaying⟩ := member
              exact relayMessage_authorised relaying
          | _ => cases privileged

theorem transact_idle {s after : State H} {tx : Tx net} (idle : Idle s)
    (success : (transact s tx).outcome = .ok after) : Idle after := by
  cases tx with
  | user made => exact (steps_kept (call_steps callDepth (sends_any made) success)).idle idle
  | relayerToken token data =>
      have steps : Steps net (fun _ => True) s after :=
        tokenCall_steps net.relayer_external success
      exact (steps_kept steps).idle idle
  | relayer value data code answer =>
      simp only [transact, deliver_eq] at success
      cases privileged : data.relays with
      | false =>
          have steps := dispatch_steps (nested_of_sends fun made _ => sends_any made)
            (fun _ _ _ _ => trivial) net.relayer_external (.inr privileged) success
          exact (steps_kept steps).idle idle
      | true =>
          cases data with
          | registerRemoteBridge remoteChainId remoteBridge =>
              simp only [dispatch, registerRemoteBridge, receiveEth, net.relayer_external,
                ↓reduceIte, Traced.outcome_bind, Traced.outcome_lift, bind_ok_iff,
                pure_ok_iff] at success
              obtain ⟨_, _, _, _, rfl⟩ := success
              exact idle
          | relayMessage targetAddress sourceChainId sourceAddress packetValue nonce message =>
              simp only [dispatch, relayMessage, Traced.outcome_bind, Traced.outcome_lift,
                Traced.outcome_pure, bind_ok_iff, Prod.exists, Except.ok.injEq] at success
              obtain ⟨_, _, _, _, _, _, _, _, _, _, _, rfl⟩ := success
              exact ⟨rfl, rfl⟩
          | _ => cases privileged

/-- Between transactions no relay is in progress, and in every transaction, with
any tree of nested calls, each guarded body runs inside a relay by the relayer
with a registered source, whose target is the bridge or the minting token. -/
theorem guarded_bodies_authorised (net : Network H) (eth : Nat) (contracts : Address → Contract)
    (txs : List (Tx net)) :
    let s := run (fun s tx => (transact s tx).outcome) (deploy eth contracts) txs
    Idle s ∧ ∀ (tx : Tx net) (mark : Visit H), mark ∈ (transact s tx).visits →
      Authorised net mark := by
  intro s
  have idle : Idle s := run_invariant Idle (fun _ _ _ => transact_idle) txs _ ⟨rfl, rfl⟩
  exact ⟨idle, fun tx mark => transact_authorised⟩

end Transactions

/-- A bridge at address 100 whose relayer is account 2 and whose first token gets
address 900. -/
def sampleNet : Network Packet where
  this := 100
  chainId := 78704
  relayer := 2
  keccak := id
  newToken := fun _ => 900
  relayer_external := by decide
  newToken_ne_zero := fun _ => by decide

/-- The relayer registers the bridge at address 200 of chain 78705 and relays a
registration of its token 5. -/
def tokenRegistered : List (Tx sampleNet) :=
  [.relayer 0 (.registerRemoteBridge 78705 200) [] .silent,
   .relayer 0 (.relayMessage 100 78705 200 0 0 (.erc20Register 5 "T" "T")) [] .silent]

def relayedToToken : Tx sampleNet :=
  .relayer 0 (.relayMessage 900 78705 200 0 1 (.mint 9 7)) [] .silent

def afterRegistration : State Packet :=
  run (fun s tx => (transact s tx).outcome) (deploy 0 fun _ => .vacant) tokenRegistered

/-- The relayed `mint` is executed by the token, not by the bridge. -/
theorem relayedToToken_visit :
    ∃ mark ∈ (transact afterRegistration relayedToToken).visits,
      mark.body = .mint 900 ∧ mark.within = [⟨2, 900, 78705, 200⟩] := by
  have visits : (transact afterRegistration relayedToToken).visits.map
      (fun mark => (mark.body, mark.within)) =
      [(.mint 900, [⟨2, 900, 78705, 200⟩])] := by
    decide +kernel
  have member := List.mem_singleton_self (Body.mint 900, [(⟨2, 900, 78705, 200⟩ : Relay)])
  rw [← visits, List.mem_map] at member
  obtain ⟨mark, visited, same⟩ := member
  exact ⟨mark, visited, congrArg Prod.fst same, congrArg Prod.snd same⟩

theorem guarded_bodies_authorised_token :
    ∃ mark ∈ (transact afterRegistration relayedToToken).visits, Authorised sampleNet mark := by
  obtain ⟨mark, visited, _⟩ := relayedToToken_visit
  exact ⟨mark, visited,
    (guarded_bodies_authorised sampleNet 0 _ tokenRegistered).2 relayedToToken mark visited⟩

/-- A relay that targets a token runs `mint` although its target is not the bridge. -/
theorem mint_without_bridge_target :
    ¬ ∀ mark ∈ (transact afterRegistration relayedToToken).visits,
      ∃ relay ∈ mark.within, relay.msgSender = sampleNet.relayer ∧
        relay.targetAddress = sampleNet.this ∧
        mark.state.remoteBridgeChainId relay.sourceAddress = relay.sourceChainId ∧
        relay.sourceChainId ≠ 0 := by
  intro claimed
  obtain ⟨mark, visited, _, inside⟩ := relayedToToken_visit
  obtain ⟨relay, member, _, target, _⟩ := claimed mark visited
  rw [inside, List.mem_singleton] at member
  subst member
  exact absurd target (by decide)

end Bridge
