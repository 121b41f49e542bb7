import BlazCtf.Bridge.Outbox

set_option autoImplicit false

namespace Bridge

open Evm
open Function (update)

inductive Side where
  | left
  | right
  deriving DecidableEq

def Side.other : Side → Side
  | .left => .right
  | .right => .left

@[simp] theorem Side.other_other (side : Side) : side.other.other = side := by cases side <;> rfl

theorem Side.other_ne (side : Side) : side.other ≠ side := by cases side <;> decide

/-- Two bridges on chains whose ids differ in the lowest bit. -/
structure Pair (H : Type) where
  net : Side → Network H
  chainId_other : ∀ side, (net side.other).chainId = (net side).chainId ^^^ 1

variable {H : Type}

theorem Pair.chainId_ne (pair : Pair H) (side : Side) :
    (pair.net side.other).chainId ≠ (pair.net side).chainId := by
  rw [pair.chainId_other]
  intro same
  have cancelled : (pair.net side).chainId ^^^ ((pair.net side).chainId ^^^ 1) =
      (pair.net side).chainId ^^^ (pair.net side).chainId := by rw [same]
  rw [← Nat.xor_assoc, Nat.xor_self, Nat.zero_xor] at cancelled
  exact absurd cancelled Nat.one_ne_zero

/-- The arguments with which the relayer submits a log of the chain `source`. -/
def packetOf (source : Nat) (message : Sent) : Packet :=
  ⟨message.targetAddress, source, message.sourceAddress, message.msgValue, message.msgNonce,
    message.msgData⟩

/-- Something that happens on one of the two chains: a call from outside, or the
relayer submitting a log of the other chain. -/
inductive Action (pair : Pair H) where
  | user (side : Side) (made : Call (pair.net side))
  | relay (side : Side) (message : Sent) (code : List (Call (pair.net side))) (answer : Answer)

/-- The relayer submits only logs of the other bridge that name this chain. -/
def act [DecidableEq H] (pair : Pair H) (w : Side → State H) :
    Action pair → Outcome (Side → State H)
  | .user side made => do
      let s ← (call callDepth [] (w side) made).outcome
      pure (update w side s)
  | .relay side message code answer =>
      if message ∈ (w side.other).sent ∧ message.targetChainId = (pair.net side).chainId then do
        let s ← (transact (w side) (.relayer 0 (.relayMessage message.targetAddress
          (pair.net side.other).chainId message.sourceAddress message.msgValue message.msgNonce
          message.msgData) code answer)).outcome
        pure (update w side s)
      else .error .bare

/-- Both bridges deployed and registered with each other. -/
def start (pair : Pair H) (eth : Side → Nat) (contracts : Side → Address → Contract) (side : Side) :
    State H :=
  { deploy (eth side) (contracts side) with
    remoteBridge := update (fun _ => 0) ((pair.net side).chainId ^^^ 1) (pair.net side.other).this
    remoteBridgeChainId :=
      update (fun _ => 0) (pair.net side.other).this ((pair.net side).chainId ^^^ 1) }

/-- What a bridge has executed: each packet once, every one of them a log of the
other bridge, and the ETH they paid. -/
structure Inbox (net : Network H) (source : Nat) (logs : List Sent) (s : State H) : Prop where
  flagged : ∀ h, s.relayedMessages h = true ↔ ∃ packet ∈ s.executed, net.keccak packet = h
  once : s.executed.Nodup
  emitted : ∀ packet ∈ s.executed, ∃ message ∈ logs, packet = packetOf source message
  paidOut : s.paid = (s.executed.map Packet.ethValue).sum

/-- Both directions of the bridge. -/
structure Sound (pair : Pair H) (w : Side → State H) : Prop where
  outbox : ∀ side, Outbox (pair.net side) (pair.net side.other).this (w side)
  inbox : ∀ side, Inbox (pair.net side) (pair.net side.other).chainId (w side.other).sent (w side)

section Keeps

variable {net : Network H} {allowed : Address → Prop} {s after : State H}

theorem sent_suffix_sentOut (s : State H) (token recipient : Address) (amount : Nat)
    (name symbol : String) :
    s.sent <:+ (sentOut net s token recipient amount name symbol).sent := by
  unfold sentOut
  split
  · exact List.suffix_cons _ _
  · exact (List.suffix_cons _ _).trans (List.suffix_cons _ _)

/-- The log only grows. -/
theorem Step.sent_suffix (step : Step net allowed s after) : s.sent <:+ after.sent := by
  cases step with
  | forceEth value => exact List.suffix_refl _
  | request external held done => exact List.suffix_refl _
  | ethOut recipient value => exact List.suffix_cons _ _
  | lock name symbol permitted external plain held done =>
      exact sent_suffix_sentOut { s.setContract _ _ with locked := tally s.locked _ _ } _ _ _ _ _
  | lockForeign recipient amount name symbol permitted code =>
      exact sent_suffix_sentOut { s with locked := tally s.locked _ amount } _ _ _ _ _
  | burn recipient flagged held done => exact List.suffix_cons _ _

theorem steps_sent_suffix (steps : Steps net allowed s after) : s.sent <:+ after.sent := by
  induction steps with
  | refl => exact List.suffix_refl _
  | tail _ step ih => exact ih.trans step.sent_suffix

namespace Inbox

variable {source : Nat} {logs : List Sent}

theorem mono (inbox : Inbox net source logs s) {more : List Sent} (grown : logs ⊆ more) :
    Inbox net source more s := by
  refine ⟨inbox.flagged, inbox.once, ?_, inbox.paidOut⟩
  intro packet member
  obtain ⟨message, listed, same⟩ := inbox.emitted packet member
  exact ⟨message, grown listed, same⟩

theorem kept (inbox : Inbox net source logs s) (kept : Kept s after) :
    Inbox net source logs after := by
  refine ⟨?_, ?_, ?_, ?_⟩
  · rw [kept.relayedMessages, kept.executed]
    exact inbox.flagged
  · rw [kept.executed]
    exact inbox.once
  · rw [kept.executed]
    exact inbox.emitted
  · rw [kept.paid, kept.executed]
    exact inbox.paidOut

end Inbox

theorem Inbox.received [DecidableEq H] {source : Nat} {logs : List Sent} {packet : Packet}
    {message : Sent} (inbox : Inbox net source logs s)
    (listed : message ∈ logs) (submitted : packet = packetOf source message)
    (fresh : s.relayedMessages (net.keccak packet) = false)
    (effect : Received net packet s after) : Inbox net source logs after := by
  obtain ⟨executed, relayed, paid, _⟩ := effect.record
  have unseen : packet ∉ s.executed := by
    intro member
    have flag := (inbox.flagged (net.keccak packet)).mpr ⟨packet, member, rfl⟩
    rw [fresh] at flag
    cases flag
  refine ⟨?_, ?_, ?_, ?_⟩
  · intro h
    rw [relayed, executed]
    by_cases same : h = net.keccak packet
    · subst same
      simp
    · rw [Function.update_of_ne same, inbox.flagged h]
      simp [Ne.symm same]
  · rw [executed]
    exact List.nodup_cons.mpr ⟨unseen, inbox.once⟩
  · rw [executed]
    intro other member
    rcases List.mem_cons.mp member with rfl | earlier
    · exact ⟨message, listed, submitted⟩
    · exact inbox.emitted other earlier
  · rw [paid, executed, List.map_cons, List.sum_cons, inbox.paidOut, Nat.add_comm]

/-- A successful relay of a message in the log keeps the outbox and the inbox. -/
theorem Relayed.keeps [DecidableEq H] {remote : Address} {source : Nat} {logs : List Sent}
    {message : Sent} {received last : State H} (outbox : Outbox net remote s)
    (inbox : Inbox net source logs s) (listed : message ∈ logs)
    (relay : Relayed net allowed (packetOf source message) s received last after) :
    Outbox net remote after ∧ Inbox net source logs after ∧ s.sent <:+ after.sent := by
  have sending := (outbox.received relay.effect).steps relay.steps
  have receiving := (inbox.received listed rfl relay.fresh relay.effect).kept
    (steps_kept relay.steps)
  have grown := steps_sent_suffix relay.steps
  rw [relay.effect.record.2.2.2] at grown
  rw [relay.cleared]
  exact ⟨sending.same rfl,
    ⟨receiving.flagged, receiving.once, receiving.emitted, receiving.paidOut⟩, grown⟩

theorem Relayed.funded [DecidableEq H] {packet : Packet} {initial : Nat} {received last : State H}
    (funded : Funded initial s) (relay : Relayed net allowed packet s received last after) :
    Funded initial after := by
  have paid := (funded.received relay.effect).steps relay.steps
  rw [relay.cleared]
  exact paid

end Keeps

section Actions

variable {pair : Pair H} {w after : Side → State H}

/-- What holds on each side, given the log of the other, holds after one side
changes if it holds there and its log has only grown. -/
theorem forall_update_side {P : Side → List Sent → State H → Prop} {side : Side} {s : State H}
    (both : ∀ any, P any (w any.other).sent (w any)) (changed : P side (w side.other).sent s)
    (mono : ∀ more, (w side).sent <:+ more → P side.other (w side).sent (w side.other) →
      P side.other more (w side.other))
    (grown : (w side).sent <:+ s.sent) (any : Side) :
    P any (update w side s any.other).sent (update w side s any) := by
  by_cases same : any = side
  · subst same
    rw [Function.update_self, Function.update_of_ne any.other_ne]
    exact changed
  · have back : any = side.other := by
      cases any <;> cases side <;> first | rfl | exact absurd rfl same
    subst back
    have old := both side.other
    rw [Side.other_other] at old
    rw [Function.update_of_ne same, Side.other_other, Function.update_self]
    exact mono s.sent grown old

/-- A change on one side that keeps its outbox and inbox keeps both directions. -/
theorem Sound.update_side (sound : Sound pair w) {side : Side} {s : State H}
    (outbox : Outbox (pair.net side) (pair.net side.other).this s)
    (inbox : Inbox (pair.net side) (pair.net side.other).chainId (w side.other).sent s)
    (grown : (w side).sent <:+ s.sent) : Sound pair (update w side s) where
  outbox := forall_update_side
    (P := fun any _ s => Outbox (pair.net any) (pair.net any.other).this s)
    sound.outbox outbox (fun _ _ => id) grown
  inbox := forall_update_side
    (P := fun any logs s => Inbox (pair.net any) (pair.net any.other).chainId logs s)
    sound.inbox inbox (fun _ more old => old.mono more.subset) grown

theorem start_sound (pair : Pair H) (eth : Side → Nat) (contracts : Side → Address → Contract) :
    Sound pair (start pair eth contracts) where
  outbox side := by
    refine ⟨by simp [start], List.forall_mem_nil _, fun _ => ⟨rfl, rfl⟩, rfl, ?_⟩
    intro remoteToken known
    exact absurd rfl known
  inbox side :=
    ⟨fun h => by simp [start, deploy], List.nodup_nil, List.forall_mem_nil _, rfl⟩

variable [DecidableEq H]

/-- The relayer submits a message that the other bridge addressed to this one. -/
theorem submit_ok {net : Network H} {source : Nat} {message : Sent} {code : List (Call net)}
    {answer : Answer} {s after : State H} {allowed : Address → Prop}
    (calls : ∀ made ∈ code, Sends allowed made) (tokens : LocalTokens s)
    (target : message.targetAddress = net.this)
    (asked : message.msgData.Remote message.msgValue)
    (success : (transact s (.relayer 0 (.relayMessage message.targetAddress source
      message.sourceAddress message.msgValue message.msgNonce message.msgData) code
      answer)).outcome = .ok after) :
    ∃ received last, Relayed net allowed (packetOf source message) s received last after := by
  simp only [transact, deliver_eq, dispatch, Traced.outcome_bind, Traced.outcome_lift,
    bind_ok_iff] at success
  obtain ⟨_, _, relayed⟩ := success
  rw [receiveEth, if_neg net.relayer_external] at relayed
  exact relayMessage_ok calls tokens target asked relayed

/-- An honest relay is a relay of what the other bridge asks. -/
theorem relay_ok {side : Side} {message : Sent} {code : List (Call (pair.net side))}
    {answer : Answer} {s : State H} {allowed : Address → Prop} (sound : Sound pair w)
    (calls : ∀ made ∈ code, Sends allowed made) (listed : message ∈ (w side.other).sent)
    (success : (transact (w side) (.relayer 0 (.relayMessage message.targetAddress
      (pair.net side.other).chainId message.sourceAddress message.msgValue message.msgNonce
      message.msgData) code answer)).outcome = .ok s) :
    ∃ received last, Relayed (pair.net side) allowed
      (packetOf (pair.net side.other).chainId message) (w side) received last s := by
  obtain ⟨_, target, _, asked⟩ := (sound.outbox side.other).addressed message listed
  rw [Side.other_other] at target
  exact submit_ok calls (sound.outbox side).tokens target asked success

theorem act_sound {action : Action pair} (sound : Sound pair w)
    (success : act pair w action = .ok after) : Sound pair after := by
  cases action with
  | user side made =>
      simp only [act, bind_ok_iff, pure_ok_iff] at success
      obtain ⟨s, called, rfl⟩ := success
      have steps := call_steps callDepth (sends_any made) called
      exact sound.update_side ((sound.outbox side).steps steps)
        ((sound.inbox side).kept (steps_kept steps)) (steps_sent_suffix steps)
  | relay side message code answer =>
      simp only [act] at success
      split at success
      · rename_i honest
        simp only [bind_ok_iff, pure_ok_iff] at success
        obtain ⟨s, relayed, rfl⟩ := success
        obtain ⟨received, last, relay⟩ := relay_ok sound
          (fun made _ => sends_any made) honest.1 relayed
        obtain ⟨outbox, inbox, grown⟩ :=
          relay.keeps (sound.outbox side) (sound.inbox side) honest.1
        exact sound.update_side outbox inbox grown
      · cases success

theorem act_funded {eth : Side → Nat} {action : Action pair} (sound : Sound pair w)
    (funded : ∀ side, Funded (eth side) (w side)) (success : act pair w action = .ok after) :
    ∀ side, Funded (eth side) (after side) := by
  have updated : ∀ {side s}, Funded (eth side) s →
      ∀ any, Funded (eth any) (update w side s any) := fun changed =>
    (Function.forall_update_iff w fun any s => Funded (eth any) s).mpr
      ⟨changed, fun any _ => funded any⟩
  cases action with
  | user side made =>
      simp only [act, bind_ok_iff, pure_ok_iff] at success
      obtain ⟨s, called, rfl⟩ := success
      exact updated ((funded side).steps (call_steps callDepth (sends_any made) called))
  | relay side message code answer =>
      simp only [act] at success
      split at success
      · rename_i honest
        simp only [bind_ok_iff, pure_ok_iff] at success
        obtain ⟨s, relayed, rfl⟩ := success
        obtain ⟨received, last, relay⟩ := relay_ok sound
          (fun made _ => sends_any made) honest.1 relayed
        exact updated (relay.funded (funded side))
      · cases success

/-- Both bridges account for their ETH after every run. -/
theorem run_funded (pair : Pair H) (eth : Side → Nat) (contracts : Side → Address → Contract)
    (actions : List (Action pair)) (side : Side) :
    Funded (eth side) (run (act pair) (start pair eth contracts) actions side) := by
  have reached : Sound pair (run (act pair) (start pair eth contracts) actions) ∧
      ∀ any, Funded (eth any) (run (act pair) (start pair eth contracts) actions any) :=
    run_invariant
    (fun w => Sound pair w ∧ ∀ side, Funded (eth side) (w side))
    (fun _ _ _ holds success => ⟨act_sound holds.1 success, act_funded holds.1 holds.2 success⟩)
    actions _ ⟨start_sound pair eth contracts, fun _ => rfl⟩
  exact reached.2 side

theorem run_sound (pair : Pair H) (eth : Side → Nat) (contracts : Side → Address → Contract)
    (actions : List (Action pair)) :
    Sound pair (run (act pair) (start pair eth contracts) actions) :=
  run_invariant (Sound pair) (fun _ _ _ => act_sound) actions _ (start_sound pair eth contracts)

end Actions

/-- The executed packets are logs of the other bridge. -/
theorem Inbox.included {net : Network H} {source : Nat} {logs : List Sent} {s : State H}
    (inbox : Inbox net source logs s) : s.executed ⊆ logs.map (packetOf source) := by
  intro packet member
  obtain ⟨message, listed, rfl⟩ := inbox.emitted packet member
  exact List.mem_map_of_mem listed

/-- Distinct executed packets come from distinct logs, so they pay no more. -/
theorem Inbox.paid_le {net : Network H} {source : Nat} {logs : List Sent} {s : State H}
    (inbox : Inbox net source logs s) : s.paid ≤ (logs.map Sent.ethValue).sum := by
  have covered := Ledger.sum_pending_add_done_le (packetOf source) Packet.ethValue inbox.once
    inbox.included
  rw [← inbox.paidOut] at covered
  exact Nat.le_trans (Nat.le_add_left _ _) covered

/-- The packets of a numbered log have different hashes. -/
theorem Outbox.hashes_nodup {net : Network H} {remote : Address} {s : State H}
    (out : Outbox net remote s) (few : s.sent.length < 2 ^ 256) (source : Nat)
    {keccak : Packet → H} (collisionFree : Function.Injective keccak) :
    (s.sent.map fun message => keccak (packetOf source message)).Nodup := by
  have nonces : (s.sent.map Sent.msgNonce).Nodup := by
    rw [(out.numbered few).2]
    exact List.nodup_reverse.mpr List.nodup_range
  rw [List.Nodup, List.pairwise_map] at nonces ⊢
  refine nonces.imp ?_
  intro first second distinct same
  exact distinct (congrArg Packet.nonce (collisionFree same))

section Failure

variable [DecidableEq H] {pair : Pair H} {w : Side → State H}

/-- The call that a relay makes to the target of its packet. -/
def targetCall (pair : Pair H) (w : Side → State H) (side : Side) (message : Sent)
    (code : List (Call (pair.net side))) (answer : Answer) :
    Traced (Visit H) (State H × Bool) :=
  let packet := packetOf (pair.net side.other).chainId message
  callOutAt callDepth code answer (pair.net side).relayer
    [⟨(pair.net side).relayer, packet.targetAddress, packet.sourceChainId, packet.sourceAddress⟩]
    (marked (pair.net side) (w side) packet) packet.targetAddress packet.value packet.message

/-- A relay whose target call fails leaves both chains as they were. -/
theorem relay_failed {side : Side} {message : Sent} {code : List (Call (pair.net side))}
    {answer : Answer} {reason : Revert}
    (failed : (targetCall pair w side message code answer).outcome = .error reason) :
    commit (act pair) w (.relay side message code answer) = w := by
  cases result : act pair w (.relay side message code answer) with
  | error reason => exact commit_error result
  | ok after =>
      simp only [act] at result
      split at result
      · simp only [transact, deliver_eq, dispatch, relayMessage, Traced.outcome_bind,
          Traced.outcome_lift, Traced.outcome_failAs_ok, bind_ok_iff, Prod.exists] at result
        rw [receiveEth, if_neg (pair.net side).relayer_external] at result
        obtain ⟨_, ⟨_, _, _, _, _, _, _, _, _, _, called, _⟩, _⟩ := result
        have returned := failed.symm.trans called
        cases returned
      · cases result

end Failure

/-- With an honest relayer, over every interleaving: what one bridge executes is
in the log of the other, and it executes it once; no two logs collide; a relay
whose target call fails changes nothing; `ethIn` on one side pays no more than
`ethOut` on the other has taken; and each bridge has the ETH it began with, what
`ethOut` took and what was forced into it, less what `ethIn` paid. -/
theorem executed_once_and_covered [DecidableEq H] (pair : Pair H)
    (collisionFree : ∀ side, Function.Injective (pair.net side).keccak) (eth : Side → Nat)
    (contracts : Side → Address → Contract) (actions : List (Action pair))
    (few : ∀ side, (run (act pair) (start pair eth contracts) actions side).sent.length < 2 ^ 256)
    (side : Side) :
    let w := run (act pair) (start pair eth contracts) actions
    let source := (pair.net side.other).chainId
    (∀ packet ∈ (w side).executed, ∃ message ∈ (w side.other).sent,
      message.targetChainId = (pair.net side).chainId ∧ packet = packetOf source message) ∧
    (w side).executed.Nodup ∧
    ((w side.other).sent.map fun message =>
      (pair.net side).keccak (packetOf source message)).Nodup ∧
    (∀ (message : Sent) (code : List (Call (pair.net side))) (answer : Answer) (reason : Revert),
      (targetCall pair w side message code answer).outcome = .error reason →
        commit (act pair) w (.relay side message code answer) = w) ∧
    (w side).paid ≤ (w side.other).taken ∧
    (w side).eth + (w side).paid = eth side + (w side).taken + (w side).forced := by
  intro w source
  have sound : Sound pair w := run_sound pair eth contracts actions
  refine ⟨?_, (sound.inbox side).once, ?_, fun _ _ _ _ => relay_failed, ?_,
    run_funded pair eth contracts actions side⟩
  · intro packet member
    obtain ⟨message, listed, same⟩ := (sound.inbox side).emitted packet member
    have target := ((sound.outbox side.other).addressed message listed).1
    rw [← pair.chainId_other side.other, Side.other_other] at target
    exact ⟨message, listed, target, same⟩
  · exact (sound.outbox side.other).hashes_nodup (few side.other) source (collisionFree side)
  · rw [(sound.outbox side.other).collected]
    exact (sound.inbox side).paid_le

/-- Bridges at addresses 100 and 200, with packets as their own hashes. -/
def samplePair : Pair Packet where
  net
    | .left => ⟨100, 78704, 1, id, fun _ => 1000, by decide, fun _ => by decide⟩
    | .right => ⟨200, 78705, 1, id, fun _ => 1000, by decide, fun _ => by decide⟩
  chainId_other side := by cases side <;> decide

def sampleStart : Side → State Packet := start samplePair (fun _ => 10) fun _ _ => .vacant

/-- Account 3 on the left. -/
def sampleSender : Sender (samplePair.net .left) := ⟨3, 3, by decide, by decide, by decide⟩

/-- Account 3 sends 5 wei to account 4 on the right, and the relayer submits the
log twice. -/
def sampleActions : List (Action samplePair) :=
  let message : Sent := ⟨78705, 200, 100, 5, 0, .ethIn 4⟩
  [.user .left (.message sampleSender 5 (.ethOut 4) [] .silent),
   .relay .right message [] .silent,
   .relay .right message [] .silent]

theorem executed_once_and_covered_sample :
    (run (act samplePair) sampleStart sampleActions .right).paid = 5 ∧
      (run (act samplePair) sampleStart sampleActions .right).paid ≤
        (run (act samplePair) sampleStart sampleActions .left).taken ∧
      (run (act samplePair) sampleStart sampleActions .right).eth +
          (run (act samplePair) sampleStart sampleActions .right).paid =
        10 + (run (act samplePair) sampleStart sampleActions .right).taken +
          (run (act samplePair) sampleStart sampleActions .right).forced := by
  have collisionFree : ∀ side, Function.Injective (samplePair.net side).keccak := by
    intro side
    cases side <;> exact Function.injective_id
  have few : ∀ side,
      (run (act samplePair) sampleStart sampleActions side).sent.length < 2 ^ 256 := by
    intro side
    cases side <;> decide +kernel
  refine ⟨by decide +kernel, ?_⟩
  exact (executed_once_and_covered samplePair collisionFree _ _ sampleActions few .right).2.2.2.2

end Bridge
