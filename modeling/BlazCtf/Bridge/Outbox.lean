import BlazCtf.Bridge.Relaying
import Mathlib.Algebra.BigOperators.Group.List.Basic

set_option autoImplicit false

namespace Bridge

open Evm
open Function (update)
open OpenZeppelin (ERC20)
open OpenZeppelin.ERC20.V4 (Request perform doMint doBurn)

variable {H : Type} {net : Network H} {remote : Address} {allowed : Address → Prop}

/-- The ETH that a message pays out: only `ethIn` pays. -/
def Calldata.ethValue (value : Nat) : Calldata → Nat
  | .ethIn _ => value
  | _ => 0

def Sent.ethValue (message : Sent) : Nat := message.msgData.ethValue message.msgValue

def Packet.ethValue (packet : Packet) : Nat := packet.message.ethValue packet.value

/-- What a bridge has sent: numbered messages to its remote bridge, which account
for the ETH it has taken. -/
structure Outbox (net : Network H) (remote : Address) (s : State H) : Prop where
  registered : s.remoteBridge (net.chainId ^^^ 1) = remote
  addressed : ∀ message ∈ s.sent, message.targetChainId = net.chainId ^^^ 1 ∧
    message.targetAddress = remote ∧ message.sourceAddress = net.this ∧
    message.msgData.Remote message.msgValue
  numbered : s.sent.length < 2 ^ 256 → s.msgNonce = s.sent.length ∧
    s.sent.map Sent.msgNonce = (List.range s.sent.length).reverse
  collected : s.taken = (s.sent.map Sent.ethValue).sum
  tokens : LocalTokens s

section Tokens

variable {s after : State H}

/-- Replacing a contract keeps the local tokens if their tokens stay what they are. -/
theorem LocalTokens.setContract (tokens : LocalTokens s) {token : Address} {contract : Contract}
    (same : ∀ name symbol ledger remoteToken,
      s.contracts token = .bridged name symbol ledger remoteToken →
      ∃ name symbol ledger, contract = .bridged name symbol ledger remoteToken) :
    LocalTokens (s.setContract token contract) := by
  intro remoteToken known
  obtain ⟨name, symbol, ledger, held⟩ := tokens remoteToken known
  by_cases here : s.remoteTokenToLocalToken remoteToken = token
  · rw [here] at held
    obtain ⟨name, symbol, ledger, kept⟩ := same name symbol ledger remoteToken held
    refine ⟨name, symbol, ledger, ?_⟩
    simpa [State.setContract, here] using kept
  · refine ⟨name, symbol, ledger, ?_⟩
    simpa [State.setContract, Function.update_of_ne here] using held

/-- A new token at a vacant address. -/
theorem LocalTokens.created (tokens : LocalTokens s) {token remoteToken : Address}
    {name symbol : String} {ledger : ERC20} (empty : s.contracts token = .vacant)
    (contracts : after.contracts =
      update s.contracts token (.bridged name symbol ledger remoteToken))
    (listed : after.remoteTokenToLocalToken =
      update s.remoteTokenToLocalToken remoteToken token) : LocalTokens after := by
  intro other known
  rw [listed] at known
  rw [listed, contracts]
  by_cases same : other = remoteToken
  · subst same
    exact ⟨name, symbol, ledger, by simp⟩
  · rw [Function.update_of_ne same] at known ⊢
    obtain ⟨name, symbol, ledger, held⟩ := tokens other known
    have distinct : s.remoteTokenToLocalToken other ≠ token := by
      intro here
      rw [here, empty] at held
      cases held
    exact ⟨name, symbol, ledger, by rw [Function.update_of_ne distinct, held]⟩

theorem LocalTokens.withLedger (tokens : LocalTokens s) (token : Address) (ledger : ERC20) :
    LocalTokens (s.setContract token ((s.contracts token).withLedger ledger)) := by
  refine tokens.setContract ?_
  intro name symbol old remoteToken held
  exact ⟨name, symbol, ledger, by rw [held]; rfl⟩

end Tokens

namespace Outbox

variable {s : State H}

/-- What an outbox depends on. -/
def view (s : State H) :
    (Nat → Address) × List Sent × Nat × Nat × (Address → Address) × (Address → Contract) :=
  (s.remoteBridge, s.sent, s.msgNonce, s.taken, s.remoteTokenToLocalToken, s.contracts)

theorem same {after : State H} (out : Outbox net remote s) (equal : view after = view s) :
    Outbox net remote after := by
  simp only [view, Prod.mk.injEq] at equal
  obtain ⟨bridges, sent, nonce, taken, mapped, contracts⟩ := equal
  refine ⟨?_, ?_, ?_, ?_, ?_⟩
  · rw [bridges]
    exact out.registered
  · rw [sent]
    exact out.addressed
  · rw [sent, nonce]
    exact out.numbered
  · rw [sent, taken]
    exact out.collected
  · intro remoteToken
    rw [mapped, contracts]
    exact out.tokens remoteToken

/-- One more message. -/
theorem announced (out : Outbox net remote s) {value : Nat} {message : Calldata}
    (asked : message.Remote value) {taken : Nat}
    (collected : taken = s.taken + message.ethValue value)
    (eth : Nat) : Outbox net remote (announced net { s with eth, taken } value message) where
  registered := out.registered
  addressed := by
    intro other member
    rcases List.mem_cons.mp member with rfl | earlier
    · exact ⟨rfl, out.registered, rfl, asked⟩
    · exact out.addressed other earlier
  numbered := by
    intro few
    have shorter : s.sent.length + 1 < 2 ^ 256 := few
    obtain ⟨next, earlier⟩ := out.numbered (by omega)
    have stepped : (s.msgNonce + 1) % 2 ^ 256 = s.sent.length + 1 := by
      rw [next]
      exact Nat.mod_eq_of_lt shorter
    refine ⟨stepped, ?_⟩
    change s.msgNonce :: s.sent.map Sent.msgNonce = (List.range (s.sent.length + 1)).reverse
    rw [next, earlier, List.range_succ, List.reverse_append]
    rfl
  collected := by
    change taken = message.ethValue value + (s.sent.map Sent.ethValue).sum
    rw [collected, out.collected, Nat.add_comm]
  tokens := out.tokens

theorem announced_free (out : Outbox net remote s) {message : Calldata} (asked : message.Remote 0) :
    Outbox net remote (Bridge.announced net s 0 message) := by
  have free : message.ethValue 0 = 0 := by cases message <;> rfl
  exact out.announced asked (by rw [free, Nat.add_zero]) s.eth

theorem sentOut (out : Outbox net remote s) (token recipient : Address) (amount : Nat)
    (name symbol : String) :
    Outbox net remote (sentOut net s token recipient amount name symbol) := by
  unfold Bridge.sentOut
  refine announced_free ?_ (.erc20In token recipient amount)
  split
  · exact out
  · have first := out.announced_free (.erc20Register token name symbol)
    exact ⟨first.registered, first.addressed, first.numbered, first.collected, first.tokens⟩

theorem setContract (out : Outbox net remote s) {token : Address} {contract : Contract}
    (tokens : LocalTokens (s.setContract token contract)) :
    Outbox net remote (s.setContract token contract) :=
  ⟨out.registered, out.addressed, out.numbered, out.collected, tokens⟩

theorem step {after : State H} (out : Outbox net remote s) (step : Step net allowed s after) :
    Outbox net remote after := by
  cases step with
  | forceEth value => exact out.same rfl
  | request external held done => exact out.setContract (out.tokens.withLedger _ _)
  | ethOut recipient value => exact out.announced (.ethIn recipient value) rfl _
  | lock name symbol permitted external plain held done =>
      refine sentOut ?_ _ _ _ _ _
      exact (out.setContract (out.tokens.withLedger _ _)).same rfl
  | lockForeign recipient amount name symbol permitted code =>
      refine sentOut ?_ _ _ _ _ _
      exact out.same rfl
  | burn recipient flagged held done =>
      refine announced_free ?_ (.erc20In _ _ _)
      refine (out.setContract (out.tokens.setContract ?_)).same rfl
      intro name symbol ledger remoteToken bridged
      rw [held] at bridged
      cases bridged
      exact ⟨_, _, _, rfl⟩

theorem steps {after : State H} (out : Outbox net remote s) (steps : Steps net allowed s after) :
    Outbox net remote after := by
  induction steps with
  | refl => exact out
  | tail _ step ih => exact ih.step step

theorem received [DecidableEq H] {packet : Packet} {after : State H} (out : Outbox net remote s)
    (effect : Received net packet s after) : Outbox net remote after := by
  have mark : Outbox net remote (marked net s packet) := out.same rfl
  cases effect with
  | ethIn named funded => exact out.same rfl
  | registered named known => exact mark
  | created named unknown other empty =>
      exact ⟨out.registered, out.addressed, out.numbered, out.collected,
        out.tokens.created empty rfl rfl⟩
  | minted named known held done =>
      refine (mark.setContract (mark.tokens.setContract ?_)).same rfl
      intro name symbol ledger remoteToken bridged
      have same := held.symm.trans bridged
      cases same
      exact ⟨_, _, _, rfl⟩
  | released named unknown other held done =>
      exact (mark.setContract (mark.tokens.withLedger _ _)).same rfl
  | releasedForeign named unknown runs => exact out.same rfl

end Outbox

/-- The record of a relay, whatever the message asked for. -/
theorem Received.record [DecidableEq H] {packet : Packet} {s after : State H}
    (effect : Received net packet s after) :
    after.executed = packet :: s.executed ∧
      after.relayedMessages = update s.relayedMessages (net.keccak packet) true ∧
      after.paid = s.paid + packet.ethValue ∧ after.sent = s.sent := by
  cases effect with
  | ethIn named funded =>
      refine ⟨rfl, rfl, ?_, rfl⟩
      simp [Packet.ethValue, named, Calldata.ethValue]
  | registered named known =>
      exact ⟨rfl, rfl, by simp [Packet.ethValue, named, Calldata.ethValue, marked], rfl⟩
  | created named unknown other empty =>
      exact ⟨rfl, rfl, by simp [Packet.ethValue, named, Calldata.ethValue, marked], rfl⟩
  | minted named known held done =>
      exact ⟨rfl, rfl,
        by simp [Packet.ethValue, named, Calldata.ethValue, marked, State.setContract], rfl⟩
  | released named unknown other held done =>
      exact ⟨rfl, rfl,
        by simp [Packet.ethValue, named, Calldata.ethValue, marked, State.setContract], rfl⟩
  | releasedForeign named unknown runs =>
      exact ⟨rfl, rfl, by simp [Packet.ethValue, named, Calldata.ethValue, marked], rfl⟩

/-- The bridge has the ETH it began with, and what `ethOut` took or anyone forced
into it, less what `ethIn` paid. -/
def Funded (initial : Nat) (s : State H) : Prop :=
  s.eth + s.paid = initial + s.taken + s.forced

namespace Funded

variable {initial : Nat} {s after : State H}

theorem sentOut (funded : Funded initial s) (token recipient : Address) (amount : Nat)
    (name symbol : String) : Funded initial (sentOut net s token recipient amount name symbol) := by
  unfold Bridge.sentOut
  split <;> exact funded

theorem step (funded : Funded initial s) (step : Step net allowed s after) :
    Funded initial after := by
  unfold Funded at funded
  cases step with
  | forceEth value =>
      change s.eth + value + s.paid = initial + s.taken + (s.forced + value)
      omega
  | request external held done => exact funded
  | ethOut recipient value =>
      change s.eth + value + s.paid = initial + (s.taken + value) + s.forced
      omega
  | lock name symbol permitted external plain held done =>
      refine sentOut ?_ _ _ _ _ _
      exact funded
  | lockForeign recipient amount name symbol permitted code =>
      refine sentOut ?_ _ _ _ _ _
      exact funded
  | burn recipient flagged held done => exact funded

theorem steps (funded : Funded initial s) (steps : Steps net allowed s after) :
    Funded initial after := by
  induction steps with
  | refl => exact funded
  | tail _ step ih => exact ih.step step

/-- Only `ethIn` sends ETH, the value of its message. -/
theorem received [DecidableEq H] {packet : Packet} (funded : Funded initial s)
    (effect : Received net packet s after) : Funded initial after := by
  unfold Funded at funded
  cases effect with
  | ethIn named enough =>
      change s.eth - packet.value + (s.paid + packet.value) = initial + s.taken + s.forced
      omega
  | _ => exact funded

end Funded

end Bridge
