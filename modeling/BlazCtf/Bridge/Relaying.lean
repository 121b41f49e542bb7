import BlazCtf.Bridge.Steps

set_option autoImplicit false

namespace Bridge

open Evm
open Function (update)
open OpenZeppelin (ERC20)
open OpenZeppelin.ERC20.V4 (Request perform doMint doBurn)

variable {H : Type} {net : Network H} {allowed : Address → Prop}

/-- What one bridge asks of the other, with which value. -/
inductive Calldata.Remote : Calldata → Nat → Prop
  | ethIn (recipient : Address) (value : Nat) : Remote (.ethIn recipient) value
  | erc20Register (token : Address) (name symbol : String) :
      Remote (.erc20Register token name symbol) 0
  | erc20In (token recipient : Address) (amount : Nat) :
      Remote (.erc20In token recipient amount) 0

theorem Calldata.Remote.erc20In_free {token recipient : Address} {amount value : Nat}
    (asked : Remote (.erc20In token recipient amount) value) : value = 0 := by
  cases asked
  rfl

/-- Every local token is a `BridgedERC20` of the token it stands for. -/
def LocalTokens (s : State H) : Prop :=
  ∀ remoteToken, s.remoteTokenToLocalToken remoteToken ≠ 0 → ∃ name symbol ledger,
    s.contracts (s.remoteTokenToLocalToken remoteToken) = .bridged name symbol ledger remoteToken

variable [DecidableEq H]

/-- The storage with which `relayMessage` calls its target. -/
def marked (net : Network H) (s : State H) (packet : Packet) : State H :=
  { s with
    relayedMessages := update s.relayedMessages (net.keccak packet) true
    executed := packet :: s.executed
    relayedMessageSenderChainId := packet.sourceChainId
    relayedMessageSenderAddress := packet.sourceAddress }

/-- What the remote bridge's message does, before foreign code gets control. -/
inductive Received (net : Network H) (packet : Packet) (s : State H) : State H → Prop
  | ethIn {recipient : Address} (named : packet.message = .ethIn recipient)
      (funded : packet.value ≤ s.eth) :
      Received net packet s { marked net s packet with
        eth := s.eth - packet.value
        paid := s.paid + packet.value }
  | registered {remoteToken : Address} {name symbol : String}
      (named : packet.message = .erc20Register remoteToken name symbol)
      (known : s.remoteTokenToLocalToken remoteToken ≠ 0) :
      Received net packet s (marked net s packet)
  | created {remoteToken : Address} {name symbol : String}
      (named : packet.message = .erc20Register remoteToken name symbol)
      (unknown : s.remoteTokenToLocalToken remoteToken = 0)
      (other : net.newToken s.accountNonce ≠ net.this)
      (empty : s.contracts (net.newToken s.accountNonce) = .vacant) :
      Received net packet s { marked net s packet with
        accountNonce := s.accountNonce + 1
        contracts := update s.contracts (net.newToken s.accountNonce)
          (.bridged name symbol ⟨fun _ => 0, fun _ _ => 0, 0⟩ remoteToken)
        remoteTokenToLocalToken :=
          update s.remoteTokenToLocalToken remoteToken (net.newToken s.accountNonce)
        isBridgedERC20 := update s.isBridgedERC20 (net.newToken s.accountNonce) true }
  | minted {token recipient remoteToken : Address} {amount : Nat} {name symbol : String}
      {ledger next : ERC20} (named : packet.message = .erc20In token recipient amount)
      (known : s.remoteTokenToLocalToken token ≠ 0)
      (held : s.contracts (s.remoteTokenToLocalToken token) =
        .bridged name symbol ledger remoteToken)
      (done : doMint ledger recipient amount = .ok next) :
      Received net packet s { (marked net s packet).setContract (s.remoteTokenToLocalToken token)
        (.bridged name symbol next remoteToken) with minted := tally s.minted token amount }
  | released {token recipient : Address} {amount : Nat} {ledger next : ERC20}
      (named : packet.message = .erc20In token recipient amount)
      (unknown : s.remoteTokenToLocalToken token = 0) (other : token ≠ net.this)
      (held : (s.contracts token).ledger = some ledger)
      (done : perform ledger net.this (.transfer recipient amount) = .ok next) :
      Received net packet s
        { (marked net s packet).setContract token ((s.contracts token).withLedger next) with
          released := tally s.released token amount }
  | releasedForeign {token recipient : Address} {amount : Nat}
      (named : packet.message = .erc20In token recipient amount)
      (unknown : s.remoteTokenToLocalToken token = 0) (runs : s.contracts token = .foreign) :
      Received net packet s
        { marked net s packet with released := tally s.released token amount }

/-- A successful relay: the packet was new, its message took effect, and then
foreign code may have acted before the sender fields were cleared. -/
structure Relayed (net : Network H) (allowed : Address → Prop) (packet : Packet)
    (s received last after : State H) : Prop where
  remote : packet.sourceChainId ≠ net.chainId
  fresh : s.relayedMessages (net.keccak packet) = false
  effect : Received net packet s received
  steps : Steps net allowed received last
  cleared : after = { last with relayedMessageSenderChainId := 0, relayedMessageSenderAddress := 0 }

section Bodies

variable {depth : Nat} {code : List (Call net)} {answer : Answer} {origin : Address}
variable {within : List Relay} {s after : State H} {packet : Packet}

theorem ethIn_received {recipient : Address} (calls : ∀ made ∈ code, Sends allowed made)
    (originExternal : origin ≠ net.this)
    (named : packet.message = .ethIn recipient)
    (success : (ethIn net (callOutAt depth code answer origin) within (marked net s packet) net.this
      packet.value recipient).outcome = .ok after) :
    ∃ received, Received net packet s received ∧ Steps net allowed received after := by
  simp only [ethIn, Traced.outcome_bind, Traced.outcome_lift, Traced.outcome_visit,
    Traced.outcome_pure, Traced.outcome_failAs_ok, bind_ok_iff, require_ok_iff, Prod.exists,
    Except.ok.injEq] at success
  obtain ⟨_, _, _, _, _, funded, _, _, called, rfl⟩ := success
  refine ⟨_, .ethIn named funded, ?_⟩
  obtain ⟨left, _, _, reached⟩ := callOutAt_ok called
  cases reached with
  | self own delivered =>
      simp only [deliver_eq, dispatch, Traced.outcome_bind, Traced.outcome_lift, bind_ok_iff,
        require_ok_iff] at delivered
      obtain ⟨_, same, _⟩ := delivered
      exact absurd same.symm originExternal
  | vacant other empty => exact .refl
  | foreign other runs answered =>
      exact run_steps (fun made member => call_steps left (calls made member)) _
  | token other held free done =>
      unfold tokenCall at done
      split at done <;> contradiction

theorem erc20Register_received {remoteToken : Address} {name symbol : String}
    (named : packet.message = .erc20Register remoteToken name symbol)
    (success : (erc20Register net within (marked net s packet) net.this remoteToken name
      symbol).outcome = .ok after) :
    ∃ received, Received net packet s received ∧ Steps net allowed received after := by
  simp only [erc20Register, Traced.outcome_bind, Traced.outcome_lift, Traced.outcome_visit,
    bind_ok_iff] at success
  obtain ⟨_, _, _, _, body⟩ := success
  split at body
  · rename_i unknown
    simp only [Traced.outcome_bind, Traced.outcome_lift, Traced.outcome_pure, bind_ok_iff,
      Prod.exists, Except.ok.injEq] at body
    obtain ⟨_, _, created, rfl⟩ := body
    unfold newBridgedERC20 at created
    dsimp only at created
    split at created
    · cases created
    · rename_i other
      split at created
      · rename_i empty
        simp only [Except.ok.injEq, Prod.mk.injEq] at created
        obtain ⟨rfl, rfl⟩ := created
        exact ⟨_, .created named unknown other empty, .refl⟩
      · cases created
  · rename_i known
    rw [Traced.outcome_pure, Except.ok.injEq] at body
    subst body
    exact ⟨_, .registered named known, .refl⟩

theorem erc20In_received {token recipient : Address} {amount : Nat}
    (calls : ∀ made ∈ code, Sends allowed made) (tokens : LocalTokens s)
    (named : packet.message = .erc20In token recipient amount)
    (success : (erc20In net (callOutAt depth code answer origin) within (marked net s packet)
      net.this token recipient amount).outcome = .ok after) :
    ∃ received, Received net packet s received ∧ Steps net allowed received after := by
  simp only [erc20In, Traced.outcome_bind, Traced.outcome_lift, Traced.outcome_visit,
    bind_ok_iff] at success
  obtain ⟨_, _, _, _, body⟩ := success
  split at body
  · rename_i known
    simp only [Traced.outcome_bind, Traced.outcome_lift, Traced.outcome_pure, bind_ok_iff,
      Prod.exists, Except.ok.injEq] at body
    obtain ⟨_, hasCode, _, _, called, rfl⟩ := body
    obtain ⟨_, ⟨runs, _⟩ | ⟨_, minted⟩⟩ :=
      callToken_ok (nested_of_sends calls) (.inr (.inr ⟨_, _, rfl⟩)) called hasCode
    · obtain ⟨_, _, _, bridged⟩ := tokens token known
      exact absurd (bridged.symm.trans runs) (by simp)
    · obtain ⟨_, _, _, _, _, _, held, done, rfl⟩ := tokenCall_mint minted
      exact ⟨_, .minted named known held done, .refl⟩
  · rename_i unknown
    simp only [Traced.outcome_bind, Traced.outcome_lift, Traced.outcome_pure, bind_ok_iff,
      require_ok_iff, Prod.exists, Except.ok.injEq] at body
    obtain ⟨_, hasCode, _, _, called, _, _, rfl⟩ := body
    obtain ⟨other, ⟨runs, steps⟩ | ⟨_, moved⟩⟩ :=
      callToken_ok (nested_of_sends calls) (.inl ⟨_, rfl⟩) called hasCode
    · exact ⟨_, .releasedForeign named (not_not.mp unknown) runs, steps⟩
    · obtain ⟨ledger, next, held, done, rfl⟩ := tokenCall_request moved
      exact ⟨_, .released named (not_not.mp unknown) other held done, .refl⟩

/-- A relay of what the remote bridge asks. -/
theorem relayMessage_ok (calls : ∀ made ∈ code, Sends allowed made) (tokens : LocalTokens s)
    (target : packet.targetAddress = net.this)
    (asked : packet.message.Remote packet.value)
    (success : (relayMessage net (callOutAt depth code answer net.relayer) within s net.relayer
      packet).outcome = .ok after) :
    ∃ received last, Relayed net allowed packet s received last after := by
  simp only [relayMessage, Traced.outcome_bind, Traced.outcome_lift, Traced.outcome_pure,
    Traced.outcome_failAs_ok, bind_ok_iff, require_ok_iff, Prod.exists, Except.ok.injEq] at success
  obtain ⟨_, _, _, remote, _, fresh, last, _, called, cleared⟩ := success
  obtain ⟨left, _, _, reached⟩ := callOutAt_ok called
  have effect : ∃ received, Received net packet s received ∧ Steps net allowed received last := by
    cases reached with
    | self own delivered =>
        rw [deliver_eq, receiveEth, if_pos rfl] at delivered
        cases named : packet.message with
        | ethIn recipient =>
            rw [named] at delivered
            exact ethIn_received calls net.relayer_external named delivered
        | erc20Register token name symbol =>
            simp only [named, dispatch, Traced.outcome_bind, Traced.outcome_lift,
              bind_ok_iff] at delivered
            obtain ⟨_, _, body⟩ := delivered
            exact erc20Register_received named body
        | erc20In token recipient amount =>
            rw [named] at delivered
            exact erc20In_received calls tokens named delivered
        | _ =>
            rw [named] at asked
            cases asked
    | vacant other => exact absurd target other
    | foreign other => exact absurd target other
    | token other => exact absurd target other
  obtain ⟨received, effect, steps⟩ := effect
  exact ⟨received, last, remote, fresh, effect, steps, cleared.symm⟩

end Bodies

section Release

variable (depth : Nat) (code : List (Call net)) (answer : Answer) (origin : Address)
variable (within : List Relay) {s : State H} {token recipient : Address} {amount : Nat}
variable {name symbol : String} {ledger next : ERC20}

/-- A transfer of the bridge in an ordinary token. -/
theorem callOutAt_transfer (other : token ≠ net.this)
    (held : s.contracts token = .standard name symbol ledger)
    (done : perform ledger net.this (.transfer recipient amount) = .ok next) :
    (callOutAt (depth + 1) code answer origin within s token 0
      (.token (.transfer recipient amount))).outcome =
        .ok (s.setContract token (.standard name symbol next), true) := by
  have called : (tokenCall net within s token net.this
      (.token (.transfer recipient amount))).outcome =
        .ok (s.setContract token (.standard name symbol next)) := by
    simp only [tokenCall, held, Traced.outcome_bind, Traced.outcome_lift, Traced.outcome_pure]
    simp only [Contract.ledger, callee, bind_ok_iff, Except.ok.injEq]
    exact ⟨_, rfl, _, done, rfl⟩
  simp only [callOutAt, callOutWith, Nat.not_lt_zero, ↓reduceIte, other, held, nonPayable,
    Traced.outcome_bind, Traced.outcome_lift, Traced.outcome_pure, bind_ok_iff, Except.ok.injEq,
    exists_const]
  exact ⟨trivial, _, called, rfl⟩

/-- `ERC20In` of an ordinary token without a local stand-in. -/
theorem erc20In_releases (speaks : remoteBridgeSpeaks s)
    (unknown : s.remoteTokenToLocalToken token = 0) (other : token ≠ net.this)
    (held : s.contracts token = .standard name symbol ledger)
    (done : perform ledger net.this (.transfer recipient amount) = .ok next) :
    (erc20In net (callOutAt (depth + 1) code answer origin) within s net.this token recipient
      amount).outcome = .ok { s.setContract token (.standard name symbol next) with
        released := tally s.released token amount } := by
  have paid := callOutAt_transfer depth code answer origin within
    (s := { s with released := tally s.released token amount }) other held done
  simp only [erc20In, onlyRemoteBridge, Traced.outcome_bind, Traced.outcome_lift,
    Traced.outcome_visit, bind_ok_iff, require_ok_iff, unknown, ne_eq, not_true_eq_false,
    ↓reduceIte, Prod.exists, Traced.outcome_pure, Except.ok.injEq]
  refine ⟨(), ⟨trivial, speaks⟩, (), trivial, (), ?_, _, true, paid, (), rfl, rfl⟩
  simp [requireCode, other, held]

/-- A relay of tokens that come home. -/
theorem relay_releases (packet : Packet) (target : packet.targetAddress = net.this)
    (free : packet.value = 0) (named : packet.message = .erc20In token recipient amount)
    (remote : packet.sourceChainId ≠ net.chainId) (real : packet.sourceChainId ≠ 0)
    (wired : s.remoteBridgeChainId packet.sourceAddress = packet.sourceChainId)
    (fresh : s.relayedMessages (net.keccak packet) = false)
    (unknown : s.remoteTokenToLocalToken token = 0) (other : token ≠ net.this)
    (held : s.contracts token = .standard name symbol ledger)
    (done : perform ledger net.this (.transfer recipient amount) = .ok next) :
    ∃ after, (relayMessage net (callOutAt (depth + 2) code answer origin) within s net.relayer
        packet).outcome = .ok after ∧
      after.contracts = update s.contracts token (.standard name symbol next) := by
  have body := erc20In_releases depth code answer origin
    (⟨net.relayer, packet.targetAddress, packet.sourceChainId, packet.sourceAddress⟩ :: within)
    (s := marked net s packet) ⟨real, wired⟩ unknown other held done
  have delivered : (callOutAt (depth + 2) code answer origin
      (⟨net.relayer, packet.targetAddress, packet.sourceChainId, packet.sourceAddress⟩ :: within)
      (marked net s packet) packet.targetAddress packet.value packet.message).outcome =
        .ok ({ (marked net s packet).setContract token (.standard name symbol next) with
          released := tally s.released token amount }, true) := by
    simp only [callOutAt, callOutWith, free, target, named, Nat.not_lt_zero, ↓reduceIte,
      Traced.outcome_bind, Traced.outcome_pure, bind_ok_iff, deliver_eq, dispatch, receiveEth]
    rw [target] at body
    exact ⟨_, body, rfl⟩
  simp only [relayMessage, Traced.outcome_bind, Traced.outcome_lift, bind_ok_iff, require_ok_iff,
    Traced.outcome_failAs_ok, Prod.exists, Traced.outcome_pure, Except.ok.injEq]
  exact ⟨_, ⟨(), trivial, (), remote, (), fresh, _, true, delivered, rfl⟩, rfl⟩

end Release

end Bridge
