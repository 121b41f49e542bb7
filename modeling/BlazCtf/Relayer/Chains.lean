import BlazCtf.Bridge.System
import BlazCtf.Relayer.NoLoss

set_option autoImplicit false

namespace Relayer

open Bridge (Sent packetOf Network Call Answer Outbox Inbox Funded transact callDepth)
open Evm (Address)

variable {H : Type}

/-- A block with the bridge's state after it. -/
structure Entry (H : Type) where
  block : Block
  state : Bridge.State H

/-- The current history of a chain, oldest block first. -/
structure Chain (H : Type) where
  genesis : Entry H
  later : List (Entry H)

namespace Chain

def entries (chain : Chain H) : List (Entry H) := chain.genesis :: chain.later

def blocks (chain : Chain H) : List Block := chain.entries.map Entry.block

/-- The bridge's current state. -/
def tip (chain : Chain H) : Bridge.State H := (chain.later.getLastD chain.genesis).state

def append (chain : Chain H) (entry : Entry H) : Chain H :=
  { chain with later := chain.later ++ [entry] }

/-- Fall back to the block of a given number. -/
def rollback (chain : Chain H) (height : Nat) : Chain H :=
  { chain with later := chain.later.take height }

end Chain

/-- A transaction: its `to` field, and the calls it makes to the bridge and to tokens. -/
structure UserTx (net : Network H) where
  recipient : Option Address
  calls : List (Call net)

/-- The logs of a block, oldest first. The relayer ignores the other events, so
they are left out here. -/
def newLogs (before after : Bridge.State H) : List Log :=
  ((after.sent.take (after.sent.length - before.sent.length)).reverse).map .sendRemoteMessage

section Blocks

variable [DecidableEq H] {net : Network H}

def runTx (s : Bridge.State H) (tx : UserTx net) : Bridge.State H :=
  Evm.run (fun s made => (Bridge.call callDepth [] s made).outcome) s tx.calls

/-- A block of users' transactions. -/
def mined (s : Bridge.State H) (txs : List (UserTx net)) : Entry H :=
  let after := txs.foldl runTx s
  ⟨⟨txs.map UserTx.recipient, newLogs s after⟩, after⟩

/-- The block of a `relayMessage` transaction; the node mines each on its own. -/
def submission (source : Nat) (s : Bridge.State H) (message : Sent) (code : List (Call net))
    (answer : Answer) : Entry H :=
  let after := Evm.commit (fun s tx => (transact s tx).outcome) s
    (.relayer 0 (.relayMessage message.targetAddress source message.sourceAddress message.msgValue
      message.msgNonce message.msgData) code answer)
  ⟨⟨[some net.this], newLogs s after⟩, after⟩

end Blocks

/-- A bridge that began with `initial` ETH and executed only the given messages. -/
structure Serves (net : Network H) (remote : Address) (source initial : Nat)
    (messages : List Sent) (s : Bridge.State H) : Prop where
  outbox : Outbox net remote s
  inbox : Inbox net source messages s
  funded : Funded initial s

/-- Every state of a history is that of such a bridge, and the blocks up to it have
only logs of its messages. -/
structure Recorded (net : Network H) (remote : Address) (source initial : Nat) (config : Config)
    (messages : List Sent) (chain : Chain H) : Prop where
  serves : ∀ entry ∈ chain.entries, Serves net remote source initial messages entry.state
  logged : ∀ first number entry, first ≤ number → chain.entries[number]? = some entry →
    messagesAt config chain.blocks first ⊆ entry.state.sent

section Recorded

variable {net : Network H} {remote : Address} {source initial : Nat} {config : Config}
variable {messages : List Sent} {chain : Chain H} {entry : Entry H}

theorem Chain.blocks_append (chain : Chain H) (entry : Entry H) :
    (chain.append entry).blocks = chain.blocks ++ [entry.block] := by
  simp [Chain.blocks, Chain.append, Chain.entries]

theorem Chain.entries_append (chain : Chain H) (entry : Entry H) :
    (chain.append entry).entries = chain.entries ++ [entry] := rfl

theorem Chain.entries_rollback (chain : Chain H) (height : Nat) :
    (chain.rollback height).entries = chain.entries.take (height + 1) := rfl

theorem Chain.blocks_rollback (chain : Chain H) (height : Nat) :
    (chain.rollback height).blocks = chain.blocks.take (height + 1) := by
  rw [Chain.blocks, Chain.entries_rollback, List.map_take, Chain.blocks]

theorem Chain.length_blocks (chain : Chain H) : chain.blocks.length = chain.later.length + 1 := by
  simp [Chain.blocks, Chain.entries]

/-- The last entry has the current state. -/
theorem Chain.exists_tip (chain : Chain H) : ∃ entry,
    chain.entries[chain.later.length]? = some entry ∧ entry.state = chain.tip := by
  refine ⟨chain.later.getLastD chain.genesis, ?_, rfl⟩
  obtain ⟨genesis, later⟩ := chain
  induction later generalizing genesis with
  | nil => rfl
  | cons next later ih =>
      rw [List.getLastD_cons]
      exact ih next

namespace Recorded

theorem serves_tip (recorded : Recorded net remote source initial config messages chain) :
    Serves net remote source initial messages chain.tip := by
  obtain ⟨entry, last, same⟩ := chain.exists_tip
  rw [← same]
  exact recorded.serves entry (List.mem_of_getElem? last)

/-- The messages of the current history are in the log of the current state. -/
theorem logged_tip (recorded : Recorded net remote source initial config messages chain)
    (number : Nat) :
    messagesAt config chain.blocks number ⊆ chain.tip.sent := by
  intro message member
  have inside := lt_length_of_mem member
  rw [chain.length_blocks] at inside
  obtain ⟨entry, last, same⟩ := chain.exists_tip
  rw [← same]
  exact recorded.logged number _ entry (Nat.le_of_lt_succ inside) last member

/-- The executed packets may be counted among other messages. -/
theorem among (recorded : Recorded net remote source initial config messages chain)
    {others : List Sent}
    (emitted : ∀ entry ∈ chain.entries, ∀ packet ∈ entry.state.executed,
      ∃ message ∈ others, packet = packetOf source message) :
    Recorded net remote source initial config others chain := by
  refine ⟨fun entry member => ?_, recorded.logged⟩
  obtain ⟨outbox, inbox, funded⟩ := recorded.serves entry member
  exact ⟨outbox, ⟨inbox.flagged, inbox.once, emitted entry member, inbox.paidOut⟩, funded⟩

theorem mono (recorded : Recorded net remote source initial config messages chain)
    {more : List Sent} (grown : messages ⊆ more) :
    Recorded net remote source initial config more chain :=
  recorded.among fun entry member => ((recorded.serves entry member).inbox.mono grown).emitted

theorem append (recorded : Recorded net remote source initial config messages chain)
    (serves : Serves net remote source initial messages entry.state)
    (grown : chain.tip.sent <:+ entry.state.sent)
    (emitted : messagesOf config entry.block.logs ⊆ entry.state.sent) :
    Recorded net remote source initial config messages (chain.append entry) := by
  refine ⟨?_, ?_⟩
  · rw [Chain.entries_append]
    exact List.forall_mem_append.mpr ⟨recorded.serves, List.forall_mem_singleton.mpr serves⟩
  · intro first number found earlier present
    rw [Chain.entries_append, List.getElem?_append] at present
    rw [Chain.blocks_append]
    have length : chain.entries.length = chain.blocks.length := by simp [Chain.blocks]
    split at present
    · rename_i old
      rw [messagesAt_append_of_ne (by omega)]
      exact recorded.logged first number found earlier present
    · rename_i new
      have same : found = entry := by simpa using List.mem_of_getElem? present
      subst same
      by_cases here : first = chain.blocks.length
      · subst here
        rw [messagesAt_append_self]
        exact emitted
      · rw [messagesAt_append_of_ne here]
        exact fun _ member => grown.subset (recorded.logged_tip first member)

theorem rollback (recorded : Recorded net remote source initial config messages chain)
    (height : Nat) :
    Recorded net remote source initial config messages (chain.rollback height) := by
  refine ⟨?_, ?_⟩
  · rw [Chain.entries_rollback]
    exact fun entry member => recorded.serves entry (List.mem_of_mem_take member)
  · intro first number entry earlier present
    rw [Chain.entries_rollback, List.getElem?_take] at present
    split at present
    · rename_i inside
      have same : messagesAt config (chain.rollback height).blocks first =
          messagesAt config chain.blocks first := by
        rw [Chain.blocks_rollback, messagesAt, List.getElem?_take_of_lt (by omega), messagesAt]
      rw [same]
      exact recorded.logged first number entry earlier present
    · cases present

end Recorded

/-- The logs of a block are messages of the state after it. -/
theorem messagesOf_newLogs (before after : Bridge.State H) :
    messagesOf config (newLogs before after) ⊆ after.sent := by
  intro message member
  obtain ⟨log, listed, named⟩ := List.mem_filterMap.mp member
  obtain ⟨args, new, rfl⟩ := List.mem_map.mp listed
  have same : args = message := by
    simp only [Log.message] at named
    split at named
    · exact Option.some.inj named
    · cases named
  rw [← same]
  exact List.mem_of_mem_take (List.mem_reverse.mp new)

variable [DecidableEq H]

theorem Serves.run_calls {s : Bridge.State H} (calls : List (Call net))
    (serves : Serves net remote source initial messages s) :
    let after := Evm.run (fun s made => (Bridge.call callDepth [] s made).outcome) s calls
    Serves net remote source initial messages after ∧ s.sent <:+ after.sent :=
  Evm.run_invariant
    (fun after => Serves net remote source initial messages after ∧ s.sent <:+ after.sent)
    (fun state made next holds success => by
      have steps := Bridge.call_steps callDepth (Bridge.sends_any made) success
      exact ⟨⟨holds.1.outbox.steps steps, holds.1.inbox.kept (Bridge.steps_kept steps),
        holds.1.funded.steps steps⟩, holds.2.trans (Bridge.steps_sent_suffix steps)⟩)
    calls s ⟨serves, List.suffix_refl _⟩

theorem Serves.run_txs (txs : List (UserTx net)) :
    ∀ {s : Bridge.State H}, Serves net remote source initial messages s →
      Serves net remote source initial messages (txs.foldl runTx s) ∧
        s.sent <:+ (txs.foldl runTx s).sent := by
  induction txs with
  | nil =>
      intro s serves
      exact ⟨serves, List.suffix_refl _⟩
  | cons tx txs ih =>
      intro s serves
      obtain ⟨serves, first⟩ := serves.run_calls tx.calls
      obtain ⟨serves, second⟩ := ih serves
      exact ⟨serves, first.trans second⟩

/-- A block of users' transactions. -/
theorem Recorded.mine (recorded : Recorded net remote source initial config messages chain)
    (txs : List (UserTx net)) :
    Recorded net remote source initial config messages (chain.append (mined chain.tip txs)) := by
  obtain ⟨serves, grown⟩ := Serves.run_txs txs recorded.serves_tip
  exact recorded.append serves grown (messagesOf_newLogs _ _)

/-- The block of a message that the relayer submits. -/
theorem Recorded.submit (recorded : Recorded net remote source initial config messages chain)
    {message : Sent} (listed : message ∈ messages) (target : message.targetAddress = net.this)
    (asked : message.msgData.Remote message.msgValue) (code : List (Call net)) (answer : Answer) :
    Recorded net remote source initial config messages
      (chain.append (submission source chain.tip message code answer)) := by
  have serves := recorded.serves_tip
  have kept : Serves net remote source initial messages
        (submission source chain.tip message code answer).state ∧
      chain.tip.sent <:+ (submission source chain.tip message code answer).state.sent := by
    simp only [submission]
    refine Evm.commit_invariant
      (fun after => Serves net remote source initial messages after ∧
        chain.tip.sent <:+ after.sent) ?_ ⟨serves, List.suffix_refl _⟩
    intro after success
    obtain ⟨received, last, relay⟩ := Bridge.submit_ok (fun made _ => Bridge.sends_any made)
      serves.outbox.tokens target asked success
    obtain ⟨outbox, inbox, grown⟩ := relay.keeps serves.outbox serves.inbox listed
    exact ⟨⟨outbox, inbox, relay.funded serves.funded⟩, grown⟩
  exact recorded.append kept.1 kept.2 (messagesOf_newLogs _ _)

end Recorded

end Relayer
