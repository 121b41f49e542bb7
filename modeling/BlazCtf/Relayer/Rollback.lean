import BlazCtf.Relayer.Chains

set_option autoImplicit false

namespace Relayer

open Bridge (Sent Side Pair Call Answer Contract packetOf start)
open Evm (Address Follows follows_and follows_append foldl_invariant_of_follows)
open Function (update)

variable {H : Type}

/-- The two chains and, for each, the relayer that reads it; `kept` blocks of a
chain are older than its relayer. -/
structure Deployment (H : Type) where
  chain : Side → Chain H
  relayer : Side → State
  kept : Side → Nat

/-- A chain grows by a block or falls back to an earlier one, or the call that a
relayer waits for returns (and a submission runs foreign code) or raises. -/
inductive Turn (pair : Pair H) where
  | mine (side : Side) (txs : List (UserTx (pair.net side)))
  | answer (side : Side) (code : List (Call (pair.net side.other))) (reply : Answer)
  | failure (side : Side)
  | rollback (side : Side) (height : Nat)

def configOf (pair : Pair H) (side : Side) : Config :=
  ⟨(pair.net side).this, (pair.net side.other).chainId⟩

def Deployment.grow (d : Deployment H) (side : Side) (entry : Entry H) : Deployment H :=
  { d with chain := update d.chain side ((d.chain side).append entry) }

def Deployment.setRelayer (d : Deployment H) (side : Side) (r : State) : Deployment H :=
  { d with relayer := update d.relayer side r }

section Turns

variable [DecidableEq H]

def turn (pair : Pair H) (getLogs : GetLogs) (d : Deployment H) : Turn pair → Deployment H
  | .mine side txs => d.grow side (mined (d.chain side).tip txs)
  | .answer side code reply =>
      let relayed := d.setRelayer side
        (answered (configOf pair side) getLogs (d.chain side).blocks (d.relayer side))
      match (d.relayer side).await with
      | .transact _ _ _ args _ => relayed.grow side.other
          (submission (pair.net side).chainId (d.chain side.other).tip args code reply)
      | _ => relayed
  | .failure side => d.setRelayer side (raised (configOf pair side) (d.relayer side))
  | .rollback side height => { d with
      chain := update d.chain side ((d.chain side).rollback height)
      kept := update d.kept side (min (d.kept side) (height + 1)) }

/-- The relayers start on chains that already have blocks. -/
def launch (pair : Pair H) (eth : Side → Nat) (contracts : Side → Address → Contract)
    (prior : ∀ side, List (List (UserTx (pair.net side)))) : Deployment H :=
  let chain := fun side => (prior side).foldl (fun chain txs => chain.append (mined chain.tip txs))
    ⟨⟨⟨[], []⟩, start pair eth contracts side⟩, []⟩
  ⟨chain, fun side => init (chain side).blocks, fun side => (chain side).blocks.length⟩

/-- A block that a chain can grow by without a loss: with a message it has a
transaction to the bridge itself, and it has none if the relayer is past it. -/
def Admits (pair : Pair H) (d : Deployment H) (side : Side) (block : Block) : Prop :=
  block.Direct (configOf pair side) ∧
    ((d.chain side).blocks.length ≤ (d.relayer side).lastProcessed →
      messagesOf (configOf pair side) block.logs = [])

instance (pair : Pair H) (d : Deployment H) (side : Side) (block : Block) :
    Decidable (Admits pair d side block) :=
  inferInstanceAs (Decidable (_ ∧ _))

/-- A rollback that drops no message which the other chain has executed (and has not
itself fallen back behind), and no message that the relayer has at hand. -/
def Droppable (pair : Pair H) (d : Deployment H) (side : Side) (height : Nat) : Prop :=
  (∀ block ∈ (d.chain side).blocks.drop (height + 1),
    ∀ message ∈ messagesOf (configOf pair side) block.logs, ∀ entry ∈ (d.chain side.other).entries,
      packetOf (pair.net side).chainId message ∉ entry.state.executed) ∧
    (HoldsLogs (d.relayer side) → height < (d.relayer side).lastProcessed →
      messagesAt (configOf pair side) (d.chain side).blocks (d.relayer side).lastProcessed = [])

instance (pair : Pair H) (d : Deployment H) (side : Side) (height : Nat) :
    Decidable (Droppable pair d side height) :=
  inferInstanceAs (Decidable (_ ∧ _))

/-- Chains grow by such blocks and fall back by such rollbacks, and calls raise only
without harm. -/
def Prudent (pair : Pair H) (d : Deployment H) : Turn pair → Prop
  | .mine side txs => Admits pair d side (mined (d.chain side).tip txs).block
  | .answer side code reply =>
      match (d.relayer side).await with
      | .transact _ _ _ args _ => Admits pair d side.other
          (submission (pair.net side).chainId (d.chain side.other).tip args code reply).block
      | _ => True
  | .failure side => Harmless (configOf pair side) (d.chain side).blocks (d.relayer side)
  | .rollback side height => Droppable pair d side height

instance (pair : Pair H) (d : Deployment H) : ∀ taken, Decidable (Prudent pair d taken)
  | .mine side txs => inferInstanceAs (Decidable (Admits pair d side _))
  | .answer side code reply =>
      match waits : (d.relayer side).await with
      | .transact _ _ _ args _ => decidable_of_iff (Admits pair d side.other (submission
          (pair.net side).chainId (d.chain side.other).tip args code reply).block)
          (by simp only [Prudent, waits])
      | .getLatest | .getBlock _ _ | .getTransaction _ _ _ _ | .getLogs _ _ _ _
      | .receipt _ _ _ _ => isTrue (by simp only [Prudent, waits])
  | .failure side => inferInstanceAs (Decidable (Harmless _ _ _))
  | .rollback side height => inferInstanceAs (Decidable (Droppable pair d side height))

/-- Every answer of `get_logs` is what the relayer that asks relies on. -/
def AllInRange (pair : Pair H) (getLogs : GetLogs) (d : Deployment H) : Turn pair → Prop
  | .answer side _ _ => Ranged (configOf pair side) getLogs (d.chain side).blocks (d.relayer side)
  | _ => True

instance (pair : Pair H) (getLogs : GetLogs) (d : Deployment H) :
    ∀ taken, Decidable (AllInRange pair getLogs d taken)
  | .answer side _ _ => inferInstanceAs (Decidable (Ranged (configOf pair side) getLogs _ _))
  | .mine _ _ | .failure _ | .rollback _ _ => isTrue trivial

end Turns

/-- Both relayers are in order, and both chains executed only messages that are in
the current history of the other. -/
structure Consistent (pair : Pair H) (eth : Side → Nat) (d : Deployment H) : Prop where
  scanned : ∀ side, Scanned (configOf pair side) (d.kept side) (d.chain side).blocks
    (d.relayer side)
  recorded : ∀ side, Recorded (pair.net side) (pair.net side.other).this
    (pair.net side.other).chainId (eth side) (configOf pair side)
    (history (configOf pair side.other) (d.chain side.other).blocks) (d.chain side)

namespace Consistent

variable {pair : Pair H} {eth : Side → Nat} {d : Deployment H} {side : Side}

/-- One chain changes, and the other has executed only what is still in its history. -/
theorem setChain (consistent : Consistent pair eth d) {chain : Chain H} (kept : Nat)
    (scanned : Scanned (configOf pair side) kept chain.blocks (d.relayer side))
    (here : Recorded (pair.net side) (pair.net side.other).this (pair.net side.other).chainId
      (eth side) (configOf pair side)
      (history (configOf pair side.other) (d.chain side.other).blocks) chain)
    (there : Recorded (pair.net side.other) (pair.net side).this (pair.net side).chainId
      (eth side.other) (configOf pair side.other) (history (configOf pair side) chain.blocks)
      (d.chain side.other)) :
    Consistent pair eth { d with
      chain := update d.chain side chain
      kept := update d.kept side kept } := by
  constructor
  · intro any
    dsimp only
    by_cases same : any = side
    · subst same
      rw [Function.update_self, Function.update_self]
      exact scanned
    · rw [Function.update_of_ne same, Function.update_of_ne same]
      exact consistent.scanned any
  · intro any
    dsimp only
    by_cases same : any = side
    · subst same
      rw [Function.update_self, Function.update_of_ne any.other_ne]
      exact here
    · have back : any = side.other := by
        cases any <;> cases side <;> first | rfl | exact absurd rfl same
      subst back
      rw [Function.update_of_ne same, Side.other_other, Function.update_self]
      exact there

theorem grow (consistent : Consistent pair eth d) {entry : Entry H}
    (admits : Admits pair d side entry.block)
    (recorded : Recorded (pair.net side) (pair.net side.other).this
      (pair.net side.other).chainId (eth side) (configOf pair side)
      (history (configOf pair side.other) (d.chain side.other).blocks)
      ((d.chain side).append entry)) : Consistent pair eth (d.grow side entry) := by
  have changed := consistent.setChain (d.kept side) ?_ recorded ?_
  · rw [Function.update_eq_self] at changed
    exact changed
  · rw [Chain.blocks_append]
    exact (consistent.scanned side).append admits.1 admits.2
  · have old := consistent.recorded side.other
    rw [Side.other_other] at old
    refine old.mono ?_
    rw [Chain.blocks_append, history_append]
    exact List.subset_append_left _ _

theorem setRelayer (consistent : Consistent pair eth d) {r : State}
    (scanned : Scanned (configOf pair side) (d.kept side) (d.chain side).blocks r) :
    Consistent pair eth (d.setRelayer side r) := by
  refine ⟨?_, consistent.recorded⟩
  exact (Function.forall_update_iff d.relayer fun any r =>
    Scanned (configOf pair any) (d.kept any) (d.chain any).blocks r).mpr
    ⟨scanned, fun any _ => consistent.scanned any⟩

/-- What the other chain has executed stays in the history. -/
theorem rollback (consistent : Consistent pair eth d) {height : Nat}
    (droppable : Droppable pair d side height) :
    Consistent pair eth { d with
      chain := update d.chain side ((d.chain side).rollback height)
      kept := update d.kept side (min (d.kept side) (height + 1)) } := by
  refine consistent.setChain _ ?_ ((consistent.recorded side).rollback height) ?_
  · rw [Chain.blocks_rollback]
    exact (consistent.scanned side).rollback droppable.2
  · have old := consistent.recorded side.other
    rw [Side.other_other] at old
    refine old.among fun entry member packet executed => ?_
    obtain ⟨message, listed, same⟩ := (old.serves entry member).inbox.emitted packet executed
    obtain ⟨block, present, emitted⟩ := List.mem_flatMap.mp listed
    refine ⟨message, List.mem_flatMap.mpr ⟨block, ?_, emitted⟩, same⟩
    rw [Chain.blocks_rollback]
    rw [← List.take_append_drop (height + 1) (d.chain side).blocks] at present
    rcases List.mem_append.mp present with stays | dropped
    · exact stays
    · subst same
      exact absurd executed (droppable.1 block dropped message emitted entry member)

/-- What a relayer is about to submit is in the history of the chain it reads, and in
the log of its bridge. -/
theorem addressed (consistent : Consistent pair eth d) {number latest : Nat} {rest : List Event}
    {args : Sent} {logs : List Log}
    (waits : (d.relayer side).await = .transact number latest rest args logs) :
    args ∈ history (configOf pair side) (d.chain side).blocks ∧
      args.targetAddress = (pair.net side.other).this ∧ args.msgData.Remote args.msgValue := by
  have inside := (consistent.scanned side).inside
  simp only [Inside, waits] at inside
  have logged := (consistent.recorded side).logged_tip _ inside.2.2.1
  obtain ⟨_, target, _, asked⟩ :=
    (consistent.recorded side).serves_tip.outbox.addressed args logged
  exact ⟨mem_history inside.2.2.1, target, asked⟩

variable [DecidableEq H] {getLogs : GetLogs}

/-- A submission is executed by the other bridge, or reverts there. -/
theorem submit (consistent : Consistent pair eth d) {number latest : Nat} {rest : List Event}
    {args : Sent} {logs : List Log} (code : List (Call (pair.net side.other))) (reply : Answer)
    (waits : (d.relayer side).await = .transact number latest rest args logs)
    (ranged : Ranged (configOf pair side) getLogs (d.chain side).blocks (d.relayer side))
    (admits : Admits pair d side.other (submission (pair.net side).chainId
      (d.chain side.other).tip args code reply).block) :
    Consistent pair eth ((d.setRelayer side (answered (configOf pair side) getLogs
      (d.chain side).blocks (d.relayer side))).grow side.other
        (submission (pair.net side).chainId (d.chain side.other).tip args code reply)) := by
  obtain ⟨emitted, target, asked⟩ := consistent.addressed waits
  have relayed := consistent.setRelayer (answered_scanned (consistent.scanned side) ranged)
  refine relayed.grow ?_ ?_
  · refine ⟨admits.1, ?_⟩
    have elsewhere : (d.setRelayer side (answered (configOf pair side) getLogs
        (d.chain side).blocks (d.relayer side))).relayer side.other = d.relayer side.other :=
      Function.update_of_ne side.other_ne _ _
    rw [elsewhere]
    exact admits.2
  · have recorded := relayed.recorded side.other
    simp only [Side.other_other, Deployment.setRelayer] at recorded ⊢
    exact recorded.submit emitted target asked code reply

theorem turn (consistent : Consistent pair eth d) {taken : Turn pair}
    (prudent : Prudent pair d taken) (inRange : AllInRange pair getLogs d taken) :
    Consistent pair eth (turn pair getLogs d taken) := by
  cases taken with
  | mine side txs => exact consistent.grow prudent ((consistent.recorded side).mine txs)
  | answer side code reply =>
      have scanned := answered_scanned (consistent.scanned side) inRange
      simp only [Prudent] at prudent
      simp only [Relayer.turn]
      cases waits : (d.relayer side).await with
      | transact number latest rest args logs =>
          rw [waits] at prudent
          exact consistent.submit code reply waits inRange prudent
      | _ => exact consistent.setRelayer scanned
  | failure side =>
      exact consistent.setRelayer (raised_scanned (consistent.scanned side) prudent)
  | rollback side height => exact consistent.rollback prudent

/-- The chains before the relayers start. -/
theorem launch (pair : Pair H) (eth : Side → Nat) (contracts : Side → Address → Contract)
    (prior : ∀ side, List (List (UserTx (pair.net side)))) :
    Consistent pair eth (launch pair eth contracts prior) := by
  constructor
  · intro side
    refine init_scanned _ ?_
    rw [Chain.length_blocks]
    exact Nat.succ_pos _
  · intro side
    have sound := Bridge.start_sound pair eth contracts
    have genesis : Recorded (pair.net side) (pair.net side.other).this
        (pair.net side.other).chainId (eth side) (configOf pair side) []
        ⟨⟨⟨[], []⟩, start pair eth contracts side⟩, []⟩ := by
      refine ⟨?_, ?_⟩
      · exact List.forall_mem_singleton.mpr ⟨sound.outbox side, sound.inbox side, rfl⟩
      · intro first number entry earlier present message member
        have silent : messagesAt (configOf pair side) [⟨[], []⟩] first = [] := by
          cases first <;> rfl
        exact absurd (silent ▸ member) (List.not_mem_nil)
    refine Recorded.mono ?_ (List.nil_subset _)
    refine List.foldlRecOn (prior side) _ genesis ?_
    exact fun chain recorded txs _ => recorded.mine txs

end Consistent

theorem history_subset_sent {net : Bridge.Network H} {remote : Address} {source initial : Nat}
    {config : Config} {messages : List Sent} {chain : Chain H}
    (recorded : Recorded net remote source initial config messages chain) :
    history config chain.blocks ⊆ chain.tip.sent := by
  intro message member
  obtain ⟨block, present, emitted⟩ := List.mem_flatMap.mp member
  obtain ⟨number, found⟩ := List.mem_iff_getElem?.mp present
  refine recorded.logged_tip number ?_
  rw [messagesAt_of_block found]
  exact emitted

/-- With rollbacks at any time, as long as the chains, the failures and the
rollbacks are prudent and `get_logs` answers with the messages of the block it is
asked for: what a bridge has executed is in the current log of the other, outside a
block the relayer has submitted every message of the current history since its
start-up, the ETH paid on one side is covered by the ETH taken in the current state
of the other, and each bridge has the ETH it began with, what `ethOut` took and what
was forced into it, less what `ethIn` paid. -/
theorem backed_across_rollbacks [DecidableEq H] (pair : Pair H) (getLogs : GetLogs)
    (eth : Side → Nat) (contracts : Side → Address → Contract)
    (prior : ∀ side, List (List (UserTx (pair.net side)))) (turns : List (Turn pair))
    (prudent : Follows (Prudent pair) (turn pair getLogs) (launch pair eth contracts prior) turns)
    (inRange : Follows (AllInRange pair getLogs) (turn pair getLogs)
      (launch pair eth contracts prior) turns) (side : Side) :
    let d := turns.foldl (turn pair getLogs) (launch pair eth contracts prior)
    let here := (d.chain side).tip
    let there := (d.chain side.other).tip
    (∀ packet ∈ here.executed, ∃ message ∈ there.sent,
      packet = packetOf (pair.net side.other).chainId message) ∧
    LosesNothing (configOf pair side.other) (d.kept side.other)
      ⟨(d.chain side.other).blocks, d.relayer side.other⟩ ∧
    here.paid ≤ there.taken ∧
    here.eth + here.paid = eth side + here.taken + here.forced ∧
    there.eth + there.paid = eth side.other + there.taken + there.forced := by
  intro d here there
  have consistent : Consistent pair eth d := foldl_invariant_of_follows (Consistent pair eth)
    (fun _ _ consistent meets => consistent.turn meets.1 meets.2) turns _
    (Consistent.launch pair eth contracts prior) (follows_and prudent inRange)
  have current := history_subset_sent (consistent.recorded side.other)
  have inbox := (consistent.recorded side).serves_tip.inbox.mono current
  refine ⟨inbox.emitted, (consistent.scanned side.other).losesNothing, ?_,
    (consistent.recorded side).serves_tip.funded,
    (consistent.recorded side.other).serves_tip.funded⟩
  rw [(consistent.recorded side.other).serves_tip.outbox.collected]
  exact inbox.paid_le

/-- Account 3 on the left sends 5 wei to account 4 on the right. -/
def sampleTx : UserTx (Bridge.samplePair.net .left) :=
  ⟨some 100, [.message Bridge.sampleSender 5 (.ethOut 4) [] .silent]⟩

/-- The calls that the relayer of the left chain makes return. -/
def answers (calls : Nat) : List (Turn Bridge.samplePair) :=
  List.replicate calls (.answer .left [] .silent)

def sampleLaunch : Deployment Bridge.Packet :=
  launch Bridge.samplePair (fun _ => 10) (fun _ _ => .vacant) fun _ => []

def sampleFinal (turns : List (Turn Bridge.samplePair)) : Deployment Bridge.Packet :=
  turns.foldl (turn Bridge.samplePair latestLogs) sampleLaunch

/-- The left chain drops an empty block that the relayer has processed, the relayer
notices, and then a message is sent and relayed. Then both chains fall back. -/
def noticedRollback : List (Turn Bridge.samplePair) :=
  [.mine .left []] ++ answers 2 ++ [.rollback .left 0] ++ answers 1 ++ [.mine .left [sampleTx]] ++
    answers 10

def bothFallBack : List (Turn Bridge.samplePair) :=
  noticedRollback ++ [.rollback .right 0, .rollback .left 0]

theorem backed_across_rollbacks_sample :
    ((sampleFinal noticedRollback).chain .right).tip.paid = 5 ∧
      ((sampleFinal noticedRollback).chain .right).tip.paid ≤
        ((sampleFinal noticedRollback).chain .left).tip.taken ∧
      ((sampleFinal bothFallBack).chain .right).tip.paid ≤
        ((sampleFinal bothFallBack).chain .left).tip.taken := by
  have prudent : Follows (Prudent Bridge.samplePair) (turn Bridge.samplePair latestLogs)
      sampleLaunch bothFallBack := by decide +kernel
  have inRange : Follows (AllInRange Bridge.samplePair latestLogs)
      (turn Bridge.samplePair latestLogs) sampleLaunch bothFallBack := by decide +kernel
  have early := (follows_append noticedRollback _ _).mp prudent
  have earlyRange := (follows_append noticedRollback _ _).mp inRange
  exact ⟨by decide +kernel,
    (backed_across_rollbacks Bridge.samplePair latestLogs _ _ _ noticedRollback early.1
      earlyRange.1 .right).2.2.1,
    (backed_across_rollbacks Bridge.samplePair latestLogs _ _ _ bothFallBack prudent inRange
      .right).2.2.1⟩

/-- The left chain drops the block of a message that was relayed. -/
def droppedMessage : List (Turn Bridge.samplePair) :=
  [.mine .left [sampleTx]] ++ answers 10 ++ [.rollback .left 0]

/-- The left chain falls back, and a message is sent in a new block before the
relayer notices. -/
def skippedMessage : List (Turn Bridge.samplePair) :=
  [.mine .left []] ++ answers 2 ++ [.mine .left []] ++ answers 2 ++ [.rollback .left 0] ++
    [.mine .left [sampleTx]] ++ answers 1

/-- A rollback can leave the right bridge with an executed message and paid ETH
that the left chain does not have, and the relayer can skip a message after it. -/
theorem rollback_breaks_backing :
    (¬ ((sampleFinal droppedMessage).chain .right).tip.paid ≤
        ((sampleFinal droppedMessage).chain .left).tip.taken) ∧
      (¬ ∀ packet ∈ ((sampleFinal droppedMessage).chain .right).tip.executed,
        ∃ message ∈ ((sampleFinal droppedMessage).chain .left).tip.sent,
          packet = packetOf 78704 message) ∧
      ¬ LosesNothing (configOf Bridge.samplePair .left)
        ((sampleFinal skippedMessage).kept .left)
        ⟨((sampleFinal skippedMessage).chain .left).blocks,
          (sampleFinal skippedMessage).relayer .left⟩ := by
  refine ⟨by decide +kernel, by decide +kernel, ?_⟩
  intro complete
  have submitted := complete (by decide +kernel) 1
    ⟨[some 100], [.sendRemoteMessage ⟨78705, 200, 100, 5, 0, .ethIn 4⟩]⟩
    ⟨78705, 200, 100, 5, 0, .ethIn 4⟩ (by decide +kernel) (by decide +kernel) (by decide +kernel)
    (by decide +kernel) (by decide +kernel)
  exact absurd submitted (by decide +kernel)

end Relayer
