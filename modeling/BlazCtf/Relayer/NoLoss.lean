import BlazCtf.Lib.Run
import BlazCtf.Relayer.Scan

set_option autoImplicit false

namespace Relayer

open Bridge (Sent)
open Evm (Address Follows follows_and foldl_invariant_of_follows)

/-- A growing source chain and its relayer. -/
structure World where
  chain : List Block
  relayer : State

/-- The chain grows by a block, or the call the relayer waits for returns or raises. -/
inductive Happening where
  | mine (block : Block)
  | answer
  | failure

def happen (config : Config) (getLogs : GetLogs) (w : World) : Happening → World
  | .mine block => { w with chain := w.chain ++ [block] }
  | .answer => { w with relayer := answered config getLogs w.chain w.relayer }
  | .failure => { w with relayer := raised config w.relayer }

def startUp (chain : List Block) : World := ⟨chain, init chain⟩

/-- Blocks with messages have a transaction sent to the bridge itself, and calls
raise only without harm. -/
def Careful (config : Config) (w : World) : Happening → Prop
  | .mine block => block.Direct config
  | .answer => True
  | .failure => Harmless config w.chain w.relayer

/-- Every answer of `get_logs` is what `run` relies on. -/
def InRange (config : Config) (getLogs : GetLogs) (w : World) : Happening → Prop
  | .answer => Ranged config getLogs w.chain w.relayer
  | _ => True

instance (config : Config) (getLogs : GetLogs) (w : World) :
    ∀ happening, Decidable (InRange config getLogs w happening)
  | .answer => inferInstanceAs (Decidable (Ranged config getLogs w.chain w.relayer))
  | .mine _ | .failure => isTrue trivial

instance (config : Config) (w : World) : ∀ happening, Decidable (Careful config w happening)
  | .mine block => inferInstanceAs (Decidable (block.Direct config))
  | .answer => isTrue trivial
  | .failure => inferInstanceAs (Decidable (Harmless config w.chain w.relayer))

/-- Outside a block, every message of the blocks from `first` to the last
processed one has been submitted. -/
def LosesNothing (config : Config) (first : Nat) (w : World) : Prop :=
  w.relayer.await = .getLatest → ∀ number block args, first ≤ number →
    number ≤ w.relayer.lastProcessed → w.chain[number]? = some block →
    .sendRemoteMessage args ∈ block.logs → args.targetChainId = config.dstChainId →
    args ∈ w.relayer.submitted

/-- The last number of the range that the relayer is in. -/
def Await.latest : Await → Nat
  | .getLatest => 0
  | .getBlock _ latest | .getTransaction _ latest _ _ | .getLogs _ latest _ _
  | .transact _ latest _ _ _ | .receipt _ latest _ _ => latest

/-- The relayer is not ahead of the chain. -/
def Within (length : Nat) (r : State) : Prop :=
  r.lastProcessed < length ∧ r.await.latest < length

section Within

variable {config : Config} {getLogs : GetLogs} {length number latest : Nat} {r : State}

theorem nextBlock_within (within : Within length r) (inside : latest < length) :
    Within length (nextBlock r number latest) := by
  unfold nextBlock
  split
  · rename_i next
    exact ⟨Nat.lt_of_le_of_lt next inside, inside⟩
  · exact ⟨within.1, Nat.lt_of_le_of_lt (Nat.zero_le _) inside⟩

theorem nextEvent_within (within : Within length r) (inside : latest < length)
    (rest : List Event) : Within length (nextEvent r number latest rest) := by
  cases rest with
  | nil => exact nextBlock_within within inside
  | cons event rest => exact ⟨within.1, inside⟩

theorem nextLog_within (within : Within length r) (inside : latest < length) (rest : List Event)
    (logs : List Log) : Within length (nextLog config r number latest rest logs) := by
  induction logs with
  | nil => exact nextEvent_within within inside rest
  | cons log logs ih =>
      cases log with
      | sendRemoteMessage args =>
          simp only [nextLog]
          split
          · exact ⟨within.1, inside⟩
          · exact ih
      | _ => exact ih

theorem nextTransaction_within (within : Within length r) (inside : latest < length)
    (transactions : List (Option Address)) :
    Within length (nextTransaction r number latest transactions) := by
  cases transactions with
  | nil => exact nextBlock_within within inside
  | cons recipient rest => exact ⟨within.1, inside⟩

theorem answered_within {chain : List Block} (within : Within chain.length r) :
    Within chain.length (answered config getLogs chain r) := by
  have inside := within.2
  unfold answered
  cases waits : r.await with
  | getLatest =>
      have latest : chain.length - 1 < chain.length := by
        have first := within.1
        omega
      refine nextBlock_within ?_ latest
      split
      · exact ⟨latest, Nat.lt_of_le_of_lt (Nat.zero_le _) latest⟩
      · exact within
  | getBlock number latest =>
      rw [waits] at inside
      dsimp only
      split
      · exact ⟨within.1, Nat.lt_of_le_of_lt (Nat.zero_le _) inside⟩
      · exact nextTransaction_within within inside _
  | getTransaction number latest recipient rest =>
      rw [waits] at inside
      dsimp only
      split
      · exact nextEvent_within within inside _
      · exact nextTransaction_within within inside _
  | getLogs number latest event rest =>
      rw [waits] at inside
      exact nextLog_within within inside _ _
  | transact number latest rest args logs =>
      rw [waits] at inside
      exact ⟨within.1, inside⟩
  | receipt number latest rest logs =>
      rw [waits] at inside
      exact nextLog_within within inside _ _

theorem raised_within (within : Within length r) : Within length (raised config r) := by
  have inside := within.2
  have idle : Within length { r with await := .getLatest } :=
    ⟨within.1, Nat.lt_of_le_of_lt (Nat.zero_le _) inside⟩
  unfold raised
  cases waits : r.await with
  | transact number latest rest args logs =>
      rw [waits] at inside
      exact nextLog_within within inside _ _
  | receipt number latest rest logs =>
      rw [waits] at inside
      exact nextLog_within within inside _ _
  | _ => exact idle

end Within

theorem happen_scanned {config : Config} {getLogs : GetLogs} {kept : Nat} {w : World}
    (scanned : Scanned config kept w.chain w.relayer) (within : Within w.chain.length w.relayer)
    {happening : Happening} (careful : Careful config w happening)
    (inRange : InRange config getLogs w happening) :
    let next := happen config getLogs w happening
    Scanned config kept next.chain next.relayer ∧ Within next.chain.length next.relayer := by
  cases happening with
  | mine block =>
      have longer : w.chain.length < (w.chain ++ [block]).length := by simp
      refine ⟨scanned.append careful fun behind => ?_, ?_⟩
      · exact absurd within.1 (Nat.not_lt_of_le behind)
      · exact ⟨Nat.lt_trans within.1 longer, Nat.lt_trans within.2 longer⟩
  | answer => exact ⟨answered_scanned scanned inRange, answered_within within⟩
  | failure => exact ⟨raised_scanned scanned careful, raised_within within⟩

theorem init_scanned (config : Config) {chain : List Block} (nonempty : 0 < chain.length) :
    Scanned config chain.length chain (init chain) := by
  refine ⟨⟨nonempty, Nat.le_refl _, ?_, ?_, ?_⟩, ?_⟩
  · change chain.length ≤ chain.length - 1 + 1
    omega
  · intro number block later present
    rw [List.getElem?_eq_none later] at present
    cases present
  · intro number later earlier
    change number < chain.length - 1 at earlier
    omega
  · intro later
    change chain.length ≤ chain.length - 1 at later
    omega

theorem Scanned.losesNothing {config : Config} {kept : Nat} {w : World}
    (scanned : Scanned config kept w.chain w.relayer) : LosesNothing config kept w := by
  intro waits number block args later earlier present logged addressed
  have emitted : args ∈ messagesAt config w.chain number := by
    rw [messagesAt_of_block present]
    refine List.mem_filterMap.mpr ⟨_, logged, ?_⟩
    rw [Log.message, if_pos addressed.symm]
  rcases Nat.lt_or_eq_of_le earlier with before | rfl
  · exact scanned.behind.complete number later before args emitted
  · have inside := scanned.inside
    unfold Inside at inside
    rw [waits] at inside
    exact inside later args emitted

/-- On a growing chain, whatever its blocks and whichever calls raise, the relayer
loses no message as long as every block with a message for the destination has a
transaction sent to the bridge itself, no call raises inside such a block before its
messages are submitted, and `get_logs` answers with the messages of the block it is
asked for. -/
theorem relayer_loses_nothing (config : Config) (getLogs : GetLogs) (chain : List Block)
    (nonempty : 0 < chain.length) (happenings : List Happening)
    (careful : Follows (Careful config) (happen config getLogs) (startUp chain) happenings)
    (inRange : Follows (InRange config getLogs) (happen config getLogs) (startUp chain)
      happenings) :
    LosesNothing config chain.length
      (happenings.foldl (happen config getLogs) (startUp chain)) := by
  have reached := foldl_invariant_of_follows
    (fun w => Scanned config chain.length w.chain w.relayer ∧ Within w.chain.length w.relayer)
    (fun w _ holds meets => happen_scanned holds.1 holds.2 meets.1 meets.2) happenings
    (startUp chain) ⟨init_scanned config nonempty, ?_⟩ (follows_and careful inRange)
  · exact reached.1.losesNothing
  · change chain.length - 1 < chain.length ∧ 0 < chain.length
    omega

def sampleConfig : Config := ⟨100, 78705⟩

def sampleMessage : Sent := ⟨78705, 200, 100, 5, 0, .ethIn 4⟩

/-- The logs of the newest block. In the sample that is the block asked for. -/
def latestLogs : GetLogs := fun chain _ event => logsAt chain (chain.length - 1) event

/-- A block with one message, whose transaction was sent to the given address. -/
def sampleBlock (recipient : Address) : Block :=
  ⟨[some recipient], [.ethTransfer, .sendRemoteMessage sampleMessage]⟩

/-- That block is mined after start-up, and the next calls return. -/
def minedAndScanned (recipient : Address) (calls : Nat) : List Happening :=
  .mine (sampleBlock recipient) :: List.replicate calls .answer

def sampleEnd (getLogs : GetLogs) (happenings : List Happening) : World :=
  happenings.foldl (happen sampleConfig getLogs) (startUp [⟨[], []⟩])

theorem relayer_loses_nothing_sample :
    LosesNothing sampleConfig 1 (sampleEnd latestLogs (minedAndScanned 100 10)) ∧
      (sampleEnd latestLogs (minedAndScanned 100 10)).relayer.await = .getLatest ∧
      (sampleEnd latestLogs (minedAndScanned 100 10)).relayer.submitted = [sampleMessage] := by
  have careful : Follows (Careful sampleConfig) (happen sampleConfig latestLogs)
      (startUp [⟨[], []⟩]) (minedAndScanned 100 10) := by decide
  have inRange : Follows (InRange sampleConfig latestLogs) (happen sampleConfig latestLogs)
      (startUp [⟨[], []⟩]) (minedAndScanned 100 10) := by decide
  exact ⟨relayer_loses_nothing sampleConfig latestLogs [⟨[], []⟩] (by decide) _ careful inRange,
    by decide, by decide⟩

/-- The message of a transaction to another contract is skipped, and so is a message whose
block could not be fetched: `get_logs` is not asked about either. -/
theorem relayer_loses_message :
    ¬ LosesNothing sampleConfig 1 (sampleEnd latestLogs (minedAndScanned 7 3)) ∧
      ¬ LosesNothing sampleConfig 1
        (sampleEnd latestLogs (minedAndScanned 100 1 ++ [.failure])) := by
  have skipped : sampleEnd latestLogs (minedAndScanned 7 3) =
      ⟨[⟨[], []⟩, sampleBlock 7], ⟨1, .getLatest, []⟩⟩ := rfl
  have dropped : sampleEnd latestLogs (minedAndScanned 100 1 ++ [.failure]) =
      ⟨[⟨[], []⟩, sampleBlock 100], ⟨1, .getLatest, []⟩⟩ := rfl
  constructor
  · intro complete
    rw [skipped] at complete
    have submitted := complete rfl 1 (sampleBlock 7) sampleMessage (by decide) (by decide) rfl
      (by decide) rfl
    cases submitted
  · intro complete
    rw [dropped] at complete
    have submitted := complete rfl 1 (sampleBlock 100) sampleMessage (by decide) (by decide) rfl
      (by decide) rfl
    cases submitted

end Relayer
