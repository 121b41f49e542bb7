import BlazCtf.Relayer.Machine

set_option autoImplicit false

namespace Relayer

open Bridge (Sent)
open Evm (Address)

variable {config : Config} {getLogs : GetLogs} {kept : Nat} {chain : List Block} {r : State}

/-- The message of a log that is addressed to the destination chain. -/
def Log.message (config : Config) : Log → Option Sent
  | .sendRemoteMessage args => if config.dstChainId = args.targetChainId then some args else none
  | _ => none

def messagesOf (config : Config) (logs : List Log) : List Sent :=
  logs.filterMap (Log.message config)

/-- The messages for the destination in one block of a chain. -/
def messagesAt (config : Config) (chain : List Block) (number : Nat) : List Sent :=
  match chain[number]? with
  | some block => messagesOf config block.logs
  | none => []

theorem messagesAt_of_block {number : Nat} {block : Block} (present : chain[number]? = some block) :
    messagesAt config chain number = messagesOf config block.logs := by
  rw [messagesAt, present]

theorem messagesAt_of_none {number : Nat} (missing : chain[number]? = none) :
    messagesAt config chain number = [] := by
  rw [messagesAt, missing]

theorem messagesAt_append_self (block : Block) :
    messagesAt config (chain ++ [block]) chain.length = messagesOf config block.logs := by
  rw [messagesAt, List.getElem?_concat_length]

/-- A new block changes the messages of its own number only. -/
theorem messagesAt_append_of_ne {block : Block} {number : Nat} (other : number ≠ chain.length) :
    messagesAt config (chain ++ [block]) number = messagesAt config chain number := by
  unfold messagesAt
  rcases Nat.lt_or_gt_of_ne other with before | beyond
  · rw [List.getElem?_append_left before]
  · rw [List.getElem?_eq_none (by simp; omega), List.getElem?_eq_none (by omega)]

theorem getElem?_append_one {block found : Block} {number : Nat}
    (present : (chain ++ [block])[number]? = some found) :
    chain[number]? = some found ∨ found = block := by
  rw [List.getElem?_append] at present
  split at present
  · exact .inl present
  · exact .inr (by simpa using List.mem_of_getElem? present)

/-- All messages for the destination in a chain. -/
def history (config : Config) (chain : List Block) : List Sent :=
  chain.flatMap fun block => messagesOf config block.logs

theorem mem_history {message : Sent} {number : Nat}
    (emitted : message ∈ messagesAt config chain number) : message ∈ history config chain := by
  unfold messagesAt at emitted
  split at emitted
  · rename_i block present
    exact List.mem_flatMap.mpr ⟨block, List.mem_of_getElem? present, emitted⟩
  · cases emitted

theorem history_append (block : Block) :
    history config (chain ++ [block]) = history config chain ++ messagesOf config block.logs := by
  simp [history]

/-- Asking for `SendRemoteMessage` returns all messages, any other event none. -/
theorem messagesOf_filter (logs : List Log) (event : Event) :
    messagesOf config (logs.filter (·.event = event)) =
      if event = .sendRemoteMessage then messagesOf config logs else [] := by
  rw [messagesOf, List.filterMap_filter]
  split
  · rename_i asked
    subst asked
    congr 1
    funext log
    cases log <;> rfl
  · rename_i other
    rw [List.filterMap_eq_nil_iff]
    intro log _
    cases log with
    | sendRemoteMessage args => simp [Log.event, Ne.symm other]
    | _ => exact ite_self none

/-- The logs of one event in one block of a chain. -/
def logsAt (chain : List Block) (number : Nat) (event : Event) : List Log :=
  match chain[number]? with
  | some block => block.logs.filter (·.event = event)
  | none => []

theorem messagesOf_logsAt (number : Nat) (event : Event) :
    messagesOf config (logsAt chain number event) =
      if event = .sendRemoteMessage then messagesAt config chain number else [] := by
  unfold logsAt messagesAt
  cases chain[number]? with
  | some block => exact messagesOf_filter block.logs event
  | none => exact (ite_self []).symm

/-- `run` relies on `get_logs` to answer with the messages of the block it asks for. -/
def Ranged (config : Config) (getLogs : GetLogs) (chain : List Block) (r : State) : Prop :=
  match r.await with
  | .getLogs number _ event _ =>
      messagesOf config (getLogs chain number event) = messagesOf config (logsAt chain number event)
  | _ => True

instance (config : Config) (getLogs : GetLogs) (chain : List Block) (r : State) :
    Decidable (Ranged config getLogs chain r) :=
  match waits : r.await with
  | .getLogs number _ event _ => decidable_of_iff
      (messagesOf config (getLogs chain number event) =
        messagesOf config (logsAt chain number event)) (by simp only [Ranged, waits])
  | .getLatest | .getBlock _ _ | .getTransaction _ _ _ _ | .transact _ _ _ _ _
  | .receipt _ _ _ _ => isTrue (by simp only [Ranged, waits])

/-- A block that the filter on transactions lets through if it has messages. -/
def Block.Direct (config : Config) (block : Block) : Prop :=
  messagesOf config block.logs ≠ [] → some config.srcContract ∈ block.transactions

instance (config : Config) (block : Block) : Decidable (block.Direct config) :=
  inferInstanceAs (Decidable (_ → _))

/-- The numbers and messages behind the relayer: `kept` blocks of the chain are
older than the relayer, and it has submitted what the others up to the last have. -/
structure Behind (config : Config) (kept : Nat) (chain : List Block) (last : Nat)
    (submitted : List Sent) : Prop where
  nonempty : 0 < chain.length
  early : kept ≤ chain.length
  begun : kept ≤ last + 1
  direct : ∀ number block, kept ≤ number → chain[number]? = some block → block.Direct config
  complete : ∀ number, kept ≤ number → number < last →
    ∀ message ∈ messagesAt config chain number, message ∈ submitted

/-- What is left to do in the block that `run` is in. -/
def Inside (config : Config) (kept : Nat) (chain : List Block) (r : State) : Prop :=
  let messages := messagesAt config chain r.lastProcessed
  match r.await with
  | .getLatest => kept ≤ r.lastProcessed → ∀ message ∈ messages, message ∈ r.submitted
  | .getBlock number _ => number = r.lastProcessed ∧ kept ≤ r.lastProcessed
  | .getTransaction number _ recipient rest => number = r.lastProcessed ∧ kept ≤ r.lastProcessed ∧
      (messages ≠ [] → some config.srcContract ∈ recipient :: rest)
  | .getLogs number _ event rest => number = r.lastProcessed ∧ kept ≤ r.lastProcessed ∧
      ∀ message ∈ messages, message ∈ r.submitted ∨ .sendRemoteMessage ∈ event :: rest
  | .transact number _ rest args logs => number = r.lastProcessed ∧ kept ≤ r.lastProcessed ∧
      args ∈ messages ∧ messagesOf config logs ⊆ messages ∧
      ∀ message ∈ messages, message ∈ r.submitted ∨ message ∈ args :: messagesOf config logs ∨
        .sendRemoteMessage ∈ rest
  | .receipt number _ rest logs => number = r.lastProcessed ∧ kept ≤ r.lastProcessed ∧
      messagesOf config logs ⊆ messages ∧
      ∀ message ∈ messages, message ∈ r.submitted ∨ message ∈ messagesOf config logs ∨
        .sendRemoteMessage ∈ rest

structure Scanned (config : Config) (kept : Nat) (chain : List Block) (r : State) : Prop where
  behind : Behind config kept chain r.lastProcessed r.submitted
  inside : Inside config kept chain r

section Loops

variable {latest : Nat}

theorem nextBlock_scanned (behind : Behind config kept chain r.lastProcessed r.submitted)
    (finished : kept ≤ r.lastProcessed →
      ∀ message ∈ messagesAt config chain r.lastProcessed, message ∈ r.submitted) :
    Scanned config kept chain (nextBlock r (r.lastProcessed + 1) latest) := by
  unfold nextBlock
  split
  · refine ⟨⟨behind.nonempty, behind.early, ?_, behind.direct, ?_⟩, rfl, behind.begun⟩
    · exact Nat.le_succ_of_le behind.begun
    · intro number later earlier
      rcases Nat.lt_succ_iff_lt_or_eq.mp earlier with before | rfl
      · exact behind.complete number later before
      · exact finished later
  · exact ⟨behind, finished⟩

theorem nextEvent_scanned (behind : Behind config kept chain r.lastProcessed r.submitted)
    (started : kept ≤ r.lastProcessed) {rest : List Event}
    (left : ∀ message ∈ messagesAt config chain r.lastProcessed,
      message ∈ r.submitted ∨ .sendRemoteMessage ∈ rest) :
    Scanned config kept chain (nextEvent r r.lastProcessed latest rest) := by
  cases rest with
  | nil =>
      refine nextBlock_scanned behind fun _ message member => ?_
      exact (left message member).resolve_right (List.not_mem_nil)
  | cons event rest => exact ⟨behind, rfl, started, left⟩

theorem nextLog_scanned (behind : Behind config kept chain r.lastProcessed r.submitted)
    (started : kept ≤ r.lastProcessed) {rest : List Event} {logs : List Log}
    (part : messagesOf config logs ⊆ messagesAt config chain r.lastProcessed)
    (left : ∀ message ∈ messagesAt config chain r.lastProcessed,
      message ∈ r.submitted ∨ message ∈ messagesOf config logs ∨ .sendRemoteMessage ∈ rest) :
    Scanned config kept chain (nextLog config r r.lastProcessed latest rest logs) := by
  induction logs with
  | nil =>
      refine nextEvent_scanned behind started fun message member => ?_
      exact (left message member).imp_right (Or.resolve_left · (List.not_mem_nil))
  | cons log logs ih =>
      cases log with
      | sendRemoteMessage args =>
          simp only [nextLog]
          split
          · rename_i addressed
            have split : messagesOf config (.sendRemoteMessage args :: logs) =
                args :: messagesOf config logs := by
              simp [messagesOf, Log.message, addressed]
            rw [split] at part left
            obtain ⟨emitted, others⟩ := List.cons_subset.mp part
            exact ⟨behind, rfl, started, emitted, others, left⟩
          · rename_i elsewhere
            have same : messagesOf config (.sendRemoteMessage args :: logs) =
                messagesOf config logs := by
              simp [messagesOf, Log.message, elsewhere]
            rw [same] at part left
            exact ih part left
      | erc20Register => exact ih part left
      | erc20Transfer => exact ih part left
      | ethTransfer => exact ih part left
      | relayedMessage => exact ih part left

theorem nextTransaction_scanned (behind : Behind config kept chain r.lastProcessed r.submitted)
    (started : kept ≤ r.lastProcessed) {transactions : List (Option Address)}
    (left : messagesAt config chain r.lastProcessed ≠ [] →
      some config.srcContract ∈ transactions) :
    Scanned config kept chain (nextTransaction r r.lastProcessed latest transactions) := by
  cases transactions with
  | nil =>
      refine nextBlock_scanned behind fun _ message member => ?_
      exact absurd (left (List.ne_nil_of_mem member)) (List.not_mem_nil)
  | cons recipient rest => exact ⟨behind, rfl, started, left⟩

end Loops

/-- A block beyond the end of the chain has no messages. -/
theorem lt_length_of_mem {number : Nat} {message : Sent}
    (member : message ∈ messagesAt config chain number) : number < chain.length := by
  by_contra beyond
  rw [messagesAt_of_none (List.getElem?_eq_none (Nat.le_of_not_lt beyond))] at member
  cases member

/-- The reset to the latest block forgets nothing that is on the chain. -/
theorem Behind.reset (behind : Behind config kept chain r.lastProcessed r.submitted)
    (ahead : r.lastProcessed > chain.length - 1) :
    Behind config kept chain (chain.length - 1) r.submitted := by
  have present := behind.nonempty
  refine ⟨present, behind.early, ?_, behind.direct, ?_⟩
  · have early := behind.early
    omega
  · intro number later earlier
    exact behind.complete number later (by omega)

theorem getLatest_scanned (behind : Behind config kept chain r.lastProcessed r.submitted)
    (finished : kept ≤ r.lastProcessed →
      ∀ message ∈ messagesAt config chain r.lastProcessed, message ∈ r.submitted)
    (waits : r.await = .getLatest) :
    Scanned config kept chain (answered config getLogs chain r) := by
  simp only [answered, waits]
  split
  · rename_i ahead
    exact nextBlock_scanned (r := { r with lastProcessed := chain.length - 1 })
      (behind.reset ahead) (fun later => behind.complete _ later ahead)
  · exact nextBlock_scanned behind finished

/-- Whatever the relayer asks for, an answer keeps it in order. -/
theorem getLogs_scanned {number latest : Nat} {event : Event} {rest : List Event}
    (scanned : Scanned config kept chain r) (ranged : Ranged config getLogs chain r)
    (waits : r.await = .getLogs number latest event rest) :
    Scanned config kept chain (answered config getLogs chain r) := by
  obtain ⟨behind, inside⟩ := scanned
  unfold Inside at inside
  simp only [waits] at inside
  obtain ⟨rfl, started, left⟩ := inside
  simp only [Ranged, waits, messagesOf_logsAt] at ranged
  simp only [answered, waits]
  refine nextLog_scanned behind started ?_ ?_
  · rw [ranged]
    split
    · exact List.Subset.refl _
    · exact List.nil_subset _
  · intro message member
    rw [ranged]
    rcases left message member with done | ahead
    · exact .inl done
    · rcases List.mem_cons.mp ahead with rfl | later
      · rw [if_pos rfl]
        exact .inr (.inl member)
      · exact .inr (.inr later)

theorem transact_scanned {number latest : Nat} {rest : List Event} {args : Sent}
    {logs : List Log} (scanned : Scanned config kept chain r)
    (waits : r.await = .transact number latest rest args logs) :
    Scanned config kept chain (answered config getLogs chain r) := by
  obtain ⟨behind, inside⟩ := scanned
  unfold Inside at inside
  simp only [waits] at inside
  obtain ⟨rfl, started, emitted, part, left⟩ := inside
  simp only [answered, waits]
  refine ⟨⟨behind.nonempty, behind.early, behind.begun, behind.direct, ?_⟩, rfl, started,
    part, ?_⟩
  · intro number later earlier message member
    exact List.mem_cons_of_mem _ (behind.complete number later earlier message member)
  · intro message member
    rcases left message member with done | now | later
    · exact .inl (List.mem_cons_of_mem _ done)
    · rcases List.mem_cons.mp now with rfl | next
      · exact .inl List.mem_cons_self
      · exact .inr (.inl next)
    · exact .inr (.inr later)

theorem answered_scanned (scanned : Scanned config kept chain r)
    (ranged : Ranged config getLogs chain r) :
    Scanned config kept chain (answered config getLogs chain r) := by
  have whole := scanned
  obtain ⟨behind, inside⟩ := scanned
  unfold Inside at inside
  cases waits : r.await with
  | getLatest =>
      rw [waits] at inside
      exact getLatest_scanned behind inside waits
  | getBlock number latest =>
      simp only [waits] at inside
      obtain ⟨rfl, started⟩ := inside
      simp only [answered, waits]
      split
      · rename_i missing
        refine ⟨behind, fun _ message member => ?_⟩
        rw [messagesAt_of_none missing] at member
        cases member
      · rename_i block present
        refine nextTransaction_scanned behind started fun some => ?_
        rw [messagesAt_of_block present] at some
        exact behind.direct _ block started present some
  | getTransaction number latest recipient rest =>
      simp only [waits] at inside
      obtain ⟨rfl, started, left⟩ := inside
      simp only [answered, waits]
      split
      · exact nextEvent_scanned behind started fun _ _ => .inr (by decide)
      · rename_i other
        refine nextTransaction_scanned behind started fun some => ?_
        exact (List.mem_cons.mp (left some)).resolve_left (Ne.symm other)
  | getLogs number latest event rest => exact getLogs_scanned whole ranged waits
  | transact number latest rest args logs => exact transact_scanned whole waits
  | receipt number latest rest logs =>
      simp only [waits] at inside
      obtain ⟨rfl, started, part, left⟩ := inside
      simp only [answered, waits]
      exact nextLog_scanned behind started part left

/-- A call that can raise without harm: the relayer is not inside a block, or
the block has no messages, or the message was already submitted. -/
def Harmless (config : Config) (chain : List Block) (r : State) : Prop :=
  match r.await with
  | .getLatest | .receipt _ _ _ _ => True
  | _ => messagesAt config chain r.lastProcessed = []

instance (config : Config) (chain : List Block) (r : State) : Decidable (Harmless config chain r) :=
  match waits : r.await with
  | .getLatest => isTrue (by simp only [Harmless, waits])
  | .receipt _ _ _ _ => isTrue (by simp only [Harmless, waits])
  | .getBlock _ _ | .getTransaction _ _ _ _ | .getLogs _ _ _ _ | .transact _ _ _ _ _ =>
      decidable_of_iff (messagesAt config chain r.lastProcessed = [])
        (by simp only [Harmless, waits])

theorem raised_scanned (scanned : Scanned config kept chain r)
    (harmless : Harmless config chain r) : Scanned config kept chain (raised config r) := by
  obtain ⟨behind, inside⟩ := scanned
  unfold Inside at inside
  unfold Harmless at harmless
  have givenUp (empty : messagesAt config chain r.lastProcessed = []) :
      Scanned config kept chain { r with await := .getLatest } := by
    refine ⟨behind, fun _ message member => ?_⟩
    rw [empty] at member
    cases member
  cases waits : r.await with
  | getLatest =>
      simp only [waits] at inside
      simp only [raised, waits]
      exact ⟨behind, inside⟩
  | getBlock number latest =>
      simp only [waits] at harmless
      simp only [raised, waits]
      exact givenUp harmless
  | getTransaction number latest recipient rest =>
      simp only [waits] at harmless
      simp only [raised, waits]
      exact givenUp harmless
  | getLogs number latest event rest =>
      simp only [waits] at harmless
      simp only [raised, waits]
      exact givenUp harmless
  | transact number latest rest args logs =>
      simp only [waits] at inside harmless
      obtain ⟨_, _, emitted, _⟩ := inside
      rw [harmless] at emitted
      cases emitted
  | receipt number latest rest logs =>
      simp only [waits] at inside
      obtain ⟨rfl, started, part, left⟩ := inside
      simp only [raised, waits]
      exact nextLog_scanned behind started part left

/-- `run` has logs of the block it is in. -/
def HoldsLogs (r : State) : Prop :=
  match r.await with
  | .transact _ _ _ _ _ | .receipt _ _ _ _ => True
  | _ => False

instance (r : State) : Decidable (HoldsLogs r) :=
  match waits : r.await with
  | .transact _ _ _ _ _ => isTrue (by simp only [HoldsLogs, waits])
  | .receipt _ _ _ _ => isTrue (by simp only [HoldsLogs, waits])
  | .getLatest | .getBlock _ _ | .getTransaction _ _ _ _ | .getLogs _ _ _ _ =>
      isFalse (by simp only [HoldsLogs, waits, not_false_eq_true])

/-- The chain changes, but there are no new messages behind the relayer, and those
of a block whose logs it has stay. -/
theorem Scanned.changed (scanned : Scanned config kept chain r) {next : List Block} {left : Nat}
    (nonempty : 0 < next.length) (early : left ≤ next.length) (fewer : left ≤ kept)
    (direct : ∀ number block, left ≤ number → next[number]? = some block → block.Direct config)
    (old : ∀ number, kept ≤ number → number ≤ r.lastProcessed →
      messagesAt config next number ⊆ messagesAt config chain number)
    (held : HoldsLogs r → kept ≤ r.lastProcessed →
      messagesAt config next r.lastProcessed = messagesAt config chain r.lastProcessed)
    (fresh : ∀ number, left ≤ number → number < kept → number ≤ r.lastProcessed →
      messagesAt config next number = []) : Scanned config left next r := by
  obtain ⟨behind, inside⟩ := scanned
  constructor
  · refine ⟨nonempty, early, Nat.le_trans fewer behind.begun, direct, ?_⟩
    intro number later earlier message member
    by_cases started : kept ≤ number
    · exact behind.complete number started earlier message
        (old number started (Nat.le_of_lt earlier) member)
    · rw [fresh number later (Nat.lt_of_not_le started) (Nat.le_of_lt earlier)] at member
      cases member
  · unfold Inside at inside ⊢
    unfold HoldsLogs at held
    cases waits : r.await with
    | getLatest =>
        simp only [waits] at inside ⊢
        intro later message member
        by_cases started : kept ≤ r.lastProcessed
        · exact inside started message (old _ started (Nat.le_refl _) member)
        · rw [fresh _ later (Nat.lt_of_not_le started) (Nat.le_refl _)] at member
          cases member
    | getBlock number latest =>
        simp only [waits] at inside ⊢
        exact ⟨inside.1, Nat.le_trans fewer inside.2⟩
    | getTransaction number latest recipient rest =>
        simp only [waits] at inside ⊢
        obtain ⟨rfl, started, ahead⟩ := inside
        refine ⟨rfl, Nat.le_trans fewer started, fun some => ahead fun none => some ?_⟩
        have fewer := old _ started (Nat.le_refl _)
        rw [none] at fewer
        exact List.subset_nil.mp fewer
    | getLogs number latest event rest =>
        simp only [waits] at inside ⊢
        obtain ⟨rfl, started, ahead⟩ := inside
        exact ⟨rfl, Nat.le_trans fewer started,
          fun message member => ahead message (old _ started (Nat.le_refl _) member)⟩
    | transact number latest rest args logs =>
        simp only [waits] at inside held ⊢
        obtain ⟨rfl, started, ahead⟩ := inside
        rw [held trivial started]
        exact ⟨rfl, Nat.le_trans fewer started, ahead⟩
    | receipt number latest rest logs =>
        simp only [waits] at inside held ⊢
        obtain ⟨rfl, started, ahead⟩ := inside
        rw [held trivial started]
        exact ⟨rfl, Nat.le_trans fewer started, ahead⟩

/-- A new block behind the relayer has no messages. -/
theorem Scanned.append (scanned : Scanned config kept chain r) {block : Block}
    (direct : block.Direct config)
    (silent : chain.length ≤ r.lastProcessed → messagesOf config block.logs = []) :
    Scanned config kept (chain ++ [block]) r := by
  have longer : chain.length < (chain ++ [block]).length := by simp
  have same : ∀ number, number ≤ r.lastProcessed →
      messagesAt config (chain ++ [block]) number = messagesAt config chain number := by
    intro number earlier
    by_cases new : number = chain.length
    · subst new
      rw [messagesAt_append_self, silent earlier,
        messagesAt_of_none (List.getElem?_eq_none (Nat.le_refl _))]
    · exact messagesAt_append_of_ne new
  refine scanned.changed ?_ ?_ (Nat.le_refl _) ?_ ?_ (fun _ _ => same _ (Nat.le_refl _)) ?_
  · exact Nat.lt_of_le_of_lt (Nat.zero_le _) longer
  · exact Nat.le_trans scanned.behind.early (Nat.le_of_lt longer)
  · intro number found later present
    rcases getElem?_append_one present with old | rfl
    · exact scanned.behind.direct number found later old
    · exact direct
  · intro number _ earlier
    rw [same number earlier]
    exact List.Subset.refl _
  · intro number later before
    exact absurd later (Nat.not_le_of_lt before)

/-- A rollback leaves nothing to do in the blocks it drops, unless the relayer has
logs of one of them. -/
theorem Scanned.rollback (scanned : Scanned config kept chain r) {height : Nat}
    (held : HoldsLogs r → height < r.lastProcessed →
      messagesAt config chain r.lastProcessed = []) :
    Scanned config (min kept (height + 1)) (chain.take (height + 1)) r := by
  have missing : ∀ number, height < number → (chain.take (height + 1))[number]? = none := by
    intro number above
    rw [List.getElem?_take, if_neg (by omega)]
  have present := scanned.behind.nonempty
  have early := scanned.behind.early
  have length : (chain.take (height + 1)).length = min (height + 1) chain.length := List.length_take
  have stays : ∀ number, ¬ height < number →
      messagesAt config (chain.take (height + 1)) number = messagesAt config chain number := by
    intro number below
    rw [messagesAt, List.getElem?_take, if_pos (by omega), messagesAt]
  refine scanned.changed (by omega) (by omega) (Nat.min_le_left _ _) ?_ ?_ ?_ ?_
  · intro number block later found
    by_cases above : height < number
    · rw [missing number above] at found
      cases found
    · rw [List.getElem?_take, if_pos (by omega)] at found
      exact scanned.behind.direct number block (by omega) found
  · intro number later earlier
    by_cases above : height < number
    · rw [messagesAt_of_none (missing number above)]
      exact List.nil_subset _
    · rw [stays number above]
      exact List.Subset.refl _
  · intro holds later
    by_cases above : height < r.lastProcessed
    · rw [held holds above, messagesAt_of_none (missing _ above)]
    · exact stays _ above
  · intro number later before _
    exact messagesAt_of_none (missing number (by omega))

end Relayer
