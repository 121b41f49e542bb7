import BlazCtf.Admin.Stack

set_option autoImplicit false

namespace Admin

open Evm
open Function (update)

/-- Admin calls made one after another, the newest first, each on the node that
the one before it has left. -/
inductive History (start : Node) : List AdminCall → Node → Prop
  | nil : History start [] start
  | cons {calls : List AdminCall} (made : AdminCall) (gas : Nat)
      (earlier : History start calls made.before)
      (ran : made.after = (adminFuncRun made.before made.input gas made.context).1) :
      History start (made :: calls) made.after

theorem History.append {start middle final : Node} {older newer : List AdminCall}
    (first : History start older middle) (second : History middle newer final) :
    History start (newer ++ older) final := by
  induction second with
  | nil => exact first
  | cons made gas _ ran ih => exact .cons made gas ih ran

/-- The executions that enough signatures approve. -/
def Execution.Approved (env : Env) (made : Execution) : Prop :=
  2 ≤ env.approvals made.owners made.target made.data made.signatures

/-- An execution by the contract, on the slots it was deployed with. -/
def Execution.Reads (world : World) (made : Execution) : Prop :=
  world.code made.contract = .gov → made.owners = world.slots made.contract

/-- What any part of a transaction does: the world extends, and the node and the
records change by new admin calls and executions. If the part started on a proper
call stack, the admin calls are lawful and the contract's slots are kept. -/
structure Progress (env : Env) (chained : Prop) (state after : State) : Prop where
  extended : Extends state.world after.world
  kept : chained → Kept state.world after.world
  calls : ∃ made, after.adminCalls = made ++ state.adminCalls ∧
    History state.node made after.node ∧ (chained → ∀ call ∈ made, Lawful env call)
  executions : ∃ made, after.executions = made ++ state.executions ∧
    (∀ execution ∈ made, execution.Approved env) ∧
    (chained → ∀ execution ∈ made, execution.Reads state.world)

section Progress

variable {env : Env} {chained later : Prop} {state middle after : State}

theorem Progress.of_world {world : World} (extended : Extends state.world world)
    (kept : chained → Kept state.world world) :
    Progress env chained state { state with world } where
  extended := extended
  kept := kept
  calls := ⟨[], rfl, .nil, fun _ _ member => absurd member List.not_mem_nil⟩
  executions := ⟨[], rfl, fun _ member => absurd member List.not_mem_nil,
    fun _ _ member => absurd member List.not_mem_nil⟩

theorem Progress.refl : Progress env chained state state :=
  Progress.of_world (Extends.refl state.world) (fun _ => Kept.refl state.world)

/-- The contract stays where it is. -/
theorem Extends.gov {world extension : World} {address : Address}
    (extended : Extends world extension) (code : world.code address = .gov) :
    extension.code address = .gov := by
  have occupied : Occupied world address := by
    apply Or.inl
    rw [code]
    simp
  rw [(extended address occupied).1, code]

theorem Kept.trans {world extension last : World} (extended : Extends world extension)
    (one : Kept world extension) (two : Kept extension last) : Kept world last := by
  intro address code
  obtain ⟨sameOne, aliveOne⟩ := one address code
  obtain ⟨sameTwo, aliveTwo⟩ := two address (extended.gov code)
  exact ⟨sameTwo.trans sameOne, fun gone => aliveOne (aliveTwo gone)⟩

theorem Progress.trans (first : Progress env chained state middle)
    (second : Progress env later middle after) (link : chained → later) :
    Progress env chained state after := by
  obtain ⟨olderCalls, joinedCalls, olderHistory, olderLawful⟩ := first.calls
  obtain ⟨newerCalls, grownCalls, newerHistory, newerLawful⟩ := second.calls
  obtain ⟨olderRuns, joinedRuns, olderApproved, olderReads⟩ := first.executions
  obtain ⟨newerRuns, grownRuns, newerApproved, newerReads⟩ := second.executions
  refine ⟨first.extended.trans second.extended, ?_, ⟨newerCalls ++ olderCalls, ?_,
    olderHistory.append newerHistory, ?_⟩, ⟨newerRuns ++ olderRuns, ?_, ?_, ?_⟩⟩
  · intro proper
    exact Kept.trans first.extended (first.kept proper) (second.kept (link proper))
  · rw [grownCalls, joinedCalls, List.append_assoc]
  · intro proper call member
    rcases List.mem_append.mp member with newer | older
    · exact newerLawful (link proper) call newer
    · exact olderLawful proper call older
  · rw [grownRuns, joinedRuns, List.append_assoc]
  · intro execution member
    rcases List.mem_append.mp member with newer | older
    · exact newerApproved execution newer
    · exact olderApproved execution older
  · intro proper execution member code
    rcases List.mem_append.mp member with newer | older
    · rw [newerReads (link proper) execution newer (first.extended.gov code)]
      exact (first.kept proper execution.contract code).1
    · exact olderReads proper execution older code

/-- Reverting the journal keeps what happened to the node. -/
theorem Progress.revert (progress : Progress env chained state after) :
    Progress env chained state { after with world := state.world } :=
  ⟨Extends.refl _, fun _ => Kept.refl _, progress.calls, progress.executions⟩

theorem Progress.settle {ended : State × Exit} (progress : Progress env chained state ended.1) :
    Progress env chained state (settle state.world ended).1 := by
  obtain ⟨after, exit⟩ := ended
  cases exit with
  | ok => exact progress
  | revert => exact progress.revert
  | abort => exact progress.revert

end Progress

/-- The stack a call is made from, with the call itself. -/
def Stacked (env : Env) (world : World) (callers : List Frame) (context : CallContext)
    (input : List UInt8) : Prop :=
  Chain env world callers ∧
    ∃ parent rest, callers = parent :: rest ∧ Made env parent context input

theorem runAdmin_progress (env : Env) (callers : List Frame) (state : State) (context : CallContext)
    (input : List UInt8) (gas : Nat) :
    Progress env (Stacked env state.world callers context input) state
      (runAdmin callers state context input gas).1 := by
  have step : Progress env (Stacked env state.world callers context input) state
      { state with
        node := (adminFuncRun state.node input gas context).1
        adminCalls := ⟨state.node, (adminFuncRun state.node input gas context).1, context, input,
          callers, state.world.code state.node.multisig, state.world.slots state.node.multisig⟩ ::
            state.adminCalls } := by
    refine ⟨Extends.refl _, fun _ => Kept.refl _, ⟨[_], rfl, .cons _ gas .nil rfl, ?_⟩,
      ⟨[], rfl, fun _ member => absurd member List.not_mem_nil,
        fun _ _ member => absurd member List.not_mem_nil⟩⟩
    intro stacked call member
    rw [List.mem_singleton.mp member]
    exact lawful_of_chain stacked.1 stacked.2
  exact step

/-- What the functions below assume of the way a frame makes its calls. -/
def Progresses (env : Env) (call : Caller) : Prop :=
  ∀ callers state context isStatic input gas script,
    Progress env (Stacked env state.world callers context input) state
      (call callers state context isStatic input gas script).1

section Contract

variable {env : Env} {call : Caller} {callers : List Frame} {frame : Frame} {state : State}

/-- Whatever its result, the call of the precompile has happened. -/
theorem staticcallAdmin_state (call : Caller) (callers : List Frame) (frame : Frame) (state : State)
    (gasLeft : Nat) (input : List UInt8) :
    (staticcallAdmin call callers frame state gasLeft input).1 =
      (call (frame :: callers) state (callContext frame .staticCall admin 0) true input
        (min (gasLeft - gasLeft / 64) 2000) (.code [] true)).1 := by
  unfold staticcallAdmin
  split
  · rename_i ended
    rw [ended]
  · rename_i ended
    rw [ended]

theorem staticcallAdmin_progress (calls : Progresses env call) {govCall : GovCall} {owners : Owners}
    (running : frame.running = .gov govCall owners)
    (other : ∀ target data signatures, govCall ≠ .execTransaction target data signatures)
    (itself : frame.context.caller = frame.context.address) (gasLeft : Nat) (input : List UInt8) :
    Progress env (Chain env state.world (frame :: callers)) state
      (staticcallAdmin call callers frame state gasLeft input).1 := by
  have made : Made env frame (callContext frame .staticCall admin 0) input := by
    unfold Made
    rw [running]
    cases govCall with
    | execTransaction target data signatures => exact absurd rfl (other target data signatures)
    | emergencyStop => exact ⟨rfl, itself⟩
    | reloadConfig kind config => exact ⟨rfl, itself⟩
  have inner := calls (frame :: callers) state (callContext frame .staticCall admin 0) true input
    (min (gasLeft - gasLeft / 64) 2000) (.code [] true)
  have called := Progress.refl.trans inner
    (fun chain : Chain env state.world (frame :: callers) => ⟨chain, frame, callers, rfl, made⟩)
  rw [staticcallAdmin_state]
  exact called

theorem emergencyStop_progress (calls : Progresses env call) {owners : Owners}
    (running : frame.running = .gov .emergencyStop owners) (gasLeft : Nat) :
    Progress env (Chain env state.world (frame :: callers)) state
      (emergencyStop call callers frame state gasLeft).1 := by
  unfold emergencyStop
  split
  · exact Progress.refl
  · rename_i itself
    exact staticcallAdmin_progress calls running (fun _ _ _ same => nomatch same)
      (Decidable.not_not.mp itself) gasLeft _

theorem reloadConfig_progress (calls : Progresses env call) {owners : Owners} {kind : Nat}
    {data : List UInt8} (running : frame.running = .gov (.reloadConfig kind data) owners)
    (gasLeft : Nat) :
    Progress env (Chain env state.world (frame :: callers)) state
      (reloadConfig call callers frame state gasLeft kind data).1 := by
  unfold reloadConfig
  split
  · exact Progress.refl
  · rename_i itself
    split
    · exact Progress.refl
    · exact Progress.refl
    · exact staticcallAdmin_progress calls running (fun _ _ _ same => nomatch same)
        (Decidable.not_not.mp itself) gasLeft _

theorem execTransaction_progress (calls : Progresses env call) {owners : Owners} {target : Address}
    {data : List UInt8} {signatures : Signatures}
    (running : frame.running = .gov (.execTransaction target data signatures) owners)
    (reads : owners = state.world.slots frame.context.address) (gasLeft : Nat) (callee : Script) :
    Progress env (Chain env state.world (frame :: callers)) state
      (execTransaction env call callers frame state owners target data signatures gasLeft
        callee).1 := by
  unfold execTransaction
  split
  · exact Progress.refl
  · rename_i enough
    have approved : 2 ≤ env.approvals owners target data signatures := Nat.not_lt.mp enough
    have made : Made env frame (callContext frame .call target 0) data := by
      unfold Made
      rw [running]
      exact ⟨rfl, rfl, approved⟩
    have recorded : Progress env (Chain env state.world (frame :: callers)) state
        { state with executions :=
            ⟨frame.context.address, owners, target, data, signatures⟩ :: state.executions } := by
      refine ⟨Extends.refl _, fun _ => Kept.refl _,
        ⟨[], rfl, .nil, fun _ _ member => absurd member List.not_mem_nil⟩, ⟨[_], rfl, ?_, ?_⟩⟩
      · intro execution member
        rw [List.mem_singleton.mp member]
        exact approved
      · intro _ execution member _
        rw [List.mem_singleton.mp member]
        exact reads
    exact recorded.trans (calls (frame :: callers) _ _ _ _ _ _)
      (fun chain => ⟨chain, frame, callers, rfl, made⟩)

theorem runFunction_progress (calls : Progresses env call) {govCall : GovCall} {owners : Owners}
    (running : frame.running = .gov govCall owners)
    (reads : owners = state.world.slots frame.context.address) (gasLeft : Nat) (callee : Script) :
    Progress env (Chain env state.world (frame :: callers)) state
      (runFunction env call callers frame state owners gasLeft callee govCall).1 := by
  cases govCall with
  | execTransaction target data signatures =>
      exact execTransaction_progress calls running reads gasLeft callee
  | emergencyStop => exact emergencyStop_progress calls running gasLeft
  | reloadConfig kind data => exact reloadConfig_progress calls running gasLeft

/-- A frame that gets to its function and was sent no value leaves what that leaves. -/
theorem runGov_state (owners : Owners) (gasLeft : Nat) (callee : Script) (finishes : Bool)
    (govCall : GovCall) (unpaid : frame.context.apparentValue = 0) :
    (runGov env call callers frame state govCall owners
      (.gov true gasLeft callee finishes)).1 =
      (runFunction env call callers frame state owners gasLeft callee govCall).1 := by
  simp only [runGov, unpaid, ne_eq, not_true_eq_false, ↓reduceIte]
  split
  · rename_i ended
    rw [ended]
  · rfl

theorem runGov_progress (calls : Progresses env call) {govCall : GovCall} {owners : Owners}
    (running : frame.running = .gov govCall owners)
    (reads : owners = state.world.slots frame.context.address) (script : Script) :
    Progress env (Chain env state.world (frame :: callers)) state
      (runGov env call callers frame state govCall owners script).1 := by
  cases script with
  | code moves returns => exact Progress.refl
  | gov reaches gasLeft callee finishes =>
      cases reaches with
      | false => exact Progress.refl
      | true =>
          have body : Progress env (Chain env state.world (frame :: callers)) state
              (runFunction env call callers frame state owners gasLeft callee govCall).1 :=
            runFunction_progress calls running reads gasLeft callee
          by_cases unpaid : frame.context.apparentValue = 0
          · rw [runGov_state owners gasLeft callee finishes govCall unpaid]
            exact body
          · rw [runGov, if_pos unpaid]
            exact Progress.refl

end Contract

section Moves

variable {env : Env} {call : Caller} {runInit : List Frame → Frame → State → Script → State × Exit}
variable {callers : List Frame} {frame : Frame} {state : State}

/-- Initialisation code progresses from its own stack. -/
def Initialises (env : Env) (runInit : List Frame → Frame → State → Script → State × Exit) : Prop :=
  ∀ callers frame state script, frame.running = .other →
    Progress env (Chain env state.world (frame :: callers)) state
      (runInit callers frame state script).1

/-- A prepared account is occupied, and no other address changes. -/
theorem createAccount_occupied (world : World) (address : Address) :
    Occupied (world.createAccount address) address := by
  apply Or.inr
  simp only [World.createAccount, Function.update_self]
  omega

theorem Extends.createAccount (world : World) (address : Address) :
    Extends world (world.createAccount address) := by
  intro other occupied
  refine ⟨rfl, ?_⟩
  by_cases same : other = address
  · subst same
    exact createAccount_occupied world other
  · rcases occupied with code | nonce
    · exact Or.inl code
    · apply Or.inr
      simpa only [World.createAccount, Function.update_of_ne same] using nonce

theorem Kept.createAccount {world : World} {address : Address}
    (vacant : world.code address = .empty) : Kept world (world.createAccount address) := by
  intro other code
  refine ⟨?_, id⟩
  have distinct : other ≠ address := by
    rintro rfl
    rw [vacant] at code
    cases code
  simp only [World.createAccount, Function.update_of_ne distinct]

/-- The code of a new account was not there before. -/
theorem Extends.setCode {world after : World} {address : Address} {code : Code}
    (extended : Extends world after) (unused : ¬ Occupied world address) :
    Extends world (after.setCode address code) := by
  intro other occupied
  have distinct : other ≠ address := by
    rintro rfl
    exact unused occupied
  obtain ⟨same, still⟩ := extended other occupied
  simp only [World.setCode, Occupied, Function.update_of_ne distinct]
  exact ⟨same, still⟩

/-- Initialisation code runs on top of the frame that creates the account. -/
theorem chain_create {world : World} {address : Address} (running : frame.running = .other)
    (vacant : world.code address = .empty) (plain : isPrecompile address = false)
    (chain : Chain env world (frame :: callers)) :
    Chain env (world.createAccount address) (initFrame frame address :: frame :: callers) := by
  refine .call _ (chain.extend (Extends.createAccount world address) (Kept.createAccount vacant)) ?_
    ⟨createAccount_occupied world address, ?_, nofun⟩ ?_
  · unfold Made
    rw [running]
    exact ⟨.call, address, 0, rfl⟩
  · intro governed
    have code : world.code address = .gov := governed
    rw [vacant] at code
    cases code
  · rintro native
    have same : address = admin := native
    rw [same] at plain
    cases plain

theorem runCreate_progress (inits : Initialises env runInit) (running : frame.running = .other)
    (address : Address) (init : Script) (deployed : Code) :
    Progress env (Chain env (state.world.incNonce frame.context.address) (frame :: callers)) state
      (runCreate callers frame runInit state address init deployed).1 := by
  have raised : Progress env
      (Chain env (state.world.incNonce frame.context.address) (frame :: callers)) state
      { state with world := state.world.incNonce frame.context.address } :=
    Progress.of_world (Extends.incNonce _ _) (fun _ _ _ => ⟨rfl, id⟩)
  simp only [runCreate]
  split
  · exact raised
  · rename_i vacant
    simp only [not_or, Decidable.not_not, Bool.not_eq_true] at vacant
    obtain ⟨empty, fresh, plain⟩ := vacant
    have ran := inits (frame :: callers) (initFrame frame address)
      { state with
        world := (state.world.incNonce frame.context.address).createAccount address } init rfl
    have prepared : Progress env
        (Chain env (state.world.incNonce frame.context.address) (frame :: callers))
        { state with world := state.world.incNonce frame.context.address }
        { state with
          world := (state.world.incNonce frame.context.address).createAccount address } :=
      Progress.of_world (Extends.createAccount (state.world.incNonce frame.context.address) address)
        (fun _ => Kept.createAccount empty)
    have whole := prepared.trans ran (fun chain => chain_create running empty plain chain)
    have settled := whole.settle
    split
    · rename_i after ended
      rw [ended] at settled
      have unused : ¬ Occupied (state.world.incNonce frame.context.address) address := by
        rintro (code | nonce)
        · exact code empty
        · exact nonce fresh
      exact raised.trans
        ⟨settled.extended.setCode unused, settled.kept, settled.calls, settled.executions⟩
        (fun chain => chain)
    · rename_i after ended
      rw [ended] at settled
      exact raised.trans settled (fun chain => chain)
    · rename_i after ended
      rw [ended] at settled
      exact raised.trans settled (fun chain => chain)

theorem runMove_progress (calls : Progresses env call) (inits : Initialises env runInit)
    (running : frame.running = .other) (move : Move) :
    Progress env (Chain env state.world (frame :: callers)) state
      (runMove call callers frame runInit state move).1 := by
  cases move with
  | call scheme target value input gas entered callee =>
      simp only [runMove]
      split
      · exact Progress.refl
      · split
        · exact Progress.refl
        · have made : Made env frame (callContext frame scheme target value) input := by
            unfold Made
            rw [running]
            exact ⟨scheme, target, value, rfl⟩
          have inner := calls (frame :: callers) state (callContext frame scheme target value)
            (frame.isStatic || decide (scheme = .staticCall)) input gas callee
          have called := Progress.refl.trans inner
            (fun chain : Chain env state.world (frame :: callers) =>
              ⟨chain, frame, callers, rfl, made⟩)
          split
          · rename_i ended
            rw [ended] at called
            exact called
          · rename_i ended
            rw [ended] at called
            exact called
  | create address entered init deployed =>
      simp only [runMove]
      split
      · exact Progress.refl
      · split
        · exact Progress.refl
        · exact Progress.refl.trans (runCreate_progress inits running address init deployed)
            (fun chain => chain.extend (Extends.incNonce _ _) (fun _ _ => ⟨rfl, id⟩))
  | setSlots owners =>
      simp only [runMove]
      split
      · exact Progress.refl
      · refine Progress.of_world (fun _ occupied => ⟨rfl, occupied⟩) ?_
        intro chain address code
        have distinct : address ≠ frame.context.address := by
          rintro rfl
          exact chain.grounded.governed code running
        refine ⟨?_, id⟩
        simp only [Function.update_of_ne distinct]
  | selfdestruct =>
      simp only [runMove]
      split
      · exact Progress.refl
      · refine Progress.of_world (fun _ occupied => ⟨rfl, occupied⟩) ?_
        intro chain address code
        refine ⟨rfl, ?_⟩
        intro gone
        rcases List.mem_cons.mp gone with rfl | earlier
        · exact absurd running (chain.grounded.governed code)
        · exact earlier

theorem runMoves_progress (calls : Progresses env call) (inits : Initialises env runInit)
    (running : frame.running = .other) (returns : Bool) (moves : List Move) :
    Progress env (Chain env state.world (frame :: callers)) state
      (runMoves call callers frame runInit returns state moves).1 := by
  induction moves generalizing state with
  | nil => exact Progress.refl
  | cons move rest ih =>
      have step : Progress env (Chain env state.world (frame :: callers)) state
          (runMove call callers frame runInit state move).1 :=
        runMove_progress calls inits running move
      simp only [runMoves]
      split
      · rename_i after ended
        rw [ended] at step
        exact step.trans ih (fun chain => chain.extend step.extended (step.kept chain))
      · rename_i after exit ended
        rw [ended] at step
        exact step

theorem runOther_progress (calls : Progresses env call) (inits : Initialises env runInit)
    (running : frame.running = .other) (script : Script) :
    Progress env (Chain env state.world (frame :: callers)) state
      (runOther call runInit callers frame state script).1 := by
  cases script with
  | gov reaches gasLeft callee finishes => exact Progress.refl
  | code moves returns => exact runMoves_progress calls inits running returns moves

end Moves

/-- A frame that runs the code of the account it is called at. -/
theorem chain_call {env : Env} {state : State} {callers : List Frame} {context : CallContext}
    {isStatic : Bool} {input : List UInt8} {running : Running}
    (stacked : Stacked env state.world callers context input)
    (interpreted : context.codeAddress ≠ admin)
    (occupied : state.world.code context.codeAddress ≠ .empty)
    (runs : state.world.code context.codeAddress = .gov → running ≠ .other)
    (reads : ∀ call owners, running = .gov call owners →
      owners = state.world.slots context.address) :
    Chain env state.world (⟨context, input, isStatic, running⟩ :: callers) := by
  obtain ⟨chain, parent, rest, rfl, made⟩ := stacked
  refine .call _ chain made ?_ interpreted
  have ground := chain.grounded
  -- CALLCODE and DELEGATECALL run at the address of a caller that runs other code.
  have borrowed : context.address = parent.context.address → parent.running = .other →
      Grounded state.world ⟨context, input, isStatic, running⟩ := by
    intro home other
    refine ⟨?_, ?_, fun call owners _ => reads call owners⟩
    · rw [home]
      exact ground.occupied
    · intro governed
      rw [home] at governed
      exact absurd other (ground.governed governed)
  have owned : context.address = context.codeAddress →
      Grounded state.world ⟨context, input, isStatic, running⟩ := by
    intro home
    refine ⟨Or.inl ?_, ?_, fun call owners _ => reads call owners⟩
    · rw [home]
      exact occupied
    · intro governed
      rw [home] at governed
      exact runs governed
  unfold Made at made
  split at made
  · rename_i other
    obtain ⟨scheme, target, value, rfl⟩ := made
    cases scheme with
    | call => exact owned rfl
    | staticCall => exact owned rfl
    | callCode => exact borrowed rfl other
    | delegateCall => exact borrowed rfl other
  · obtain ⟨rfl, _⟩ := made
    exact owned rfl
  · obtain ⟨rfl, _⟩ := made
    exact owned rfl

/-- Every call and every initialisation makes progress, at any depth. -/
theorem evm_progress (env : Env) (depth : Nat) :
    Progresses env (evm env depth).1 ∧ Initialises env (evm env depth).2 := by
  induction depth with
  | zero => exact ⟨fun _ _ _ _ _ _ _ => Progress.refl, fun _ _ _ _ _ => Progress.refl⟩
  | succ depth ih =>
      obtain ⟨calls, inits⟩ := ih
      constructor
      · intro callers state context isStatic input gas script
        simp only [evm]
        split
        · exact (runAdmin_progress env callers state context input gas).settle
        · rename_i interpreted
          split
          · exact Progress.refl
          · split
            · exact Progress.refl
            · rename_i code
              split
              · exact Progress.refl
              · rename_i govCall _
                refine (Progress.refl.trans (runGov_progress calls rfl rfl script) ?_).settle
                intro stacked
                exact chain_call stacked interpreted (by simp [code]) (by simp) (by simp)
            · rename_i code
              refine (Progress.refl.trans (runOther_progress calls inits rfl script) ?_).settle
              intro stacked
              exact chain_call stacked interpreted (by simp [code]) (by simp [code]) (by simp)
      · intro callers frame state script running
        exact runOther_progress calls inits running script

end Admin
