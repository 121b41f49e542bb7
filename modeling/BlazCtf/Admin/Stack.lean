import BlazCtf.Admin.Evm

set_option autoImplicit false

namespace Admin

open Evm
open Function (update)

/-- An address at which `create_account` reports a collision. -/
def Occupied (world : World) (address : Address) : Prop :=
  world.code address ≠ .empty ∨ world.nonce address ≠ 0

/-- Within a transaction an occupied address stays occupied, by the same code. -/
def Extends (world after : World) : Prop :=
  ∀ address, Occupied world address →
    after.code address = world.code address ∧ Occupied after address

theorem Extends.refl (world : World) : Extends world world :=
  fun _ occupied => ⟨rfl, occupied⟩

theorem Extends.trans {first second third : World} (one : Extends first second)
    (two : Extends second third) : Extends first third := by
  intro address occupied
  obtain ⟨sameOne, still⟩ := one address occupied
  obtain ⟨sameTwo, stays⟩ := two address still
  exact ⟨sameTwo.trans sameOne, stays⟩

theorem incNonce_occupied (world : World) (address : Address) :
    Occupied (world.incNonce address) address := by
  apply Or.inr
  simp only [World.incNonce, Function.update_self]
  omega

theorem Extends.incNonce (world : World) (address : Address) :
    Extends world (world.incNonce address) := by
  intro other occupied
  refine ⟨rfl, ?_⟩
  by_cases same : other = address
  · subst same
    exact incNonce_occupied world other
  · rcases occupied with code | nonce
    · exact Or.inl code
    · apply Or.inr
      simpa only [World.incNonce, Function.update_of_ne same] using nonce

/-- The owner slots of the contract never change, and it does not destroy itself. -/
def Kept (world after : World) : Prop :=
  ∀ address, world.code address = .gov → after.slots address = world.slots address ∧
    (address ∈ after.destroyed → address ∈ world.destroyed)

theorem Kept.refl (world : World) : Kept world world :=
  fun _ _ => ⟨rfl, id⟩

/-- A call that a frame makes, and why it may make it. -/
def Made (env : Env) (parent : Frame) (context : CallContext) (input : List UInt8) : Prop :=
  match parent.running with
  | .other => ∃ scheme target value, context = callContext parent scheme target value
  | .gov (.execTransaction target data signatures) owners =>
      context = callContext parent .call target 0 ∧ input = data ∧
        2 ≤ env.approvals owners target data signatures
  | .gov _ _ =>
      context = callContext parent .staticCall admin 0 ∧
        parent.context.caller = parent.context.address

/-- A frame runs at an occupied address, and the contract's address runs only the
contract, on its owner slots. -/
structure Grounded (world : World) (frame : Frame) : Prop where
  occupied : Occupied world frame.context.address
  governed : world.code frame.context.address = .gov → frame.running ≠ .other
  reads : ∀ call owners, world.code frame.context.address = .gov →
    frame.running = .gov call owners → owners = world.slots frame.context.address

/-- The frames of a call stack, the innermost first, down to the sender. -/
inductive Chain (env : Env) (world : World) : List Frame → Prop
  | origin (frame : Frame) (sender : frame.running = .other) (grounded : Grounded world frame) :
      Chain env world [frame]
  | call {parent : Frame} {rest : List Frame} (frame : Frame)
      (below : Chain env world (parent :: rest))
      (made : Made env parent frame.context frame.input) (grounded : Grounded world frame)
      (interpreted : frame.context.codeAddress ≠ admin) :
      Chain env world (frame :: parent :: rest)

theorem Grounded.extend {world after : World} {frame : Frame} (grounded : Grounded world frame)
    (extended : Extends world after) (kept : Kept world after) : Grounded after frame := by
  obtain ⟨same, occupied⟩ := extended _ grounded.occupied
  refine ⟨occupied, ?_, ?_⟩
  · rw [same]
    exact grounded.governed
  · intro call owners code running
    rw [same] at code
    rw [(kept _ code).1]
    exact grounded.reads call owners code running

theorem Chain.extend {env : Env} {world after : World} {frames : List Frame}
    (chain : Chain env world frames) (extended : Extends world after) (kept : Kept world after) :
    Chain env after frames := by
  induction chain with
  | origin frame sender grounded => exact .origin frame sender (grounded.extend extended kept)
  | call frame _ made grounded interpreted ih =>
      exact .call frame ih made (grounded.extend extended kept) interpreted

theorem Chain.grounded {env : Env} {world : World} {frame : Frame} {rest : List Frame}
    (chain : Chain env world (frame :: rest)) : Grounded world frame := by
  cases chain with
  | origin _ _ grounded => exact grounded
  | call _ _ _ grounded _ => exact grounded

/-- The chain of authority behind an admin call: a function of the contract, called by
an `execTransaction` of the same contract that two of its owner slots approve. -/
def Authorised (env : Env) (made : AdminCall) : Prop :=
  ∃ body exec rest govCall owners data signatures,
    made.callers = body :: exec :: rest ∧
    body.context.address = made.before.multisig ∧
    body.running = .gov govCall owners ∧
    (govCall = .emergencyStop ∨ ∃ kind config, govCall = .reloadConfig kind config) ∧
    body.input = data ∧
    exec.context.address = made.before.multisig ∧
    exec.running =
      .gov (.execTransaction made.before.multisig data signatures) made.multisigSlots ∧
    2 ≤ env.approvals made.multisigSlots made.before.multisig data signatures

/-- An admin call that changes the node while the contract holds `MULTISIG`. -/
def Lawful (env : Env) (made : AdminCall) : Prop :=
  made.before ≠ made.after → made.multisigCode = .gov → Authorised env made

/-- Only the contract's address calls with the contract's address as sender. -/
theorem exec_of_self_call {env : Env} {world : World} {body : Frame} {rest : List Frame}
    (chain : Chain env world (body :: rest)) (runs : body.running ≠ .other)
    (code : world.code body.context.address = .gov)
    (itself : body.context.caller = body.context.address) :
    ∃ exec below data signatures, rest = exec :: below ∧
      exec.context.address = body.context.address ∧ body.input = data ∧
      exec.running = .gov (.execTransaction body.context.address data signatures)
        (world.slots body.context.address) ∧
      2 ≤ env.approvals (world.slots body.context.address) body.context.address data
        signatures := by
  cases chain with
  | origin _ sender _ => exact absurd sender runs
  | @call exec below _ chain made _ interpreted =>
      have ground := chain.grounded
      unfold Made at made
      split at made
      · -- Other code at the address of the contract is what `Grounded` excludes.
        rename_i other
        obtain ⟨scheme, target, value, context⟩ := made
        have home : exec.context.address = body.context.address := by
          rw [context] at itself ⊢
          cases scheme with
          | call => exact itself
          | staticCall => exact itself
          | callCode => exact itself
          | delegateCall => rfl
        rw [← home] at code
        exact absurd other (ground.governed code)
      · rename_i target data signatures owners running
        obtain ⟨context, input, approved⟩ := made
        have address : body.context.address = target := by
          rw [context]
          rfl
        have caller : body.context.caller = exec.context.address := by
          rw [context]
          rfl
        have home : exec.context.address = body.context.address := by
          rw [← caller, itself]
        have reads : owners = world.slots body.context.address := by
          rw [← home] at code ⊢
          exact ground.reads _ _ code running
        rw [← reads]
        rw [← address] at running approved
        exact ⟨exec, below, data, signatures, rfl, home, input, running, approved⟩
      · obtain ⟨context, _⟩ := made
        rw [context] at interpreted
        exact absurd rfl interpreted

theorem lawful_of_chain {env : Env} {state : State} {callers : List Frame} {context : CallContext}
    {input : List UInt8} {gas : Nat} (chain : Chain env state.world callers)
    (made : ∃ parent rest, callers = parent :: rest ∧ Made env parent context input) :
    Lawful env ⟨state.node, (adminFuncRun state.node input gas context).1, context, input, callers,
      state.world.code state.node.multisig, state.world.slots state.node.multisig⟩ := by
  intro effect governed
  obtain ⟨caller, scheme⟩ := caller_of_effect (fun same => effect same.symm)
  obtain ⟨body, rest, rfl, made⟩ := made
  have ground := chain.grounded
  unfold Made at made
  split at made
  · rename_i other
    obtain ⟨byScheme, target, value, rfl⟩ := made
    have home : body.context.address = state.node.multisig := by
      rw [← caller]
      cases byScheme with
      | staticCall => rfl
      | call => cases scheme
      | callCode => cases scheme
      | delegateCall => cases scheme
    rw [← home] at governed
    exact absurd other (ground.governed governed)
  · obtain ⟨rfl, _⟩ := made
    cases scheme
  · rename_i govCall owners notExec running
    obtain ⟨rfl, itself⟩ := made
    have home : body.context.address = state.node.multisig := caller
    have code : state.world.code body.context.address = .gov := by
      rw [home]
      exact governed
    have runs : body.running ≠ .other := by
      rw [running]
      simp
    obtain ⟨exec, below, data, signatures, rfl, execHome, data_eq, execRuns, approved⟩ :=
      exec_of_self_call chain runs code itself
    rw [home] at execHome execRuns approved
    refine ⟨body, exec, below, govCall, owners, data, signatures, rfl, home, running, ?_, data_eq,
      execHome, execRuns, approved⟩
    cases govCall with
    | emergencyStop => exact Or.inl rfl
    | reloadConfig kind config => exact Or.inr ⟨kind, config, rfl⟩
    | execTransaction target config signatures =>
        exact absurd rfl (notExec target config signatures)

end Admin
