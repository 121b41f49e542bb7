import BlazCtf.Lib.Checked

set_option autoImplicit false

namespace Evm

variable {σ κ : Type}

/-- Commit one call: a call that reverts leaves the state as it was. -/
def commit (call : σ → κ → Outcome σ) (state : σ) (made : κ) : σ :=
  match call state made with
  | .ok next => next
  | .error _ => state

/-- The state after a sequence of calls, made one after another. -/
def run (call : σ → κ → Outcome σ) (state : σ) (calls : List κ) : σ :=
  calls.foldl (commit call) state

/-- Every call of the sequence meets the condition in the state it is made in. -/
def Meets (condition : σ → κ → Prop) (call : σ → κ → Outcome σ) : σ → List κ → Prop
  | _, [] => True
  | state, made :: rest => condition state made ∧ Meets condition call (commit call state made) rest

@[simp] theorem run_cons (call : σ → κ → Outcome σ) (state : σ) (made : κ) (rest : List κ) :
    run call state (made :: rest) = run call (commit call state made) rest := rfl

theorem commit_ok {call : σ → κ → Outcome σ} {state next : σ} {made : κ}
    (success : call state made = .ok next) : commit call state made = next := by
  simp only [commit, success]

/-- A call that returns, returns the state that is committed. -/
theorem ok_commit {call : σ → κ → Outcome σ} {state : σ} {made : κ}
    (returns : (call state made).toBool = true) :
    call state made = .ok (commit call state made) := by
  obtain ⟨next, result⟩ := exists_ok returns
  rw [result, commit_ok result]

theorem commit_error {call : σ → κ → Outcome σ} {state : σ} {made : κ} {reason : Revert}
    (failed : call state made = .error reason) : commit call state made = state := by
  simp only [commit, failed]

/-- One step of an invariant only has to be shown for calls that return. -/
theorem commit_invariant {call : σ → κ → Outcome σ} (Inv : σ → Prop) {state : σ} {made : κ}
    (keeps : ∀ next, call state made = .ok next → Inv next) (holds : Inv state) :
    Inv (commit call state made) := by
  cases result : call state made with
  | ok next =>
      rw [commit_ok result]
      exact keeps next result
  | error reason =>
      rw [commit_error result]
      exact holds

/-- What every successful call preserves under a condition on the call and the
state it starts from, a run whose calls all meet that condition preserves. -/
theorem run_invariant_of_meets {call : σ → κ → Outcome σ} {condition : σ → κ → Prop}
    (Inv : σ → Prop)
    (keeps : ∀ state made next, Inv state → condition state made →
      call state made = .ok next → Inv next)
    (calls : List κ) : ∀ state, Inv state → Meets condition call state calls →
      Inv (run call state calls) := by
  induction calls with
  | nil =>
      intro state holds _
      exact holds
  | cons made rest ih =>
      intro state holds meets
      rw [run_cons]
      refine ih _ ?_ meets.2
      exact commit_invariant Inv (fun next => keeps state made next holds meets.1) holds

/-- What the successful calls of a sequence preserve, running it preserves. -/
theorem run_invariant_of_mem {call : σ → κ → Outcome σ} (Inv : σ → Prop) {calls : List κ}
    (keeps : ∀ state made next, Inv state → made ∈ calls → call state made = .ok next → Inv next)
    {state : σ} (holds : Inv state) : Inv (run call state calls) := by
  induction calls generalizing state with
  | nil => exact holds
  | cons made rest ih =>
      rw [run_cons]
      refine ih (fun state other next holds member =>
        keeps state other next holds (List.mem_cons_of_mem made member)) ?_
      exact commit_invariant Inv (fun next => keeps state made next holds List.mem_cons_self) holds

/-- What every successful call preserves, every run preserves. -/
theorem run_invariant {call : σ → κ → Outcome σ} (Inv : σ → Prop)
    (keeps : ∀ state made next, Inv state → call state made = .ok next → Inv next)
    (calls : List κ) (state : σ) (holds : Inv state) : Inv (run call state calls) :=
  run_invariant_of_mem Inv (fun state made next holds _ => keeps state made next holds) holds

/-- Every step of a sequence of steps that cannot fail meets the condition in the
state it is taken in. -/
def Follows (condition : σ → κ → Prop) (step : σ → κ → σ) : σ → List κ → Prop
  | _, [] => True
  | state, taken :: rest => condition state taken ∧ Follows condition step (step state taken) rest

instance instDecidableFollows {condition : σ → κ → Prop}
    [∀ state taken, Decidable (condition state taken)] {step : σ → κ → σ} :
    ∀ state steps, Decidable (Follows condition step state steps)
  | _, [] => isTrue trivial
  | state, taken :: rest => @instDecidableAnd _ _ _ (instDecidableFollows (step state taken) rest)

theorem follows_append {condition : σ → κ → Prop} {step : σ → κ → σ} (first later : List κ) :
    ∀ state, Follows condition step state (first ++ later) ↔
      Follows condition step state first ∧
        Follows condition step (first.foldl step state) later := by
  induction first with
  | nil =>
      intro state
      simp [Follows]
  | cons taken rest ih =>
      intro state
      simp only [List.cons_append, Follows, List.foldl_cons, ih, and_assoc]

theorem follows_and {first second : σ → κ → Prop} {step : σ → κ → σ} {steps : List κ} :
    ∀ {state}, Follows first step state steps → Follows second step state steps →
      Follows (fun state taken => first state taken ∧ second state taken) step state steps := by
  induction steps with
  | nil => exact fun _ _ => trivial
  | cons taken rest ih => exact fun left right => ⟨⟨left.1, right.1⟩, ih left.2 right.2⟩

theorem foldl_invariant_of_follows {condition : σ → κ → Prop} {step : σ → κ → σ} (Inv : σ → Prop)
    (keeps : ∀ state taken, Inv state → condition state taken → Inv (step state taken))
    (steps : List κ) : ∀ state, Inv state → Follows condition step state steps →
      Inv (steps.foldl step state) := by
  induction steps with
  | nil =>
      intro state holds _
      exact holds
  | cons taken rest ih =>
      intro state holds follows
      exact ih _ (keeps state taken holds follows.1) follows.2

end Evm
