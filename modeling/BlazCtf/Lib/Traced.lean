import BlazCtf.Lib.Run

set_option autoImplicit false

namespace Evm

/-- A computation that reverts or returns, together with the marks it passed on
the way. A revert undoes the state but not the marks. -/
structure Traced (ν α : Type) where
  visits : List ν
  outcome : Outcome α

namespace Traced

variable {ν α β σ κ : Type}

instance : Monad (Traced ν) where
  pure value := ⟨[], .ok value⟩
  bind first next :=
    match first.outcome with
    | .ok value => ⟨first.visits ++ (next value).visits, (next value).outcome⟩
    | .error reason => ⟨first.visits, .error reason⟩

instance : MonadLift Outcome (Traced ν) where
  monadLift outcome := ⟨[], outcome⟩

/-- Pass a mark. -/
def visit (mark : ν) : Traced ν Unit := ⟨[mark], .ok ()⟩

/-- A call that reverts. -/
def fail (reason : Revert) : Traced ν α := ⟨[], .error reason⟩

/-- Replace the reason of a revert. -/
def failAs (reason : Revert) (body : Traced ν α) : Traced ν α :=
  ⟨body.visits, match body.outcome with
    | .ok value => .ok value
    | .error _ => .error reason⟩

/-- Calls made one after another, where one that reverts changes nothing. -/
def runAll (call : σ → κ → Traced ν σ) (state : σ) : List κ → Traced ν σ
  | [] => pure state
  | made :: rest =>
      let rest := runAll call (commit (fun s made => (call s made).outcome) state made) rest
      ⟨(call state made).visits ++ rest.visits, rest.outcome⟩

@[simp] theorem outcome_pure (value : α) : (pure value : Traced ν α).outcome = .ok value := rfl

@[simp] theorem outcome_bind (first : Traced ν α) (next : α → Traced ν β) :
    (first >>= next).outcome = first.outcome >>= fun value => (next value).outcome := by
  cases first with
  | mk visits outcome => cases outcome <;> rfl

@[simp] theorem outcome_lift (outcome : Outcome α) :
    (liftM outcome : Traced ν α).outcome = outcome := rfl

@[simp] theorem outcome_visit (mark : ν) : (visit mark).outcome = .ok () := rfl

@[simp] theorem outcome_failAs_ok {reason : Revert} {body : Traced ν α} {value : α} :
    (failAs reason body).outcome = .ok value ↔ body.outcome = .ok value := by
  unfold failAs
  split <;> simp [*]

@[simp] theorem outcome_runAll (call : σ → κ → Traced ν σ) (state : σ) (calls : List κ) :
    (runAll call state calls).outcome =
      .ok (run (fun s made => (call s made).outcome) state calls) := by
  induction calls generalizing state with
  | nil => rfl
  | cons made rest ih => exact ih _

@[simp] theorem visits_pure (value : α) : (pure value : Traced ν α).visits = [] := rfl

@[simp] theorem visits_lift (outcome : Outcome α) :
    (liftM outcome : Traced ν α).visits = [] := rfl

@[simp] theorem visits_visit (mark : ν) : (visit mark).visits = [mark] := rfl

@[simp] theorem visits_fail (reason : Revert) : (fail reason : Traced ν α).visits = [] := rfl

@[simp] theorem visits_failAs (reason : Revert) (body : Traced ν α) :
    (failAs reason body).visits = body.visits := rfl

@[simp] theorem mem_visits_bind {first : Traced ν α} {next : α → Traced ν β} {mark : ν} :
    mark ∈ (first >>= next).visits ↔
      mark ∈ first.visits ∨ ∃ value, first.outcome = .ok value ∧ mark ∈ (next value).visits := by
  cases first with
  | mk visits outcome => cases outcome <;> simp [bind]

/-- The marks passed in a sequence of calls are those of its calls, each made in
a state that the calls before it have led to. -/
theorem mem_visits_runAll {call : σ → κ → Traced ν σ} (Inv : σ → Prop) (P : ν → Prop)
    {calls : List κ}
    (keeps : ∀ state made next, Inv state → made ∈ calls →
      (call state made).outcome = .ok next → Inv next)
    (marks : ∀ state made mark, Inv state → made ∈ calls → mark ∈ (call state made).visits → P mark)
    {state : σ} (holds : Inv state) {mark : ν} (member : mark ∈ (runAll call state calls).visits) :
    P mark := by
  induction calls generalizing state with
  | nil => cases member
  | cons made rest ih =>
      rcases List.mem_append.mp member with now | later
      · exact marks state made mark holds List.mem_cons_self now
      · refine ih (fun s m n inv mem => keeps s m n inv (List.mem_cons_of_mem made mem))
          (fun s m k inv mem => marks s m k inv (List.mem_cons_of_mem made mem)) ?_ later
        exact commit_invariant Inv
          (fun next => keeps state made next holds List.mem_cons_self) holds

end Traced

end Evm
