import Mathlib.Logic.Basic

set_option autoImplicit false

namespace Python

/-- How a piece of Python ends: it returns, it raises, or it waits for ever. -/
inductive Result (ε α : Type) where
  | returned (value : α)
  | raised (error : ε)
  | blocked
  deriving DecidableEq

/-- Code that changes a state on the way. What it has done stays done when it raises. -/
def Exec (σ ε α : Type) := σ → Result ε α × σ

namespace Exec

variable {σ ε α β : Type}

instance : Monad (Exec σ ε) where
  pure value := fun state => (.returned value, state)
  bind first next := fun state =>
    match first state with
    | (.returned value, state) => next value state
    | (.raised error, state) => (.raised error, state)
    | (.blocked, state) => (.blocked, state)

/-- `try: body finally: cleanup`. An exception of the cleanup replaces that of the body,
and what stands behind it in the cleanup is not reached. -/
def tryFinally (body : Exec σ ε α) (cleanup : Exec σ ε Unit) : Exec σ ε α := fun state =>
  match body state with
  | (.blocked, state) => (.blocked, state)
  | (result, state) =>
      match cleanup state with
      | (.returned _, state) => (result, state)
      | (.raised error, state) => (.raised error, state)
      | (.blocked, state) => (.blocked, state)

/-- `try: body except Exception as error: handler`. What the body has done before it raised
stays done. -/
def tryExcept (body : Exec σ ε α) (handler : ε → Exec σ ε α) : Exec σ ε α := fun state =>
  match body state with
  | (.raised error, state) => handler error state
  | (result, state) => (result, state)

section Equations

variable {first : Exec σ ε α} {next : α → Exec σ ε β} {body : Exec σ ε α}
  {handler : ε → Exec σ ε α} {cleanup : Exec σ ε Unit} {state middle last : σ}

theorem bind_returned {value : α} (returned : first state = (.returned value, middle)) :
    (first >>= next) state = next value middle := by
  simp only [bind, returned]

theorem bind_raised {error : ε} (raised : first state = (.raised error, middle)) :
    (first >>= next) state = (.raised error, middle) := by
  simp only [bind, raised]

theorem bind_blocked (blocked : first state = (.blocked, middle)) :
    (first >>= next) state = (.blocked, middle) := by
  simp only [bind, blocked]

/-- A cleanup that returns passes on how the body ended, -/
theorem tryFinally_of_returned {result : Result ε α} (ended : body state = (result, middle))
    (awake : result ≠ .blocked) (clean : cleanup middle = (.returned (), last)) :
    tryFinally body cleanup state = (result, last) := by
  cases result with
  | returned value => simp only [tryFinally, ended, clean]
  | raised error => simp only [tryFinally, ended, clean]
  | blocked => exact absurd rfl awake

/-- and one that raises does not. -/
theorem tryFinally_of_raised {result : Result ε α} {error : ε}
    (ended : body state = (result, middle)) (awake : result ≠ .blocked)
    (fails : cleanup middle = (.raised error, last)) :
    tryFinally body cleanup state = (.raised error, last) := by
  cases result with
  | returned value => simp only [tryFinally, ended, fails]
  | raised error => simp only [tryFinally, ended, fails]
  | blocked => exact absurd rfl awake

theorem tryExcept_returned {value : α} (returned : body state = (.returned value, middle)) :
    tryExcept body handler state = (.returned value, middle) := by
  simp only [tryExcept, returned]

theorem tryExcept_raised {error : ε} (raised : body state = (.raised error, middle)) :
    tryExcept body handler state = handler error middle := by
  simp only [tryExcept, raised]

end Equations

/-- From the states of the precondition, the code returns or raises, and leaves a state
as the matching postcondition says. -/
def Ensures (before : σ → Prop) (body : Exec σ ε α) (returns : α → σ → Prop)
    (raises : ε → σ → Prop) : Prop :=
  ∀ state, before state →
    (∃ value next, body state = (.returned value, next) ∧ returns value next) ∨
      ∃ error next, body state = (.raised error, next) ∧ raises error next

section Rules

variable {before : σ → Prop} {returns : α → σ → Prop} {raises : ε → σ → Prop}

theorem ensures_pure {value : α} (holds : ∀ state, before state → returns value state) :
    Ensures before (pure value) returns raises := by
  intro state given
  exact Or.inl ⟨value, state, rfl, holds state given⟩

theorem Ensures.bind {first : Exec σ ε α} {next : α → Exec σ ε β} {after : β → σ → Prop}
    (head : Ensures before first returns raises)
    (tail : ∀ value, Ensures (returns value) (next value) after raises) :
    Ensures before (first >>= next) after raises := by
  intro state given
  rcases head state given with ⟨value, middle, returned, holds⟩ | ⟨error, middle, raised, holds⟩
  · rw [bind_returned returned]
    exact tail value middle holds
  · exact Or.inr ⟨error, middle, bind_raised raised, holds⟩

end Rules

end Exec

end Python
