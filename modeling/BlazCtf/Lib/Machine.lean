import Mathlib.Logic.Basic

set_option autoImplicit false

namespace Machine

/-- How a piece of native code ends: it returns, it stops early for a reason, or it does what
the language does not define, or panics. -/
inductive Ended (σ ε α : Type) where
  | returned (value : α) (state : σ)
  | stopped (reason : ε) (state : σ)
  | fault

/-- The state that the code leaves behind, if it does not fault. -/
def Ended.left {σ ε α : Type} : Ended σ ε α → Option σ
  | .returned _ state => some state
  | .stopped _ state => some state
  | .fault => none

/-- What is left behind `holds`, and nothing is left only if `faults`. -/
def Leaves {σ : Type} (left : Option σ) (holds : σ → Prop) (faults : Prop) : Prop :=
  match left with
  | some final => holds final
  | none => faults

/-- Code that works on a state. What it has done stays done when it stops. -/
def Act (σ ε α : Type) := σ → Ended σ ε α

def Ended.andThen {σ ε α β : Type} (ended : Ended σ ε α) (next : α → Act σ ε β) : Ended σ ε β :=
  match ended with
  | .returned value middle => next value middle
  | .stopped reason middle => .stopped reason middle
  | .fault => .fault

namespace Act

variable {σ ε δ α β : Type}

instance : Monad (Act σ ε) where
  pure value := fun state => .returned value state
  bind first next := fun state => (first state).andThen next

def get : Act σ ε σ := fun state => .returned state state

def modify (change : σ → σ) : Act σ ε Unit := fun state => .returned () (change state)

def stop (reason : ε) : Act σ ε α := fun state => .stopped reason state

def fault : Act σ ε α := fun _ => .fault

/-- `value.unwrap()` -/
def unwrap : Option α → Act σ ε α
  | some value => pure value
  | none => fault

/-- `value.ok_or(reason)?` -/
def okOr (value : Option α) (reason : ε) : Act σ ε α :=
  match value with
  | some value => pure value
  | none => stop reason

/-- `result.map_err(rename)?` -/
def mapError (rename : ε → δ) (act : Act σ ε α) : Act σ δ α := fun state =>
  match act state with
  | .returned value next => .returned value next
  | .stopped reason next => .stopped (rename reason) next
  | .fault => .fault

section Equations

variable {act : Act σ ε α} {next : α → Act σ ε β} {state middle : σ}

@[simp] theorem pure_apply (value : α) :
    (pure value : Act σ ε α) state = .returned value state := rfl

@[simp] theorem bind_apply : (act >>= next) state = (act state).andThen next := rfl

@[simp] theorem get_apply : (get : Act σ ε σ) state = .returned state state := rfl

@[simp] theorem modify_apply (change : σ → σ) :
    (modify change : Act σ ε Unit) state = .returned () (change state) := rfl

@[simp] theorem stop_apply (reason : ε) :
    (stop reason : Act σ ε α) state = .stopped reason state := rfl

@[simp] theorem fault_apply : (fault : Act σ ε α) state = .fault := rfl

@[simp] theorem unwrap_some (value : α) : (unwrap (some value) : Act σ ε α) = pure value := rfl

@[simp] theorem unwrap_none : (unwrap none : Act σ ε α) = fault := rfl

@[simp] theorem okOr_some (value : α) (reason : ε) :
    (okOr (some value) reason : Act σ ε α) = pure value := rfl

@[simp] theorem okOr_none (reason : ε) : (okOr none reason : Act σ ε α) = stop reason := rfl

@[simp] theorem returned_andThen (value : α) :
    (Ended.returned value middle : Ended σ ε α).andThen next = next value middle := rfl

@[simp] theorem stopped_andThen (reason : ε) :
    (Ended.stopped reason middle : Ended σ ε α).andThen next = .stopped reason middle := rfl

@[simp] theorem fault_andThen : (Ended.fault : Ended σ ε α).andThen next = .fault := rfl

end Equations

theorem id_map_act (act : Act σ ε α) : id <$> act = act := by
  funext state
  change (act state).andThen (fun value => pure value) = act state
  cases act state <;> rfl

theorem bind_bind_act {γ : Type} (act : Act σ ε α) (next : α → Act σ ε β)
    (last : β → Act σ ε γ) : act >>= next >>= last = act >>= fun value => next value >>= last := by
  funext state
  change ((act state).andThen next).andThen last =
    (act state).andThen fun value => next value >>= last
  cases act state <;> rfl

instance : LawfulMonad (Act σ ε) :=
  LawfulMonad.mk' (Act σ ε) id_map_act (fun _ _ => rfl) bind_bind_act

/-- From this state the code ends as the postconditions say, and faults only if `faults`: with
`False` there the code does not fault, with `True` nothing is said of a fault. -/
def Ensures (act : Act σ ε α) (state : σ) (returns : α → σ → Prop) (stops : ε → σ → Prop)
    (faults : Prop) : Prop :=
  match act state with
  | .returned value next => returns value next
  | .stopped reason next => stops reason next
  | .fault => faults

section Rules

variable {act : Act σ ε α} {state middle : σ} {returns others : α → σ → Prop}
  {stops breaks : ε → σ → Prop} {faults : Prop} {next : α → Act σ ε β} {after : β → σ → Prop}

theorem ensures_pure {value : α} (holds : returns value state) :
    Ensures (pure value) state returns stops faults := holds

theorem ensures_get {returns : σ → σ → Prop} (holds : returns state state) :
    Ensures get state returns stops faults := holds

theorem ensures_modify {change : σ → σ} {returns : Unit → σ → Prop}
    (holds : returns () (change state)) :
    Ensures (modify change) state returns stops faults := holds

theorem ensures_stop {reason : ε} (holds : stops reason state) :
    Ensures (stop reason) state returns stops faults := holds

theorem Ensures.bind (head : Ensures act state (fun value middle =>
    Ensures (next value) middle after stops faults) stops faults) :
    Ensures (act >>= next) state after stops faults := by
  unfold Ensures at head ⊢
  rw [bind_apply]
  cases result : act state with
  | returned value middle =>
      rw [result] at head
      exact head
  | stopped reason middle =>
      rw [result] at head
      exact head
  | fault =>
      rw [result] at head
      exact head

theorem Ensures.mono (holds : Ensures act state returns stops faults)
    (weaker : ∀ value final, returns value final → others value final)
    (alsoWeaker : ∀ reason final, stops reason final → breaks reason final) :
    Ensures act state others breaks faults := by
  unfold Ensures at holds ⊢
  cases result : act state with
  | returned value final =>
      rw [result] at holds
      exact weaker value final holds
  | stopped reason final =>
      rw [result] at holds
      exact alsoWeaker reason final holds
  | fault =>
      rw [result] at holds
      exact holds

theorem mapError_returned {rename : ε → δ} {value : α}
    (ended : act.mapError rename state = .returned value middle) :
    act state = .returned value middle := by
  unfold mapError at ended
  cases result : act state with
  | returned other final =>
      rw [result] at ended
      cases ended
      rfl
  | stopped reason final =>
      rw [result] at ended
      cases ended
  | fault =>
      rw [result] at ended
      cases ended

theorem Ensures.mapError {rename : ε → δ} {stops : δ → σ → Prop}
    (holds : Ensures act state returns (fun reason => stops (rename reason)) faults) :
    Ensures (act.mapError rename) state returns stops faults := by
  unfold Ensures at holds
  unfold Ensures Act.mapError
  cases result : act state with
  | returned value final =>
      rw [result] at holds
      exact holds
  | stopped reason final =>
      rw [result] at holds
      exact holds
  | fault =>
      rw [result] at holds
      exact holds

/-- Both of two facts about one piece of code. -/
theorem Ensures.and (left : Ensures act state returns stops faults)
    (right : Ensures act state others breaks faults) :
    Ensures act state (fun value final => returns value final ∧ others value final)
      (fun reason final => stops reason final ∧ breaks reason final) faults := by
  unfold Ensures at left right ⊢
  cases result : act state with
  | returned value final =>
      rw [result] at left right
      exact ⟨left, right⟩
  | stopped reason final =>
      rw [result] at left right
      exact ⟨left, right⟩
  | fault =>
      rw [result] at left
      exact left

/-- What returns is what the code returned. -/
theorem Ensures.traced (holds : Ensures act state returns stops faults) :
    Ensures act state (fun value final => returns value final ∧ act state = .returned value final)
      stops faults := by
  unfold Ensures at holds ⊢
  cases result : act state with
  | returned value final =>
      rw [result] at holds
      exact ⟨holds, rfl⟩
  | stopped reason final =>
      rw [result] at holds
      exact holds
  | fault =>
      rw [result] at holds
      exact holds

theorem Ensures.of_returned {value : α} (holds : Ensures act state returns stops faults)
    (ended : act state = .returned value middle) : returns value middle := by
  unfold Ensures at holds
  rw [ended] at holds
  exact holds

theorem Ensures.of_stopped {reason : ε} (holds : Ensures act state returns stops faults)
    (ended : act state = .stopped reason middle) : stops reason middle := by
  unfold Ensures at holds
  rw [ended] at holds
  exact holds

theorem Ensures.leaves {holds : σ → Prop}
    (ensures : Ensures act state (fun _ => holds) (fun _ => holds) faults) :
    Leaves (act state).left holds faults := by
  unfold Ensures at ensures
  unfold Leaves Ended.left
  cases result : act state with
  | returned value final =>
      rw [result] at ensures
      exact ensures
  | stopped reason final =>
      rw [result] at ensures
      exact ensures
  | fault =>
      rw [result] at ensures
      exact ensures

end Rules

theorem bind_returned {act : Act σ ε α} {next : α → Act σ ε β} {state final : σ} {value : β} :
    (act >>= next) state = .returned value final ↔
      ∃ first middle, act state = .returned first middle ∧
        next first middle = .returned value final := by
  rw [bind_apply]
  cases result : act state with
  | returned first middle =>
      constructor
      · exact fun ended => ⟨first, middle, rfl, ended⟩
      · rintro ⟨_, _, same, ended⟩
        cases same
        exact ended
  | stopped reason middle =>
      constructor
      · intro ended
        cases ended
      · rintro ⟨_, _, other, _⟩
        cases other
  | fault =>
      constructor
      · intro ended
        cases ended
      · rintro ⟨_, _, other, _⟩
        cases other

/-- Where the code returns, it has only moved along a relation, whatever it does elsewhere. -/
def Relates (relation : σ → σ → Prop) (act : Act σ ε α) : Prop :=
  ∀ state value final, act state = .returned value final → relation state final

section Relating

variable {relation : σ → σ → Prop} {act : Act σ ε α} {next : α → Act σ ε β}

theorem relates_pure (refl : ∀ state, relation state state) (value : α) :
    Relates relation (pure value : Act σ ε α) := by
  intro state _ final ended
  cases ended
  exact refl state

theorem relates_get (refl : ∀ state, relation state state) :
    Relates relation (get : Act σ ε σ) := by
  intro state _ final ended
  cases ended
  exact refl state

theorem relates_modify {change : σ → σ} (changes : ∀ state, relation state (change state)) :
    Relates relation (modify change : Act σ ε Unit) := by
  intro state _ final ended
  cases ended
  exact changes state

theorem relates_stop (reason : ε) : Relates relation (stop reason : Act σ ε α) := by
  intro state _ final ended
  cases ended

theorem relates_fault : Relates relation (fault : Act σ ε α) := by
  intro state _ final ended
  cases ended

theorem relates_unwrap (refl : ∀ state, relation state state) (option : Option α) :
    Relates relation (unwrap option : Act σ ε α) := by
  cases option with
  | none => exact relates_fault
  | some value => exact relates_pure refl value

theorem relates_okOr (refl : ∀ state, relation state state) (option : Option α) (reason : ε) :
    Relates relation (okOr option reason : Act σ ε α) := by
  cases option with
  | none => exact relates_stop reason
  | some value => exact relates_pure refl value

theorem Relates.bind {late whole : σ → σ → Prop}
    (compose : ∀ first second third, relation first second → late second third →
      whole first third)
    (first : Relates relation act) (rest : ∀ value, Relates late (next value)) :
    Relates whole (act >>= next) := by
  intro state value final ended
  obtain ⟨middleValue, middle, head, tail⟩ := bind_returned.mp ended
  exact compose state middle final (first state middleValue middle head)
    (rest middleValue middle value final tail)

end Relating

/-- The code returns, as the postcondition says. It has no reason to stop. -/
abbrev Returns (act : Act σ Empty α) (state : σ) (returns : α → σ → Prop) : Prop :=
  Ensures act state returns (fun _ _ => True) False

section Returning

variable {act : Act σ Empty α} {state : σ} {returns others : α → σ → Prop}
  {next : α → Act σ Empty β} {after : β → σ → Prop}

theorem Returns.mono (holds : Returns act state returns)
    (weaker : ∀ value final, returns value final → others value final) :
    Returns act state others := Ensures.mono holds weaker fun _ _ _ => trivial

theorem Returns.bind (head : Returns act state returns)
    (tail : ∀ value middle, returns value middle → Returns (next value) middle after) :
    Returns (act >>= next) state after := Ensures.bind (head.mono tail)

theorem Returns.returned (holds : Returns act state returns) :
    ∃ value final, act state = .returned value final ∧ returns value final := by
  unfold Returns Ensures at holds
  cases result : act state with
  | returned value final =>
      rw [result] at holds
      exact ⟨value, final, rfl, holds⟩
  | stopped reason final => exact nomatch reason
  | fault =>
      rw [result] at holds
      exact holds.elim

end Returning

end Act

end Machine
