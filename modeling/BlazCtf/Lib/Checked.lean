import Mathlib.Algebra.GroupWithZero.Nat
import Mathlib.Logic.Function.Basic
import Mathlib.Data.Fintype.Basic

set_option autoImplicit false

namespace Evm

/-- A 160-bit account address. -/
abbrev Address := Fin (2 ^ 160)

instance instNeZeroAddresses : NeZero (2 ^ 160) := ⟨by decide⟩

instance instNeZeroWords : NeZero (2 ^ 256) := ⟨by decide⟩

instance instLawfulBEqAddresses : LawfulBEq Address := inferInstance

/-- Why a call reverted: the text of a failed `require`, a Solidity panic
together with the source expression that raised it, or a revert that carries no
text of this contract (no such function, or a failed callee). -/
inductive Revert where
  | reason (text : String)
  | panic (code : Nat) (expr : String)
  | bare
  deriving DecidableEq

/-- A call either returns a value or reverts. -/
abbrev Outcome (α : Type) := Except Revert α

variable {α β : Type}

theorem bind_ok_iff {first : Outcome α} {next : α → Outcome β} {result : β} :
    (first >>= next) = .ok result ↔ ∃ value, first = .ok value ∧ next value = .ok result := by
  cases first with
  | error reason => simp [bind, Except.bind]
  | ok value => simp [bind, Except.bind]

theorem bind_error_iff {first : Outcome α} {next : α → Outcome β} {reason : Revert} :
    (first >>= next) = .error reason ↔
      first = .error reason ∨ ∃ value, first = .ok value ∧ next value = .error reason := by
  cases first with
  | error other => simp [bind, Except.bind]
  | ok value => simp [bind, Except.bind]

theorem pure_ok_iff {value result : α} :
    (pure value : Outcome α) = .ok result ↔ value = result := by
  simp [pure, Except.pure]

theorem exists_ok {outcome : Outcome α} (returns : outcome.toBool = true) :
    ∃ value, outcome = .ok value := by
  cases outcome with
  | ok value => exact ⟨value, rfl⟩
  | error reason => cases returns

/-- `require(condition, text)`. -/
def require (condition : Prop) [Decidable condition] (text : String) : Outcome Unit :=
  if condition then .ok () else .error (.reason text)

theorem require_ok_iff {condition : Prop} [Decidable condition] {text : String} {u : Unit} :
    require condition text = .ok u ↔ condition := by
  unfold require
  split <;> simp [*]

/-- The result of a call to another contract, whose failure reverts the caller. -/
def callee (result : Option α) : Outcome α :=
  match result with
  | some value => .ok value
  | none => .error .bare

theorem callee_ok_iff {result : Option α} {value : α} :
    callee result = .ok value ↔ result = some value := by
  cases result <;> simp [callee]

/-- Checked `a + b` at an unsigned type of `width` bits: Panic(0x11) on overflow. -/
def checkedAdd (width a b : Nat) (expr : String) : Outcome Nat :=
  if a + b < 2 ^ width then .ok (a + b) else .error (.panic 0x11 expr)

/-- Checked `a - b` of unsigned integers: Panic(0x11) on underflow. -/
def checkedSub (a b : Nat) (expr : String) : Outcome Nat :=
  if b ≤ a then .ok (a - b) else .error (.panic 0x11 expr)

/-- Checked `a * b` at an unsigned type of `width` bits: Panic(0x11) on overflow. -/
def checkedMul (width a b : Nat) (expr : String) : Outcome Nat :=
  if a * b < 2 ^ width then .ok (a * b) else .error (.panic 0x11 expr)

/-- Checked `a / b`: Panic(0x12) on a zero divisor. -/
def checkedDiv (a b : Nat) (expr : String) : Outcome Nat :=
  if b = 0 then .error (.panic 0x12 expr) else .ok (a / b)

theorem checkedAdd_ok_iff {width a b c : Nat} {expr : String} :
    checkedAdd width a b expr = .ok c ↔ a + b < 2 ^ width ∧ a + b = c := by
  unfold checkedAdd
  split <;> simp [*]

theorem checkedSub_ok_iff {a b c : Nat} {expr : String} :
    checkedSub a b expr = .ok c ↔ b ≤ a ∧ a - b = c := by
  unfold checkedSub
  split <;> simp [*]

theorem checkedMul_ok_iff {width a b c : Nat} {expr : String} :
    checkedMul width a b expr = .ok c ↔ a * b < 2 ^ width ∧ a * b = c := by
  unfold checkedMul
  split <;> simp [*]

theorem checkedDiv_ok_iff {a b c : Nat} {expr : String} :
    checkedDiv a b expr = .ok c ↔ b ≠ 0 ∧ a / b = c := by
  unfold checkedDiv
  split <;> simp [*]

/-- The call does not fail with this particular revert. -/
def Avoids (reason : Revert) (outcome : Outcome α) : Prop := outcome ≠ .error reason

theorem avoids_bind {reason : Revert} {first : Outcome α} {next : α → Outcome β}
    (head : Avoids reason first) (tail : ∀ value, first = .ok value → Avoids reason (next value)) :
    Avoids reason (first >>= next) := by
  intro failed
  rcases bind_error_iff.mp failed with early | ⟨value, success, late⟩
  · exact head early
  · exact tail value success late

theorem avoids_ok (reason : Revert) (value : α) : Avoids reason (.ok value : Outcome α) := by
  intro failed
  cases failed

theorem avoids_pure (reason : Revert) (value : α) : Avoids reason (pure value : Outcome α) :=
  avoids_ok reason value

theorem avoids_error {reason other : Revert} (distinct : other ≠ reason) :
    Avoids reason (.error other : Outcome α) := by
  intro failed
  exact distinct (Except.error.inj failed)

theorem avoids_of_ok {reason : Revert} {outcome : Outcome α} {value : α}
    (success : outcome = .ok value) : Avoids reason outcome := by
  rw [success]
  exact avoids_ok reason value

section Sites

variable {a b width : Nat} {site expr text : String} {code : Nat} {reason : Revert}

theorem avoids_require_of_ne {condition : Prop} [Decidable condition]
    (distinct : .reason text ≠ reason) : Avoids reason (require condition text) := by
  unfold require
  split
  · exact avoids_ok _ _
  · exact avoids_error distinct

theorem avoids_checkedAdd_of_ne (distinct : .panic 0x11 expr ≠ reason) :
    Avoids reason (checkedAdd width a b expr) := by
  unfold checkedAdd
  split
  · exact avoids_ok _ _
  · exact avoids_error distinct

theorem avoids_checkedSub_of_ne (distinct : .panic 0x11 expr ≠ reason) :
    Avoids reason (checkedSub a b expr) := by
  unfold checkedSub
  split
  · exact avoids_ok _ _
  · exact avoids_error distinct

theorem avoids_checkedMul_of_ne (distinct : .panic 0x11 expr ≠ reason) :
    Avoids reason (checkedMul width a b expr) := by
  unfold checkedMul
  split
  · exact avoids_ok _ _
  · exact avoids_error distinct

theorem avoids_require {condition : Prop} [Decidable condition] :
    Avoids (.panic code site) (require condition text) :=
  avoids_require_of_ne (by simp)

theorem avoids_callee (result : Option α) : Avoids (.panic code site) (callee result) := by
  cases result with
  | none => exact avoids_error (by simp)
  | some value => exact avoids_ok _ _

theorem avoids_checkedAdd (elsewhere : expr ≠ site) :
    Avoids (.panic code site) (checkedAdd width a b expr) :=
  avoids_checkedAdd_of_ne (by simp [elsewhere])

theorem avoids_checkedSub (elsewhere : expr ≠ site) :
    Avoids (.panic code site) (checkedSub a b expr) :=
  avoids_checkedSub_of_ne (by simp [elsewhere])

theorem avoids_checkedAdd_of_lt {reason : Revert} (fits : a + b < 2 ^ width) :
    Avoids reason (checkedAdd width a b expr) := by
  rw [checkedAdd, if_pos fits]
  exact avoids_ok _ _

theorem avoids_checkedSub_of_le {reason : Revert} (enough : b ≤ a) :
    Avoids reason (checkedSub a b expr) := by
  rw [checkedSub, if_pos enough]
  exact avoids_ok _ _

theorem avoids_checkedMul (elsewhere : expr ≠ site) :
    Avoids (.panic code site) (checkedMul width a b expr) :=
  avoids_checkedMul_of_ne (by simp [elsewhere])

theorem avoids_checkedDiv (elsewhere : expr ≠ site) :
    Avoids (.panic code site) (checkedDiv a b expr) := by
  unfold checkedDiv
  split
  · exact avoids_error (by simp [elsewhere])
  · exact avoids_ok _ _

end Sites

end Evm
