import Mathlib.Algebra.GroupWithZero.Nat
import Mathlib.Algebra.BigOperators.Group.Finset.Piecewise
import Mathlib.Algebra.BigOperators.Group.Finset.Basic
import Mathlib.Algebra.Order.BigOperators.Group.Finset
import Mathlib.Data.Fintype.Basic
import Mathlib.Data.Fintype.BigOperators
import Mathlib.Data.List.Perm.Subperm
import Mathlib.Algebra.Order.BigOperators.Group.List

set_option autoImplicit false

namespace Ledger

open Function (update)

section Sum

variable {ι β M : Type} [DecidableEq ι] [AddCommMonoid M]

/-- Replacing one entry moves a sum by the difference of the two weights,
written without subtraction. -/
theorem sum_update_add (keys : Finset ι) (weight : β → M) (table : ι → β) {key : ι}
    (inside : key ∈ keys) (entry : β) :
    (∑ k ∈ keys, weight (update table key entry k)) + weight (table key) =
      (∑ k ∈ keys, weight (table k)) + weight entry := by
  have pushed : ∀ k, weight (update table key entry k) =
      update (fun j => weight (table j)) key (weight entry) k := by
    intro k
    exact Function.apply_update (fun _ => weight) table key entry k
  simp only [pushed]
  rw [Finset.sum_update_of_mem inside, ← Finset.sum_sdiff (Finset.singleton_subset_iff.mpr inside),
    Finset.sum_singleton]
  ac_rfl

/-- Replacing an entry outside the summed keys changes nothing. -/
theorem sum_update_outside (keys : Finset ι) (weight : β → M) (table : ι → β) {key : ι}
    (outside : key ∉ keys) (entry : β) :
    (∑ k ∈ keys, weight (update table key entry k)) = ∑ k ∈ keys, weight (table k) := by
  apply Finset.sum_congr rfl
  intro k member
  have distinct : k ≠ key := by
    rintro rfl
    exact outside member
  rw [Function.update_of_ne distinct]

end Sum

/-- An entry of a table of tables after another entry, or the same one, has been replaced. -/
theorem update_entry {ι κ β : Type} [DecidableEq ι] [DecidableEq κ] (table : ι → κ → β)
    (row : ι) (column : κ) (entry : β) (i : ι) (j : κ) :
    update table row (update (table row) column entry) i j =
      if row = i ∧ column = j then entry else table i j := by
  by_cases sameRow : row = i
  · subst sameRow
    rw [Function.update_self]
    by_cases sameColumn : column = j
    · subst sameColumn
      simp
    · rw [Function.update_of_ne (Ne.symm sameColumn), if_neg (fun same => sameColumn same.2)]
  · rw [Function.update_of_ne (Ne.symm sameRow), if_neg (fun same => sameRow same.1)]

section Move

variable {α : Type} [DecidableEq α]

/-- Debit one account, then credit another (possibly the same one). -/
def move (balance : α → Nat) (source target : α) (value : Nat) : α → Nat :=
  let debited := update balance source (balance source - value)
  update debited target (debited target + value)

theorem move_source {balance : α → Nat} {source target : α} {value : Nat}
    (distinct : source ≠ target) :
    move balance source target value source = balance source - value := by
  simp [move, Function.update_of_ne distinct]

theorem move_target {balance : α → Nat} {source target : α} {value : Nat}
    (distinct : source ≠ target) :
    move balance source target value target = balance target + value := by
  simp [move, Function.update_of_ne distinct.symm]

theorem move_other {balance : α → Nat} {source target account : α} {value : Nat}
    (notSource : account ≠ source) (notTarget : account ≠ target) :
    move balance source target value account = balance account := by
  simp [move, Function.update_of_ne notTarget, Function.update_of_ne notSource]

theorem move_self {balance : α → Nat} {account : α} {value : Nat}
    (funded : value ≤ balance account) :
    move balance account account value = balance := by
  funext k
  by_cases same : k = account
  · subst same
    simp only [move, Function.update_self]
    omega
  · exact move_other same same

@[simp] theorem move_zero (balance : α → Nat) (source target : α) :
    move balance source target 0 = balance := by
  simp [move]

/-- Only the debited account can lose. -/
theorem le_move {balance : α → Nat} {source target account : α} {value : Nat}
    (notSource : account ≠ source) :
    balance account ≤ move balance source target value account := by
  by_cases same : account = target
  · subst same
    rw [move_target notSource.symm]
    omega
  · exact Nat.le_of_eq (move_other notSource same).symm

/-- What a move does to the sum over some of the accounts. -/
theorem sum_move_on (keys : Finset α) (target : α) {balance : α → Nat} {source : α} {value : Nat}
    (funded : value ≤ balance source) :
    (∑ account ∈ keys, move balance source target value account) +
        (if source ∈ keys then value else 0) =
      (∑ account ∈ keys, balance account) + (if target ∈ keys then value else 0) := by
  have debit : (∑ account ∈ keys, update balance source (balance source - value) account) +
      (if source ∈ keys then value else 0) = ∑ account ∈ keys, balance account := by
    split
    · rename_i inside
      have sum := sum_update_add keys (fun n : Nat => n) balance inside (balance source - value)
      omega
    · rename_i outside
      exact sum_update_outside keys (fun n : Nat => n) balance outside _
  have credit : (∑ account ∈ keys, move balance source target value account) =
      (∑ account ∈ keys, update balance source (balance source - value) account) +
        (if target ∈ keys then value else 0) := by
    simp only [move]
    split
    · rename_i inside
      have sum := sum_update_add keys (fun n : Nat => n)
        (update balance source (balance source - value)) inside
        (update balance source (balance source - value) target + value)
      omega
    · rename_i outside
      exact sum_update_outside keys (fun n : Nat => n)
        (update balance source (balance source - value)) outside _
  omega

/-- A move between two accounts keeps the sum of all balances. -/
theorem sum_move [Fintype α] {balance : α → Nat} {source target : α} {value : Nat}
    (funded : value ≤ balance source) :
    (∑ account, move balance source target value account) = ∑ account, balance account := by
  have sums := sum_move_on Finset.univ target funded
  simpa using sums

/-- So what a move credits comes to no more than all balances together. -/
theorem credit_le_sum [Fintype α] {balance : α → Nat} {source : α} (target : α) {value : Nat}
    (funded : value ≤ balance source) :
    update balance source (balance source - value) target + value ≤
      ∑ account, balance account := by
  have credited : move balance source target value target =
      update balance source (balance source - value) target + value := by
    simp only [move, Function.update_self]
  have total : (∑ account, move balance source target value account) =
      ∑ account, balance account := sum_move funded
  rw [← credited, ← total]
  exact Finset.single_le_sum (fun _ _ => Nat.zero_le _) (Finset.mem_univ target)

end Move

section Log

variable {α β : Type} [DecidableEq β]

/-- The entries of a log that are pending and those that are done, each once,
weigh together no more than the log. -/
theorem sum_pending_add_done_le (key : α → β) (weight : β → Nat) {log : List α} {done : List β}
    (once : done.Nodup) (logged : done ⊆ log.map key) :
    ((log.filter fun entry => key entry ∉ done).map fun entry => weight (key entry)).sum +
      (done.map weight).sum ≤ (log.map fun entry => weight (key entry)).sum := by
  have included : done ⊆ (log.filter fun entry => key entry ∈ done).map key := by
    intro entry member
    obtain ⟨origin, listed, rfl⟩ := List.mem_map.mp (logged member)
    exact List.mem_map_of_mem (List.mem_filter.mpr ⟨listed, by simpa using member⟩)
  obtain ⟨ordered, same, sub⟩ := List.subperm_of_subset once included
  have covered : (done.map weight).sum ≤
      ((log.filter fun entry => key entry ∈ done).map fun entry => weight (key entry)).sum := by
    calc (done.map weight).sum = (ordered.map weight).sum := (same.map weight).sum_eq.symm
      _ ≤ (((log.filter fun entry => key entry ∈ done).map key).map weight).sum :=
          (sub.map weight).sum_le_sum (fun _ _ => Nat.zero_le _)
      _ = _ := by
          rw [List.map_map]
          rfl
  have split := ((List.filter_append_perm (fun entry => decide (key entry ∈ done)) log).map
    fun entry => weight (key entry)).sum_eq
  rw [List.map_append, List.sum_append] at split
  simp only [← decide_not] at split
  omega

end Log

end Ledger
