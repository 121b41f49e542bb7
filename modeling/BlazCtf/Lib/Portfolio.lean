import BlazCtf.Lib.Ledger

set_option autoImplicit false

namespace Portfolio

open Function (update)

section Worth

variable {ι : Type} {keys larger : Finset ι} {key : ι}

/-- What amounts of the given assets are worth at given prices. -/
def worth (keys : Finset ι) (prices amounts : ι → Nat) : Nat :=
  ∑ id ∈ keys, amounts id * prices id

variable (prices amounts : ι → Nat)

/-- Assets of which nothing is held add no value. -/
theorem worth_of_subset {amounts : ι → Nat} (inside : keys ⊆ larger)
    (empty : ∀ id, id ∉ keys → amounts id = 0) :
    worth larger prices amounts = worth keys prices amounts := by
  symm
  apply Finset.sum_subset inside
  intro id _ outside
  rw [empty id outside, Nat.zero_mul]

variable [DecidableEq ι]

/-- Changing one amount moves the value by its price, written without subtraction. -/
theorem worth_update_add (member : key ∈ keys) (amount : Nat) :
    worth keys prices (update amounts key amount) + amounts key * prices key =
      worth keys prices amounts + amount * prices key := by
  have others : ∑ id ∈ keys.erase key, update amounts key amount id * prices id =
      ∑ id ∈ keys.erase key, amounts id * prices id := by
    apply Finset.sum_congr rfl
    intro id other
    rw [Function.update_of_ne (Finset.ne_of_mem_erase other)]
  have before := Finset.add_sum_erase keys (fun id => amounts id * prices id) member
  have after := Finset.add_sum_erase keys (fun id => update amounts key amount id * prices id)
    member
  simp only [Function.update_self] at after
  unfold worth
  omega

theorem worth_credit (member : key ∈ keys) (value : Nat) :
    worth keys prices (update amounts key (amounts key + value)) =
      worth keys prices amounts + value * prices key := by
  have moved := worth_update_add prices amounts member (amounts key + value)
  rw [Nat.add_mul] at moved
  omega

theorem worth_debit (member : key ∈ keys) {value : Nat} (funded : value ≤ amounts key) :
    worth keys prices (update amounts key (amounts key - value)) + value * prices key =
      worth keys prices amounts := by
  have moved := worth_update_add prices amounts member (amounts key - value)
  have split : amounts key * prices key =
      (amounts key - value) * prices key + value * prices key := by
    rw [← Nat.add_mul, Nat.sub_add_cancel funded]
  omega

end Worth

section Ratio

variable {unit top collateral debt collateral' debt' : Nat}

/-- Collateral over debt in units of `unit`, rounded down; `top` when nothing is owed. -/
def ratio (unit top collateral debt : Nat) : Nat :=
  if debt = 0 then top else collateral * unit / debt

theorem ratio_of_owing (owing : debt ≠ 0) :
    ratio unit top collateral debt = collateral * unit / debt := if_neg owing

/-- A ratio of at least one means that the debt is covered. -/
theorem unit_le_ratio_iff (positive : 0 < unit) (fits : unit ≤ top) :
    unit ≤ ratio unit top collateral debt ↔ debt ≤ collateral := by
  unfold ratio
  split
  · rename_i nothing
    subst nothing
    exact ⟨fun _ => Nat.zero_le _, fun _ => fits⟩
  · rename_i owing
    rw [Nat.le_div_iff_mul_le (Nat.pos_of_ne_zero owing), Nat.mul_comm collateral unit]
    exact ⟨fun le => Nat.le_of_mul_le_mul_left le positive, Nat.mul_le_mul_left unit⟩

theorem ratio_le_top (fits : debt ≠ 0 → collateral * unit ≤ top) :
    ratio unit top collateral debt ≤ top := by
  unfold ratio
  split
  · exact Nat.le_refl top
  · rename_i owing
    exact (Nat.div_le_self _ _).trans (fits owing)

/-- Ratios compare as the fractions they round. -/
theorem ratio_le_of_cross (owing' : debt' ≠ 0) (owing : debt ≠ 0)
    (cross : collateral * debt' ≤ collateral' * debt) :
    ratio unit top collateral debt ≤ ratio unit top collateral' debt' := by
  rw [ratio_of_owing owing, ratio_of_owing owing',
    Nat.le_div_iff_mul_le (Nat.pos_of_ne_zero owing')]
  apply Nat.le_of_mul_le_mul_right _ (Nat.pos_of_ne_zero owing)
  calc collateral * unit / debt * debt' * debt
      = collateral * unit / debt * debt * debt' := Nat.mul_right_comm _ _ _
    _ ≤ collateral * unit * debt' := Nat.mul_le_mul_right _ (Nat.div_mul_le_self _ _)
    _ = collateral * debt' * unit := Nat.mul_right_comm _ _ _
    _ ≤ collateral' * debt * unit := Nat.mul_le_mul_right _ cross
    _ = collateral' * unit * debt := Nat.mul_right_comm _ _ _

/-- More collateral against less debt never lowers the ratio. -/
theorem ratio_mono (fits : debt ≠ 0 → collateral * unit ≤ top) (more : collateral ≤ collateral')
    (less : debt' ≤ debt) :
    ratio unit top collateral debt ≤ ratio unit top collateral' debt' := by
  by_cases nothing : debt' = 0
  · rw [show ratio unit top collateral' debt' = top from if_pos nothing]
    exact ratio_le_top fits
  · exact ratio_le_of_cross nothing (by omega) (Nat.mul_le_mul more less)

/-- Closing a larger share of the debt than of the collateral never lowers the ratio. -/
theorem ratio_le_of_share {seized closed : Nat} (fits : debt ≠ 0 → collateral * unit ≤ top)
    (left : seized + collateral' = collateral) (owed : closed + debt' = debt)
    (share : seized * debt ≤ closed * collateral) :
    ratio unit top collateral debt ≤ ratio unit top collateral' debt' := by
  by_cases nothing : debt' = 0
  · rw [show ratio unit top collateral' debt' = top from if_pos nothing]
    exact ratio_le_top fits
  · apply ratio_le_of_cross nothing (by omega)
    subst left owed
    simp only [Nat.add_mul, Nat.mul_add, Nat.mul_comm closed] at share ⊢
    omega

/-- While debt is left, seizing a larger share of the collateral never raises the ratio. -/
theorem ratio_ge_of_share {seized closed : Nat} (owing : debt' ≠ 0)
    (left : seized + collateral' = collateral) (owed : closed + debt' = debt)
    (share : closed * collateral ≤ seized * debt) :
    ratio unit top collateral' debt' ≤ ratio unit top collateral debt := by
  apply ratio_le_of_cross (by omega) owing
  subst left owed
  simp only [Nat.add_mul, Nat.mul_add, Nat.mul_comm closed] at share ⊢
  omega

end Ratio

end Portfolio
