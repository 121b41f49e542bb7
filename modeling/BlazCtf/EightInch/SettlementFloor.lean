import BlazCtf.EightInch.SettlementFills

set_option autoImplicit false

namespace EightInch

open Evm

/-- The fill is worth a whole number of units of the token paid. -/
def Fill.Exact (trade : Trade) (fill : Fill) : Prop :=
  trade.amountToSell ∣ fill.amount * trade.amountToBuy

/-- What rounding takes from the maker, in parts of `amountToSell` of a unit. -/
def lost (trade : Trade) (done : List Fill) : Nat :=
  (done.map fun fill => fill.amount * trade.amountToBuy % trade.amountToSell).sum

/-- The prices paid and what rounding took from them make up the asking price. -/
theorem price_add_lost (trade : Trade) (done : List Fill) :
    trade.amountToSell * (done.map (Fill.price trade)).sum + lost trade done =
      trade.amountToBuy * (done.map Fill.amount).sum := by
  induction done with
  | nil => rfl
  | cons fill rest ih =>
      have floor := Nat.div_add_mod (fill.amount * trade.amountToBuy) trade.amountToSell
      have asked := Nat.mul_comm fill.amount trade.amountToBuy
      simp only [lost, List.map_cons, List.sum_cons, Nat.mul_add, Fill.price] at ih ⊢
      omega

theorem lost_eq_zero_iff (trade : Trade) (done : List Fill) :
    lost trade done = 0 ↔ ∀ fill ∈ done, fill.Exact trade := by
  simp only [lost, List.sum_eq_zero_iff, List.mem_map, forall_exists_index, and_imp,
    forall_apply_eq_imp_iff₂, Fill.Exact, Nat.dvd_iff_mod_eq_zero]

section Floor

variable {this : Address} {w : World} {id : Nat} {done : List Fill}

/-- Nothing has been taken from a trade whose counters are zero. -/
theorem Booked.of_unfilled (stored : Stored w)
    (sell : (w.settlement.trades id).filledAmountToSell = 0)
    (buy : (w.settlement.trades id).filledAmountToBuy = 0) : Booked this id [] w where
  stored := stored
  fresh := fun _ => rfl
  sell := sell
  buy := buy
  within := by
    rw [sell]
    exact Nat.zero_le _
  paid := nofun

/-- The maker is paid the asking price just when no fill was rounded. -/
theorem Booked.floor_iff (booked : Booked this id done w) :
    (w.settlement.trades id).amountToBuy * (w.settlement.trades id).filledAmountToSell ≤
        (w.settlement.trades id).amountToSell * (w.settlement.trades id).filledAmountToBuy ↔
      ∀ fill ∈ done, fill.Exact (w.settlement.trades id) := by
  have account := price_add_lost (w.settlement.trades id) done
  rw [← lost_eq_zero_iff, booked.sell, booked.buy]
  omega

end Floor

/-- Over every run that leaves the terms of an unfilled trade alone: the maker has been
paid at least the asking price for what was taken, and all of it once the trade is filled
up, exactly when every fill was worth a whole number of units. -/
theorem maker_floor_iff {this : Address} (deployer : Address → Address) (supply : Address → Nat)
    (calls rest : List (Call this)) (id : Nat) :
    let start := run call (deployWorld deployer supply) calls
    let trade := (run call start rest).settlement.trades id
    (start.settlement.trades id).filledAmountToSell = 0 →
    (start.settlement.trades id).filledAmountToBuy = 0 →
    Meets (Unscaled id) call start rest →
    ((trade.amountToBuy * trade.filledAmountToSell ≤
          trade.amountToSell * trade.filledAmountToBuy ∧
        (0 < trade.amountToSell → trade.filledAmountToSell = trade.amountToSell →
          trade.filledAmountToBuy = trade.amountToBuy)) ↔
      ∀ fill ∈ fills id start rest, trade.amountToSell ∣ fill.amount * trade.amountToBuy) := by
  intro start trade sell buy unscaled
  have stored : Stored start := Stored.of_run deployer supply calls
  have booked : Booked this id (fills id start rest) (run call start rest) :=
    (Booked.of_unfilled stored sell buy).run rest unscaled
  have floor := booked.floor_iff
  change trade.amountToBuy * trade.filledAmountToSell ≤
    trade.amountToSell * trade.filledAmountToBuy ↔ _ at floor
  constructor
  · rintro ⟨paid, _⟩
    exact floor.mp paid
  · intro whole
    have paid := floor.mpr whole
    refine ⟨paid, ?_⟩
    intro positive filled
    have most : trade.filledAmountToBuy ≤ trade.amountToBuy := booked.buy_le
    rw [filled, Nat.mul_comm] at paid
    have least := Nat.le_of_mul_le_mul_left paid positive
    omega

/-- Taking 2 and then 5 of 7 that are sold for 3 costs nothing and then 2. -/
theorem split_order_below_price :
    Meets (Unscaled 0) call splitWorld splitOrder ∧
      ((run call splitWorld splitOrder).settlement.trades 0).amountToSell = 7 ∧
      ((run call splitWorld splitOrder).settlement.trades 0).amountToBuy = 3 ∧
      ((run call splitWorld splitOrder).settlement.trades 0).filledAmountToSell = 7 ∧
      ((run call splitWorld splitOrder).settlement.trades 0).filledAmountToBuy = 2 ∧
      ¬ 3 * 7 ≤ 7 * 2 := by
  have unscaled : Meets (Unscaled 0) call splitWorld splitOrder := by
    refine ⟨?_, ?_, ?_, ?_, ?_, ?_, trivial⟩ <;> intro scale op <;> cases op
  exact ⟨unscaled, by decide +kernel, by decide +kernel, by decide +kernel, by decide +kernel,
    by decide⟩

theorem taker_external : (11 : Address) ≠ 1000 := by decide

/-- Account 10 sells 6 for 3, and account 11 takes 2 and then 4 of it. -/
def evenOrder : List (Call 1000) :=
  [sampleCall (.approve 1 1000 36), sampleCall (.createTrade 1 2 36 3),
    sampleCall (.transfer 2 11 20), ⟨11, .approve 2 1000 20, taker_external⟩,
    ⟨11, .settleTrade 0 2, taker_external⟩, ⟨11, .settleTrade 0 4, taker_external⟩]

theorem even_order_at_price :
    let trade := (run call splitWorld evenOrder).settlement.trades 0
    trade.amountToBuy * trade.filledAmountToSell ≤ trade.amountToSell * trade.filledAmountToBuy ∧
      trade.filledAmountToBuy = trade.amountToBuy := by
  intro trade
  have unscaled : Meets (Unscaled 0) call splitWorld evenOrder := by
    refine ⟨?_, ?_, ?_, ?_, ?_, ?_, trivial⟩ <;> intro scale op <;> cases op
  have taken : (fills 0 splitWorld evenOrder).map Fill.amount = [2, 4] := by decide +kernel
  have sold : trade.amountToSell = 6 := by decide +kernel
  have asked : trade.amountToBuy = 3 := by decide +kernel
  have whole : ∀ fill ∈ fills 0 splitWorld evenOrder,
      trade.amountToSell ∣ fill.amount * trade.amountToBuy := by
    intro fill member
    have amount : fill.amount ∈ [2, 4] := by
      rw [← taken]
      exact List.mem_map_of_mem member
    rw [sold, asked]
    have both : ∀ amount ∈ [2, 4], 6 ∣ amount * 3 := by decide
    exact both fill.amount amount
  have floor := (maker_floor_iff (fun _ => 10) (fun _ => 50) [] evenOrder 0 rfl rfl unscaled).mpr
    whole
  exact ⟨floor.1, floor.2 (by decide +kernel) (by decide +kernel)⟩

end EightInch
