import BlazCtf.EightInch.SettlementAmounts
import Mathlib.Data.Nat.ModEq

set_option autoImplicit false

namespace EightInch

open Evm
open Function (update)

section Remainder

variable {this : Address} {w after : World} {made : Call this}

/-- No trade has paid out more than it sells, and an open one has something left. -/
def World.FillsWithin (w : World) : Prop :=
  ∀ id, (w.settlement.trades id).filledAmountToSell ≤ (w.settlement.trades id).amountToSell ∧
    ((w.settlement.trades id).isActive = true →
      (w.settlement.trades id).filledAmountToSell < (w.settlement.trades id).amountToSell)

/-- The call does not leave an open trade without a remainder: it creates no trade of
amount zero (the fee alone, or the bound that the cast truncates), scales none to that
bound, and fills none exactly, which the strict comparison does not close. -/
def KeepsRemainder (w : World) (made : Call this) : Prop :=
  match made.op with
  | .createTrade _ _ amountToSell _ =>
      amountToSell ≠ w.settlement.fee ∧ amountToSell ≠ 2 ^ 112 + w.settlement.fee
  | .scaleTrade tradeId scale => (w.settlement.trades tradeId).amountToSell * scale ≠ 2 ^ 112
  | .settleTrade tradeId amountToSettle =>
      (w.settlement.trades tradeId).filledAmountToSell + amountToSettle ≠
        (w.settlement.trades tradeId).amountToSell
  | _ => True

/-- The same of a call that goes through; one that reverts changes nothing. -/
def KeepsRemainderIfMade (w : World) (made : Call this) : Prop :=
  ∀ after, call w made = .ok after → KeepsRemainder w made

/-- Rewriting one trade keeps the others. -/
theorem World.FillsWithin.of_update (within : w.FillsWithin) {id : Nat} {trade : Trade}
    (stored : after.settlement.trades = update w.settlement.trades id trade)
    (kept : trade.filledAmountToSell ≤ trade.amountToSell ∧
      (trade.isActive = true → trade.filledAmountToSell < trade.amountToSell)) :
    after.FillsWithin := by
  intro other
  rw [stored]
  by_cases same : other = id
  · subst same
    simpa using kept
  · simpa [Function.update_of_ne same] using within other

theorem Settled.whole {msgSender : Address} {tradeId amountToSettle : Nat}
    (settled : Settled this msgSender tradeId amountToSettle w after) (stored : Stored w) :
    amountToSettle % 2 ^ 112 = amountToSettle := by
  have available := settled.available
  have narrow := stored.sellNarrow tradeId
  apply Nat.mod_eq_of_lt
  omega

theorem effect_within (stored : Stored w) (within : w.FillsWithin) (keeps : KeepsRemainder w made)
    (effect : Effect w made after) : after.FillsWithin := by
  unfold KeepsRemainder at keeps
  cases effect with
  | created op done =>
      rw [op] at keeps
      have paid := done.feePaid
      have bound := done.sellBound
      apply within.of_update (congrArg TradeSettlement.trades done.stored)
      dsimp only at keeps ⊢
      omega
  | @scaled tradeId scale op done =>
      rw [op] at keeps
      have bound := done.sellBound
      have left := (within tradeId).2 done.active
      have grows : (w.settlement.trades tradeId).amountToSell ≤
          (w.settlement.trades tradeId).amountToSell * scale :=
        Nat.le_mul_of_pos_right _ done.positive
      apply within.of_update (congrArg TradeSettlement.trades done.stored)
      dsimp only at keeps ⊢
      generalize (w.settlement.trades tradeId).amountToSell * scale = product at *
      omega
  | settled op done =>
      rw [op] at keeps
      have available := done.available
      have whole := done.whole stored
      apply within.of_update (congrArg TradeSettlement.trades done.stored)
      dsimp only at keeps ⊢
      omega
  | cancelled op done =>
      apply within.of_update (congrArg TradeSettlement.trades done.stored)
      exact ⟨(within _).1, nofun⟩
  | moved op same =>
      intro id
      rw [same]
      exact within id

theorem not_within_of_effect (stored : Stored w) (loses : ¬ KeepsRemainder w made)
    (effect : Effect w made after) : ¬ after.FillsWithin := by
  intro within
  unfold KeepsRemainder at loses
  cases effect with
  | created op done =>
      rw [op] at loses
      have paid := done.feePaid
      have broken := (within w.settlement.nextTradeId).2
      rw [done.stored] at broken
      simp only [Function.update_self, true_implies] at broken
      dsimp only at loses
      omega
  | @scaled tradeId scale op done =>
      rw [op] at loses
      have hit : (w.settlement.trades tradeId).amountToSell * scale = 2 ^ 112 := not_not.mp loses
      have broken := (within tradeId).2
      rw [done.trade, hit] at broken
      have impossible := broken done.active
      dsimp only at impossible
      omega
  | @settled tradeId amountToSettle op done =>
      rw [op] at loses
      have full : (w.settlement.trades tradeId).filledAmountToSell + amountToSettle =
        (w.settlement.trades tradeId).amountToSell := not_not.mp loses
      have broken := (within tradeId).2
      rw [done.stored] at broken
      simp only [Function.update_self, done.whole stored, full, gt_iff_lt, Nat.lt_irrefl,
        if_false, done.active, true_implies] at broken
  | cancelled op done =>
      rw [op] at loses
      exact loses trivial
  | moved op same =>
      obtain ⟨msgSender, called, external⟩ := made
      cases called with
      | transfer token recipient value => exact loses trivial
      | approve token spender value => exact loses trivial
      | transferFrom token sender recipient value => exact loses trivial
      | createTrade | scaleTrade | settleTrade | cancelTrade => cases op

/-- A successful call keeps the bookkeeping just when it leaves a remainder. -/
theorem call_within_iff (stored : Stored w) (within : w.FillsWithin)
    (success : call w made = .ok after) : after.FillsWithin ↔ KeepsRemainder w made := by
  have effect := call_effect success
  constructor
  · intro kept
    by_contra loses
    exact not_within_of_effect stored loses effect kept
  · intro keeps
    exact effect_within stored within keeps effect

theorem run_within (deployer : Address → Address) (supply : Address → Nat)
    (calls : List (Call this))
    (keeps : Meets KeepsRemainderIfMade call (deployWorld deployer supply) calls) :
    (run call (deployWorld deployer supply) calls).FillsWithin := by
  have initial : (deployWorld deployer supply).FillsWithin := fun id => ⟨Nat.le_refl 0, nofun⟩
  have both := run_invariant_of_meets (fun w => Stored w ∧ w.FillsWithin)
    (fun state made next holds kept success =>
      ⟨holds.1.effect (call_effect success),
        (call_within_iff holds.1 holds.2 success).mpr (kept next success)⟩)
    calls _ ⟨Stored.of_deploy deployer supply, initial⟩ keeps
  exact both.2

/-- The subtraction of `cancelTrade` does not underflow while no fill exceeds its trade. -/
theorem Tokens.transfer_avoids {tokens : Tokens} {token msgSender recipient : Address}
    {value : Nat} {reason : Revert} (other : reason ∉ SimpleERC20.reverts) :
    Avoids reason (tokens.transfer token msgSender recipient value) := by
  apply avoids_bind (SimpleERC20.transfer_avoids other)
  intro _ _
  exact avoids_pure _ _

theorem cancelTrade_avoids {msgSender : Address} {tradeId : Nat}
    (filled : (w.settlement.trades tradeId).filledAmountToSell ≤
      (w.settlement.trades tradeId).amountToSell) :
    Avoids (.panic 0x11 "trade.amountToSell - trade.filledAmountToSell")
      (cancelTrade this msgSender tradeId w) := by
  apply avoids_bind avoids_require
  intro _ _
  apply avoids_bind
  · apply avoids_bind avoids_require
    intro _ _
    apply avoids_bind avoids_require
    intro _ _
    apply avoids_bind (avoids_checkedSub_of_le filled)
    intro remaining _
    apply avoids_bind
    · unfold refund
      split
      · apply avoids_bind (Tokens.transfer_avoids (by decide))
        intro _ _
        apply avoids_bind avoids_require
        intro _ _
        exact avoids_pure _ _
      · exact avoids_pure _ _
    · intro _ _
      exact avoids_pure _ _
  · intro _ _
    exact avoids_pure _ _

end Remainder

/-- In every run that leaves each open trade a remainder, fills stay within the amount
sold, open trades are not filled up, and cancelling one does not underflow. -/
theorem fills_within_amounts {this : Address} (deployer : Address → Address)
    (supply : Address → Nat) (calls : List (Call this))
    (keeps : Meets KeepsRemainderIfMade call (deployWorld deployer supply) calls) (id : Nat) :
    let w := run call (deployWorld deployer supply) calls
    let trade := w.settlement.trades id
    trade.filledAmountToSell ≤ trade.amountToSell ∧
      (trade.isActive = true → trade.filledAmountToSell < trade.amountToSell) ∧
      ∀ msgSender, cancelTrade this msgSender id w ≠
        .error (.panic 0x11 "trade.amountToSell - trade.filledAmountToSell") := by
  intro w trade
  have within := run_within deployer supply calls keeps id
  exact ⟨within.1, within.2, fun _ => cancelTrade_avoids within.1⟩

/-- The sample order, and another account that takes the whole of it. -/
def filledOrder : List (Call 1000) :=
  sampleOrder ++ [⟨11, .settleTrade 0 1, by decide⟩]

theorem sample_order_left_within :
    Meets KeepsRemainderIfMade call sampleWorld sampleOrder ∧
      ((run call sampleWorld sampleOrder).settlement.trades 0).filledAmountToSell <
        ((run call sampleWorld sampleOrder).settlement.trades 0).amountToSell := by
  have keeps : Meets KeepsRemainderIfMade call sampleWorld sampleOrder :=
    ⟨fun _ _ => trivial, fun _ _ => ⟨by decide, by decide⟩, trivial⟩
  have active : ((run call sampleWorld sampleOrder).settlement.trades 0).isActive = true := by
    decide +kernel
  exact ⟨keeps, (fills_within_amounts _ _ sampleOrder keeps 0).2.1 active⟩

/-- An order that is filled up stays open. -/
theorem filled_order_stays_open :
    ((run call sampleWorld filledOrder).settlement.trades 0).isActive = true ∧
      ¬ ((run call sampleWorld filledOrder).settlement.trades 0).filledAmountToSell <
        ((run call sampleWorld filledOrder).settlement.trades 0).amountToSell := by
  decide +kernel

section Pricing

variable {this : Address} {w after : World} {made : Call this} {id : Nat}

/-- A successful `settleTrade`: who took how much, and the states around it. -/
structure Fill where
  before : World
  after : World
  taker : Address
  amount : Nat

/-- The fill of this trade that the call is, if it is one. -/
def fillOf (id : Nat) (w : World) (made : Call this) : List Fill :=
  match made.op, call w made with
  | .settleTrade tradeId amountToSettle, .ok after =>
      if tradeId = id then [⟨w, after, made.msgSender, amountToSettle⟩] else []
  | _, _ => []

/-- The fills of one trade along a run. -/
def fills (id : Nat) : World → List (Call this) → List Fill
  | _, [] => []
  | w, made :: rest => fillOf id w made ++ fills id (commit call w made) rest

/-- The call is not a `scaleTrade` of this trade that succeeds. -/
def Unscaled (id : Nat) (w : World) (made : Call this) : Prop :=
  ∀ scale, made.op = .scaleTrade id scale → ∀ after, call w made ≠ .ok after

/-- What the taker pays for a fill, rounded down. -/
def Fill.price (trade : Trade) (fill : Fill) : Nat :=
  fill.amount * trade.amountToBuy / trade.amountToSell

/-- The token transfers of a fill: the price from the taker to the maker, and the
amount from the settlement to the taker. -/
def Fill.Paid (this : Address) (trade : Trade) (fill : Fill) : Prop :=
  ∃ tokens, fill.before.tokens.transferFrom trade.tokenToBuy this fill.taker trade.maker
      (fill.price trade) = .ok (tokens, true) ∧
    tokens.transfer trade.tokenToSell this fill.taker fill.amount = .ok (fill.after.tokens, true)

/-- What a fill used up of the allowance that its taker gave the settlement. -/
def Fill.drawn (this token : Address) (fill : Fill) : Nat :=
  (fill.before.tokens token).allowance fill.taker this -
    (fill.after.tokens token).allowance fill.taker this

theorem Fill.Paid.drawn_eq {trade : Trade} {fill : Fill} (paid : fill.Paid this trade) :
    fill.drawn this trade.tokenToBuy = fill.price trade := by
  obtain ⟨tokens, bought, sold⟩ := paid
  obtain ⟨_, allowed, rfl⟩ := Tokens.transferFrom_ok bought
  obtain ⟨_, spent⟩ := Tokens.transfer_ok sold
  have left : (fill.after.tokens trade.tokenToBuy).allowance fill.taker this =
      (fill.before.tokens trade.tokenToBuy).allowance fill.taker this - fill.price trade := by
    rw [spent]
    by_cases same : trade.tokenToBuy = trade.tokenToSell
    · rw [← same]
      simp
    · simp [Function.update_of_ne same]
  rw [Fill.drawn, left]
  omega

/-- Rounding each price down loses at most what rounding the total down loses. -/
theorem sum_price_le (trade : Trade) (done : List Fill) :
    (done.map (Fill.price trade)).sum ≤
      (done.map Fill.amount).sum * trade.amountToBuy / trade.amountToSell := by
  induction done with
  | nil => exact Nat.zero_le _
  | cons fill rest ih =>
      rw [List.map_cons, List.sum_cons, List.map_cons, List.sum_cons, Nat.add_mul]
      calc fill.price trade + (rest.map (Fill.price trade)).sum
          ≤ fill.price trade +
              (rest.map Fill.amount).sum * trade.amountToBuy / trade.amountToSell :=
            Nat.add_le_add_left ih _
        _ ≤ _ := Nat.div_add_div_le_add_div

/-- The asking price of any part of a trade is within the asking price of the whole. -/
theorem price_le {amount sell buy : Nat} (within : amount ≤ sell) : amount * buy / sell ≤ buy := by
  apply Nat.div_le_of_le_mul
  exact Nat.mul_le_mul_right buy within

/-- The terms of a trade, which fills and cancellation leave alone. -/
structure SameTerms (old new : Trade) : Prop where
  maker : new.maker = old.maker
  tokenToSell : new.tokenToSell = old.tokenToSell
  tokenToBuy : new.tokenToBuy = old.tokenToBuy
  amountToSell : new.amountToSell = old.amountToSell
  amountToBuy : new.amountToBuy = old.amountToBuy

theorem SameTerms.price {old new : Trade} (same : SameTerms old new) :
    Fill.price new = Fill.price old := by
  funext fill
  rw [Fill.price, same.amountToSell, same.amountToBuy, Fill.price]

theorem SameTerms.paid {old new : Trade} (same : SameTerms old new) {fill : Fill}
    (paid : fill.Paid this old) : fill.Paid this new := by
  unfold Fill.Paid
  rw [same.price, same.maker, same.tokenToSell, same.tokenToBuy]
  exact paid

/-- The counters of a trade that is never scaled are the sums over its fills. -/
structure Booked (this : Address) (id : Nat) (done : List Fill) (w : World) : Prop where
  stored : Stored w
  fresh : w.settlement.nextTradeId ≤ id → done = []
  sell : (w.settlement.trades id).filledAmountToSell = (done.map Fill.amount).sum
  buy : (w.settlement.trades id).filledAmountToBuy =
    (done.map (Fill.price (w.settlement.trades id))).sum
  within : (w.settlement.trades id).filledAmountToSell ≤ (w.settlement.trades id).amountToSell
  paid : ∀ fill ∈ done, fill.Paid this (w.settlement.trades id)

theorem Booked.of_deploy (deployer : Address → Address) (supply : Address → Nat) :
    Booked this id [] (deployWorld deployer supply) where
  stored := Stored.of_deploy deployer supply
  fresh := fun _ => rfl
  sell := rfl
  buy := rfl
  within := Nat.le_refl 0
  paid := nofun

theorem Booked.buy_le {done : List Fill} (booked : Booked this id done w) :
    (w.settlement.trades id).filledAmountToBuy ≤ (w.settlement.trades id).amountToBuy := by
  have within := booked.within
  rw [booked.sell] at within
  rw [booked.buy]
  exact (sum_price_le _ done).trans (price_le within)

/-- A call that leaves the counters and the terms of the trade leaves the books. -/
theorem Booked.untouched {done : List Fill} (booked : Booked this id done w)
    (stored : Stored after)
    (counted : w.settlement.nextTradeId ≤ after.settlement.nextTradeId)
    (terms : SameTerms (w.settlement.trades id) (after.settlement.trades id))
    (sell : (after.settlement.trades id).filledAmountToSell =
      (w.settlement.trades id).filledAmountToSell)
    (buy : (after.settlement.trades id).filledAmountToBuy =
      (w.settlement.trades id).filledAmountToBuy) :
    Booked this id done after where
  stored := stored
  fresh := fun past => booked.fresh (counted.trans past)
  sell := sell.trans booked.sell
  buy := by
    rw [buy, terms.price]
    exact booked.buy
  within := by
    rw [sell, terms.amountToSell]
    exact booked.within
  paid := fun fill member => terms.paid (booked.paid fill member)

theorem Booked.same {done : List Fill} (booked : Booked this id done w) (stored : Stored after)
    (counted : w.settlement.nextTradeId ≤ after.settlement.nextTradeId)
    (trade : after.settlement.trades id = w.settlement.trades id) : Booked this id done after := by
  apply booked.untouched stored counted
  · rw [trade]
    exact ⟨rfl, rfl, rfl, rfl, rfl⟩
  · rw [trade]
  · rw [trade]

theorem fillOf_error {reason : Revert} (failed : call w made = .error reason) :
    fillOf id w made = [] := by
  unfold fillOf
  rw [failed]
  split
  · rename_i success
    cases success
  · rfl

theorem fillOf_settled {tradeId amountToSettle : Nat}
    (op : made.op = .settleTrade tradeId amountToSettle) (success : call w made = .ok after) :
    fillOf id w made =
      if tradeId = id then [⟨w, after, made.msgSender, amountToSettle⟩] else [] := by
  unfold fillOf
  rw [op, success]

theorem fillOf_other
    (other : ∀ tradeId amountToSettle, made.op ≠ .settleTrade tradeId amountToSettle) :
    fillOf id w made = [] := by
  unfold fillOf
  split
  · rename_i tradeId amountToSettle after op success
    exact absurd op (other tradeId amountToSettle)
  · rfl

/-- A fill of the trade enters the books. -/
theorem Booked.filled {done : List Fill} {msgSender : Address} {amountToSettle : Nat}
    (booked : Booked this id done w)
    (settled : Settled this msgSender id amountToSettle w after) (stored : Stored after) :
    Booked this id (done ++ [⟨w, after, msgSender, amountToSettle⟩]) after := by
  have available := settled.available
  have whole := settled.whole booked.stored
  have counted := booked.stored.inside settled.active
  have cheap : amountToSettle * (w.settlement.trades id).amountToBuy /
      (w.settlement.trades id).amountToSell < 2 ^ 112 := by
    have bound := booked.stored.buyNarrow id
    have most : amountToSettle * (w.settlement.trades id).amountToBuy /
      (w.settlement.trades id).amountToSell ≤ _ := price_le (by omega)
    omega
  have trade : after.settlement.trades id = { w.settlement.trades id with
      filledAmountToSell := (w.settlement.trades id).filledAmountToSell + amountToSettle
      filledAmountToBuy := (w.settlement.trades id).filledAmountToBuy +
        amountToSettle * (w.settlement.trades id).amountToBuy /
          (w.settlement.trades id).amountToSell } := by
    have unclosed : ¬ (w.settlement.trades id).filledAmountToSell + amountToSettle >
        (w.settlement.trades id).amountToSell := by omega
    rw [settled.stored]
    simp only [Function.update_self, whole, if_neg unclosed, Nat.mod_eq_of_lt cheap]
  have terms : SameTerms (w.settlement.trades id) (after.settlement.trades id) := by
    rw [trade]
    exact ⟨rfl, rfl, rfl, rfl, rfl⟩
  have next : after.settlement.nextTradeId = w.settlement.nextTradeId := by rw [settled.stored]
  constructor
  · exact stored
  · intro past
    omega
  · rw [trade, List.map_append, List.sum_append, ← booked.sell]
    simp
  · rw [terms.price, trade, List.map_append, List.sum_append, ← booked.buy]
    simp [Fill.price]
  · rw [trade]
    exact available
  · intro fill member
    rcases List.mem_append.mp member with earlier | last
    · exact terms.paid (booked.paid fill earlier)
    · rw [List.mem_singleton.mp last]
      exact terms.paid settled.paid

theorem Booked.call {done : List Fill} (booked : Booked this id done w)
    (unscaled : Unscaled id w made) (success : call w made = .ok after) :
    Booked this id (done ++ fillOf id w made) after := by
  have effect := call_effect success
  have stored := booked.stored.effect effect
  cases effect with
  | created op created =>
      rw [fillOf_other (by rw [op]; nofun), List.append_nil]
      by_cases new : id = w.settlement.nextTradeId
      · have empty := booked.fresh (Nat.le_of_eq new.symm)
        subst empty
        have trade := congrArg (fun settlement => settlement.trades id) created.stored
        subst new
        simp only [Function.update_self] at trade
        constructor
        · exact stored
        · exact fun _ => rfl
        · rw [trade]
          rfl
        · rw [trade]
          rfl
        · rw [trade]
          exact Nat.zero_le _
        · exact nofun
      · have trade : after.settlement.trades id = w.settlement.trades id := by
          rw [created.stored]
          exact Function.update_of_ne new _ _
        have counted : w.settlement.nextTradeId ≤ after.settlement.nextTradeId := by
          rw [created.stored]
          exact Nat.le_succ _
        exact booked.same stored counted trade
  | @scaled tradeId scale op scaled =>
      have other : id ≠ tradeId := by
        rintro rfl
        exact unscaled scale op after success
      rw [fillOf_other (by rw [op]; nofun), List.append_nil]
      exact booked.same stored (by rw [scaled.stored]) (scaled.other other)
  | @settled tradeId amountToSettle op settled =>
      rw [fillOf_settled op success]
      by_cases same : tradeId = id
      · subst same
        rw [if_pos rfl]
        exact booked.filled settled stored
      · have trade : after.settlement.trades id = w.settlement.trades id := by
          rw [settled.stored]
          exact Function.update_of_ne (Ne.symm same) _ _
        rw [if_neg same, List.append_nil]
        exact booked.same stored (by rw [settled.stored]) trade
  | @cancelled tradeId op cancelled =>
      have trade : after.settlement.trades id = { w.settlement.trades id with
          isActive := (after.settlement.trades id).isActive } := by
        rw [cancelled.stored]
        by_cases same : id = tradeId
        · subst same
          simp
        · simp [Function.update_of_ne same]
      rw [fillOf_other (by rw [op]; nofun), List.append_nil]
      apply booked.untouched stored
      · rw [cancelled.stored]
      · rw [trade]
        exact ⟨rfl, rfl, rfl, rfl, rfl⟩
      · rw [trade]
      · rw [trade]
  | moved op same =>
      have other : ∀ tradeId amountToSettle, made.op ≠ .settleTrade tradeId amountToSettle := by
        intro tradeId amountToSettle settles
        rw [settles] at op
        cases op
      rw [fillOf_other other, List.append_nil]
      exact booked.same stored (by rw [same]) (by rw [same])

theorem Booked.run {done : List Fill} (calls : List (Call this)) (booked : Booked this id done w)
    (unscaled : Meets (Unscaled id) EightInch.call w calls) :
    Booked this id (done ++ fills id w calls) (Evm.run EightInch.call w calls) := by
  induction calls generalizing w done with
  | nil =>
      rw [fills, List.append_nil]
      exact booked
  | cons made rest ih =>
      rw [fills, ← List.append_assoc, run_cons]
      apply ih _ unscaled.2
      cases result : EightInch.call w made with
      | ok next =>
          rw [commit_ok result]
          exact booked.call unscaled.1 result
      | error reason =>
          rw [commit_error result, fillOf_error result, List.append_nil]
          exact booked

/-- What `settleTrade` could still fail with after its check of the amount, token
failures apart: the division, the casts and the 112-bit additions. -/
def lateReverts : List Revert :=
  [.panic 0x12 "tradeAmount / trade.amountToSell",
    .reason "SafeUint112: value exceeds uint112 max",
    .panic 0x11 "trade.filledAmountToSell += safeCast(_amountToSettle)",
    .panic 0x11 "trade.filledAmountToBuy += safeCast(tradeAmount / trade.amountToSell)"]

theorem safeCast_of_lt {value : Nat} (fits : value < 2 ^ 112) : safeCast value = .ok value :=
  safeCast_ok_iff.mpr ⟨Nat.le_of_lt fits, Nat.mod_eq_of_lt fits⟩

theorem Tokens.transferFrom_avoids {tokens : Tokens} {token msgSender sender recipient : Address}
    {value : Nat} {reason : Revert} (other : reason ∉ SimpleERC20.reverts) :
    Avoids reason (tokens.transferFrom token msgSender sender recipient value) := by
  apply avoids_bind (SimpleERC20.transferFrom_avoids other)
  intro _ _
  exact avoids_pure _ _

/-- The price of a fill that is still available fits beside the prices already paid. -/
theorem Booked.price_fits {done : List Fill} (booked : Booked this id done w) {amount : Nat}
    (available : (w.settlement.trades id).filledAmountToSell + amount ≤
      (w.settlement.trades id).amountToSell) :
    (w.settlement.trades id).filledAmountToBuy + amount * (w.settlement.trades id).amountToBuy /
      (w.settlement.trades id).amountToSell < 2 ^ 112 := by
  have narrow := booked.stored.buyNarrow id
  have paid := sum_price_le (w.settlement.trades id) done
  have total : (w.settlement.trades id).filledAmountToSell * (w.settlement.trades id).amountToBuy /
        (w.settlement.trades id).amountToSell +
      amount * (w.settlement.trades id).amountToBuy / (w.settlement.trades id).amountToSell ≤
        ((w.settlement.trades id).filledAmountToSell + amount) *
          (w.settlement.trades id).amountToBuy / (w.settlement.trades id).amountToSell := by
    rw [Nat.add_mul]
    exact Nat.div_add_div_le_add_div
  have most : ((w.settlement.trades id).filledAmountToSell + amount) *
      (w.settlement.trades id).amountToBuy / (w.settlement.trades id).amountToSell ≤ _ :=
    price_le available
  rw [← booked.buy, ← booked.sell] at paid
  omega

theorem Booked.settleTrade_avoids {done : List Fill} (booked : Booked this id done w)
    {taker : Address} {amount : Nat} {reason : Revert} (late : reason ∈ lateReverts) :
    Avoids reason (settleTrade this taker id amount w) := by
  have distinct : ∀ revert, revert ∉ lateReverts → revert ≠ reason := fun _ outside same =>
    outside (same ▸ late)
  have noToken : reason ∉ SimpleERC20.reverts := by
    have apart : ∀ revert ∈ lateReverts, revert ∉ SimpleERC20.reverts := by decide
    exact apart reason late
  have narrow := booked.stored.sellNarrow id
  apply avoids_bind (avoids_require_of_ne (distinct _ (by decide)))
  intro _ _
  apply avoids_bind
  · apply avoids_bind (avoids_require_of_ne (distinct _ (by decide)))
    intro _ _
    apply avoids_bind (avoids_require_of_ne (distinct _ (by decide)))
    intro _ positive
    apply avoids_bind (avoids_checkedMul_of_ne (distinct _ (by decide)))
    intro tradeAmount multiplied
    apply avoids_bind (avoids_checkedAdd_of_ne (distinct _ (by decide)))
    intro filled added
    apply avoids_bind (avoids_require_of_ne (distinct _ (by decide)))
    intro _ checked
    -- past the check of the amount nothing of the arithmetic can fail
    have positive : 0 < amount := require_ok_iff.mp positive
    have multiplied := (checkedMul_ok_iff.mp multiplied).2
    have added := (checkedAdd_ok_iff.mp added).2
    have available : filled ≤ (w.settlement.trades id).amountToSell := require_ok_iff.mp checked
    rw [← added] at available
    have fits := booked.price_fits available
    have divides : checkedDiv tradeAmount (w.settlement.trades id).amountToSell
        "tradeAmount / trade.amountToSell" =
          .ok (amount * (w.settlement.trades id).amountToBuy /
            (w.settlement.trades id).amountToSell) := by
      rw [checkedDiv_ok_iff, multiplied]
      exact ⟨by omega, rfl⟩
    apply avoids_bind (avoids_of_ok divides)
    intro price divided
    obtain rfl := Except.ok.inj (divides.symm.trans divided)
    apply avoids_bind (Tokens.transferFrom_avoids noToken)
    intro _ _
    apply avoids_bind (avoids_require_of_ne (distinct _ (by decide)))
    intro _ _
    apply avoids_bind (Tokens.transfer_avoids noToken)
    intro _ _
    apply avoids_bind (avoids_require_of_ne (distinct _ (by decide)))
    intro _ _
    have castSell := safeCast_of_lt (by omega : amount < 2 ^ 112)
    apply avoids_bind (avoids_of_ok castSell)
    intro sold sell
    obtain rfl := Except.ok.inj (castSell.symm.trans sell)
    apply avoids_bind (avoids_of_ok (checkedAdd_ok_iff.mpr ⟨by omega, rfl⟩))
    intro _ _
    have castBuy := safeCast_of_lt (Nat.lt_of_le_of_lt (Nat.le_add_left _ _) fits)
    apply avoids_bind (avoids_of_ok castBuy)
    intro bought buy
    obtain rfl := Except.ok.inj (castBuy.symm.trans buy)
    apply avoids_bind (avoids_of_ok (checkedAdd_ok_iff.mpr ⟨fits, rfl⟩))
    intro _ _
    exact avoids_pure _ _
  · intro _ _
    exact avoids_pure _ _

end Pricing

/-- Over every run that does not scale a trade: its counters are the sums of its fills
and of their prices, within the amounts of the trade; the prices are what its takers
paid to the maker; and once the amount of a fill has been checked only a token can
make it fail. -/
theorem fills_priced {this : Address} (deployer : Address → Address) (supply : Address → Nat)
    (calls : List (Call this)) (id : Nat)
    (unscaled : Meets (Unscaled id) call (deployWorld deployer supply) calls) :
    let w := run call (deployWorld deployer supply) calls
    let trade := w.settlement.trades id
    let done := fills id (deployWorld deployer supply) calls
    (trade.filledAmountToSell = (done.map Fill.amount).sum ∧
      trade.filledAmountToSell ≤ trade.amountToSell) ∧
    (trade.filledAmountToBuy =
        (done.map fun fill => fill.amount * trade.amountToBuy / trade.amountToSell).sum ∧
      trade.filledAmountToBuy ≤ trade.amountToBuy) ∧
    (trade.filledAmountToBuy = (done.map (Fill.drawn this trade.tokenToBuy)).sum ∧
      ∀ fill ∈ done, fill.Paid this trade) ∧
    ∀ taker amount, ∀ reason ∈ lateReverts,
      settleTrade this taker id amount w ≠ .error reason := by
  intro w trade done
  have booked : Booked this id done w :=
    (Booked.of_deploy deployer supply).run calls unscaled
  have drawn : done.map (Fill.drawn this trade.tokenToBuy) = done.map (Fill.price trade) := by
    apply List.map_congr_left
    intro fill member
    exact (booked.paid fill member).drawn_eq
  refine ⟨⟨booked.sell, booked.within⟩, ⟨booked.buy, booked.buy_le⟩, ⟨?_, booked.paid⟩, ?_⟩
  · rw [drawn]
    exact booked.buy
  · intro taker amount reason late
    exact booked.settleTrade_avoids late

/-- Account 10 sells 7 for 3, and account 11 takes 2 and then 5 of it. -/
def splitOrder : List (Call 1000) :=
  [sampleCall (.approve 1 1000 37), sampleCall (.createTrade 1 2 37 3),
    sampleCall (.transfer 2 11 20), ⟨11, .approve 2 1000 20, by decide⟩,
    ⟨11, .settleTrade 0 2, by decide⟩, ⟨11, .settleTrade 0 5, by decide⟩]

def splitWorld : World := deployWorld (fun _ => 10) (fun _ => 50)

theorem split_order_priced :
    Meets (Unscaled 0) call splitWorld splitOrder ∧
      ((run call splitWorld splitOrder).settlement.trades 0).filledAmountToSell = 7 ∧
      ((run call splitWorld splitOrder).settlement.trades 0).filledAmountToBuy ≤ 3 := by
  have unscaled : Meets (Unscaled 0) call splitWorld splitOrder := by
    refine ⟨?_, ?_, ?_, ?_, ?_, ?_, trivial⟩ <;> intro scale op <;> cases op
  have priced := fills_priced (fun _ => 10) (fun _ => 50) splitOrder 0 unscaled
  have sold : ((run call splitWorld splitOrder).settlement.trades 0).filledAmountToSell = 7 := by
    decide +kernel
  have asked : ((run call splitWorld splitOrder).settlement.trades 0).amountToBuy = 3 := by
    decide +kernel
  refine ⟨unscaled, sold, ?_⟩
  rw [← asked]
  exact priced.2.1.2

end EightInch
