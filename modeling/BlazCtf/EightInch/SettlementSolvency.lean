import BlazCtf.EightInch.SettlementSpec
import BlazCtf.EightInch.SettlementTokens
import Mathlib.Algebra.BigOperators.Ring.Finset

set_option autoImplicit false

namespace EightInch

open Evm
open Function (update)

/-- What an open order still has to pay out in `token`. -/
def Trade.owed (token : Address) (trade : Trade) : Nat :=
  if trade.isActive ∧ trade.tokenToSell = token then
    trade.amountToSell - trade.filledAmountToSell
  else 0

/-- The unfilled remainder of all open orders selling `token`. Ids from
`nextTradeId` on hold the unset trade, which is not active. -/
def World.outstanding (w : World) (token : Address) : Int :=
  ∑ id ∈ Finset.range w.settlement.nextTradeId,
    if (w.settlement.trades id).isActive ∧ (w.settlement.trades id).tokenToSell = token then
      ((w.settlement.trades id).amountToSell : Int) - (w.settlement.trades id).filledAmountToSell
    else 0

/-- The escrow account of the settlement: nothing approved, nothing stored past
the counter, amounts of the stored width, and every token pooled in at least the
amount still owed in it. -/
structure Solvent (this : Address) (w : World) : Prop where
  feeValue : w.settlement.fee = 30
  unapproved : w.tokens.Unapproved this
  fresh : ∀ id, w.settlement.nextTradeId ≤ id → (w.settlement.trades id).isActive = false
  narrow : ∀ id, (w.settlement.trades id).amountToSell < 2 ^ 112
  covered : ∀ token, (∑ id ∈ Finset.range w.settlement.nextTradeId,
    (w.settlement.trades id).owed token) ≤ w.tokens.held this token

namespace Solvent

variable {this : Address} {w after : World}

theorem of_deploy (deployer : Address → Address) (supply : Address → Nat) :
    Solvent this (deployWorld deployer supply) := by
  refine ⟨rfl, fun _ _ => rfl, fun _ _ => rfl, fun _ => Nat.two_pow_pos 112, ?_⟩
  intro token
  exact Nat.zero_le _

theorem inside (solvent : Solvent this w) {id : Nat}
    (active : (w.settlement.trades id).isActive = true) :
    id ∈ Finset.range w.settlement.nextTradeId := by
  rw [Finset.mem_range]
  by_contra outside
  rw [solvent.fresh id (by omega)] at active
  cases active

/-- A step that touches no trade may only add to the holdings. -/
theorem of_more (solvent : Solvent this w) (same : after.settlement = w.settlement)
    (unapproved : after.tokens.Unapproved this)
    (more : ∀ token, w.tokens.held this token ≤ after.tokens.held this token) :
    Solvent this after := by
  refine ⟨?_, unapproved, ?_, ?_, ?_⟩
  · rw [same]
    exact solvent.feeValue
  · rw [same]
    exact solvent.fresh
  · rw [same]
    exact solvent.narrow
  · intro token
    rw [same]
    exact (solvent.covered token).trans (more token)

theorem narrow_update (solvent : Solvent this w) (id : Nat) {trade : Trade}
    (fits : trade.amountToSell < 2 ^ 112) (other : Nat) :
    (update w.settlement.trades id trade other).amountToSell < 2 ^ 112 := by
  by_cases same : other = id
  · subst same
    simpa using fits
  · simpa [Function.update_of_ne same] using solvent.narrow other

/-- Rewriting one stored trade keeps the escrow covered when the change in what
that trade is owed is matched by the change in the holdings. -/
theorem of_update (solvent : Solvent this w) (id : Nat) (trade : Trade) (locked : Bool)
    (inside : id ∈ Finset.range w.settlement.nextTradeId)
    (stored : after.settlement =
      { w.settlement with trades := update w.settlement.trades id trade, locked := locked })
    (fits : trade.amountToSell < 2 ^ 112) (unapproved : after.tokens.Unapproved this)
    (matched : ∀ token, trade.owed token + w.tokens.held this token ≤
      (w.settlement.trades id).owed token + after.tokens.held this token) :
    Solvent this after := by
  refine ⟨?_, unapproved, ?_, ?_, ?_⟩
  · rw [stored]
    exact solvent.feeValue
  · intro other past
    rw [stored] at past ⊢
    have distinct : other ≠ id := by
      rintro rfl
      rw [Finset.mem_range] at inside
      exact absurd past (by simpa using inside)
    simpa [Function.update_of_ne distinct] using solvent.fresh other past
  · rw [stored]
    exact solvent.narrow_update id fits
  · intro token
    have moved := Ledger.sum_update_add (Finset.range w.settlement.nextTradeId)
      (Trade.owed token) w.settlement.trades inside trade
    have before := solvent.covered token
    have change := matched token
    rw [stored]
    change (∑ k ∈ Finset.range w.settlement.nextTradeId,
      (update w.settlement.trades id trade k).owed token) ≤ after.tokens.held this token
    omega

/-- Appending a trade at the counter keeps the escrow covered when the deposit
pays for what the trade is owed. -/
theorem of_append (solvent : Solvent this w) (trade : Trade) (locked : Bool)
    (stored : after.settlement =
      { w.settlement with
        trades := update w.settlement.trades w.settlement.nextTradeId trade
        nextTradeId := w.settlement.nextTradeId + 1
        locked := locked })
    (fits : trade.amountToSell < 2 ^ 112) (unapproved : after.tokens.Unapproved this)
    (matched : ∀ token,
      trade.owed token + w.tokens.held this token ≤ after.tokens.held this token) :
    Solvent this after := by
  refine ⟨?_, unapproved, ?_, ?_, ?_⟩
  · rw [stored]
    exact solvent.feeValue
  · intro other past
    rw [stored] at past ⊢
    have later : w.settlement.nextTradeId + 1 ≤ other := past
    have distinct : other ≠ w.settlement.nextTradeId := by omega
    simpa [Function.update_of_ne distinct] using solvent.fresh other (by omega)
  · rw [stored]
    exact solvent.narrow_update _ fits
  · intro token
    have before := solvent.covered token
    have change := matched token
    rw [stored]
    change (∑ k ∈ Finset.range (w.settlement.nextTradeId + 1),
      (update w.settlement.trades w.settlement.nextTradeId trade k).owed token) ≤
        after.tokens.held this token
    rw [Finset.sum_range_succ, Function.update_self,
      Ledger.sum_update_outside _ _ _ Finset.notMem_range_self]
    omega

end Solvent

section Steps

variable {this msgSender : Address} {w after : World}

theorem collectScaled_ok {tokens final : Tokens} {token : Address} {original needed : Nat}
    (success : collectScaled this msgSender tokens token original needed = .ok final)
    (external : msgSender ≠ this) (fresh : tokens.Unapproved this) :
    final.Unapproved this ∧ ∀ other, final.held this other =
      tokens.held this other + if other = token then needed - original else 0 := by
  unfold collectScaled at success
  split at success
  · simp only [bind_ok_iff, require_ok_iff, pure_ok_iff, checkedSub_ok_iff, Prod.exists] at success
    obtain ⟨_, ⟨_, rfl⟩, moved, _, collected, _, _, rfl⟩ := success
    exact ⟨Tokens.transferFrom_unapproved collected fresh, Tokens.collect_held collected external⟩
  · rename_i enough
    rw [pure_ok_iff] at success
    subst success
    have nothing : needed - original = 0 := by omega
    simp [nothing, fresh]

theorem refund_ok {tokens final : Tokens} {trade : Trade} {remaining : Nat}
    (success : refund this tokens trade remaining = .ok final)
    (external : trade.maker ≠ this) (fresh : tokens.Unapproved this) :
    final.Unapproved this ∧ ∀ other, final.held this other +
      (if other = trade.tokenToSell then remaining else 0) = tokens.held this other := by
  unfold refund at success
  split at success
  · simp only [bind_ok_iff, require_ok_iff, pure_ok_iff, Prod.exists] at success
    obtain ⟨moved, _, paid, _, _, rfl⟩ := success
    exact ⟨Tokens.transfer_unapproved paid fresh, Tokens.pay_held paid external⟩
  · rename_i empty
    rw [pure_ok_iff] at success
    subst success
    have nothing : remaining = 0 := by omega
    simp [nothing, fresh]

theorem createTrade_solvent {tokenToSell tokenToBuy : Address} {amountToSell amountToBuy : Nat}
    (solvent : Solvent this w) (external : msgSender ≠ this)
    (created : Created this msgSender tokenToSell tokenToBuy amountToSell amountToBuy w after) :
    Solvent this after := by
  refine solvent.of_append _ _ created.stored (Nat.mod_lt _ (Nat.two_pow_pos 112))
    (Tokens.transferFrom_unapproved created.collected solvent.unapproved) ?_
  intro token
  rw [Tokens.collect_held created.collected external token]
  have shrunk := Nat.mod_le (amountToSell - w.settlement.fee) (2 ^ 112)
  by_cases sold : tokenToSell = token
  · subst sold
    simp only [Trade.owed, and_self, ↓reduceIte]
    omega
  · simp [Trade.owed, sold]

/-- A scaled order grows by at most what the top-up collects, except when the
amount with its fee lands on the accepted bound and is truncated to zero. -/
theorem scaled_growth {original scale : Nat} (filled : Nat) (positive : 0 < scale)
    (bounded : original * scale ≤ 2 ^ 112)
    (boundedFee : original * scale % 2 ^ 112 + 30 ≤ 2 ^ 112)
    (notBoundary : ¬ (1 < scale ∧ original * scale + 30 = 2 ^ 112)) :
    original * scale % 2 ^ 112 - filled ≤
      (original - filled) + ((original * scale % 2 ^ 112 + 30) % 2 ^ 112 - original) := by
  have grows : original ≤ original * scale := Nat.le_mul_of_pos_right original positive
  have single : scale = 1 → original * scale = original := by
    rintro rfl
    exact Nat.mul_one original
  generalize original * scale = scaled at *
  omega

theorem scaleTrade_solvent {tradeId scale : Nat} (solvent : Solvent this w)
    (external : msgSender ≠ this) (scaled : Scaled this msgSender tradeId scale w after)
    (notBoundary : ¬ (1 < scale ∧
      (w.settlement.trades tradeId).amountToSell * scale + w.settlement.fee = 2 ^ 112)) :
    Solvent this after := by
  obtain ⟨unapproved, credited⟩ :=
    collectScaled_ok scaled.collected external solvent.unapproved
  have feeBound := scaled.feeBound
  rw [solvent.feeValue] at notBoundary feeBound
  have growth := scaled_growth (w.settlement.trades tradeId).filledAmountToSell scaled.positive
    scaled.sellBound feeBound notBoundary
  refine solvent.of_update tradeId _ _ (solvent.inside scaled.active) scaled.stored
    (Nat.mod_lt _ (Nat.two_pow_pos 112)) unapproved ?_
  intro token
  rw [credited token, solvent.feeValue]
  by_cases sold : (w.settlement.trades tradeId).tokenToSell = token
  · subst sold
    simp only [Trade.owed, scaled.active, and_self, ↓reduceIte]
    omega
  · simp [Trade.owed, sold]

theorem settleTrade_solvent {tradeId amountToSettle : Nat} (solvent : Solvent this w)
    (external : msgSender ≠ this)
    (settled : Settled this msgSender tradeId amountToSettle w after) :
    Solvent this after := by
  obtain ⟨middle, bought, sold⟩ := settled.paid
  have unapproved := Tokens.transferFrom_unapproved bought solvent.unapproved
  refine solvent.of_update tradeId _ _ (solvent.inside settled.active) settled.stored
    (solvent.narrow tradeId) (Tokens.transfer_unapproved sold unapproved) ?_
  intro token
  have gained := Tokens.transferFrom_held bought solvent.unapproved token
  have spent := Tokens.pay_held sold external token
  have available := settled.available
  have whole : amountToSettle % 2 ^ 112 = amountToSettle := by
    apply Nat.mod_eq_of_lt
    have narrow := solvent.narrow tradeId
    omega
  rw [whole]
  by_cases sells : (w.settlement.trades tradeId).tokenToSell = token
  · subst sells
    have unclosed : ¬ (w.settlement.trades tradeId).filledAmountToSell + amountToSettle >
      (w.settlement.trades tradeId).amountToSell := by omega
    simp only [Trade.owed, settled.active, unclosed, and_self, ↓reduceIte] at spent ⊢
    omega
  · simp only [Trade.owed, sells, and_false, ↓reduceIte, if_neg (Ne.symm sells)] at spent ⊢
    omega

theorem cancelTrade_solvent {tradeId : Nat} (solvent : Solvent this w)
    (external : msgSender ≠ this) (cancelled : Cancelled this msgSender tradeId w after) :
    Solvent this after := by
  have maker : (w.settlement.trades tradeId).maker ≠ this := by
    rw [← cancelled.maker]
    exact external
  obtain ⟨unapproved, debited⟩ := refund_ok cancelled.refunded maker solvent.unapproved
  refine solvent.of_update tradeId _ _ (solvent.inside cancelled.active) cancelled.stored
    (solvent.narrow tradeId) unapproved ?_
  intro token
  have spent := debited token
  by_cases sells : (w.settlement.trades tradeId).tokenToSell = token
  · subst sells
    simp only [Trade.owed, cancelled.active, and_self, ↓reduceIte, Bool.false_eq_true,
      false_and] at spent ⊢
    omega
  · simp only [Trade.owed, sells, and_false, ↓reduceIte, if_neg (Ne.symm sells)] at spent ⊢
    omega

end Steps

/-- The one call that records more than it collects: a maker scaling an open,
unpaid order by at least two so that the new amount and the fee add up to the
bound `2 ^ 112` that `safeCast` accepts and truncates to zero. -/
def HitsBoundary {this : Address} (w : World) (made : Call this) : Prop :=
  match made.op with
  | .scaleTrade tradeId scale =>
      made.msgSender = (w.settlement.trades tradeId).maker ∧
        (w.settlement.trades tradeId).isActive = true ∧
        (w.settlement.trades tradeId).filledAmountToBuy = 0 ∧
        (w.settlement.trades tradeId).amountToBuy * scale ≤ 2 ^ 112 ∧
        1 < scale ∧
        (w.settlement.trades tradeId).amountToSell * scale + w.settlement.fee = 2 ^ 112
  | _ => False

theorem call_solvent {this : Address} {w after : World} {made : Call this}
    (solvent : Solvent this w) (safe : ¬ HitsBoundary w made)
    (success : call w made = .ok after) : Solvent this after := by
  obtain ⟨msgSender, op, external⟩ := made
  cases op with
  | createTrade tokenToSell tokenToBuy amountToSell amountToBuy =>
      exact createTrade_solvent solvent external (createTrade_ok success)
  | scaleTrade tradeId scale =>
      have scaled := scaleTrade_ok success
      refine scaleTrade_solvent solvent external scaled ?_
      rintro ⟨grows, boundary⟩
      exact safe ⟨scaled.maker, scaled.active, scaled.unfilled, scaled.buyBound, grows, boundary⟩
  | settleTrade tradeId amountToSettle =>
      exact settleTrade_solvent solvent external (settleTrade_ok success)
  | cancelTrade tradeId =>
      exact cancelTrade_solvent solvent external (cancelTrade_ok success)
  | transfer token recipient value =>
      simp only [call, bind_ok_iff, pure_ok_iff, Prod.exists] at success
      obtain ⟨tokens, _, moved, rfl⟩ := success
      exact solvent.of_more rfl (Tokens.transfer_unapproved moved solvent.unapproved)
        (Tokens.transfer_held moved external)
  | approve token spender value =>
      simp only [call, bind_ok_iff, pure_ok_iff, Prod.exists] at success
      obtain ⟨tokens, _, moved, rfl⟩ := success
      exact solvent.of_more rfl (Tokens.approve_unapproved moved solvent.unapproved external)
        (fun token => Nat.le_of_eq (Tokens.approve_held moved token).symm)
  | transferFrom token sender recipient value =>
      simp only [call, bind_ok_iff, pure_ok_iff, Prod.exists] at success
      obtain ⟨tokens, _, moved, rfl⟩ := success
      exact solvent.of_more rfl (Tokens.transferFrom_unapproved moved solvent.unapproved)
        (Tokens.transferFrom_held moved solvent.unapproved)

theorem run_solvent {this : Address} (deployer : Address → Address) (supply : Address → Nat)
    (calls : List (Call this))
    (safe : Meets (fun w made => ¬ HitsBoundary w made) call (deployWorld deployer supply) calls) :
    Solvent this (run call (deployWorld deployer supply) calls) :=
  run_invariant_of_meets (Solvent this) (fun _ _ _ => call_solvent) calls _
    (Solvent.of_deploy deployer supply) safe

/-- Signed remainders are bounded by the truncated ones. -/
theorem outstanding_le_owed (w : World) (token : Address) :
    w.outstanding token ≤ ((∑ id ∈ Finset.range w.settlement.nextTradeId,
      (w.settlement.trades id).owed token : Nat) : Int) := by
  rw [Nat.cast_sum]
  apply Finset.sum_le_sum
  intro id _
  unfold Trade.owed
  split <;> omega

/-- In every run that never scales an order onto the bound, the settlement's
balance of each token covers the open orders selling it: together, also where one
that is overfilled does not make up for the others, and so each on its own. -/
theorem settlement_covers_open_orders {this : Address} (deployer : Address → Address)
    (supply : Address → Nat) (calls : List (Call this))
    (safe : Meets (fun w made => ¬ HitsBoundary w made) call (deployWorld deployer supply) calls)
    (token : Address) :
    let w := run call (deployWorld deployer supply) calls
    w.outstanding token ≤ (w.tokens token).balanceOf this ∧
      (∑ id ∈ Finset.range w.settlement.nextTradeId, (w.settlement.trades id).owed token) ≤
        (w.tokens token).balanceOf this ∧
      ∀ id, (w.settlement.trades id).isActive = true →
        (w.settlement.trades id).tokenToSell = token →
        (w.settlement.trades id).amountToSell ≤
          (w.settlement.trades id).filledAmountToSell + (w.tokens token).balanceOf this := by
  intro w
  have solvent := run_solvent deployer supply calls safe
  have covered : (∑ id ∈ Finset.range w.settlement.nextTradeId,
      (w.settlement.trades id).owed token) ≤ (w.tokens token).balanceOf this :=
    solvent.covered token
  refine ⟨?_, covered, ?_⟩
  · calc w.outstanding token
        ≤ ((∑ id ∈ Finset.range w.settlement.nextTradeId,
            (w.settlement.trades id).owed token : Nat) : Int) := outstanding_le_owed w token
      _ ≤ (w.tokens token).balanceOf this := Int.ofNat_le.mpr covered
  · intro id active sells
    have single : (w.settlement.trades id).owed token ≤
        ∑ id ∈ Finset.range w.settlement.nextTradeId, (w.settlement.trades id).owed token :=
      Finset.single_le_sum (f := fun id => (w.settlement.trades id).owed token)
        (fun _ _ => Nat.zero_le _) (solvent.inside active)
    have owed : (w.settlement.trades id).owed token =
        (w.settlement.trades id).amountToSell - (w.settlement.trades id).filledAmountToSell := by
      simp only [Trade.owed, active, sells, and_self, ↓reduceIte]
    omega

/-- Deployments and calls of the concrete runs below: account 10 deploys the
token at address 1 with 31 units and trades on the settlement at address 1000. -/
def sampleWorld : World := deployWorld (fun _ => 10) (fun _ => 31)

def sampleCall (op : Op) : Call 1000 := ⟨10, op, by decide⟩

def sampleOrder : List (Call 1000) :=
  [sampleCall (.approve 1 1000 31), sampleCall (.createTrade 1 2 31 0)]

theorem settlement_covers_sample_order :
    Meets (fun w made => ¬ HitsBoundary w made) call sampleWorld sampleOrder ∧
      (run call sampleWorld sampleOrder).outstanding 1 ≤
        ((run call sampleWorld sampleOrder).tokens 1).balanceOf 1000 := by
  have safe : Meets (fun w made => ¬ HitsBoundary w made) call sampleWorld sampleOrder :=
    ⟨fun boundary => boundary, fun boundary => boundary, trivial⟩
  exact ⟨safe, (settlement_covers_open_orders _ _ sampleOrder safe 1).1⟩

/-- Scaling the order of one unit by `2 ^ 112 - 30` collects nothing. -/
theorem scaled_order_not_covered :
    ¬ (run call sampleWorld
        (sampleOrder ++ [sampleCall (.scaleTrade 0 (2 ^ 112 - 30))])).outstanding 1 ≤
      ((run call sampleWorld
        (sampleOrder ++ [sampleCall (.scaleTrade 0 (2 ^ 112 - 30))])).tokens 1).balanceOf
          1000 := by
  decide +kernel

end EightInch
