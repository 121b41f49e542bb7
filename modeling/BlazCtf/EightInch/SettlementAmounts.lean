import BlazCtf.EightInch.SettlementSolvency

set_option autoImplicit false

namespace EightInch

open Evm
open Function (update)

/-- A call of a token, which the settlement takes no part in. -/
def Op.onToken : Op → Bool
  | .transfer _ _ _ => true
  | .approve _ _ _ => true
  | .transferFrom _ _ _ _ => true
  | _ => false

/-- Everything a call can have done when it returns. -/
inductive Effect {this : Address} (w : World) (made : Call this) (after : World) : Prop where
  | created {tokenToSell tokenToBuy : Address} {amountToSell amountToBuy : Nat}
      (op : made.op = .createTrade tokenToSell tokenToBuy amountToSell amountToBuy)
      (done : Created this made.msgSender tokenToSell tokenToBuy amountToSell amountToBuy w after)
  | scaled {tradeId scale : Nat} (op : made.op = .scaleTrade tradeId scale)
      (done : Scaled this made.msgSender tradeId scale w after)
  | settled {tradeId amountToSettle : Nat} (op : made.op = .settleTrade tradeId amountToSettle)
      (done : Settled this made.msgSender tradeId amountToSettle w after)
  | cancelled {tradeId : Nat} (op : made.op = .cancelTrade tradeId)
      (done : Cancelled this made.msgSender tradeId w after)
  | moved (op : made.op.onToken = true) (same : after.settlement = w.settlement)

theorem call_effect {this : Address} {w after : World} {made : Call this}
    (success : call w made = .ok after) : Effect w made after := by
  obtain ⟨msgSender, op, external⟩ := made
  cases op with
  | createTrade tokenToSell tokenToBuy amountToSell amountToBuy =>
      exact .created rfl (createTrade_ok success)
  | scaleTrade tradeId scale => exact .scaled rfl (scaleTrade_ok success)
  | settleTrade tradeId amountToSettle => exact .settled rfl (settleTrade_ok success)
  | cancelTrade tradeId => exact .cancelled rfl (cancelTrade_ok success)
  | transfer token recipient value =>
      simp only [call, bind_ok_iff, pure_ok_iff, Prod.exists] at success
      obtain ⟨tokens, _, _, rfl⟩ := success
      exact .moved rfl rfl
  | approve token spender value =>
      simp only [call, bind_ok_iff, pure_ok_iff, Prod.exists] at success
      obtain ⟨tokens, _, _, rfl⟩ := success
      exact .moved rfl rfl
  | transferFrom token sender recipient value =>
      simp only [call, bind_ok_iff, pure_ok_iff, Prod.exists] at success
      obtain ⟨tokens, _, _, rfl⟩ := success
      exact .moved rfl rfl

/-- What holds of the storage in every reachable state, boundary or not: the fee, the
width of the amounts, and no trade past the counter. -/
structure Stored (w : World) : Prop where
  feeValue : w.settlement.fee = 30
  fresh : ∀ id, w.settlement.nextTradeId ≤ id → w.settlement.trades id = Trade.unset
  sellNarrow : ∀ id, (w.settlement.trades id).amountToSell < 2 ^ 112
  buyNarrow : ∀ id, (w.settlement.trades id).amountToBuy < 2 ^ 112

namespace Stored

variable {this : Address} {w after : World}

theorem of_deploy (deployer : Address → Address) (supply : Address → Nat) :
    Stored (deployWorld deployer supply) where
  feeValue := rfl
  fresh := fun _ _ => rfl
  sellNarrow := fun _ => Nat.two_pow_pos 112
  buyNarrow := fun _ => Nat.two_pow_pos 112

theorem inside (stored : Stored w) {id : Nat}
    (active : (w.settlement.trades id).isActive = true) : id < w.settlement.nextTradeId := by
  by_contra outside
  rw [stored.fresh id (by omega)] at active
  cases active

/-- Rewriting a trade inside the counter, or appending one at it. -/
theorem of_update (stored : Stored w) {id next : Nat} {trade : Trade} {locked : Bool}
    (rewritten : after.settlement = { w.settlement with
      trades := update w.settlement.trades id trade, nextTradeId := next, locked := locked })
    (counted : w.settlement.nextTradeId ≤ next ∧ id < next)
    (sell : trade.amountToSell < 2 ^ 112) (buy : trade.amountToBuy < 2 ^ 112) :
    Stored after := by
  constructor
  · rw [rewritten]
    exact stored.feeValue
  · intro other past
    rw [rewritten] at past ⊢
    have past : next ≤ other := past
    have distinct : other ≠ id := by omega
    have earlier : w.settlement.nextTradeId ≤ other := by omega
    simpa [Function.update_of_ne distinct] using stored.fresh other earlier
  · intro other
    rw [rewritten]
    by_cases same : other = id
    · subst same
      simpa using sell
    · simpa [Function.update_of_ne same] using stored.sellNarrow other
  · intro other
    rw [rewritten]
    by_cases same : other = id
    · subst same
      simpa using buy
    · simpa [Function.update_of_ne same] using stored.buyNarrow other

theorem effect {made : Call this} (stored : Stored w) (effect : Effect w made after) :
    Stored after := by
  have narrow : ∀ amount, amount % 2 ^ 112 < 2 ^ 112 := fun amount =>
    Nat.mod_lt amount (Nat.two_pow_pos 112)
  cases effect with
  | created op done =>
      exact stored.of_update done.stored (by omega) (narrow _) (narrow _)
  | scaled op done =>
      have counted := stored.inside done.active
      exact stored.of_update done.stored (by omega) (narrow _) (narrow _)
  | settled op done =>
      have counted := stored.inside done.active
      exact stored.of_update done.stored (by omega) (stored.sellNarrow _) (stored.buyNarrow _)
  | cancelled op done =>
      have counted := stored.inside done.active
      exact stored.of_update done.stored (by omega) (stored.sellNarrow _) (stored.buyNarrow _)
  | moved op same =>
      constructor
      · rw [same]
        exact stored.feeValue
      · rw [same]
        exact stored.fresh
      · rw [same]
        exact stored.sellNarrow
      · rw [same]
        exact stored.buyNarrow

theorem of_run (deployer : Address → Address) (supply : Address → Nat)
    (calls : List (Call this)) : Stored (run call (deployWorld deployer supply) calls) := by
  apply run_invariant Stored
  · intro state made next holds success
    exact holds.effect (call_effect success)
  · exact of_deploy deployer supply

end Stored

/-- What a trade still has to pay out can be paid out of the settlement's balance. -/
def World.Funded (this : Address) (w : World) (id : Nat) : Prop :=
  (w.settlement.trades id).isActive = true →
    (w.settlement.trades id).amountToSell ≤ (w.settlement.trades id).filledAmountToSell +
      (w.tokens (w.settlement.trades id).tokenToSell).balanceOf this

section Scale

variable {this msgSender : Address} {w after : World} {tradeId scale : Nat}

/-- What `scaleTrade` adds to the settlement's balance of the sold token. -/
theorem Scaled.credited (scaled : Scaled this msgSender tradeId scale w after)
    (external : msgSender ≠ this) (feeValue : w.settlement.fee = 30) (token : Address) :
    (after.tokens token).balanceOf this = (w.tokens token).balanceOf this +
      if token = (w.settlement.trades tradeId).tokenToSell then
        ((w.settlement.trades tradeId).amountToSell * scale % 2 ^ 112 + 30) % 2 ^ 112 -
          (w.settlement.trades tradeId).amountToSell
      else 0 := by
  have collected := scaled.collected
  rw [feeValue] at collected
  unfold collectScaled at collected
  split at collected
  · simp only [bind_ok_iff, require_ok_iff, pure_ok_iff, checkedSub_ok_iff, Prod.exists]
      at collected
    obtain ⟨_, ⟨_, rfl⟩, moved, _, paid, _, _, rfl⟩ := collected
    exact Tokens.collect_held paid external token
  · rename_i enough
    rw [pure_ok_iff] at collected
    have nothing : ((w.settlement.trades tradeId).amountToSell * scale % 2 ^ 112 + 30) % 2 ^ 112 -
        (w.settlement.trades tradeId).amountToSell = 0 := by omega
    rw [nothing, ← collected]
    simp

theorem Scaled.trade (scaled : Scaled this msgSender tradeId scale w after) :
    after.settlement.trades tradeId = { w.settlement.trades tradeId with
      amountToSell := (w.settlement.trades tradeId).amountToSell * scale % 2 ^ 112
      amountToBuy := (w.settlement.trades tradeId).amountToBuy * scale % 2 ^ 112 } := by
  rw [scaled.stored]
  exact Function.update_self _ _ _

theorem Scaled.other (scaled : Scaled this msgSender tradeId scale w after) {id : Nat}
    (distinct : id ≠ tradeId) : after.settlement.trades id = w.settlement.trades id := by
  rw [scaled.stored]
  exact Function.update_of_ne distinct _ _

/-- The collection covers the growth of the recorded amount except at one value of
the product, where the need with its fee is truncated to zero. -/
theorem growth_covered_iff {original scale : Nat} (positive : 0 < scale)
    (bounded : original * scale ≤ 2 ^ 112)
    (boundedFee : original * scale % 2 ^ 112 + 30 ≤ 2 ^ 112) :
    ((original * scale % 2 ^ 112 : Nat) : Int) - original ≤
        (((original * scale % 2 ^ 112 + 30) % 2 ^ 112 - original : Nat) : Int) ↔
      ¬ (1 < scale ∧ original * scale + 30 = 2 ^ 112) := by
  have grows : original ≤ original * scale := Nat.le_mul_of_pos_right original positive
  have single : scale = 1 → original * scale = original := by
    rintro rfl
    exact Nat.mul_one original
  have double : 1 < scale → 2 * original ≤ original * scale := by
    intro more
    rw [Nat.mul_comm 2]
    exact Nat.mul_le_mul_left original more
  have zero : original = 0 → original * scale = 0 := by
    rintro rfl
    exact Nat.zero_mul scale
  generalize original * scale = product at *
  omega

/-- An order that could be paid out before can be paid out after, if the collection
covers its growth. -/
theorem Scaled.funded (scaled : Scaled this msgSender tradeId scale w after)
    (external : msgSender ≠ this) (feeValue : w.settlement.fee = 30)
    (covered : ((after.settlement.trades tradeId).amountToSell : Int) -
        (w.settlement.trades tradeId).amountToSell ≤
      (after.tokens (w.settlement.trades tradeId).tokenToSell).balanceOf this -
        (w.tokens (w.settlement.trades tradeId).tokenToSell).balanceOf this)
    {id : Nat} (before : w.Funded this id) : after.Funded this id := by
  intro active
  by_cases same : id = tradeId
  · subst same
    have held := before scaled.active
    rw [scaled.trade] at covered ⊢
    dsimp only at covered ⊢
    omega
  · rw [scaled.other same] at active ⊢
    have held := before active
    have more := scaled.credited external feeValue (w.settlement.trades id).tokenToSell
    omega

end Scale

/-- In every reachable state a successful `scaleTrade` collects at least what the
recorded amount grows by, except that a scale above one for which the amount with its
fee is `2 ^ 112` collects less; so only there can it leave an order without its funds. -/
theorem scaleTrade_collects_growth {this : Address} (deployer : Address → Address)
    (supply : Address → Nat) (calls : List (Call this)) {msgSender : Address}
    (external : msgSender ≠ this) {tradeId scale : Nat} {after : World}
    (success : scaleTrade this msgSender tradeId scale
      (run call (deployWorld deployer supply) calls) = .ok after) :
    let w := run call (deployWorld deployer supply) calls
    let orig := (w.settlement.trades tradeId).amountToSell
    let token := (w.settlement.trades tradeId).tokenToSell
    let boundary := 1 < scale ∧ orig * scale + w.settlement.fee = 2 ^ 112
    w.settlement.fee = 30 ∧ msgSender = (w.settlement.trades tradeId).maker ∧
      (((after.settlement.trades tradeId).amountToSell : Int) - orig ≤
          (after.tokens token).balanceOf this - (w.tokens token).balanceOf this ↔ ¬ boundary) ∧
      (¬ boundary → ∀ id, w.Funded this id → after.Funded this id) := by
  intro w orig token boundary
  have stored : Stored w := Stored.of_run deployer supply calls
  have feeValue := stored.feeValue
  have scaled : Scaled this msgSender tradeId scale w after := scaleTrade_ok success
  have feeBound := scaled.feeBound
  rw [feeValue] at feeBound
  have growth := growth_covered_iff scaled.positive scaled.sellBound feeBound
  have credited := scaled.credited external feeValue token
  rw [if_pos rfl] at credited
  have covers : ((after.settlement.trades tradeId).amountToSell : Int) - orig ≤
      (after.tokens token).balanceOf this - (w.tokens token).balanceOf this ↔ ¬ boundary := by
    show _ ↔ ¬ (1 < scale ∧ orig * scale + w.settlement.fee = 2 ^ 112)
    rw [feeValue, ← growth, scaled.trade]
    dsimp only
    omega
  refine ⟨feeValue, scaled.maker, covers, ?_⟩
  intro notBoundary id before
  exact scaled.funded external feeValue (covers.mpr notBoundary) before

/-- The order of one unit, in a world where its maker has funds left. -/
def fundedOrder : World :=
  run call (deployWorld (fun _ => 10) (fun _ => 100))
    [sampleCall (.approve 1 1000 100), sampleCall (.createTrade 1 2 31 0)]

theorem fundedOrder_scales (scale : Nat) (succeeds : (scaleTrade 1000 10 0 scale
    fundedOrder).isOk = true) :
    ∃ after, scaleTrade 1000 10 0 scale fundedOrder = .ok after := by
  cases result : scaleTrade 1000 10 0 scale fundedOrder with
  | error reason =>
      rw [result] at succeeds
      cases succeeds
  | ok after => exact ⟨after, rfl⟩

/-- Doubling the order of one unit collects the fee and one more unit. -/
theorem sample_order_doubled :
    ∃ after, scaleTrade 1000 10 0 2 fundedOrder = .ok after ∧
      ((after.settlement.trades 0).amountToSell : Int) - 1 ≤
        (after.tokens 1).balanceOf 1000 - 31 := by
  obtain ⟨after, result⟩ := fundedOrder_scales 2 (by decide +kernel)
  have collects := scaleTrade_collects_growth (fun _ => 10) (fun _ => 100) _
    (by decide : (10 : Address) ≠ 1000) result
  exact ⟨after, result, collects.2.2.1.mpr (by decide +kernel)⟩

/-- The recorded amounts are the old ones times the scale, and so is the price. -/
def ScaledExactly (w after : World) (tradeId scale : Nat) : Prop :=
  (after.settlement.trades tradeId).amountToSell =
      (w.settlement.trades tradeId).amountToSell * scale ∧
    (after.settlement.trades tradeId).amountToBuy =
      (w.settlement.trades tradeId).amountToBuy * scale ∧
    (after.settlement.trades tradeId).amountToSell * (w.settlement.trades tradeId).amountToBuy =
      (w.settlement.trades tradeId).amountToSell * (after.settlement.trades tradeId).amountToBuy

/-- A value that the inclusive bound accepts survives the cast unless it is the bound. -/
theorem mod_eq_self_iff {value : Nat} (bounded : value ≤ 2 ^ 112) :
    value % 2 ^ 112 = value ↔ value ≠ 2 ^ 112 := by
  omega

theorem Scaled.exactly_iff {this msgSender : Address} {w after : World} {tradeId scale : Nat}
    (scaled : Scaled this msgSender tradeId scale w after) :
    ScaledExactly w after tradeId scale ↔
      (w.settlement.trades tradeId).amountToSell * scale ≠ 2 ^ 112 ∧
        (w.settlement.trades tradeId).amountToBuy * scale ≠ 2 ^ 112 := by
  unfold ScaledExactly
  rw [scaled.trade]
  dsimp only
  rw [← mod_eq_self_iff scaled.sellBound, ← mod_eq_self_iff scaled.buyBound]
  constructor
  · rintro ⟨sell, buy, _⟩
    exact ⟨sell, buy⟩
  · rintro ⟨sell, buy⟩
    refine ⟨sell, buy, ?_⟩
    rw [sell, buy]
    ac_rfl

/-- The top-up is what the scaled amount and the fee exceed the old amount by, unless
one of the two casts of the need truncates it. -/
theorem Scaled.collected_iff {this msgSender : Address} {w after : World} {tradeId scale : Nat}
    (scaled : Scaled this msgSender tradeId scale w after) (stored : Stored w)
    (external : msgSender ≠ this) :
    (after.tokens (w.settlement.trades tradeId).tokenToSell).balanceOf this +
          (w.settlement.trades tradeId).amountToSell =
        (w.tokens (w.settlement.trades tradeId).tokenToSell).balanceOf this +
          (w.settlement.trades tradeId).amountToSell * scale + w.settlement.fee ↔
      (w.settlement.trades tradeId).amountToSell * scale ≠ 2 ^ 112 ∧
        (w.settlement.trades tradeId).amountToSell * scale + w.settlement.fee ≠ 2 ^ 112 := by
  have credited := scaled.credited external stored.feeValue
    (w.settlement.trades tradeId).tokenToSell
  rw [if_pos rfl] at credited
  have grows : (w.settlement.trades tradeId).amountToSell ≤
      (w.settlement.trades tradeId).amountToSell * scale :=
    Nat.le_mul_of_pos_right _ scaled.positive
  have bound := scaled.sellBound
  have feeBound := scaled.feeBound
  have narrow := stored.sellNarrow tradeId
  rw [stored.feeValue] at feeBound ⊢
  generalize (w.settlement.trades tradeId).amountToSell * scale = product at *
  omega

/-- In every reachable state: the amounts a successful `scaleTrade` records are exact
unless a product is the bound `2 ^ 112` that the casts accept, what it collects is exact
unless the amount with its fee is, and what a successful `createTrade` records is exact
unless one of its amounts is. -/
theorem amounts_exact_iff {this : Address} (deployer : Address → Address)
    (supply : Address → Nat) (calls : List (Call this)) (msgSender : Address)
    (external : msgSender ≠ this) :
    let w := run call (deployWorld deployer supply) calls
    (∀ tradeId scale after, scaleTrade this msgSender tradeId scale w = .ok after →
      let old := w.settlement.trades tradeId
      (ScaledExactly w after tradeId scale ↔
        old.amountToSell * scale ≠ 2 ^ 112 ∧ old.amountToBuy * scale ≠ 2 ^ 112) ∧
      ((after.tokens old.tokenToSell).balanceOf this + old.amountToSell =
          (w.tokens old.tokenToSell).balanceOf this + old.amountToSell * scale +
            w.settlement.fee ↔
        old.amountToSell * scale ≠ 2 ^ 112 ∧
          old.amountToSell * scale + w.settlement.fee ≠ 2 ^ 112)) ∧
    ∀ tokenToSell tokenToBuy amountToSell amountToBuy after,
      createTrade this msgSender tokenToSell tokenToBuy amountToSell amountToBuy w = .ok after →
      let new := after.settlement.trades w.settlement.nextTradeId
      (new.amountToSell + w.settlement.fee = amountToSell ∧ new.amountToBuy = amountToBuy) ↔
        amountToSell ≠ 2 ^ 112 + w.settlement.fee ∧ amountToBuy ≠ 2 ^ 112 := by
  intro w
  have stored : Stored w := Stored.of_run deployer supply calls
  constructor
  · intro tradeId scale after success old
    have scaled := scaleTrade_ok success
    exact ⟨scaled.exactly_iff, scaled.collected_iff stored external⟩
  · intro tokenToSell tokenToBuy amountToSell amountToBuy after success new
    have created := createTrade_ok success
    have paid := created.feePaid
    have sellBound := created.sellBound
    have buyBound := created.buyBound
    have recorded : new = ⟨msgSender, 0, tokenToSell, tokenToBuy,
        (amountToSell - w.settlement.fee) % 2 ^ 112, amountToBuy % 2 ^ 112, 0, 0, true⟩ := by
      show after.settlement.trades w.settlement.nextTradeId = _
      rw [created.stored]
      exact Function.update_self _ _ _
    rw [recorded]
    dsimp only
    omega

theorem sample_order_tripled_exactly :
    ∃ after, scaleTrade 1000 10 0 3 fundedOrder = .ok after ∧
      ScaledExactly fundedOrder after 0 3 := by
  obtain ⟨after, result⟩ := fundedOrder_scales 3 (by decide +kernel)
  have exactly := amounts_exact_iff (fun _ => 10) (fun _ => 100)
    [sampleCall (.approve 1 1000 100), sampleCall (.createTrade 1 2 31 0)] 10
    (by decide : (10 : Address) ≠ 1000)
  exact ⟨after, result, (exactly.1 0 3 after result).1.mpr (by decide +kernel)⟩

/-- Scaling the order of one unit by `2 ^ 112` succeeds and records an order of nothing. -/
theorem sample_order_scaled_away :
    ∃ after, scaleTrade 1000 10 0 (2 ^ 112) fundedOrder = .ok after ∧
      ¬ ScaledExactly fundedOrder after 0 (2 ^ 112) := by
  obtain ⟨after, result⟩ := fundedOrder_scales (2 ^ 112) (by decide +kernel)
  refine ⟨after, result, ?_⟩
  rw [(scaleTrade_ok result).exactly_iff]
  decide +kernel

end EightInch
