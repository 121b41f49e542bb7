import BlazCtf.EightInch.Settlement

set_option autoImplicit false

namespace EightInch

open Evm
open Function (update)

theorem safeCast_ok_iff {value result : Nat} :
    safeCast value = .ok result ↔ value ≤ 2 ^ 112 ∧ value % 2 ^ 112 = result := by
  simp only [safeCast, bind_ok_iff, require_ok_iff, pure_ok_iff]
  constructor
  · rintro ⟨_, bounded, same⟩
    exact ⟨bounded, same⟩
  · rintro ⟨bounded, same⟩
    exact ⟨(), bounded, same⟩

theorem safeMul_ok_iff {a b result : Nat} :
    safeMul a b = .ok result ↔ a * b ≤ 2 ^ 112 ∧ a * b % 2 ^ 112 = result := by
  simp only [safeMul, bind_ok_iff, require_ok_iff, pure_ok_iff, checkedMul_ok_iff]
  constructor
  · rintro ⟨_, ⟨_, rfl⟩, _, bounded, _, ⟨_, rfl⟩, same⟩
    exact ⟨bounded, same⟩
  · rintro ⟨bounded, same⟩
    have fits : a * b < 2 ^ 256 := Nat.lt_of_le_of_lt bounded (by decide)
    exact ⟨a * b, ⟨fits, rfl⟩, (), bounded, a * b, ⟨fits, rfl⟩, same⟩

theorem nonReentrant_ok {body : World → Outcome World} {w after : World}
    (success : nonReentrant body w = .ok after) :
    ∃ last, body { w with settlement := { w.settlement with locked := true } } = .ok last ∧
      after = { last with settlement := { last.settlement with locked := false } } := by
  simp only [nonReentrant, bind_ok_iff, require_ok_iff, pure_ok_iff] at success
  obtain ⟨_, _, last, step, rfl⟩ := success
  exact ⟨last, step, rfl⟩

/-- Everything a successful `createTrade` checked and did. -/
structure Created (this msgSender tokenToSell tokenToBuy : Address)
    (amountToSell amountToBuy : Nat) (w after : World) : Prop where
  feePaid : w.settlement.fee ≤ amountToSell
  sellBound : amountToSell - w.settlement.fee ≤ 2 ^ 112
  buyBound : amountToBuy ≤ 2 ^ 112
  stored : after.settlement = { w.settlement with
    trades := update w.settlement.trades w.settlement.nextTradeId
      ⟨msgSender, 0, tokenToSell, tokenToBuy, (amountToSell - w.settlement.fee) % 2 ^ 112,
        amountToBuy % 2 ^ 112, 0, 0, true⟩
    nextTradeId := w.settlement.nextTradeId + 1
    locked := false }
  collected : w.tokens.transferFrom tokenToSell this msgSender this amountToSell =
    .ok (after.tokens, true)

/-- Everything a successful `scaleTrade` checked and did. -/
structure Scaled (this msgSender : Address) (tradeId scale : Nat) (w after : World) : Prop where
  maker : msgSender = (w.settlement.trades tradeId).maker
  active : (w.settlement.trades tradeId).isActive = true
  positive : 0 < scale
  unfilled : (w.settlement.trades tradeId).filledAmountToBuy = 0
  sellBound : (w.settlement.trades tradeId).amountToSell * scale ≤ 2 ^ 112
  buyBound : (w.settlement.trades tradeId).amountToBuy * scale ≤ 2 ^ 112
  feeBound : (w.settlement.trades tradeId).amountToSell * scale % 2 ^ 112 + w.settlement.fee ≤
    2 ^ 112
  stored : after.settlement = { w.settlement with
    trades := update w.settlement.trades tradeId { w.settlement.trades tradeId with
      amountToSell := (w.settlement.trades tradeId).amountToSell * scale % 2 ^ 112
      amountToBuy := (w.settlement.trades tradeId).amountToBuy * scale % 2 ^ 112 }
    locked := false }
  collected : collectScaled this msgSender w.tokens (w.settlement.trades tradeId).tokenToSell
    (w.settlement.trades tradeId).amountToSell
    (((w.settlement.trades tradeId).amountToSell * scale % 2 ^ 112 + w.settlement.fee) % 2 ^ 112) =
      .ok after.tokens

/-- Everything a successful `settleTrade` checked and did. -/
structure Settled (this msgSender : Address) (tradeId amountToSettle : Nat) (w after : World) :
    Prop where
  active : (w.settlement.trades tradeId).isActive = true
  positive : 0 < amountToSettle
  available : (w.settlement.trades tradeId).filledAmountToSell + amountToSettle ≤
    (w.settlement.trades tradeId).amountToSell
  sellCast : amountToSettle ≤ 2 ^ 112
  sellFits : (w.settlement.trades tradeId).filledAmountToSell + amountToSettle % 2 ^ 112 < 2 ^ 112
  stored : after.settlement = { w.settlement with
    trades := update w.settlement.trades tradeId { w.settlement.trades tradeId with
      filledAmountToSell :=
        (w.settlement.trades tradeId).filledAmountToSell + amountToSettle % 2 ^ 112
      filledAmountToBuy := (w.settlement.trades tradeId).filledAmountToBuy +
        amountToSettle * (w.settlement.trades tradeId).amountToBuy /
          (w.settlement.trades tradeId).amountToSell % 2 ^ 112
      isActive := if (w.settlement.trades tradeId).filledAmountToSell + amountToSettle % 2 ^ 112 >
          (w.settlement.trades tradeId).amountToSell then false
        else (w.settlement.trades tradeId).isActive }
    locked := false }
  paid : ∃ tokens, w.tokens.transferFrom (w.settlement.trades tradeId).tokenToBuy this msgSender
      (w.settlement.trades tradeId).maker (amountToSettle *
        (w.settlement.trades tradeId).amountToBuy / (w.settlement.trades tradeId).amountToSell) =
      .ok (tokens, true) ∧
    tokens.transfer (w.settlement.trades tradeId).tokenToSell this msgSender amountToSettle =
      .ok (after.tokens, true)

/-- Everything a successful `cancelTrade` checked and did. -/
structure Cancelled (this msgSender : Address) (tradeId : Nat) (w after : World) : Prop where
  maker : msgSender = (w.settlement.trades tradeId).maker
  active : (w.settlement.trades tradeId).isActive = true
  filled : (w.settlement.trades tradeId).filledAmountToSell ≤
    (w.settlement.trades tradeId).amountToSell
  stored : after.settlement = { w.settlement with
    trades := update w.settlement.trades tradeId
      { w.settlement.trades tradeId with isActive := false }
    locked := false }
  refunded : refund this w.tokens (w.settlement.trades tradeId)
    ((w.settlement.trades tradeId).amountToSell -
      (w.settlement.trades tradeId).filledAmountToSell) = .ok after.tokens

section Contract

variable {this msgSender : Address} {w after : World}

theorem createTrade_ok {tokenToSell tokenToBuy : Address} {amountToSell amountToBuy : Nat}
    (success : createTrade this msgSender tokenToSell tokenToBuy amountToSell amountToBuy w =
      .ok after) :
    Created this msgSender tokenToSell tokenToBuy amountToSell amountToBuy w after := by
  obtain ⟨last, body, rfl⟩ := nonReentrant_ok success
  simp only [bind_ok_iff, require_ok_iff, pure_ok_iff, checkedAdd_ok_iff, checkedSub_ok_iff,
    safeCast_ok_iff, Prod.exists] at body
  obtain ⟨_, _, _, ⟨_, rfl⟩, _, ⟨feePaid, rfl⟩, _, ⟨sellBound, rfl⟩, _, ⟨buyBound, rfl⟩, tokens, _,
    collected, _, rfl, rfl⟩ := body
  exact ⟨feePaid, sellBound, buyBound, rfl, collected⟩

theorem scaleTrade_ok {tradeId scale : Nat}
    (success : scaleTrade this msgSender tradeId scale w = .ok after) :
    Scaled this msgSender tradeId scale w after := by
  obtain ⟨last, body, rfl⟩ := nonReentrant_ok success
  simp only [bind_ok_iff, require_ok_iff, pure_ok_iff, checkedAdd_ok_iff, safeCast_ok_iff,
    safeMul_ok_iff] at body
  obtain ⟨_, maker, _, active, _, positive, _, unfilled, casts⟩ := body
  obtain ⟨_, ⟨sellBound, rfl⟩, _, ⟨_, rfl⟩, _, ⟨buyBound, rfl⟩, _, ⟨_, rfl⟩, charges⟩ := casts
  obtain ⟨_, ⟨_, rfl⟩, _, ⟨_, rfl⟩, _, ⟨feeBound, rfl⟩, tokens, collected, rfl⟩ := charges
  refine ⟨maker, active, positive, unfilled, sellBound, buyBound, feeBound, ?_, collected⟩
  simp only [World.setTrade, Nat.mod_mod]

theorem settleTrade_ok {tradeId amountToSettle : Nat}
    (success : settleTrade this msgSender tradeId amountToSettle w = .ok after) :
    Settled this msgSender tradeId amountToSettle w after := by
  obtain ⟨last, body, rfl⟩ := nonReentrant_ok success
  simp only [bind_ok_iff, require_ok_iff, pure_ok_iff, checkedAdd_ok_iff, checkedMul_ok_iff,
    checkedDiv_ok_iff, safeCast_ok_iff, Prod.exists] at body
  obtain ⟨_, active, _, positive, _, ⟨_, rfl⟩, _, ⟨_, rfl⟩, _, available, _, ⟨_, rfl⟩,
    moves⟩ := body
  obtain ⟨middle, _, bought, _, rfl, tokens, _, sold, _, rfl, counters⟩ := moves
  obtain ⟨_, ⟨sellCast, rfl⟩, _, ⟨sellFits, rfl⟩, _, ⟨_, rfl⟩, _, ⟨_, rfl⟩, rfl⟩ := counters
  exact ⟨active, positive, available, sellCast, sellFits, rfl, middle, bought, sold⟩

theorem cancelTrade_ok {tradeId : Nat}
    (success : cancelTrade this msgSender tradeId w = .ok after) :
    Cancelled this msgSender tradeId w after := by
  obtain ⟨last, body, rfl⟩ := nonReentrant_ok success
  simp only [bind_ok_iff, require_ok_iff, pure_ok_iff, checkedSub_ok_iff] at body
  obtain ⟨_, maker, _, active, _, ⟨filled, rfl⟩, tokens, refunded, rfl⟩ := body
  exact ⟨maker, active, filled, rfl, refunded⟩

end Contract

end EightInch
