import BlazCtf.Doju.TokenSpec
import Mathlib.Tactic.Linarith
import Mathlib.Tactic.Ring

set_option autoImplicit false

namespace Doju

open Evm
open Function (update)
open Ledger (move)

def Event.isMint : Event → Bool
  | .mint _ _ => true
  | _ => false

/-- The number of successful purchases so far. -/
def State.purchases (s : State) : Nat := s.logs.countP Event.isMint

/-- How far the supply is above what the reserve and the rounding of each
purchase account for, up to a constant. -/
def excess (this : Address) (s : State) : Int :=
  (s.totalSupply : Int) * s.totalSupply - 2 * 10 ^ 18 * s.eth this - s.purchases

section Laws

variable {this : Address} {s after : State}

/-- ETH that leaves the contract raises the excess by its weight on the curve. -/
theorem payEth_excess_out {recipient : Address} {value : Nat} (external : recipient ≠ this)
    (success : payEth s this recipient value = .ok after) :
    excess this after = excess this s + 2 * 10 ^ 18 * value := by
  obtain ⟨funded, rfl⟩ := payEth_ok success
  have left : move s.eth this recipient value this = s.eth this - value :=
    Ledger.move_source external.symm
  simp only [excess, State.purchases, left]
  push_cast [funded]
  ring

/-- ETH paid in by another account covers its weight; the contract's own
messages to itself move none. -/
theorem payEth_excess_in {source : Address} {value : Nat}
    (success : payEth s source this value = .ok after) :
    excess this after + (if source = this then 0 else 2 * 10 ^ 18 * (value : Int)) =
      excess this s := by
  obtain ⟨funded, rfl⟩ := payEth_ok success
  by_cases own : source = this
  · subst own
    rw [if_pos rfl, Ledger.move_self funded, Int.add_zero]
  · have received : move s.eth source this value this = s.eth this + value :=
      Ledger.move_target own
    rw [if_neg own]
    simp only [excess, State.purchases, received]
    push_cast
    ring

theorem buyTokens_excess {value : Nat} {recipient : Address}
    (success : buyTokens this s value recipient = .ok after) :
    excess this after ≤ excess this s + 2 * 10 ^ 18 * value := by
  obtain ⟨minted, bought⟩ := buyTokens_ok success
  have curve : ((s.totalSupply : Int) + minted) * (s.totalSupply + minted) ≤
      s.totalSupply * s.totalSupply + 2 * 10 ^ 18 * value + 1 := by exact_mod_cast bought.curve
  rw [bought.booked]
  simp only [excess, State.purchases, List.countP_cons, Event.isMint, Bool.false_eq_true,
    ↓reduceIte]
  push_cast
  linarith

theorem startSale_excess {seller : Address} {tokenAmount ethValue : Nat}
    (success : startSale this s seller tokenAmount = .ok (after, ethValue)) :
    excess this after + 2 * 10 ^ 18 * ethValue ≤ excess this s := by
  have started := startSale_ok success
  have curve : ((s.totalSupply - tokenAmount : Nat) : Int) * (s.totalSupply - tokenAmount : Nat) +
      2 * 10 ^ 18 * ethValue ≤ s.totalSupply * s.totalSupply := by exact_mod_cast started.curve
  rw [started.booked]
  simp only [excess, State.purchases, List.countP_cons, Event.isMint, Bool.false_eq_true,
    ↓reduceIte, Nat.add_zero]
  linarith

theorem transfer_excess {send : Send} {msgSender recipient : Address} {value : Word}
    (success : transfer this send s msgSender recipient value = .ok after) :
    excess this after = excess this s := by
  obtain ⟨_, _, rfl⟩ := transfer_ok success
  simp [excess, State.purchases, Event.isMint]

/-- A call out costs at most the weight of the ETH it carries. -/
def Costs (this : Address) (send : Send) : Prop :=
  ∀ s recipient value data sent, send s recipient value data = some sent →
    excess this sent ≤ excess this s + 2 * 10 ^ 18 * value

/-- A sale whose call out costs at most the ETH it carries pays for it on the curve. -/
theorem sellTokens_excess {send : Send} {msgSender recipient : Address}
    {tokenAmount minOut : Word}
    (costs : Costs this send)
    (success : sellTokens this send s msgSender tokenAmount recipient minOut = .ok after) :
    excess this after ≤ excess this s := by
  obtain ⟨started, ethValue, sent, sold, _, delivered, rfl⟩ := sellTokens_ok success
  have start := startSale_excess sold
  have cost := costs _ _ _ _ _ delivered
  have quiet : excess this { sent with
      logs := .transfer msgSender 0 tokenAmount :: .burn msgSender tokenAmount :: sent.logs } =
      excess this sent := by
    simp [excess, State.purchases, Event.isMint]
  rw [quiet]
  linarith

/-- One message, whose ETH has already been paid in. -/
theorem invoke_excess {send : Send} {msgSender : Address} {value : Nat} {op : Op}
    (costs : Costs this send) (success : invoke this send s msgSender value op = .ok after) :
    excess this after ≤ excess this s + 2 * 10 ^ 18 * value := by
  cases op with
  | receive => exact buyTokens_excess success
  | buyTokens recipient => exact buyTokens_excess success
  | sellTokens tokenAmount recipient minOut =>
      obtain ⟨rfl, sold⟩ := nonPayable_ok success
      simpa using sellTokens_excess costs sold
  | transfer recipient amount =>
      obtain ⟨rfl, moved⟩ := nonPayable_ok success
      simpa using Int.le_of_eq (transfer_excess moved)
  | getter =>
      obtain ⟨rfl, read⟩ := nonPayable_ok success
      rw [pure_ok_iff] at read
      subst read
      simp

/-- Only a message of the contract to itself can raise the excess, by the weight
of the ETH it carries and does not move. -/
theorem deliver_excess {depth : Nat} {code : List (Call this)} {accepts : Bool}
    {msgSender : Address} {value : Nat} {op : Op} (costs : Costs this (sendAt depth code accepts))
    (success : deliver depth code accepts s msgSender value op = .ok after) :
    excess this after ≤ excess this s +
      (if msgSender = this then 2 * 10 ^ 18 * (value : Int) else 0) := by
  rw [deliver_eq, bind_ok_iff] at success
  obtain ⟨paid, moved, invoked⟩ := success
  have received := payEth_excess_in moved
  have cost := invoke_excess costs invoked
  by_cases own : msgSender = this
  · rw [if_pos own] at received ⊢
    linarith
  · rw [if_neg own] at received ⊢
    linarith

theorem call_excess_of_costs {depth : Nat} {made : Call this}
    (costs : ∀ (code : List (Call this)) (accepts : Bool), Costs this (sendAt depth code accepts))
    (success : call depth s made = .ok after) : excess this after ≤ excess this s := by
  cases made with
  | message msgSender external value op code accepts =>
      simpa [external] using deliver_excess (costs code accepts) success
  | elsewhere source external recipient value =>
      obtain ⟨_, rfl⟩ := payEth_ok success
      have kept : s.eth this ≤ move s.eth source recipient value this :=
        Ledger.le_move external.symm
      have cast : (s.eth this : Int) ≤ move s.eth source recipient value this := by
        exact_mod_cast kept
      simp only [excess, State.purchases]
      linarith
  | reward recipient value =>
      obtain rfl := Except.ok.inj success
      have kept : s.eth this ≤ update s.eth recipient (s.eth recipient + value) this := by
        by_cases same : this = recipient
        · subst same
          rw [Function.update_self]
          omega
        · rw [Function.update_of_ne same]
      have cast : (s.eth this : Int) ≤ update s.eth recipient (s.eth recipient + value) this := by
        exact_mod_cast kept
      simp only [excess, State.purchases]
      linarith

/-- However deep the calls are nested, the contract's call out costs at most the
weight of the ETH it carries. -/
theorem sendAt_costs (depth : Nat) : ∀ (code : List (Call this)) (accepts : Bool),
    Costs this (sendAt depth code accepts) := by
  induction depth with
  | zero =>
      intro code accepts s recipient value data sent delivered
      cases delivered
  | succ depth ih =>
      intro code accepts s recipient value data sent delivered
      obtain ⟨left, same, reentered | handed⟩ := sendAt_some delivered
      · obtain rfl := Nat.succ.inj same
        obtain ⟨_, op, _, inner⟩ := reentered
        simpa using deliver_excess (ih code accepts) inner
      · obtain rfl := Nat.succ.inj same
        obtain ⟨external, _, paid, moved, rfl⟩ := handed
        rw [← payEth_excess_out external moved]
        exact run_invariant (fun state => excess this state ≤ excess this paid)
          (fun _ _ _ holds success =>
            Int.le_trans (call_excess_of_costs ih success) holds) code paid (Int.le_refl _)

theorem call_excess {depth : Nat} {made : Call this} (success : call depth s made = .ok after) :
    excess this after ≤ excess this s :=
  call_excess_of_costs (sendAt_costs depth) success

theorem handover_excess {depth : Nat} {seller recipient : Address} {tokenAmount minOut : Word}
    (sale : Handover this depth s seller tokenAmount recipient minOut after) :
    excess this after ≤ excess this s := by
  induction sale with
  | direct external sold moved =>
      have start := startSale_excess sold
      have paid := payEth_excess_out external moved
      linarith
  | selfCall sold decoded inner ih =>
      have start := startSale_excess sold
      linarith

theorem reachable_excess {allowed : Nat → State → Call this → Prop}
    (reached : Reachable allowed s after) :
    excess this after ≤ excess this s := by
  induction reached with
  | start => exact Int.le_refl _
  | call reached admitted success ih => exact Int.le_trans (call_excess success) ih
  | inside external reached admitted sale ih => exact Int.le_trans (handover_excess sale) ih

end Laws

/-- From any state to any later one, whatever is called and reentered in between,
the ETH that left is covered by the supply that was given up, up to one unit of the
squared supply a purchase. A round trip therefore gains at most the rounding. -/
theorem reserve_law {this : Address} {s after : State}
    (reached : Reachable (fun _ _ (_ : Call this) => True) s after) :
    2 * 10 ^ 18 * ((s.eth this : Int) - after.eth this) ≤
        (s.totalSupply : Int) ^ 2 - (after.totalSupply : Int) ^ 2 +
          ((after.purchases : Int) - s.purchases) ∧
      (after.totalSupply = s.totalSupply →
        2 * 10 ^ 18 * ((s.eth this : Int) - after.eth this) ≤
          (after.purchases : Int) - s.purchases) := by
  have law := reachable_excess reached
  simp only [excess] at law
  refine ⟨by linarith, ?_⟩
  intro same
  rw [same] at law
  linarith

/-- A token at address 70, deployed by account 1, with 100 ether in reserve. -/
def funded : State := deploy 70 1 fun _ => 100 * 10 ^ 18

/-- The deployer sells one token, whose ETH it accepts. -/
def soldOne : Call 70 :=
  .message 1 (by decide) 0 (.sellTokens 1000000000000000000 1 1000000000000000000000) [] true

theorem reserve_law_sold_one :
    ∃ after, call callDepth funded soldOne = .ok after ∧
      2 * 10 ^ 18 * ((funded.eth 70 : Int) - after.eth 70) ≤
        (funded.totalSupply : Int) ^ 2 - (after.totalSupply : Int) ^ 2 +
          ((after.purchases : Int) - funded.purchases) := by
  have returns : (call callDepth funded soldOne).toBool = true := by decide +kernel
  cases result : call callDepth funded soldOne with
  | ok after => exact ⟨after, rfl, (reserve_law (.call .start trivial result)).1⟩
  | error reason =>
      rw [result] at returns
      cases returns

end Doju
