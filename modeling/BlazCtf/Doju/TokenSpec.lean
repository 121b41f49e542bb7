import BlazCtf.Doju.Token

set_option autoImplicit false

namespace Doju

open Evm
open Function (update)
open Ledger (move)

section Operations

variable {this : Address} {s after : State}

theorem doTransfer_ok {source recipient : Address} {value : Nat}
    (success : doTransfer s source recipient value = .ok after) :
    value ≤ s.balanceOf source ∧
      after = { s with
        balanceOf := move s.balanceOf source recipient value
        logs := .transfer source recipient value :: s.logs } := by
  simp only [doTransfer, bind_ok_iff, pure_ok_iff, require_ok_iff, checkedSub_ok_iff,
    checkedAdd_ok_iff] at success
  obtain ⟨_, _, _, funded, _, ⟨_, rfl⟩, _, ⟨_, rfl⟩, rfl⟩ := success
  exact ⟨funded, rfl⟩

/-- The supply after a purchase squares to at most one more than the curve allows. -/
theorem ethToTokens_ok {value supply minted : Nat}
    (success : ethToTokens value supply = .ok minted) :
    (supply + minted) * (supply + minted) ≤ supply * supply + 2 * 10 ^ 18 * value + 1 := by
  simp only [ethToTokens, bind_ok_iff, checkedMul_ok_iff, checkedAdd_ok_iff,
    checkedSub_ok_iff] at success
  obtain ⟨_, ⟨_, rfl⟩, _, ⟨_, rfl⟩, _, ⟨_, rfl⟩, _, ⟨_, rfl⟩, newSupply, rooted, above, rfl⟩ :=
    success
  rw [Nat.add_sub_of_le above]
  have square := sqrt_square_le rooted
  calc newSupply * newSupply ≤ supply * supply + 2 * value * 10 ^ 18 + 1 := square
    _ = supply * supply + 2 * 10 ^ 18 * value + 1 := by rw [Nat.mul_right_comm 2 value]

/-- A sale pays at most what the supply gives up on the curve. -/
theorem tokensToEth_ok {tokenAmount ethValue : Nat}
    (success : tokensToEth s tokenAmount = .ok ethValue) :
    tokenAmount ≤ s.totalSupply ∧
      (s.totalSupply - tokenAmount) * (s.totalSupply - tokenAmount) + 2 * 10 ^ 18 * ethValue ≤
        s.totalSupply * s.totalSupply := by
  simp only [tokensToEth, bind_ok_iff, checkedMul_ok_iff, checkedSub_ok_iff,
    checkedDiv_ok_iff] at success
  obtain ⟨_, ⟨_, rfl⟩, _, ⟨enough, rfl⟩, _, ⟨_, rfl⟩, _, ⟨lower, rfl⟩, _, rfl⟩ := success
  have floor := Nat.mul_div_le (s.totalSupply * s.totalSupply -
    (s.totalSupply - tokenAmount) * (s.totalSupply - tokenAmount)) (2 * 10 ^ 18)
  exact ⟨enough, by omega⟩

/-- What a successful purchase does. -/
structure Bought (this : Address) (s : State) (value : Nat) (recipient : Address) (minted : Nat)
    (after : State) : Prop where
  curve : (s.totalSupply + minted) * (s.totalSupply + minted) ≤
    s.totalSupply * s.totalSupply + 2 * 10 ^ 18 * value + 1
  funded : minted ≤ s.balanceOf this
  booked : after = { s with
    totalSupply := s.totalSupply + minted
    balanceOf := move s.balanceOf this recipient minted
    logs := .transfer 0 recipient minted :: .mint recipient minted ::
      .transfer this recipient minted :: s.logs }

theorem buyTokens_ok {value : Nat} {recipient : Address}
    (success : buyTokens this s value recipient = .ok after) :
    ∃ minted, Bought this s value recipient minted after := by
  simp only [buyTokens, bind_ok_iff, pure_ok_iff, require_ok_iff, checkedAdd_ok_iff] at success
  obtain ⟨_, _, minted, priced, paid, moved, _, ⟨_, rfl⟩, rfl⟩ := success
  obtain ⟨funded, rfl⟩ := doTransfer_ok moved
  exact ⟨minted, ethToTokens_ok priced, funded, rfl⟩

/-- The state in which `sellTokens` makes its external call. -/
structure SaleStarted (this : Address) (s : State) (seller : Address) (tokenAmount ethValue : Nat)
    (after : State) : Prop where
  supplied : tokenAmount ≤ s.totalSupply
  curve : (s.totalSupply - tokenAmount) * (s.totalSupply - tokenAmount) + 2 * 10 ^ 18 * ethValue ≤
    s.totalSupply * s.totalSupply
  funded : tokenAmount ≤ s.balanceOf seller
  booked : after = { s with
    totalSupply := s.totalSupply - tokenAmount
    balanceOf := move s.balanceOf seller this tokenAmount
    logs := .transfer seller this tokenAmount :: s.logs }

theorem startSale_ok {seller : Address} {tokenAmount ethValue : Nat}
    (success : startSale this s seller tokenAmount = .ok (after, ethValue)) :
    SaleStarted this s seller tokenAmount ethValue after := by
  simp only [startSale, bind_ok_iff, pure_ok_iff, checkedSub_ok_iff, Prod.mk.injEq] at success
  obtain ⟨_, priced, paid, moved, _, ⟨_, rfl⟩, rfl, rfl⟩ := success
  obtain ⟨supplied, curve⟩ := tokensToEth_ok priced
  obtain ⟨funded, rfl⟩ := doTransfer_ok moved
  exact ⟨supplied, curve, funded, rfl⟩

theorem sellTokens_ok {send : Send} {msgSender recipient : Address} {tokenAmount minOut : Word}
    (success : sellTokens this send s msgSender tokenAmount recipient minOut = .ok after) :
    ∃ started ethValue sent,
      startSale this s msgSender tokenAmount = .ok (started, ethValue) ∧ ethValue < minOut ∧
      send started recipient ethValue
        (encodePacked minOut recipient tokenAmount msgSender ethValue) = some sent ∧
      after = { sent with
        logs := .transfer msgSender 0 tokenAmount :: .burn msgSender tokenAmount ::
          sent.logs } := by
  simp only [sellTokens, bind_ok_iff, require_ok_iff, Prod.exists] at success
  obtain ⟨started, ethValue, sold, _, limit, rest⟩ := success
  split at rest
  · cases rest
  · rename_i sent delivered
    rw [pure_ok_iff] at rest
    exact ⟨started, ethValue, sent, sold, limit, delivered, rest.symm⟩

/-- A sale with `minOut = 0` always reverts, so nothing can be sent to `BURN_ADDRESS`. -/
theorem sellTokens_zero_limit {send : Send} {msgSender recipient : Address} {tokenAmount : Word} :
    sellTokens this send s msgSender tokenAmount recipient 0 ≠ .ok after := by
  intro success
  obtain ⟨_, ethValue, _, _, limit, _⟩ := sellTokens_ok success
  exact Nat.not_lt_zero ethValue limit

theorem transfer_ok {send : Send} {msgSender recipient : Address} {value : Word}
    (success : transfer this send s msgSender recipient value = .ok after) :
    recipient ≠ BURN_ADDRESS ∧ value ≤ s.balanceOf msgSender ∧
      after = { s with
        balanceOf := move s.balanceOf msgSender recipient value
        logs := .transfer msgSender recipient value :: s.logs } := by
  unfold transfer at success
  split at success
  · exact absurd success sellTokens_zero_limit
  · exact ⟨by assumption, doTransfer_ok success⟩

theorem nonPayable_ok {value : Nat} {body : Outcome State}
    (success : nonPayable value body = .ok after) : value = 0 ∧ body = .ok after := by
  unfold nonPayable at success
  split at success
  · exact ⟨by assumption, success⟩
  · cases success

/-- A message without ETH leaves all balances of it. -/
theorem payEth_zero (s : State) (source recipient : Address) :
    payEth s source recipient 0 = .ok s := by
  rw [payEth, if_pos (Nat.zero_le _), Ledger.move_zero]

theorem payEth_ok {source recipient : Address} {value : Nat}
    (success : payEth s source recipient value = .ok after) :
    value ≤ s.eth source ∧ after = { s with eth := move s.eth source recipient value } := by
  unfold payEth at success
  split at success
  · rename_i funded
    rw [Except.ok.injEq] at success
    exact ⟨funded, success.symm⟩
  · cases success

end Operations

section Send

variable {this : Address}

/-- The contract's own low-level call at a given remaining depth. -/
def sendAt (depth : Nat) (code : List (Call this)) (accepts : Bool) : Send :=
  match depth with
  | 0 => fun _ _ _ _ => none
  | depth + 1 => fun s recipient value data =>
      if recipient = this then
        match decode data with
        | none => none
        | some op => (deliver depth code accepts s this value op).toOption
      else
        match payEth s this recipient value with
        | .error _ => none
        | .ok s => if accepts then some (run (call depth) s code) else none

theorem deliver_eq (depth : Nat) (code : List (Call this)) (accepts : Bool) (s : State)
    (msgSender : Address) (value : Nat) (op : Op) :
    deliver depth code accepts s msgSender value op = (do
      let s ← payEth s msgSender this value
      invoke this (sendAt depth code accepts) s msgSender value op) := by
  cases depth <;> rfl

/-- A call out either reenters the dispatcher or hands control to the recipient. -/
theorem sendAt_some {depth : Nat} {code : List (Call this)} {accepts : Bool} {s after : State}
    {recipient : Address} {value : Nat} {data : Payload}
    (sent : sendAt depth code accepts s recipient value data = some after) :
    ∃ left, depth = left + 1 ∧
      ((recipient = this ∧ ∃ op, decode data = some op ∧
          deliver left code accepts s this value op = .ok after) ∨
        (recipient ≠ this ∧ accepts = true ∧ ∃ paid, payEth s this recipient value = .ok paid ∧
          after = run (call left) paid code)) := by
  cases depth with
  | zero => cases sent
  | succ left =>
      refine ⟨left, rfl, ?_⟩
      simp only [sendAt] at sent
      by_cases own : recipient = this
      · rw [if_pos own] at sent
        split at sent
        · cases sent
        · rename_i op decoded
          cases result : deliver left code accepts s this value op with
          | error reason =>
              rw [result] at sent
              cases sent
          | ok final =>
              rw [result] at sent
              obtain rfl := Option.some.inj sent
              exact .inl ⟨own, op, decoded, result⟩
      · rw [if_neg own] at sent
        split at sent
        · cases sent
        · rename_i paid moved
          split at sent
          · rename_i accepted
            exact .inr ⟨own, accepted, paid, moved, (Option.some.inj sent).symm⟩
          · cases sent

end Send

section Reachable

variable {this : Address}

/-- A sale that can nest so many calls hands control to an outside recipient in `after`,
directly or through sales that the contract makes to itself. -/
inductive Handover (this : Address) :
    Nat → State → Address → Word → Address → Word → State → Prop
  | direct {depth : Nat} {s started paid : State} {seller recipient : Address}
      {tokenAmount minOut : Word} {ethValue : Nat} (external : recipient ≠ this)
      (sold : startSale this s seller tokenAmount = .ok (started, ethValue))
      (moved : payEth started this recipient ethValue = .ok paid) :
      Handover this (depth + 1) s seller tokenAmount recipient minOut paid
  -- `sellTokens` is not payable, so the self-call carries no ETH.
  | selfCall {depth : Nat} {s started paid : State} {seller recipient : Address}
      {tokenAmount minOut innerAmount innerMinOut : Word}
      (sold : startSale this s seller tokenAmount = .ok (started, 0))
      (decoded : decode (encodePacked minOut this tokenAmount seller 0) =
        some (.sellTokens innerAmount recipient innerMinOut))
      (inner : Handover this depth started this innerAmount recipient innerMinOut paid) :
      Handover this (depth + 1) s seller tokenAmount this minOut paid

/-- The states seen outside the contract's own code, from `s` on: after any call,
and also inside a pending `sellTokens`, when its recipient has control. Only calls
that are `allowed` in the state they are made in, with so many more to be nested, are made. -/
inductive Reachable (allowed : Nat → State → Call this → Prop) (s : State) : State → Prop
  | start : Reachable allowed s s
  | call {depth : Nat} {before after : State} {made : Call this}
      (reached : Reachable allowed s before) (admitted : allowed depth before made)
      (success : call depth before made = .ok after) : Reachable allowed s after
  | inside {depth : Nat} {before after : State} {seller recipient : Address}
      {tokenAmount minOut : Word}
      (external : seller ≠ this) (reached : Reachable allowed s before)
      (admitted : allowed depth before
        (.message seller external 0 (.sellTokens tokenAmount recipient minOut) [] true))
      (sale : Handover this depth before seller tokenAmount recipient minOut after) :
      Reachable allowed s after

/-- Every run of calls stays among the reachable states. -/
theorem Reachable.run {allowed : Nat → State → Call this → Prop} {s before : State} (depth : Nat)
    (reached : Reachable allowed s before) (calls : List (Call this))
    (admitted : Meets (allowed depth) (Doju.call depth) before calls) :
    Reachable allowed s (run (Doju.call depth) before calls) := by
  induction calls generalizing before with
  | nil => exact reached
  | cons made rest ih =>
      rw [run_cons]
      refine ih ?_ admitted.2
      exact commit_invariant (Reachable allowed s)
        (fun _ success => .call reached admitted.1 success) reached

end Reachable

/-- A property that the contract's functions keep up to their calls out, and that does not
look at ETH or events. -/
structure Preserved (this : Address) (Inv : State → Prop) : Prop where
  eth : ∀ {s : State} (eth : Address → Nat), Inv s → Inv { s with eth := eth }
  logs : ∀ {s : State} (logs : List Event), Inv s → Inv { s with logs := logs }
  doTransfer : ∀ {s after : State} {source recipient : Address} {value : Nat}, Inv s →
    doTransfer s source recipient value = .ok after → Inv after
  buyTokens : ∀ {s after : State} {value : Nat} {recipient : Address}, Inv s →
    buyTokens this s value recipient = .ok after → Inv after
  startSale : ∀ {s after : State} {seller : Address} {tokenAmount ethValue : Nat}, Inv s →
    startSale this s seller tokenAmount = .ok (after, ethValue) → Inv after

namespace Preserved

variable {this : Address} {Inv : State → Prop} {s after : State} {depth : Nat}
  {code : List (Call this)} {accepts : Bool}

/-- A call out keeps it too. -/
def Outward (Inv : State → Prop) (send : Send) : Prop :=
  ∀ s recipient value data sent, Inv s → send s recipient value data = some sent → Inv sent

theorem payEth {source recipient : Address} {value : Nat} (kept : Preserved this Inv)
    (holds : Inv s) (success : payEth s source recipient value = .ok after) : Inv after := by
  obtain ⟨_, rfl⟩ := payEth_ok success
  exact kept.eth _ holds

theorem sellTokens {send : Send} {msgSender recipient : Address} {tokenAmount minOut : Word}
    (kept : Preserved this Inv) (outward : Outward Inv send) (holds : Inv s)
    (success : sellTokens this send s msgSender tokenAmount recipient minOut = .ok after) :
    Inv after := by
  obtain ⟨started, ethValue, sent, sold, _, delivered, rfl⟩ := sellTokens_ok success
  exact kept.logs _ (outward _ _ _ _ _ (kept.startSale holds sold) delivered)

theorem invoke {send : Send} {msgSender : Address} {value : Nat} {op : Op}
    (kept : Preserved this Inv) (outward : Outward Inv send) (holds : Inv s)
    (success : invoke this send s msgSender value op = .ok after) : Inv after := by
  cases op with
  | receive => exact kept.buyTokens holds success
  | buyTokens recipient => exact kept.buyTokens holds success
  | sellTokens tokenAmount recipient minOut =>
      exact kept.sellTokens outward holds (nonPayable_ok success).2
  | transfer recipient amount =>
      have moved := (nonPayable_ok success).2
      unfold transfer at moved
      split at moved
      · exact absurd moved sellTokens_zero_limit
      · exact kept.doTransfer holds moved
  | getter =>
      have read := (nonPayable_ok success).2
      rw [pure_ok_iff] at read
      subst read
      exact holds

theorem deliver {msgSender : Address} {value : Nat} {op : Op} (kept : Preserved this Inv)
    (outward : Outward Inv (sendAt depth code accepts)) (holds : Inv s)
    (success : deliver depth code accepts s msgSender value op = .ok after) : Inv after := by
  rw [deliver_eq, bind_ok_iff] at success
  obtain ⟨paid, moved, invoked⟩ := success
  exact kept.invoke outward (kept.payEth holds moved) invoked

theorem call_of_outward {made : Call this} (kept : Preserved this Inv)
    (outward : ∀ (code : List (Call this)) (accepts : Bool),
      Outward Inv (sendAt depth code accepts))
    (holds : Inv s) (success : call depth s made = .ok after) : Inv after := by
  cases made with
  | message msgSender external value op code accepts =>
      exact kept.deliver (outward code accepts) holds success
  | elsewhere source external recipient value => exact kept.payEth holds success
  | reward recipient value =>
      obtain rfl := Except.ok.inj success
      exact kept.eth _ holds

/-- However deep the calls are nested. -/
theorem sendAt (kept : Preserved this Inv) (depth : Nat) :
    ∀ (code : List (Call this)) (accepts : Bool), Outward Inv (sendAt depth code accepts) := by
  induction depth with
  | zero =>
      intro code accepts s recipient value data sent holds delivered
      cases delivered
  | succ depth ih =>
      intro code accepts s recipient value data sent holds delivered
      obtain ⟨left, same, reentered | handed⟩ := sendAt_some delivered
      · obtain rfl := Nat.succ.inj same
        obtain ⟨_, op, _, inner⟩ := reentered
        exact kept.deliver (ih code accepts) holds inner
      · obtain rfl := Nat.succ.inj same
        obtain ⟨_, _, paid, moved, rfl⟩ := handed
        exact run_invariant Inv
          (fun _ _ _ before success => kept.call_of_outward ih before success) code paid
          (kept.payEth holds moved)

theorem handover {seller recipient : Address} {tokenAmount minOut : Word}
    (kept : Preserved this Inv)
    (sale : Handover this depth s seller tokenAmount recipient minOut after) :
    Inv s → Inv after := by
  induction sale with
  | direct external sold moved =>
      intro holds
      exact kept.payEth (kept.startSale holds sold) moved
  | selfCall sold decoded inner ih =>
      intro holds
      exact ih (kept.startSale holds sold)

/-- So it holds in every reachable state, inside pending sales too. -/
theorem reachable {allowed : Nat → State → Call this → Prop} (kept : Preserved this Inv)
    (holds : Inv s) (reached : Reachable allowed s after) : Inv after := by
  induction reached with
  | start => exact holds
  | call reached admitted success ih =>
      exact kept.call_of_outward (kept.sendAt _) ih success
  | inside external reached admitted sale ih => exact kept.handover sale ih

end Preserved

end Doju
