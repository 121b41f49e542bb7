import BlazCtf.Doju.TokenSpec

set_option autoImplicit false

namespace Doju

open Evm
open Function (update)
open Ledger (move)

/-- The tokens held by everybody but the token contract. -/
def circulating (this : Address) (s : State) : Nat :=
  ∑ account ∈ Finset.univ.erase this, s.balanceOf account

/-- Every circulating token is part of the supply. -/
def Covered (this : Address) (s : State) : Prop := circulating this s ≤ s.totalSupply

/-- What the contract's functions must not do with its own tokens, where `sends` says which
calls out are harmless: as the sender it neither transfers a positive amount that it has to
another account nor sells one, and the call out of a sale that gets so far is harmless. -/
def HarmlessOp (this : Address) (sends : State → Address → Nat → Payload → Prop) (s : State)
    (msgSender : Address) : Op → Prop
  | .transfer recipient value => msgSender = this → value ≤ s.balanceOf this →
      value = 0 ∨ recipient = this ∨ recipient = BURN_ADDRESS
  | .sellTokens tokenAmount recipient minOut => ∀ started ethValue,
      startSale this s msgSender tokenAmount = .ok (started, ethValue) →
        (msgSender = this → tokenAmount = 0) ∧
          sends started recipient ethValue
            (encodePacked minOut recipient tokenAmount msgSender ethValue)
  | .receive | .buyTokens _ | .getter => True

def safeWith {this : Address}
    (harmless : List (Call this) → Bool → State → Address → Nat → Op → Prop) (s : State) :
    Call this → Prop
  | .message msgSender _ value op code accepts => harmless code accepts s msgSender value op
  | .elsewhere _ _ _ _ | .reward _ _ => True

/-- A message that is delivered harmlessly, when `depth` more calls can be nested: it carries
ETH, or its function is harmless. A call out to the contract itself (which reaches `transfer`
and `sellTokens` only when no ETH comes with it) is again such a message, and so are the calls
of a recipient that gets control. -/
def Harmless {this : Address} :
    Nat → List (Call this) → Bool → State → Address → Nat → Op → Prop
  | 0, _, _, s, msgSender, value, op => ∀ paid, payEth s msgSender this value = .ok paid →
      value = 0 → HarmlessOp this (fun _ _ _ _ => True) paid msgSender op
  | depth + 1, code, accepts, s, msgSender, value, op =>
      let sends := fun s recipient value data =>
        if recipient = this then
          ∀ op, decode data = some op → Harmless depth code accepts s this value op
        else
          accepts → ∀ paid, payEth s this recipient value = .ok paid →
            Meets (safeWith (Harmless depth)) (call depth) paid code
      ∀ paid, payEth s msgSender this value = .ok paid → value = 0 →
        HarmlessOp this sends paid msgSender op

/-- A call whose messages are all harmless where they are delivered, however its calls are
nested. -/
def Safe {this : Address} (depth : Nat) : State → Call this → Prop := safeWith (Harmless depth)

/-- The harmless calls out at a given remaining depth. -/
def HarmlessSend {this : Address} (depth : Nat) (code : List (Call this)) (accepts : Bool)
    (s : State) (recipient : Address) (value : Nat) (data : Payload) : Prop :=
  match depth with
  | 0 => True
  | depth + 1 =>
      if recipient = this then
        ∀ op, decode data = some op → Harmless depth code accepts s this value op
      else
        accepts → ∀ paid, payEth s this recipient value = .ok paid →
          Meets (Safe depth) (call depth) paid code

theorem harmless_iff {this : Address} (depth : Nat) (code : List (Call this)) (accepts : Bool)
    (s : State) (msgSender : Address) (value : Nat) (op : Op) :
    Harmless depth code accepts s msgSender value op ↔
      ∀ paid, payEth s msgSender this value = .ok paid → value = 0 →
        HarmlessOp this (HarmlessSend depth code accepts) paid msgSender op := by
  cases depth <;> exact Iff.rfl

section Steps

variable {this : Address} {s after : State}

theorem circulating_move (this recipient : Address) {source : Address} {value : Nat}
    (funded : value ≤ s.balanceOf source) :
    circulating this { s with balanceOf := move s.balanceOf source recipient value } +
        (if source = this then 0 else value) =
      circulating this s + (if recipient = this then 0 else value) := by
  have moved := Ledger.sum_move_on (Finset.univ.erase this) recipient funded
  simpa [ite_not, circulating] using moved

theorem payEth_covered {source recipient : Address} {value : Nat} (covered : Covered this s)
    (success : payEth s source recipient value = .ok after) : Covered this after := by
  obtain ⟨_, rfl⟩ := payEth_ok success
  exact covered

theorem buyTokens_covered {value : Nat} {recipient : Address} (covered : Covered this s)
    (success : buyTokens this s value recipient = .ok after) : Covered this after := by
  obtain ⟨minted, bought⟩ := buyTokens_ok success
  have moved := circulating_move this recipient bought.funded
  rw [if_pos rfl] at moved
  have least : (if recipient = this then 0 else minted) ≤ minted := by
    split
    · exact Nat.zero_le minted
    · exact Nat.le_refl minted
  rw [bought.booked]
  change circulating this { s with balanceOf := move s.balanceOf this recipient minted } ≤
    s.totalSupply + minted
  unfold Covered at covered
  omega

theorem startSale_covered {seller : Address} {tokenAmount ethValue : Nat}
    (covered : Covered this s) (kept : seller = this → tokenAmount = 0)
    (success : startSale this s seller tokenAmount = .ok (after, ethValue)) :
    Covered this after := by
  have started := startSale_ok success
  have moved := circulating_move this this started.funded
  rw [if_pos rfl] at moved
  have removed : (if seller = this then 0 else tokenAmount) = tokenAmount := by
    split
    · rename_i own
      exact (kept own).symm
    · rfl
  rw [removed] at moved
  have supplied := started.supplied
  rw [started.booked]
  change circulating this { s with balanceOf := move s.balanceOf seller this tokenAmount } ≤
    s.totalSupply - tokenAmount
  unfold Covered at covered
  omega

theorem transfer_covered {send : Send} {msgSender recipient : Address} {value : Word}
    (covered : Covered this s)
    (kept : msgSender = this → value ≤ s.balanceOf this →
      value = 0 ∨ recipient = this ∨ recipient = BURN_ADDRESS)
    (success : transfer this send s msgSender recipient value = .ok after) :
    Covered this after := by
  obtain ⟨notBurned, funded, rfl⟩ := transfer_ok success
  have moved := circulating_move this recipient funded
  have least : (if recipient = this then 0 else value.val) ≤
      if msgSender = this then 0 else value.val := by
    by_cases own : msgSender = this
    · subst own
      rcases kept rfl funded with zero | home | burned
      · subst zero
        simp
      · simp [home]
      · exact absurd burned notBurned
    · rw [if_neg own]
      split <;> omega
  change circulating this { s with balanceOf := move s.balanceOf msgSender recipient value } ≤
    s.totalSupply
  unfold Covered at covered
  omega

/-- Harmless calls out keep the supply covered. -/
def Keeps (this : Address) (sends : State → Address → Nat → Payload → Prop) (send : Send) :
    Prop :=
  ∀ s recipient value data sent, Covered this s → sends s recipient value data →
    send s recipient value data = some sent → Covered this sent

variable {sends : State → Address → Nat → Payload → Prop}

theorem sellTokens_covered {send : Send} {msgSender recipient : Address}
    {tokenAmount minOut : Word} (keeps : Keeps this sends send) (covered : Covered this s)
    (harmless : HarmlessOp this sends s msgSender (.sellTokens tokenAmount recipient minOut))
    (success : sellTokens this send s msgSender tokenAmount recipient minOut = .ok after) :
    Covered this after := by
  obtain ⟨started, ethValue, sent, sold, _, delivered, rfl⟩ := sellTokens_ok success
  obtain ⟨kept, outward⟩ := harmless started ethValue sold
  have start : Covered this started :=
    startSale_covered covered (fun own => congrArg Fin.val (kept own)) sold
  exact keeps started recipient ethValue _ sent start outward delivered

theorem invoke_covered {send : Send} {msgSender : Address} {value : Nat} {op : Op}
    (keeps : Keeps this sends send) (covered : Covered this s)
    (harmless : value = 0 → HarmlessOp this sends s msgSender op)
    (success : invoke this send s msgSender value op = .ok after) : Covered this after := by
  cases op with
  | receive => exact buyTokens_covered covered success
  | buyTokens recipient => exact buyTokens_covered covered success
  | sellTokens tokenAmount recipient minOut =>
      obtain ⟨zero, sold⟩ := nonPayable_ok success
      exact sellTokens_covered keeps covered (harmless zero) sold
  | transfer recipient amount =>
      obtain ⟨zero, moved⟩ := nonPayable_ok success
      exact transfer_covered covered (harmless zero) moved
  | getter =>
      obtain ⟨_, read⟩ := nonPayable_ok success
      rw [pure_ok_iff] at read
      subst read
      exact covered

theorem deliver_covered {depth : Nat} {code : List (Call this)} {accepts : Bool}
    {msgSender : Address} {value : Nat} {op : Op}
    (keeps : Keeps this (HarmlessSend depth code accepts) (sendAt depth code accepts))
    (covered : Covered this s) (harmless : Harmless depth code accepts s msgSender value op)
    (success : deliver depth code accepts s msgSender value op = .ok after) :
    Covered this after := by
  rw [deliver_eq, bind_ok_iff] at success
  obtain ⟨paid, moved, invoked⟩ := success
  rw [harmless_iff] at harmless
  exact invoke_covered keeps (payEth_covered covered moved) (harmless paid moved) invoked

theorem call_covered_of_keeps {depth : Nat} {made : Call this}
    (keeps : ∀ (code : List (Call this)) (accepts : Bool),
      Keeps this (HarmlessSend depth code accepts) (sendAt depth code accepts))
    (covered : Covered this s) (safe : Safe depth s made)
    (success : call depth s made = .ok after) : Covered this after := by
  cases made with
  | message msgSender external value op code accepts =>
      exact deliver_covered (keeps code accepts) covered safe success
  | elsewhere source external recipient value =>
      exact payEth_covered covered success
  | reward recipient value =>
      obtain rfl := Except.ok.inj success
      exact covered

theorem sendAt_keeps (depth : Nat) : ∀ (code : List (Call this)) (accepts : Bool),
    Keeps this (HarmlessSend depth code accepts) (sendAt depth code accepts) := by
  induction depth with
  | zero =>
      intro code accepts s recipient value data sent covered harmless delivered
      cases delivered
  | succ depth ih =>
      intro code accepts s recipient value data sent covered harmless delivered
      obtain ⟨left, same, reentered | handed⟩ := sendAt_some delivered
      · obtain rfl := Nat.succ.inj same
        obtain ⟨home, op, decoded, inner⟩ := reentered
        simp only [HarmlessSend, if_pos home] at harmless
        exact deliver_covered (ih code accepts) covered (harmless op decoded) inner
      · obtain rfl := Nat.succ.inj same
        obtain ⟨external, accepted, paid, moved, rfl⟩ := handed
        simp only [HarmlessSend, if_neg external] at harmless
        exact run_invariant_of_meets (Covered this)
          (fun _ _ _ holds safe success => call_covered_of_keeps ih holds safe success) code paid
          (payEth_covered covered moved) (harmless accepted paid moved)

theorem call_covered {depth : Nat} {made : Call this} (covered : Covered this s)
    (safe : Safe depth s made) (success : call depth s made = .ok after) : Covered this after :=
  call_covered_of_keeps (sendAt_keeps depth) covered safe success

theorem handover_covered {depth : Nat} {seller recipient : Address} {tokenAmount minOut : Word}
    (sale : Handover this depth s seller tokenAmount recipient minOut after) :
    Covered this s →
      HarmlessOp this (HarmlessSend depth ([] : List (Call this)) true) s seller
        (.sellTokens tokenAmount recipient minOut) → Covered this after := by
  induction sale with
  | direct external sold moved =>
      intro covered harmless
      have kept := (harmless _ _ sold).1
      exact payEth_covered
        (startSale_covered covered (fun own => congrArg Fin.val (kept own)) sold) moved
  | selfCall sold decoded inner ih =>
      intro covered harmless
      obtain ⟨kept, outward⟩ := harmless _ _ sold
      have start := startSale_covered covered (fun own => congrArg Fin.val (kept own)) sold
      simp only [HarmlessSend, ↓reduceIte] at outward
      have nested := (harmless_iff _ _ _ _ _ _ _).mp (outward _ decoded)
      exact ih start (nested _ (payEth_zero _ this this) rfl)

theorem deploy_covered {deployer : Address} (external : deployer ≠ this) (eth : Address → Nat) :
    Covered this (deploy this deployer eth) := by
  have member : deployer ∈ Finset.univ.erase this :=
    Finset.mem_erase.mpr ⟨external, Finset.mem_univ deployer⟩
  have own := Ledger.sum_update_add (Finset.univ.erase this) (fun n : Nat => n)
    (fun _ : Address => 0) member (100 * 10 ^ 18)
  rw [Finset.sum_const_zero, Nat.zero_add, Nat.add_zero] at own
  unfold Covered circulating deploy
  dsimp only
  rw [Ledger.sum_update_outside (Finset.univ.erase this) (fun n : Nat => n) _
    (Finset.notMem_erase this Finset.univ), own]

end Steps

/-- In every state reached by calls that are safe where they are made, inside pending sales
too, the tokens outside the contract are covered by the supply. -/
theorem circulating_le_totalSupply {this deployer : Address} (external : deployer ≠ this)
    (eth : Address → Nat) {s : State}
    (reached : Reachable (fun depth s (made : Call this) => Safe depth s made)
      (deploy this deployer eth) s) :
    circulating this s ≤ s.totalSupply := by
  have covered : Covered this s := by
    induction reached with
    | start => exact deploy_covered external eth
    | call reached admitted success ih => exact call_covered ih admitted success
    | inside external reached admitted sale ih =>
        have harmless := (harmless_iff _ _ _ _ _ _ _).mp admitted
        exact handover_covered sale ih (harmless _ (payEth_zero _ _ _) rfl)
  exact covered

/-- Account 1 has deployed the token at this address. -/
def tokenAddress : Address := 0xdead00000000000000000000000000000000beef

def deployed : State := deploy tokenAddress 1 fun _ => 0

/-- The deployer gives one token to account 2 and offers nothing for sale. -/
def giveOne : Call tokenAddress :=
  .message 1 (by decide) 0 (.transfer 2 1000000000000000000) [] true

theorem circulating_le_totalSupply_give_one :
    Safe callDepth deployed giveOne ∧
      circulating tokenAddress (run (call callDepth) deployed [giveOne]) ≤
        (run (call callDepth) deployed [giveOne]).totalSupply := by
  have safe : Safe callDepth deployed giveOne := by
    refine (harmless_iff callDepth [] true deployed 1 0 _).mpr ?_
    intro paid moved zero own
    exact absurd own (by decide)
  have reached : Reachable (fun depth s (made : Call tokenAddress) => Safe depth s made) deployed
      (run (call callDepth) deployed [giveOne]) :=
    Reachable.run callDepth .start [giveOne] ⟨safe, trivial⟩
  exact ⟨safe, circulating_le_totalSupply (by decide) _ reached⟩

/-- A sale of nothing to the contract itself whose `minOut` starts with the
selector of `transfer`: the packed bytes pay account `0xc0ffee..dead0000` out of
the contract's own tokens. -/
def leak : Call tokenAddress :=
  .message 2 (by decide) 0 (.sellTokens 0 tokenAddress
    0xa9059cbb000000000000000000000000c0ffee00000000000000000000000000) [] true

theorem leaked_tokens_not_covered :
    ¬ circulating tokenAddress (run (call callDepth) deployed [leak]) ≤
      (run (call callDepth) deployed [leak]).totalSupply := by
  have held : (run (call callDepth) deployed [leak]).totalSupply <
      (run (call callDepth) deployed [leak]).balanceOf
        0xc0ffee00000000000000000000000000dead0000 := by
    decide +kernel
  have counted : (run (call callDepth) deployed [leak]).balanceOf
      0xc0ffee00000000000000000000000000dead0000 ≤
      circulating tokenAddress (run (call callDepth) deployed [leak]) :=
    Finset.single_le_sum (fun _ _ => Nat.zero_le _)
      (Finset.mem_erase.mpr ⟨by decide, Finset.mem_univ _⟩)
  omega

end Doju
