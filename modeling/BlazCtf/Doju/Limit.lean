import BlazCtf.Doju.Conservation
import BlazCtf.Doju.Reserve

set_option autoImplicit false

namespace Doju

open Evm
open Ledger (move)

/-- No arithmetic of a sale can overflow: the square of the supply is a word, and so is
the sum of all balances. -/
structure Sound (s : State) : Prop where
  supply : s.totalSupply * s.totalSupply < 2 ^ 256
  balances : ∑ account, s.balanceOf account < 2 ^ 256

section Steps

variable {this : Address} {s after : State}

theorem deploy_sound (this deployer : Address) (eth : Address → Nat) :
    Sound (deploy this deployer eth) where
  supply := by
    have small : 100 * 10 ^ 18 * (100 * 10 ^ 18) < 2 ^ 256 := by decide
    exact small
  balances := by
    have total := deploy_total this deployer eth
    omega

/-- The supply after a purchase is a root, so its square is a word. -/
theorem ethToTokens_fits {value supply minted : Nat}
    (success : ethToTokens value supply = .ok minted) :
    (supply + minted) * (supply + minted) < 2 ^ 256 := by
  simp only [ethToTokens, bind_ok_iff, checkedSub_ok_iff] at success
  obtain ⟨_, _, _, _, _, _, _, _, newSupply, rooted, above, rfl⟩ := success
  rw [Nat.add_sub_of_le above]
  exact sqrt_square_lt rooted

theorem supply_preserved (this : Address) :
    Preserved this fun s => s.totalSupply * s.totalSupply < 2 ^ 256 where
  eth _ fits := fits
  logs _ fits := fits
  doTransfer := by
    intro s after source recipient value fits success
    obtain ⟨_, rfl⟩ := doTransfer_ok success
    exact fits
  buyTokens := by
    intro s after value recipient fits success
    simp only [buyTokens, bind_ok_iff, pure_ok_iff, checkedAdd_ok_iff] at success
    obtain ⟨_, _, minted, priced, paid, moved, _, ⟨_, rfl⟩, rfl⟩ := success
    obtain ⟨_, rfl⟩ := doTransfer_ok moved
    exact ethToTokens_fits priced
  startSale := by
    intro s after seller tokenAmount ethValue fits success
    have started := startSale_ok success
    have square : (s.totalSupply - tokenAmount) * (s.totalSupply - tokenAmount) ≤
        s.totalSupply * s.totalSupply := Nat.mul_le_mul (Nat.sub_le _ _) (Nat.sub_le _ _)
    rw [started.booked]
    exact Nat.lt_of_le_of_lt square fits

/-- A call out leaves a sound state sound. -/
def KeepsSound (send : Send) : Prop :=
  ∀ s recipient value data sent, Sound s → send s recipient value data = some sent → Sound sent

theorem balances_preserved (this : Address) :
    Preserved this fun s => ∑ account, s.balanceOf account < 2 ^ 256 :=
  sum_preserved this (· < 2 ^ 256)

theorem sound_preserved : Preserved this Sound where
  eth _ sound := ⟨sound.supply, sound.balances⟩
  logs _ sound := ⟨sound.supply, sound.balances⟩
  doTransfer sound success :=
    ⟨(supply_preserved this).doTransfer sound.supply success,
      (balances_preserved this).doTransfer sound.balances success⟩
  buyTokens sound success :=
    ⟨(supply_preserved this).buyTokens sound.supply success,
      (balances_preserved this).buyTokens sound.balances success⟩
  startSale sound success :=
    ⟨(supply_preserved this).startSale sound.supply success,
      (balances_preserved this).startSale sound.balances success⟩

/-- Every reachable state is sound, inside pending sales too. -/
theorem reachable_sound {allowed : Nat → State → Call this → Prop} (sound : Sound s)
    (reached : Reachable allowed s after) : Sound after :=
  sound_preserved.reachable sound reached

end Steps

/-- What a sale is worth on the curve, rounded down. -/
def saleValue (s : State) (tokenAmount : Nat) : Nat :=
  (s.totalSupply * s.totalSupply -
    (s.totalSupply - tokenAmount) * (s.totalSupply - tokenAmount)) / (2 * 10 ^ 18)

/-- The seller has the tokens, they are part of the supply, and the reserve covers them. -/
structure Sellable (this : Address) (s : State) (seller : Address) (tokenAmount : Nat) : Prop where
  held : tokenAmount ≤ s.balanceOf seller
  supplied : tokenAmount ≤ s.totalSupply
  reserved : saleValue s tokenAmount ≤ s.eth this

section Sale

variable {this seller : Address} {s after : State} {tokenAmount : Nat}

theorem tokensToEth_eq (sound : Sound s) (supplied : tokenAmount ≤ s.totalSupply) :
    tokensToEth s tokenAmount = .ok (saleValue s tokenAmount) := by
  have square : (s.totalSupply - tokenAmount) * (s.totalSupply - tokenAmount) ≤
      s.totalSupply * s.totalSupply := Nat.mul_le_mul (Nat.sub_le _ _) (Nat.sub_le _ _)
  simp only [tokensToEth, bind_ok_iff, checkedMul_ok_iff, checkedSub_ok_iff, checkedDiv_ok_iff]
  exact ⟨_, ⟨sound.supply, rfl⟩, _, ⟨supplied, rfl⟩, _,
    ⟨Nat.lt_of_le_of_lt square sound.supply, rfl⟩, _, ⟨square, rfl⟩, by decide, rfl⟩

/-- Two accounts together hold less than a word. -/
theorem Sound.pair (sound : Sound s) (distinct : seller ≠ this) :
    s.balanceOf seller + s.balanceOf this < 2 ^ 256 := by
  have pair : s.balanceOf seller + s.balanceOf this ≤ ∑ account, s.balanceOf account := by
    rw [← Finset.sum_pair distinct]
    exact Finset.sum_le_sum_of_subset (Finset.subset_univ _)
  exact Nat.lt_of_le_of_lt pair sound.balances

theorem doTransfer_eq {recipient : Address} (nonzero : recipient ≠ 0)
    (held : tokenAmount ≤ s.balanceOf seller)
    (fits : Function.update s.balanceOf seller (s.balanceOf seller - tokenAmount) recipient +
      tokenAmount < 2 ^ 256) :
    doTransfer s seller recipient tokenAmount = .ok { s with
      balanceOf := move s.balanceOf seller recipient tokenAmount
      logs := .transfer seller recipient tokenAmount :: s.logs } := by
  simp only [doTransfer, bind_ok_iff, pure_ok_iff, require_ok_iff, checkedSub_ok_iff,
    checkedAdd_ok_iff]
  exact ⟨(), nonzero, (), held, _, ⟨held, rfl⟩, _, ⟨fits, rfl⟩, rfl⟩

/-- The state in which a sale makes its external call. -/
def saleStarted (this seller : Address) (s : State) (tokenAmount : Nat) : State :=
  { s with
    totalSupply := s.totalSupply - tokenAmount
    balanceOf := move s.balanceOf seller this tokenAmount
    logs := .transfer seller this tokenAmount :: s.logs }

theorem startSale_eq (deployed : this ≠ 0) (external : seller ≠ this) (sound : Sound s)
    (held : tokenAmount ≤ s.balanceOf seller) (supplied : tokenAmount ≤ s.totalSupply) :
    startSale this s seller tokenAmount =
      .ok (saleStarted this seller s tokenAmount, saleValue s tokenAmount) := by
  have pair := sound.pair external
  have moved := doTransfer_eq (s := s) deployed held (by
    rw [Function.update_of_ne external.symm]
    omega)
  simp only [startSale, tokensToEth_eq sound supplied, moved, bind_ok_iff, Except.ok.injEq,
    pure_ok_iff, checkedSub_ok_iff]
  exact ⟨_, rfl, _, rfl, _, ⟨supplied, rfl⟩, rfl⟩

variable {depth : Nat} {recipient : Address}

/-- The contract's low-level call to a recipient that just accepts. -/
def acceptingSend (this : Address) (depth : Nat) : Send :=
  sendAt (depth + 1) ([] : List (Call this)) true

theorem acceptingSend_eq (depth : Nat) (outside : recipient ≠ this) (s : State) (value : Nat)
    (data : Payload) :
    acceptingSend this depth s recipient value data =
      if value ≤ s.eth this then some { s with eth := move s.eth this recipient value }
      else none := by
  simp only [acceptingSend, sendAt, if_neg outside, payEth]
  split
  · rename_i failed
    split at failed
    · cases failed
    · rename_i short
      rw [if_neg short]
  · rename_i paid
    split at paid
    · rename_i enough
      cases paid
      rw [if_pos enough]
      rfl
    · cases paid

/-- A successful sale to such a recipient: what it needs, and what it pays. -/
theorem sellTokens_accepting {tokenAmount minOut : Word} (deployed : this ≠ 0)
    (external : seller ≠ this) (outside : recipient ≠ this) (sound : Sound s)
    (success : sellTokens this (acceptingSend this depth) s seller tokenAmount recipient minOut =
      .ok after) :
    Sellable this s seller tokenAmount ∧ saleValue s tokenAmount < minOut ∧
      after.eth recipient = s.eth recipient + saleValue s tokenAmount := by
  obtain ⟨started, ethValue, sent, sold, limit, delivered, rfl⟩ := sellTokens_ok success
  have start := startSale_ok sold
  rw [startSale_eq deployed external sound start.funded start.supplied, Except.ok.injEq,
    Prod.mk.injEq] at sold
  obtain ⟨rfl, rfl⟩ := sold
  rw [acceptingSend_eq depth outside] at delivered
  split at delivered
  · rename_i reserved
    cases delivered
    exact ⟨⟨start.funded, start.supplied, reserved⟩, limit, Ledger.move_target outside.symm⟩
  · cases delivered

theorem sellTokens_returns {tokenAmount minOut : Word} (deployed : this ≠ 0)
    (external : seller ≠ this) (outside : recipient ≠ this) (sound : Sound s)
    (sellable : Sellable this s seller tokenAmount) (limit : saleValue s tokenAmount < minOut) :
    ∃ after, sellTokens this (acceptingSend this depth) s seller tokenAmount recipient minOut =
      .ok after := by
  have start := startSale_eq deployed external sound sellable.held sellable.supplied
  have enough : saleValue s tokenAmount ≤ (saleStarted this seller s tokenAmount).eth this :=
    sellable.reserved
  obtain ⟨paid, sent⟩ : ∃ paid, acceptingSend this depth (saleStarted this seller s tokenAmount)
      recipient (saleValue s tokenAmount)
      (encodePacked minOut recipient tokenAmount seller (saleValue s tokenAmount)) = some paid := by
    rw [acceptingSend_eq depth outside, if_pos enough]
    exact ⟨_, rfl⟩
  refine ⟨(paid.emit (.burn seller tokenAmount)).emit (.transfer seller 0 tokenAmount), ?_⟩
  simp only [sellTokens, start, bind_ok_iff, Except.ok.injEq, require_ok_iff]
  refine ⟨_, rfl, (), limit, ?_⟩
  rw [sent]
  rfl

/-- A message without ETH runs the function it names. -/
theorem call_message_zero (op : Op) (external : seller ≠ this) :
    call (depth + 1) s (.message seller external 0 op [] true) =
      invoke this (acceptingSend this depth) s seller 0 op := by
  change deliver (depth + 1) [] true s seller 0 op = _
  rw [deliver_eq, payEth_zero]
  rfl

end Sale

/-- In every reachable state, a sale to a recipient that just accepts succeeds exactly
when it is backed and its value is below `minOut`, and then pays that value. So the
seller's limit is kept, and `transfer` to the burn address works as the sale with no
limit should, exactly when the sale is not backed at all. -/
theorem sale_limit_iff {this deployer : Address} (deployed : this ≠ 0) (eth : Address → Nat)
    {s : State} (reached : Reachable (fun _ _ (_ : Call this) => True) (deploy this deployer eth) s)
    (depth : Nat) (seller recipient : Address) (external : seller ≠ this)
    (outside : recipient ≠ this) (tokenAmount minOut : Word) :
    let sale := call (depth + 1) s
      (.message seller external 0 (.sellTokens tokenAmount recipient minOut) [] true)
    let burn := call (depth + 1) s
      (.message seller external 0 (.transfer BURN_ADDRESS tokenAmount) [] true)
    ((∃ after, sale = .ok after) ↔
      Sellable this s seller tokenAmount ∧ saleValue s tokenAmount < minOut) ∧
    (∀ after, sale = .ok after →
      after.eth recipient = s.eth recipient + saleValue s tokenAmount) ∧
    (((((∃ after, sale = .ok after) ↔
          Sellable this s seller tokenAmount ∧ minOut ≤ saleValue s tokenAmount) ∧
        (∀ after, sale = .ok after →
          after.eth recipient = s.eth recipient + saleValue s tokenAmount) ∧
        (Sellable this s seller tokenAmount → ∃ after, burn = .ok after))) ↔
      ¬ Sellable this s seller tokenAmount) := by
  intro sale burn
  have sound := reachable_sound (deploy_sound this deployer eth) reached
  have sold : sale = sellTokens this (acceptingSend this depth) s seller tokenAmount recipient
      minOut := call_message_zero _ external
  have burned : burn = sellTokens this (acceptingSend this depth) s seller tokenAmount seller
      0 := call_message_zero _ external
  have success : (∃ after, sale = .ok after) ↔
      Sellable this s seller tokenAmount ∧ saleValue s tokenAmount < minOut := by
    rw [sold]
    constructor
    · rintro ⟨after, returned⟩
      have effect := sellTokens_accepting deployed external outside sound returned
      exact ⟨effect.1, effect.2.1⟩
    · rintro ⟨sellable, limit⟩
      exact sellTokens_returns deployed external outside sound sellable limit
  have payment : ∀ after, sale = .ok after →
      after.eth recipient = s.eth recipient + saleValue s tokenAmount := by
    intro after returned
    rw [sold] at returned
    exact (sellTokens_accepting deployed external outside sound returned).2.2
  refine ⟨success, payment, ?_⟩
  constructor
  · rintro ⟨_, _, burns⟩ sellable
    obtain ⟨after, returned⟩ := burns sellable
    rw [burned] at returned
    exact sellTokens_zero_limit returned
  · intro unbacked
    refine ⟨?_, payment, fun sellable => absurd sellable unbacked⟩
    rw [success]
    exact ⟨fun both => absurd both.1 unbacked, fun both => absurd both.1 unbacked⟩

theorem deployer_external : (1 : Address) ≠ 70 := by decide

/-- The deployer sells one token to account 2 with a limit. -/
def sellOne (minOut : Word) : Call 70 :=
  .message 1 deployer_external 0 (.sellTokens 1000000000000000000 2 minOut) [] true

theorem sellOne_backed : Sellable 70 funded 1 1000000000000000000 :=
  ⟨by decide, by decide, by decide⟩

/-- One token is worth 99.5 ether and the reserve has 100. The sale is refused to a seller
who asks for at least 50, and goes through for one who asks for at least 200. -/
theorem sale_refused_within_limit :
    Sellable 70 funded 1 1000000000000000000 ∧
      saleValue funded 1000000000000000000 = 99500000000000000000 ∧
      (call callDepth funded (sellOne 50000000000000000000)).toBool = false ∧
      (call callDepth funded (sellOne 200000000000000000000)).toBool = true :=
  ⟨sellOne_backed, by decide +kernel, by decide +kernel, by decide +kernel⟩

theorem sale_limit_above_value :
    ∃ after, call callDepth funded (sellOne 200000000000000000000) = .ok after ∧
      after.eth 2 = funded.eth 2 + saleValue funded 1000000000000000000 := by
  have reached : Reachable (fun _ _ (_ : Call 70) => True)
      (deploy 70 1 fun _ => 100 * 10 ^ 18) funded := .start
  have limits := sale_limit_iff (by decide) (fun _ => 100 * 10 ^ 18) reached 1023 1 2 (by decide)
    (by decide) 1000000000000000000 200000000000000000000
  obtain ⟨after, returned⟩ := limits.1.mpr ⟨sellOne_backed, by decide +kernel⟩
  exact ⟨after, returned, limits.2.1 after returned⟩

end Doju
