import BlazCtf.Bridge.TokenBooks

set_option autoImplicit false

namespace Bridge

open Evm
open Function (update)
open OpenZeppelin (ERC20)
open OpenZeppelin.ERC20.V4 (Request perform doMint doBurn)

variable {H : Type} {net : Network H} {initial : Address → Contract}
variable {sendable allowed : Address → Prop}

/-- The supply of the `BridgedERC20` that stands for a remote token. -/
def bridgedSupply (s : State H) (remoteToken : Address) : Nat :=
  if s.remoteTokenToLocalToken remoteToken = 0 then 0
  else (s.contracts (s.remoteTokenToLocalToken remoteToken)).supply

/-- The supply of each bridged token is what was minted and not burned, and of
each ordinary token the bridge holds what was locked and not released. -/
structure Backed (net : Network H) (initial : Address → Contract) (s : State H) : Prop where
  absent : ∀ remoteToken, s.remoteTokenToLocalToken remoteToken = 0 → s.minted remoteToken = 0
  supply : ∀ remoteToken,
    bridgedSupply s remoteToken + s.burned remoteToken = s.minted remoteToken
  reserve : ∀ token, (initial token).Standard → (initial token).holding net.this + s.locked token ≤
    (s.contracts token).holding net.this + s.released token

section Backed

variable {s after : State H} {token : Address} {contract : Contract}

theorem bridgedSupply_updated (contracts : after.contracts = update s.contracts token contract)
    (localTokens : after.remoteTokenToLocalToken = s.remoteTokenToLocalToken)
    (same : contract.supply = (s.contracts token).supply) (remoteToken : Address) :
    bridgedSupply after remoteToken = bridgedSupply s remoteToken := by
  unfold bridgedSupply
  rw [localTokens, contracts]
  split
  · rfl
  · by_cases here : s.remoteTokenToLocalToken remoteToken = token
    · rw [here, Function.update_self, same]
    · rw [Function.update_of_ne here]

/-- Two remote tokens do not share a local token. -/
theorem LocalTokens.injective (tokens : LocalTokens s) {remoteToken other : Address}
    {name symbol : String} {ledger : ERC20}
    (held : s.contracts (s.remoteTokenToLocalToken other) = .bridged name symbol ledger remoteToken)
    (known : s.remoteTokenToLocalToken other ≠ 0) : other = remoteToken := by
  obtain ⟨_, _, _, bridged⟩ := tokens other known
  have same := bridged.symm.trans held
  cases same
  rfl

/-- Only the token of one remote token changes its supply. -/
theorem bridgedSupply_other (tokens : LocalTokens s) {remoteToken other : Address}
    {name symbol : String} {ledger : ERC20}
    (held : s.contracts token = .bridged name symbol ledger remoteToken)
    (contracts : after.contracts = update s.contracts token contract)
    (localTokens : after.remoteTokenToLocalToken = s.remoteTokenToLocalToken)
    (distinct : other ≠ remoteToken) : bridgedSupply after other = bridgedSupply s other := by
  unfold bridgedSupply
  rw [localTokens, contracts]
  split
  · rfl
  · rename_i known
    have elsewhere : s.remoteTokenToLocalToken other ≠ token := by
      rintro rfl
      exact distinct (tokens.injective held known)
    rw [Function.update_of_ne elsewhere]

theorem holding_updated (contracts : after.contracts = update s.contracts token contract)
    (other : Address) :
    (after.contracts other).holding net.this =
      if other = token then contract.holding net.this
      else (s.contracts other).holding net.this := by
  rw [contracts, Function.update_apply]
  split <;> rfl

namespace Backed

/-- A change keeps the books if it changes both sides of them alike. -/
theorem changed (backed : Backed net initial s)
    (absent : ∀ remoteToken, after.remoteTokenToLocalToken remoteToken = 0 →
      s.remoteTokenToLocalToken remoteToken = 0 ∧ after.minted remoteToken = s.minted remoteToken)
    (supply : ∀ remoteToken,
      bridgedSupply after remoteToken + after.burned remoteToken + s.minted remoteToken =
        bridgedSupply s remoteToken + s.burned remoteToken + after.minted remoteToken)
    (reserve : ∀ token, (initial token).Standard →
      (s.contracts token).holding net.this + s.released token + after.locked token ≤
        (after.contracts token).holding net.this + after.released token + s.locked token) :
    Backed net initial after where
  absent remoteToken unknown := by
    obtain ⟨before, same⟩ := absent remoteToken unknown
    rw [same]
    exact backed.absent remoteToken before
  supply remoteToken := by
    have before := backed.supply remoteToken
    have change := supply remoteToken
    omega
  reserve token home := by
    have before := backed.reserve token home
    have change := reserve token home
    omega

/-- Neither the contracts nor the amounts change. -/
theorem same (backed : Backed net initial s) (contracts : after.contracts = s.contracts)
    (localTokens : after.remoteTokenToLocalToken = s.remoteTokenToLocalToken)
    (amounts : (after.locked, after.burned, after.minted, after.released) =
      (s.locked, s.burned, s.minted, s.released)) : Backed net initial after := by
  simp only [Prod.mk.injEq] at amounts
  obtain ⟨locked, burned, minted, released⟩ := amounts
  refine backed.changed ?_ ?_ ?_
  · intro remoteToken unknown
    rw [localTokens] at unknown
    exact ⟨unknown, by rw [minted]⟩
  · intro remoteToken
    simp only [bridgedSupply, contracts, localTokens, burned, minted]
  · intro token _
    rw [contracts, locked, released]

/-- Balances of one token change, but not its supply. -/
theorem moved (backed : Backed net initial s) {ledger next : ERC20}
    (held : (s.contracts token).ledger = some ledger)
    (contracts : after.contracts =
      update s.contracts token ((s.contracts token).withLedger next))
    (localTokens : after.remoteTokenToLocalToken = s.remoteTokenToLocalToken)
    (supply : next.totalSupply = ledger.totalSupply)
    (amounts : (after.burned, after.minted) = (s.burned, s.minted))
    (here : ledger.balances net.this + s.released token + after.locked token ≤
      next.balances net.this + after.released token + s.locked token)
    (elsewhere : ∀ other, other ≠ token →
      after.locked other = s.locked other ∧ after.released other = s.released other) :
    Backed net initial after := by
  simp only [Prod.mk.injEq] at amounts
  obtain ⟨burned, minted⟩ := amounts
  have now := Contract.ledger_withLedger held next
  refine backed.changed ?_ ?_ ?_
  · intro remoteToken unknown
    rw [localTokens] at unknown
    exact ⟨unknown, by rw [minted]⟩
  · intro remoteToken
    rw [bridgedSupply_updated contracts localTokens, burned, minted]
    rw [Contract.supply_of_ledger now, Contract.supply_of_ledger held, supply]
  · intro other _
    rw [holding_updated contracts]
    split
    · rename_i same
      subst same
      rw [Contract.holding_of_ledger now, Contract.holding_of_ledger held]
      exact here
    · rename_i distinct
      obtain ⟨locked, released⟩ := elsewhere other distinct
      rw [locked, released]

/-- The supply of one bridged token changes. -/
theorem resupplied (backed : Backed net initial s) (registry : Registry net initial s)
    (tokens : LocalTokens s) {ledger next : ERC20} {name symbol : String} {remoteToken : Address}
    (held : s.contracts token = .bridged name symbol ledger remoteToken)
    (contracts : after.contracts =
      update s.contracts token (.bridged name symbol next remoteToken))
    (localTokens : after.remoteTokenToLocalToken = s.remoteTokenToLocalToken)
    (amounts : (after.locked, after.released) = (s.locked, s.released))
    (here : next.totalSupply + after.burned remoteToken + s.minted remoteToken =
      ledger.totalSupply + s.burned remoteToken + after.minted remoteToken)
    (elsewhere : ∀ other, other ≠ remoteToken →
      after.burned other = s.burned other ∧ after.minted other = s.minted other) :
    Backed net initial after := by
  simp only [Prod.mk.injEq] at amounts
  obtain ⟨locked, released⟩ := amounts
  have became := registry token
  rw [held] at became
  generalize start : initial token = old at became
  cases became with
  | created guarded named listed flagged =>
      refine backed.changed ?_ ?_ ?_
      · intro other unknown
        rw [localTokens] at unknown
        have distinct : other ≠ remoteToken := by
          rintro rfl
          exact named (listed.symm.trans unknown)
        exact ⟨unknown, (elsewhere other distinct).2⟩
      · intro other
        by_cases same : other = remoteToken
        · subst same
          have before : bridgedSupply s other = ledger.totalSupply := by
            rw [bridgedSupply, listed, if_neg named, held]
            rfl
          have afterwards : bridgedSupply after other = next.totalSupply := by
            rw [bridgedSupply, localTokens, listed, if_neg named, contracts, Function.update_self]
            rfl
          omega
        · obtain ⟨burned, minted⟩ := elsewhere other same
          rw [bridgedSupply_other tokens held contracts localTokens same, burned, minted]
      · intro other home
        have distinct : other ≠ token := by
          rintro rfl
          rw [start] at home
          cases home
        rw [holding_updated contracts, if_neg distinct, locked, released]

/-- A new token starts with no supply. -/
theorem created (backed : Backed net initial s) (tokens : LocalTokens s) {remoteToken : Address}
    {name symbol : String} (empty : s.contracts token = .vacant) (named : token ≠ 0)
    (unknown : s.remoteTokenToLocalToken remoteToken = 0)
    (contracts : after.contracts = update s.contracts token
      (.bridged name symbol ⟨fun _ => 0, fun _ _ => 0, 0⟩ remoteToken))
    (localTokens : after.remoteTokenToLocalToken =
      update s.remoteTokenToLocalToken remoteToken token)
    (amounts : (after.locked, after.burned, after.minted, after.released) =
      (s.locked, s.burned, s.minted, s.released)) : Backed net initial after := by
  simp only [Prod.mk.injEq] at amounts
  obtain ⟨locked, burned, minted, released⟩ := amounts
  refine backed.changed ?_ ?_ ?_
  · intro other absent
    have distinct : other ≠ remoteToken := by
      rintro rfl
      rw [localTokens, Function.update_self] at absent
      exact named absent
    rw [localTokens, Function.update_of_ne distinct] at absent
    exact ⟨absent, by rw [minted]⟩
  · intro other
    have same : bridgedSupply after other = bridgedSupply s other := by
      unfold bridgedSupply
      rw [localTokens, contracts]
      by_cases here : other = remoteToken
      · subst here
        rw [Function.update_self, if_neg named, Function.update_self, if_pos unknown]
        rfl
      · rw [Function.update_of_ne here]
        split
        · rfl
        · rename_i known
          have elsewhere : s.remoteTokenToLocalToken other ≠ token := by
            intro there
            obtain ⟨_, _, _, bridged⟩ := tokens other known
            rw [there, empty] at bridged
            cases bridged
          rw [Function.update_of_ne elsewhere]
    rw [same, burned, minted]
  · intro other _
    rw [holding_updated contracts, locked, released]
    split
    · rename_i here
      rw [here, empty]
      exact Nat.le_refl _
    · exact Nat.le_refl _

theorem step (backed : Backed net initial s) (registry : Registry net initial s)
    (tokens : LocalTokens s) (step : Step net allowed s after) : Backed net initial after := by
  have localTokens := step.kept.localTokens
  have minted := step.kept.minted
  have released := step.kept.released
  cases step with
  | forceEth value => exact backed.same rfl rfl rfl
  | request external held done =>
      obtain ⟨_, balance, supply⟩ := ((registry _).guarded held).request external done
      refine backed.moved held rfl rfl supply rfl ?_ (fun _ _ => ⟨rfl, rfl⟩)
      exact Nat.add_le_add_right (Nat.add_le_add_right balance _) _
  | ethOut recipient value => exact backed.same rfl rfl rfl
  | @lock token _ recipient amount ledger next name symbol permitted external plain held done =>
      obtain ⟨_, balance, supply⟩ := ((registry _).guarded held).pull external done
      obtain ⟨locked, burned⟩ := tallies_sentOut net
        { s.setContract token ((s.contracts token).withLedger next) with
          locked := tally s.locked token amount } token recipient amount name symbol
      change _ = tally s.locked token amount at locked
      change _ = s.burned at burned
      refine backed.moved held (contracts_sentOut _ _ _ _ _ _ _) localTokens supply ?_ ?_ ?_
      · rw [burned, minted]
      · rw [locked, released, balance, tally_self]
        omega
      · intro other distinct
        rw [locked, released, tally_of_ne distinct]
        exact ⟨rfl, rfl⟩
  | @lockForeign token recipient amount name symbol permitted code =>
      obtain ⟨locked, burned⟩ := tallies_sentOut net
        { s with locked := tally s.locked token amount } token recipient amount name symbol
      have contracts := contracts_sentOut net
        { s with locked := tally s.locked token amount } token recipient amount name symbol
      change _ = tally s.locked token amount at locked
      change _ = s.burned at burned
      refine backed.changed ?_ ?_ ?_
      · intro remoteToken unknown
        rw [localTokens] at unknown
        exact ⟨unknown, by rw [minted]⟩
      · intro remoteToken
        simp only [bridgedSupply, contracts, localTokens, burned, minted]
      · intro other home
        have distinct : other ≠ token := by
          rintro rfl
          obtain ⟨_, _, _, standard⟩ := (registry other).standard_of_standard home
          rw [code] at standard
          cases standard
        rw [contracts, locked, released, tally_of_ne distinct]
  | burn recipient flagged held done =>
      obtain ⟨_, supply⟩ := ((registry _).guarded (congrArg Contract.ledger held)).burn done
      refine backed.resupplied registry tokens held rfl rfl rfl ?_ ?_
      · change _ + tally s.burned _ _ _ + s.minted _ = _ + s.burned _ + s.minted _
        rw [tally_self]
        omega
      · exact fun other distinct => ⟨tally_of_ne distinct _ _, rfl⟩

theorem received [DecidableEq H] {packet : Packet} (backed : Backed net initial s)
    (registry : Registry net initial s) (tokens : LocalTokens s)
    (effect : Received net packet s after) : Backed net initial after := by
  cases effect with
  | ethIn named funded => exact backed.same rfl rfl rfl
  | registered named known => exact backed.same rfl rfl rfl
  | created named unknown other empty =>
      exact backed.created tokens empty (net.newToken_ne_zero _) unknown rfl rfl rfl
  | minted named known held done =>
      obtain ⟨_, supply⟩ := ((registry _).guarded (congrArg Contract.ledger held)).mint done
      have same := tokens.injective held known
      subst same
      refine backed.resupplied registry tokens held rfl rfl rfl ?_ ?_
      · change _ + s.burned _ + s.minted _ = _ + s.burned _ + tally s.minted _ _ _
        rw [tally_self]
        omega
      · exact fun other distinct => ⟨rfl, tally_of_ne distinct _ _⟩
  | released named unknown other held done =>
      obtain ⟨_, balance, supply⟩ := ((registry _).guarded held).pay done
      refine backed.moved held rfl rfl supply rfl ?_ ?_
      · change _ + s.released _ + s.locked _ ≤ _ + tally s.released _ _ _ + s.locked _
        rw [tally_self]
        omega
      · exact fun other distinct => ⟨rfl, tally_of_ne distinct _ _⟩
  | @releasedForeign token _ amount named unknown runs =>
      refine backed.changed (fun _ unknown => ⟨unknown, rfl⟩) (fun _ => rfl) ?_
      intro other home
      change _ + s.released other + s.locked other ≤
        _ + tally s.released token amount other + s.locked other
      have more : s.released other ≤ tally s.released token amount other := by
        rw [tally_apply]
        exact Nat.le_add_right _ _
      exact Nat.add_le_add_right (Nat.add_le_add_left more _) _

end Backed

end Backed

end Bridge
