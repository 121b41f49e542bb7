import BlazCtf.CyberCartel.BodyGuard
import Mathlib.Data.Fintype.Card
import Mathlib.Data.List.Nodup

set_option autoImplicit false

namespace CyberCartel

open Evm

namespace BodyGuard

/-- What calls of `propose` do to the contract: only `lastNonce` moves, it moves
past each executed nonce, and these come in increasing order. -/
structure Advances (guard after : BodyGuard) (executed : List Proposal) : Prop where
  onlyNonce : after = { guard with lastNonce := after.lastNonce }
  grows : guard.lastNonce ≤ after.lastNonce
  increasing : executed.Pairwise fun earlier later => earlier.nonce < later.nonce
  fresh : ∀ proposal ∈ executed, guard.lastNonce < proposal.nonce
  passed : ∀ proposal ∈ executed, proposal.nonce ≤ after.lastNonce

theorem Advances.refl (guard : BodyGuard) : Advances guard guard [] where
  onlyNonce := rfl
  grows := Nat.le_refl _
  increasing := List.Pairwise.nil
  fresh := by simp
  passed := by simp

theorem Advances.trans {guard middle after : BodyGuard} {executed later : List Proposal}
    (first : Advances guard middle executed) (second : Advances middle after later) :
    Advances guard after (executed ++ later) where
  onlyNonce := by
    rw [second.onlyNonce, first.onlyNonce]
  grows := Nat.le_trans first.grows second.grows
  increasing := by
    apply List.pairwise_append.mpr
    refine ⟨first.increasing, second.increasing, ?_⟩
    intro proposal isFirst other isLater
    exact Nat.lt_of_le_of_lt (first.passed proposal isFirst) (second.fresh other isLater)
  fresh := by
    intro proposal member
    rcases List.mem_append.mp member with isFirst | isLater
    · exact first.fresh proposal isFirst
    · exact Nat.lt_of_le_of_lt first.grows (second.fresh proposal isLater)
  passed := by
    intro proposal member
    rcases List.mem_append.mp member with isFirst | isLater
    · exact Nat.le_trans (first.passed proposal isFirst) second.grows
    · exact second.passed proposal isLater

section Calls

variable {H : Type} [LinearOrder H] (crypto : Crypto H)

/-- What `propose` has checked when it calls the treasury. -/
theorem authorise_ok_iff {guard after : BodyGuard} {msgSender : Address} {timestamp : Nat}
    {proposal : Proposal} {signatures : List Signature} :
    authorise crypto guard msgSender timestamp proposal signatures = .ok after ↔
      proposal.expiredAt > timestamp ∧ proposal.nonce > guard.lastNonce ∧
      (∃ minVotes, guard.votesNeeded msgSender = .ok minVotes ∧ minVotes ≤ signatures.length) ∧
      validateSignatures crypto guard (hashProposal crypto guard proposal) signatures = .ok true ∧
      { guard with lastNonce := proposal.nonce } = after := by
  simp only [authorise, bind_ok_iff, require_ok_iff, pure_ok_iff]
  constructor
  · rintro ⟨_, timely, _, newer, minVotes, needed, _, enough, _, valid, _, rfl, same⟩
    exact ⟨timely, newer, ⟨minVotes, needed, enough⟩, valid, same⟩
  · rintro ⟨timely, newer, ⟨minVotes, needed, enough⟩, valid, same⟩
    exact ⟨(), timely, (), newer, minVotes, needed, (), enough, true, valid, (), rfl, same⟩

theorem authorise_advances {guard after : BodyGuard} {msgSender : Address} {timestamp : Nat}
    {proposal : Proposal} {signatures : List Signature}
    (success : authorise crypto guard msgSender timestamp proposal signatures = .ok after) :
    Advances guard after [proposal] := by
  obtain ⟨-, newer, -, -, rfl⟩ := (authorise_ok_iff crypto).mp success
  have older : guard.lastNonce < proposal.nonce := newer
  exact {
    onlyNonce := rfl
    grows := Nat.le_of_lt older
    increasing := List.pairwise_singleton _ _
    fresh := by
      intro other member
      rw [List.mem_singleton.mp member]
      exact older
    passed := by
      intro other member
      rw [List.mem_singleton.mp member] }

/-- A proposal executes where it is authorised and its treasury call, with all
that is called inside, returns. -/
theorem propose_ok_iff {guard after : BodyGuard} {msgSender : Address} {timestamp : Nat}
    {proposal : Proposal} {signatures : List Signature} {nested : List Attempt} {success : Bool}
    {executed : List Proposal} :
    propose crypto guard (.propose msgSender timestamp proposal signatures nested success) =
        .ok (after, executed) ↔
      ∃ authorised, authorise crypto guard msgSender timestamp proposal signatures =
          .ok authorised ∧ success = true ∧
        ((proposeAll crypto authorised nested).1,
          proposal :: (proposeAll crypto authorised nested).2) = (after, executed) := by
  simp only [propose, bind_ok_iff, require_ok_iff, pure_ok_iff]
  constructor
  · rintro ⟨authorised, accepted, _, done, same⟩
    exact ⟨authorised, accepted, done, same⟩
  · rintro ⟨authorised, accepted, done, same⟩
    exact ⟨authorised, accepted, (), done, same⟩

theorem proposeAll_cons_ok {guard after : BodyGuard} {attempt : Attempt}
    {executed : List Proposal} (success : propose crypto guard attempt = .ok (after, executed))
    (rest : List Attempt) :
    proposeAll crypto guard (attempt :: rest) =
      ((proposeAll crypto after rest).1, executed ++ (proposeAll crypto after rest).2) := by
  rw [proposeAll, success]

theorem proposeAll_cons_error {guard : BodyGuard} {attempt : Attempt} {reason : Revert}
    (failed : propose crypto guard attempt = .error reason) (rest : List Attempt) :
    proposeAll crypto guard (attempt :: rest) = proposeAll crypto guard rest := by
  rw [proposeAll, failed]

mutual

theorem propose_advances {guard after : BodyGuard} {executed : List Proposal} :
    ∀ attempt, propose crypto guard attempt = .ok (after, executed) →
      Advances guard after executed
  | .propose msgSender timestamp proposal signatures nested success => by
      intro returned
      obtain ⟨authorised, accepted, -, same⟩ := (propose_ok_iff crypto).mp returned
      obtain ⟨rfl, rfl⟩ := Prod.mk.inj same
      -- the nonce is stored before the treasury is called, so calls inside build on it
      exact (authorise_advances crypto accepted).trans (proposeAll_advances nested)

theorem proposeAll_advances {guard : BodyGuard} : ∀ attempts,
    Advances guard (proposeAll crypto guard attempts).1 (proposeAll crypto guard attempts).2
  | [] => by
      rw [proposeAll]
      exact Advances.refl guard
  | attempt :: rest => by
      cases result : propose crypto guard attempt with
      | error reason =>
          rw [proposeAll_cons_error crypto result]
          exact proposeAll_advances rest
      | ok next =>
          rw [proposeAll_cons_ok crypto result]
          exact (propose_advances attempt result).trans (proposeAll_advances rest)

end

/-- A nonce that is not above `lastNonce` is refused. -/
theorem propose_fails_of_used {guard : BodyGuard} (attempt : Attempt)
    (used : attempt.proposal.nonce ≤ guard.lastNonce) :
    ∃ reason, propose crypto guard attempt = .error reason := by
  cases result : propose crypto guard attempt with
  | error reason => exact ⟨reason, rfl⟩
  | ok next =>
      obtain ⟨msgSender, timestamp, proposal, signatures, nested, success⟩ := attempt
      obtain ⟨authorised, accepted, -, -⟩ := (propose_ok_iff crypto).mp result
      obtain ⟨-, newer, -⟩ := (authorise_ok_iff crypto).mp accepted
      exact absurd used (Nat.not_le_of_gt newer)

/-- A treasury call that fails takes the whole proposal with it. -/
theorem propose_fails_of_treasury {guard : BodyGuard} {msgSender : Address} {timestamp : Nat}
    {proposal : Proposal} {signatures : List Signature} {nested : List Attempt} :
    ∃ reason, propose crypto guard
      (.propose msgSender timestamp proposal signatures nested false) = .error reason := by
  cases result : propose crypto guard
      (.propose msgSender timestamp proposal signatures nested false) with
  | error reason => exact ⟨reason, rfl⟩
  | ok next =>
      obtain ⟨authorised, -, done, -⟩ := (propose_ok_iff crypto).mp result
      cases done

end Calls

/-- Increasing nonces above zero are at most 255 many. -/
theorem Advances.length_le {treasury : Address} {guardians : List Address} {after : BodyGuard}
    {executed : List Proposal} (advances : Advances (deploy treasury guardians) after executed) :
    executed.length ≤ 255 := by
  have distinct : (executed.map Proposal.nonce).Nodup := by
    apply List.pairwise_map.mpr
    apply advances.increasing.imp
    intro earlier later below
    exact Fin.ne_of_lt below
  have zeroUnused : (0 : Fin (2 ^ 8)) ∉ executed.map Proposal.nonce := by
    intro member
    obtain ⟨proposal, isExecuted, isZero⟩ := List.mem_map.mp member
    have positive := advances.fresh proposal isExecuted
    rw [isZero] at positive
    exact absurd positive (Nat.lt_irrefl _)
  have bound := (List.nodup_cons.mpr ⟨zeroUnused, distinct⟩).length_le_card
  simp only [List.length_cons, List.length_map, Fintype.card_fin] at bound
  omega

theorem fits_of_bits {width bits : Nat} (octets : bits = 8 * width) (value : Fin (2 ^ bits)) :
    (value : Nat) < 256 ^ width := by
  subst octets
  calc (value : Nat) < 2 ^ (8 * width) := value.isLt
    _ = 256 ^ width := by rw [Nat.pow_mul]

/-- The packed encoding tells all four fields apart: two fields of fixed width
stand before `data` and three after it. -/
theorem packProposal_injective (treasury : Address) :
    Function.Injective (packProposal treasury) := by
  intro first second same
  obtain ⟨expiry, afterExpiry⟩ := List.append_inj same (by simp)
  obtain ⟨gas, afterGas⟩ := List.append_inj afterExpiry (by simp)
  obtain ⟨data, afterData⟩ := List.append_inj' afterGas (by simp)
  obtain ⟨nonce, -⟩ := List.append_inj afterData (by simp)
  have sameExpiry := Bytes.toBE_inj (fits_of_bits rfl _) (fits_of_bits rfl _) expiry
  have sameGas := Bytes.toBE_inj (fits_of_bits rfl _) (fits_of_bits rfl _) gas
  have sameNonce := Bytes.toBE_inj (fits_of_bits rfl _) (fits_of_bits rfl _) nonce
  cases first with
  | mk expiredAt gasLimit number payload =>
      cases second with
      | mk otherExpiredAt otherGasLimit otherNumber otherPayload =>
          rw [Proposal.mk.injEq]
          exact ⟨Fin.ext sameExpiry, Fin.ext sameGas, Fin.ext sameNonce, data⟩

section Replay

variable {H : Type} [LinearOrder H]

/-- In every run of a deployed guard, calls inside treasury calls included: nonces
of executed proposals increase, at most 255 execute, a failed call leaves no trace,
a digest belongs to one proposal only, and one whose digest has been executed is
refused from then on. -/
theorem proposals_execute_at_most_once (crypto : Crypto H)
    (collisionFree : Function.Injective crypto.keccak256) (treasury : Address)
    (guardians : List Address) (attempts : List Attempt) (final : BodyGuard)
    (executed : List Proposal)
    (ran : proposeAll crypto (deploy treasury guardians) attempts = (final, executed)) :
    executed.Pairwise (fun earlier later => earlier.nonce < later.nonce) ∧
      executed.length ≤ 255 ∧
      (∀ guard attempt reason, propose crypto guard attempt = .error reason →
        ∀ rest, proposeAll crypto guard (attempt :: rest) = proposeAll crypto guard rest) ∧
      (∀ guard msgSender timestamp proposal signatures nested, ∃ reason, propose crypto guard
        (.propose msgSender timestamp proposal signatures nested false) = .error reason) ∧
      (∀ guard, Function.Injective (hashProposal crypto guard)) ∧
      (executed.map (hashProposal crypto final)).Nodup ∧
      ∀ attempt, hashProposal crypto final attempt.proposal ∈
          executed.map (hashProposal crypto final) →
        ∃ reason, propose crypto final attempt = .error reason := by
  have advances : Advances (deploy treasury guardians) final executed := by
    have whole : Advances (deploy treasury guardians)
        (proposeAll crypto (deploy treasury guardians) attempts).1
        (proposeAll crypto (deploy treasury guardians) attempts).2 :=
      proposeAll_advances crypto attempts
    rw [ran] at whole
    exact whole
  have digests : ∀ guard, Function.Injective (hashProposal crypto guard) := by
    intro guard
    exact collisionFree.comp (packProposal_injective guard.treasury)
  refine ⟨advances.increasing, advances.length_le, ?_, ?_, digests, ?_, ?_⟩
  · intro guard attempt reason failed rest
    exact proposeAll_cons_error crypto failed rest
  · intro guard msgSender timestamp proposal signatures nested
    exact propose_fails_of_treasury crypto
  · apply List.Nodup.map (digests final)
    apply advances.increasing.imp
    intro earlier later below same
    rw [same] at below
    exact absurd below (Nat.lt_irrefl _)
  · intro attempt member
    obtain ⟨proposal, isExecuted, same⟩ := List.mem_map.mp member
    apply propose_fails_of_used crypto
    rw [← digests final same]
    exact advances.passed proposal isExecuted

end Replay

/-- A collision-free hash on numbers, and signatures whose `r` names the signer. -/
def sampleCrypto : Crypto Nat where
  zero := 0
  keccak256 := fun bytes => Bytes.ofBE (1 :: bytes)
  ecrecover := fun _ v r _ => if v = 27 ∨ v = 28 then Fin.ofNat _ r else 0

/-- A proposal of the only guardian, which needs no signature. -/
def soleGuardianAttempt : Attempt :=
  .propose 1 0 { expiredAt := 60, gas := 21000, nonce := 5, data := [0x63] } [] [] true

theorem soleGuardian_executes_once :
    proposeAll sampleCrypto (deploy 9 [1]) [soleGuardianAttempt, soleGuardianAttempt] =
        ({ deploy 9 [1] with lastNonce := 5 }, [soleGuardianAttempt.proposal]) ∧
      ∃ reason, propose sampleCrypto { deploy 9 [1] with lastNonce := 5 } soleGuardianAttempt =
        .error reason := by
  have once : proposeAll sampleCrypto (deploy 9 [1]) [soleGuardianAttempt, soleGuardianAttempt] =
      ({ deploy 9 [1] with lastNonce := 5 }, [soleGuardianAttempt.proposal]) := rfl
  refine ⟨once, ?_⟩
  have refused := (proposals_execute_at_most_once sampleCrypto Bytes.ofBE_one_cons_injective 9 [1]
    [soleGuardianAttempt, soleGuardianAttempt] _ _ once).2.2.2.2.2.2
  exact refused soleGuardianAttempt List.mem_cons_self

end BodyGuard

end CyberCartel
