import BlazCtf.CyberCartel.Nonces
import Mathlib.Data.Finset.Card

set_option autoImplicit false

namespace CyberCartel

open Evm

namespace BodyGuard

/-- As many guardians as the constructor was given approve: each of them makes
the call or has signed. -/
def Quorum (guardians : List Address) (msgSender : Address) (signed : Address → Prop) : Prop :=
  ∃ approvers : Finset Address, guardians.length ≤ approvers.card ∧
    ∀ account ∈ approvers, account ∈ guardians ∧ (account = msgSender ∨ signed account)

section Votes

variable {H : Type} (crypto : Crypto H)

/-- Each account that `ecrecover` names for one of these signatures made it; zero
is its way to name none. -/
def MadeBy (digest : H) (signatures : List Signature) (signed : Address → Prop) : Prop :=
  ∀ signature ∈ signatures, recoverSigner crypto digest signature ≠ 0 →
    signed (recoverSigner crypto digest signature)

/-- The vote that the sender of the call has without a signature. -/
def senderVote (guardians : List Address) (msgSender : Address) : Finset Address :=
  if msgSender ∈ guardians then {msgSender} else ∅

/-- How many signatures add no vote: those without a signer, and those of accounts
that are already counted. -/
def idleVotes (counted : Finset Address) : List Address → Nat
  | [] => 0
  | signer :: rest =>
      if signer = 0 ∨ signer ∈ counted then idleVotes counted rest + 1
      else idleVotes (insert signer counted) rest

/-- The accounts counted after the signatures. -/
def voters (counted : Finset Address) : List Address → Finset Address
  | [] => counted
  | signer :: rest =>
      if signer = 0 ∨ signer ∈ counted then voters counted rest
      else voters (insert signer counted) rest

theorem card_voters (counted : Finset Address) (signers : List Address) :
    (voters counted signers).card + idleVotes counted signers = counted.card + signers.length := by
  induction signers generalizing counted with
  | nil => rfl
  | cons signer rest ih =>
      rw [voters, idleVotes, List.length_cons]
      split
      · have counts := ih counted
        omega
      · rename_i adds
        have fresh : signer ∉ counted := fun member => adds (Or.inr member)
        have counts := ih (insert signer counted)
        rw [Finset.card_insert_of_notMem fresh] at counts
        omega

theorem mem_voters {counted : Finset Address} {signers : List Address} {account : Address} :
    account ∈ voters counted signers ↔ account ∈ counted ∨ account ≠ 0 ∧ account ∈ signers := by
  induction signers generalizing counted with
  | nil => simp [voters]
  | cons signer rest ih =>
      rw [voters, List.mem_cons]
      split
      · rename_i idle
        rw [ih]
        constructor
        · rintro (before | ⟨isAccount, later⟩)
          · exact Or.inl before
          · exact Or.inr ⟨isAccount, Or.inr later⟩
        · rintro (before | ⟨isAccount, rfl | later⟩)
          · exact Or.inl before
          · exact Or.inl (idle.resolve_left isAccount)
          · exact Or.inr ⟨isAccount, later⟩
      · rename_i adds
        have isAccount : signer ≠ 0 := fun zero => adds (Or.inl zero)
        rw [ih, Finset.mem_insert]
        constructor
        · rintro ((rfl | before) | ⟨nonzero, later⟩)
          · exact Or.inr ⟨isAccount, Or.inl rfl⟩
          · exact Or.inl before
          · exact Or.inr ⟨nonzero, Or.inr later⟩
        · rintro (before | ⟨nonzero, rfl | later⟩)
          · exact Or.inl (Or.inr before)
          · exact Or.inl (Or.inl rfl)
          · exact Or.inr ⟨nonzero, later⟩

theorem idleVotes_eq_zero_iff {counted : Finset Address} {signers : List Address} :
    idleVotes counted signers = 0 ↔
      signers.Nodup ∧ 0 ∉ signers ∧ ∀ signer ∈ signers, signer ∉ counted := by
  induction signers generalizing counted with
  | nil => simp [idleVotes]
  | cons signer rest ih =>
      rw [idleVotes, List.nodup_cons, List.mem_cons, List.forall_mem_cons]
      split
      · rename_i idle
        refine ⟨fun none => absurd none (Nat.succ_ne_zero _), ?_⟩
        rintro ⟨-, nonzero, fresh, -⟩
        rcases idle with rfl | before
        · exact absurd (Or.inl rfl) nonzero
        · exact absurd before fresh
      · rename_i adds
        have isAccount : signer ≠ 0 := fun zero => adds (Or.inl zero)
        have fresh : signer ∉ counted := fun before => adds (Or.inr before)
        rw [ih]
        constructor
        · rintro ⟨distinct, nonzero, uncounted⟩
          refine ⟨⟨?_, distinct⟩, ?_, fresh, ?_⟩
          · exact fun again => uncounted signer again (Finset.mem_insert_self _ _)
          · rintro (zero | later)
            · exact isAccount zero.symm
            · exact nonzero later
          · exact fun other later before =>
              uncounted other later (Finset.mem_insert_of_mem before)
        · rintro ⟨⟨once, distinct⟩, nonzero, -, uncounted⟩
          refine ⟨distinct, fun later => nonzero (Or.inr later), ?_⟩
          intro other later before
          rcases Finset.mem_insert.mp before with rfl | earlier
          · exact once later
          · exact uncounted other later earlier

variable [LinearOrder H]

/-- Whatever order the hashes have, each recovered signer was checked. -/
theorem validateFrom_guardians {guard : BodyGuard} {digest lastSignHash : H}
    {signatures : List Signature}
    (valid : validateFrom crypto guard digest lastSignHash signatures = .ok true) :
    ∀ signature ∈ signatures, guard.guardians (recoverSigner crypto digest signature) = true := by
  induction signatures generalizing lastSignHash with
  | nil => simp
  | cons signature rest ih =>
      simp only [validateFrom, bind_ok_iff, require_ok_iff] at valid
      obtain ⟨-, isGuardian, loop⟩ := valid
      split at loop
      · cases loop
      · intro other member
        rcases List.mem_cons.mp member with rfl | later
        · exact isGuardian
        · exact ih loop other later

/-- The loop lets a list pass only where the hashes of its byte strings increase. -/
theorem validateFrom_increasing {guard : BodyGuard} {digest lastSignHash : H}
    {signatures : List Signature}
    (valid : validateFrom crypto guard digest lastSignHash signatures = .ok true) :
    (∀ signature ∈ signatures, lastSignHash < crypto.keccak256 signature.bytes) ∧
      signatures.Pairwise fun signature later =>
        crypto.keccak256 signature.bytes < crypto.keccak256 later.bytes := by
  induction signatures generalizing lastSignHash with
  | nil => exact ⟨by simp, List.Pairwise.nil⟩
  | cons signature rest ih =>
      simp only [validateFrom, bind_ok_iff, require_ok_iff] at valid
      obtain ⟨-, -, loop⟩ := valid
      split at loop
      · cases loop
      · rename_i above
        have greater := lt_of_not_ge above
        obtain ⟨beyond, increasing⟩ := ih loop
        refine ⟨?_, List.pairwise_cons.mpr ⟨beyond, increasing⟩⟩
        exact List.forall_mem_cons.mpr
          ⟨greater, fun later member => greater.trans (beyond later member)⟩

/-- None of the ways in which one of these signatures counts without a guardian of its
own: a list whose length does not fit a `uint8`, no signer, a signature of the sender,
and a signer with two byte strings, which have two hashes. -/
structure CountedOnce (digest : H) (guardians : List Address) (msgSender : Address)
    (signatures : List Signature) : Prop where
  few : guardians.length ≤ 255
  nonzero : ∀ signature ∈ signatures, recoverSigner crypto digest signature ≠ 0
  others : ∀ signature ∈ signatures, recoverSigner crypto digest signature ≠ msgSender
  oneForm : ∀ signature ∈ signatures, ∀ other ∈ signatures,
    recoverSigner crypto digest signature = recoverSigner crypto digest other →
      signature.bytes = other.bytes

/-- Where each signer has one byte string, the order of the hashes does keep the
signers apart. -/
theorem CountedOnce.signers_nodup {guard : BodyGuard} {digest lastSignHash : H}
    {guardians : List Address} {msgSender : Address} {signatures : List Signature}
    (once : CountedOnce crypto digest guardians msgSender signatures)
    (valid : validateFrom crypto guard digest lastSignHash signatures = .ok true) :
    (signatures.map (recoverSigner crypto digest)).Nodup := by
  obtain ⟨-, increasing⟩ := validateFrom_increasing crypto valid
  apply List.pairwise_map.mpr
  apply List.Pairwise.imp_of_mem _ increasing
  intro signature later member laterMember less same
  rw [once.oneForm signature member later laterMember same] at less
  exact lt_irrefl _ less

section Reached

variable {treasury : Address} {guardians : List Address} {lastNonce : Fin (2 ^ 8)}
  {msgSender : Address} {timestamp : Nat} {proposal : Proposal} {signatures : List Signature}
  {guard after : BodyGuard}

/-- In every world in which the signatures have been made, the guardians of the list
approve the proposal. -/
def Approved (digest : H) (guardians : List Address) (msgSender : Address)
    (signatures : List Signature) : Prop :=
  ∀ signed, MadeBy crypto digest signatures signed → Quorum guardians msgSender signed

/-- A call that reaches the treasury has a quorum exactly when the signatures that
add no vote are covered by signatures beyond the number of guardians. -/
theorem approved_iff_idle_votes_covered
    (deployed : guard = { deploy treasury guardians with lastNonce := lastNonce })
    (reached : authorise crypto guard msgSender timestamp proposal signatures = .ok after) :
    Approved crypto (hashProposal crypto guard proposal) guardians msgSender signatures ↔
      guardians.length + idleVotes (senderVote guardians msgSender)
          (signatures.map (recoverSigner crypto (hashProposal crypto guard proposal))) ≤
        (senderVote guardians msgSender).card + signatures.length := by
  have isGuardian : ∀ account, guard.guardians account = true ↔ account ∈ guardians := by
    intro account
    rw [deployed]
    exact decide_eq_true_iff
  obtain ⟨-, -, -, valid, -⟩ := (authorise_ok_iff crypto).mp reached
  have checked := validateFrom_guardians crypto valid
  have counts := card_voters (senderVote guardians msgSender)
    (signatures.map (recoverSigner crypto (hashProposal crypto guard proposal)))
  rw [List.length_map] at counts
  constructor
  · intro approved
    -- the record that holds nothing but the presented signatures
    obtain ⟨approvers, enough, approve⟩ := approved
      (fun account => account ≠ 0 ∧ account ∈
        signatures.map (recoverSigner crypto (hashProposal crypto guard proposal)))
      (fun signature member nonzero => ⟨nonzero, List.mem_map_of_mem member⟩)
    have within : approvers ⊆ voters (senderVote guardians msgSender)
        (signatures.map (recoverSigner crypto (hashProposal crypto guard proposal))) := by
      intro account member
      apply mem_voters.mpr
      obtain ⟨listed, rfl | signs⟩ := approve account member
      · apply Or.inl
        rw [senderVote, if_pos listed]
        exact Finset.mem_singleton_self _
      · exact Or.inr signs
    have size := Finset.card_le_card within
    omega
  · intro covered signed madeBy
    refine ⟨voters (senderVote guardians msgSender)
      (signatures.map (recoverSigner crypto (hashProposal crypto guard proposal))),
      by omega, ?_⟩
    intro account member
    rcases mem_voters.mp member with sends | ⟨nonzero, signs⟩
    · unfold senderVote at sends
      split at sends
      · rename_i listed
        have isSender := Finset.mem_singleton.mp sends
        subst isSender
        exact ⟨listed, Or.inl rfl⟩
      · simp at sends
    · obtain ⟨signature, presented, rfl⟩ := List.mem_map.mp signs
      exact ⟨(isGuardian _).mp (checked signature presented),
        Or.inr (madeBy signature presented nonzero)⟩

/-- The signatures and the vote of the sender are as many as the length of the list in a
`uint8`. -/
theorem votesNeeded_add_senderVote {votes : Nat}
    (deployed : guard = { deploy treasury guardians with lastNonce := lastNonce })
    (needed : guard.votesNeeded msgSender = .ok votes) :
    votes + (senderVote guardians msgSender).card = guardians.length % 2 ^ 8 := by
  have asks : guard.guardians msgSender = decide (msgSender ∈ guardians) := by
    rw [deployed]
    rfl
  have listed : guard.minVotes = guardians.length % 2 ^ 8 := by
    rw [deployed]
    rfl
  unfold votesNeeded at needed
  rw [asks, listed] at needed
  by_cases isGuardian : msgSender ∈ guardians
  · rw [if_pos (decide_eq_true isGuardian)] at needed
    obtain ⟨less, rfl⟩ := checkedSub_ok_iff.mp needed
    rw [senderVote, if_pos isGuardian, Finset.card_singleton]
    omega
  · rw [if_neg (by simpa using isGuardian)] at needed
    rw [senderVote, if_neg isGuardian, Finset.card_empty, Nat.add_zero]
    exact (pure_ok_iff.mp needed).symm

theorem senderVote_mem_iff {account : Address} :
    account ∈ senderVote guardians msgSender ↔ account = msgSender ∧ msgSender ∈ guardians := by
  unfold senderVote
  split
  · rename_i listed
    simp [listed]
  · rename_i unlisted
    simp [unlisted]

/-- Up to 255 guardians, a call that reaches the treasury has enough votes for the
quorum where its signers are distinct, none is zero and none sends the call. -/
theorem votes_cover_distinct_signers {signers : List Address}
    (deployed : guard = { deploy treasury guardians with lastNonce := lastNonce })
    (reached : authorise crypto guard msgSender timestamp proposal signatures = .ok after)
    (few : guardians.length ≤ 255) (distinct : signers.Nodup) (nonzero : 0 ∉ signers)
    (others : msgSender ∉ signers) :
    guardians.length + idleVotes (senderVote guardians msgSender) signers ≤
      (senderVote guardians msgSender).card + signatures.length := by
  obtain ⟨-, -, ⟨minVotes, needed, enough⟩, -⟩ := (authorise_ok_iff crypto).mp reached
  have votes := votesNeeded_add_senderVote deployed needed
  rw [Nat.mod_eq_of_lt (by omega)] at votes
  have noneIdle : idleVotes (senderVote guardians msgSender) signers = 0 := by
    refine idleVotes_eq_zero_iff.mpr ⟨distinct, nonzero, ?_⟩
    rintro signer member counted
    rw [(senderVote_mem_iff.mp counted).1] at member
    exact others member
  rw [noneIdle]
  omega

/-- A call that reaches the treasury has its quorum where every signature counts once;
where it presents no more signatures than `propose` asks for, only there. -/
theorem quorum_iff_counted_once
    (deployed : guard = { deploy treasury guardians with lastNonce := lastNonce })
    (reached : authorise crypto guard msgSender timestamp proposal signatures = .ok after) :
    let digest := hashProposal crypto guard proposal
    (CountedOnce crypto digest guardians msgSender signatures →
        Approved crypto digest guardians msgSender signatures) ∧
      (guard.votesNeeded msgSender = .ok signatures.length →
        (Approved crypto digest guardians msgSender signatures ↔
          CountedOnce crypto digest guardians msgSender signatures)) := by
  intro digest
  obtain ⟨-, -, -, valid, -⟩ := (authorise_ok_iff crypto).mp reached
  have counts : Approved crypto digest guardians msgSender signatures ↔
      guardians.length + idleVotes (senderVote guardians msgSender)
          (signatures.map (recoverSigner crypto digest)) ≤
        (senderVote guardians msgSender).card + signatures.length :=
    approved_iff_idle_votes_covered crypto deployed reached
  have enough : CountedOnce crypto digest guardians msgSender signatures →
      Approved crypto digest guardians msgSender signatures := by
    intro once
    have distinct := once.signers_nodup crypto valid
    have nonzero : 0 ∉ signatures.map (recoverSigner crypto digest) := by
      intro member
      obtain ⟨signature, presented, zero⟩ := List.mem_map.mp member
      exact once.nonzero signature presented zero
    have others : msgSender ∉ signatures.map (recoverSigner crypto digest) := by
      intro member
      obtain ⟨signature, presented, sends⟩ := List.mem_map.mp member
      exact once.others signature presented sends
    exact counts.mpr
      (votes_cover_distinct_signers crypto deployed reached once.few distinct nonzero others)
  refine ⟨enough, fun needed => ⟨fun approved => ?_, enough⟩⟩
  -- no signature is left over, so none of them is idle and the cast has lost nothing
  have covered := counts.mp approved
  have votes := votesNeeded_add_senderVote deployed needed
  have truncated : guardians.length % 2 ^ 8 ≤ guardians.length := Nat.mod_le _ _
  have cast : guardians.length % 2 ^ 8 < 2 ^ 8 := Nat.mod_lt _ (by decide)
  have noneIdle : idleVotes (senderVote guardians msgSender)
      (signatures.map (recoverSigner crypto digest)) = 0 := by
    omega
  obtain ⟨distinct, nonzero, uncounted⟩ := idleVotes_eq_zero_iff.mp noneIdle
  refine ⟨by omega, ?_, ?_, ?_⟩
  · intro signature presented zero
    exact nonzero (List.mem_map.mpr ⟨signature, presented, zero⟩)
  · intro signature presented sends
    have checked := validateFrom_guardians crypto valid signature presented
    apply uncounted _ (List.mem_map_of_mem presented)
    rw [sends] at checked ⊢
    rw [deployed] at checked
    exact senderVote_mem_iff.mpr ⟨rfl, of_decide_eq_true checked⟩
  · intro signature presented other otherPresented same
    rw [List.inj_on_of_nodup_map distinct presented otherPresented same]

end Reached

end Votes

/-- A signature of the account whose number is its `r`, with bytes behind it. -/
def sampleSignature (signer : Nat) (trailing : List UInt8) : Signature where
  bytes := Bytes.toBE 32 signer ++ (Bytes.toBE 32 0 ++ (27 :: trailing))
  beyond := fun _ => 0

def sampleProposal : Proposal where
  expiredAt := 60
  gas := 21000
  nonce := 5
  data := [0x63, 0x1b, 0xaf, 0x4f]

/-- A stranger hands in the signatures of both guardians, no more than are asked for. -/
theorem two_signers_reach_quorum :
    authorise sampleCrypto (deploy 9 [1, 2]) 7 0 sampleProposal
        [sampleSignature 1 [], sampleSignature 2 []] =
          .ok { deploy 9 [1, 2] with lastNonce := 5 } ∧
      (deploy 9 [1, 2]).votesNeeded 7 = .ok 2 ∧
      CountedOnce sampleCrypto (hashProposal sampleCrypto (deploy 9 [1, 2]) sampleProposal)
        [1, 2] 7 [sampleSignature 1 [], sampleSignature 2 []] ∧
      Approved sampleCrypto (hashProposal sampleCrypto (deploy 9 [1, 2]) sampleProposal)
        [1, 2] 7 [sampleSignature 1 [], sampleSignature 2 []] := by
  have reached : authorise sampleCrypto (deploy 9 [1, 2]) 7 0 sampleProposal
      [sampleSignature 1 [], sampleSignature 2 []] =
        .ok { deploy 9 [1, 2] with lastNonce := 5 } := by
    rw [authorise_ok_iff]
    refine ⟨by decide, by decide, ⟨2, rfl, by decide⟩, by decide +kernel, rfl⟩
  have once : CountedOnce sampleCrypto
      (hashProposal sampleCrypto (deploy 9 [1, 2]) sampleProposal)
      [1, 2] 7 [sampleSignature 1 [], sampleSignature 2 []] :=
    ⟨by decide, by decide +kernel, by decide +kernel, by decide +kernel⟩
  have quorum := quorum_iff_counted_once sampleCrypto (show deploy 9 [1, 2] =
    { deploy 9 [1, 2] with lastNonce := 0 } from rfl) reached
  exact ⟨reached, rfl, once, (quorum.2 rfl).mpr once⟩

/-- The guardians of the deployment, of which the last is the player. -/
def deployedGuardians : List Address :=
  [0xA66bA931da982b11a2f3b89d1D732537EA4bc30D, 0xa66ba931dA982b11A2F3B89d1d732537ea4bC30E, 7]

/-- The player alone reaches the treasury with one signature presented twice, the
second time with a byte behind it that `recoverSigner` does not read. -/
theorem one_signer_passes_for_three :
    Function.Injective sampleCrypto.keccak256 ∧
      authorise sampleCrypto (deploy 9 deployedGuardians) 7 0 sampleProposal
          [sampleSignature 7 [], sampleSignature 7 [0]] =
        .ok { deploy 9 deployedGuardians with lastNonce := 5 } ∧
      MadeBy sampleCrypto (hashProposal sampleCrypto (deploy 9 deployedGuardians) sampleProposal)
        [sampleSignature 7 [], sampleSignature 7 [0]] (fun account => account = 7) ∧
      ¬ Quorum deployedGuardians 7 (fun account => account = 7) := by
  refine ⟨Bytes.ofBE_one_cons_injective, ?_, ?_, ?_⟩
  · rw [authorise_ok_iff]
    exact ⟨by decide, by decide, ⟨2, rfl, by decide⟩, by decide +kernel, rfl⟩
  · intro signature member _
    rcases List.mem_cons.mp member with rfl | later
    · decide +kernel
    · rw [List.mem_singleton.mp later]
      decide +kernel
  · rintro ⟨approvers, enough, approve⟩
    have only : approvers ⊆ {7} := by
      intro account member
      obtain ⟨-, isPlayer⟩ := approve account member
      exact Finset.mem_singleton.mpr (isPlayer.elim id id)
    have size := Finset.card_le_card only
    have three : deployedGuardians.length = 3 := rfl
    rw [Finset.card_singleton] at size
    omega

end BodyGuard

end CyberCartel
