import BlazCtf.BigenLayer.Solvency

set_option autoImplicit false

namespace Bigen

open Evm
open Function (update)

/-- The part of a list of requests that names a recipient. -/
def totalTo (recipient : Address) (requests : List Request) : Nat :=
  total (requests.filter fun request => request.recipient = recipient)

/-- What was paid to a recipient on behalf of a user. -/
def World.paidTo (w : World) (user recipient : Address) : Nat :=
  ((w.payouts.filter fun payout => payout.user = user ∧ payout.recipient = recipient).map
    fun payout => total payout.requests).sum

/-- What a user's requests for a recipient amount to, paid and unpaid. -/
def World.asked (w : World) (user recipient : Address) : Nat :=
  totalTo recipient (w.unpaid user) +
    ((w.payouts.filter fun payout => payout.user = user).map
      fun payout => totalTo recipient payout.requests).sum

/-- The request that a call makes: of which user, of how much and for whom. -/
def Call.asks {this : Address} (made : Call this) : Option (Address × Nat × Address) :=
  match made.op with
  | .requestWithdrawal amount recipient => some (made.msgSender, amount, recipient)
  | .adminRequestWithdrawal user amount recipient => some (user, amount, recipient)
  | _ => none

/-- What a call asks for on behalf of a user and a recipient. -/
def Call.amountFor {this : Address} (made : Call this) (user recipient : Address) : Nat :=
  match made.asks with
  | some (asker, amount, named) => if asker = user ∧ named = recipient then amount else 0
  | none => 0

/-- The total of the requests of a user that name a recipient, over a run. -/
def requested {this : Address} (user recipient : Address) : World → List (Call this) → Nat
  | _, [] => 0
  | w, made :: rest =>
      (match call w made with
        | .ok _ => made.amountFor user recipient
        | .error _ => 0) + requested user recipient (commit call w made) rest

/-- A request that is made while an amount is pending names the recipient of that. -/
def Steady {this : Address} (w : World) (made : Call this) : Prop :=
  ∀ user amount recipient, made.asks = some (user, amount, recipient) →
    w.bigen.pendingWithdrawals user = 0 ∨ recipient = w.bigen.withdrawalRecipient user

section Totals

variable {recipient : Address}

theorem total_cons (request : Request) (rest : List Request) :
    total (request :: rest) = request.amount + total rest := by
  simp only [total, List.map_cons, List.sum_cons]

theorem totalTo_cons (request : Request) (rest : List Request) :
    totalTo recipient (request :: rest) =
      (if request.recipient = recipient then request.amount else 0) + totalTo recipient rest := by
  unfold totalTo
  by_cases named : request.recipient = recipient
  · rw [List.filter_cons_of_pos (by simpa using named), total_cons, if_pos named]
  · rw [List.filter_cons_of_neg (by simpa using named), if_neg named, Nat.zero_add]

theorem totalTo_eq_total {requests : List Request}
    (matched : ∀ request ∈ requests, request.recipient = recipient ∨ request.amount = 0) :
    totalTo recipient requests = total requests := by
  induction requests with
  | nil => rfl
  | cons request rest ih =>
      have tail := ih (fun other member => matched other (List.mem_cons_of_mem request member))
      rw [totalTo_cons, total_cons, tail]
      rcases matched request List.mem_cons_self with named | nothing
      · rw [if_pos named]
      · rw [nothing, ite_self]

/-- A list of requests that amounts to nothing asks for nothing. -/
theorem amount_of_total_zero {requests : List Request} (nothing : total requests = 0) :
    ∀ request ∈ requests, request.amount = 0 := by
  induction requests with
  | nil => exact nofun
  | cons request rest ih =>
      rw [total_cons] at nothing
      intro other member
      rcases List.mem_cons.mp member with rfl | later
      · omega
      · exact ih (by omega) other later

end Totals

variable {this : Address} {w after : World} {made : Call this}

/-- What a call leaves of the requests and payments it does not make. -/
structure Untouched (w after : World) : Prop where
  unpaid : after.unpaid = w.unpaid
  payouts : after.payouts = w.payouts
  recipients : after.bigen.withdrawalRecipient = w.bigen.withdrawalRecipient

/-- A call makes a request, pays a user or does neither. -/
theorem call_cases (covered : Covered this w) (success : call w made = .ok after) :
    (∃ user amount recipient, made.asks = some (user, amount, recipient) ∧
        doRequestWithdrawal w user amount recipient = .ok after) ∨
      (∃ user, made.op = .finalizeWithdrawal user ∧ made.asks = none ∧
        finalizeWithdrawal this w user = .ok after) ∨
      (made.asks = none ∧ Untouched w after) := by
  obtain ⟨msgSender, op, external⟩ := made
  cases op with
  | requestWithdrawal amount recipient => exact Or.inl ⟨_, _, _, rfl, success⟩
  | adminRequestWithdrawal user amount recipient =>
      simp only [call, adminRequestWithdrawal, bind_ok_iff] at success
      obtain ⟨_, _, requested⟩ := success
      exact Or.inl ⟨_, _, _, rfl, requested⟩
  | finalizeWithdrawal user => exact Or.inr (Or.inl ⟨user, rfl, rfl, success⟩)
  | stake onBehalf amount =>
      obtain ⟨token, _, _, rfl⟩ := stake_ok covered external success
      exact Or.inr (Or.inr ⟨rfl, rfl, rfl, rfl⟩)
  | transfer recipient amount =>
      simp only [call, bind_ok_iff, pure_ok_iff, Prod.exists] at success
      obtain ⟨_, _, _, rfl⟩ := success
      exact Or.inr (Or.inr ⟨rfl, rfl, rfl, rfl⟩)
  | approve spender amount =>
      simp only [call, bind_ok_iff, pure_ok_iff, Prod.exists] at success
      obtain ⟨_, _, _, rfl⟩ := success
      exact Or.inr (Or.inr ⟨rfl, rfl, rfl, rfl⟩)
  | transferFrom sender recipient amount =>
      simp only [call, bind_ok_iff, pure_ok_iff, Prod.exists] at success
      obtain ⟨_, _, _, rfl⟩ := success
      exact Or.inr (Or.inr ⟨rfl, rfl, rfl, rfl⟩)
  | permit owner spender amount signed =>
      simp only [call, bind_ok_iff, pure_ok_iff] at success
      obtain ⟨_, _, rfl⟩ := success
      exact Or.inr (Or.inr ⟨rfl, rfl, rfl, rfl⟩)
  | wait seconds =>
      rw [call, pure_ok_iff] at success
      subst success
      exact Or.inr (Or.inr ⟨rfl, rfl, rfl, rfl⟩)

/-- Only what is pending is paid. -/
theorem finalizeWithdrawal_pending {user : Address}
    (success : finalizeWithdrawal this w user = .ok after) :
    0 < w.bigen.pendingWithdrawals user := by
  simp only [finalizeWithdrawal, bind_ok_iff, require_ok_iff] at success
  obtain ⟨_, positive, _⟩ := success
  exact positive

section Asked

/-- A call adds its own request to what was asked for. -/
theorem call_asked (covered : Covered this w) (success : call w made = .ok after)
    (user recipient : Address) :
    after.asked user recipient = w.asked user recipient + made.amountFor user recipient := by
  rcases call_cases covered success with
    ⟨asker, amount, named, asks, request⟩ | ⟨asker, _, asks, payment⟩ | ⟨asks, untouched⟩
  · obtain ⟨_, rfl⟩ := doRequestWithdrawal_ok request
    simp only [World.asked, Call.amountFor, asks]
    by_cases same : asker = user
    · subst same
      simp only [Function.update_self, totalTo_cons, true_and]
      omega
    · simp only [Function.update_of_ne (Ne.symm same), same, false_and, ↓reduceIte, Nat.add_zero]
  · obtain ⟨_, _, rfl⟩ := finalizeWithdrawal_ok covered payment
    simp only [World.asked, Call.amountFor, asks, Nat.add_zero]
    by_cases same : asker = user
    · subst same
      simp only [Function.update_self, decide_true, List.filter_cons_of_pos, List.map_cons,
        List.sum_cons]
      simp only [totalTo, List.filter_nil, total, List.map_nil, List.sum_nil, Nat.zero_add]
    · simp only [Function.update_of_ne (Ne.symm same), same, decide_false, Bool.false_eq_true,
        not_false_eq_true, List.filter_cons_of_neg]
  · simp only [World.asked, Call.amountFor, asks, untouched.unpaid, untouched.payouts,
      Nat.add_zero]

/-- What is recorded is what the calls of a run asked for. -/
theorem run_asked (calls : List (Call this)) (covered : Covered this w)
    (user recipient : Address) :
    (run call w calls).asked user recipient =
      w.asked user recipient + requested user recipient w calls := by
  induction calls generalizing w with
  | nil => rfl
  | cons made rest ih =>
      have kept : Covered this (commit call w made) :=
        commit_invariant (Covered this) (fun _ => call_covered covered) covered
      rw [run_cons, ih kept, requested]
      cases result : call w made with
      | ok next =>
          rw [commit_ok result, call_asked covered result]
          simp only
          omega
      | error reason =>
          rw [commit_error result]
          simp only
          omega

end Asked

section Latest

/-- The recipient on record is that of the latest unpaid request, and each payment went
to the recipient of the latest request it paid. -/
structure Latest (w : World) : Prop where
  unpaid : ∀ user last rest, w.unpaid user = last :: rest →
    last.recipient = w.bigen.withdrawalRecipient user
  paid : ∀ payout ∈ w.payouts, ∃ last rest, payout.requests = last :: rest ∧
    last.recipient = payout.recipient

theorem call_latest (covered : Covered this w) (latest : Latest w)
    (success : call w made = .ok after) : Latest after := by
  rcases call_cases covered success with
    ⟨asker, amount, named, _, request⟩ | ⟨asker, _, _, payment⟩ | ⟨_, untouched⟩
  · obtain ⟨_, rfl⟩ := doRequestWithdrawal_ok request
    refine ⟨?_, latest.paid⟩
    intro user last rest same
    by_cases itself : user = asker
    · subst itself
      simp only [Function.update_self] at same ⊢
      cases same
      rfl
    · simp only [Function.update_of_ne itself] at same ⊢
      exact latest.unpaid user last rest same
  · have positive := finalizeWithdrawal_pending payment
    obtain ⟨_, _, rfl⟩ := finalizeWithdrawal_ok covered payment
    constructor
    · intro user last rest same
      by_cases itself : user = asker
      · subst itself
        simp only [Function.update_self] at same
        cases same
      · simp only [Function.update_of_ne itself] at same
        exact latest.unpaid user last rest same
    · intro payout member
      rcases List.mem_cons.mp member with rfl | earlier
      · cases requests : w.unpaid asker with
        | nil =>
            rw [covered.booked asker, requests] at positive
            exact absurd positive (Nat.lt_irrefl 0)
        | cons last rest => exact ⟨last, rest, rfl, latest.unpaid asker last rest requests⟩
      · exact latest.paid payout earlier
  · constructor
    · rw [untouched.unpaid, untouched.recipients]
      exact latest.unpaid
    · rw [untouched.payouts]
      exact latest.paid

end Latest

section Matched

/-- All amounts that are pending or paid together name the recipient on record. -/
structure Matched (w : World) : Prop where
  unpaid : ∀ user, ∀ request ∈ w.unpaid user,
    request.recipient = w.bigen.withdrawalRecipient user ∨ request.amount = 0
  paid : ∀ payout ∈ w.payouts, ∀ request ∈ payout.requests,
    request.recipient = payout.recipient ∨ request.amount = 0

theorem call_matched (covered : Covered this w) (matched : Matched w) (steady : Steady w made)
    (success : call w made = .ok after) : Matched after := by
  rcases call_cases covered success with
    ⟨asker, amount, named, asks, request⟩ | ⟨asker, _, _, payment⟩ | ⟨_, untouched⟩
  · have same := steady asker amount named asks
    obtain ⟨_, rfl⟩ := doRequestWithdrawal_ok request
    refine ⟨?_, matched.paid⟩
    intro user other member
    by_cases itself : user = asker
    · subst itself
      simp only [Function.update_self] at member ⊢
      rcases List.mem_cons.mp member with rfl | earlier
      · exact Or.inl rfl
      · rcases same with nothing | same
        · rw [covered.booked user] at nothing
          exact Or.inr (amount_of_total_zero nothing other earlier)
        · rw [same]
          exact matched.unpaid user other earlier
    · simp only [Function.update_of_ne itself] at member ⊢
      exact matched.unpaid user other member
  · obtain ⟨_, _, rfl⟩ := finalizeWithdrawal_ok covered payment
    constructor
    · intro user other member
      by_cases itself : user = asker
      · subst itself
        simp only [Function.update_self, List.not_mem_nil] at member
      · simp only [Function.update_of_ne itself] at member
        exact matched.unpaid user other member
    · intro payout member
      rcases List.mem_cons.mp member with rfl | earlier
      · exact matched.unpaid asker
      · exact matched.paid payout earlier
  · constructor
    · rw [untouched.unpaid, untouched.recipients]
      exact matched.unpaid
    · rw [untouched.payouts]
      exact matched.paid

/-- Payments that match their requests pay no more than was asked for. -/
theorem paid_le_asked {payouts : List Payout} (user recipient : Address)
    (matched : ∀ payout ∈ payouts, ∀ request ∈ payout.requests,
      request.recipient = payout.recipient ∨ request.amount = 0) :
    ((payouts.filter fun payout => payout.user = user ∧ payout.recipient = recipient).map
        fun payout => total payout.requests).sum ≤
      ((payouts.filter fun payout => payout.user = user).map
        fun payout => totalTo recipient payout.requests).sum := by
  induction payouts with
  | nil => exact Nat.le_refl 0
  | cons payout rest ih =>
      have tail := ih (fun other member => matched other (List.mem_cons_of_mem payout member))
      by_cases own : payout.user = user
      · by_cases named : payout.recipient = recipient
        · have whole := totalTo_eq_total (matched payout List.mem_cons_self)
          rw [named] at whole
          simp only [List.filter_cons, own, named, and_self, decide_true, ↓reduceIte,
            List.map_cons, List.sum_cons, whole]
          omega
        · simp only [List.filter_cons, own, named, and_false, decide_true, decide_false,
            Bool.false_eq_true, ↓reduceIte, List.map_cons, List.sum_cons]
          omega
      · simp only [List.filter_cons, own, false_and, decide_false, Bool.false_eq_true, ↓reduceIte]
        exact tail

theorem Matched.paidTo_le (matched : Matched w) (user recipient : Address) :
    w.paidTo user recipient ≤ w.asked user recipient :=
  Nat.le_trans (paid_le_asked user recipient matched.paid) (Nat.le_add_left _ _)

end Matched

/-- In every run what is recorded is what its calls requested; each payment goes, with all
requests it pays, to the recipient of the latest of them, and is made by transferring their
total. If every request that is made
while an amount is pending names the recipient of that, the total paid to a recipient on
behalf of a user is at most the total of the user's requests for that recipient. -/
theorem paid_to_latest_recipient {this : Address} (owner holder : Address)
    (supply : Fin (2 ^ 256)) (timestamp : Nat) (calls : List (Call this)) :
    let start := deployWorld owner holder supply timestamp
    let w := run call start calls
    (∀ user recipient, w.asked user recipient = requested user recipient start calls) ∧
    (∀ payout ∈ w.payouts, ∃ last rest, payout.requests = last :: rest ∧
      last.recipient = payout.recipient) ∧
    (∀ (made : Call this) (after : World) (user : Address), made.op = .finalizeWithdrawal user →
      call w made = .ok after → ∃ recipient,
        after.payouts = ⟨user, recipient, w.unpaid user, w.timestamp⟩ :: w.payouts ∧
        after.token.balances =
          Ledger.move w.token.balances this recipient (total (w.unpaid user))) ∧
    (Meets Steady call start calls → ∀ user recipient,
      w.paidTo user recipient ≤ requested user recipient start calls) := by
  intro start w
  have covered₀ : Covered this start := Covered.of_deploy this owner holder supply timestamp
  have covered : Covered this w := run_invariant (Covered this) (fun _ _ _ => call_covered) calls
    start covered₀
  have latest : Covered this w ∧ Latest w := by
    apply run_invariant (fun state => Covered this state ∧ Latest state) _ calls start
    · exact ⟨covered₀, nofun, nofun⟩
    · rintro state made next ⟨holds, latest⟩ success
      exact ⟨call_covered holds success, call_latest holds latest success⟩
  have asked : ∀ user recipient,
      w.asked user recipient = requested user recipient start calls := by
    intro user recipient
    have sum := run_asked calls covered₀ user recipient
    have none : start.asked user recipient = 0 := rfl
    rw [none, Nat.zero_add] at sum
    exact sum
  refine ⟨asked, latest.2.paid, ?_, ?_⟩
  · intro made after user paying success
    obtain ⟨msgSender, op, external⟩ := made
    cases paying
    obtain ⟨_, _, rfl⟩ := finalizeWithdrawal_ok covered success
    refine ⟨w.bigen.withdrawalRecipient user, rfl, ?_⟩
    rw [covered.booked user]
  · intro steady user recipient
    have matched : Covered this w ∧ Matched w := by
      apply run_invariant_of_meets (fun state => Covered this state ∧ Matched state) _ calls start
        _ steady
      · rintro state made next ⟨holds, matched⟩ condition success
        exact ⟨call_covered holds success, call_matched holds matched condition success⟩
      · exact ⟨covered₀, nofun, nofun⟩
    rw [← asked]
    exact matched.2.paidTo_le user recipient

section Sample

theorem staker_external : (1 : Address) ≠ 70 := by decide

/-- Account 1 stakes 10, asks for 4 to account 5 and for 6 to another account, and is paid. -/
def twoRequests (second : Address) : List (Call 70) :=
  [⟨1, .approve 70 10, staker_external⟩, ⟨1, .stake 1 10, staker_external⟩,
    ⟨1, .requestWithdrawal 4 5, staker_external⟩,
    ⟨1, .requestWithdrawal 6 second, staker_external⟩, ⟨1, .wait 12, staker_external⟩,
    ⟨1, .finalizeWithdrawal 1, staker_external⟩]

def stakingStart : World := deployWorld 9 1 100 1000

/-- The recipient of the second request gets both amounts. -/
theorem second_recipient_takes_both :
    (run call stakingStart (twoRequests 6)).paidTo 1 6 = 10 ∧
      requested 1 6 stakingStart (twoRequests 6) = 6 ∧
      (run call stakingStart (twoRequests 6)).token.balances 6 = 10 ∧
      requested 1 5 stakingStart (twoRequests 6) = 4 ∧
      (run call stakingStart (twoRequests 6)).paidTo 1 5 = 0 := by
  decide +kernel

/-- If both requests name the same recipient, it gets what it was asked for. -/
theorem same_recipient_paid :
    (run call stakingStart (twoRequests 5)).paidTo 1 5 ≤
      requested 1 5 stakingStart (twoRequests 5) := by
  have steady : Meets Steady call stakingStart (twoRequests 5) := by
    refine ⟨nofun, nofun, ?_, ?_, nofun, nofun, trivial⟩
    · intro user amount recipient asks
      cases asks
      exact Or.inl (by decide +kernel)
    · intro user amount recipient asks
      cases asks
      exact Or.inr (by decide +kernel)
  exact (paid_to_latest_recipient 9 1 100 1000 (twoRequests 5)).2.2.2 steady 1 5

end Sample

end Bigen
