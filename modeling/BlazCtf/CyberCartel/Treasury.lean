import BlazCtf.Lib.Run
import Mathlib.Data.List.Basic

set_option autoImplicit false

namespace CyberCartel

open Evm

/-- `CartelTreasury`, with the Ether it holds. -/
structure Treasury where
  bodyGuard : Address
  lastTimeSalaryPaid : Address → Nat
  balance : Nat

namespace Treasury

/-- `1 minutes`. -/
def minTimeBetweenSalary : Nat := 60

/-- `0.0001 ether`. -/
def salaryAmount : Nat := 10 ^ 14

section Contract

variable (treasury : Treasury)

/-- `initialize`. -/
def initializeWith (bodyGuard : Address) : Outcome Treasury := do
  require (treasury.bodyGuard = 0) "Already initialized"
  pure { treasury with bodyGuard := bodyGuard }

def guarded (msgSender : Address) : Outcome Unit :=
  require (treasury.bodyGuard = 0 ∨ treasury.bodyGuard = msgSender) "Who?"

/-- The Ether that `transfer` takes before the recipient's code runs. -/
def debit (amount : Nat) : Outcome Treasury :=
  if amount ≤ treasury.balance then .ok { treasury with balance := treasury.balance - amount }
  else .error .bare

/-- `doom` up to the recipient's code. -/
def doom (msgSender : Address) : Outcome Treasury := do
  treasury.guarded msgSender
  treasury.debit treasury.balance

def gistCartelDismiss (msgSender : Address) : Outcome Treasury := do
  treasury.guarded msgSender
  pure { treasury with bodyGuard := 0 }

/-- `salary` up to the recipient's code. -/
def salary (msgSender : Address) (timestamp : Nat) : Outcome Treasury := do
  let waited ← checkedSub timestamp (treasury.lastTimeSalaryPaid msgSender)
    "block.timestamp - lastTimeSalaryPaid[msg.sender]"
  require (waited ≥ minTimeBetweenSalary) "Too soon"
  let paid := Function.update treasury.lastTimeSalaryPaid msgSender timestamp
  debit { treasury with lastTimeSalaryPaid := paid } salaryAmount

/-- `receive`, and Ether that arrives without a call. -/
def receive (value : Nat) : Treasury :=
  { treasury with balance := treasury.balance + value }

end Contract

/-- A call of the contract. For the two that transfer: the calls that the
recipient's code makes during the transfer, as many as it likes whatever the gas
stipend would allow, and whether it accepts the Ether. Calls of the getters change
nothing, and neither do those that always revert; they are left out. -/
inductive Call where
  | initializeWith (msgSender bodyGuard : Address)
  | doom (msgSender : Address) (nested : List Call) (accepts : Bool)
  | gistCartelDismiss (msgSender : Address)
  | salary (msgSender : Address) (nested : List Call) (accepts : Bool)
  | receive (value : Nat)

/-- What a call that was not reverted has done. -/
inductive Event where
  | initialized (caller bodyGuard : Address)
  | doomed (caller : Address) (amount : Nat)
  | dismissed (caller : Address)
  | salaried (caller : Address) (timestamp : Nat)
  | received (value : Nat)
  deriving DecidableEq

mutual

/-- A call in a block of this timestamp, with what it and the calls inside it have
done, in this order. -/
def invoke (timestamp : Nat) (treasury : Treasury) : Call → Outcome (Treasury × List Event)
  | .initializeWith msgSender bodyGuard => do
      let after ← treasury.initializeWith bodyGuard
      pure (after, [.initialized msgSender bodyGuard])
  | .doom msgSender nested accepts => do
      let sent ← treasury.doom msgSender
      let (after, inside) := invokeAll timestamp sent nested
      callee (if accepts then some () else none)
      pure (after, .doomed msgSender treasury.balance :: inside)
  | .gistCartelDismiss msgSender => do
      let after ← treasury.gistCartelDismiss msgSender
      pure (after, [.dismissed msgSender])
  | .salary msgSender nested accepts => do
      let sent ← treasury.salary msgSender timestamp
      let (after, inside) := invokeAll timestamp sent nested
      callee (if accepts then some () else none)
      pure (after, .salaried msgSender timestamp :: inside)
  | .receive value => pure (treasury.receive value, [.received value])

/-- Calls made one after another; one that fails changes nothing. -/
def invokeAll (timestamp : Nat) (treasury : Treasury) : List Call → Treasury × List Event
  | [] => (treasury, [])
  | call :: rest =>
      match invoke timestamp treasury call with
      | .ok (after, events) =>
          let (final, later) := invokeAll timestamp after rest
          (final, events ++ later)
      | .error _ => invokeAll timestamp treasury rest

end

/-- A run: calls of any accounts, each with the timestamp of its block. -/
def runCalls (treasury : Treasury) : List (Nat × Call) → Treasury × List Event
  | [] => (treasury, [])
  | (timestamp, call) :: rest =>
      let (after, events) := invokeAll timestamp treasury [call]
      let (final, later) := runCalls after rest
      (final, events ++ later)

/-- The treasury as a ledger of events, in which nothing is nested: when an event
may happen, -/
def Allowed (treasury : Treasury) : Event → Prop
  | .initialized _ _ => treasury.bodyGuard = 0
  | .doomed caller amount =>
      (treasury.bodyGuard = 0 ∨ treasury.bodyGuard = caller) ∧ amount = treasury.balance
  | .dismissed caller => treasury.bodyGuard = 0 ∨ treasury.bodyGuard = caller
  | .salaried caller timestamp =>
      treasury.lastTimeSalaryPaid caller + minTimeBetweenSalary ≤ timestamp ∧
        salaryAmount ≤ treasury.balance
  | .received _ => True

/-- and what it does. -/
def apply (treasury : Treasury) : Event → Treasury
  | .initialized _ bodyGuard => { treasury with bodyGuard := bodyGuard }
  | .doomed _ amount => { treasury with balance := treasury.balance - amount }
  | .dismissed _ => { treasury with bodyGuard := 0 }
  | .salaried caller timestamp =>
      { treasury with
        lastTimeSalaryPaid := Function.update treasury.lastTimeSalaryPaid caller timestamp
        balance := treasury.balance - salaryAmount }
  | .received value => { treasury with balance := treasury.balance + value }

/-- The treasury after a sequence of events. -/
def replay (treasury : Treasury) (events : List Event) : Treasury := events.foldl apply treasury

@[simp] theorem replay_nil (treasury : Treasury) : replay treasury [] = treasury := rfl

@[simp] theorem replay_cons (treasury : Treasury) (event : Event) (rest : List Event) :
    replay treasury (event :: rest) = replay (apply treasury event) rest := rfl

@[simp] theorem replay_append (treasury : Treasury) (events later : List Event) :
    replay treasury (events ++ later) = replay (replay treasury events) later :=
  List.foldl_append

/-- The events are a run of the ledger from one treasury to the other. -/
structure Explains (events : List Event) (before after : Treasury) : Prop where
  allowed : Follows Allowed apply before events
  leads : replay before events = after

theorem Explains.nil (treasury : Treasury) : Explains [] treasury treasury where
  allowed := trivial
  leads := rfl

theorem Explains.single {treasury : Treasury} {event : Event} (allowed : Allowed treasury event) :
    Explains [event] treasury (apply treasury event) where
  allowed := ⟨allowed, trivial⟩
  leads := rfl

theorem Explains.append {events later : List Event} {before middle after : Treasury}
    (first : Explains events before middle) (second : Explains later middle after) :
    Explains (events ++ later) before after where
  allowed := by
    apply (follows_append events later before).mpr
    have reached : events.foldl apply before = middle := first.leads
    rw [reached]
    exact ⟨first.allowed, second.allowed⟩
  leads := by
    rw [replay_append, first.leads, second.leads]

section Effects

variable {treasury after : Treasury} {msgSender : Address}

theorem debit_ok_iff {amount : Nat} :
    treasury.debit amount = .ok after ↔
      amount ≤ treasury.balance ∧
        { treasury with balance := treasury.balance - amount } = after := by
  unfold debit
  split <;> simp [*]

theorem initializeWith_effect {bodyGuard : Address}
    (success : treasury.initializeWith bodyGuard = .ok after) :
    Explains [.initialized msgSender bodyGuard] treasury after := by
  simp only [initializeWith, bind_ok_iff, require_ok_iff, pure_ok_iff] at success
  obtain ⟨_, unset, rfl⟩ := success
  exact Explains.single unset

theorem gistCartelDismiss_effect (success : treasury.gistCartelDismiss msgSender = .ok after) :
    Explains [.dismissed msgSender] treasury after := by
  simp only [gistCartelDismiss, guarded, bind_ok_iff, require_ok_iff, pure_ok_iff] at success
  obtain ⟨_, permitted, rfl⟩ := success
  exact Explains.single permitted

theorem doom_effect (success : treasury.doom msgSender = .ok after) :
    Explains [.doomed msgSender treasury.balance] treasury after := by
  simp only [doom, guarded, bind_ok_iff, require_ok_iff, debit_ok_iff] at success
  obtain ⟨_, permitted, -, rfl⟩ := success
  exact Explains.single ⟨permitted, rfl⟩

theorem salary_effect {timestamp : Nat}
    (success : treasury.salary msgSender timestamp = .ok after) :
    Explains [.salaried msgSender timestamp] treasury after := by
  simp only [salary, bind_ok_iff, require_ok_iff, checkedSub_ok_iff, debit_ok_iff] at success
  obtain ⟨waited, ⟨past, rfl⟩, _, long, covered, rfl⟩ := success
  have spaced : treasury.lastTimeSalaryPaid msgSender + minTimeBetweenSalary ≤ timestamp := by
    omega
  exact Explains.single ⟨spaced, covered⟩

end Effects

section Flattening

variable {timestamp : Nat} {treasury : Treasury}

theorem invokeAll_cons_ok {call : Call} {after : Treasury} {events : List Event}
    (success : invoke timestamp treasury call = .ok (after, events)) (rest : List Call) :
    invokeAll timestamp treasury (call :: rest) =
      ((invokeAll timestamp after rest).1, events ++ (invokeAll timestamp after rest).2) := by
  rw [invokeAll, success]

theorem invokeAll_cons_error {call : Call} {reason : Revert}
    (failed : invoke timestamp treasury call = .error reason) (rest : List Call) :
    invokeAll timestamp treasury (call :: rest) = invokeAll timestamp treasury rest := by
  rw [invokeAll, failed]

end Flattening

mutual

/-- Calls made from inside a transfer act on the treasury that the transfer has
already debited, so a nested run is the run of its events one after another. -/
theorem invoke_explained {timestamp : Nat} {treasury after : Treasury} {events : List Event} :
    ∀ call, invoke timestamp treasury call = .ok (after, events) →
      Explains events treasury after
  | .initializeWith msgSender bodyGuard => by
      intro success
      simp only [invoke, bind_ok_iff, pure_ok_iff, Prod.mk.injEq] at success
      obtain ⟨next, done, rfl, rfl⟩ := success
      exact initializeWith_effect done
  | .doom msgSender nested accepts => by
      intro success
      simp only [invoke, bind_ok_iff, pure_ok_iff, Prod.mk.injEq] at success
      obtain ⟨sent, done, _, _, rfl, rfl⟩ := success
      exact (doom_effect done).append (invokeAll_explained nested)
  | .gistCartelDismiss msgSender => by
      intro success
      simp only [invoke, bind_ok_iff, pure_ok_iff, Prod.mk.injEq] at success
      obtain ⟨next, done, rfl, rfl⟩ := success
      exact gistCartelDismiss_effect done
  | .salary msgSender nested accepts => by
      intro success
      simp only [invoke, bind_ok_iff, pure_ok_iff, Prod.mk.injEq] at success
      obtain ⟨sent, done, _, _, rfl, rfl⟩ := success
      exact (salary_effect done).append (invokeAll_explained nested)
  | .receive value => by
      intro success
      simp only [invoke, pure_ok_iff, Prod.mk.injEq] at success
      obtain ⟨rfl, rfl⟩ := success
      exact Explains.single trivial

theorem invokeAll_explained {timestamp : Nat} {treasury : Treasury} : ∀ calls,
    Explains (invokeAll timestamp treasury calls).2 treasury (invokeAll timestamp treasury calls).1
  | [] => by
      rw [invokeAll]
      exact Explains.nil treasury
  | call :: rest => by
      cases result : invoke timestamp treasury call with
      | error reason =>
          rw [invokeAll_cons_error result]
          exact invokeAll_explained rest
      | ok next =>
          rw [invokeAll_cons_ok result]
          exact (invoke_explained call result).append (invokeAll_explained rest)

end

/-- Every run of the contract is a run of the ledger. -/
theorem runCalls_explained (calls : List (Nat × Call)) : ∀ treasury,
    Explains (runCalls treasury calls).2 treasury (runCalls treasury calls).1 := by
  induction calls with
  | nil =>
      intro treasury
      exact Explains.nil treasury
  | cons made rest ih =>
      intro treasury
      obtain ⟨timestamp, call⟩ := made
      exact (invokeAll_explained [call]).append (ih _)

/-- The Ether that an event takes out of the treasury. -/
def Event.outflow : Event → Nat
  | .doomed _ amount => amount
  | .salaried _ _ => salaryAmount
  | _ => 0

/-- The Ether that an event brings into it. -/
def Event.inflow : Event → Nat
  | .received value => value
  | _ => 0

/-- The salary that an event pays to the caller between the two times. -/
def Event.salaryTo (caller : Address) (t0 t1 : Nat) : Event → Nat
  | .salaried paid timestamp =>
      if paid = caller ∧ t0 ≤ timestamp ∧ timestamp ≤ t1 then salaryAmount else 0
  | _ => 0

/-- The total salary paid to the caller in `[t0, t1]`. -/
def salaryPaid (caller : Address) (t0 t1 : Nat) (events : List Event) : Nat :=
  (events.map (Event.salaryTo caller t0 t1)).sum

theorem apply_balance {treasury : Treasury} {event : Event} (allowed : Allowed treasury event) :
    (apply treasury event).balance + event.outflow = treasury.balance + event.inflow := by
  cases event with
  | initialized caller bodyGuard => simp [apply, Event.outflow, Event.inflow]
  | doomed caller amount =>
      obtain ⟨-, rfl⟩ := allowed
      simp [apply, Event.outflow, Event.inflow]
  | dismissed caller => simp [apply, Event.outflow, Event.inflow]
  | salaried caller timestamp =>
      have covered := allowed.2
      simp only [apply, Event.outflow, Event.inflow]
      omega
  | received value => simp [apply, Event.outflow, Event.inflow]

theorem replay_balance (events : List Event) : ∀ treasury, Follows Allowed apply treasury events →
    (replay treasury events).balance + (events.map Event.outflow).sum =
      treasury.balance + (events.map Event.inflow).sum := by
  induction events with
  | nil =>
      intro treasury _
      rfl
  | cons event rest ih =>
      intro treasury follows
      have now := apply_balance follows.1
      have later := ih _ follows.2
      simp only [replay_cons, List.map_cons, List.sum_cons]
      omega

/-- A guard that is set is only ever replaced through its own dismissal. -/
theorem guard_leaves_by_dismissal {treasury : Treasury} {event : Event} {guard : Address}
    (set : guard ≠ 0) (current : treasury.bodyGuard = guard) (allowed : Allowed treasury event)
    (left : (apply treasury event).bodyGuard ≠ guard) : event = .dismissed guard := by
  cases event with
  | initialized caller bodyGuard =>
      have unset : treasury.bodyGuard = 0 := allowed
      rw [unset] at current
      exact absurd current.symm set
  | doomed caller amount => exact absurd current left
  | dismissed caller =>
      rcases allowed with unset | own
      · rw [unset] at current
        exact absurd current.symm set
      · rw [← own, current]
  | salaried caller timestamp => exact absurd current left
  | received value => exact absurd current left

theorem outflow_guarded {treasury : Treasury} {event : Event} {guard : Address}
    (set : guard ≠ 0) (current : treasury.bodyGuard = guard) (allowed : Allowed treasury event)
    (leaves : event.outflow ≠ 0) :
    (∃ caller timestamp, event = .salaried caller timestamp) ∨
      ∃ amount, event = .doomed guard amount := by
  cases event with
  | doomed caller amount =>
      right
      rcases allowed.1 with unset | own
      · rw [unset] at current
        exact absurd current.symm set
      · exact ⟨amount, by rw [← own, current]⟩
  | salaried caller timestamp => exact Or.inl ⟨caller, timestamp, rfl⟩
  | initialized caller bodyGuard => exact absurd rfl leaves
  | dismissed caller => exact absurd rfl leaves
  | received value => exact absurd rfl leaves

/-- Any event of a run of the ledger is allowed where the events before it lead. -/
theorem allowed_at {treasury : Treasury} {events earlier : List Event} {event : Event}
    (follows : Follows Allowed apply treasury events) (reached : earlier ++ [event] <+: events) :
    Allowed (replay treasury earlier) event := by
  obtain ⟨later, rfl⟩ := reached
  have within := ((follows_append _ _ _).mp follows).1
  exact ((follows_append _ _ _).mp within).2.1

/-- The times in the window at which the caller is paid. -/
def payTimes (caller : Address) (t0 t1 : Nat) : List Event → List Nat
  | [] => []
  | .salaried paid timestamp :: rest =>
      if paid = caller ∧ t0 ≤ timestamp ∧ timestamp ≤ t1 then
        timestamp :: payTimes caller t0 t1 rest
      else payTimes caller t0 t1 rest
  | _ :: rest => payTimes caller t0 t1 rest

section Window

variable (caller : Address) (t0 t1 : Nat)

theorem salaryPaid_eq (events : List Event) :
    salaryPaid caller t0 t1 events = salaryAmount * (payTimes caller t0 t1 events).length := by
  induction events with
  | nil => rfl
  | cons event rest ih =>
      have split : salaryPaid caller t0 t1 (event :: rest) =
          event.salaryTo caller t0 t1 + salaryPaid caller t0 t1 rest := by
        simp [salaryPaid]
      rw [split, ih]
      cases event with
      | salaried paid timestamp =>
          simp only [Event.salaryTo, payTimes]
          split
          · rw [List.length_cons, Nat.mul_succ, Nat.add_comm]
          · rw [Nat.zero_add]
      | initialized caller bodyGuard => exact Nat.zero_add _
      | doomed caller amount => exact Nat.zero_add _
      | dismissed caller => exact Nat.zero_add _
      | received value => exact Nat.zero_add _

/-- Each payment moves `lastTimeSalaryPaid` to its own time, so the next one comes
a minute later or more. -/
theorem payTimes_spaced (events : List Event) : ∀ treasury,
    Follows Allowed apply treasury events →
      (∀ time ∈ payTimes caller t0 t1 events,
        treasury.lastTimeSalaryPaid caller + minTimeBetweenSalary ≤ time) ∧
      (payTimes caller t0 t1 events).Pairwise
        (fun earlier later => earlier + minTimeBetweenSalary ≤ later) := by
  induction events with
  | nil =>
      intro treasury _
      simp [payTimes]
  | cons event rest ih =>
      intro treasury follows
      have later := ih _ follows.2
      cases event with
      | salaried paid timestamp =>
          have spaced := follows.1.1
          simp only [apply] at later
          by_cases same : paid = caller
          · subst same
            simp only [Function.update_self] at later
            have onward : ∀ time ∈ payTimes paid t0 t1 rest,
                treasury.lastTimeSalaryPaid paid + minTimeBetweenSalary ≤ time := by
              intro time member
              have after := later.1 time member
              omega
            simp only [payTimes]
            split
            · constructor
              · intro time member
                rcases List.mem_cons.mp member with rfl | member
                · exact spaced
                · exact onward time member
              · exact List.pairwise_cons.mpr later
            · exact ⟨onward, later.2⟩
          · simp only [payTimes, same, false_and, if_false]
            rw [Function.update_of_ne (Ne.symm same)] at later
            exact later
      | initialized caller bodyGuard => exact later
      | doomed caller amount => exact later
      | dismissed caller => exact later
      | received value => exact later

theorem payTimes_within (events : List Event) :
    ∀ time ∈ payTimes caller t0 t1 events, t0 ≤ time ∧ time ≤ t1 := by
  fun_induction payTimes caller t0 t1 events with
  | case1 => simp
  | case2 paid timestamp rest inside ih =>
      intro time member
      rcases List.mem_cons.mp member with rfl | member
      · exact inside.2
      · exact ih time member
  | case3 paid timestamp rest outside ih => exact ih
  | case4 event rest other ih => exact ih

end Window

/-- Times that are a gap apart take that much room: with their own gaps behind
them they fit into the window and one gap more. -/
theorem spaced_length_le {gap t1 : Nat} (times : List Nat)
    (spaced : times.Pairwise fun earlier later => earlier + gap ≤ later) :
    ∀ t0, t0 ≤ t1 + gap → (∀ time ∈ times, t0 ≤ time ∧ time ≤ t1) →
      gap * times.length ≤ t1 + gap - t0 := by
  induction times with
  | nil => simp
  | cons time rest ih =>
      intro t0 _ within
      obtain ⟨first, later⟩ := List.pairwise_cons.mp spaced
      obtain ⟨lower, upper⟩ := within time List.mem_cons_self
      have fits := ih later (time + gap) (by omega) fun other member =>
        ⟨first other member, (within other (List.mem_cons_of_mem time member)).2⟩
      rw [List.length_cons, Nat.mul_succ]
      omega

theorem salaryPaid_le {treasury : Treasury} {events : List Event}
    (follows : Follows Allowed apply treasury events) (caller : Address) {t0 t1 : Nat}
    (ordered : t0 ≤ t1) :
    salaryPaid caller t0 t1 events ≤
      salaryAmount * ((t1 - t0) / minTimeBetweenSalary + 1) := by
  rw [salaryPaid_eq]
  apply Nat.mul_le_mul_left
  have fits := spaced_length_le _ (payTimes_spaced caller t0 t1 events treasury follows).2
    t0 (by omega) (payTimes_within caller t0 t1 events)
  simp only [minTimeBetweenSalary] at fits ⊢
  omega

/-- In every run, whatever recipients do during transfers: its events lead to the
final state and account for the balance; a guard is left only by its own
`gistCartelDismiss`; the salary of a caller in a window is bounded; and if the guard
stays, Ether leaves through `salary` and the guard's `doom` only. Timestamps need no
order: `salary` fails where they go back. -/
theorem guarded_outflow (start : Treasury) (guard : Address) (set : guard ≠ 0)
    (calls : List (Nat × Call)) (final : Treasury) (events : List Event)
    (ran : runCalls start calls = (final, events)) :
    replay start events = final ∧
      final.balance + (events.map Event.outflow).sum =
        start.balance + (events.map Event.inflow).sum ∧
      (∀ earlier event, earlier ++ [event] <+: events →
        (replay start earlier).bodyGuard = guard →
        (replay start (earlier ++ [event])).bodyGuard ≠ guard → event = .dismissed guard) ∧
      (∀ caller t0 t1, t0 ≤ t1 →
        salaryPaid caller t0 t1 events ≤
          salaryAmount * ((t1 - t0) / minTimeBetweenSalary + 1)) ∧
      ((∀ earlier, earlier <+: events → (replay start earlier).bodyGuard = guard) →
        ∀ event ∈ events, event.outflow ≠ 0 →
          (∃ caller timestamp, event = .salaried caller timestamp) ∨
            ∃ amount, event = .doomed guard amount) := by
  have explained : Explains events start final := by
    have whole := runCalls_explained calls start
    rw [ran] at whole
    exact whole
  obtain ⟨follows, leads⟩ := explained
  refine ⟨leads, ?_, ?_, ?_, ?_⟩
  · rw [← leads]
    exact replay_balance events start follows
  · intro earlier event reached current left
    rw [replay_append] at left
    exact guard_leaves_by_dismissal set current (allowed_at follows reached) left
  · intro caller t0 t1 ordered
    exact salaryPaid_le follows caller ordered
  · intro stays event member leaves
    obtain ⟨earlier, later, rfl⟩ := List.append_of_mem member
    have reached : earlier ++ [event] <+: earlier ++ event :: later := ⟨later, by simp⟩
    have current := stays earlier ⟨event :: later, rfl⟩
    exact outflow_guarded set current (allowed_at follows reached) leaves

/-- The salary of account 7, whose code asks for it again, and the guard's `doom`. -/
def paydayCalls : List (Nat × Call) :=
  [(100, .salary 7 [.salary 7 [] true, .doom 7 [] true, .receive 5] true),
    (159, .salary 7 [] true), (160, .salary 7 [] true), (200, .doom 3 [] true)]

def paydayStart : Treasury :=
  { bodyGuard := 3, lastTimeSalaryPaid := fun _ => 0, balance := 10 ^ 15 }

def paydayEvents : List Event :=
  [.salaried 7 100, .received 5, .salaried 7 160, .doomed 3 (8 * 10 ^ 14 + 5)]

theorem payday_outflow :
    (runCalls paydayStart paydayCalls).2 = paydayEvents ∧
      (runCalls paydayStart paydayCalls).1.balance = 0 ∧
      salaryPaid 7 100 160 paydayEvents ≤ 2 * 10 ^ 14 ∧
      ∀ event ∈ paydayEvents, event.outflow ≠ 0 →
        (∃ caller timestamp, event = .salaried caller timestamp) ∨
          ∃ amount, event = .doomed 3 amount := by
  have happened : (runCalls paydayStart paydayCalls).2 = paydayEvents := by decide +kernel
  have ran : runCalls paydayStart paydayCalls =
      ((runCalls paydayStart paydayCalls).1, paydayEvents) := by
    rw [← happened]
  obtain ⟨-, -, -, bounded, leaves⟩ := guarded_outflow paydayStart 3 (by decide)
    paydayCalls _ paydayEvents ran
  have stays : ∀ earlier ∈ paydayEvents.inits, (replay paydayStart earlier).bodyGuard = 3 := by
    decide +kernel
  refine ⟨happened, by decide +kernel, bounded 7 100 160 (by decide), leaves ?_⟩
  intro earlier reached
  exact stays earlier ((List.mem_inits earlier paydayEvents).mpr reached)

end Treasury

end CyberCartel
