import BlazCtf.Tutori4l.Hook

set_option autoImplicit false

namespace Tutori4l

open Evm (Address Outcome)
open Function (update)

/-- The ETH of all payouts. -/
def paidOut : List Mark → Nat
  | [] => 0
  | .paid _ value :: earlier => value + paidOut earlier
  | .rewardSet _ _ :: earlier | .began _ :: earlier => paidOut earlier

/-- The ETH of every `set_reward` that has set a flag. -/
def rewardsSet : List Mark → Nat
  | [] => 0
  | .rewardSet _ value :: earlier => value + rewardsSet earlier
  | .paid _ _ :: earlier | .began _ :: earlier => rewardsSet earlier

/-- What the hook began with and what `set_reward` brought is there or has been paid out. -/
def Accounted (site : Site) (start : Nat) (world : World) : Prop :=
  start + rewardsSet world.log ≤ world.balance site.hook + paidOut world.log

/-- The hook has no code that calls `set_reward`. -/
def Event.Foreign (site : Site) : Event → Prop
  | .setReward msgSender _ => msgSender ≠ site.hook
  | _ => True

instance instDecidableForeign (site : Site) : DecidablePred (Event.Foreign site)
  | .setReward _ _ => inferInstanceAs (Decidable (_ ≠ _))
  | .transact _ | .call | .finish _ | .exhaust | .fund _ _ | .setLuckyPool _ | .swap _ _ _
  | .settle _ | .firstReward _ _ | .beforeSwap _ _ _ _ | .afterSwap _ => isTrue trivial

/-- The books are right in the world, and in every world that a call can go back to. -/
structure Balanced (site : Site) (start : Nat) (machine : Machine) : Prop where
  world : Accounted site start machine.world
  saved : ∀ frame ∈ machine.stack, Accounted site start frame.saved

section Worlds

variable {site : Site} {start : Nat} {world : World}

/-- Flags and the lock play no part. -/
theorem Accounted.congr {after : World} (accounted : Accounted site start world)
    (log : after.log = world.log)
    (balance : world.balance site.hook ≤ after.balance site.hook) :
    Accounted site start after := by
  unfold Accounted at accounted ⊢
  rw [log]
  omega

/-- A transfer takes its value from the hook, and no more. -/
theorem World.transfer_from_hook (site : Site) (world : World) (recipient : Address)
    (value : Nat) :
    world.balance site.hook ≤
      (world.transfer site.hook recipient value).balance site.hook + value := by
  simp only [World.transfer]
  by_cases own : recipient = site.hook
  · subst own
    simp only [Function.update_self]
    omega
  · rw [Function.update_of_ne (Ne.symm own), Function.update_self]
    omega

theorem Accounted.paid (accounted : Accounted site start world) (swap : Option Swap)
    (recipient : Address) (value : Nat) :
    Accounted site start
      ((world.transfer site.hook recipient value).mark (.paid swap value)) := by
  have taken := World.transfer_from_hook site world recipient value
  have paid : paidOut ((world.transfer site.hook recipient value).mark (.paid swap value)).log =
      value + paidOut world.log := rfl
  unfold Accounted at accounted ⊢
  rw [paid]
  change start + rewardsSet world.log ≤
    (world.transfer site.hook recipient value).balance site.hook + _
  omega

/-- Another account sends ETH to the hook. -/
theorem World.transfer_to_hook (world : World) {sender : Address} (other : sender ≠ site.hook)
    (value : Nat) :
    (world.transfer sender site.hook value).balance site.hook =
      world.balance site.hook + value := by
  simp only [World.transfer, Function.update_self, Function.update_of_ne (Ne.symm other)]

theorem Accounted.setReward {msgSender : Address} {msgValue : Nat} {after : World}
    (accounted : Accounted site start world) (other : msgSender ≠ site.hook)
    (result : site.setReward world msgSender msgValue = .ok after) :
    Accounted site start after := by
  have received := World.transfer_to_hook world other msgValue
  unfold Site.setReward at result
  split at result
  · simp only at result
    split at result
    · cases result
      change start + (msgValue + rewardsSet world.log) ≤
        (world.transfer msgSender site.hook msgValue).balance site.hook + paidOut world.log
      unfold Accounted at accounted
      omega
    · cases result
      exact accounted.congr rfl (by omega)
  · cases result

end Worlds

section Calls

variable {site : Site} {start : Nat} {machine : Machine} {activation : Activation}
  {saved : World}

theorem Balanced.push (balanced : Balanced site start machine) (frame : Frame)
    (before : Accounted site start frame.saved) :
    Balanced site start { machine with stack := frame :: machine.stack } := by
  refine ⟨balanced.world, ?_⟩
  intro other member
  rcases List.mem_cons.mp member with rfl | member
  · exact before
  · exact balanced.saved other member

theorem Balanced.returns (balanced : Balanced site start machine)
    (before : Accounted site start saved) (swap : Option Swap) :
    Balanced site start (site.returns machine swap saved) := by
  cases swap with
  | none => exact balanced
  | some swap =>
      have pushed := balanced.push (.pool saved) before
      exact ⟨balanced.world.congr rfl (Nat.le_refl _), pushed.saved⟩

theorem Balanced.send (balanced : Balanced site start machine)
    (before : Accounted site start saved) (point : Point) (recipient : Address) (value : Nat) :
    Balanced site start (site.send machine activation point saved recipient value) := by
  have sending := balanced.push (.sending activation point saved) before
  have running := sending.push (.code machine.world) balanced.world
  exact ⟨balanced.world.paid activation.swap recipient value, running.saved⟩

theorem Balanced.thirdSend (balanced : Balanced site start machine)
    (before : Accounted site start saved) :
    Balanced site start (site.thirdSend machine activation saved) := by
  unfold Site.thirdSend
  split
  · exact balanced.send before _ _ _
  · exact balanced.returns before _

theorem Balanced.secondSend (balanced : Balanced site start machine)
    (before : Accounted site start saved) :
    Balanced site start (site.secondSend machine activation saved) := by
  unfold Site.secondSend
  split
  · exact balanced.send before _ _ _
  · exact balanced.thirdSend before

theorem Balanced.firstSend (balanced : Balanced site start machine)
    (before : Accounted site start saved) :
    Balanced site start (site.firstSend machine activation saved) := by
  unfold Site.firstSend
  split
  · exact balanced.send before _ _ _
  · exact balanced.secondSend before

theorem Balanced.resume (balanced : Balanced site start machine)
    (before : Accounted site start saved) (point : Point) :
    Balanced site start (site.resume machine activation saved point) := by
  cases point with
  | first => exact balanced.secondSend before
  | second => exact balanced.thirdSend before
  | third => exact balanced.returns before _

theorem Balanced.firstReward {next : Machine} {swap : Option Swap} {params : SwapParams}
    {hookData : List UInt8} (balanced : Balanced site start machine)
    (before : Accounted site start saved)
    (result : site.firstReward machine swap params hookData saved = .ok next) :
    Balanced site start next := by
  simp only [Site.firstReward, Evm.bind_ok_iff, Evm.require_ok_iff] at result
  obtain ⟨_, _, result⟩ := result
  split at result
  · cases result
    exact balanced.returns before swap
  · simp only [Evm.bind_ok_iff] at result
    obtain ⟨recipient, _, reward, _, result⟩ := result
    cases result
    exact balanced.firstSend before

theorem Balanced.beforeSwap {next : Machine} {msgSender : Address} {key : PoolKey}
    {params : SwapParams} {hookData : List UInt8} (balanced : Balanced site start machine)
    (before : Accounted site start saved)
    (result : site.beforeSwap machine msgSender key params hookData saved = .ok next) :
    Balanced site start next := by
  simp only [Site.beforeSwap, Evm.bind_ok_iff, Evm.require_ok_iff] at result
  obtain ⟨_, _, result⟩ := result
  have opened : Accounted site start { machine.world with unlock := true } :=
    balanced.world.congr rfl (Nat.le_refl _)
  split at result
  · have begun : Balanced site start
        { machine with
          world := { machine.world with unlock := true }.mark
            (.began ⟨machine.world.log.length, key, params⟩) } := ⟨opened, balanced.saved⟩
    exact begun.firstReward before result
  · cases result
    have pushed := balanced.push (.pool saved) before
    exact ⟨opened, pushed.saved⟩

theorem Balanced.attempt {result : Outcome Machine} (balanced : Balanced site start machine)
    (keeps : ∀ next, result = .ok next → Balanced site start next) :
    Balanced site start (machine.attempt result) := by
  cases result with
  | error reason => exact balanced
  | ok next => exact keeps next rfl

theorem Balanced.attemptWorld {result : Outcome World} (balanced : Balanced site start machine)
    (keeps : ∀ world, result = .ok world → Accounted site start world) :
    Balanced site start (machine.attemptWorld result) := by
  cases result with
  | error reason => exact balanced
  | ok world => exact ⟨keeps world rfl, balanced.saved⟩

theorem Balanced.setLuckyPool {luckyPool : PoolId} (balanced : Balanced site start machine) :
    Balanced site start (machine.attemptWorld (machine.world.setLuckyPool luckyPool)) := by
  apply balanced.attemptWorld
  intro world result
  simp only [World.setLuckyPool, Evm.bind_ok_iff, Evm.require_ok_iff] at result
  obtain ⟨_, _, result⟩ := result
  cases result
  exact balanced.world.congr rfl (Nat.le_refl _)

theorem Balanced.afterSwap {msgSender : Address} {world : World}
    (balanced : Balanced site start machine) (accounted : Accounted site start world) :
    Balanced site start (machine.attemptWorld (site.afterSwap world msgSender)) := by
  apply balanced.attemptWorld
  intro after result
  simp only [Site.afterSwap, Evm.bind_ok_iff, Evm.require_ok_iff] at result
  obtain ⟨_, _, result⟩ := result
  cases result
  exact accounted.congr rfl (Nat.le_refl _)

theorem Balanced.finish {below : List Frame} {succeeds : Bool}
    (balanced : Balanced site start machine) (stack : machine.stack = .code saved :: below) :
    Balanced site start (machine.finish site saved below succeeds) := by
  have stacked := balanced.saved
  rw [stack] at stacked
  have after : Accounted site start (if succeeds then machine.world else saved) := by
    split
    · exact balanced.world
    · exact stacked (.code saved) List.mem_cons_self
  have rest : ∀ frame ∈ below, Accounted site start frame.saved :=
    fun frame member => stacked frame (List.mem_cons_of_mem _ member)
  unfold Machine.finish
  simp only
  split
  · rename_i activation point before deeper
    apply Balanced.resume
    · exact ⟨after, fun frame member => rest frame (List.mem_cons_of_mem _ member)⟩
    · exact rest (.sending activation point before) List.mem_cons_self
  · exact ⟨after, rest⟩

theorem Balanced.exhaust {below : List Frame} (balanced : Balanced site start machine)
    (stack : machine.stack = .code saved :: below) :
    Balanced site start (machine.exhaust below) := by
  have stacked := balanced.saved
  rw [stack] at stacked
  unfold Machine.exhaust
  split
  · rename_i activation point before rest
    refine ⟨stacked (.sending activation point before) (by simp), ?_⟩
    intro frame member
    exact stacked frame (List.mem_cons_of_mem _ (List.mem_cons_of_mem _ member))
  · exact balanced

theorem Balanced.act {below : List Frame} {event : Event}
    (balanced : Balanced site start machine) (stack : machine.stack = .code saved :: below)
    (foreign : event.Foreign site) :
    Balanced site start (machine.act site saved below event) := by
  cases event with
  | transact origin => exact balanced
  | call => exact balanced.push (.code machine.world) balanced.world
  | finish succeeds => exact balanced.finish stack
  | exhaust => exact balanced.exhaust stack
  | fund balance forced =>
      have grown : machine.world.balance site.hook ≤
          update balance site.hook (machine.world.balance site.hook + forced) site.hook := by
        rw [Function.update_self]
        omega
      exact ⟨balanced.world.congr rfl grown, balanced.saved⟩
  | setLuckyPool luckyPool => exact balanced.setLuckyPool
  | setReward msgSender msgValue =>
      apply balanced.attemptWorld
      intro world result
      exact balanced.world.setReward foreign result
  | swap key params hookData =>
      exact balanced.attempt fun next result => balanced.beforeSwap balanced.world result
  | settle succeeds => exact balanced
  | firstReward params hookData =>
      exact balanced.attempt fun next result => balanced.firstReward balanced.world result
  | beforeSwap msgSender key params hookData =>
      simp only [Machine.act]
      split
      · exact balanced
      · exact balanced.attempt fun next result => balanced.beforeSwap balanced.world result
  | afterSwap msgSender =>
      simp only [Machine.act]
      split
      · exact balanced
      · exact balanced.afterSwap balanced.world

/-- Calls, reentrant ones and those that revert included, keep the books right. -/
theorem Balanced.step {event : Event} (balanced : Balanced site start machine)
    (foreign : event.Foreign site) : Balanced site start (machine.step site event) := by
  cases stack : machine.stack with
  | nil =>
      unfold Machine.step
      rw [stack]
      simp only
      split
      · exact ⟨balanced.world, by simpa [Frame.saved] using balanced.world⟩
      · exact balanced
  | cons frame below =>
      have stacked := balanced.saved
      rw [stack] at stacked
      have rest : ∀ other ∈ below, Accounted site start other.saved :=
        fun other member => stacked other (List.mem_cons_of_mem _ member)
      cases frame with
      | code saved =>
          have acted := balanced.act stack foreign
          simpa only [Machine.step, stack] using acted
      | sending activation point saved => simpa only [Machine.step, stack] using balanced
      | pool saved =>
          unfold Machine.step
          rw [stack]
          simp only
          split
          · have popped : Balanced site start { machine with stack := below } :=
              ⟨balanced.world, rest⟩
            exact popped.afterSwap balanced.world
          · exact ⟨stacked (.pool saved) List.mem_cons_self, rest⟩
          · exact balanced

end Calls

/-- In every run the hook loses no ETH but what its payouts say. -/
theorem run_accounted (site : Site) (balance : Address → Nat) (events : List Event)
    (foreign : ∀ event ∈ events, event.Foreign site) :
    Accounted site (balance site.hook)
      (events.foldl (Machine.step site) (.start balance)).world := by
  have start : Balanced site (balance site.hook) (.start balance) :=
    ⟨Nat.le_refl _, by simp [Machine.start]⟩
  have ended : Balanced site (balance site.hook)
      (events.foldl (Machine.step site) (.start balance)) := by
    refine List.foldlRecOn events _ start ?_
    intro machine balanced event member
    exact balanced.step (foreign event member)
  exact ended.world

end Tutori4l
