import BlazCtf.Lib.Run
import BlazCtf.Tutori4l.Payments

set_option autoImplicit false

namespace Tutori4l

open Evm (Address Outcome Follows)
open Function (update)

/-- The last mark about a pool, the newest first, is a `set_reward` of at least one ether:
its flag has not been used by a `beforeSwap` since. -/
def Unused (site : Site) (pool : PoolId) : List Mark → Prop
  | [] => False
  | .rewardSet other value :: earlier =>
      (other = pool ∧ ether ≤ value) ∨ (other ≠ pool ∧ Unused site pool earlier)
  | .began swap :: earlier => site.toId swap.key ≠ pool ∧ Unused site pool earlier
  | .paid _ _ :: earlier => Unused site pool earlier

/-- What a swap has to be for a payout of this size. -/
structure Swap.Earns (swap : Swap) (value : Nat) : Prop where
  zeroForOne : swap.params.zeroForOne
  inEther : swap.key.currency0 = 0
  large : swap.params.amountSpecified.toInt < -ether
  share : value ≤ (swap.params.amountSpecified.toInt.natAbs - ether) / 1000

/-- A payout is made in a `beforeSwap` that earns it, and a `beforeSwap` that pays
begins with a flag that no other one has used. -/
def Mark.Justified (site : Site) (earlier : List Mark) : Mark → Prop
  | .rewardSet _ _ => True
  | .began swap => swap.number = earlier.length ∧ Unused site (site.toId swap.key) earlier
  | .paid swap value => 0 < value →
      ∃ paying, swap = some paying ∧ .began paying ∈ earlier ∧ paying.Earns value

def Justified (site : Site) : List Mark → Prop
  | [] => True
  | mark :: earlier => mark.Justified site earlier ∧ Justified site earlier

/-- A `beforeSwap` of the pool is making its transfers. -/
def Frame.pays (site : Site) (pool : PoolId) : Frame → Prop
  | .sending activation _ _ => ∃ swap ∈ activation.swap, site.toId swap.key = pool
  | _ => False

instance instDecidablePays (site : Site) (pool : PoolId) : DecidablePred (Frame.pays site pool)
  | .sending _ _ _ => inferInstanceAs (Decidable (∃ _ ∈ _, _))
  | .code _ => isFalse id
  | .pool _ => isFalse id

/-- What `first_reward` computes from its arguments, if it does not revert. -/
def arguments? (params : SwapParams) (hookData : List UInt8) : Option (Address × Nat) := do
  let recipient ← (decodeAddress hookData).toOption
  let reward ← (maxReward params.amountSpecified).toOption
  return (recipient, reward)

/-- The second transfer, of the whole balance, is not made or is no larger than the
others may be. -/
def SecondWithin (site : Site) (world : World) (recipient : Address) (reward : Nat) : Prop :=
  world.balance recipient = 0 ∨ world.balance site.hook ≤ reward

instance instDecidableSecondWithin (site : Site) (world : World) (recipient : Address)
    (reward : Nat) : Decidable (SecondWithin site world recipient reward) :=
  inferInstanceAs (Decidable (_ ∨ _))

/-- The code on top of the stack has been sent the first transfer of `first_reward`. -/
def firstPending : List Frame → Option (World × Activation)
  | .code saved :: .sending activation .first _ :: _ => some (saved, activation)
  | _ => none

/-- What may not happen: a `first_reward` from outside that gets to its transfers, a
second transfer that is too large, and a swap for a reward while another one of the same
pool is making its transfers. -/
def Allowed (site : Site) (machine : Machine) : Event → Prop
  | .firstReward params hookData => machine.world.unlock → hookData.length = 0x20 →
      arguments? params hookData = none
  | .swap key params hookData => site.Rewarded machine.world key params →
      (∀ frame ∈ machine.stack, ¬ frame.pays site (site.toId key)) ∧
        (hookData.length = 0x20 → ∀ decoded ∈ arguments? params hookData,
          ¬ (machine.origin = decoded.1 ∧ decoded.1 ≠ site.hook) →
            SecondWithin site machine.world decoded.1 decoded.2)
  | .finish succeeds => ∀ pending ∈ firstPending machine.stack,
      SecondWithin site (if succeeds then machine.world else pending.1) pending.2.recipient
        pending.2.maxReward
  | _ => True

instance instDecidableAllowed (site : Site) (machine : Machine) :
    DecidablePred (Allowed site machine)
  | .firstReward _ _ => inferInstanceAs (Decidable (_ → _))
  | .swap _ _ _ => inferInstanceAs (Decidable (_ → _ ∧ _))
  | .finish _ => inferInstanceAs (Decidable (∀ _ ∈ _, _))
  | .transact _ | .call | .exhaust | .fund _ _ | .setLuckyPool _ | .setReward _ _ | .settle _
  | .beforeSwap _ _ _ _ | .afterSwap _ => isTrue trivial

/-- What holds of a world below which these calls have not returned. -/
structure Sound (site : Site) (world : World) (stack : List Frame) : Prop where
  justified : Justified site world.log
  flags : ∀ pool, world.hasReward pool →
    Unused site pool world.log ∨ ∃ frame ∈ stack, frame.pays site pool
  calls : ∀ activation point saved, .sending activation point saved ∈ stack →
    ∃ swap, activation.swap = some swap ∧ .began swap ∈ world.log ∧
      swap.Earns activation.maxReward

/-- Every call can go back to a sound world. -/
def Stacked (site : Site) : List Frame → Prop
  | [] => True
  | frame :: below => Sound site frame.saved below ∧ Stacked site below

structure Steady (site : Site) (machine : Machine) : Prop where
  world : Sound site machine.world machine.stack
  stack : Stacked site machine.stack

section Worlds

variable {site : Site} {world : World} {stack : List Frame}

/-- Balances, the lock and the choice of the lucky pool play no part. -/
theorem Sound.congr {after : World} (sound : Sound site world stack)
    (log : after.log = world.log) (flags : after.hasReward = world.hasReward) :
    Sound site after stack := by
  refine ⟨?_, ?_, ?_⟩
  · rw [log]
    exact sound.justified
  · rw [log, flags]
    exact sound.flags
  · rw [log]
    exact sound.calls

/-- A frame that is not `first_reward` has no part either. -/
theorem Sound.push (sound : Sound site world stack) {frame : Frame}
    (other : ∀ activation point saved, frame ≠ .sending activation point saved) :
    Sound site world (frame :: stack) := by
  refine ⟨sound.justified, ?_, ?_⟩
  · intro pool set
    rcases sound.flags pool set with unused | ⟨paying, member, pays⟩
    · exact Or.inl unused
    · exact Or.inr ⟨paying, List.mem_cons_of_mem _ member, pays⟩
  · intro activation point saved member
    rcases List.mem_cons.mp member with same | member
    · exact absurd same.symm (other activation point saved)
    · exact sound.calls activation point saved member

theorem Sound.pop {frame : Frame} (sound : Sound site world (frame :: stack))
    (other : ∀ pool, ¬ frame.pays site pool) : Sound site world stack := by
  refine ⟨sound.justified, ?_, ?_⟩
  · intro pool set
    rcases sound.flags pool set with unused | ⟨paying, member, pays⟩
    · exact Or.inl unused
    · rcases List.mem_cons.mp member with rfl | member
      · exact absurd pays (other pool)
      · exact Or.inr ⟨paying, member, pays⟩
  · intro activation point saved member
    exact sound.calls activation point saved (List.mem_cons_of_mem _ member)

/-- Which transfer is made plays no part. -/
theorem Sound.repoint {activation : Activation} {point : Point} {saved : World}
    (sound : Sound site world (.sending activation point saved :: stack)) (other : Point) :
    Sound site world (.sending activation other saved :: stack) := by
  refine ⟨sound.justified, ?_, ?_⟩
  · intro pool set
    rcases sound.flags pool set with unused | ⟨frame, member, pays⟩
    · exact Or.inl unused
    · rcases List.mem_cons.mp member with rfl | member
      · exact Or.inr ⟨_, List.mem_cons_self, pays⟩
      · exact Or.inr ⟨frame, List.mem_cons_of_mem _ member, pays⟩
  · intro inner at_ before member
    rcases List.mem_cons.mp member with same | member
    · cases same
      exact sound.calls activation point saved List.mem_cons_self
    · exact sound.calls inner at_ before (List.mem_cons_of_mem _ member)

/-- The flag of a pool is set anew. -/
theorem Sound.rewardSet (sound : Sound site world stack) {pool : PoolId} {value : Nat}
    (enough : ether ≤ value) :
    Sound site ({ world with hasReward := update world.hasReward pool true }.mark
      (.rewardSet pool value)) stack := by
  refine ⟨⟨trivial, sound.justified⟩, ?_, ?_⟩
  · intro other set
    by_cases same : pool = other
    · exact Or.inl (Or.inl ⟨same, enough⟩)
    · have before : world.hasReward other = true := by
        simpa only [World.mark, Function.update_of_ne (Ne.symm same)] using set
      rcases sound.flags other before with unused | paying
      · exact Or.inl (Or.inr ⟨same, unused⟩)
      · exact Or.inr paying
  · intro activation point saved member
    obtain ⟨swap, inside, began, earns⟩ := sound.calls activation point saved member
    exact ⟨swap, inside, List.mem_cons_of_mem _ began, earns⟩

/-- A `beforeSwap` begins with the flag of its pool set, when no other one of the pool is
under way. -/
theorem Sound.began (sound : Sound site world stack) {swap : Swap} {activation : Activation}
    {point : Point} {saved : World} (number : swap.number = world.log.length)
    (set : world.hasReward (site.toId swap.key))
    (alone : ∀ frame ∈ stack, ¬ frame.pays site (site.toId swap.key))
    (inside : activation.swap = some swap) (earns : swap.Earns activation.maxReward) :
    Sound site (world.mark (.began swap)) (.sending activation point saved :: stack) := by
  refine ⟨⟨⟨number, ?_⟩, sound.justified⟩, ?_, ?_⟩
  · rcases sound.flags _ set with unused | ⟨frame, member, pays⟩
    · exact unused
    · exact absurd pays (alone frame member)
  · intro pool flag
    by_cases same : site.toId swap.key = pool
    · exact Or.inr ⟨_, List.mem_cons_self, swap, inside, same⟩
    · rcases sound.flags pool flag with unused | ⟨frame, member, pays⟩
      · exact Or.inl ⟨same, unused⟩
      · exact Or.inr ⟨frame, List.mem_cons_of_mem _ member, pays⟩
  · intro other at_ before member
    rcases List.mem_cons.mp member with same | member
    · cases same
      exact ⟨swap, inside, List.mem_cons_self, earns⟩
    · obtain ⟨outer, within, began, share⟩ := sound.calls other at_ before member
      exact ⟨outer, within, List.mem_cons_of_mem _ began, share⟩

theorem Swap.Earns.mono {swap : Swap} {reward value : Nat} (earns : swap.Earns reward)
    (less : value ≤ reward) : swap.Earns value :=
  ⟨earns.zeroForOne, earns.inEther, earns.large, Nat.le_trans less earns.share⟩

/-- ETH leaves in the innermost `first_reward`. -/
theorem Sound.paid {activation : Activation} {point : Point} {saved : World} {value : Nat}
    (sound : Sound site world (.sending activation point saved :: stack))
    (within : value ≤ activation.maxReward) :
    Sound site (world.mark (.paid activation.swap value))
      (.sending activation point saved :: stack) := by
  obtain ⟨swap, inside, began, earns⟩ := sound.calls activation point saved List.mem_cons_self
  refine ⟨⟨?_, sound.justified⟩, sound.flags, ?_⟩
  · intro _
    exact ⟨swap, inside, began, earns.mono within⟩
  · intro other at_ before member
    obtain ⟨outer, among, earlier, share⟩ := sound.calls other at_ before member
    exact ⟨outer, among, List.mem_cons_of_mem _ earlier, share⟩

end Worlds

section Sends

variable {site : Site} {machine : Machine} {activation : Activation} {saved : World}

/-- A `first_reward` in a `beforeSwap` runs: it is not on the stack, and counts as if it
were. -/
structure Running (site : Site) (machine : Machine) (activation : Activation) (saved : World) :
    Prop where
  world : ∀ point, Sound site machine.world (.sending activation point saved :: machine.stack)
  saved : Sound site saved machine.stack
  stack : Stacked site machine.stack

theorem Running.returns (running : Running site machine activation saved) :
    Steady site (site.returns machine activation.swap saved) := by
  have sound := running.world .third
  obtain ⟨swap, inside, -, -⟩ := sound.calls activation .third saved List.mem_cons_self
  rw [inside]
  refine ⟨⟨sound.justified, ?_, ?_⟩, running.saved, running.stack⟩
  · intro pool set
    by_cases same : pool = site.toId swap.key
    · subst same
      simp [Site.returns] at set
    · simp only [Site.returns, Function.update_of_ne same] at set
      rcases sound.flags pool set with unused | ⟨frame, member, pays⟩
      · exact Or.inl unused
      · rcases List.mem_cons.mp member with rfl | member
        · obtain ⟨other, among, pool⟩ := pays
          have only : swap = other := by
            rw [inside] at among
            exact Option.mem_some.mp among
          subst only
          exact absurd pool.symm same
        · exact Or.inr ⟨frame, List.mem_cons_of_mem _ member, pays⟩
  · intro other point before member
    rcases List.mem_cons.mp member with pool | member
    · cases pool
    · exact sound.calls other point before (List.mem_cons_of_mem _ member)

theorem Running.send (running : Running site machine activation saved) {point : Point}
    {recipient : Address} {value : Nat} (within : value ≤ activation.maxReward) :
    Steady site (site.send machine activation point saved recipient value) := by
  have sound := running.world point
  have moved : Sound site (machine.world.transfer site.hook recipient value)
      (.sending activation point saved :: machine.stack) := sound.congr rfl rfl
  exact ⟨(moved.paid within).push nofun, sound, running.saved, running.stack⟩

theorem Running.thirdSend (running : Running site machine activation saved) :
    Steady site (site.thirdSend machine activation saved) := by
  unfold Site.thirdSend
  split
  · exact running.send (Nat.min_le_left _ _)
  · exact running.returns

theorem Running.secondSend (running : Running site machine activation saved)
    (within : SecondWithin site machine.world activation.recipient activation.maxReward) :
    Steady site (site.secondSend machine activation saved) := by
  unfold Site.secondSend
  split
  · rename_i richer
    rcases within with empty | small
    · have positive := richer.1
      omega
    · exact running.send small
  · exact running.thirdSend

theorem Running.firstSend (running : Running site machine activation saved)
    (within : ¬ (machine.origin = activation.recipient ∧ activation.recipient ≠ site.hook) →
      SecondWithin site machine.world activation.recipient activation.maxReward) :
    Steady site (site.firstSend machine activation saved) := by
  unfold Site.firstSend
  split
  · exact running.send (Nat.min_le_left _ _)
  · rename_i skipped
    exact running.secondSend (within skipped)

theorem Running.resume (running : Running site machine activation saved) {point : Point}
    (within : point = .first →
      SecondWithin site machine.world activation.recipient activation.maxReward) :
    Steady site (site.resume machine activation saved point) := by
  cases point with
  | first => exact running.secondSend (within rfl)
  | second => exact running.thirdSend
  | third => exact running.returns

end Sends

/-- For an amount below one ether the wrong way round, nothing overflows. -/
theorem maxReward_eq {amountSpecified : BitVec 256} {reward : Nat}
    (large : amountSpecified.toInt < -ether) (computed : maxReward amountSpecified = .ok reward) :
    reward = (amountSpecified.toInt.natAbs - ether) / 1000 := by
  unfold maxReward at computed
  simp only at computed
  split at computed
  · cases computed
  split at computed
  · cases computed
  rename_i fits bounded
  have value : (-amountSpecified.toInt - ether) % 2 ^ 256 = -amountSpecified.toInt - ether := by
    apply Int.emod_eq_of_lt
    · omega
    · omega
  rw [value] at computed
  have reward_eq := Except.ok.inj computed
  have rest : (-amountSpecified.toInt - ether).toNat = amountSpecified.toInt.natAbs - ether := by
    omega
  rw [← reward_eq, rest]

theorem arguments?_eq {params : SwapParams} {hookData : List UInt8} {recipient : Address}
    {reward : Nat} (decoded : decodeAddress hookData = .ok recipient)
    (computed : maxReward params.amountSpecified = .ok reward) :
    arguments? params hookData = some (recipient, reward) := by
  simp only [arguments?, decoded, computed, Except.toOption, Option.bind_eq_bind,
    Option.bind_some, Option.pure_def]

section Calls

variable {site : Site} {machine : Machine}

theorem firstReward_refused {params : SwapParams} {hookData : List UInt8}
    (steady : Steady site machine) (allowed : Allowed site machine (.firstReward params hookData)) :
    Steady site
      (machine.attempt (site.firstReward machine none params hookData machine.world)) := by
  cases result : site.firstReward machine none params hookData machine.world with
  | error reason => exact steady
  | ok next =>
      simp only [Site.firstReward, Evm.bind_ok_iff, Evm.require_ok_iff] at result
      obtain ⟨_, unlocked, result⟩ := result
      split at result
      · cases result
        exact steady
      · rename_i length
        simp only [Evm.bind_ok_iff] at result
        obtain ⟨recipient, decoded, reward, computed, _⟩ := result
        have refused := allowed unlocked (not_not.mp length)
        rw [arguments?_eq decoded computed] at refused
        cases refused

/-- A swap for a reward reaches `first_reward` with its mark made. -/
theorem swap_running {key : PoolKey} {params : SwapParams} {hookData : List UInt8}
    (steady : Steady site machine) (allowed : Allowed site machine (.swap key params hookData))
    (rewarded : site.Rewarded machine.world key params) (recipient : Address) {reward : Nat}
    (share : reward ≤ (params.amountSpecified.toInt.natAbs - ether) / 1000) :
    Running site
      { machine with
        world := { machine.world with unlock := true }.mark
          (.began ⟨machine.world.log.length, key, params⟩) }
      ⟨some ⟨machine.world.log.length, key, params⟩, recipient, reward⟩ machine.world := by
  refine ⟨?_, steady.world, steady.stack⟩
  intro point
  have opened : Sound site { machine.world with unlock := true } machine.stack :=
    steady.world.congr rfl rfl
  exact opened.began rfl rewarded.1 (allowed rewarded).1 rfl
    ⟨rewarded.2.1, rewarded.2.2.1, rewarded.2.2.2, share⟩

theorem beforeSwap_steady {key : PoolKey} {params : SwapParams} {hookData : List UInt8}
    (steady : Steady site machine) (allowed : Allowed site machine (.swap key params hookData)) :
    Steady site (machine.attempt
      (site.beforeSwap machine site.poolManager key params hookData machine.world)) := by
  cases result : site.beforeSwap machine site.poolManager key params hookData machine.world with
  | error reason => exact steady
  | ok next =>
      simp only [Site.beforeSwap, Evm.bind_ok_iff, Evm.require_ok_iff] at result
      obtain ⟨_, _, result⟩ := result
      split at result
      · rename_i rewarded
        have rewarded : site.Rewarded machine.world key params := rewarded
        simp only [Site.firstReward, Evm.bind_ok_iff, Evm.require_ok_iff] at result
        obtain ⟨_, _, result⟩ := result
        split at result
        · cases result
          exact (swap_running steady allowed rewarded 0 (Nat.zero_le _)).returns
        · rename_i length
          simp only [Evm.bind_ok_iff] at result
          obtain ⟨recipient, decoded, reward, computed, result⟩ := result
          cases result
          have share := maxReward_eq rewarded.2.2.2 computed
          apply (swap_running steady allowed rewarded recipient (Nat.le_of_eq share)).firstSend
          exact (allowed rewarded).2 (not_not.mp length) (recipient, reward)
            (arguments?_eq decoded computed)
      · cases result
        have opened : Sound site { machine.world with unlock := true } machine.stack :=
          steady.world.congr rfl rfl
        exact ⟨opened.push (by simp), steady.world, steady.stack⟩

/-- A call of another account's code, or of the hook's other functions, that returns. -/
theorem attemptWorld_steady {result : Outcome World} (steady : Steady site machine)
    (keeps : ∀ world, result = .ok world → Sound site world machine.stack) :
    Steady site (machine.attemptWorld result) := by
  cases result with
  | error reason => exact steady
  | ok world => exact ⟨keeps world rfl, steady.stack⟩

theorem setLuckyPool_steady {luckyPool : PoolId} (steady : Steady site machine) :
    Steady site (machine.attemptWorld (machine.world.setLuckyPool luckyPool)) := by
  apply attemptWorld_steady steady
  intro world result
  simp only [World.setLuckyPool, Evm.bind_ok_iff, Evm.require_ok_iff] at result
  obtain ⟨_, _, result⟩ := result
  cases result
  exact steady.world.congr rfl rfl

theorem setReward_steady {msgSender : Address} {msgValue : Nat} (steady : Steady site machine) :
    Steady site (machine.attemptWorld (site.setReward machine.world msgSender msgValue)) := by
  apply attemptWorld_steady steady
  intro world result
  have received : Sound site (machine.world.transfer msgSender site.hook msgValue) machine.stack :=
    steady.world.congr rfl rfl
  unfold Site.setReward at result
  split at result
  · simp only at result
    split at result
    · rename_i enough
      cases result
      exact received.rewardSet enough
    · cases result
      exact received
  · cases result

theorem finish_steady {saved : World} {below : List Frame} {succeeds : Bool}
    (steady : Steady site machine) (stack : machine.stack = .code saved :: below)
    (allowed : Allowed site machine (.finish succeeds)) :
    Steady site (machine.finish site saved below succeeds) := by
  have world := steady.world
  have stacked := steady.stack
  rw [stack] at world stacked
  have after : Sound site (if succeeds then machine.world else saved) below := by
    split
    · exact world.pop fun _ => id
    · exact stacked.1
  unfold Machine.finish
  simp only
  split
  · rename_i activation point before rest
    have running : Running site
        { machine with world := if succeeds then machine.world else saved, stack := rest }
        activation before := by
      refine ⟨?_, stacked.2.1, stacked.2.2⟩
      intro other
      exact after.repoint other
    apply running.resume
    intro first
    subst first
    apply allowed (saved, activation)
    rw [stack]
    rfl
  · exact ⟨after, stacked.2⟩

theorem exhaust_steady {saved : World} {below : List Frame} (steady : Steady site machine)
    (stack : machine.stack = .code saved :: below) : Steady site (machine.exhaust below) := by
  have stacked := steady.stack
  rw [stack] at stacked
  unfold Machine.exhaust
  split
  · exact ⟨stacked.2.1, stacked.2.2⟩
  · exact steady

/-- Nobody but the pool manager gets past the first line of the callbacks. -/
theorem beforeSwap_refused {msgSender : Address} {key : PoolKey} {params : SwapParams}
    {hookData : List UInt8} {saved : World} (other : msgSender ≠ site.poolManager) :
    machine.attempt (site.beforeSwap machine msgSender key params hookData saved) = machine := by
  simp [Site.beforeSwap, Evm.require, other, bind, Except.bind, Machine.attempt]

theorem afterSwap_refused {msgSender : Address} {world : World}
    (other : msgSender ≠ site.poolManager) :
    machine.attemptWorld (site.afterSwap world msgSender) = machine := by
  simp [Site.afterSwap, Evm.require, other, bind, Except.bind, Except.map, Machine.attempt,
    Machine.attemptWorld]

theorem act_steady {saved : World} {below : List Frame} {event : Event}
    (steady : Steady site machine) (stack : machine.stack = .code saved :: below)
    (allowed : Allowed site machine event) :
    Steady site (machine.act site saved below event) := by
  cases event with
  | transact origin => exact steady
  | call => exact ⟨steady.world.push nofun, steady.world, steady.stack⟩
  | finish succeeds => exact finish_steady steady stack allowed
  | exhaust => exact exhaust_steady steady stack
  | fund balance forced => exact ⟨steady.world.congr rfl rfl, steady.stack⟩
  | setLuckyPool luckyPool => exact setLuckyPool_steady steady
  | setReward msgSender msgValue => exact setReward_steady steady
  | swap key params hookData => exact beforeSwap_steady steady allowed
  | settle succeeds => exact steady
  | firstReward params hookData => exact firstReward_refused steady allowed
  | beforeSwap msgSender key params hookData =>
      simp only [Machine.act]
      split
      · exact steady
      · rename_i other
        rw [beforeSwap_refused other]
        exact steady
  | afterSwap msgSender =>
      simp only [Machine.act]
      split
      · exact steady
      · rename_i other
        rw [afterSwap_refused other]
        exact steady

theorem settle_steady {saved : World} {below : List Frame} {event : Event}
    (steady : Steady site machine) (stack : machine.stack = .pool saved :: below) :
    Steady site (machine.step site event) := by
  have world := steady.world
  have stacked := steady.stack
  rw [stack] at world stacked
  have ended : Sound site machine.world below := world.pop fun _ => id
  unfold Machine.step
  rw [stack]
  simp only
  split
  · simp only [Site.afterSwap, Evm.require, Machine.attemptWorld, Machine.attempt, bind,
      Except.bind, Except.map, ↓reduceIte, pure, Except.pure]
    exact ⟨ended.congr rfl rfl, stacked.2⟩
  · exact ⟨stacked.1, stacked.2⟩
  · exact steady

theorem Steady.step {event : Event} (steady : Steady site machine)
    (allowed : Allowed site machine event) : Steady site (machine.step site event) := by
  cases stack : machine.stack with
  | nil =>
      unfold Machine.step
      rw [stack]
      simp only
      split
      · have world := steady.world
        rw [stack] at world
        exact ⟨world.push nofun, world, trivial⟩
      · exact steady
  | cons frame below =>
      cases frame with
      | code saved =>
          have acted := act_steady steady stack allowed
          simpa only [Machine.step, stack] using acted
      | sending activation point saved => simpa only [Machine.step, stack] using steady
      | pool saved => exact settle_steady steady stack

end Calls

theorem Steady.of_start (site : Site) (balance : Address → Nat) :
    Steady site (.start balance) := by
  refine ⟨⟨trivial, ?_, ?_⟩, trivial⟩
  · intro pool set
    cases set
  · intro activation point saved member
    cases member

/-- In every run in which `first_reward` is not called from outside while the lock is
open, the second transfer is not larger than the reward, and no swap for a reward is made
inside the transfers of another one of the same pool: each payout is made in a
`beforeSwap` of a swap that earns it, and each of those has a `set_reward` of its own. In
every run the hook loses no ETH but by its payouts. -/
theorem payouts_justified (site : Site) (balance : Address → Nat) (events : List Event)
    (follows : Follows (Allowed site) (Machine.step site) (.start balance) events) :
    Justified site (events.foldl (Machine.step site) (.start balance)).world.log ∧
      ((∀ event ∈ events, event.Foreign site) →
        Accounted site (balance site.hook)
          (events.foldl (Machine.step site) (.start balance)).world) := by
  refine ⟨?_, run_accounted site balance events⟩
  have steady : Steady site (events.foldl (Machine.step site) (.start balance)) :=
    Evm.foldl_invariant_of_follows (Steady site) (fun _ _ holds allowed => holds.step allowed)
      events _ (Steady.of_start site balance) follows
  exact steady.world.justified

def sampleSite : Site := ⟨1000, 2000, fun key => BitVec.ofNat 256 key.currency1.val⟩

def sampleKey : PoolKey := ⟨0, 60, 0, 10, 1000⟩

/-- A zero-for-one swap that gives this much. -/
def giving (amount : Nat) : SwapParams := ⟨true, BitVec.ofInt 256 (-amount), 0⟩

/-- Account 99 has two ether. -/
def sampleBalance : Address → Nat := update (fun _ => 0) 99 (2 * ether)

/-- The reward of the pool is set, and a swap of 1.1 ether asks to pay it to account 50. -/
def rewardedSwap : List Event :=
  [.transact 99, .setLuckyPool 60, .setReward 99 ether,
    .swap sampleKey (giving (11 * 10 ^ 17)) (Bytes.toBE 32 50)]

/-- Account 50 takes the reward and returns. -/
def plainRun : List Event := rewardedSwap ++ [.finish true, .settle true, .finish true]

/-- Account 50 passes the ETH on and calls `first_reward` for a large swap. -/
def reentrantRun : List Event :=
  rewardedSwap ++
    [.fund (update (fun _ => 0) 99 (ether + 10 ^ 14)) 0,
      .firstReward (giving (10 ^ 30)) (Bytes.toBE 32 50), .finish true, .finish true,
      .settle true, .finish true]

theorem plain_run_justified :
    (plainRun.foldl (Machine.step sampleSite) (.start sampleBalance)).world.log =
        [.paid (some ⟨1, sampleKey, giving (11 * 10 ^ 17)⟩) (10 ^ 14),
          .began ⟨1, sampleKey, giving (11 * 10 ^ 17)⟩, .rewardSet 60 ether] ∧
      Justified sampleSite
        (plainRun.foldl (Machine.step sampleSite) (.start sampleBalance)).world.log ∧
      Accounted sampleSite 0
        (plainRun.foldl (Machine.step sampleSite) (.start sampleBalance)).world := by
  have plain := payouts_justified sampleSite sampleBalance plainRun (by decide +kernel)
  exact ⟨by decide +kernel, plain.1, plain.2 (by decide +kernel)⟩

/-- The transaction succeeds, and the rest of the hook's ETH has left in a call of
`first_reward` that no `beforeSwap` made. -/
theorem reentrant_run_unjustified :
    (reentrantRun.foldl (Machine.step sampleSite) (.start sampleBalance)).stack.length = 0 ∧
      (reentrantRun.foldl (Machine.step sampleSite) (.start sampleBalance)).world.log.head? =
        some (.paid none (ether - 10 ^ 14)) ∧
      ¬ Justified sampleSite
        (reentrantRun.foldl (Machine.step sampleSite) (.start sampleBalance)).world.log := by
  have log : (reentrantRun.foldl (Machine.step sampleSite) (.start sampleBalance)).world.log =
      [.paid none (ether - 10 ^ 14),
        .paid (some ⟨1, sampleKey, giving (11 * 10 ^ 17)⟩) (10 ^ 14),
        .began ⟨1, sampleKey, giving (11 * 10 ^ 17)⟩, .rewardSet 60 ether] := by
    decide +kernel
  refine ⟨by decide +kernel, by rw [log]; rfl, ?_⟩
  rw [log]
  intro justified
  obtain ⟨paying, inside, -⟩ := justified.1 (by decide)
  cases inside

end Tutori4l
