import BlazCtf.Orchestrator.Agreement

set_option autoImplicit false

namespace Orchestrator

open Evm (Follows)
open Function (update)

/-- Where a worker stands between two commands to Redis. -/
inductive Worker where
  | idle
  /-- `launch_instance` has found no instance with this id and is starting one. -/
  | launching (instanceId : String)
  /-- The pipeline of `register_instance` has not been executed yet. -/
  | registering (instance_ : UserData)
  /-- `get_expired_instances` has the ids and reads the instances one by one. -/
  | reading (todo : List String) (found : List (Option UserData))
  /-- `kill_instance` is called for these ids in turn; `None` has no id. -/
  | killing (todo : List (Option String))
  /-- `unregister_instance` has read the instance, its pipeline has not been executed. -/
  | unregistering (instanceId : String) (instance_ : UserData) (todo : List (Option String))

/-- The id whose stored record a worker has looked at and is about to write. -/
def Worker.holds : Worker → Option String
  | .launching instanceId => some instanceId
  | .registering instance_ => some instance_.instanceId
  | .unregistering instanceId _ _ => some instanceId
  | _ => none

/-- What an `unregister_instance` had read, and what its pipeline found to remove. -/
structure Removal where
  read : UserData
  removed : Option UserData

/-- Workers over one Redis. Kept beside them are the records that launches have made and
the removals so far, which no worker sees. -/
structure Fleet where
  db : RedisDatabase
  workers : Nat → Worker
  issued : List UserData
  removals : List Removal

def Fleet.start : Fleet := ⟨.empty, fun _ => .idle, [], []⟩

/-- The next step of a worker: a request reaches it, its launch ends, or it sends its
next command. -/
inductive Event where
  | launch (worker : Nat) (instanceId : String)
  | prepared (worker : Nat) (userData : UserData)
  | launchFailed (worker : Nat)
  | kill (worker : Nat) (instanceId : String)
  | prune (worker : Nat) (now : Int)
  | advance (worker : Nat)

def Event.worker : Event → Nat
  | .launch worker _ => worker
  | .prepared worker _ => worker
  | .launchFailed worker => worker
  | .kill worker _ => worker
  | .prune worker _ => worker
  | .advance worker => worker

namespace Fleet

variable (fleet : Fleet)

def move (worker : Nat) (next : Worker) : Fleet :=
  { fleet with workers := update fleet.workers worker next }

/-- The next command of a worker that is not waiting for a launch. -/
def advance (worker : Nat) : Fleet :=
  match fleet.workers worker with
  | .registering instance_ =>
      { fleet with db := fleet.db.register instance_ }.move worker .idle
  | .reading [] found => fleet.move worker (.killing (found.map (Option.map UserData.instanceId)))
  | .reading (instanceId :: todo) found =>
      fleet.move worker (.reading todo (found ++ [fleet.db.instance? instanceId]))
  | .killing [] => fleet.move worker .idle
  -- `instance["instance_id"]` raises on `None`, and the pruner starts over
  | .killing (none :: _) => fleet.move worker .idle
  | .killing (some instanceId :: todo) =>
      match fleet.db.instances.lookup instanceId with
      | none => fleet.move worker (.killing todo)
      | some instance_ => fleet.move worker (.unregistering instanceId instance_ todo)
  | .unregistering instanceId instance_ todo =>
      { fleet with
        db := fleet.db.unregister instanceId instance_
        removals := ⟨instance_, fleet.db.instances.lookup instanceId⟩ :: fleet.removals
      }.move worker (.killing todo)
  | .idle => fleet
  | .launching _ => fleet

def step : Event → Fleet
  | .launch worker instanceId =>
      match fleet.workers worker, fleet.db.instances.lookup instanceId with
      | .idle, none => fleet.move worker (.launching instanceId)
      | _, _ => fleet
  | .prepared worker userData =>
      match fleet.workers worker with
      | .launching instanceId =>
          { fleet with issued := { userData with instanceId } :: fleet.issued }.move worker
            (.registering { userData with instanceId })
      | _ => fleet
  | .launchFailed worker =>
      match fleet.workers worker with
      | .launching _ => fleet.move worker .idle
      | _ => fleet
  | .kill worker instanceId =>
      match fleet.workers worker with
      | .idle => fleet.move worker (.killing [some instanceId])
      | _ => fleet
  | .prune worker now =>
      match fleet.workers worker with
      | .idle => fleet.move worker (.reading (fleet.db.expired now) [])
      | _ => fleet
  | .advance worker => fleet.advance worker

end Fleet

/-- External ids are drawn fresh. -/
def Fresh (fleet : Fleet) : Event → Prop
  | .prepared _ userData => userData.externalId ∉ fleet.issued.map UserData.externalId
  | _ => True

instance instDecidableFresh (fleet : Fleet) : ∀ event, Decidable (Fresh fleet event)
  | .prepared _ _ => inferInstanceAs (Decidable (_ ∉ _))
  | .launch _ _ => isTrue trivial
  | .launchFailed _ => isTrue trivial
  | .kill _ _ => isTrue trivial
  | .prune _ _ => isTrue trivial
  | .advance _ => isTrue trivial

/-- An instance is registered only while no other worker stands between its own look at
that id and its pipeline for it. -/
def RegistersAlone (fleet : Fleet) : Event → Prop
  | .advance worker => ∀ instance_, fleet.workers worker = .registering instance_ →
      ∀ other, other ≠ worker → (fleet.workers other).holds ≠ some instance_.instanceId
  | _ => True

/-- What the position of a worker says about the store. -/
def Worker.Fits (db : RedisDatabase) (issued : List UserData) : Worker → Prop
  | .launching instanceId => db.instances.lookup instanceId = none
  | .registering instance_ =>
      instance_ ∈ issued ∧ db.instances.lookup instance_.instanceId = none
  | .unregistering instanceId instance_ _ =>
      instance_ ∈ issued ∧ instance_.instanceId = instanceId ∧
        ∀ stored, db.instances.lookup instanceId = some stored → stored = instance_
  | _ => True

structure Consistent (fleet : Fleet) : Prop where
  indexed : fleet.db.Indexed
  once : ∀ first ∈ fleet.issued, ∀ second ∈ fleet.issued,
    first.externalId = second.externalId → first = second
  stored : ∀ instanceId instance_, fleet.db.instances.lookup instanceId = some instance_ →
    instance_ ∈ fleet.issued
  workers : ∀ worker, (fleet.workers worker).Fits fleet.db fleet.issued
  removals : ∀ removal ∈ fleet.removals, ∀ removed, removal.removed = some removed →
    removed = removal.read

section Steps

variable {fleet : Fleet} {worker : Nat}

theorem Consistent.of_start : Consistent .start where
  indexed := RedisDatabase.Indexed.of_empty
  once := nofun
  stored := by
    intro instanceId instance_ stored
    cases stored
  workers := fun _ => trivial
  removals := nofun

/-- A worker that writes nothing only has to fit its new position. -/
theorem Consistent.move (consistent : Consistent fleet) {next : Worker}
    (fits : next.Fits fleet.db fleet.issued) : Consistent (fleet.move worker next) := by
  refine ⟨consistent.indexed, consistent.once, consistent.stored, ?_, consistent.removals⟩
  intro other
  by_cases same : other = worker
  · subst same
    simpa [Fleet.move] using fits
  · simpa [Fleet.move, Function.update_of_ne same] using consistent.workers other

theorem Worker.Fits.mono {db : RedisDatabase} {issued : List UserData} {position : Worker}
    {new : UserData} (fits : position.Fits db issued) : position.Fits db (new :: issued) := by
  cases position with
  | registering instance_ => exact ⟨List.mem_cons_of_mem _ fits.1, fits.2⟩
  | unregistering instanceId instance_ todo =>
      exact ⟨List.mem_cons_of_mem _ fits.1, fits.2⟩
  | launching instanceId => exact fits
  | idle | reading | killing => trivial

theorem Consistent.prepared (consistent : Consistent fleet) {instanceId : String}
    {userData : UserData} (launching : fleet.workers worker = .launching instanceId)
    (fresh : userData.externalId ∉ fleet.issued.map UserData.externalId) :
    Consistent ({ fleet with issued := { userData with instanceId } :: fleet.issued }.move worker
      (.registering { userData with instanceId })) := by
  have absent : fleet.db.instances.lookup instanceId = none := by
    have fits := consistent.workers worker
    rw [launching] at fits
    exact fits
  have unused : ∀ other ∈ fleet.issued, other.externalId ≠ userData.externalId := by
    intro other member taken
    exact fresh (List.mem_map.mpr ⟨other, member, taken⟩)
  have widened : Consistent
      { fleet with issued := { userData with instanceId } :: fleet.issued } := by
    refine ⟨consistent.indexed, ?_, ?_, fun other => (consistent.workers other).mono,
      consistent.removals⟩
    · intro first one second two same
      rcases List.mem_cons.mp one with rfl | one
      · rcases List.mem_cons.mp two with rfl | two
        · rfl
        · exact absurd same.symm (unused second two)
      · rcases List.mem_cons.mp two with rfl | two
        · exact absurd same (unused first one)
        · exact consistent.once first one second two same
    · intro other instance_ found
      exact List.mem_cons_of_mem _ (consistent.stored other instance_ found)
  exact widened.move ⟨List.mem_cons_self, absent⟩

/-- Positions that are about other ids keep fitting after a registration. -/
theorem Worker.Fits.register {db : RedisDatabase} {issued : List UserData} {position : Worker}
    {instance_ : UserData} (fits : position.Fits db issued)
    (apart : position.holds ≠ some instance_.instanceId) :
    position.Fits (db.register instance_) issued := by
  cases position with
  | launching instanceId =>
      have other : instanceId ≠ instance_.instanceId := fun same => apart (congrArg some same)
      show (db.register instance_).instances.lookup instanceId = none
      rw [RedisDatabase.register_instances, AList.lookup_insert_ne other]
      exact fits
  | registering pending =>
      have other : pending.instanceId ≠ instance_.instanceId :=
        fun same => apart (congrArg some same)
      refine ⟨fits.1, ?_⟩
      rw [RedisDatabase.register_instances, AList.lookup_insert_ne other]
      exact fits.2
  | unregistering instanceId read todo =>
      have other : instanceId ≠ instance_.instanceId := fun same => apart (congrArg some same)
      refine ⟨fits.1, fits.2.1, ?_⟩
      rw [RedisDatabase.register_instances, AList.lookup_insert_ne other]
      exact fits.2.2
  | idle | reading | killing => trivial

theorem Consistent.register (consistent : Consistent fleet) {instance_ : UserData}
    (registering : fleet.workers worker = .registering instance_)
    (alone : ∀ other, other ≠ worker →
      (fleet.workers other).holds ≠ some instance_.instanceId) :
    Consistent ({ fleet with db := fleet.db.register instance_ }.move worker .idle) := by
  have fits := consistent.workers worker
  rw [registering] at fits
  obtain ⟨issued, absent⟩ := fits
  constructor
  · apply consistent.indexed.register absent
    intro other stored found taken
    -- a stored record with this external id would be this very record
    have same := consistent.once _ (consistent.stored other stored found) _ issued taken
    rw [same] at found
    rw [consistent.indexed.keyed _ _ found, found] at absent
    cases absent
  · exact consistent.once
  · intro other stored found
    by_cases here : other = instance_.instanceId
    · subst here
      have found : (fleet.db.register instance_).instances.lookup instance_.instanceId =
        some stored := found
      rw [RedisDatabase.register_instances, AList.lookup_insert] at found
      rw [← Option.some.inj found]
      exact issued
    · have found : (fleet.db.register instance_).instances.lookup other = some stored := found
      rw [RedisDatabase.register_instances, AList.lookup_insert_ne here] at found
      exact consistent.stored other stored found
  · intro other
    by_cases same : other = worker
    · subst same
      simp [Fleet.move, Worker.Fits]
    · simpa [Fleet.move, Function.update_of_ne same] using
        (consistent.workers other).register (alone other same)
  · exact consistent.removals

theorem lookup_of_erase {α : Type} {table : Table α} {key other : String} {value : α}
    (found : (table.erase key).lookup other = some value) : table.lookup other = some value := by
  by_cases same : other = key
  · subst same
    rw [AList.lookup_erase] at found
    cases found
  · rwa [AList.lookup_erase_ne same] at found

/-- Every position keeps fitting when something is removed. -/
theorem Worker.Fits.unregister {db : RedisDatabase} {issued : List UserData} {position : Worker}
    {instanceId : String} {instance_ : UserData} (fits : position.Fits db issued) :
    position.Fits (db.unregister instanceId instance_) issued := by
  have gone : ∀ other, db.instances.lookup other = none →
      (db.unregister instanceId instance_).instances.lookup other = none := by
    intro other absent
    cases found : (db.unregister instanceId instance_).instances.lookup other with
    | none => rfl
    | some stored =>
        rw [lookup_of_erase found] at absent
        cases absent
  cases position with
  | launching other => exact gone other fits
  | registering pending => exact ⟨fits.1, gone _ fits.2⟩
  | unregistering other read todo =>
      exact ⟨fits.1, fits.2.1, fun stored found => fits.2.2 stored (lookup_of_erase found)⟩
  | idle | reading | killing => trivial

theorem Consistent.unregister (consistent : Consistent fleet) {instanceId : String}
    {instance_ : UserData} {todo : List (Option String)}
    (unregistering : fleet.workers worker = .unregistering instanceId instance_ todo) :
    Consistent ({ fleet with
      db := fleet.db.unregister instanceId instance_
      removals := ⟨instance_, fleet.db.instances.lookup instanceId⟩ :: fleet.removals }.move
        worker (.killing todo)) := by
  have fits := consistent.workers worker
  rw [unregistering] at fits
  obtain ⟨issued, own, current⟩ := fits
  constructor
  · apply consistent.indexed.unregister
    · intro stored found
      rw [current stored found]
    · intro other stored found taken
      have same := consistent.once _ (consistent.stored other stored found) _ issued taken
      rw [← consistent.indexed.keyed other stored found, same]
      exact own
  · exact consistent.once
  · intro other stored found
    exact consistent.stored other stored (lookup_of_erase found)
  · intro other
    by_cases same : other = worker
    · subst same
      simp [Fleet.move, Worker.Fits]
    · simpa [Fleet.move, Function.update_of_ne same] using (consistent.workers other).unregister
  · intro removal member removed found
    rcases List.mem_cons.mp member with rfl | earlier
    · exact current removed found
    · exact consistent.removals removal earlier removed found

theorem Consistent.advance (consistent : Consistent fleet)
    (alone : RegistersAlone fleet (.advance worker)) : Consistent (fleet.advance worker) := by
  unfold Fleet.advance
  split
  · rename_i instance_ registering
    exact consistent.register registering (alone instance_ registering)
  · exact consistent.move trivial
  · exact consistent.move trivial
  · exact consistent.move trivial
  · exact consistent.move trivial
  · split
    · exact consistent.move trivial
    · rename_i instanceId todo killing instance_ stored
      apply consistent.move
      refine ⟨consistent.stored _ _ stored, consistent.indexed.keyed _ _ stored, ?_⟩
      intro other found
      exact Option.some.inj (found.symm.trans stored)
  · rename_i instanceId instance_ todo unregistering
    exact consistent.unregister unregistering
  · exact consistent
  · exact consistent

theorem Consistent.step (consistent : Consistent fleet) {event : Event}
    (fresh : Fresh fleet event) (alone : RegistersAlone fleet event) :
    Consistent (fleet.step event) := by
  cases event with
  | launch worker instanceId =>
      simp only [Fleet.step]
      split
      · rename_i idle absent
        exact consistent.move absent
      · exact consistent
  | prepared worker userData =>
      simp only [Fleet.step]
      split
      · rename_i instanceId launching
        exact consistent.prepared launching fresh
      · exact consistent
  | launchFailed worker =>
      simp only [Fleet.step]
      split
      · exact consistent.move trivial
      · exact consistent
  | kill worker instanceId =>
      simp only [Fleet.step]
      split
      · exact consistent.move trivial
      · exact consistent
  | prune worker now =>
      simp only [Fleet.step]
      split
      · exact consistent.move trivial
      · exact consistent
  | advance worker => exact consistent.advance alone

end Steps

/-- In every interleaving of launches, kills and prunes in which an instance is
registered only while no other worker is about to write the same id: the indices of
Redis tell what is stored, and an `unregister_instance` removes nothing but the record
that it read. -/
theorem redis_index_consistent (events : List Event)
    (follows : Follows (fun fleet event => Fresh fleet event ∧ RegistersAlone fleet event)
      Fleet.step .start events) :
    let fleet := events.foldl Fleet.step .start
    (∀ instanceId, instanceId ∈ fleet.db.instances ↔ instanceId ∈ fleet.db.expiries) ∧
      (∀ externalId instanceId, fleet.db.externalIds.lookup externalId = some instanceId ↔
        ∃ instance_, fleet.db.instances.lookup instanceId = some instance_ ∧
          instance_.externalId = externalId) ∧
      ∀ removal ∈ fleet.removals, removal.removed = none ∨
        removal.removed = some removal.read := by
  intro fleet
  have consistent : Consistent fleet :=
    Evm.foldl_invariant_of_follows Consistent
      (fun _ _ holds allowed => holds.step allowed.1 allowed.2) events _ Consistent.of_start follows
  refine ⟨consistent.indexed.expiring, consistent.indexed.indexed, ?_⟩
  intro removal member
  cases found : removal.removed with
  | none => exact Or.inl rfl
  | some removed =>
      rw [consistent.removals removal member removed found]
      exact Or.inr rfl

/-- A step moves the worker it names and no other. -/
theorem step_workers_of_ne {fleet : Fleet} {event : Event} {other : Nat}
    (apart : event.worker ≠ other) : (fleet.step event).workers other = fleet.workers other := by
  have moved : ∀ (fleet : Fleet) (next : Worker),
      (fleet.move event.worker next).workers other = fleet.workers other := by
    intro fleet next
    rw [Fleet.move]
    exact Function.update_of_ne (Ne.symm apart) next fleet.workers
  cases event with
  | launch worker instanceId =>
      simp only [Fleet.step]
      split
      · exact moved _ _
      · rfl
  | prepared worker userData =>
      simp only [Fleet.step]
      split
      · exact moved _ _
      · rfl
  | launchFailed worker =>
      simp only [Fleet.step]
      split
      · exact moved _ _
      · rfl
  | kill worker instanceId =>
      simp only [Fleet.step]
      split
      · exact moved _ _
      · rfl
  | prune worker now =>
      simp only [Fleet.step]
      split
      · exact moved _ _
      · rfl
  | advance worker =>
      simp only [Fleet.step, Fleet.advance]
      split
      · exact moved _ _
      · exact moved _ _
      · exact moved _ _
      · exact moved _ _
      · exact moved _ _
      · split
        · exact moved _ _
        · exact moved _ _
      · exact moved _ _
      · rfl
      · rfl

theorem run_workers_of_ne {events : List Event} {fleet : Fleet} {other : Nat}
    (apart : ∀ event ∈ events, event.worker ≠ other) :
    (events.foldl Fleet.step fleet).workers other = fleet.workers other := by
  induction events generalizing fleet with
  | nil => rfl
  | cons event rest ih =>
      rw [List.foldl_cons, ih fun later member => apart later (List.mem_cons_of_mem _ member)]
      exact step_workers_of_ne (apart event List.mem_cons_self)

/-- One worker launches an instance. -/
def soloLaunch : List Event :=
  [.launch 0 "team", .prepared 0 (sampleInstance "team" "abc"), .advance 0]

/-- Worker 1 has read the instance when worker 2 unregisters it and worker 3 registers
a new one; then worker 1 goes on. -/
def lateKill : List Event :=
  soloLaunch ++
    [.kill 1 "team", .advance 1, .kill 2 "team", .advance 2, .advance 2, .advance 2,
      .launch 3 "team", .prepared 3 (sampleInstance "team" "def"), .advance 3,
      .advance 1, .advance 1]

/-- Two workers launch at the same time, and worker 1 kills the instance of worker 0. -/
def twoWorkers : List Event :=
  [.launch 0 "team", .launch 1 "other", .prepared 0 (sampleInstance "team" "abc"),
    .prepared 1 (sampleInstance "other" "def"), .advance 1, .advance 0, .kill 1 "team",
    .advance 1, .advance 1]

/-- Nobody else holds the id if nobody does among the workers that take part. -/
theorem registersAlone_of_below (events : List Event) {worker : Nat} (bound : Nat)
    (instanceId : String)
    (registers : ∀ instance_, (events.foldl Fleet.step .start).workers worker =
      .registering instance_ → instance_.instanceId = instanceId)
    (taking : ∀ event ∈ events, event.worker < bound)
    (apart : ∀ other < bound, other ≠ worker →
      ((events.foldl Fleet.step .start).workers other).holds ≠ some instanceId) :
    RegistersAlone (events.foldl Fleet.step .start) (.advance worker) := by
  intro instance_ registering other different
  rw [registers instance_ registering]
  by_cases below : other < bound
  · exact apart other below different
  · have idle : (events.foldl Fleet.step .start).workers other = .idle := by
      apply run_workers_of_ne
      intro event member
      have low := taking event member
      omega
    rw [idle]
    exact nofun

/-- The instance of worker 1 stays, and the removal has read what it removed. -/
theorem two_workers_consistent :
    let fleet := twoWorkers.foldl Fleet.step .start
    "other" ∈ fleet.db.expiries ∧ "team" ∉ fleet.db.expiries ∧ fleet.removals.length = 1 ∧
      ∀ removal ∈ fleet.removals, removal.removed = none ∨
        removal.removed = some removal.read := by
  intro fleet
  have alone : Follows (fun fleet event => Fresh fleet event ∧ RegistersAlone fleet event)
      Fleet.step .start twoWorkers := by
    refine ⟨⟨trivial, trivial⟩, ⟨trivial, trivial⟩, ⟨by decide, trivial⟩, ⟨by decide, trivial⟩,
      ⟨trivial, ?_⟩, ⟨trivial, ?_⟩, ⟨trivial, trivial⟩, ⟨trivial, ?_⟩, ⟨trivial, ?_⟩, trivial⟩
    · refine registersAlone_of_below (twoWorkers.take 4) 2 "other" ?_ (by decide)
        (by decide +kernel)
      intro instance_ registering
      cases registering
      rfl
    · refine registersAlone_of_below (twoWorkers.take 5) 2 "team" ?_ (by decide)
        (by decide +kernel)
      intro instance_ registering
      cases registering
      rfl
    · intro instance_ registering
      cases registering
    · intro instance_ registering
      cases registering
  have consistent := redis_index_consistent twoWorkers alone
  have stored : "other" ∈ fleet.db.instances := by decide +kernel
  have removed : "team" ∉ fleet.db.instances := by decide +kernel
  refine ⟨(consistent.1 "other").mp stored, ?_, by decide +kernel, consistent.2.2⟩
  exact fun present => removed ((consistent.1 "team").mpr present)

/-- With fresh external ids and every worker idle again, the second instance is gone,
its external id still leads to it, and the removal had read the first instance. -/
theorem late_kill_breaks_index :
    Follows Fresh Fleet.step .start lateKill ∧
      (∀ worker, (lateKill.foldl Fleet.step .start).workers worker = .idle) ∧
      "team" ∉ (lateKill.foldl Fleet.step .start).db.instances ∧
      (lateKill.foldl Fleet.step .start).db.externalIds.lookup "def" = some "team" ∧
      ((lateKill.foldl Fleet.step .start).removals.map fun removal =>
        (removal.read.externalId, removal.removed.map UserData.externalId)) =
          [("abc", some "def"), ("abc", some "abc")] := by
  refine ⟨by decide +kernel, ?_, by decide +kernel, by decide +kernel, by decide +kernel⟩
  intro worker
  by_cases named : worker < 4
  · have cases : worker = 0 ∨ worker = 1 ∨ worker = 2 ∨ worker = 3 := by omega
    rcases cases with rfl | rfl | rfl | rfl
    all_goals rfl
  · apply run_workers_of_ne
    intro event member
    have small : ∀ event ∈ lateKill, event.worker < 4 := by decide +kernel
    have low := small event member
    omega

end Orchestrator
