import BlazCtf.Lib.Run
import BlazCtf.Orchestrator.Databases

set_option autoImplicit false

namespace Orchestrator

open Evm (Follows)

/-- A request to the orchestrator, served to its end before the next. A launch carries
what `_launch_instance_impl` would return, and whether it raises instead; kills come
from the endpoint and from the pruner. -/
inductive Request where
  | launch (userData : UserData) (fails : Bool)
  | kill (instanceId : String)
  | updateMetadata (instanceId : String) (metadata : List (String × String))
  | getInstance (instanceId : String)

/-- What a request does to the database. -/
def RedisDatabase.serve (db : RedisDatabase) : Request → RedisDatabase
  | .launch userData fails =>
      -- `InstanceExists`, or an exception that reaches the cleanup
      if (db.instance? userData.instanceId).isSome ∨ fails = true then db
      else (db.registerInstance userData).1
  | .kill instanceId => (db.unregisterInstance instanceId).1
  | .updateMetadata instanceId metadata => db.updateMetadata instanceId metadata
  | .getInstance _ => db

/-- For each key the value that was written to it last. -/
def lastValues (written : List (String × String)) : Metadata := fun key =>
  (written.reverse.find? fun entry => entry.1 = key).map Prod.snd

/-- The database, and for each id what the calls of `update_metadata` wrote since it was
last registered. -/
structure Tracked where
  db : RedisDatabase
  since : String → List (String × String)

def Tracked.start : Tracked := ⟨.empty, fun _ => []⟩

def Tracked.serve (tracked : Tracked) (request : Request) : Tracked where
  db := tracked.db.serve request
  since :=
    match request with
    | .launch userData fails =>
        if (tracked.db.instance? userData.instanceId).isSome ∨ fails = true then tracked.since
        else Function.update tracked.since userData.instanceId []
    | .updateMetadata instanceId metadata =>
        Function.update tracked.since instanceId (tracked.since instanceId ++ metadata)
    | _ => tracked.since

def Tracked.run (tracked : Tracked) (requests : List Request) : Tracked :=
  requests.foldl Tracked.serve tracked

/-- `update_metadata` is called for an instance that is registered. -/
def UpdatesRegistered (tracked : Tracked) : Request → Prop
  | .updateMetadata instanceId _ => (tracked.db.instances.lookup instanceId).isSome
  | _ => True

theorem hset_lastValues (written : List (String × String)) (entry : String × String) :
    RedisDatabase.hset (lastValues written) entry = lastValues (written ++ [entry]) := by
  funext key
  by_cases same : key = entry.1
  · subst same
    simp [RedisDatabase.hset, lastValues]
  · simp [RedisDatabase.hset, lastValues, Function.update_of_ne same, Ne.symm same]

/-- Entries that are set one after another leave the last value of each key. -/
theorem foldl_hset (entries : List (String × String)) : ∀ written,
    entries.foldl RedisDatabase.hset (lastValues written) = lastValues (written ++ entries) := by
  induction entries with
  | nil =>
      intro written
      rw [List.foldl_nil, List.append_nil]
  | cons entry rest ih =>
      intro written
      rw [List.foldl_cons, hset_lastValues, ih, List.append_assoc, List.singleton_append]

/-- The hash of a registered instance holds what was written since, and an id that is
not registered has none. -/
structure FreshMetadata (tracked : Tracked) : Prop where
  current : ∀ instanceId, (tracked.db.instances.lookup instanceId).isSome →
    tracked.db.metadata instanceId = lastValues (tracked.since instanceId)
  absent : ∀ instanceId, tracked.db.instances.lookup instanceId = none →
    tracked.db.metadata instanceId = fun _ => none

section Steps

variable {tracked : Tracked} {instanceId : String}

theorem FreshMetadata.of_start : FreshMetadata .start where
  current := by
    intro instanceId present
    cases present
  absent := fun _ _ => rfl

theorem instance?_isSome (db : RedisDatabase) :
    (db.instance? instanceId).isSome = (db.instances.lookup instanceId).isSome := by
  simp [RedisDatabase.instance?]

theorem serve_launch {userData : UserData}
    (missing : tracked.db.instances.lookup userData.instanceId = none) :
    tracked.serve (.launch userData false) =
      ⟨tracked.db.register userData, Function.update tracked.since userData.instanceId []⟩ := by
  have accepted : ¬ ((tracked.db.instance? userData.instanceId).isSome ∨ false = true) := by
    rw [instance?_isSome, missing]
    simp
  simp only [Tracked.serve, RedisDatabase.serve, if_neg accepted, RedisDatabase.registerInstance]

/-- An instance is registered where there was none, so its hash is empty. -/
theorem FreshMetadata.launch (fresh : FreshMetadata tracked) (userData : UserData) (fails : Bool) :
    FreshMetadata (tracked.serve (.launch userData fails)) := by
  by_cases refused : (tracked.db.instance? userData.instanceId).isSome ∨ fails = true
  · have same : tracked.serve (.launch userData fails) = tracked := by
      simp only [Tracked.serve, RedisDatabase.serve, if_pos refused]
    rw [same]
    exact fresh
  · rw [not_or, instance?_isSome, Option.not_isSome_iff_eq_none, Bool.not_eq_true] at refused
    obtain ⟨unregistered, rfl⟩ := refused
    have next := serve_launch unregistered
    rw [next]
    constructor
    · intro other present
      by_cases here : other = userData.instanceId
      · subst here
        simp only [Function.update_self]
        exact fresh.absent _ unregistered
      · simp only [Function.update_of_ne here]
        rw [RedisDatabase.register_instances, AList.lookup_insert_ne here] at present
        exact fresh.current other present
    · intro other missing
      by_cases here : other = userData.instanceId
      · subst here
        rw [RedisDatabase.register_instances, AList.lookup_insert] at missing
        cases missing
      · rw [RedisDatabase.register_instances, AList.lookup_insert_ne here] at missing
        exact fresh.absent other missing

theorem FreshMetadata.kill (fresh : FreshMetadata tracked) (instanceId : String) :
    FreshMetadata (tracked.serve (.kill instanceId)) := by
  cases stored : tracked.db.instances.lookup instanceId with
  | none =>
      have same : tracked.serve (.kill instanceId) = tracked := by
        simp only [Tracked.serve, RedisDatabase.serve, RedisDatabase.unregisterInstance, stored]
      rw [same]
      exact fresh
  | some instance_ =>
      have next : tracked.serve (.kill instanceId) =
          ⟨tracked.db.unregister instanceId instance_, tracked.since⟩ := by
        simp only [Tracked.serve, RedisDatabase.serve, RedisDatabase.unregisterInstance, stored]
      rw [next]
      constructor
      · intro other present
        by_cases here : other = instanceId
        · subst here
          rw [RedisDatabase.unregister_instances, AList.lookup_erase] at present
          cases present
        · rw [RedisDatabase.unregister_instances, AList.lookup_erase_ne here] at present
          simp only [RedisDatabase.unregister, Function.update_of_ne here]
          exact fresh.current other present
      · intro other missing
        by_cases here : other = instanceId
        · subst here
          simp only [RedisDatabase.unregister, Function.update_self]
        · rw [RedisDatabase.unregister_instances, AList.lookup_erase_ne here] at missing
          simp only [RedisDatabase.unregister, Function.update_of_ne here]
          exact fresh.absent other missing

theorem FreshMetadata.updateMetadata (fresh : FreshMetadata tracked)
    (registered : (tracked.db.instances.lookup instanceId).isSome)
    (metadata : List (String × String)) :
    FreshMetadata (tracked.serve (.updateMetadata instanceId metadata)) := by
  constructor
  · intro other present
    by_cases here : other = instanceId
    · subst here
      simp only [Tracked.serve, RedisDatabase.serve, RedisDatabase.updateMetadata,
        Function.update_self, fresh.current other present, foldl_hset]
    · simp only [Tracked.serve, RedisDatabase.serve, RedisDatabase.updateMetadata,
        Function.update_of_ne here]
      exact fresh.current other present
  · intro other missing
    have here : other ≠ instanceId := by
      rintro rfl
      have stillMissing : tracked.db.instances.lookup other = none := missing
      rw [stillMissing] at registered
      cases registered
    simp only [Tracked.serve, RedisDatabase.serve, RedisDatabase.updateMetadata,
      Function.update_of_ne here]
    exact fresh.absent other missing

theorem FreshMetadata.serve (fresh : FreshMetadata tracked) {request : Request}
    (registered : UpdatesRegistered tracked request) : FreshMetadata (tracked.serve request) := by
  cases request with
  | launch userData fails => exact fresh.launch userData fails
  | kill instanceId => exact fresh.kill instanceId
  | updateMetadata instanceId metadata => exact fresh.updateMetadata registered metadata
  | getInstance instanceId => exact fresh

end Steps

theorem getInstance_record {db : RedisDatabase} {instanceId : String} {instance_ : UserData}
    (found : db.getInstance instanceId = .record instance_) :
    (db.instances.lookup instanceId).isSome ∧ instance_.metadata = db.metadata instanceId := by
  unfold RedisDatabase.getInstance RedisDatabase.instance? at found
  cases stored : db.instances.lookup instanceId with
  | none =>
      rw [stored] at found
      cases found
  | some document =>
      rw [stored, Option.map_some, Reply.ofOption, Reply.record.injEq] at found
      rw [← found]
      exact ⟨rfl, rfl⟩

/-- Setting entries leaves a value under the first key. -/
theorem foldl_hset_some (entries : List (String × String)) : ∀ (hash : Metadata) (key : String),
    hash key ≠ none → entries.foldl RedisDatabase.hset hash key ≠ none := by
  induction entries with
  | nil =>
      intro hash key present
      exact present
  | cons entry rest ih =>
      intro hash key present
      apply ih
      by_cases same : key = entry.1
      · subst same
        simp [RedisDatabase.hset]
      · rw [RedisDatabase.hset, Function.update_of_ne same]
        exact present

/-- What an update writes while its instance is not registered is still in the hash when
the instance is. -/
theorem early_update_stays (tracked : Tracked) (userData : UserData)
    (entry : String × String) (rest : List (String × String))
    (missing : tracked.db.instances.lookup userData.instanceId = none) :
    let after := (tracked.serve (.updateMetadata userData.instanceId (entry :: rest))).serve
      (.launch userData false)
    ∃ instance_, after.db.getInstance userData.instanceId = .record instance_ ∧
      instance_.metadata ≠ lastValues (after.since userData.instanceId) := by
  let updated := tracked.serve (.updateMetadata userData.instanceId (entry :: rest))
  have stillMissing : updated.db.instances.lookup userData.instanceId = none := missing
  have found : (updated.db.register userData).getInstance userData.instanceId =
      .record { userData with metadata := updated.db.metadata userData.instanceId } := by
    rw [RedisDatabase.getInstance, RedisDatabase.instance?, RedisDatabase.register_instances,
      AList.lookup_insert]
    rfl
  have written : updated.db.metadata userData.instanceId entry.1 ≠ none := by
    simp only [updated, Tracked.serve, RedisDatabase.serve, RedisDatabase.updateMetadata,
      Function.update_self, List.foldl_cons]
    apply foldl_hset_some
    simp [RedisDatabase.hset]
  show ∃ instance_, (updated.serve (.launch userData false)).db.getInstance userData.instanceId =
      .record instance_ ∧ instance_.metadata ≠
        lastValues ((updated.serve (.launch userData false)).since userData.instanceId)
  rw [serve_launch stillMissing]
  refine ⟨_, found, ?_⟩
  intro same
  have atKey := congrFun same entry.1
  simp only [Function.update_self] at atKey
  exact written atKey

/-- In every run in which metadata is updated for registered instances only, after every
request, `get_instance` returns exactly the last values written since the instance was
registered. An update for an id that is not registered reaches the next instance. -/
theorem metadata_of_current_instance (requests : List Request)
    (registered : Follows UpdatesRegistered Tracked.serve .start requests) :
    (∀ earlier, earlier <+: requests → ∀ instanceId instance_,
      (Tracked.start.run earlier).db.getInstance instanceId = .record instance_ →
        instance_.metadata = lastValues ((Tracked.start.run earlier).since instanceId)) ∧
      ∀ (tracked : Tracked) (userData : UserData) (entry : String × String) rest,
        tracked.db.instances.lookup userData.instanceId = none →
        let after := (tracked.serve (.updateMetadata userData.instanceId (entry :: rest))).serve
          (.launch userData false)
        ∃ instance_, after.db.getInstance userData.instanceId = .record instance_ ∧
          instance_.metadata ≠ lastValues (after.since userData.instanceId) := by
  refine ⟨?_, early_update_stays⟩
  intro earlier reached instanceId instance_ found
  obtain ⟨later, rfl⟩ := reached
  have follows := ((Evm.follows_append earlier later Tracked.start).mp registered).1
  have fresh : FreshMetadata (Tracked.start.run earlier) :=
    Evm.foldl_invariant_of_follows FreshMetadata (fun _ _ fresh => fresh.serve) earlier .start
      FreshMetadata.of_start follows
  obtain ⟨stored, isHash⟩ := getInstance_record found
  rw [isHash]
  exact fresh.current instanceId stored

theorem plain_instance_metadata :
    ∃ instance_, (Tracked.start.run [.launch plainInstance false,
        .updateMetadata "i" [("k", "1")], .updateMetadata "i" [("k", "2")]]).db.getInstance "i" =
          .record instance_ ∧ instance_.metadata "k" = some "2" := by
  refine ⟨_, rfl, ?_⟩
  have fresh := (metadata_of_current_instance [.launch plainInstance false,
    .updateMetadata "i" [("k", "1")], .updateMetadata "i" [("k", "2")]]
    ⟨trivial, rfl, rfl, trivial⟩).1 _ (List.prefix_refl _) "i" _ rfl
  exact congrFun fresh "k"

/-- The metadata of an instance that was never updated is not empty. -/
theorem early_metadata_returned :
    ∃ instance_, (Tracked.start.run [.updateMetadata "i" [("k", "1")],
        .launch plainInstance false]).db.getInstance "i" = .record instance_ ∧
      (Tracked.start.run [.updateMetadata "i" [("k", "1")],
        .launch plainInstance false]).since "i" = [] ∧
      instance_.metadata ≠ lastValues [] := by
  refine ⟨_, rfl, rfl, ?_⟩
  intro same
  have atKey := congrFun same "k"
  exact absurd atKey (by decide)

end Orchestrator
