import BlazCtf.Orchestrator.RedisIndex
import BlazCtf.Lib.Run
import Mathlib.Data.List.TakeWhile

set_option autoImplicit false

namespace Orchestrator

open Evm (Follows)

/-- Two replies are the same up to the order of a list. -/
def Agree : Reply → Reply → Prop
  | .records first, .records second => first.Perm second
  | first, second => first = second

/-- The state of Redis after a call. -/
def redisStep (db : RedisDatabase) (op : Op) : RedisDatabase := (db.call op).1

/-- Instances are registered under the id of their record, and only while it is absent. -/
def RegistersAbsent (db : RedisDatabase) : Op → Prop
  | .registerInstance instanceId instance_ =>
      instance_.instanceId = instanceId ∧ db.instances.lookup instanceId = none
  | _ => True

/-- The external id that a call brings in. -/
def Op.newExternalId : Op → Option String
  | .registerInstance _ instance_ => some instance_.externalId
  | _ => none

/-- The calls that SQLite serves as Redis does: none for the expired instances, none by
an external id that is in use, and reads of instances only while their metadata is what
they were registered with; a list of all instances needs ids without a slash. -/
def ServedAlike (db : RedisDatabase) : Op → Prop
  | .getInstance instanceId => ∀ instance_, db.instances.lookup instanceId = some instance_ →
      db.metadata instanceId = instance_.metadata
  | .getInstanceByExternalId externalId => db.externalIds.lookup externalId = none
  | .getAllInstances => ∀ instanceId instance_,
      db.instances.lookup instanceId = some instance_ →
        '/' ∉ instanceId.toList ∧ db.metadata instanceId = instance_.metadata
  | .getExpiredInstances _ => False
  | _ => True

/-- The simulation: the same records under the same ids, no external id in the table,
and on the side of Redis an index over external ids that have all been used. -/
structure Related (used : List String) (sqlite : SQLiteDatabase) (redis : RedisDatabase) :
    Prop where
  same : ∀ instanceId, (sqlite.anvilInstances.lookup instanceId).map Row.instanceData =
    redis.instances.lookup instanceId
  unnamed : ∀ row ∈ sqlite.anvilInstances.entries, row.2.rpcId = none
  indexed : redis.Indexed
  known : ∀ instanceId instance_, redis.instances.lookup instanceId = some instance_ →
    instance_.externalId ∈ used

section Steps

variable {used : List String} {sqlite : SQLiteDatabase} {redis : RedisDatabase}
  {instanceId : String} {instance_ : UserData}

theorem Related.of_empty : Related [] ⟨∅⟩ .empty where
  same := fun _ => rfl
  unnamed := nofun
  indexed := RedisDatabase.Indexed.of_empty
  known := by
    intro instanceId instance_ stored
    cases stored

theorem mem_entries_erase {α : Type} {table : Table α} {key : String} {entry : Σ _ : String, α}
    (member : entry ∈ (table.erase key).entries) : entry ∈ table.entries :=
  (List.kerase_sublist key table.entries).subset member

theorem Related.registered (related : Related used sqlite redis)
    (own : instance_.instanceId = instanceId) (absent : redis.instances.lookup instanceId = none)
    (fresh : instance_.externalId ∉ used) :
    Related (instance_.externalId :: used) (sqlite.registerInstance instanceId instance_).1
        (redis.register instance_) ∧
      (sqlite.registerInstance instanceId instance_).2 = .none := by
  subst own
  have missing : instance_.instanceId ∉ sqlite.anvilInstances := by
    rw [← AList.lookup_eq_none, ← Option.map_eq_none_iff (f := Row.instanceData), related.same]
    exact absent
  have unused : ∀ other stored, redis.instances.lookup other = some stored →
      stored.externalId ≠ instance_.externalId := by
    intro other stored found taken
    exact fresh (taken ▸ related.known other stored found)
  rw [SQLiteDatabase.registerInstance, if_neg missing]
  refine ⟨?_, rfl⟩
  constructor
  · intro other
    by_cases here : other = instance_.instanceId
    · subst here
      rw [AList.lookup_insert, RedisDatabase.register_instances, AList.lookup_insert,
        Option.map_some]
    · rw [AList.lookup_insert_ne here, RedisDatabase.register_instances,
        AList.lookup_insert_ne here]
      exact related.same other
  · intro row member
    rw [AList.entries_insert_of_notMem missing] at member
    rcases List.mem_cons.mp member with rfl | earlier
    · rfl
    · exact related.unnamed row earlier
  · exact related.indexed.register absent unused
  · intro other stored found
    by_cases here : other = instance_.instanceId
    · subst here
      rw [RedisDatabase.register_instances, AList.lookup_insert] at found
      rw [← Option.some.inj found]
      exact List.mem_cons_self
    · rw [RedisDatabase.register_instances, AList.lookup_insert_ne here] at found
      exact List.mem_cons_of_mem _ (related.known other stored found)

/-- `unregister_instance` returns the stored record on both sides. -/
theorem Related.unregistered (related : Related used sqlite redis) (instanceId : String) :
    Related used (sqlite.unregisterInstance instanceId).1
        (redis.unregisterInstance instanceId).1 ∧
      (sqlite.unregisterInstance instanceId).2 = (redis.unregisterInstance instanceId).2 := by
  have same := related.same instanceId
  unfold SQLiteDatabase.unregisterInstance RedisDatabase.unregisterInstance
  cases stored : redis.instances.lookup instanceId with
  | none =>
      rw [stored] at same
      dsimp only
      have missing : instanceId ∉ sqlite.anvilInstances := by
        rw [← AList.lookup_eq_none, ← Option.map_eq_none_iff (f := Row.instanceData)]
        exact same
      refine ⟨⟨?_, ?_, related.indexed, related.known⟩, by rw [same]; rfl⟩
      · intro other
        by_cases here : other = instanceId
        · subst here
          rw [AList.lookup_erase, stored]
          rfl
        · rw [AList.lookup_erase_ne here]
          exact related.same other
      · intro row member
        exact related.unnamed row (mem_entries_erase member)
  | some instance_ =>
      rw [stored] at same
      dsimp only
      refine ⟨?_, by rw [same]; rfl⟩
      constructor
      · intro other
        by_cases here : other = instanceId
        · subst here
          rw [AList.lookup_erase, RedisDatabase.unregister_instances, AList.lookup_erase]
          rfl
        · rw [AList.lookup_erase_ne here, RedisDatabase.unregister_instances,
            AList.lookup_erase_ne here]
          exact related.same other
      · intro row member
        exact related.unnamed row (mem_entries_erase member)
      · apply related.indexed.unregister
        · intro other found
          rw [stored] at found
          rw [← Option.some.inj found]
        · intro other other' found taken
          exact related.indexed.injective found stored taken
      · intro other stored' found
        by_cases here : other = instanceId
        · subst here
          rw [RedisDatabase.unregister_instances, AList.lookup_erase] at found
          cases found
        · rw [RedisDatabase.unregister_instances, AList.lookup_erase_ne here] at found
          exact related.known other stored' found

theorem withMetadata_eq_iff {metadata : Metadata} :
    { instance_ with metadata := metadata } = instance_ ↔ metadata = instance_.metadata := by
  constructor
  · intro same
    exact congrArg UserData.metadata same
  · intro same
    rw [same]

theorem Related.getInstance_iff (related : Related used sqlite redis) :
    sqlite.getInstance instanceId = redis.getInstance instanceId ↔
      ServedAlike redis (.getInstance instanceId) := by
  rw [SQLiteDatabase.getInstance, related.same, RedisDatabase.getInstance,
    RedisDatabase.instance?]
  show _ ↔ ∀ instance_, redis.instances.lookup instanceId = some instance_ → _
  cases stored : redis.instances.lookup instanceId with
  | none => simp
  | some instance_ =>
      have pointwise : Reply.ofOption (some instance_) =
          Reply.ofOption ((some instance_).map fun stored =>
            { stored with metadata := redis.metadata instanceId }) ↔
          { instance_ with metadata := redis.metadata instanceId } = instance_ := by
        simp only [Reply.ofOption, Option.map_some, Reply.record.injEq]
        exact eq_comm
      rw [pointwise, withMetadata_eq_iff]
      simp

theorem Related.byExternalId_iff (related : Related used sqlite redis) {externalId : String} :
    sqlite.getInstanceByExternalId externalId = redis.getInstanceByExternalId externalId ↔
      ServedAlike redis (.getInstanceByExternalId externalId) := by
  have never : sqlite.getInstanceByExternalId externalId = .none := by
    have nothing : (sqlite.anvilInstances.entries.find? fun row =>
        row.2.rpcId = some externalId) = none := by
      apply List.find?_eq_none.mpr
      intro row member
      simp [related.unnamed row member]
    rw [SQLiteDatabase.getInstanceByExternalId, nothing]
    rfl
  rw [never, RedisDatabase.getInstanceByExternalId]
  show _ ↔ redis.externalIds.lookup externalId = none
  cases found : redis.externalIds.lookup externalId with
  | none => simp
  | some instanceId =>
      obtain ⟨instance_, stored, _⟩ := (related.indexed.indexed _ _).mp found
      simp [RedisDatabase.getInstance, RedisDatabase.instance?, stored, Reply.ofOption]

theorem slash_not_mem_firstSegment (instanceId : String) :
    '/' ∉ (firstSegment instanceId).toList := by
  intro member
  rw [firstSegment, String.toList_ofList] at member
  have plain := List.mem_takeWhile_imp member
  simp at plain

theorem firstSegment_eq_self (plain : '/' ∉ instanceId.toList) :
    firstSegment instanceId = instanceId := by
  have whole : instanceId.toList.takeWhile (· ≠ '/') = instanceId.toList := by
    apply List.takeWhile_eq_self_iff.mpr
    intro char member
    simp only [ne_eq, decide_not, Bool.not_eq_eq_eq_not, Bool.not_true, decide_eq_false_iff_not]
    rintro rfl
    exact plain member
  rw [firstSegment, whole, String.ofList_toList]

/-- The rows of the table are the documents of Redis, in some order. -/
theorem Related.documents (related : Related used sqlite redis) :
    (sqlite.anvilInstances.entries.map fun row => some row.2.instanceData).Perm
      (redis.instances.entries.map fun entry => some entry.2) := by
  have rows : (sqlite.anvilInstances.entries.map
      (Sigma.map id fun _ row => row.instanceData) : List (Σ _ : String, UserData)).Perm
        redis.instances.entries := by
    apply List.lookup_ext
    · have keys : (sqlite.anvilInstances.entries.map
          (Sigma.map id fun _ row => row.instanceData) : List (Σ _ : String, UserData)).keys =
            sqlite.anvilInstances.entries.keys := by
        simp only [List.keys, List.map_map]
        rfl
      rw [List.NodupKeys, keys]
      exact sqlite.anvilInstances.nodupKeys
    · exact redis.instances.nodupKeys
    · intro instanceId instance_
      rw [List.dlookup_map₂]
      have same := related.same instanceId
      rw [AList.lookup, AList.lookup] at same
      rw [same]
  have both := rows.map fun entry => some entry.2
  rw [List.map_map] at both
  exact both

theorem Related.getAll_iff (related : Related used sqlite redis) :
    Agree sqlite.getAllInstances redis.getAllInstances ↔ ServedAlike redis .getAllInstances := by
  have listed : redis.instances.keys.map
      (fun instanceId => redis.instance? (firstSegment instanceId)) =
        redis.instances.entries.map fun entry => redis.instance? (firstSegment entry.1) := by
    rw [AList.keys, List.keys, List.map_map]
    rfl
  show List.Perm _ (redis.instances.keys.map _) ↔ _
  rw [listed, related.documents.congr_left]
  constructor
  · intro agree instanceId instance_ stored
    have member : some instance_ ∈ redis.instances.entries.map fun entry => some entry.2 :=
      List.mem_map.mpr ⟨_, AList.mem_lookup_iff.mp stored, rfl⟩
    obtain ⟨entry, _, read⟩ := List.mem_map.mp (agree.subset member)
    obtain ⟨found, held, shown⟩ := Option.map_eq_some_iff.mp read
    have here : firstSegment entry.1 = instanceId := by
      rw [← related.indexed.keyed _ _ held, ← related.indexed.keyed _ _ stored, ← shown]
    rw [here] at held shown
    obtain rfl : found = instance_ := Option.some.inj (held.symm.trans stored)
    exact ⟨here ▸ slash_not_mem_firstSegment entry.1, withMetadata_eq_iff.mp shown⟩
  · intro alike
    apply List.Perm.of_eq
    apply List.map_congr_left
    intro entry member
    have stored : redis.instances.lookup entry.1 = some entry.2 :=
      AList.mem_lookup_iff.mpr member
    obtain ⟨plain, unchanged⟩ := alike entry.1 entry.2 stored
    rw [firstSegment_eq_self plain, RedisDatabase.instance?, stored, Option.map_some,
      withMetadata_eq_iff.mpr unchanged]

/-- One call: the databases stay related, and they reply alike just when it is served
alike. -/
theorem Related.call (related : Related used sqlite redis) {op : Op}
    (absent : RegistersAbsent redis op) (fresh : ∀ new, op.newExternalId = some new → new ∉ used) :
    Related (op.newExternalId.toList ++ used) (sqlite.call op).1 (redis.call op).1 ∧
      (Agree (sqlite.call op).2 (redis.call op).2 ↔ ServedAlike redis op) := by
  cases op with
  | registerInstance instanceId instance_ =>
      have registered := related.registered absent.1 absent.2 (fresh _ rfl)
      refine ⟨registered.1, ?_⟩
      show Agree (sqlite.registerInstance instanceId instance_).2 .none ↔ True
      rw [registered.2]
      simp [Agree]
  | unregisterInstance instanceId =>
      have unregistered := related.unregistered instanceId
      refine ⟨unregistered.1, ?_⟩
      show Agree (sqlite.unregisterInstance instanceId).2
        (redis.unregisterInstance instanceId).2 ↔ True
      rw [unregistered.2]
      unfold RedisDatabase.unregisterInstance
      split <;> simp [Agree]
  | updateMetadata instanceId metadata =>
      refine ⟨⟨related.same, related.unnamed, related.indexed.updateMetadata metadata,
        related.known⟩, ?_⟩
      show Agree .none .none ↔ True
      simp [Agree]
  | getInstance instanceId =>
      refine ⟨related, ?_⟩
      rw [← related.getInstance_iff]
      show Agree (sqlite.getInstance instanceId) (redis.getInstance instanceId) ↔ _
      unfold SQLiteDatabase.getInstance RedisDatabase.getInstance
      cases (sqlite.anvilInstances.lookup instanceId).map Row.instanceData <;> rfl
  | getInstanceByExternalId externalId =>
      refine ⟨related, ?_⟩
      rw [← related.byExternalId_iff]
      show Agree (sqlite.getInstanceByExternalId externalId) _ ↔ _
      unfold SQLiteDatabase.getInstanceByExternalId
      cases (sqlite.anvilInstances.entries.find? fun row => row.2.rpcId = some externalId).map
        fun row => row.2.instanceData <;> rfl
  | getAllInstances => exact ⟨related, related.getAll_iff⟩
  | getExpiredInstances now =>
      refine ⟨related, ?_⟩
      show Agree .none (.records _) ↔ False
      simp [Agree]

theorem Related.replies_iff {ops : List Op} (related : Related used sqlite redis)
    (fresh : (ops.filterMap Op.newExternalId).Nodup)
    (unused : ∀ new ∈ ops.filterMap Op.newExternalId, new ∉ used)
    (absent : Follows RegistersAbsent redisStep redis ops) :
    List.Forall₂ Agree (replies SQLiteDatabase.call sqlite ops)
        (replies RedisDatabase.call redis ops) ↔
      Follows ServedAlike redisStep redis ops := by
  induction ops generalizing used sqlite redis with
  | nil => exact ⟨fun _ => trivial, fun _ => .nil⟩
  | cons op rest ih =>
      have new : ∀ new, op.newExternalId = some new → new ∉ used := by
        intro new brought
        exact unused new (List.mem_filterMap.mpr ⟨op, List.mem_cons_self, brought⟩)
      obtain ⟨still, first⟩ := related.call absent.1 new
      have later : (rest.filterMap Op.newExternalId).Nodup ∧
          ∀ new ∈ rest.filterMap Op.newExternalId, new ∉ op.newExternalId.toList ++ used := by
        cases brought : op.newExternalId with
        | none =>
            rw [List.filterMap_cons_none brought] at fresh unused
            exact ⟨fresh, unused⟩
        | some externalId =>
            rw [List.filterMap_cons_some brought, List.nodup_cons] at fresh
            rw [List.filterMap_cons_some brought] at unused
            refine ⟨fresh.2, ?_⟩
            intro new member known
            rcases List.mem_cons.mp known with rfl | earlier
            · exact fresh.1 member
            · exact unused new (List.mem_cons_of_mem _ member) earlier
      rw [replies, replies, List.forall₂_cons, first, ih still later.1 later.2 absent.2]
      rfl

end Steps

/-- Over every sequence of calls from empty databases that registers absent ids under
fresh external ids, the two databases reply alike just when each call is one that they
serve alike. -/
theorem databases_agree_iff (ops : List Op) (fresh : (ops.filterMap Op.newExternalId).Nodup)
    (absent : Follows RegistersAbsent redisStep .empty ops) :
    List.Forall₂ Agree (replies SQLiteDatabase.call ⟨∅⟩ ops)
        (replies RedisDatabase.call .empty ops) ↔
      Follows ServedAlike redisStep .empty ops :=
  Related.of_empty.replies_iff fresh (fun _ _ => List.not_mem_nil) absent

/-- An instance as a backend registers it. -/
def sampleInstance (instanceId externalId : String) : UserData where
  instanceId := instanceId
  externalId := externalId
  createdAt := 100
  expiresAt := 1900
  anvilInstances := [("main", ⟨"main", "10.0.0.2", some 8545⟩)]
  daemonInstances := []
  metadata := fun _ => none

/-- Register an instance, then make one more call. -/
def sampleOps (op : Op) : List Op :=
  [.registerInstance "team" (sampleInstance "team" "abc"), op]

theorem databases_agree_on_read :
    List.Forall₂ Agree (replies SQLiteDatabase.call ⟨∅⟩ (sampleOps (.getInstance "team")))
      (replies RedisDatabase.call .empty (sampleOps (.getInstance "team"))) := by
  have absent : Follows RegistersAbsent redisStep .empty (sampleOps (.getInstance "team")) :=
    ⟨⟨rfl, by rfl⟩, trivial, trivial⟩
  apply (databases_agree_iff (sampleOps (.getInstance "team")) (by decide) absent).mpr
  refine ⟨trivial, ?_, trivial⟩
  intro instance_ stored
  have same : instance_ = sampleInstance "team" "abc" := (Option.some.inj stored).symm
  rw [same]
  rfl

/-- SQLite does not find an instance that it has registered by its external id. -/
theorem external_id_not_found :
    Follows RegistersAbsent redisStep .empty (sampleOps (.getInstanceByExternalId "abc")) ∧
      ¬ List.Forall₂ Agree
        (replies SQLiteDatabase.call ⟨∅⟩ (sampleOps (.getInstanceByExternalId "abc")))
        (replies RedisDatabase.call .empty (sampleOps (.getInstanceByExternalId "abc"))) := by
  refine ⟨⟨⟨rfl, by rfl⟩, trivial, trivial⟩, ?_⟩
  intro agree
  cases agree with
  | cons _ rest =>
      cases rest with
      | cons disagree _ => cases disagree

end Orchestrator
