import Mathlib.Data.List.AList

set_option autoImplicit false

namespace Orchestrator

/-- A table with string keys; the order of its entries means nothing. -/
abbrev Table (α : Type) := AList fun _ : String => α

/-- A dictionary of strings, which is compared by its entries. -/
abbrev Metadata := String → Option String

structure InstanceInfo where
  id : String
  ip : String
  port : Option Nat
  deriving DecidableEq

structure UserData where
  instanceId : String
  externalId : String
  createdAt : Rat
  expiresAt : Rat
  anvilInstances : List (String × InstanceInfo)
  daemonInstances : List (String × InstanceInfo)
  metadata : Metadata

/-- An instance without containers. -/
def plainInstance : UserData where
  instanceId := "i"
  externalId := "e"
  createdAt := 0
  expiresAt := 60
  anvilInstances := []
  daemonInstances := []
  metadata := fun _ => none

/-- Python's `int` of a float, which drops the fraction. -/
def truncated (time : Rat) : Int := time.num.tdiv time.den

/-- What a method of a database returns; `none` is the `None` of Python. -/
inductive Reply where
  | none
  | record (instance_ : UserData)
  | records (instances : List (Option UserData))
  | raised

/-- A method that returns an instance or `None`. -/
def Reply.ofOption : Option UserData → Reply
  | .none => .none
  | .some instance_ => .record instance_

/-- A row of `anvil_instances` beside its primary key. -/
structure Row where
  rpcId : Option String
  instanceData : UserData

/-- `SQLiteDatabase`: the table `anvil_instances`, keyed by `instance_id`. -/
structure SQLiteDatabase where
  anvilInstances : Table Row

namespace SQLiteDatabase

variable (db : SQLiteDatabase)

/-- The statement names no `rpc_id`, so that column is left NULL. -/
def registerInstance (instanceId : String) (instance_ : UserData) : SQLiteDatabase × Reply :=
  if instanceId ∈ db.anvilInstances then (db, .raised)
  else (⟨db.anvilInstances.insert instanceId ⟨none, instance_⟩⟩, .none)

def unregisterInstance (instanceId : String) : SQLiteDatabase × Reply :=
  (⟨db.anvilInstances.erase instanceId⟩,
    .ofOption ((db.anvilInstances.lookup instanceId).map Row.instanceData))

def getInstance (instanceId : String) : Reply :=
  .ofOption ((db.anvilInstances.lookup instanceId).map Row.instanceData)

def getInstanceByExternalId (rpcId : String) : Reply :=
  .ofOption ((db.anvilInstances.entries.find? fun row => row.2.rpcId = some rpcId).map
    fun row => row.2.instanceData)

def getAllInstances : Reply :=
  .records (db.anvilInstances.entries.map fun row => some row.2.instanceData)

end SQLiteDatabase

/-- `Database.get_expired_instances` and `Database.update_metadata`, the methods that
`SQLiteDatabase` inherits: their body is `pass`. -/
def inherited : Reply := .none

/-- `RedisDatabase`: the documents under `instance/`, the hash `external_ids`, the sorted
set `expiries`, and the hashes under `metadata/`, where a missing hash has no entries. -/
structure RedisDatabase where
  instances : Table UserData
  externalIds : Table String
  expiries : Table Int
  metadata : String → Metadata

/-- The part of an instance id before its first slash. -/
def firstSegment (instanceId : String) : String :=
  String.ofList (instanceId.toList.takeWhile (· ≠ '/'))

namespace RedisDatabase

variable (db : RedisDatabase)

def empty : RedisDatabase := ⟨∅, ∅, ∅, fun _ _ => none⟩

/-- The pipeline of `register_instance`. -/
def register (instance_ : UserData) : RedisDatabase :=
  { db with
    instances := db.instances.insert instance_.instanceId instance_
    externalIds := db.externalIds.insert instance_.externalId instance_.instanceId
    expiries := db.expiries.insert instance_.instanceId (truncated instance_.expiresAt) }

/-- The pipeline of `unregister_instance`, after the instance has been read. -/
def unregister (instanceId : String) (instance_ : UserData) : RedisDatabase where
  instances := db.instances.erase instanceId
  externalIds := db.externalIds.erase instance_.externalId
  expiries := db.expiries.erase instanceId
  metadata := Function.update db.metadata instanceId fun _ => none

@[simp] theorem register_instances (instance_ : UserData) :
    (db.register instance_).instances = db.instances.insert instance_.instanceId instance_ := rfl

@[simp] theorem unregister_instances (instanceId : String) (instance_ : UserData) :
    (db.unregister instanceId instance_).instances = db.instances.erase instanceId := rfl

def registerInstance (instance_ : UserData) : RedisDatabase × Reply :=
  (db.register instance_, .none)

def unregisterInstance (instanceId : String) : RedisDatabase × Reply :=
  match db.instances.lookup instanceId with
  | none => (db, .none)
  | some instance_ => (db.unregister instanceId instance_, .record instance_)

/-- The stored document with its `metadata` replaced by the hash. -/
def instance? (instanceId : String) : Option UserData :=
  (db.instances.lookup instanceId).map fun instance_ =>
    { instance_ with metadata := db.metadata instanceId }

def getInstance (instanceId : String) : Reply := .ofOption (db.instance? instanceId)

def getInstanceByExternalId (rpcId : String) : Reply :=
  match db.externalIds.lookup rpcId with
  | none => .none
  | some instanceId => db.getInstance instanceId

/-- Each key `instance/...` is split at its slashes, and the second part looked up. -/
def getAllInstances : Reply :=
  .records (db.instances.keys.map fun instanceId => db.instance? (firstSegment instanceId))

/-- The ids with a score from zero to the current time. -/
def expired (now : Int) : List String :=
  (db.expiries.entries.filter fun entry => 0 ≤ entry.2 ∧ entry.2 ≤ now).map Sigma.fst

def getExpiredInstances (now : Int) : Reply :=
  .records ((db.expired now).map db.instance?)

/-- `hset` of one field of a hash. -/
def hset (hash : Metadata) (entry : String × String) : Metadata :=
  Function.update hash entry.1 (some entry.2)

def updateMetadata (instanceId : String) (metadata : List (String × String)) : RedisDatabase :=
  let hash := metadata.foldl hset (db.metadata instanceId)
  { db with metadata := Function.update db.metadata instanceId hash }

end RedisDatabase

/-- The calls of a `Database`; `get_expired_instances` is made at a time. -/
inductive Op where
  | registerInstance (instanceId : String) (instance_ : UserData)
  | unregisterInstance (instanceId : String)
  | updateMetadata (instanceId : String) (metadata : List (String × String))
  | getInstance (instanceId : String)
  | getInstanceByExternalId (externalId : String)
  | getAllInstances
  | getExpiredInstances (now : Int)

def SQLiteDatabase.call (db : SQLiteDatabase) : Op → SQLiteDatabase × Reply
  | .registerInstance instanceId instance_ => db.registerInstance instanceId instance_
  | .unregisterInstance instanceId => db.unregisterInstance instanceId
  | .updateMetadata _ _ => (db, inherited)
  | .getInstance instanceId => (db, db.getInstance instanceId)
  | .getInstanceByExternalId externalId => (db, db.getInstanceByExternalId externalId)
  | .getAllInstances => (db, db.getAllInstances)
  | .getExpiredInstances _ => (db, inherited)

/-- Redis stores an instance under the id in its record. -/
def RedisDatabase.call (db : RedisDatabase) : Op → RedisDatabase × Reply
  | .registerInstance _ instance_ => db.registerInstance instance_
  | .unregisterInstance instanceId => db.unregisterInstance instanceId
  | .updateMetadata instanceId metadata => (db.updateMetadata instanceId metadata, .none)
  | .getInstance instanceId => (db, db.getInstance instanceId)
  | .getInstanceByExternalId externalId => (db, db.getInstanceByExternalId externalId)
  | .getAllInstances => (db, db.getAllInstances)
  | .getExpiredInstances now => (db, db.getExpiredInstances now)

/-- The replies of a sequence of calls, one after another. -/
def replies {σ : Type} (call : σ → Op → σ × Reply) : σ → List Op → List Reply
  | _, [] => []
  | db, op :: rest => (call db op).2 :: replies call (call db op).1 rest

end Orchestrator
