import Mathlib.Logic.Function.Basic

set_option autoImplicit false

namespace DockerBackend

open Function (update)

/-- The arguments of `launch_instance`: of the containers, their keys in the request. -/
structure CreateInstanceRequest where
  instanceId : String
  anvilInstances : Option (List String)
  daemonInstances : Option (List String)
  deriving DecidableEq

/-- Something that Docker keeps under a name. -/
inductive Resource where
  | container (name : String)
  | volume (name : String)
  deriving DecidableEq

/-- What is kept under a name: the id that Docker gave it, and beside it the request that
created it, which no request sees. -/
structure Made where
  id : Nat
  creator : Nat
  deriving DecidableEq

/-- A container that `containers.run` returned. -/
structure Container where
  name : String
  id : Nat
  deriving DecidableEq

def containerName (instanceId key : String) : String := instanceId ++ "-" ++ key

/-- What `__try_delete` goes through, in its order. -/
def resources (instanceId : String) (anvilIds daemonIds : List String) : List Resource :=
  (anvilIds ++ daemonIds).map (fun key => .container (containerName instanceId key)) ++
    [.volume instanceId]

/-- An instance as the database has it: the keys of `anvil_instances` and of
`daemon_instances`. -/
structure Instance where
  anvilInstances : List String
  daemonInstances : List String
  deriving DecidableEq

def Instance.resources (instance_ : Instance) (instanceId : String) : List Resource :=
  DockerBackend.resources instanceId instance_.anvilInstances instance_.daemonInstances

namespace CreateInstanceRequest

variable (args : CreateInstanceRequest)

/-- The instance that a launch registers. -/
def launched : Instance := ⟨args.anvilInstances.getD [], args.daemonInstances.getD []⟩

def resources : List Resource := args.launched.resources args.instanceId

/-- The names of the containers that a launch runs, in its order. -/
def containers : List String :=
  (args.launched.anvilInstances ++ args.launched.daemonInstances).map
    (containerName args.instanceId)

end CreateInstanceRequest

/-- Who calls `__try_delete`. -/
inductive Purpose where
  | cleanup
  | kill
  deriving DecidableEq

/-- Where a request stands: the call to Docker or to the database that it makes next. -/
inductive Stage where
  | waiting
  /-- `volumes.create` -/
  | volume (args : CreateInstanceRequest)
  /-- `containers.run` for the names that are left: Docker creates the container and
  then starts it. -/
  | create (args : CreateInstanceRequest) (made : List Container) (todo : List String)
  | start (args : CreateInstanceRequest) (made : List Container) (current : Container)
      (todo : List String)
  /-- `containers.get` and `_prepare_node` for the containers that are left -/
  | inspect (args : CreateInstanceRequest) (todo : List Container)
  /-- `register_instance` -/
  | register (args : CreateInstanceRequest)
  /-- `unregister_instance` first reads the instance and then deletes it. -/
  | unregister (instanceId : String)
  | delete (instanceId : String) (read : Instance)
  /-- `__try_delete` for what is left, with `containers.get` or `volumes.get` next -/
  | look (purpose : Purpose) (todo : List Resource)
  /-- `container.kill` -/
  | stop (purpose : Purpose) (resource : Resource) (id : Nat) (todo : List Resource)
  /-- `container.remove` or `volume.remove` -/
  | remove (purpose : Purpose) (resource : Resource) (id : Nat) (todo : List Resource)
  | ended
  deriving DecidableEq

/-- Something that a request removed. -/
structure Removal where
  purpose : Purpose
  request : Nat
  resource : Resource
  creator : Nat
  deriving DecidableEq

/-- The database, Docker and the requests, each of which has a number. -/
structure Host where
  registered : String → Option Instance
  docker : Resource → Option Made
  nextId : Nat
  requests : Nat → Stage
  removals : List Removal

def Host.start : Host := ⟨fun _ => none, fun _ => none, 0, fun _ => .waiting, []⟩

/-- A request arrives, or makes its next call, which succeeds only if Docker and the
database let it. -/
inductive Event where
  | launch (request : Nat) (args : CreateInstanceRequest)
  | kill (request : Nat) (instanceId : String)
  | act (request : Nat) (succeeds : Bool)
  deriving DecidableEq

def Event.request : Event → Nat
  | .launch request _ => request
  | .kill request _ => request
  | .act request _ => request

namespace Host

variable (host : Host)

def move (request : Nat) (next : Stage) : Host :=
  { host with requests := update host.requests request next }

/-- What the object that `get` or `run` returned still stands for: a container is
addressed by its id, a volume by its name. -/
def found (resource : Resource) (id : Nat) : Option Made :=
  match resource with
  | .container name => (host.docker (.container name)).filter (·.id = id)
  | .volume name => host.docker (.volume name)

def create (resource : Resource) (request : Nat) : Host :=
  { host with
    docker := update host.docker resource (some ⟨host.nextId, request⟩)
    nextId := host.nextId + 1 }

/-- Creating a volume whose name is in use gives the one that exists. -/
def createVolume (instanceId : String) (request : Nat) : Host :=
  match host.docker (.volume instanceId) with
  | some _ => host
  | none => host.create (.volume instanceId) request

def erase (purpose : Purpose) (resource : Resource) (made : Made) (request : Nat) : Host :=
  { host with
    docker := update host.docker resource none
    removals := ⟨purpose, request, resource, made.creator⟩ :: host.removals }

/-- An exception inside `launch_instance` reaches `_cleanup_instance`. -/
def cleanup (request : Nat) (args : CreateInstanceRequest) : Host :=
  host.move request (.look .cleanup args.resources)

/-- A call of `_launch_instance_impl`, or `register_instance` after it. -/
def launchCall (request : Nat) (succeeds : Bool) : Stage → Host
  | .volume args =>
      if succeeds then
        -- without `anvil_instances` the loop over them raises a `KeyError`
        match args.anvilInstances with
        | none => (host.createVolume args.instanceId request).cleanup request args
        | some _ => (host.createVolume args.instanceId request).move request
            (.create args [] args.containers)
      else host.cleanup request args
  | .create args made [] => host.move request (.inspect args made)
  | .create args made (name :: todo) =>
      -- a name in use is a conflict
      if succeeds ∧ host.docker (.container name) = none then
        (host.create (.container name) request).move request
          (.start args made ⟨name, host.nextId⟩ todo)
      else host.cleanup request args
  | .start args made current todo =>
      if succeeds ∧ (host.found (.container current.name) current.id).isSome then
        host.move request (.create args (made ++ [current]) todo)
      else host.cleanup request args
  | .inspect args [] =>
      if succeeds then host.move request (.register args) else host.cleanup request args
  | .inspect args (current :: todo) =>
      if succeeds ∧ (host.found (.container current.name) current.id).isSome then
        host.move request (.inspect args todo)
      else host.cleanup request args
  | .register args =>
      if succeeds then
        { host with
          registered := update host.registered args.instanceId (some args.launched)
        }.move request .ended
      else host.cleanup request args
  | _ => host

/-- A call of `__try_delete_container` or `__try_delete_volume`. -/
def deleteCall (request : Nat) (succeeds : Bool) : Stage → Host
  | .look _ [] => host.move request .ended
  | .look purpose (resource :: todo) =>
      if succeeds then
        match host.docker resource, resource with
        | none, _ => host.move request (.look purpose todo)
        | some made, .container _ => host.move request (.stop purpose resource made.id todo)
        | some made, .volume _ => host.move request (.remove purpose resource made.id todo)
      -- the handler names an object that was not assigned, and raises in its turn
      else host.move request .ended
  -- a conflict counts as success; any other error is logged
  | .stop purpose resource id todo =>
      if succeeds ∧ (host.found resource id).isSome then
        host.move request (.remove purpose resource id todo)
      else host.move request (.look purpose todo)
  | .remove purpose resource id todo =>
      match host.found resource id with
      | some made =>
          if succeeds then
            (host.erase purpose resource made request).move request (.look purpose todo)
          else host.move request (.look purpose todo)
      | none => host.move request (.look purpose todo)
  | _ => host

/-- A call of `unregister_instance`, in `kill_instance`. -/
def unregisterCall (request : Nat) (succeeds : Bool) : Stage → Host
  | .unregister instanceId =>
      if succeeds then
        match host.registered instanceId with
        | none => host.move request .ended
        | some read => host.move request (.delete instanceId read)
      else host.move request .ended
  | .delete instanceId read =>
      if succeeds then
        { host with registered := update host.registered instanceId none }.move request
          (.look .kill (read.resources instanceId))
      else host.move request .ended
  | _ => host

def act (request : Nat) (succeeds : Bool) : Host :=
  match host.requests request with
  | .unregister instanceId => host.unregisterCall request succeeds (.unregister instanceId)
  | .delete instanceId read => host.unregisterCall request succeeds (.delete instanceId read)
  | .look purpose todo => host.deleteCall request succeeds (.look purpose todo)
  | .stop purpose resource id todo =>
      host.deleteCall request succeeds (.stop purpose resource id todo)
  | .remove purpose resource id todo =>
      host.deleteCall request succeeds (.remove purpose resource id todo)
  | stage => host.launchCall request succeeds stage

def step : Event → Host
  | .launch request args =>
      match host.requests request, host.registered args.instanceId with
      | .waiting, none => host.move request (.volume args)
      -- `InstanceExists`, which is raised before the `try`
      | .waiting, some _ => host.move request .ended
      | _, _ => host
  | .kill request instanceId =>
      match host.requests request with
      | .waiting => host.move request (.unregister instanceId)
      | _ => host
  | .act request succeeds => host.act request succeeds

end Host

end DockerBackend
