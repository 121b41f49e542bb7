import BlazCtf.Lib.Run
import BlazCtf.Orchestrator.Docker

set_option autoImplicit false

namespace DockerBackend

open Evm (Follows)
open Function (update)

/-- The resources whose names a request in progress may still use. -/
def Stage.footprint : Stage → List Resource
  | .volume args => args.resources
  | .create args _ _ => args.resources
  | .start args _ _ _ => args.resources
  | .inspect args _ => args.resources
  | .register args => args.resources
  | .delete instanceId read => read.resources instanceId
  | .look _ todo => todo
  | .stop _ resource _ todo => resource :: todo
  | .remove _ resource _ todo => resource :: todo
  | .waiting | .unregister _ | .ended => []

/-- A launch that has not returned yet, its cleanup included. -/
def Stage.launching : Stage → Bool
  | .volume _ | .create _ _ _ | .start _ _ _ _ | .inspect _ _ | .register _ => true
  | .look purpose _ | .stop purpose _ _ _ | .remove purpose _ _ _ => purpose = .cleanup
  | .waiting | .unregister _ | .delete _ _ | .ended => false

/-- A launch passes the check for its id only while Docker has nothing under the names
that it will use, and no other request in progress uses one of them. -/
def NamesFree (host : Host) : Event → Prop
  | .launch request args => host.requests request = .waiting →
      host.registered args.instanceId = none → ∀ resource ∈ args.resources,
        host.docker resource = none ∧
          ∀ other, other ≠ request → resource ∉ (host.requests other).footprint
  | _ => True

/-- What a launch has created so far. -/
def Stage.built : Stage → List Resource
  | .create args made _ =>
      .volume args.instanceId :: made.map fun container => .container container.name
  | .start args made current _ =>
      .volume args.instanceId :: .container current.name ::
        made.map fun container => .container container.name
  | .inspect args _ => args.resources
  | .register args => args.resources
  | _ => []

/-- The containers of a request are those created and those to come. -/
def Stage.Listed : Stage → Prop
  | .create args made todo => made.map Container.name ++ todo = args.containers
  | .start args made current todo =>
      made.map Container.name ++ current.name :: todo = args.containers
  | _ => True

/-- What holds between the database, Docker and the requests in progress. -/
structure Sound (host : Host) : Prop where
  apart : ∀ request other, request ≠ other → (host.requests request).launching →
    ∀ resource ∈ (host.requests request).footprint, resource ∉ (host.requests other).footprint
  own : ∀ request, (host.requests request).launching →
    ∀ resource ∈ (host.requests request).footprint, ∀ made, host.docker resource = some made →
      made.creator = request
  built : ∀ request, ∀ resource ∈ (host.requests request).built, host.docker resource ≠ none
  listed : ∀ request, (host.requests request).Listed
  kept : ∀ instanceId instance_, host.registered instanceId = some instance_ →
    ∀ resource ∈ instance_.resources instanceId, host.docker resource ≠ none
  disjoint : ∀ instanceId instance_, host.registered instanceId = some instance_ →
    ∀ other stored, host.registered other = some stored →
      ∀ resource ∈ instance_.resources instanceId, resource ∈ stored.resources other →
        other = instanceId
  unshared : ∀ instanceId instance_, host.registered instanceId = some instance_ →
    ∀ resource ∈ instance_.resources instanceId,
      ∀ request, resource ∈ (host.requests request).footprint →
        ∃ read, host.requests request = .delete instanceId read
  cleaned : ∀ removal ∈ host.removals, removal.purpose = .cleanup →
    removal.creator = removal.request

theorem mem_resources {args : CreateInstanceRequest} {resource : Resource} :
    resource ∈ args.resources ↔
      resource = .volume args.instanceId ∨
        ∃ name ∈ args.containers, resource = .container name := by
  simp only [CreateInstanceRequest.resources, Instance.resources, resources, List.mem_append,
    List.mem_map, List.mem_singleton, CreateInstanceRequest.containers]
  constructor
  · intro member
    rcases member with ⟨key, listed, rfl⟩ | rfl
    · exact Or.inr ⟨_, ⟨key, listed, rfl⟩, rfl⟩
    · exact Or.inl rfl
  · intro member
    rcases member with rfl | ⟨name, ⟨key, listed, rfl⟩, rfl⟩
    · exact Or.inr rfl
    · exact Or.inl ⟨key, listed, rfl⟩

theorem Host.found_eq {host : Host} {resource : Resource} {id : Nat} {made : Made}
    (found : host.found resource id = some made) : host.docker resource = some made := by
  cases resource with
  | container name => exact (Option.filter_eq_some_iff.mp found).1
  | volume name => exact found

/-- Only a launch has created something, under the names that it uses. -/
theorem Stage.built_footprint {stage : Stage} (listed : stage.Listed) {resource : Resource}
    (member : resource ∈ stage.built) : stage.launching ∧ resource ∈ stage.footprint := by
  cases stage with
  | create args made todo =>
      refine ⟨rfl, mem_resources.mpr ?_⟩
      rcases List.mem_cons.mp member with volume | created
      · exact Or.inl volume
      · obtain ⟨container, among, rfl⟩ := List.mem_map.mp created
        refine Or.inr ⟨_, ?_, rfl⟩
        rw [← listed]
        exact List.mem_append_left _ (List.mem_map_of_mem among)
  | start args made current todo =>
      refine ⟨rfl, mem_resources.mpr ?_⟩
      rcases List.mem_cons.mp member with volume | member
      · exact Or.inl volume
      rcases List.mem_cons.mp member with rfl | created
      · refine Or.inr ⟨_, ?_, rfl⟩
        rw [← listed]
        exact List.mem_append_right _ List.mem_cons_self
      · obtain ⟨container, among, rfl⟩ := List.mem_map.mp created
        refine Or.inr ⟨_, ?_, rfl⟩
        rw [← listed]
        exact List.mem_append_left _ (List.mem_map_of_mem among)
  | inspect args todo => exact ⟨rfl, member⟩
  | register args => exact ⟨rfl, member⟩
  | waiting | volume | unregister | delete | look | stop | remove | ended => cases member

/-- The request of a launch that has not failed so far. -/
def Stage.args? : Stage → Option CreateInstanceRequest
  | .volume args => some args
  | .create args _ _ => some args
  | .start args _ _ _ => some args
  | .inspect args _ => some args
  | .register args => some args
  | _ => none

theorem Stage.launching_of_args {stage : Stage} {args : CreateInstanceRequest}
    (launches : stage.args? = some args) :
    stage.launching ∧ stage.footprint = args.resources := by
  cases stage with
  | volume | create | start | inspect | register =>
      cases launches
      exact ⟨rfl, rfl⟩
  | waiting | unregister | delete | look | stop | remove | ended => cases launches

/-- What `__try_delete` has left, and who called it. -/
def Stage.deletes : Stage → Option (Purpose × List Resource)
  | .look purpose todo => some (purpose, todo)
  | .stop purpose resource _ todo => some (purpose, resource :: todo)
  | .remove purpose resource _ todo => some (purpose, resource :: todo)
  | _ => none

structure Stage.Deletes (stage : Stage) (purpose : Purpose) (names : List Resource) : Prop where
  footprint : stage.footprint = names
  launching : stage.launching = decide (purpose = .cleanup)
  built : stage.built = []
  listed : stage.Listed

theorem Stage.footprint_of_deletes {stage : Stage} {purpose : Purpose} {names : List Resource}
    (deletes : stage.deletes = some (purpose, names)) : stage.Deletes purpose names := by
  cases stage with
  | look | stop | remove =>
      cases deletes
      exact ⟨rfl, rfl, rfl, trivial⟩
  | waiting | volume | create | start | inspect | register | unregister | delete | ended =>
      cases deletes

section Steps

variable {host : Host} {request : Nat}

theorem Sound.of_start : Sound .start where
  apart := nofun
  own := nofun
  built := nofun
  listed := fun _ => trivial
  kept := nofun
  disjoint := nofun
  unshared := nofun
  cleaned := nofun

theorem Host.move_self (next : Stage) : (host.move request next).requests request = next := by
  simp only [Host.move, Function.update_self]

theorem Host.move_of_ne {other : Nat} (apart : other ≠ request) (next : Stage) :
    (host.move request next).requests other = host.requests other := by
  simp only [Host.move, Function.update_of_ne apart]

/-- A request takes a new stage: what the new stage says has to hold, and its names have
to be apart from what the others use. -/
theorem Sound.move (sound : Sound host) {next : Stage}
    (apart : ∀ other, other ≠ request → next.launching ∨ (host.requests other).launching →
      ∀ resource ∈ next.footprint, resource ∉ (host.requests other).footprint)
    (own : next.launching → ∀ resource ∈ next.footprint, ∀ made,
      host.docker resource = some made → made.creator = request)
    (built : ∀ resource ∈ next.built, host.docker resource ≠ none) (listed : next.Listed)
    (unshared : ∀ instanceId instance_, host.registered instanceId = some instance_ →
      ∀ resource ∈ instance_.resources instanceId, resource ∈ next.footprint →
        ∃ read, next = .delete instanceId read) : Sound (host.move request next) := by
  refine ⟨?_, ?_, ?_, ?_, sound.kept, sound.disjoint, ?_, sound.cleaned⟩
  · intro first second different launching resource used shared
    by_cases moved : first = request
    · subst moved
      rw [Host.move_self] at launching used
      rw [Host.move_of_ne different.symm] at shared
      exact apart second different.symm (Or.inl launching) resource used shared
    · rw [Host.move_of_ne moved] at launching used
      by_cases target : second = request
      · subst target
        rw [Host.move_self] at shared
        exact apart first moved (Or.inr launching) resource shared used
      · rw [Host.move_of_ne target] at shared
        exact sound.apart first second different launching resource used shared
  · intro other launching
    by_cases moved : other = request
    · subst moved
      rw [Host.move_self] at launching ⊢
      exact own launching
    · rw [Host.move_of_ne moved] at launching ⊢
      exact sound.own other launching
  · intro other
    by_cases moved : other = request
    · subst moved
      rw [Host.move_self]
      exact built
    · rw [Host.move_of_ne moved]
      exact sound.built other
  · intro other
    by_cases moved : other = request
    · subst moved
      rw [Host.move_self]
      exact listed
    · rw [Host.move_of_ne moved]
      exact sound.listed other
  · intro instanceId instance_ stored resource member other used
    by_cases moved : other = request
    · subst moved
      rw [Host.move_self] at used ⊢
      exact unshared instanceId instance_ stored resource member used
    · rw [Host.move_of_ne moved] at used ⊢
      exact sound.unshared instanceId instance_ stored resource member other used

/-- A request that goes on with some of the names that it used. -/
theorem Sound.narrow (sound : Sound host) {next : Stage}
    (fewer : ∀ resource ∈ next.footprint, resource ∈ (host.requests request).footprint)
    (launching : next.launching → (host.requests request).launching)
    (settled : ∀ instanceId read, host.requests request ≠ .delete instanceId read)
    (built : ∀ resource ∈ next.built, host.docker resource ≠ none) (listed : next.Listed) :
    Sound (host.move request next) := by
  apply sound.move
  · intro other different either resource used shared
    rcases either with first | second
    · exact sound.apart request other different.symm (launching first) resource
        (fewer resource used) shared
    · exact sound.apart other request different second resource shared (fewer resource used)
  · intro active resource used
    exact sound.own request (launching active) resource (fewer resource used)
  · exact built
  · exact listed
  · intro instanceId instance_ stored resource member used
    obtain ⟨read, deleting⟩ :=
      sound.unshared instanceId instance_ stored resource member request (fewer resource used)
    exact absurd deleting (settled instanceId read)

theorem Sound.finish (sound : Sound host) : Sound (host.move request .ended) := by
  apply sound.move
  · intro other different either resource used
    cases used
  · intro active
    cases active
  · intro resource member
    cases member
  · trivial
  · intro instanceId instance_ stored resource member used
    cases used

/-- A launch creates something under a name that it uses. -/
theorem Sound.create (sound : Sound host) {resource : Resource}
    (launching : (host.requests request).launching)
    (used : resource ∈ (host.requests request).footprint) :
    Sound (host.create resource request) := by
  have kept : ∀ other, host.docker other ≠ none →
      (host.create resource request).docker other ≠ none := by
    intro other present
    by_cases same : other = resource
    · subst same
      simp [Host.create]
    · simpa [Host.create, Function.update_of_ne same] using present
  refine ⟨sound.apart, ?_, ?_, sound.listed, ?_, sound.disjoint, sound.unshared, sound.cleaned⟩
  · intro other active taken member made present
    by_cases same : taken = resource
    · subst same
      simp only [Host.create, Function.update_self, Option.some.injEq] at present
      subst present
      by_contra different
      exact sound.apart request other different launching _ used member
    · simp only [Host.create, Function.update_of_ne same] at present
      exact sound.own other active taken member made present
  · intro other taken member
    exact kept taken (sound.built other taken member)
  · intro instanceId instance_ stored taken member
    exact kept taken (sound.kept instanceId instance_ stored taken member)

theorem Sound.createVolume (sound : Sound host) {instanceId : String}
    (launching : (host.requests request).launching)
    (used : .volume instanceId ∈ (host.requests request).footprint) :
    Sound (host.createVolume instanceId request) := by
  unfold Host.createVolume
  split
  · exact sound
  · exact sound.create launching used

theorem Host.createVolume_requests (instanceId : String) :
    (host.createVolume instanceId request).requests = host.requests := by
  unfold Host.createVolume
  split
  · rfl
  · rfl

theorem Host.createVolume_docker (instanceId : String) :
    (host.createVolume instanceId request).docker (.volume instanceId) ≠ none := by
  unfold Host.createVolume
  split
  · rename_i made present
    rw [present]
    exact Option.some_ne_none made
  · simp [Host.create]

/-- A request removes something under a name that it uses. What it removes belongs to no
other launch and to no instance that is registered. -/
theorem Sound.erase (sound : Sound host) {purpose : Purpose} {resource : Resource} {id : Nat}
    {todo : List Resource} {made : Made}
    (removing : host.requests request = .remove purpose resource id todo)
    (present : host.docker resource = some made) :
    Sound (host.erase purpose resource made request) := by
  have used : resource ∈ (host.requests request).footprint := by
    rw [removing]
    exact List.mem_cons_self
  have still : ∀ other, other ≠ resource → host.docker other ≠ none →
      (host.erase purpose resource made request).docker other ≠ none := by
    intro other different kept
    simpa [Host.erase, Function.update_of_ne different] using kept
  refine ⟨sound.apart, ?_, ?_, sound.listed, ?_, sound.disjoint, sound.unshared, ?_⟩
  · intro other active taken member owner found
    by_cases same : taken = resource
    · subst same
      simp [Host.erase] at found
    · simp only [Host.erase, Function.update_of_ne same] at found
      exact sound.own other active taken member owner found
  · intro other taken member
    have building := Stage.built_footprint (sound.listed other) member
    apply still taken ?_ (sound.built other taken member)
    intro same
    subst same
    by_cases self : other = request
    · subst self
      have nothing : (host.requests other).built = [] := by
        rw [removing]
        rfl
      have member : taken ∈ (host.requests other).built := member
      rw [nothing] at member
      cases member
    · exact sound.apart other request self building.1 taken building.2 used
  · intro instanceId instance_ stored taken member
    apply still taken ?_ (sound.kept instanceId instance_ stored taken member)
    intro same
    subst same
    obtain ⟨read, deleting⟩ := sound.unshared instanceId instance_ stored taken member request used
    rw [removing] at deleting
    cases deleting
  · intro removal member cleaning
    rcases List.mem_cons.mp member with rfl | earlier
    · have launching : (host.requests request).launching := by
        rw [removing]
        exact decide_eq_true cleaning
      exact sound.own request launching resource used made present
    · exact sound.cleaned removal earlier cleaning

/-- What a launch has created is registered. -/
theorem Sound.register (sound : Sound host) {args : CreateInstanceRequest}
    (registering : host.requests request = .register args) :
    Sound ({ host with
      registered := update host.registered args.instanceId (some args.launched) }.move request
        .ended) := by
  have footprint : (host.requests request).footprint = args.resources := by
    rw [registering]
    rfl
  have fresh : ∀ instanceId instance_, host.registered instanceId = some instance_ →
      ∀ resource ∈ instance_.resources instanceId, resource ∉ args.resources := by
    intro instanceId instance_ stored resource member shared
    rw [← footprint] at shared
    obtain ⟨read, deleting⟩ :=
      sound.unshared instanceId instance_ stored resource member request shared
    rw [registering] at deleting
    cases deleting
  have entry : ∀ instanceId instance_,
      update host.registered args.instanceId (some args.launched) instanceId = some instance_ →
        (instanceId = args.instanceId ∧ instance_.resources instanceId = args.resources) ∨
          host.registered instanceId = some instance_ := by
    intro instanceId instance_ stored
    by_cases same : instanceId = args.instanceId
    · subst same
      rw [Function.update_self, Option.some.injEq] at stored
      subst stored
      exact Or.inl ⟨rfl, rfl⟩
    · rw [Function.update_of_ne same] at stored
      exact Or.inr stored
  have moved : Sound (host.move request .ended) := sound.finish
  refine ⟨moved.apart, moved.own, moved.built, moved.listed, ?_, ?_, ?_, sound.cleaned⟩
  · intro instanceId instance_ stored resource member
    rcases entry instanceId instance_ stored with ⟨rfl, new⟩ | old
    · apply sound.built request
      rw [registering]
      rw [new] at member
      exact member
    · exact sound.kept instanceId instance_ old resource member
  · intro instanceId instance_ stored other also found resource member shared
    rcases entry instanceId instance_ stored with ⟨rfl, new⟩ | old
    · rcases entry other also found with ⟨rfl, _⟩ | older
      · rfl
      · rw [new] at member
        exact absurd member (fresh other also older resource shared)
    · rcases entry other also found with ⟨rfl, new⟩ | older
      · rw [new] at shared
        exact absurd shared (fresh instanceId instance_ old resource member)
      · exact sound.disjoint instanceId instance_ old other also older resource member shared
  · intro instanceId instance_ stored resource member other used
    rcases entry instanceId instance_ stored with ⟨rfl, new⟩ | old
    · by_cases same : other = request
      · subst same
        rw [Host.move_self] at used
        cases used
      · rw [Host.move_of_ne same] at used
        have launching : (host.requests request).launching := by
          rw [registering]
          rfl
        rw [new, ← footprint] at member
        exact absurd used
          (sound.apart request other (Ne.symm same) launching resource member)
    · exact moved.unshared instanceId instance_ old resource member other used

/-- `unregister_instance` has read an instance, whose names no launch uses. -/
theorem Sound.read (sound : Sound host) {instanceId : String} {read : Instance}
    (stored : host.registered instanceId = some read) :
    Sound (host.move request (.delete instanceId read)) := by
  apply sound.move
  · intro other different either resource used shared
    rcases either with active | active
    · cases active
    · obtain ⟨earlier, deleting⟩ :=
        sound.unshared instanceId read stored resource used other shared
      rw [deleting] at active
      cases active
  · intro active
    cases active
  · intro resource member
    cases member
  · trivial
  · intro other instance_ found resource member used
    have same := sound.disjoint instanceId read stored other instance_ found resource used member
    subst same
    exact ⟨read, rfl⟩

/-- Once the instance is deleted, what it used is shared with no other instance. -/
theorem Sound.delete (sound : Sound host) {instanceId : String} {read : Instance}
    (deleting : host.requests request = .delete instanceId read) :
    Sound ({ host with registered := update host.registered instanceId none }.move request
      (.look .kill (read.resources instanceId))) := by
  have footprint : (host.requests request).footprint = read.resources instanceId := by
    rw [deleting]
    rfl
  have entry : ∀ other instance_, update host.registered instanceId none other = some instance_ →
      other ≠ instanceId ∧ host.registered other = some instance_ := by
    intro other instance_ stored
    by_cases same : other = instanceId
    · subst same
      rw [Function.update_self] at stored
      cases stored
    · rw [Function.update_of_ne same] at stored
      exact ⟨same, stored⟩
  have removed : Sound { host with registered := update host.registered instanceId none } := by
    refine ⟨sound.apart, sound.own, sound.built, sound.listed, ?_, ?_, ?_, sound.cleaned⟩
    · intro other instance_ stored
      exact sound.kept other instance_ (entry other instance_ stored).2
    · intro other instance_ stored third also found
      exact sound.disjoint other instance_ (entry other instance_ stored).2 third also
        (entry third also found).2
    · intro other instance_ stored
      exact sound.unshared other instance_ (entry other instance_ stored).2
  apply removed.move
  · intro other different either resource used shared
    rcases either with active | active
    · cases active
    · rw [← footprint] at used
      exact sound.apart other request different active resource shared used
  · intro active
    cases active
  · intro resource member
    cases member
  · trivial
  · intro other instance_ stored resource member used
    obtain ⟨different, old⟩ := entry other instance_ stored
    rw [← footprint] at used
    obtain ⟨earlier, again⟩ := sound.unshared other instance_ old resource member request used
    rw [deleting, Stage.delete.injEq] at again
    exact absurd again.1.symm different

theorem Sound.launch (sound : Sound host) {args : CreateInstanceRequest}
    (waiting : host.requests request = .waiting)
    (absent : host.registered args.instanceId = none)
    (free : NamesFree host (.launch request args)) :
    Sound (host.move request (.volume args)) := by
  have unused := free waiting absent
  apply sound.move
  · intro other different _ resource used
    exact (unused resource used).2 other different
  · intro _ resource used made present
    rw [(unused resource used).1] at present
    cases present
  · intro resource member
    cases member
  · trivial
  · intro instanceId instance_ stored resource member used
    exact absurd (unused resource used).1 (sound.kept instanceId instance_ stored resource member)

/-- A launch goes on under the names of its request. -/
theorem Sound.proceed (sound : Sound host) {args : CreateInstanceRequest} {next : Stage}
    (launches : (host.requests request).args? = some args)
    (fewer : next.footprint ⊆ args.resources)
    (built : ∀ resource ∈ next.built, host.docker resource ≠ none) (listed : next.Listed) :
    Sound (host.move request next) := by
  obtain ⟨launching, footprint⟩ := Stage.launching_of_args launches
  apply sound.narrow
  · intro resource used
    rw [footprint]
    exact fewer used
  · intro _
    exact launching
  · intro instanceId read deleting
    rw [deleting] at launching
    cases launching
  · exact built
  · exact listed

/-- After a failure it goes on to delete under all of them. -/
theorem Sound.cleanup (sound : Sound host) {args : CreateInstanceRequest}
    (launches : (host.requests request).args? = some args) :
    Sound (host.cleanup request args) := by
  apply sound.proceed launches
  · exact List.Subset.refl args.resources
  · intro resource member
    cases member
  · trivial

/-- `__try_delete` goes on with some of what it had left. -/
theorem Sound.goOn (sound : Sound host) {purpose : Purpose} {names fewer : List Resource}
    {next : Stage} (deletes : (host.requests request).deletes = some (purpose, names))
    (goes : next.deletes = some (purpose, fewer)) (less : fewer ⊆ names) :
    Sound (host.move request next) := by
  have before := Stage.footprint_of_deletes deletes
  have after := Stage.footprint_of_deletes goes
  apply sound.narrow
  · intro resource used
    rw [before.footprint]
    rw [after.footprint] at used
    exact less used
  · intro launching
    rw [after.launching] at launching
    rw [before.launching]
    exact launching
  · intro instanceId read deleting
    rw [deleting] at deletes
    cases deletes
  · intro resource member
    rw [after.built] at member
    cases member
  · exact after.listed

theorem Sound.volumeCall (sound : Sound host) {args : CreateInstanceRequest}
    (stage : host.requests request = .volume args) (succeeds : Bool) :
    Sound (host.launchCall request succeeds (.volume args)) := by
  have launches : (host.requests request).args? = some args := by
    rw [stage]
    rfl
  have created : Sound (host.createVolume args.instanceId request) := by
    obtain ⟨launching, footprint⟩ := Stage.launching_of_args launches
    apply sound.createVolume launching
    rw [footprint]
    exact mem_resources.mpr (Or.inl rfl)
  have after : ((host.createVolume args.instanceId request).requests request).args? =
      some args := by
    rw [Host.createVolume_requests]
    exact launches
  simp only [Host.launchCall]
  split
  · split
    · exact created.cleanup after
    · apply created.proceed after
      · exact List.Subset.refl args.resources
      · intro resource member
        simp only [Stage.built, List.map_nil, List.mem_singleton] at member
        subst member
        exact Host.createVolume_docker args.instanceId
      · rfl
  · exact sound.cleanup launches

theorem Sound.createCall (sound : Sound host) {args : CreateInstanceRequest}
    {made : List Container} {todo : List String}
    (stage : host.requests request = .create args made todo) (succeeds : Bool) :
    Sound (host.launchCall request succeeds (.create args made todo)) := by
  have launches : (host.requests request).args? = some args := by
    rw [stage]
    rfl
  have built := sound.built request
  have listed := sound.listed request
  rw [stage] at built listed
  cases todo with
  | nil =>
      simp only [Host.launchCall]
      apply sound.proceed launches
      · exact List.Subset.refl args.resources
      · intro resource member
        apply built
        rcases mem_resources.mp member with rfl | ⟨name, among, rfl⟩
        · exact List.mem_cons_self
        · rw [← listed, List.append_nil] at among
          obtain ⟨container, created, rfl⟩ := List.mem_map.mp among
          exact List.mem_cons_of_mem _ (List.mem_map.mpr ⟨container, created, rfl⟩)
      · trivial
  | cons name todo =>
      simp only [Host.launchCall]
      split
      · have created : Sound (host.create (.container name) request) := by
          obtain ⟨launching, footprint⟩ := Stage.launching_of_args launches
          apply sound.create launching
          rw [footprint]
          refine mem_resources.mpr (Or.inr ⟨name, ?_, rfl⟩)
          rw [← listed]
          exact List.mem_append_right _ List.mem_cons_self
        have before : ∀ resource ∈ (Stage.create args made (name :: todo)).built,
            (host.create (.container name) request).docker resource ≠ none := by
          rw [← stage]
          exact created.built request
        apply created.proceed launches
        · exact List.Subset.refl args.resources
        · intro resource member
          rcases List.mem_cons.mp member with rfl | member
          · exact before _ List.mem_cons_self
          rcases List.mem_cons.mp member with rfl | earlier
          · simp [Host.create]
          · exact before _ (List.mem_cons_of_mem _ earlier)
        · exact listed
      · exact sound.cleanup launches

theorem Sound.startCall (sound : Sound host) {args : CreateInstanceRequest}
    {made : List Container} {current : Container} {todo : List String}
    (stage : host.requests request = .start args made current todo) (succeeds : Bool) :
    Sound (host.launchCall request succeeds (.start args made current todo)) := by
  have launches : (host.requests request).args? = some args := by
    rw [stage]
    rfl
  have built := sound.built request
  have listed := sound.listed request
  rw [stage] at built listed
  simp only [Host.launchCall]
  split
  · apply sound.proceed launches
    · exact List.Subset.refl args.resources
    · intro resource member
      apply built
      simp only [Stage.built, List.map_append, List.map_cons, List.map_nil, List.mem_cons,
        List.mem_append, List.not_mem_nil, or_false] at member ⊢
      rcases member with volume | earlier | now
      · exact Or.inl volume
      · exact Or.inr (Or.inr earlier)
      · exact Or.inr (Or.inl now)
    · simpa only [Stage.Listed, List.map_append, List.map_cons, List.map_nil, List.append_assoc,
        List.singleton_append] using listed
  · exact sound.cleanup launches

theorem Sound.inspectCall (sound : Sound host) {args : CreateInstanceRequest}
    {todo : List Container} (stage : host.requests request = .inspect args todo)
    (succeeds : Bool) : Sound (host.launchCall request succeeds (.inspect args todo)) := by
  have launches : (host.requests request).args? = some args := by
    rw [stage]
    rfl
  have built := sound.built request
  rw [stage] at built
  cases todo with
  | nil =>
      simp only [Host.launchCall]
      split
      · exact sound.proceed launches (List.Subset.refl _) built trivial
      · exact sound.cleanup launches
  | cons current todo =>
      simp only [Host.launchCall]
      split
      · exact sound.proceed launches (List.Subset.refl _) built trivial
      · exact sound.cleanup launches

theorem Sound.registerCall (sound : Sound host) {args : CreateInstanceRequest}
    (stage : host.requests request = .register args) (succeeds : Bool) :
    Sound (host.launchCall request succeeds (.register args)) := by
  simp only [Host.launchCall]
  split
  · exact sound.register stage
  · apply sound.cleanup
    rw [stage]
    rfl

theorem Sound.lookCall (sound : Sound host) {purpose : Purpose} {todo : List Resource}
    (stage : host.requests request = .look purpose todo) (succeeds : Bool) :
    Sound (host.deleteCall request succeeds (.look purpose todo)) := by
  have deletes : (host.requests request).deletes = some (purpose, todo) := by
    rw [stage]
    rfl
  cases todo with
  | nil => exact sound.finish
  | cons resource todo =>
      simp only [Host.deleteCall]
      split
      · split
        · exact sound.goOn deletes rfl (List.subset_cons_self _ todo)
        · exact sound.goOn deletes rfl (List.Subset.refl _)
        · exact sound.goOn deletes rfl (List.Subset.refl _)
      · exact sound.finish

theorem Sound.stopCall (sound : Sound host) {purpose : Purpose} {resource : Resource} {id : Nat}
    {todo : List Resource} (stage : host.requests request = .stop purpose resource id todo)
    (succeeds : Bool) :
    Sound (host.deleteCall request succeeds (.stop purpose resource id todo)) := by
  have deletes : (host.requests request).deletes = some (purpose, resource :: todo) := by
    rw [stage]
    rfl
  simp only [Host.deleteCall]
  split
  · exact sound.goOn deletes rfl (List.Subset.refl _)
  · exact sound.goOn deletes rfl (List.subset_cons_self resource todo)

theorem Sound.removeCall (sound : Sound host) {purpose : Purpose} {resource : Resource}
    {id : Nat} {todo : List Resource}
    (stage : host.requests request = .remove purpose resource id todo) (succeeds : Bool) :
    Sound (host.deleteCall request succeeds (.remove purpose resource id todo)) := by
  have deletes : (host.requests request).deletes = some (purpose, resource :: todo) := by
    rw [stage]
    rfl
  have fewer : todo ⊆ resource :: todo := List.subset_cons_self resource todo
  simp only [Host.deleteCall]
  split
  · rename_i made found
    split
    · exact (sound.erase stage (Host.found_eq found)).goOn deletes rfl fewer
    · exact sound.goOn deletes rfl fewer
  · exact sound.goOn deletes rfl fewer

theorem Sound.act (sound : Sound host) (succeeds : Bool) : Sound (host.act request succeeds) := by
  unfold Host.act
  cases stage : host.requests request with
  | waiting => exact sound
  | volume args => exact sound.volumeCall stage succeeds
  | create args made todo => exact sound.createCall stage succeeds
  | start args made current todo => exact sound.startCall stage succeeds
  | inspect args todo => exact sound.inspectCall stage succeeds
  | register args => exact sound.registerCall stage succeeds
  | unregister instanceId =>
      simp only [Host.unregisterCall]
      split
      · split
        · exact sound.finish
        · rename_i read stored
          exact sound.read stored
      · exact sound.finish
  | delete instanceId read =>
      simp only [Host.unregisterCall]
      split
      · exact sound.delete stage
      · exact sound.finish
  | look purpose todo => exact sound.lookCall stage succeeds
  | stop purpose resource id todo => exact sound.stopCall stage succeeds
  | remove purpose resource id todo => exact sound.removeCall stage succeeds
  | ended => exact sound

theorem Sound.step (sound : Sound host) {event : Event} (free : NamesFree host event) :
    Sound (host.step event) := by
  cases event with
  | launch request args =>
      simp only [Host.step]
      split
      · rename_i waiting absent
        exact sound.launch waiting absent free
      · exact sound.finish
      · exact sound
  | kill request instanceId =>
      simp only [Host.step]
      split
      · rename_i waiting
        apply sound.narrow
        · intro resource used
          cases used
        · intro launching
          cases launching
        · intro other read deleting
          rw [waiting] at deleting
          cases deleting
        · intro resource member
          cases member
        · trivial
      · exact sound
  | act request succeeds => exact sound.act succeeds

end Steps

/-- In every interleaving of launches and kills, with any of their calls failing, in
which a launch passes its check only while the names that it will use are free: a
registered instance has all its containers and its volume, and the cleanup of a launch
removes only what that launch created. -/
theorem launches_keep_resources (events : List Event)
    (follows : Follows NamesFree Host.step .start events) :
    let host := events.foldl Host.step .start
    (∀ instanceId instance_, host.registered instanceId = some instance_ →
      ∀ resource ∈ instance_.resources instanceId, ∃ made, host.docker resource = some made) ∧
      ∀ removal ∈ host.removals, removal.purpose = .cleanup →
        removal.creator = removal.request := by
  intro host
  have sound : Sound host :=
    Evm.foldl_invariant_of_follows Sound (fun _ _ holds free => holds.step free) events _
      Sound.of_start follows
  refine ⟨?_, sound.cleaned⟩
  intro instanceId instance_ stored resource member
  exact Option.ne_none_iff_exists'.mp (sound.kept instanceId instance_ stored resource member)

def teamArgs : CreateInstanceRequest := ⟨"team", some ["main"], none⟩

def crewArgs : CreateInstanceRequest := ⟨"crew", some ["main"], some ["bot"]⟩

/-- Two launches side by side: the first succeeds, the second cannot run its daemon. -/
def sideBySide : List Event :=
  [.launch 0 teamArgs, .launch 1 crewArgs] ++ List.replicate 7 (.act 0 true) ++
    [.act 1 true, .act 1 true, .act 1 true, .act 1 false] ++ List.replicate 7 (.act 1 true)

/-- Two launches of one id, and the second meets the container of the first. -/
def sameId : List Event :=
  [.launch 0 teamArgs, .launch 1 teamArgs] ++ List.replicate 7 (.act 0 true) ++
    List.replicate 8 (.act 1 true)

theorem follows_of_acts {host : Host} {events : List Event}
    (acts : ∀ event ∈ events, ∃ request succeeds, event = .act request succeeds) :
    Follows NamesFree Host.step host events := by
  induction events generalizing host with
  | nil => trivial
  | cons event rest ih =>
      obtain ⟨request, succeeds, rfl⟩ := acts event List.mem_cons_self
      exact ⟨trivial, ih fun later member => acts later (List.mem_cons_of_mem _ member)⟩

theorem side_by_side_kept :
    let host := sideBySide.foldl Host.step .start
    host.registered "team" = some ⟨["main"], []⟩ ∧ host.requests 1 = .ended ∧
      host.removals.length = 2 ∧
      (∃ made, host.docker (.container "team-main") = some made) ∧
      ∀ removal ∈ host.removals, removal.purpose = .cleanup →
        removal.creator = removal.request := by
  intro host
  have free : Follows NamesFree Host.step .start sideBySide := by
    refine ⟨?_, ?_, follows_of_acts ?_⟩
    · intro _ _ resource _
      exact ⟨rfl, fun other _ => List.not_mem_nil⟩
    · intro _ _ resource member
      refine ⟨rfl, ?_⟩
      intro other _
      by_cases first : other = 0
      · subst first
        revert resource
        decide +kernel
      · have idle : (Host.start.step (.launch 0 teamArgs)).requests other = .waiting :=
          Host.move_of_ne first _
        rw [idle]
        exact List.not_mem_nil
    · simp
  obtain ⟨kept, cleaned⟩ := launches_keep_resources sideBySide free
  have stored : host.registered "team" = some ⟨["main"], []⟩ := by decide +kernel
  refine ⟨stored, by decide +kernel, by decide +kernel, ?_, cleaned⟩
  exact kept "team" _ stored _ (by decide +kernel)

/-- No kill has been requested, the instance of the first launch is registered, and the
cleanup of the second has removed its container and its volume. -/
theorem same_id_removed :
    let host := sameId.foldl Host.step .start
    (∀ event ∈ sameId, ∀ request instanceId, event ≠ .kill request instanceId) ∧
      host.requests 0 = .ended ∧ host.registered "team" = some ⟨["main"], []⟩ ∧
      host.docker (.container "team-main") = none ∧ host.docker (.volume "team") = none ∧
      host.removals =
        [⟨.cleanup, 1, .volume "team", 0⟩, ⟨.cleanup, 1, .container "team-main", 0⟩] := by
  refine ⟨?_, by decide +kernel, by decide +kernel, by decide +kernel, by decide +kernel,
    by decide +kernel⟩
  simp [sameId]

end DockerBackend
