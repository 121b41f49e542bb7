import BlazCtf.Orchestrator.Kubernetes
import BlazCtf.Orchestrator.Launches

set_option autoImplicit false

namespace DockerBackend

open Function (update)

namespace Host

/-- A request goes on alone, with the answers that its calls get. -/
def drive (request : Nat) (host : Host) (answers : List Bool) : Host :=
  answers.foldl (fun host answer => host.act request answer) host

/-- The calls that it makes on the way, each with its answer. -/
def calls (request : Nat) : Host → List Bool → List (Stage × Bool)
  | _, [] => []
  | host, answer :: rest =>
      (host.requests request, answer) :: calls request (host.act request answer) rest

end Host

/-- The cleanup attempts to remove a resource: `__try_delete_container` or
`__try_delete_volume` looks it up. -/
def Attempted (resource : Resource) (calls : List (Stage × Bool)) : Prop :=
  ∃ todo answer, (.look .cleanup (resource :: todo), answer) ∈ calls

/-- No lookup of a container fails. One that does not find it has not failed. -/
def ContainersLookedUp (calls : List (Stage × Bool)) : Prop :=
  ∀ name todo answer, (.look .cleanup (.container name :: todo), answer) ∈ calls → answer = true

/-- Where a cleanup stands: what it has found and not removed yet, what it has left to
look up, and how many calls it makes at most. -/
inductive Cleaning (request : Nat) (host : Host) : Option Resource → List Resource → Nat → Prop
  | look {left : List Resource} (stage : host.requests request = .look .cleanup left) :
      Cleaning request host none left (3 * left.length + 1)
  | stop {resource : Resource} {id : Nat} {left : List Resource}
      (stage : host.requests request = .stop .cleanup resource id left)
      (found : (host.found resource id).isSome) :
      Cleaning request host (some resource) left (3 * left.length + 3)
  | remove {resource : Resource} {id : Nat} {left : List Resource}
      (stage : host.requests request = .remove .cleanup resource id left)
      (found : (host.found resource id).isSome) :
      Cleaning request host (some resource) left (3 * left.length + 2)

section Steps

variable {host : Host} {request : Nat} {resource : Resource} {left : List Resource} {id : Nat}

theorem act_ended (stage : host.requests request = .ended) (answer : Bool) :
    host.act request answer = host := by
  simp only [Host.act, stage, Host.launchCall]

theorem act_look_nil (stage : host.requests request = .look .cleanup []) (answer : Bool) :
    host.act request answer = host.move request .ended := by
  simp only [Host.act, stage, Host.deleteCall]

theorem act_look_fails (stage : host.requests request = .look .cleanup (resource :: left)) :
    host.act request false = host.move request .ended := by
  simp [Host.act, stage, Host.deleteCall]

/-- A lookup that does not fail goes on to the resource, if it is there, and leaves
the rest for later. -/
theorem act_look (stage : host.requests request = .look .cleanup (resource :: left)) :
    (host.act request true).docker = host.docker ∧
      ∃ held bound, Cleaning request (host.act request true) held left bound ∧
        bound ≤ 3 * left.length + 3 ∧
        (held = some resource ∨ held = none ∧ host.docker resource = none) := by
  cases present : host.docker resource with
  | none =>
      have next : host.act request true = host.move request (.look .cleanup left) := by
        simp [Host.act, stage, Host.deleteCall, present]
      rw [next]
      exact ⟨rfl, none, _, .look (Host.move_self _), by omega, Or.inr ⟨rfl, rfl⟩⟩
  | some made =>
      cases resource with
      | container name =>
          have next : host.act request true =
              host.move request (.stop .cleanup (.container name) made.id left) := by
            simp [Host.act, stage, Host.deleteCall, present]
          have found : ((host.move request
              (.stop .cleanup (.container name) made.id left)).found (.container name)
                made.id).isSome := by
            simp [Host.found, Host.move, present]
          rw [next]
          exact ⟨rfl, _, _, .stop (Host.move_self _) found, by omega, Or.inl rfl⟩
      | volume name =>
          have next : host.act request true =
              host.move request (.remove .cleanup (.volume name) made.id left) := by
            simp [Host.act, stage, Host.deleteCall, present]
          have found : ((host.move request
              (.remove .cleanup (.volume name) made.id left)).found (.volume name)
                made.id).isSome := by
            simp [Host.found, Host.move, present]
          rw [next]
          exact ⟨rfl, _, _, .remove (Host.move_self _) found, by omega, Or.inl rfl⟩

/-- Whatever comes of a `kill`, the rest is looked up. -/
theorem act_stop (stage : host.requests request = .stop .cleanup resource id left)
    (found : (host.found resource id).isSome) (answer : Bool) :
    (host.act request answer).docker = host.docker ∧
      ∃ held bound, Cleaning request (host.act request answer) held left bound ∧
        bound ≤ 3 * left.length + 2 ∧ (answer = true → held = some resource) := by
  cases answer with
  | true =>
      have next : host.act request true =
          host.move request (.remove .cleanup resource id left) := by
        simp [Host.act, stage, Host.deleteCall, found]
      have still : ((host.move request (.remove .cleanup resource id left)).found resource
          id).isSome := found
      rw [next]
      exact ⟨rfl, _, _, .remove (Host.move_self _) still, by omega, fun _ => rfl⟩
  | false =>
      have next : host.act request false = host.move request (.look .cleanup left) := by
        simp [Host.act, stage, Host.deleteCall]
      rw [next]
      exact ⟨rfl, _, _, .look (Host.move_self _), by omega, by simp⟩

theorem act_remove (stage : host.requests request = .remove .cleanup resource id left)
    (found : (host.found resource id).isSome) (answer : Bool) :
    Cleaning request (host.act request answer) none left (3 * left.length + 1) ∧
      (host.act request answer).docker =
        if answer then update host.docker resource none else host.docker := by
  obtain ⟨made, isMade⟩ := Option.isSome_iff_exists.mp found
  cases answer with
  | true =>
      have next : host.act request true =
          (host.erase .cleanup resource made request).move request (.look .cleanup left) := by
        simp [Host.act, stage, Host.deleteCall, isMade]
      rw [next]
      exact ⟨.look (Host.move_self _), rfl⟩
  | false =>
      have next : host.act request false = host.move request (.look .cleanup left) := by
        simp [Host.act, stage, Host.deleteCall, isMade]
      rw [next]
      exact ⟨.look (Host.move_self _), rfl⟩

end Steps

section Runs

variable {host : Host} {request : Nat} {held : Option Resource} {left : List Resource}
  {bound : Nat}

theorem attempted_cons {resource : Resource} {call : Stage × Bool} {later : List (Stage × Bool)}
    (attempted : Attempted resource later) : Attempted resource (call :: later) := by
  obtain ⟨todo, answer, member⟩ := attempted
  exact ⟨todo, answer, List.mem_cons_of_mem call member⟩

/-- A call at another stage than the present one is made later. -/
theorem calls_later {answer : Bool} {rest : List Bool} {call : Stage × Bool}
    (elsewhere : host.requests request ≠ call.1)
    (member : call ∈ host.calls request (answer :: rest)) :
    call ∈ (host.act request answer).calls request rest := by
  rcases List.mem_cons.mp member with rfl | later
  · exact absurd rfl elsewhere
  · exact later

theorem calls_ended (answers : List Bool) (stage : host.requests request = .ended) :
    ∀ call ∈ host.calls request answers, call.1 = .ended := by
  induction answers with
  | nil => simp [Host.calls]
  | cons answer rest ih =>
      intro call member
      rcases List.mem_cons.mp member with rfl | later
      · exact stage
      · rw [act_ended stage] at later
        exact ih call later

/-- The order of a cleanup: containers, and the volume behind them. -/
inductive VolumeLast (volume : String) : List Resource → Prop
  | alone : VolumeLast volume [.volume volume]
  | behind {name : String} {rest : List Resource} (last : VolumeLast volume rest) :
      VolumeLast volume (.container name :: rest)

theorem VolumeLast.mem {volume : String} {resources : List Resource}
    (last : VolumeLast volume resources) : .volume volume ∈ resources := by
  induction last with
  | alone => exact List.mem_cons_self
  | behind _ ih => exact List.mem_cons_of_mem _ ih

theorem resources_volumeLast (args : CreateInstanceRequest) :
    VolumeLast args.instanceId args.resources := by
  unfold CreateInstanceRequest.resources Instance.resources resources
  induction args.launched.anvilInstances ++ args.launched.daemonInstances with
  | nil => exact .alone
  | cons key rest ih => exact .behind ih

/-- With nothing left to look up there is no further lookup of a container. -/
theorem Cleaning.nothing_left (answers : List Bool) : ∀ (host : Host) (held : Option Resource)
    (bound : Nat), Cleaning request host held [] bound →
      ContainersLookedUp (host.calls request answers) := by
  induction answers with
  | nil =>
      intro host held bound _ name todo answer member
      cases member
  | cons answer rest ih =>
      intro host held bound cleaning name todo given member
      cases cleaning with
      | look stage =>
          have later := calls_later (by simp [stage]) member
          rw [act_look_nil stage] at later
          have ended := calls_ended rest (Host.move_self Stage.ended) _ later
          cases ended
      | stop stage found =>
          obtain ⟨-, held, bound, cleaning, -⟩ := act_stop stage found answer
          exact ih _ held bound cleaning name todo given (calls_later (by simp [stage]) member)
      | remove stage found =>
          exact ih _ none _ (act_remove stage found answer).1 name todo given
            (calls_later (by simp [stage]) member)

/-- If no lookup of a container fails, everything is looked up. -/
theorem Cleaning.all_attempted {volume : String} (answers : List Bool) : ∀ (host : Host)
    (held : Option Resource) (left : List Resource) (bound : Nat),
    Cleaning request host held left bound → VolumeLast volume left → bound ≤ answers.length →
      ContainersLookedUp (host.calls request answers) →
      ∀ resource ∈ left, Attempted resource (host.calls request answers) := by
  induction answers with
  | nil =>
      intro host held left bound cleaning _ enough
      cases cleaning <;> cases enough
  | cons answer rest ih =>
      intro host held left bound cleaning last enough answered resource member
      rw [List.length_cons] at enough
      have laterAnswered : ContainersLookedUp ((host.act request answer).calls request rest) :=
        fun name todo given later => answered name todo given (List.mem_cons_of_mem _ later)
      cases cleaning with
      | look stage =>
          cases last with
          | alone =>
              obtain rfl := List.mem_singleton.mp member
              exact ⟨[], answer, by simp [Host.calls, stage]⟩
          | @behind name todo last =>
              have succeeds : answer = true := answered name todo answer (by
                simp [Host.calls, stage])
              subst succeeds
              rcases List.mem_cons.mp member with rfl | member
              · exact ⟨todo, true, by simp [Host.calls, stage]⟩
              · obtain ⟨-, held, bound, cleaning, fewer, -⟩ := act_look stage
                rw [List.length_cons] at enough
                exact attempted_cons (ih _ held todo bound cleaning last (by omega) laterAnswered
                  resource member)
      | stop stage found =>
          obtain ⟨-, held, bound, cleaning, fewer, -⟩ := act_stop stage found answer
          exact attempted_cons (ih _ held left bound cleaning last (by omega) laterAnswered
            resource member)
      | remove stage found =>
          exact attempted_cons (ih _ none left _ (act_remove stage found answer).1 last (by omega)
            laterAnswered resource member)

/-- The volume comes last, so it is looked up only if no lookup of a container failed. -/
theorem Cleaning.containers_looked_up {volume : String} (answers : List Bool) :
    ∀ (host : Host) (held : Option Resource) (left : List Resource) (bound : Nat),
    Cleaning request host held left bound → VolumeLast volume left →
      Attempted (.volume volume) (host.calls request answers) →
      ContainersLookedUp (host.calls request answers) := by
  induction answers with
  | nil =>
      intro host held left bound _ _ attempted
      obtain ⟨todo, answer, member⟩ := attempted
      cases member
  | cons answer rest ih =>
      intro host held left bound cleaning last attempted name todo given member
      obtain ⟨behind, reply, reached⟩ := attempted
      cases cleaning with
      | look stage =>
          cases last with
          | alone =>
              have later := calls_later (by simp [stage]) member
              cases answer with
              | true =>
                  obtain ⟨-, held, bound, cleaning, -⟩ := act_look stage
                  exact cleaning.nothing_left rest _ held bound name todo given later
              | false =>
                  rw [act_look_fails stage] at later
                  have ended := calls_ended rest (Host.move_self Stage.ended) _ later
                  cases ended
          | behind last =>
              have reached := calls_later (by simp [stage]) reached
              cases answer with
              | true =>
                  rcases List.mem_cons.mp member with now | later
                  · exact (Prod.mk.inj now).2
                  · obtain ⟨-, held, bound, cleaning, -⟩ := act_look stage
                    exact ih _ held _ bound cleaning last ⟨behind, reply, reached⟩ name todo
                      given later
              | false =>
                  rw [act_look_fails stage] at reached
                  have ended := calls_ended rest (Host.move_self Stage.ended) _ reached
                  cases ended
      | stop stage found =>
          obtain ⟨-, held, bound, cleaning, -⟩ := act_stop stage found answer
          exact ih _ held left bound cleaning last
            ⟨behind, reply, calls_later (by simp [stage]) reached⟩ name todo given
            (calls_later (by simp [stage]) member)
      | remove stage found =>
          exact ih _ none left _ (act_remove stage found answer).1 last
            ⟨behind, reply, calls_later (by simp [stage]) reached⟩ name todo given
            (calls_later (by simp [stage]) member)

theorem drive_cons (answer : Bool) (rest : List Bool) :
    host.drive request (answer :: rest) = (host.act request answer).drive request rest := rfl

theorem drive_ended (answers : List Bool) (stage : host.requests request = .ended) :
    host.drive request answers = host := by
  induction answers with
  | nil => rfl
  | cons answer rest ih =>
      rw [drive_cons, act_ended stage]
      exact ih

/-- If every call of the cleanup succeeds, nothing remains of what it had to remove, and
nothing has come back. -/
theorem Cleaning.removes (answers : List Bool) (succeed : ∀ answer ∈ answers, answer = true) :
    ∀ (host : Host) (held : Option Resource) (left : List Resource) (bound : Nat),
    Cleaning request host held left bound → bound ≤ answers.length →
      (∀ resource, resource ∈ held ∨ resource ∈ left ∨ host.docker resource = none →
        (host.drive request answers).docker resource = none) := by
  induction answers with
  | nil =>
      intro host held left bound cleaning enough
      cases cleaning <;> cases enough
  | cons answer rest ih =>
      intro host held left bound cleaning enough resource gone
      rw [List.length_cons] at enough
      obtain rfl : answer = true := succeed answer List.mem_cons_self
      have ih := ih fun other member => succeed other (List.mem_cons_of_mem _ member)
      rw [drive_cons]
      cases cleaning with
      | look stage =>
          cases left with
          | nil =>
              rw [act_look_nil stage, drive_ended rest (Host.move_self _)]
              simpa [Host.move] using gone
          | cons first todo =>
              obtain ⟨same, held, bound, cleaning, fewer, isHeld⟩ := act_look stage
              rw [List.length_cons] at enough
              apply ih _ held todo bound cleaning (by omega) resource
              rw [same]
              rcases gone with gone | gone | gone
              · cases gone
              · rcases List.mem_cons.mp gone with rfl | gone
                · rcases isHeld with rfl | ⟨-, absent⟩
                  · exact Or.inl rfl
                  · exact Or.inr (Or.inr absent)
                · exact Or.inr (Or.inl gone)
              · exact Or.inr (Or.inr gone)
      | stop stage found =>
          obtain ⟨same, held, bound, cleaning, fewer, isHeld⟩ := act_stop stage found true
          apply ih _ held left bound cleaning (by omega) resource
          rw [same, isHeld rfl]
          exact gone
      | @remove first id _ stage found =>
          obtain ⟨cleaning, docker⟩ := act_remove stage found true
          apply ih _ none left _ cleaning (by omega) resource
          rw [docker, if_pos rfl]
          by_cases removed : resource = first
          · subst removed
            exact Or.inr (Or.inr (Function.update_self _ _ _))
          · rw [Function.update_of_ne removed]
            rcases gone with gone | gone
            · exact absurd (Option.some.inj gone).symm removed
            · exact Or.inr gone

end Runs

section Footprint

variable {host : Host} {request : Nat}

/-- A request works on these names only, as a launch and its cleanup do. -/
structure WorksOn (names : List Resource) (stage : Stage) : Prop where
  listed : stage.Listed
  footprint : stage.footprint ⊆ names
  reads : ∀ instanceId, stage ≠ .unregister instanceId

/-- A step from one host to the next under the same names. -/
def StaysOn (names : List Resource) (request : Nat) (host next : Host) : Prop :=
  WorksOn names (next.requests request) ∧ ∀ other ∉ names, next.docker other = host.docker other

theorem StaysOn.move {names : List Resource} {next : Host} {stage : Stage}
    (same : ∀ other ∉ names, next.docker other = host.docker other)
    (works : WorksOn names stage) : StaysOn names request host (next.move request stage) := by
  refine ⟨?_, same⟩
  rw [Host.move_self]
  exact works

theorem create_docker_of_ne {resource other : Resource} (different : other ≠ resource) :
    (host.create resource request).docker other = host.docker other :=
  Function.update_of_ne different _ _

theorem createVolume_docker_of_ne {instanceId : String} {other : Resource}
    (different : other ≠ .volume instanceId) :
    (host.createVolume instanceId request).docker other = host.docker other := by
  unfold Host.createVolume
  split
  · rfl
  · exact create_docker_of_ne different

theorem WorksOn.look {names left : List Resource} {purpose : Purpose} (fewer : left ⊆ names) :
    WorksOn names (.look purpose left) := ⟨trivial, fewer, by simp⟩

/-- A call of a launch creates nothing but what its request names. -/
theorem WorksOn.launchCall {names : List Resource} {stage : Stage}
    (works : WorksOn names stage) (answer : Bool) (stays : host.requests request = stage) :
    StaysOn names request host (host.launchCall request answer stage) := by
  have unchanged : StaysOn names request host host := by
    refine ⟨?_, fun _ _ => rfl⟩
    rw [stays]
    exact works
  have fails : ∀ args, stage.args? = some args →
      StaysOn names request host (host.cleanup request args) := by
    intro args launches
    apply StaysOn.move (fun _ _ => rfl) (WorksOn.look ?_)
    rw [← (Stage.launching_of_args launches).2]
    exact works.footprint
  cases stage with
  | volume args =>
      have fresh : ∀ other ∉ names,
          (host.createVolume args.instanceId request).docker other = host.docker other := by
        intro other outside
        apply createVolume_docker_of_ne
        rintro rfl
        exact outside (works.footprint (mem_resources.mpr (Or.inl rfl)))
      simp only [Host.launchCall]
      split
      · split
        · exact StaysOn.move fresh (WorksOn.look works.footprint)
        · exact StaysOn.move fresh ⟨rfl, works.footprint, by simp⟩
      · exact fails args rfl
  | create args made todo =>
      cases todo with
      | nil => exact StaysOn.move (fun _ _ => rfl) ⟨trivial, works.footprint, by simp⟩
      | cons name todo =>
          simp only [Host.launchCall]
          split
          · apply StaysOn.move
            · intro other outside
              apply create_docker_of_ne
              rintro rfl
              apply outside (works.footprint (mem_resources.mpr (Or.inr ⟨name, ?_, rfl⟩)))
              rw [← works.listed]
              exact List.mem_append_right _ List.mem_cons_self
            · exact ⟨works.listed, works.footprint, by simp⟩
          · exact fails args rfl
  | start args made current todo =>
      simp only [Host.launchCall]
      split
      · have listed : (Stage.create args (made ++ [current]) todo).Listed := by
          simpa [Stage.Listed] using works.listed
        exact StaysOn.move (fun _ _ => rfl) ⟨listed, works.footprint, by simp⟩
      · exact fails args rfl
  | inspect args todo =>
      cases todo with
      | nil =>
          simp only [Host.launchCall]
          split
          · exact StaysOn.move (fun _ _ => rfl) ⟨trivial, works.footprint, by simp⟩
          · exact fails args rfl
      | cons current todo =>
          simp only [Host.launchCall]
          split
          · exact StaysOn.move (fun _ _ => rfl) ⟨trivial, works.footprint, by simp⟩
          · exact fails args rfl
  | register args =>
      simp only [Host.launchCall]
      split
      · exact StaysOn.move (fun _ _ => rfl) ⟨trivial, List.nil_subset names, by simp⟩
      · exact fails args rfl
  | waiting | unregister | delete | look | stop | remove | ended => exact unchanged

/-- A call of `__try_delete` removes nothing but what it was given. -/
theorem WorksOn.deleteCall {names : List Resource} {stage : Stage}
    (works : WorksOn names stage) (answer : Bool) (stays : host.requests request = stage) :
    StaysOn names request host (host.deleteCall request answer stage) := by
  have unchanged : StaysOn names request host host := by
    refine ⟨?_, fun _ _ => rfl⟩
    rw [stays]
    exact works
  have ends : StaysOn names request host (host.move request .ended) :=
    StaysOn.move (fun _ _ => rfl) ⟨trivial, List.nil_subset names, by simp⟩
  cases stage with
  | look purpose todo =>
      cases todo with
      | nil => exact ends
      | cons resource todo =>
          have rest := (List.cons_subset.mp works.footprint).2
          simp only [Host.deleteCall]
          split
          · split
            · exact StaysOn.move (fun _ _ => rfl) (WorksOn.look rest)
            · exact StaysOn.move (fun _ _ => rfl) ⟨trivial, works.footprint, by simp⟩
            · exact StaysOn.move (fun _ _ => rfl) ⟨trivial, works.footprint, by simp⟩
          · exact ends
  | stop purpose resource id todo =>
      have rest := (List.cons_subset.mp works.footprint).2
      simp only [Host.deleteCall]
      split
      · exact StaysOn.move (fun _ _ => rfl) ⟨trivial, works.footprint, by simp⟩
      · exact StaysOn.move (fun _ _ => rfl) (WorksOn.look rest)
  | remove purpose resource id todo =>
      obtain ⟨own, rest⟩ := List.cons_subset.mp works.footprint
      simp only [Host.deleteCall]
      split
      · split
        · apply StaysOn.move ?_ (WorksOn.look rest)
          intro other outside
          apply Function.update_of_ne
          rintro rfl
          exact outside own
        · exact StaysOn.move (fun _ _ => rfl) (WorksOn.look rest)
      · exact StaysOn.move (fun _ _ => rfl) (WorksOn.look rest)
  | waiting | volume | create | start | inspect | register | unregister | delete | ended =>
      exact unchanged

theorem WorksOn.act {names : List Resource} (works : WorksOn names (host.requests request))
    (answer : Bool) : StaysOn names request host (host.act request answer) := by
  unfold Host.act
  cases stage : host.requests request with
  | unregister instanceId => exact absurd stage (works.reads instanceId)
  | delete instanceId read =>
      rw [stage] at works
      simp only [Host.unregisterCall]
      split
      · exact StaysOn.move (fun _ _ => rfl) (WorksOn.look works.footprint)
      · exact StaysOn.move (fun _ _ => rfl) ⟨trivial, List.nil_subset names, by simp⟩
  | look | stop | remove =>
      rw [stage] at works
      exact works.deleteCall answer stage
  | waiting | volume | create | start | inspect | register | ended =>
      rw [stage] at works
      exact works.launchCall answer stage

/-- Along a whole run, other names stay as they were. -/
theorem WorksOn.drive {names : List Resource} (answers : List Bool) : ∀ host : Host,
    WorksOn names (host.requests request) → ∀ other ∉ names,
      (host.drive request answers).docker other = host.docker other := by
  induction answers with
  | nil =>
      intro host _ other _
      rfl
  | cons answer rest ih =>
      intro host works other outside
      obtain ⟨next, same⟩ := works.act answer
      rw [drive_cons, ih _ next other outside, same other outside]

end Footprint

/-- A launch that failed: from the call of `volumes.create` on, some answers have led to
its cleanup. -/
structure FailedLaunch (request : Nat) (args : CreateInstanceRequest) (host failed : Host) :
    Prop where
  started : host.requests request = .volume args
  reached : ∃ answers, host.drive request answers = failed
  cleanup : failed.requests request = .look .cleanup args.resources

/-- The launch created nothing but what its cleanup goes through. -/
theorem FailedLaunch.created {request : Nat} {args : CreateInstanceRequest} {host failed : Host}
    (launch : FailedLaunch request args host failed) :
    ∀ resource, host.docker resource = none → failed.docker resource ≠ none →
      resource ∈ args.resources := by
  intro resource absent present
  obtain ⟨answers, rfl⟩ := launch.reached
  by_contra outside
  have works : WorksOn args.resources (host.requests request) := by
    rw [launch.started]
    exact ⟨trivial, List.Subset.refl _, by simp⟩
  exact present ((works.drive answers host resource outside).trans absent)

end DockerBackend

namespace Orchestrator

open DockerBackend (FailedLaunch Attempted ContainersLookedUp)
open KubernetesBackend (PodAttempted RaisesEarly)

/-- Of a launch that failed, whatever it was asked for and whatever step raised. With
Docker, the cleanup attempts to remove all that the launch can have created if and only
if no lookup of a container fails, and so it is for the volume alone; if all its calls
succeed, no name is left in use. With Kubernetes, a pod is removed again only if there
never was one. -/
theorem failed_launches_cleaned_iff (args : DockerBackend.CreateInstanceRequest) :
    (∀ request host failed answers, FailedLaunch request args host failed →
      3 * args.resources.length + 1 ≤ answers.length →
      ((∀ resource ∈ args.resources, Attempted resource (failed.calls request answers)) ↔
          ContainersLookedUp (failed.calls request answers)) ∧
        (Attempted (.volume args.instanceId) (failed.calls request answers) ↔
          ContainersLookedUp (failed.calls request answers)) ∧
        (∀ resource, host.docker resource = none → failed.docker resource ≠ none →
          resource ∈ args.resources) ∧
        ((∀ answer ∈ answers, answer = true) →
          (∀ resource ∈ args.resources,
            (failed.drive request answers).docker resource = none) ∧
          ∀ resource, host.docker resource = none →
            (failed.drive request answers).docker resource = none)) ∧
      ∀ (cluster : KubernetesBackend.Cluster) answers, cluster.stage = .manifest args →
        cluster.calls = [] → (cluster.drive answers).stage = .raised →
        (PodAttempted args (cluster.drive answers).calls ↔ RaisesEarly cluster args answers) := by
  constructor
  · intro request host failed answers launch enough
    have cleaning := DockerBackend.Cleaning.look launch.cleanup
    have last := DockerBackend.resources_volumeLast args
    have attempts := cleaning.all_attempted answers _ _ _ _ last enough
    have ordered := cleaning.containers_looked_up answers _ _ _ _ last
    have removes : (∀ answer ∈ answers, answer = true) → ∀ resource,
        resource ∈ args.resources ∨ failed.docker resource = none →
          (failed.drive request answers).docker resource = none := by
      intro succeed resource gone
      exact cleaning.removes answers succeed _ _ _ _ enough resource (Or.inr gone)
    refine ⟨⟨fun all => ordered (all _ last.mem), attempts⟩,
      ⟨ordered, fun answered => attempts answered _ last.mem⟩, launch.created, ?_⟩
    intro succeed
    refine ⟨fun resource member => removes succeed resource (Or.inl member), ?_⟩
    intro resource absent
    by_cases created : failed.docker resource = none
    · exact removes succeed resource (Or.inr created)
    · exact removes succeed resource (Or.inl (launch.created resource absent created))
  · intro cluster answers started fresh raised
    exact KubernetesBackend.pod_attempted_iff started fresh raised

/-- A request for one container, whose launch fails when Docker starts the container. -/
def soloRequest : DockerBackend.CreateInstanceRequest :=
  { instanceId := "i", anvilInstances := some ["main"], daemonInstances := some [] }

def soloHost : DockerBackend.Host := DockerBackend.Host.start.step (.launch 0 soloRequest)

def soloFailed : DockerBackend.Host := soloHost.drive 0 [true, true, false]

def soloCluster : KubernetesBackend.Cluster :=
  { pods := fun _ => false, stage := .manifest soloRequest, calls := [] }

theorem soloFailed_launch : FailedLaunch 0 soloRequest soloHost soloFailed where
  started := by decide
  reached := ⟨[true, true, false], rfl⟩
  cleanup := by decide

theorem solo_launch_cleaned :
    (∀ resource ∈ soloRequest.resources,
        (soloFailed.drive 0 (List.replicate 7 true)).docker resource = none) ∧
      PodAttempted soloRequest (soloCluster.drive [.done, .raises, .done]).calls := by
  obtain ⟨docker, kubernetes⟩ := failed_launches_cleaned_iff soloRequest
  constructor
  · exact ((docker 0 soloHost soloFailed (List.replicate 7 true) soloFailed_launch
      (by decide)).2.2.2 (by decide)).1
  · apply (kubernetes soloCluster [.done, .raises, .done] rfl rfl (by decide)).mpr
    right
    right
    right
    exact Or.inl rfl

/-- Docker cannot be reached when the container is looked up, and the volume stays; the
database cannot be reached after the pod was started, and the pod stays. -/
theorem failed_launches_leave_resources :
    FailedLaunch 0 soloRequest soloHost soloFailed ∧
      soloHost.docker (.volume "i") = none ∧ soloFailed.docker (.volume "i") ≠ none ∧
      ¬ Attempted (.volume "i") (soloFailed.calls 0 [false, true, true, true, true, true, true]) ∧
      (soloFailed.drive 0 [false, true, true, true, true, true, true]).docker (.volume "i") ≠
        none ∧
      (soloCluster.drive [.done, .done, .done, .done, .done, .done, .raises, .done]).stage =
        .raised ∧
      ¬ PodAttempted soloRequest
        (soloCluster.drive [.done, .done, .done, .done, .done, .done, .raises, .done]).calls ∧
      (soloCluster.drive [.done, .done, .done, .done, .done, .done, .raises, .done]).pods "i" =
        true := by
  have calls : soloFailed.calls 0 [false, true, true, true, true, true, true] =
      (.look .cleanup soloRequest.resources, false) :: List.replicate 6 (.ended, true) := by
    decide +kernel
  refine ⟨soloFailed_launch, by decide, by decide, ?_, by decide, by decide, ?_, by decide⟩
  · rintro ⟨todo, answer, member⟩
    rw [calls] at member
    simp [soloRequest, DockerBackend.CreateInstanceRequest.resources,
      DockerBackend.CreateInstanceRequest.launched, DockerBackend.Instance.resources,
      DockerBackend.resources] at member
  · intro attempted
    obtain ⟨answer, member⟩ := attempted (by decide)
    obtain ⟨added, calls, keeps⟩ := KubernetesBackend.drive_calls
      [.done, .done, .done, .done, .done, .done, .raises, .done] soloCluster
    rw [calls] at member
    exact keeps _ _ member

end Orchestrator
