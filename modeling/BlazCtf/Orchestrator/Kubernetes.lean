import BlazCtf.Orchestrator.Docker
import Mathlib.Tactic.Tauto

set_option autoImplicit false

namespace KubernetesBackend

open DockerBackend (CreateInstanceRequest)

/-- Calls of a launch that can raise: to the API server, to a node, and the others. -/
inductive ApiCall where
  /-- the manifest, from the fields of the request -/
  | manifest
  | createNamespacedPod (name : String)
  | readNamespacedPod (name : String)
  | deleteNamespacedPod (name : String)
  | prepareNode (anvilId : String)
  /-- `UserData`, with the `timeout` of the request -/
  | userData
  | registerInstance (instanceId : String)
  deriving DecidableEq

/-- How a call ends; a pod can be `Pending`, and a node not connected yet. -/
inductive Answer where
  | raises
  | pending
  | done
  deriving DecidableEq

inductive Stage where
  | manifest (args : CreateInstanceRequest)
  | create (args : CreateInstanceRequest)
  | poll (args : CreateInstanceRequest)
  | prepare (args : CreateInstanceRequest) (todo : List String)
  | userData (args : CreateInstanceRequest)
  | register (args : CreateInstanceRequest)
  /-- `_cleanup_instance`, then `raise` -/
  | cleanup (args : CreateInstanceRequest)
  | returned
  | raised
  deriving DecidableEq

/-- The pods of the namespace, where the launch stands, and its calls so far. -/
structure Cluster where
  pods : String → Bool
  stage : Stage
  calls : List (ApiCall × Answer)

namespace Cluster

variable (cluster : Cluster)

def goTo (stage : Stage) (call : ApiCall) (answer : Answer) : Cluster :=
  { cluster with stage := stage, calls := cluster.calls ++ [(call, answer)] }

/-- `_cleanup_instance`, which this backend inherits: `pass`. -/
def cleanupInstance (_ : CreateInstanceRequest) : Cluster := cluster

/-- The next call of `launch_instance`. -/
def act (answer : Answer) : Cluster :=
  match cluster.stage with
  | .manifest args =>
      -- a list, the default of both maps, has no `items`
      if answer = .raises ∨ args.anvilInstances = none ∨ args.daemonInstances = none then
        cluster.goTo (.cleanup args) .manifest .raises
      else cluster.goTo (.create args) .manifest .done
  | .create args =>
      if answer = .raises ∨ cluster.pods args.instanceId = true then
        cluster.goTo (.cleanup args) (.createNamespacedPod args.instanceId) .raises
      else
        { cluster with pods := Function.update cluster.pods args.instanceId true }.goTo
          (.poll args) (.createNamespacedPod args.instanceId) .done
  | .poll args =>
      match answer with
      | .raises => cluster.goTo (.cleanup args) (.readNamespacedPod args.instanceId) .raises
      | .pending => cluster.goTo (.poll args) (.readNamespacedPod args.instanceId) .pending
      | .done => cluster.goTo (.prepare args args.launched.anvilInstances)
          (.readNamespacedPod args.instanceId) .done
  | .prepare args [] => { cluster with stage := .userData args }
  | .prepare args (anvilId :: todo) =>
      match answer with
      | .raises => cluster.goTo (.cleanup args) (.prepareNode anvilId) .raises
      | .pending => cluster.goTo (.prepare args (anvilId :: todo)) (.prepareNode anvilId) .pending
      | .done => cluster.goTo (.prepare args todo) (.prepareNode anvilId) .done
  | .userData args =>
      if answer = .raises then cluster.goTo (.cleanup args) .userData .raises
      else cluster.goTo (.register args) .userData .done
  | .register args =>
      if answer = .raises then
        cluster.goTo (.cleanup args) (.registerInstance args.instanceId) .raises
      else cluster.goTo .returned (.registerInstance args.instanceId) .done
  | .cleanup args => { cluster.cleanupInstance args with stage := .raised }
  | .returned => cluster
  | .raised => cluster

def drive (answers : List Answer) : Cluster := answers.foldl act cluster

end Cluster

/-- A pod that the launch created is deleted again, or at least that is attempted. -/
def PodAttempted (args : CreateInstanceRequest) (calls : List (ApiCall × Answer)) : Prop :=
  (.createNamespacedPod args.instanceId, .done) ∈ calls →
    ∃ answer, (.deleteNamespacedPod args.instanceId, answer) ∈ calls

/-- The launch raises before there is a pod: while it builds the manifest, for a map
that the request lacks, or in `create_namespaced_pod`. -/
def RaisesEarly (cluster : Cluster) (args : CreateInstanceRequest) : List Answer → Prop
  | manifest :: create :: _ =>
      manifest = .raises ∨ args.anvilInstances = none ∨ args.daemonInstances = none ∨
        create = .raises ∨ cluster.pods args.instanceId = true
  | _ => True

section Launch

variable {cluster : Cluster} {args : CreateInstanceRequest}

theorem drive_cons (answer : Answer) (rest : List Answer) :
    cluster.drive (answer :: rest) = (cluster.act answer).drive rest := rfl

theorem goTo_pods (stage : Stage) (call : ApiCall) (answer : Answer) :
    (cluster.goTo stage call answer).pods = cluster.pods := rfl

/-- Calls are only ever added, and no call deletes a pod. -/
theorem act_calls (cluster : Cluster) (answer : Answer) :
    ∃ added, (cluster.act answer).calls = cluster.calls ++ added ∧
      ∀ name given, (.deleteNamespacedPod name, given) ∉ added := by
  unfold Cluster.act
  repeat' split
  -- a stage makes one call, or none
  all_goals first
    | exact ⟨_, rfl, by simp⟩
    | exact ⟨[], (List.append_nil _).symm, by simp⟩

theorem drive_calls (answers : List Answer) : ∀ cluster : Cluster,
    ∃ added, (cluster.drive answers).calls = cluster.calls ++ added ∧
      ∀ name given, (.deleteNamespacedPod name, given) ∉ added := by
  induction answers with
  | nil =>
      intro cluster
      exact ⟨[], (List.append_nil _).symm, by simp⟩
  | cons answer rest ih =>
      intro cluster
      obtain ⟨first, now, keeps⟩ := act_calls cluster answer
      obtain ⟨second, later, keepsLater⟩ := ih (cluster.act answer)
      refine ⟨first ++ second, ?_, ?_⟩
      · rw [drive_cons, later, now, List.append_assoc]
      · intro name given member
        rcases List.mem_append.mp member with early | late
        · exact keeps name given early
        · exact keepsLater name given late

/-- The cleanup makes no call, and nothing happens after it. -/
theorem drive_raised (answers : List Answer) : ∀ cluster : Cluster,
    (cluster.stage = .raised ∨ ∃ args, cluster.stage = .cleanup args) →
      (cluster.drive answers).calls = cluster.calls := by
  induction answers with
  | nil =>
      intro cluster _
      rfl
  | cons answer rest ih =>
      intro cluster ended
      rw [drive_cons]
      rcases ended with raised | ⟨args, cleaning⟩
      · rw [show cluster.act answer = cluster by simp [Cluster.act, raised]]
        exact ih cluster (Or.inl raised)
      · have next : cluster.act answer = { cluster with stage := .raised } := by
          simp [Cluster.act, cleaning, Cluster.cleanupInstance]
        rw [next]
        exact ih _ (Or.inl rfl)

theorem act_manifest (started : cluster.stage = .manifest args) (answer : Answer) :
    cluster.act answer =
      if answer = .raises ∨ args.anvilInstances = none ∨ args.daemonInstances = none then
        cluster.goTo (.cleanup args) .manifest .raises
      else cluster.goTo (.create args) .manifest .done := by
  simp only [Cluster.act, started]

theorem act_create (creating : cluster.stage = .create args) (answer : Answer) :
    cluster.act answer =
      if answer = .raises ∨ cluster.pods args.instanceId = true then
        cluster.goTo (.cleanup args) (.createNamespacedPod args.instanceId) .raises
      else
        { cluster with pods := Function.update cluster.pods args.instanceId true }.goTo
          (.poll args) (.createNamespacedPod args.instanceId) .done := by
  simp only [Cluster.act, creating]

/-- A launch that raised has attempted to remove its pod only if it never had one. -/
theorem pod_attempted_iff {answers : List Answer} (started : cluster.stage = .manifest args)
    (fresh : cluster.calls = []) (raised : (cluster.drive answers).stage = .raised) :
    PodAttempted args (cluster.drive answers).calls ↔ RaisesEarly cluster args answers := by
  match answers with
  | [] =>
      have unstarted : cluster.stage = .raised := raised
      rw [started] at unstarted
      cases unstarted
  | [manifest] =>
      have unfinished : (cluster.act manifest).stage = .raised := raised
      rw [act_manifest started] at unfinished
      split at unfinished
      · cases unfinished
      · cases unfinished
  | manifest :: create :: rest =>
      rw [drive_cons, act_manifest started]
      by_cases unbuilt : manifest = .raises ∨ args.anvilInstances = none ∨
          args.daemonInstances = none
      · rw [if_pos unbuilt, drive_raised _ _ (Or.inr ⟨args, rfl⟩)]
        have early : RaisesEarly cluster args (manifest :: create :: rest) := by
          simp only [RaisesEarly]
          tauto
        simp [PodAttempted, Cluster.goTo, fresh, early]
      · rw [if_neg unbuilt, drive_cons, act_create rfl, goTo_pods]
        by_cases refused : create = .raises ∨ cluster.pods args.instanceId = true
        · have early : RaisesEarly cluster args (manifest :: create :: rest) := by
            simp only [RaisesEarly]
            tauto
          rw [if_pos refused, drive_raised _ _ (Or.inr ⟨args, rfl⟩)]
          simp [PodAttempted, Cluster.goTo, fresh, early]
        · have late : ¬ RaisesEarly cluster args (manifest :: create :: rest) := by
            simp only [RaisesEarly]
            tauto
          rw [if_neg refused]
          -- the pod is there, and no later call deletes it
          obtain ⟨added, calls, keeps⟩ := drive_calls rest
            ({ cluster.goTo (.create args) .manifest .done with
              pods := Function.update cluster.pods args.instanceId true }.goTo (.poll args)
                (.createNamespacedPod args.instanceId) .done)
          constructor
          · intro attempted
            obtain ⟨answer, member⟩ := attempted (by
              rw [calls]
              simp [Cluster.goTo])
            rw [calls] at member
            simp only [Cluster.goTo, fresh, List.nil_append, List.cons_append, List.mem_cons,
              Prod.mk.injEq, reduceCtorEq, false_and, false_or] at member
            exact absurd member (keeps _ _)
          · intro early
            exact absurd early late

end Launch

end KubernetesBackend
