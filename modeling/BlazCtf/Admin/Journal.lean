import BlazCtf.Admin.Authority

set_option autoImplicit false

namespace Admin

open Evm

theorem History.unchanged {start final : Node} {calls : List AdminCall}
    (history : History start calls final) (quiet : ∀ made ∈ calls, made.after = made.before) :
    final = start := by
  induction history with
  | nil => rfl
  | cons made gas _ _ ih =>
      have earlier := ih (fun other member => quiet other (List.mem_cons_of_mem made member))
      rw [quiet made List.mem_cons_self, earlier]

section Lost

/-- Only the loss of the node ends a call by an abort. -/
def Falls (ended : State × Exit) : Prop := ended.2 = .abort → ended.1.node.lost = true

theorem Falls.settle {checkpoint : World} {ended : State × Exit} (falls : Falls ended) :
    Falls (settle checkpoint ended) := by
  obtain ⟨state, exit⟩ := ended
  cases exit with
  | ok => exact falls
  | revert =>
      intro aborted
      cases aborted
  | abort => exact falls

variable (env : Env) {call : Caller} {runInit : List Frame → Frame → State → Script → State × Exit}
  (callers : List Frame) (frame : Frame) (state : State)

/-- A move that stops its frame by an abort, too. -/
def Next.Falls (moved : State × Next) : Prop := moved.2 = .stop .abort → moved.1.node.lost = true

end Lost

/-- A simulation in which no admin call takes effect. -/
def Quiet (env : Env) (state : State) : Request → Prop
  | .transaction _ => True
  | .simulation tx =>
      ∀ made ∈ (execute env (State.boot state.world state.node) tx).1.adminCalls,
        made.after = made.before

instance instDecidableQuiet (env : Env) (state : State) :
    ∀ request, Decidable (Quiet env state request)
  | .transaction _ => isTrue trivial
  | .simulation tx => inferInstanceAs (Decidable (∀ made ∈
      (execute env (State.boot state.world state.node) tx).1.adminCalls, made.after = made.before))

section Sample

end Sample

end Admin
