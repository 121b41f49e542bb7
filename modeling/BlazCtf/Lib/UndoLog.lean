import Mathlib.Data.List.Basic

set_option autoImplicit false

namespace UndoLog

variable {σ ε : Type}

/-- Undo entries, the newest first. An entry that cannot be undone stops the whole. -/
def rewind (undo : ε → σ → Option σ) : List ε → σ → Option σ
  | [], state => some state
  | entry :: older, state => (undo entry state).bind (rewind undo older)

/-- The entries of the frames above a mark. The newest frame comes first, and in a frame the
newest entry. -/
def since (frames : List (List ε)) (mark : Nat) : List ε :=
  (frames.take (frames.length - mark)).flatten

section Rewind

variable {undo : ε → σ → Option σ} {state middle back : σ}

@[simp] theorem rewind_nil : rewind undo [] state = some state := rfl

theorem rewind_cons (entry : ε) (older : List ε) :
    rewind undo (entry :: older) state = (undo entry state).bind (rewind undo older) := rfl

theorem rewind_append (newer older : List ε) :
    rewind undo (newer ++ older) state = (rewind undo newer state).bind (rewind undo older) := by
  induction newer generalizing state with
  | nil => rfl
  | cons entry rest ih =>
      rw [List.cons_append, rewind_cons, rewind_cons]
      cases undo entry state with
      | none => rfl
      | some next => exact ih

theorem rewind_append_of_some {newer older : List ε} (head : rewind undo newer state = some middle) :
    rewind undo (newer ++ older) state = rewind undo older middle := by
  rw [rewind_append, head, Option.bind_some]

end Rewind

section Since

variable (frames : List (List ε)) {mark lower : Nat}

theorem since_top (frame : List ε) : since (frame :: frames) frames.length = frame := by
  simp [since]

/-- New entries of the newest frame come first in what is undone. -/
theorem since_record (logged frame : List ε) (below : mark < (frame :: frames).length) :
    since ((logged ++ frame) :: frames) mark = logged ++ since (frame :: frames) mark := by
  obtain ⟨count, above⟩ : ∃ count, (frame :: frames).length - mark = count + 1 :=
    ⟨(frame :: frames).length - mark - 1, by omega⟩
  have same : ((logged ++ frame) :: frames).length - mark = count + 1 := above
  rw [since, since, same, above, List.take_succ_cons, List.take_succ_cons, List.flatten_cons,
    List.flatten_cons, List.append_assoc]

theorem since_checkpoint (below : mark ≤ frames.length) :
    since ([] :: frames) mark = since frames mark := by
  have above : ([] :: frames).length - mark = (frames.length - mark) + 1 := by
    rw [List.length_cons]
    omega
  rw [since, above, List.take_succ_cons, List.flatten_cons, List.nil_append, since]

/-- What a mark has to undo below a higher mark. -/
theorem since_split (lower_le : lower ≤ mark) (below : mark ≤ frames.length) :
    since frames lower =
      since frames mark ++ since (frames.drop (frames.length - mark)) lower := by
  have length : (frames.drop (frames.length - mark)).length = mark := by
    rw [List.length_drop]
    omega
  have count : frames.length - lower = (frames.length - mark) + (mark - lower) := by omega
  rw [since, since, since, length, count, List.take_add, List.flatten_append]

end Since

/-- States that are alike for one who will go back to a snapshot: undoing an entry takes
alike states to alike states. -/
structure Discipline (undo : ε → σ → Option σ) (alike : σ → σ → σ → Prop) : Prop where
  refl : ∀ snapshot state, alike snapshot state state
  trans : ∀ snapshot first second third, alike snapshot first second →
    alike snapshot second third → alike snapshot first third
  step : ∀ snapshot entry first second back, alike snapshot first second →
    undo entry second = some back → ∃ other, undo entry first = some other ∧
      alike snapshot other back

/-- Undoing the entries of one operation takes its result to a state like the one before. -/
def Undone (undo : ε → σ → Option σ) (alike : σ → σ → σ → Prop) (snapshot : σ)
    (logged : List ε) (state next : σ) : Prop :=
  ∃ middle, rewind undo logged next = some middle ∧ alike snapshot middle state

/-- Undoing the entries leads back to a state like the snapshot. -/
def LeadsBack (undo : ε → σ → Option σ) (alike : σ → σ → σ → Prop) (entries : List ε)
    (state snapshot : σ) : Prop :=
  ∃ back, rewind undo entries state = some back ∧ alike snapshot back snapshot

section Rules

variable {undo : ε → σ → Option σ} {alike : σ → σ → σ → Prop}
  {snapshot state next first second back : σ} {logged older : List ε}

theorem Discipline.rewind (rules : Discipline undo alike) (entries : List ε)
    (same : alike snapshot first second) (undone : rewind undo entries second = some back) :
    ∃ other, UndoLog.rewind undo entries first = some other ∧ alike snapshot other back := by
  induction entries generalizing first second with
  | nil =>
      rw [rewind_nil, Option.some.injEq] at undone
      exact ⟨first, rfl, undone ▸ same⟩
  | cons entry rest ih =>
      rw [rewind_cons, Option.bind_eq_some_iff] at undone
      obtain ⟨middle, entryUndone, restUndone⟩ := undone
      obtain ⟨other, otherUndone, alikeMiddle⟩ := rules.step _ _ _ _ _ same entryUndone
      rw [rewind_cons, otherUndone, Option.bind_some]
      exact ih alikeMiddle restUndone

theorem Undone.nil (rules : Discipline undo alike) : Undone undo alike snapshot [] state state :=
  ⟨state, rfl, rules.refl snapshot state⟩

/-- Two operations one after the other. -/
theorem Undone.trans {later : List ε} {last : σ} (rules : Discipline undo alike)
    (early : Undone undo alike snapshot logged state next)
    (late : Undone undo alike snapshot later next last) :
    Undone undo alike snapshot (later ++ logged) state last := by
  obtain ⟨middle, undone, same⟩ := late
  obtain ⟨start, restUndone, alikeStart⟩ := early
  obtain ⟨other, otherUndone, alikeOther⟩ := rules.rewind _ same restUndone
  refine ⟨other, ?_, rules.trans _ _ _ _ alikeOther alikeStart⟩
  rw [rewind_append_of_some undone]
  exact otherUndone

theorem LeadsBack.record (rules : Discipline undo alike)
    (undone : Undone undo alike snapshot logged state next)
    (leads : LeadsBack undo alike older state snapshot) :
    LeadsBack undo alike (logged ++ older) next snapshot :=
  Undone.trans rules leads undone

/-- Going back part of the way does not matter for what leads back from there. -/
theorem LeadsBack.rest {newer : List ε} {middle : σ}
    (leads : LeadsBack undo alike (newer ++ older) state snapshot)
    (undone : rewind undo newer state = some middle) :
    LeadsBack undo alike older middle snapshot := by
  obtain ⟨start, all, same⟩ := leads
  rw [rewind_append_of_some undone] at all
  exact ⟨start, all, same⟩

end Rules

/-- A state, the frames of its log, and the open marks with the states they were set in, the
newest first. -/
structure Session (σ ε : Type) where
  state : σ
  frames : List (List ε)
  marks : List (Nat × σ)

/-- What a session does: an operation whose entries go to the newest frame, a new frame
under a mark, the newest mark given up, or everything undone that is above it. -/
inductive Move (undo : ε → σ → Option σ) (alike : σ → σ → σ → Prop) :
    Session σ ε → Session σ ε → Prop
  | record {state next : σ} {frame : List ε} {frames : List (List ε)} {marks : List (Nat × σ)}
      (logged : List ε)
      (undone : ∀ mark snapshot, (mark, snapshot) ∈ marks →
        Undone undo alike snapshot logged state next) :
      Move undo alike ⟨state, frame :: frames, marks⟩ ⟨next, (logged ++ frame) :: frames, marks⟩
  | checkpoint {state : σ} {frames : List (List ε)} {marks : List (Nat × σ)} :
      Move undo alike ⟨state, frames, marks⟩
        ⟨state, [] :: frames, (frames.length, state) :: marks⟩
  | commit {state : σ} {frames : List (List ε)} {mark : Nat × σ} {marks : List (Nat × σ)} :
      Move undo alike ⟨state, frames, mark :: marks⟩ ⟨state, frames, marks⟩
  | revert {state back snapshot : σ} {frames : List (List ε)} {mark : Nat}
      {marks : List (Nat × σ)}
      (undone : rewind undo (since frames mark) state = some back) :
      Move undo alike ⟨state, frames, (mark, snapshot) :: marks⟩
        ⟨back, frames.drop (frames.length - mark), marks⟩

/-- The log above each open mark leads back to its snapshot, and later marks are higher. -/
structure Covered (undo : ε → σ → Option σ) (alike : σ → σ → σ → Prop)
    (session : Session σ ε) : Prop where
  leads : ∀ mark snapshot, (mark, snapshot) ∈ session.marks → mark < session.frames.length ∧
    LeadsBack undo alike (since session.frames mark) session.state snapshot
  ordered : session.marks.Pairwise fun newer older => older.1 < newer.1

section Covered

variable {undo : ε → σ → Option σ} {alike : σ → σ → σ → Prop} {session next : Session σ ε}

theorem Covered.of_no_marks (none : session.marks = []) : Covered undo alike session where
  leads mark snapshot member := by
    rw [none] at member
    cases member
  ordered := by
    rw [none]
    exact List.Pairwise.nil

theorem Covered.move (rules : Discipline undo alike) (covered : Covered undo alike session)
    (move : Move undo alike session next) : Covered undo alike next := by
  obtain ⟨leads, ordered⟩ := covered
  cases move with
  | @record state next frame frames marks logged undone =>
      refine ⟨?_, ordered⟩
      intro mark snapshot member
      obtain ⟨below, back⟩ := leads mark snapshot member
      refine ⟨below, ?_⟩
      rw [since_record frames logged frame below]
      exact back.record rules (undone mark snapshot member)
  | @checkpoint state frames marks =>
      refine ⟨?_, List.Pairwise.cons ?_ ordered⟩
      · intro mark snapshot member
        rcases List.mem_cons.mp member with same | member
        · cases same
          refine ⟨Nat.lt_succ_self _, ?_⟩
          rw [since_top]
          exact Undone.nil rules
        · obtain ⟨below, back⟩ := leads mark snapshot member
          refine ⟨Nat.lt_succ_of_lt below, ?_⟩
          rw [since_checkpoint frames (Nat.le_of_lt below)]
          exact back
      · intro older member
        exact (leads older.1 older.2 member).1
  | @commit state frames mark marks =>
      exact ⟨fun other snapshot member => leads other snapshot (List.mem_cons_of_mem _ member),
        ordered.of_cons⟩
  | @revert state back snapshot frames mark marks undone =>
      obtain ⟨below, _⟩ := leads mark snapshot List.mem_cons_self
      refine ⟨?_, ordered.of_cons⟩
      intro other earlier member
      have lower : other < mark := List.rel_of_pairwise_cons ordered member
      have restored := (leads other earlier (List.mem_cons_of_mem _ member)).2
      rw [since_split frames (Nat.le_of_lt lower) (Nat.le_of_lt below)] at restored
      refine ⟨?_, restored.rest undone⟩
      change other < (frames.drop (frames.length - mark)).length
      rw [List.length_drop]
      have small : mark < frames.length := below
      omega

/-- In a covered session the newest mark can be gone back to, and that gives a state like the
one it was set in. -/
theorem Covered.revert {mark : Nat} {snapshot : σ} {marks : List (Nat × σ)}
    (covered : Covered undo alike session) (open_ : session.marks = (mark, snapshot) :: marks) :
    ∃ back, rewind undo (since session.frames mark) session.state = some back ∧
      alike snapshot back snapshot := by
  have member : (mark, snapshot) ∈ session.marks := by
    rw [open_]
    exact List.mem_cons_self
  exact (covered.leads mark snapshot member).2

end Covered

end UndoLog
