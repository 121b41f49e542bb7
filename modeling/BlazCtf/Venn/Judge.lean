import BlazCtf.Lib.PercentCoding
import BlazCtf.Lib.Python
import Mathlib.Data.List.Infix
import Mathlib.Logic.Function.Basic

set_option autoImplicit false

namespace Venn

open PercentCoding (hexDigit?)
open Python (Exec Result)

def policyAddress : String := "0xA0E38C68beaaEF97a571C6Ca44a090f9C64275e8"

def deadAddress : String := "0x000000000000000000000000000000000000dead"

def deadCode : String := "0xdead"

/-- A line of `benign.txt` or `attack.txt`, as `read_test_case` returns it. -/
structure TestCase where
  from_ : String
  to_ : String
  value : String
  input : String
  deriving DecidableEq

/-- The dictionary `r`. -/
structure Counts where
  passedBenignCases : Nat
  totalBenignCases : Nat
  passedAttackCases : Nat
  totalAttackCases : Nat
  deriving DecidableEq

/-- What `results` holds for a submission. -/
inductive Report where
  | text (message : String)
  | counts (r : Counts)
  deriving DecidableEq

def notReady : Report := .text "not ready"

def solved : Report := .text "solved, go back to nc and get flag"

/-- The server's globals, and the code of each account of the node that it talks to. -/
structure Server where
  results : String → Option Report
  locked : Bool
  code : String → List Nat

def Server.report (server : Server) (guid : String) (report : Report) : Server :=
  { server with results := Function.update server.results guid (some report) }

/-- The bytes of a hexadecimal text. -/
def hexBytes : List Char → List Nat
  | high :: low :: rest =>
      match hexDigit? high, hexDigit? low with
      | some first, some second => (16 * first + second) :: hexBytes rest
      | _, _ => []
  | _ => []

/-- `Challenge.isSolved` on that node. -/
def isSolved {Hash : Type} [DecidableEq Hash] (keccak256 : List Nat → Hash) (server : Server) :
    Bool :=
  keccak256 (server.code deadAddress) = keccak256 [0xde, 0xad]

structure HTTPException where
  statusCode : Nat
  detail : String
  deriving DecidableEq

/-- `submit_code`, up to the thread that it starts in the state it returns. -/
def submitCode (server : Server) (guid : String) (code : Option String) :
    Except HTTPException Server :=
  match code with
  | none => .error ⟨400, "Code is required"⟩
  | some code =>
      if code = "" then .error ⟨400, "Code is required"⟩
      else if !"0x".toList.isPrefixOf code.toList ||
          !(code.toList.drop 2).all fun char => (hexDigit? char).isSome then
        .error ⟨400, "Code must be a valid hexadecimal string starting with '0x'"⟩
      else if server.locked then .error ⟨429, "Another submission is in progress"⟩
      else .ok { server.report guid notReady with locked := true }

/-- How an `eth_call` ends: it returns, or it raises an exception with a text. -/
abbrev Answer := Except String Unit

/-- How an `anvil_setCode` request ends. The node carries it out, or answers with an error
object, which raises nothing; or there is an exception, and then the node may have carried
it out or not. -/
inductive Reply where
  | done
  | refused
  | raised (carriedOut : Bool) (message : String)
  deriving DecidableEq

/-- All that the node answers: to a `setCode`, and to each `eth_call` by its number. -/
structure Node where
  setCode : String → String → Reply
  call : Nat → TestCase → Answer

/-- A thread of `process_submission`: the number of its calls, and the accounts whose code
it has set. -/
structure Thread where
  server : Server
  calls : Nat
  coded : List String

def Thread.start (server : Server) : Thread := ⟨server, 0, []⟩

def Thread.called (thread : Thread) : Thread := { thread with calls := thread.calls + 1 }

def Thread.putCode (thread : Thread) (address code : String) : Thread :=
  { thread with
    server := { thread.server with
      code := Function.update thread.server.code address (hexBytes (code.toList.drop 2)) }
    coded := address :: thread.coded }

/-- A statement of `process_submission`; its exceptions are their texts. -/
abbrev Statement := Exec Thread String

/-- `web3.provider.make_request("anvil_setCode", [address, code])` -/
def setCode (node : Node) (address code : String) : Statement Unit := fun thread =>
  match node.setCode address code with
  | .done => (.returned (), thread.putCode address code)
  | .refused => (.returned (), thread)
  | .raised true message => (.raised message, thread.putCode address code)
  | .raised false message => (.raised message, thread)

/-- `web3.eth.call(case)` -/
def ethCall (node : Node) (case : TestCase) : Statement Unit := fun thread =>
  match node.call thread.calls case with
  | .ok () => (.returned (), thread.called)
  | .error message => (.raised message, thread.called)

/-- `results[guid] = report` -/
def setResult (guid : String) (report : Report) : Statement Unit := fun thread =>
  (.returned (), { thread with server := thread.server.report guid report })

/-- `submission_lock.release()` -/
def release : Statement Unit := fun thread =>
  if thread.server.locked then
    (.returned (), { thread with server := { thread.server with locked := false } })
  else (.raised "release unlocked lock", thread)

/-- `"revert" in str(e).lower()`. No capital letter outside ASCII has one of these letters
for its lower case. -/
def mentionsRevert (message : String) : Prop :=
  "revert".toList <:+: message.toList.map Char.toLower

instance (message : String) : Decidable (mentionsRevert message) :=
  inferInstanceAs (Decidable ("revert".toList <:+: message.toList.map Char.toLower))

/-- One benign case; `none` is a `break`. -/
def benignCase (node : Node) (case : TestCase) (r : Counts) : Statement (Option Counts) :=
  Exec.tryExcept
    (do
      ethCall node case
      pure (some { r with passedBenignCases := r.passedBenignCases + 1 }))
    (fun _ => pure none)

/-- One attack case. Neither a call that returns nor a revert is a `break`. -/
def attackCase (node : Node) (case : TestCase) (r : Counts) : Statement (Option Counts) :=
  Exec.tryExcept
    (do
      ethCall node case
      pure (some r))
    (fun message =>
      if mentionsRevert message then
        pure (some { r with passedAttackCases := r.passedAttackCases + 1 })
      else pure none)

/-- `for case in cases:` with such a body -/
def forCases (body : TestCase → Counts → Statement (Option Counts)) :
    List TestCase → Counts → Statement Counts
  | [], r => pure r
  | case :: cases, r => do
      match ← body case r with
      | some r => forCases body cases r
      | none => pure r

/-- What stands behind the loop over the benign cases when all of them passed. -/
def judgeAttacks (node : Node) (attack : List TestCase) (guid : String) (r : Counts) :
    Statement Unit := do
  let r ← forCases (attackCase node) attack r
  setCode node deadAddress deadCode
  if r.passedBenignCases = r.totalBenignCases ∧ r.passedAttackCases = r.totalAttackCases then
    setResult guid solved
  else setResult guid (.counts r)

/-- The block of the `try`. -/
def judge (node : Node) (benign attack : List TestCase) (guid code : String) :
    Statement Unit := do
  setCode node policyAddress code
  let r ← forCases (benignCase node) benign ⟨0, benign.length, 0, attack.length⟩
  if r.passedBenignCases = r.totalBenignCases then judgeAttacks node attack guid r
  else setResult guid (.counts r)

def processSubmission (node : Node) (benign attack : List TestCase) (guid code : String) :
    Statement Unit :=
  Exec.tryFinally (judge node benign attack guid code) release

section Loops

variable {node : Node} {case : TestCase} {cases : List TestCase} {r : Counts} {thread : Thread}

/-- The answers to the cases, when the first of them is the call of that number. -/
def Node.answers (node : Node) (first : Nat) (cases : List TestCase) : List Answer :=
  (cases.zipIdx first).map fun numbered => node.call numbered.2 numbered.1

def Answer.succeeded (answer : Answer) : Prop := answer = .ok ()

/-- The judge tells a revert by the text of the exception. -/
def Answer.reverted (answer : Answer) : Prop :=
  ∃ message, answer = .error message ∧ mentionsRevert message

@[simp] theorem Node.answers_nil (first : Nat) : node.answers first [] = [] := rfl

@[simp] theorem Node.answers_cons (first : Nat) :
    node.answers first (case :: cases) =
      node.call first case :: node.answers (first + 1) cases := rfl

@[simp] theorem Thread.called_calls : thread.called.calls = thread.calls + 1 := rfl

theorem ethCall_returned (answer : node.call thread.calls case = .ok ()) :
    ethCall node case thread = (.returned (), thread.called) := by
  simp only [ethCall, answer]

theorem ethCall_raised {message : String}
    (answer : node.call thread.calls case = .error message) :
    ethCall node case thread = (.raised message, thread.called) := by
  simp only [ethCall, answer]

theorem benignCase_succeeded (answer : node.call thread.calls case = .ok ()) :
    benignCase node case r thread =
      (.returned (some { r with passedBenignCases := r.passedBenignCases + 1 }),
        thread.called) :=
  Exec.tryExcept_returned (Exec.bind_returned (ethCall_returned answer))

theorem benignCase_failed {message : String}
    (answer : node.call thread.calls case = .error message) :
    benignCase node case r thread = (.returned none, thread.called) :=
  Exec.tryExcept_raised (Exec.bind_raised (ethCall_raised answer))

theorem attackCase_succeeded (answer : node.call thread.calls case = .ok ()) :
    attackCase node case r thread = (.returned (some r), thread.called) :=
  Exec.tryExcept_returned (Exec.bind_returned (ethCall_returned answer))

theorem attackCase_raised {message : String}
    (answer : node.call thread.calls case = .error message) :
    attackCase node case r thread =
      (.returned (if mentionsRevert message then
          some { r with passedAttackCases := r.passedAttackCases + 1 } else none),
        thread.called) := by
  refine (Exec.tryExcept_raised (Exec.bind_raised (ethCall_raised answer))).trans ?_
  split <;> rfl

theorem forCases_some {body : TestCase → Counts → Statement (Option Counts)} {r' : Counts}
    {thread' : Thread} (goesOn : body case r thread = (.returned (some r'), thread')) :
    forCases body (case :: cases) r thread = forCases body cases r' thread' :=
  (Exec.bind_returned goesOn).trans rfl

theorem forCases_none {body : TestCase → Counts → Statement (Option Counts)}
    {thread' : Thread} (breaks : body case r thread = (.returned none, thread')) :
    forCases body (case :: cases) r thread = (.returned r, thread') :=
  (Exec.bind_returned breaks).trans rfl

/-- The benign count: all of the cases exactly if all of the calls return. -/
theorem forCases_benign (node : Node) (cases : List TestCase) (r : Counts)
    (thread : Thread) :
    ∃ passed calls, forCases (benignCase node) cases r thread =
        (.returned { r with passedBenignCases := r.passedBenignCases + passed },
          { thread with calls := calls }) ∧
      passed ≤ cases.length ∧
      (passed = cases.length ↔ ∀ answer ∈ node.answers thread.calls cases, answer.succeeded) ∧
      (passed = cases.length → calls = thread.calls + cases.length) := by
  induction cases generalizing r thread with
  | nil => exact ⟨0, thread.calls, rfl, by simp⟩
  | cons case cases ih =>
    cases answer : node.call thread.calls case with
    | ok _ =>
      rw [forCases_some (benignCase_succeeded answer)]
      obtain ⟨passed, calls, looped, bound, all, count⟩ :=
        ih { r with passedBenignCases := r.passedBenignCases + 1 } thread.called
      refine ⟨passed + 1, calls, ?_, by simpa using bound, ?_, ?_⟩
      · rw [looped]
        simp only [Thread.called, Nat.add_assoc, Nat.add_comm 1]
      · rw [Node.answers_cons, List.forall_mem_cons, List.length_cons, Nat.add_right_cancel_iff,
          all, answer]
        simp only [Answer.succeeded, Thread.called_calls, true_and]
      · intro full
        rw [count (Nat.add_right_cancel full), List.length_cons, Thread.called_calls]
        omega
    | error message =>
      rw [forCases_none (benignCase_failed answer)]
      refine ⟨0, thread.calls + 1, rfl, Nat.zero_le _, ?_, by simp⟩
      simp [answer, Answer.succeeded]

/-- The attack count: all of the cases exactly if all of the calls revert. -/
theorem forCases_attack (node : Node) (cases : List TestCase) (r : Counts)
    (thread : Thread) :
    ∃ passed calls, forCases (attackCase node) cases r thread =
        (.returned { r with passedAttackCases := r.passedAttackCases + passed },
          { thread with calls := calls }) ∧
      passed ≤ cases.length ∧
      (passed = cases.length ↔ ∀ answer ∈ node.answers thread.calls cases, answer.reverted) := by
  induction cases generalizing r thread with
  | nil => exact ⟨0, thread.calls, rfl, by simp⟩
  | cons case cases ih =>
    cases answer : node.call thread.calls case with
    | ok _ =>
      rw [forCases_some (attackCase_succeeded answer)]
      obtain ⟨passed, calls, looped, bound, all⟩ := ih r thread.called
      refine ⟨passed, calls, looped, Nat.le_succ_of_le bound, ?_⟩
      -- one case behind for good
      have short : passed ≠ cases.length + 1 := by omega
      simp [short, answer, Answer.reverted]
    | error message =>
      have raised := attackCase_raised (r := r) answer
      by_cases revert : mentionsRevert message
      · rw [if_pos revert] at raised
        rw [forCases_some raised]
        obtain ⟨passed, calls, looped, bound, all⟩ :=
          ih { r with passedAttackCases := r.passedAttackCases + 1 } thread.called
        refine ⟨passed + 1, calls, ?_, by simpa using bound, ?_⟩
        · rw [looped]
          simp only [Thread.called, Nat.add_assoc, Nat.add_comm 1]
        · rw [Node.answers_cons, List.forall_mem_cons, List.length_cons,
            Nat.add_right_cancel_iff, all, answer]
          have reverted : Answer.reverted (.error message) := ⟨message, rfl, revert⟩
          simp only [Thread.called_calls, reverted, true_and]
      · rw [if_neg revert] at raised
        rw [forCases_none raised]
        refine ⟨0, thread.calls + 1, rfl, Nat.zero_le _, ?_⟩
        simp [answer, Answer.reverted, revert]

end Loops

section Requests

variable {node : Node} {address code : String} {thread : Thread}

def Reply.carriedOut : Reply → Bool
  | .done => true
  | .refused => false
  | .raised carriedOut _ => carriedOut

def Reply.answered : Reply → Bool
  | .raised _ _ => false
  | _ => true

/-- The thread after the request, whether it was answered or not. -/
def Thread.requested (thread : Thread) (node : Node) (address code : String) : Thread :=
  if (node.setCode address code).carriedOut then thread.putCode address code else thread

theorem setCode_answered (answered : (node.setCode address code).answered) :
    setCode node address code thread = (.returned (), thread.requested node address code) := by
  unfold setCode Thread.requested
  cases reply : node.setCode address code with
  | done => rfl
  | refused => rfl
  | raised carriedOut message => simp [reply, Reply.answered] at answered

theorem setCode_raised (raised : ¬ (node.setCode address code).answered) :
    ∃ message, setCode node address code thread =
      (.raised message, thread.requested node address code) := by
  unfold setCode Thread.requested
  cases reply : node.setCode address code with
  | done => simp [reply, Reply.answered] at raised
  | refused => simp [reply, Reply.answered] at raised
  | raised carriedOut message => cases carriedOut <;> exact ⟨message, rfl⟩

@[simp] theorem Thread.requested_results :
    (thread.requested node address code).server.results = thread.server.results := by
  unfold Thread.requested
  split <;> rfl

@[simp] theorem Thread.requested_locked :
    (thread.requested node address code).server.locked = thread.server.locked := by
  unfold Thread.requested
  split <;> rfl

@[simp] theorem Thread.requested_calls :
    (thread.requested node address code).calls = thread.calls := by
  unfold Thread.requested
  split <;> rfl

/-- Whoever sets the code of the dead address sets it to what `isSolved` looks for. -/
def Thread.Installed (thread : Thread) : Prop :=
  deadAddress ∈ thread.coded → thread.server.code deadAddress = [0xde, 0xad]

theorem Thread.Installed.requested_dead (installed : thread.Installed) :
    (thread.requested node deadAddress deadCode).Installed := by
  unfold Thread.requested
  split
  · intro _
    have bytes : hexBytes (deadCode.toList.drop 2) = [0xde, 0xad] := by decide
    simp [Thread.putCode, bytes]
  · exact installed

theorem Thread.mem_requested_coded {account : String} :
    account ∈ (thread.requested node address code).coded ↔
      (account = address ∧ (node.setCode address code).carriedOut) ∨ account ∈ thread.coded := by
  unfold Thread.requested
  split <;> simp [*, Thread.putCode]

end Requests

section Verdict

variable {node : Node} {benign attack : List TestCase} {guid code : String} {thread : Thread}

def AllSucceed (node : Node) (benign : List TestCase) : Prop :=
  ∀ answer ∈ node.answers 0 benign, answer.succeeded

/-- The attack cases are called after the benign ones. -/
def AllRevert (node : Node) (benign attack : List TestCase) : Prop :=
  ∀ answer ∈ node.answers benign.length attack, answer.reverted

/-- How a part of the judge ends: whether the lock is held, and under which conditions the
code of the dead address has been set and the submission is reported as solved. -/
structure Ends (guid : String) (locked : Bool) (coded reported : Prop)
    (ended : Result String Unit × Thread) : Prop where
  awake : ended.1 ≠ .blocked
  locked : ended.2.server.locked = locked
  coded : deadAddress ∈ ended.2.coded ↔ coded
  installed : ended.2.Installed
  reported : ended.2.server.results guid = some solved ↔ reported

variable {locked : Bool} {coded reported : Prop}

theorem setResult_ends {report : Report} (lock : thread.server.locked = locked)
    (before : deadAddress ∈ thread.coded ↔ coded) (installed : thread.Installed)
    (verdict : report = solved ↔ reported) :
    Ends guid locked coded reported (setResult guid report thread) where
  awake := by simp [setResult]
  locked := lock
  coded := before
  installed := installed
  reported := by simp [setResult, Server.report, verdict]

theorem raised_ends {message : String} (lock : thread.server.locked = locked)
    (before : deadAddress ∈ thread.coded ↔ coded) (installed : thread.Installed)
    (unsolved : thread.server.results guid ≠ some solved) (never : ¬ reported) :
    Ends guid locked coded reported (.raised message, thread) where
  awake := by simp
  locked := lock
  coded := before
  installed := installed
  reported := by simp [unsolved, never]

/-- When all benign cases have passed, the code of the dead address is set whatever came of
the attack cases. -/
theorem judgeAttacks_ends {r : Counts} (lock : thread.server.locked = locked)
    (passed : r.passedBenignCases = r.totalBenignCases) (fresh : r.passedAttackCases = 0)
    (total : r.totalAttackCases = attack.length) (calls : thread.calls = benign.length)
    (uncoded : deadAddress ∉ thread.coded)
    (unsolved : thread.server.results guid ≠ some solved) :
    Ends guid locked (node.setCode deadAddress deadCode).carriedOut
      ((node.setCode deadAddress deadCode).answered ∧ AllRevert node benign attack)
      (judgeAttacks node attack guid r thread) := by
  obtain ⟨count, calls', looped, -, all⟩ := forCases_attack node attack r thread
  rw [calls] at all
  have coded : deadAddress ∈ (Thread.requested { thread with calls := calls' } node deadAddress
      deadCode).coded ↔ (node.setCode deadAddress deadCode).carriedOut := by
    simp [Thread.mem_requested_coded, uncoded]
  have installed : (Thread.requested { thread with calls := calls' } node deadAddress
      deadCode).Installed := Thread.Installed.requested_dead fun set => absurd set uncoded
  unfold judgeAttacks
  rw [Exec.bind_returned looped]
  by_cases answered : (node.setCode deadAddress deadCode).answered
  · rw [Exec.bind_returned (setCode_answered answered)]
    simp only [passed, fresh, total, true_and, Nat.zero_add]
    by_cases full : count = attack.length
    · rw [if_pos full]
      have reverts : AllRevert node benign attack := all.mp full
      exact setResult_ends (by simpa using lock) coded installed (by simp [answered, reverts])
    · rw [if_neg full]
      have kept : ¬ AllRevert node benign attack := fun reverts => full (all.mpr reverts)
      exact setResult_ends (by simpa using lock) coded installed (by simp [solved, kept])
  · obtain ⟨message, raised⟩ := setCode_raised answered
    rw [Exec.bind_raised raised]
    exact raised_ends (by simpa using lock) coded installed (by simpa using unsolved)
      (by simp [answered])

theorem judge_ends (node : Node) (benign attack : List TestCase) (code : String)
    (uncoded : thread.coded = []) (calls : thread.calls = 0)
    (unsolved : thread.server.results guid ≠ some solved) :
    Ends guid thread.server.locked
      ((node.setCode policyAddress code).answered ∧ AllSucceed node benign ∧
        (node.setCode deadAddress deadCode).carriedOut)
      ((node.setCode policyAddress code).answered ∧ AllSucceed node benign ∧
        (node.setCode deadAddress deadCode).answered ∧ AllRevert node benign attack)
      (judge node benign attack guid code thread) := by
  have elsewhere : deadAddress ∉ (thread.requested node policyAddress code).coded := by
    simp [Thread.mem_requested_coded, uncoded, deadAddress, policyAddress]
  have installed : (thread.requested node policyAddress code).Installed :=
    fun set => absurd set elsewhere
  unfold judge
  by_cases answered : (node.setCode policyAddress code).answered
  · obtain ⟨count, calls', looped, -, all, after⟩ := forCases_benign node benign
      ⟨0, benign.length, 0, attack.length⟩ (thread.requested node policyAddress code)
    rw [Exec.bind_returned (setCode_answered answered), Exec.bind_returned looped]
    rw [Thread.requested_calls, calls] at all after
    by_cases full : count = benign.length
    · have succeed : AllSucceed node benign := all.mp full
      rw [if_pos (by simpa using full)]
      simp only [answered, succeed, true_and]
      exact judgeAttacks_ends (by simp) (by simpa using full) rfl rfl
        (by simpa using after full) elsewhere (by simpa using unsolved)
    · have fails : ¬ AllSucceed node benign := fun succeed => full (all.mpr succeed)
      rw [if_neg (by simpa using full)]
      exact setResult_ends (by simp) (by simp [elsewhere, fails]) installed
        (by simp [solved, fails])
  · obtain ⟨message, raised⟩ := setCode_raised answered
    rw [Exec.bind_raised raised]
    exact raised_ends (by simp) (by simp [elsewhere, answered]) installed
      (by simpa using unsolved) (by simp [answered])

theorem submitCode_ok {server admitted : Server} {code : Option String}
    (accepted : submitCode server guid code = .ok admitted) :
    server.locked = false ∧ admitted = { server.report guid notReady with locked := true } := by
  cases code with
  | none => simp [submitCode] at accepted
  | some code =>
    simp only [submitCode] at accepted
    split_ifs at accepted with empty invalid busy
    exact ⟨by simpa using busy, by simpa using accepted.symm⟩

/-- The `finally` block gives the lock back, whatever the judge came to. -/
theorem processSubmission_ends (node : Node) (benign attack : List TestCase)
    {server admitted : Server} (accepted : submitCode server guid (some code) = .ok admitted) :
    Ends guid false
      ((node.setCode policyAddress code).answered ∧ AllSucceed node benign ∧
        (node.setCode deadAddress deadCode).carriedOut)
      ((node.setCode policyAddress code).answered ∧ AllSucceed node benign ∧
        (node.setCode deadAddress deadCode).answered ∧ AllRevert node benign attack)
      (processSubmission node benign attack guid code (.start admitted)) := by
  obtain ⟨-, rfl⟩ := submitCode_ok accepted
  generalize started : Thread.start { server.report guid notReady with locked := true } = thread
  have unsolved : thread.server.results guid ≠ some solved := by
    simp [← started, Thread.start, Server.report, notReady, solved]
  have held : thread.server.locked = true := by rw [← started]; rfl
  obtain ⟨awake, locked, coded, installed, reported⟩ := judge_ends node benign attack code
    (by rw [← started]; rfl) (by rw [← started]; rfl) unsolved
  have released : release (judge node benign attack guid code thread).2 = (.returned (), _) :=
    if_pos (locked.trans held)
  have judged : judge node benign attack guid code thread = (_, _) := rfl
  unfold processSubmission
  rw [Exec.tryFinally_of_returned judged awake released]
  exact ⟨awake, rfl, coded, installed, reported⟩

/-- Every policy that lets the benign cases through solves the challenge. -/
theorem isSolved_of_allSucceed {Hash : Type} [DecidableEq Hash] (keccak256 : List Nat → Hash)
    {server admitted : Server} (accepted : submitCode server guid (some code) = .ok admitted)
    (policySet : (node.setCode policyAddress code).answered) (succeed : AllSucceed node benign)
    (deadSet : (node.setCode deadAddress deadCode).carriedOut) :
    isSolved keccak256
      (processSubmission node benign attack guid code (.start admitted)).2.server := by
  have ends := processSubmission_ends node benign attack accepted
  have installed := ends.installed (ends.coded.mpr ⟨policySet, succeed, deadSet⟩)
  simp only [isSolved, installed, decide_true]

/-- What a judge of policies owes: the dead address gets its code only if the submission has
passed every case, and exactly if it is reported as solved; and the next submission can come. -/
structure SoundlyJudged (node : Node) (benign attack : List TestCase) (guid : String)
    (final : Thread) : Prop where
  deserved : deadAddress ∈ final.coded → AllSucceed node benign ∧ AllRevert node benign attack
  reported : deadAddress ∈ final.coded ↔ final.server.results guid = some solved
  released : final.server.locked = false

theorem Ends.soundlyJudged_iff {ended : Result String Unit × Thread}
    (ends : Ends guid false coded reported ended)
    (reportable : reported → AllSucceed node benign ∧ AllRevert node benign attack) :
    SoundlyJudged node benign attack guid ended.2 ↔ (coded ↔ reported) := by
  constructor
  · intro sound
    rw [← ends.coded, ← ends.reported]
    exact sound.reported
  · intro agree
    refine ⟨fun set => reportable (agree.mp (ends.coded.mp set)), ?_, ends.locked⟩
    rw [ends.coded, ends.reported]
    exact agree

/-- The code of the dead address does not wait for the verdict on the attack cases. The judge
is right where it does not come to that request, or where the answer to it happens to fit. -/
theorem processSubmission_soundlyJudged_iff (node : Node) (benign attack : List TestCase)
    {server admitted : Server} (accepted : submitCode server guid (some code) = .ok admitted) :
    (processSubmission node benign attack guid code (.start admitted)).2.server.locked = false ∧
    (SoundlyJudged node benign attack guid
        (processSubmission node benign attack guid code (.start admitted)).2 ↔
      (∃ carriedOut message,
        node.setCode policyAddress code = .raised carriedOut message) ∨
      (∃ answer ∈ node.answers 0 benign, ¬ answer.succeeded) ∨
      (node.setCode deadAddress deadCode = .done ∧
        ∀ answer ∈ node.answers benign.length attack, answer.reverted) ∨
      (node.setCode deadAddress deadCode = .refused ∧
        ∃ answer ∈ node.answers benign.length attack, ¬ answer.reverted) ∨
      ∃ message, node.setCode deadAddress deadCode = .raised false message) := by
  have ends := processSubmission_ends node benign attack accepted
  refine ⟨ends.locked, (ends.soundlyJudged_iff fun holds => ⟨holds.2.1, holds.2.2.2⟩).trans ?_⟩
  have someFails : (∃ answer ∈ node.answers 0 benign, ¬ answer.succeeded) ↔
      ¬ AllSucceed node benign := by simp [AllSucceed]
  have someKept : (∃ answer ∈ node.answers benign.length attack, ¬ answer.reverted) ↔
      ¬ AllRevert node benign attack := by simp [AllRevert]
  rw [someFails, someKept]
  change _ ↔ _ ∨ _ ∨ (_ ∧ AllRevert node benign attack) ∨ _
  cases node.setCode policyAddress code with
  | raised carriedOut message => simp [Reply.answered]
  | _ =>
    cases node.setCode deadAddress deadCode with
    | done => simp [Reply.answered, Reply.carriedOut]; tauto
    | refused => simp [Reply.answered, Reply.carriedOut]; tauto
    | raised carriedOut message => simp [Reply.answered, Reply.carriedOut]; tauto

def idleServer : Server := ⟨fun _ => none, false, fun _ => []⟩

def sampleCase : TestCase := ⟨"0x01", "0x02", "0x0", "0x"⟩

/-- A node on which no policy stands in the way of any call, -/
def openNode : Node := ⟨fun _ _ => .done, fun _ _ => .ok ()⟩

/-- and one on which the policy stops what comes after the first call. -/
def guardedNode : Node :=
  ⟨fun _ _ => .done,
    fun call _ => if call = 0 then .ok () else .error "execution reverted: denied"⟩

theorem processSubmission_soundlyJudged_guarded :
    ∃ admitted, submitCode idleServer "guid" (some "0x00") = .ok admitted ∧
      SoundlyJudged guardedNode [sampleCase] [sampleCase] "guid"
        (processSubmission guardedNode [sampleCase] [sampleCase] "guid" "0x00"
          (.start admitted)).2 := by
  have accepted : submitCode idleServer "guid" (some "0x00") = .ok _ := rfl
  refine ⟨_, accepted, (processSubmission_soundlyJudged_iff guardedNode [sampleCase]
    [sampleCase] accepted).2.mpr (.inr (.inr (.inl ⟨rfl, ?_⟩)))⟩
  intro answer attacked
  have reverts : mentionsRevert "execution reverted: denied" := by decide
  rw [List.mem_singleton.mp attacked]
  exact ⟨_, rfl, reverts⟩

/-- The attack goes through, the report says so, and the dead address has its code. -/
theorem processSubmission_unearned :
    ∃ admitted, submitCode idleServer "guid" (some "0x00") = .ok admitted ∧
      (processSubmission openNode [sampleCase] [sampleCase] "guid" "0x00"
        (.start admitted)).2.server.results "guid" = some (.counts ⟨1, 1, 0, 1⟩) ∧
      deadAddress ∈ (processSubmission openNode [sampleCase] [sampleCase] "guid" "0x00"
        (.start admitted)).2.coded ∧
      ¬ SoundlyJudged openNode [sampleCase] [sampleCase] "guid"
        (processSubmission openNode [sampleCase] [sampleCase] "guid" "0x00"
          (.start admitted)).2 := by
  refine ⟨_, rfl, by decide, by decide, ?_⟩
  intro sound
  have reported := sound.reported.mp (by decide)
  exact absurd reported (by decide)

end Verdict

end Venn
