import BlazCtf.Lib.Python
import BlazCtf.Lib.Run
import BlazCtf.Orchestrator.Databases

set_option autoImplicit false

namespace Orchestrator

open Evm (Follows)
open Python (Exec Result)
open Python.Exec (Ensures)

/-- The exceptions of a call: of `sqlite3`, of `json`, and for a variable that has no
value yet. -/
inductive PyError where
  | sqlite (message : String)
  | json (message : String)
  | unboundLocal (name : String)
  deriving DecidableEq

/-- What raises in a call: `json.dumps` of the arguments, the statement, and each
`fetchone` and `json.loads` in their order. -/
structure Faults where
  dumps : Option PyError
  execute : Option PyError
  fetchone : Nat → Option PyError
  loads : Nat → Option PyError

def Faults.none : Faults := ⟨.none, .none, fun _ => .none, fun _ => .none⟩

/-- A call in progress: the table, the lock, the variable `cursor` with the rows that it
has left, and the first exception that was raised. -/
structure Frame where
  db : SQLiteDatabase
  locked : Bool
  cursor : Option (List UserData)
  original : Option PyError

abbrev Method := Exec Frame PyError

section Statements

variable {α : Type}

def raise (error : PyError) : Method α := fun frame =>
  (.raised error, { frame with original := frame.original.or (some error) })

/-- A step that may raise. -/
def fallible : Option PyError → Method Unit
  | .none => pure ()
  | .some error => raise error

/-- `self.__conn_lock.acquire()` -/
def acquire : Method Unit := fun frame =>
  if frame.locked then (.blocked, frame) else (.returned (), { frame with locked := true })

/-- `self.__conn_lock.release()`, by the holder -/
def release : Method Unit := fun frame => (.returned (), { frame with locked := false })

/-- `cursor.close()` -/
def closeCursor : Method Unit := fun frame =>
  match frame.cursor with
  | .none => raise (.unboundLocal "cursor") frame
  | .some _ => (.returned (), frame)

/-- The table after a statement and the rows that it gives, or the exception. -/
abbrev Statement := SQLiteDatabase → Except PyError (SQLiteDatabase × List UserData)

def runStatement (statement : Statement) : Method Unit := fun frame =>
  match statement frame.db with
  | .error error => raise error frame
  | .ok (db, rows) => (.returned (), { frame with db := db, cursor := some rows })

/-- `cursor = self.__conn.execute(...)` -/
def execute (fault : Option PyError) (statement : Statement) : Method Unit := do
  fallible fault
  runStatement statement

def nextRow : Method (Option UserData) := fun frame =>
  match frame.cursor with
  | .none => raise (.unboundLocal "cursor") frame
  | .some [] => (.returned .none, frame)
  | .some (row :: rows) => (.returned (some row), { frame with cursor := some rows })

/-- `cursor.fetchone()` -/
def fetchone (fault : Option PyError) : Method (Option UserData) := do
  fallible fault
  nextRow

/-- One row, or `None`. -/
def readRow (faults : Faults) : Method Reply := do
  match ← fetchone (faults.fetchone 0) with
  | .none => pure .none
  | .some row => do
      fallible (faults.loads 0)
      pure (.record row)

/-- The loop of `get_all_instances`; it ends at the latest when there are no rows left. -/
def readRows (faults : Faults) : Nat → Nat → List UserData → Method Reply
  | 0, _, result => pure (.records (result.map some))
  | rows + 1, count, result => do
      match ← fetchone (faults.fetchone count) with
      | .none => pure (.records (result.map some))
      | .some row => do
          fallible (faults.loads count)
          readRows faults rows (count + 1) (result ++ [row])

def rowsLeft : Method Nat := fun frame => (.returned (frame.cursor.getD []).length, frame)

def readAll (faults : Faults) : Method Reply := do
  let rows ← rowsLeft
  readRows faults (rows + 1) 0 []

/-- A method: what it does to get a cursor, and what it does with it, between `acquire`
and the `finally` block. -/
def withLock (opening : Method Unit) (reading : Method Reply) : Method Reply := do
  acquire
  Exec.tryFinally
    (do
      opening
      reading)
    (do
      closeCursor
      release)

end Statements

namespace SQLiteDatabase

variable (faults : Faults)

/-- A second row with the same primary key violates the constraint. -/
def insertRow (instanceId : String) (instance_ : UserData) : Statement := fun db =>
  if instanceId ∈ db.anvilInstances then
    .error (.sqlite "UNIQUE constraint failed: anvil_instances.instance_id")
  else .ok ((db.registerInstance instanceId instance_).1, [])

def updateRow (instanceId : String) (instance_ : UserData) : Statement := fun db =>
  match db.anvilInstances.lookup instanceId with
  | .none => .ok (db, [])
  | .some row =>
      .ok (⟨db.anvilInstances.insert instanceId { row with instanceData := instance_ }⟩, [])

def deleteRow (instanceId : String) : Statement := fun db =>
  .ok ((db.unregisterInstance instanceId).1,
    ((db.anvilInstances.lookup instanceId).map Row.instanceData).toList)

def selectRows (wanted : String → Row → Bool) : Statement := fun db =>
  .ok (db, (db.anvilInstances.entries.filter fun row => wanted row.1 row.2).map
    fun row => row.2.instanceData)

def registerInstanceLocked (instanceId : String) (instance_ : UserData) : Method Reply :=
  withLock
    (do
      fallible faults.dumps
      execute faults.execute (insertRow instanceId instance_))
    (pure .none)

def updateInstanceLocked (instanceId : String) (instance_ : UserData) : Method Reply :=
  withLock
    (do
      fallible faults.dumps
      execute faults.execute (updateRow instanceId instance_))
    (pure .none)

def unregisterInstanceLocked (instanceId : String) : Method Reply :=
  withLock (execute faults.execute (deleteRow instanceId)) (readRow faults)

def getAllInstancesLocked : Method Reply :=
  withLock (execute faults.execute (selectRows fun _ _ => true)) (readAll faults)

def getInstanceByExternalIdLocked (rpcId : String) : Method Reply :=
  withLock (execute faults.execute (selectRows fun _ row => row.rpcId = some rpcId))
    (readRow faults)

def getInstanceLocked (instanceId : String) : Method Reply :=
  withLock (execute faults.execute (selectRows fun key _ => key = instanceId)) (readRow faults)

end SQLiteDatabase

/-- The methods of `SQLiteDatabase`; the last three are inherited and do nothing. -/
inductive SqliteCall where
  | registerInstance (instanceId : String) (instance_ : UserData)
  | updateInstance (instanceId : String) (instance_ : UserData)
  | unregisterInstance (instanceId : String)
  | getAllInstances
  | getInstanceByExternalId (rpcId : String)
  | getInstance (instanceId : String)
  | getExpiredInstances
  | getMetadata (instanceId : String)
  | updateMetadata (instanceId : String) (metadata : List (String × String))

def SqliteCall.method (faults : Faults) : SqliteCall → Method Reply
  | .registerInstance instanceId instance_ =>
      SQLiteDatabase.registerInstanceLocked faults instanceId instance_
  | .updateInstance instanceId instance_ =>
      SQLiteDatabase.updateInstanceLocked faults instanceId instance_
  | .unregisterInstance instanceId => SQLiteDatabase.unregisterInstanceLocked faults instanceId
  | .getAllInstances => SQLiteDatabase.getAllInstancesLocked faults
  | .getInstanceByExternalId rpcId => SQLiteDatabase.getInstanceByExternalIdLocked faults rpcId
  | .getInstance instanceId => SQLiteDatabase.getInstanceLocked faults instanceId
  | .getExpiredInstances => pure inherited
  | .getMetadata _ => pure inherited
  | .updateMetadata _ _ => pure inherited

def SqliteCall.takesLock : SqliteCall → Bool
  | .getExpiredInstances | .getMetadata _ | .updateMetadata _ _ => false
  | _ => true

/-- What the calls share. -/
structure Connection where
  db : SQLiteDatabase
  locked : Bool

def Connection.enter (connection : Connection) : Frame :=
  ⟨connection.db, connection.locked, .none, .none⟩

def Connection.invoke (connection : Connection) (made : SqliteCall × Faults) :
    Result PyError Reply × Frame :=
  made.1.method made.2 connection.enter

def Connection.after (connection : Connection) (made : SqliteCall × Faults) : Connection :=
  ⟨(connection.invoke made).2.db, (connection.invoke made).2.locked⟩

/-- The call returns or raises, it leaves the lock free, and what it raises is what was
raised first. -/
structure ReleasesLock (connection : Connection) (made : SqliteCall × Faults) : Prop where
  ends : (connection.invoke made).1 ≠ .blocked
  free : (connection.after made).locked = false
  original : ∀ error, (connection.invoke made).1 = .raised error →
    (connection.invoke made).2.original = some error

/-- The call gets its cursor: neither `json.dumps` nor the statement raises. -/
def GetsCursor (connection : Connection) (made : SqliteCall × Faults) : Prop :=
  match made.1 with
  | .registerInstance instanceId _ =>
      made.2.dumps = .none ∧ made.2.execute = .none ∧ instanceId ∉ connection.db.anvilInstances
  | .updateInstance _ _ => made.2.dumps = .none ∧ made.2.execute = .none
  | .unregisterInstance _ => made.2.execute = .none
  | .getAllInstances => made.2.execute = .none
  | .getInstanceByExternalId _ => made.2.execute = .none
  | .getInstance _ => made.2.execute = .none
  | .getExpiredInstances => True
  | .getMetadata _ => True
  | .updateMetadata _ _ => True

/-- A call of the interface, as a call of this class. -/
def Op.sqlite : Op → SqliteCall
  | .registerInstance instanceId instance_ => .registerInstance instanceId instance_
  | .unregisterInstance instanceId => .unregisterInstance instanceId
  | .updateMetadata instanceId metadata => .updateMetadata instanceId metadata
  | .getInstance instanceId => .getInstance instanceId
  | .getInstanceByExternalId externalId => .getInstanceByExternalId externalId
  | .getAllInstances => .getAllInstances
  | .getExpiredInstances _ => .getExpiredInstances

section Refinement

variable {db after : SQLiteDatabase} {rows : List UserData}

theorem readRow_returns (db : SQLiteDatabase) (rows : List UserData) :
    readRow .none ⟨db, true, some rows, .none⟩ =
      (.returned (.ofOption rows.head?), ⟨db, true, some rows.tail, .none⟩) := by
  cases rows with
  | nil => rfl
  | cons row rows => rfl

/-- The loop returns all rows, and has steps for all of them. -/
theorem readRows_returns (db : SQLiteDatabase) (rows : List UserData) : ∀ count result,
    readRows .none (rows.length + 1) count result ⟨db, true, some rows, .none⟩ =
      (.returned (.records ((result ++ rows).map some)), ⟨db, true, some [], .none⟩) := by
  induction rows with
  | nil =>
      intro count result
      rw [List.append_nil]
      rfl
  | cons row rows ih =>
      intro count result
      have next := ih (count + 1) (result ++ [row])
      rw [List.append_assoc, List.singleton_append] at next
      exact next

theorem readAll_returns (db : SQLiteDatabase) (rows : List UserData) :
    readAll .none ⟨db, true, some rows, .none⟩ =
      (.returned (.records (rows.map some)), ⟨db, true, some [], .none⟩) :=
  readRows_returns db rows 0 []

/-- Where nothing raises, the method does what its statement and its reading do. -/
theorem withLock_returns {statement : Statement} {reading : Method Reply} {reply : Reply}
    {left : List UserData} (accepted : statement db = .ok (after, rows))
    (read : reading ⟨after, true, some rows, .none⟩ =
      (.returned reply, ⟨after, true, some left, .none⟩)) :
    withLock (execute .none statement) reading (Connection.enter ⟨db, false⟩) =
      (.returned reply, ⟨after, false, some left, .none⟩) := by
  have opened : execute .none statement ⟨db, true, .none, .none⟩ =
      (.returned (), ⟨after, true, some rows, .none⟩) := by
    show runStatement statement ⟨db, true, .none, .none⟩ = _
    simp only [runStatement, accepted]
  have body : (do execute .none statement; reading : Method Reply) ⟨db, true, .none, .none⟩ =
      (.returned reply, ⟨after, true, some left, .none⟩) := by
    rw [Python.Exec.bind_returned opened, read]
  exact Python.Exec.tryFinally_of_returned body (by simp) rfl

theorem reader_returns {statement : Statement} (accepted : statement db = .ok (after, rows)) :
    withLock (execute .none statement) (readRow .none) (Connection.enter ⟨db, false⟩) =
      (.returned (.ofOption rows.head?), ⟨after, false, some rows.tail, .none⟩) :=
  withLock_returns accepted (readRow_returns after rows)

theorem lookup_eq_head (table : Table Row) (instanceId : String) :
    (table.lookup instanceId).map Row.instanceData =
      ((table.entries.filter fun row => row.1 = instanceId).map
        fun row => row.2.instanceData).head? := by
  unfold AList.lookup
  induction table.entries with
  | nil => rfl
  | cons entry rest ih =>
      obtain ⟨key, row⟩ := entry
      by_cases here : key = instanceId
      · subst here
        simp
      · rw [List.dlookup_cons_ne _ _ (Ne.symm here), ih]
        simp [here]

/-- Where nothing raises and the lock is free, the methods are those of the interface,
and the lock is free again. -/
theorem invoke_refines (db : SQLiteDatabase) (op : Op) (accepted : (db.call op).2 ≠ .raised) :
    ∃ cursor, Connection.invoke ⟨db, false⟩ (op.sqlite, .none) =
      (.returned (db.call op).2, ⟨(db.call op).1, false, cursor, .none⟩) := by
  cases op with
  | registerInstance instanceId instance_ =>
      have absent : instanceId ∉ db.anvilInstances := by
        intro present
        apply accepted
        simp [SQLiteDatabase.call, SQLiteDatabase.registerInstance, present]
      have inserted : SQLiteDatabase.insertRow instanceId instance_ db =
          .ok ((db.registerInstance instanceId instance_).1, []) := if_neg absent
      have reply : (db.registerInstance instanceId instance_).2 = .none := by
        simp [SQLiteDatabase.registerInstance, absent]
      refine ⟨some [], ?_⟩
      simp only [SQLiteDatabase.call, reply]
      exact withLock_returns inserted rfl
  | unregisterInstance instanceId =>
      have deleted : SQLiteDatabase.deleteRow instanceId db =
          .ok (⟨db.anvilInstances.erase instanceId⟩,
            ((db.anvilInstances.lookup instanceId).map Row.instanceData).toList) := rfl
      have returned := reader_returns deleted
      rw [Option.head?_toList] at returned
      exact ⟨_, returned⟩
  | updateMetadata instanceId metadata => exact ⟨.none, rfl⟩
  | getInstance instanceId =>
      have selected : SQLiteDatabase.selectRows (fun key _ => key = instanceId) db =
          .ok (db, (db.anvilInstances.entries.filter fun row => row.1 = instanceId).map
            fun row => row.2.instanceData) := rfl
      have returned := reader_returns selected
      rw [← lookup_eq_head] at returned
      exact ⟨_, returned⟩
  | getInstanceByExternalId externalId =>
      have selected : SQLiteDatabase.selectRows (fun _ row => row.rpcId = some externalId) db =
          .ok (db, (db.anvilInstances.entries.filter fun row =>
            row.2.rpcId = some externalId).map fun row => row.2.instanceData) := rfl
      have returned := reader_returns selected
      rw [List.head?_map, List.head?_filter] at returned
      exact ⟨_, returned⟩
  | getAllInstances =>
      refine ⟨some [], ?_⟩
      have all : SQLiteDatabase.selectRows (fun _ _ => true) db =
          .ok (db, db.anvilInstances.entries.map fun row => row.2.instanceData) := by
        simp [SQLiteDatabase.selectRows]
      have returned := withLock_returns all (readAll_returns db _)
      rw [List.map_map] at returned
      exact returned
  | getExpiredInstances now => exact ⟨.none, rfl⟩

end Refinement

/-- The lock is held, the cursor is there, and this is the first exception. -/
def Reading (original : Option PyError) (frame : Frame) : Prop :=
  frame.locked = true ∧ frame.cursor.isSome = true ∧ frame.original = original

/-- The lock is held, and there is no cursor to close. -/
def Opening (original : Option PyError) (frame : Frame) : Prop :=
  frame.locked = true ∧ frame.cursor = .none ∧ frame.original = original

/-- Code that works with the cursor, and raises nothing but what was raised first. -/
def Reads {α : Type} (reading : Method α) : Prop :=
  Ensures (Reading .none) reading (fun _ => Reading .none) (fun error => Reading (some error))

section Reading

variable {α β : Type}

theorem reads_pure (value : α) : Reads (pure value : Method α) :=
  Python.Exec.ensures_pure fun _ reading => reading

theorem Reads.bind {first : Method α} {next : α → Method β} (head : Reads first)
    (tail : ∀ value, Reads (next value)) : Reads (first >>= next) :=
  Ensures.bind head tail

theorem reads_fallible (fault : Option PyError) : Reads (fallible fault) := by
  cases fault with
  | none => exact reads_pure ()
  | some error =>
      rintro frame ⟨locked, bound, clean⟩
      right
      refine ⟨error, _, rfl, locked, bound, ?_⟩
      simp only [clean, Option.none_or]

theorem reads_nextRow : Reads nextRow := by
  rintro frame ⟨locked, bound, clean⟩
  obtain ⟨rows, isRows⟩ := Option.isSome_iff_exists.mp bound
  left
  cases rows with
  | nil => exact ⟨.none, frame, by simp only [nextRow, isRows], locked, bound, clean⟩
  | cons row rows =>
      exact ⟨some row, { frame with cursor := some rows }, by simp only [nextRow, isRows], locked,
        rfl, clean⟩

theorem reads_fetchone (fault : Option PyError) : Reads (fetchone fault) :=
  (reads_fallible fault).bind fun _ => reads_nextRow

theorem reads_readRow (faults : Faults) : Reads (readRow faults) := by
  apply (reads_fetchone (faults.fetchone 0)).bind
  intro found
  cases found with
  | none => exact reads_pure _
  | some row => exact (reads_fallible (faults.loads 0)).bind fun _ => reads_pure _

theorem reads_readRows (faults : Faults) (rows : Nat) : ∀ count result,
    Reads (readRows faults rows count result) := by
  induction rows with
  | zero =>
      intro count result
      exact reads_pure _
  | succ rows ih =>
      intro count result
      apply (reads_fetchone (faults.fetchone count)).bind
      intro found
      cases found with
      | none => exact reads_pure _
      | some row => exact (reads_fallible (faults.loads count)).bind fun _ => ih _ _

theorem reads_rowsLeft : Reads rowsLeft := by
  intro frame reading
  exact Or.inl ⟨_, frame, rfl, reading⟩

end Reading

section Opening

/-- The steps up to the cursor succeed if and only if the condition holds, and without
a cursor they have raised. -/
def OpensIff (db : SQLiteDatabase) (opening : Method Unit) (condition : Prop) : Prop :=
  ∀ frame, frame.db = db → Opening .none frame →
    (condition ∧ ∃ next, opening frame = (.returned (), next) ∧ Reading .none next) ∨
      (¬ condition ∧ ∃ error next, opening frame = (.raised error, next) ∧
        Opening (some error) next)

variable {db : SQLiteDatabase}

theorem raise_opening {frame : Frame} (opening : Opening .none frame) (error : PyError) :
    ∃ next, (raise error : Method Unit) frame = (.raised error, next) ∧
      Opening (some error) next := by
  obtain ⟨locked, unbound, clean⟩ := opening
  refine ⟨_, rfl, locked, unbound, ?_⟩
  simp only [clean, Option.none_or]

theorem runStatement_opens {statement : Statement} {rows : List UserData} {after : SQLiteDatabase}
    (accepted : statement db = .ok (after, rows)) :
    OpensIff db (runStatement statement) True := by
  intro frame same opening
  left
  refine ⟨trivial, { frame with db := after, cursor := some rows }, ?_, opening.1, rfl,
    opening.2.2⟩
  simp only [runStatement, same, accepted]

theorem runStatement_fails {statement : Statement} {error : PyError}
    (refused : statement db = .error error) : OpensIff db (runStatement statement) False := by
  intro frame same opening
  obtain ⟨next, raised, still⟩ := raise_opening opening error
  right
  refine ⟨id, error, next, ?_, still⟩
  simp only [runStatement, same, refused]
  exact raised

/-- A step in front that may raise. -/
theorem OpensIff.after_fallible {opening : Method Unit} {condition : Prop}
    (opens : OpensIff db opening condition) (fault : Option PyError) :
    OpensIff db (do fallible fault; opening) (fault = .none ∧ condition) := by
  intro frame same starts
  cases fault with
  | none =>
      rw [Python.Exec.bind_returned (show fallible .none frame = (.returned (), frame) from rfl)]
      simpa using opens frame same starts
  | some error =>
      obtain ⟨next, raised, still⟩ := raise_opening starts error
      right
      refine ⟨by simp, error, next, ?_, still⟩
      exact Python.Exec.bind_raised raised

theorem OpensIff.congr {opening : Method Unit} {condition other : Prop}
    (opens : OpensIff db opening condition) (same : condition ↔ other) :
    OpensIff db opening other := by
  intro frame isDb starts
  rw [← same]
  exact opens frame isDb starts

end Opening

section Locking

variable {db : SQLiteDatabase} {opening : Method Unit} {reading : Method Reply}
  {condition : Prop}

theorem withLock_enter (db : SQLiteDatabase) (opening : Method Unit) (reading : Method Reply) :
    withLock opening reading (Connection.enter ⟨db, false⟩) =
      Exec.tryFinally (do opening; reading) (do closeCursor; release) ⟨db, true, .none, .none⟩ :=
  rfl

/-- With a cursor to close, the lock is released and the exception passed on. -/
theorem finally_closes {original : Option PyError} {frame : Frame}
    (bound : Reading original frame) :
    (do closeCursor; release : Method Unit) frame =
      (.returned (), { frame with locked := false }) := by
  obtain ⟨rows, isRows⟩ := Option.isSome_iff_exists.mp bound.2.1
  have closed : closeCursor frame = (.returned (), frame) := by
    simp only [closeCursor, isRows]
  rw [Python.Exec.bind_returned closed]
  rfl

theorem withLock_released (opens : OpensIff db opening condition) (reads : Reads reading)
    (holds : condition) :
    ∃ result next, withLock opening reading (Connection.enter ⟨db, false⟩) = (result, next) ∧
      result ≠ .blocked ∧ next.locked = false ∧
      ∀ error, result = .raised error → next.original = some error := by
  rw [withLock_enter]
  rcases opens ⟨db, true, .none, .none⟩ rfl ⟨rfl, rfl, rfl⟩ with
    ⟨-, middle, opened, bound⟩ | ⟨fails, -⟩
  · have body : (do opening; reading : Method Reply) ⟨db, true, .none, .none⟩ = reading middle :=
      Python.Exec.bind_returned opened
    rcases reads middle bound with ⟨value, last, ended, bound⟩ | ⟨error, last, ended, bound⟩
    · rw [Python.Exec.tryFinally_of_returned (body.trans ended) (by simp) (finally_closes bound)]
      exact ⟨_, _, rfl, by simp, rfl, by simp⟩
    · rw [Python.Exec.tryFinally_of_returned (body.trans ended) (by simp) (finally_closes bound)]
      refine ⟨_, _, rfl, by simp, rfl, ?_⟩
      intro seen same
      cases same
      exact bound.2.2
  · exact absurd holds fails

/-- Without one, `cursor.close()` raises in its turn, and the lock stays. -/
theorem withLock_stuck (reading : Method Reply) (opens : OpensIff db opening condition)
    (fails : ¬ condition) :
    ∃ next, withLock opening reading (Connection.enter ⟨db, false⟩) =
      (.raised (.unboundLocal "cursor"), next) ∧ next.locked = true := by
  rw [withLock_enter]
  rcases opens ⟨db, true, .none, .none⟩ rfl ⟨rfl, rfl, rfl⟩ with
    ⟨holds, -⟩ | ⟨-, error, middle, raised, unbound⟩
  · exact absurd holds fails
  · have body : (do opening; reading : Method Reply) ⟨db, true, .none, .none⟩ =
        (.raised error, middle) := Python.Exec.bind_raised raised
    have closing : closeCursor middle = (.raised (.unboundLocal "cursor"),
        { middle with original := middle.original.or (some (.unboundLocal "cursor")) }) := by
      simp only [closeCursor, unbound.2.1, raise]
    rw [Python.Exec.tryFinally_of_raised body (by simp) (Python.Exec.bind_raised closing)]
    exact ⟨_, rfl, unbound.1⟩

end Locking

section Calls

variable {db : SQLiteDatabase}

theorem insertRow_opens (instanceId : String) (instance_ : UserData) :
    OpensIff db (runStatement (SQLiteDatabase.insertRow instanceId instance_))
      (instanceId ∉ db.anvilInstances) := by
  by_cases present : instanceId ∈ db.anvilInstances
  · have refused : SQLiteDatabase.insertRow instanceId instance_ db =
        .error (.sqlite "UNIQUE constraint failed: anvil_instances.instance_id") := if_pos present
    exact (runStatement_fails refused).congr (by simp [present])
  · have accepted : SQLiteDatabase.insertRow instanceId instance_ db =
        .ok ((db.registerInstance instanceId instance_).1, []) := if_neg present
    exact (runStatement_opens accepted).congr (by simp [present])

theorem updateRow_opens (instanceId : String) (instance_ : UserData) :
    OpensIff db (runStatement (SQLiteDatabase.updateRow instanceId instance_)) True := by
  cases stored : db.anvilInstances.lookup instanceId with
  | none =>
      have accepted : SQLiteDatabase.updateRow instanceId instance_ db = .ok (db, []) := by
        simp only [SQLiteDatabase.updateRow, stored]
      exact runStatement_opens accepted
  | some row =>
      have accepted : SQLiteDatabase.updateRow instanceId instance_ db =
          .ok (⟨db.anvilInstances.insert instanceId { row with instanceData := instance_ }⟩,
            []) := by
        simp only [SQLiteDatabase.updateRow, stored]
      exact runStatement_opens accepted

/-- A method that takes the lock, with the condition under which it gets its cursor. -/
inductive Locks (db : SQLiteDatabase) (method : Method Reply) (condition : Prop) : Prop
  | intro (opening : Method Unit) (reading : Method Reply)
      (isMethod : method = withLock opening reading) (opens : OpensIff db opening condition)
      (reads : Reads reading)

/-- Every method that takes the lock gets its cursor just if nothing raises before. -/
theorem locks_of_takesLock (db : SQLiteDatabase) (made : SqliteCall × Faults)
    (takes : made.1.takesLock = true) :
    Locks db (made.1.method made.2) (GetsCursor ⟨db, false⟩ made) := by
  obtain ⟨call, faults⟩ := made
  have executed : ∀ statement condition, OpensIff db (runStatement statement) condition →
      OpensIff db (execute faults.execute statement) (faults.execute = .none ∧ condition) :=
    fun statement condition opens => opens.after_fallible faults.execute
  have always : ∀ statement, OpensIff db (runStatement statement) True →
      OpensIff db (execute faults.execute statement) (faults.execute = .none) :=
    fun statement opens => (executed statement True opens).congr (and_iff_left trivial)
  cases call with
  | registerInstance instanceId instance_ =>
      exact ⟨_, _, rfl, (executed _ _ (insertRow_opens instanceId instance_)).after_fallible
        faults.dumps, reads_pure _⟩
  | updateInstance instanceId instance_ =>
      exact ⟨_, _, rfl, (always _ (updateRow_opens instanceId instance_)).after_fallible
        faults.dumps, reads_pure _⟩
  | unregisterInstance instanceId =>
      exact ⟨_, _, rfl, always _ (runStatement_opens rfl), reads_readRow faults⟩
  | getAllInstances =>
      exact ⟨_, _, rfl, always _ (runStatement_opens rfl),
        reads_rowsLeft.bind fun _ => reads_readRows faults _ 0 []⟩
  | getInstanceByExternalId rpcId =>
      exact ⟨_, _, rfl, always _ (runStatement_opens rfl), reads_readRow faults⟩
  | getInstance instanceId =>
      exact ⟨_, _, rfl, always _ (runStatement_opens rfl), reads_readRow faults⟩
  | getExpiredInstances | getMetadata | updateMetadata => cases takes

/-- A call on a free lock leaves it free, and raises the original exception if anything,
if and only if it gets its cursor. -/
theorem releasesLock_iff (db : SQLiteDatabase) (made : SqliteCall × Faults) :
    ReleasesLock ⟨db, false⟩ made ↔ GetsCursor ⟨db, false⟩ made := by
  cases takes : made.1.takesLock with
  | true =>
      obtain ⟨opening, reading, isMethod, opens, reads⟩ := locks_of_takesLock db made takes
      have isCall : Connection.invoke ⟨db, false⟩ made =
          withLock opening reading (Connection.enter ⟨db, false⟩) := by
        rw [Connection.invoke, isMethod]
      by_cases gets : GetsCursor ⟨db, false⟩ made
      · obtain ⟨result, next, ended, awake, free, original⟩ := withLock_released opens reads gets
        refine ⟨fun _ => gets, fun _ => ?_⟩
        constructor
        · rw [isCall, ended]
          exact awake
        · rw [Connection.after, isCall, ended]
          exact free
        · rw [isCall, ended]
          exact original
      · obtain ⟨next, ended, locked⟩ := withLock_stuck reading opens gets
        refine ⟨fun releases => ?_, fun holds => absurd holds gets⟩
        have free := releases.free
        rw [Connection.after, isCall, ended, locked] at free
        cases free
  | false =>
      obtain ⟨call, faults⟩ := made
      cases call with
      | getExpiredInstances | getMetadata | updateMetadata =>
          refine ⟨fun _ => trivial, fun _ => ?_⟩
          exact ⟨nofun, rfl, nofun⟩
      | registerInstance | updateInstance | unregisterInstance | getAllInstances
        | getInstanceByExternalId | getInstance => cases takes

/-- A call that gets no cursor leaves the lock taken, and the next one waits for ever. -/
theorem later_call_blocked {made later : SqliteCall × Faults}
    (fails : ¬ GetsCursor ⟨db, false⟩ made) (takes : later.1.takesLock = true) :
    ((Connection.after ⟨db, false⟩ made).invoke later).1 = .blocked := by
  have took : made.1.takesLock = true := by
    obtain ⟨call, faults⟩ := made
    cases call with
    | getExpiredInstances | getMetadata | updateMetadata => exact absurd trivial fails
    | registerInstance | updateInstance | unregisterInstance | getAllInstances
      | getInstanceByExternalId | getInstance => rfl
  obtain ⟨opening, reading, isMethod, opens, -⟩ := locks_of_takesLock db made took
  obtain ⟨next, ended, locked⟩ := withLock_stuck reading opens fails
  have stuck : (Connection.after ⟨db, false⟩ made).locked = true := by
    rw [Connection.after, Connection.invoke, isMethod, ended]
    exact locked
  obtain ⟨laterOpening, laterReading, isLater, -, -⟩ := locks_of_takesLock db later takes
  have waits : acquire (Connection.after ⟨db, false⟩ made).enter =
      (.blocked, (Connection.after ⟨db, false⟩ made).enter) := if_pos stuck
  rw [Connection.invoke, isLater, withLock, Python.Exec.bind_blocked waits]

end Calls

/-- The lock is free again, so what holds of one call holds of the next. -/
theorem follows_releasesLock_iff (calls : List (SqliteCall × Faults)) : ∀ db,
    Follows ReleasesLock Connection.after ⟨db, false⟩ calls ↔
      Follows GetsCursor Connection.after ⟨db, false⟩ calls := by
  induction calls with
  | nil =>
      intro db
      exact Iff.rfl
  | cons made rest ih =>
      intro db
      simp only [Follows, releasesLock_iff]
      apply and_congr_right
      intro gets
      have free := ((releasesLock_iff db made).mpr gets).free
      have next : Connection.after ⟨db, false⟩ made =
          ⟨(Connection.invoke ⟨db, false⟩ made).2.db, false⟩ := congrArg (Connection.mk _) free
      rw [next]
      exact ih _

/-- In every sequence of calls, whatever raises in them: after each the lock is free and
its exception the original one, if and only if in each neither `json.dumps` nor the
statement raises. After a call in which one does, every call that takes the lock waits
for ever. -/
theorem lock_released_iff (db : SQLiteDatabase) (calls : List (SqliteCall × Faults)) :
    (Follows ReleasesLock Connection.after ⟨db, false⟩ calls ↔
      Follows GetsCursor Connection.after ⟨db, false⟩ calls) ∧
      ∀ made later : SqliteCall × Faults, ¬ GetsCursor ⟨db, false⟩ made →
        later.1.takesLock = true →
          ((Connection.after ⟨db, false⟩ made).invoke later).1 = .blocked :=
  ⟨follows_releasesLock_iff calls db, fun _ _ => later_call_blocked⟩

def holdingRecord : SQLiteDatabase := (SQLiteDatabase.registerInstance ⟨∅⟩ "i" plainInstance).1

theorem reader_releases_after_fault :
    Follows ReleasesLock Connection.after ⟨holdingRecord, false⟩
        [(.getInstance "i", { Faults.none with loads := fun _ => some (.json "Expecting value") }),
          (.unregisterInstance "i", .none)] ∧
      ((Connection.after ⟨holdingRecord, false⟩ (.registerInstance "i" plainInstance, .none)).invoke
        (.getAllInstances, .none)).1 = .blocked := by
  obtain ⟨released, -⟩ := lock_released_iff holdingRecord
    [(.getInstance "i", { Faults.none with loads := fun _ => some (.json "Expecting value") }),
      (.unregisterInstance "i", .none)]
  obtain ⟨-, blocked⟩ := lock_released_iff holdingRecord []
  constructor
  · exact released.mpr ⟨rfl, rfl, trivial⟩
  · apply blocked
    · intro gets
      exact gets.2.2 (by decide)
    · rfl

/-- A duplicate id is reported as a variable without a value, and the lock is not
released. -/
theorem duplicate_keeps_lock :
    ¬ Follows ReleasesLock Connection.after ⟨holdingRecord, false⟩
        [(.registerInstance "i" plainInstance, .none)] ∧
      (Connection.invoke ⟨holdingRecord, false⟩ (.registerInstance "i" plainInstance, .none)).1 =
        .raised (.unboundLocal "cursor") ∧
      (Connection.invoke ⟨holdingRecord, false⟩
        (.registerInstance "i" plainInstance, .none)).2.original =
          some (.sqlite "UNIQUE constraint failed: anvil_instances.instance_id") ∧
      (Connection.after ⟨holdingRecord, false⟩
        (.registerInstance "i" plainInstance, .none)).locked =
        true := by
  have locked : (Connection.after ⟨holdingRecord, false⟩
      (.registerInstance "i" plainInstance, .none)).locked = true := rfl
  refine ⟨?_, rfl, rfl, locked⟩
  rintro ⟨releases, -⟩
  rw [releases.free] at locked
  cases locked

end Orchestrator
