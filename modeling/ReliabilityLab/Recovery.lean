import ReliabilityLab.Machine
import ReliabilityLab.Python
import ReliabilityLab.Table

/-!
# The checkpoint store

`CheckpointStore` : one row for each recoverable run, bound to its exact plan and
naming the head of its lineage, and one row for each checkpoint. `start` creates a run
with its root, `advance` adds a child to the head, `current` and `resume` read.

A parent is a value that the caller keeps, so it may be stale or forged; `advance` looks
it up and compares it with what is stored. `start_cases` and `advance_cases` are what
the two writing calls can do : raise and change nothing, replay a checkpoint that is
stored, or make the change that `Starts` or `Advances` describes.
-/

set_option linter.unusedSectionVars false

open Serial Keyed

namespace ReliabilityLab

/-! ## Plans and checkpoints -/

/-- One exact operation in a recoverable run plan. -/
@[ext]
structure RecoveryOperation where
  operationId : String
  tool : String
  payload : String
  operationId_nonblank : isBlank operationId = false
  tool_nonblank : isBlank tool = false

instance : DecidableEq RecoveryOperation := fun _ _ =>
  decidable_of_iff _ RecoveryOperation.ext_iff.symm

/-- The checked constructor. -/
def RecoveryOperation.create (operationId tool payload : String) :
    Except Raised RecoveryOperation :=
  if ho : isBlank operationId = true then
    .error ⟨.valueError, "operation_id must be a nonempty string"⟩
  else if ht : isBlank tool = true then
    .error ⟨.valueError, "tool must be a nonempty string"⟩
  else
    .ok ⟨operationId, tool, payload, isBlank_eq_false ho, isBlank_eq_false ht⟩

/-- Immutable persisted progress marker for one exact run plan; also a row of
`recovery_checkpoints`, which has the same columns. -/
structure RecoveryCheckpoint where
  runId : String
  checkpointId : String
  sequence : Int
  parentCheckpointId : Option String
  planSha256 : String
  completedCount : Int
  deriving DecidableEq, Repr

/-- The primary key of `recovery_checkpoints`. -/
def RecoveryCheckpoint.key (checkpoint : RecoveryCheckpoint) : String × String :=
  (checkpoint.runId, checkpoint.checkpointId)

/-- A row of `recovery_runs`. -/
structure RunRow where
  runId : String
  planJson : String
  planSha256 : String
  operationCount : Int
  headCheckpointId : String
  deriving DecidableEq, Repr

/-- The database of a checkpoint store. -/
structure RecoveryDb where
  userVersion : Int
  runs : Table RunRow RunRow.runId
  checkpoints : Table RecoveryCheckpoint RecoveryCheckpoint.key

namespace RecoveryDb

/-- A new database. -/
def empty : RecoveryDb :=
  ⟨0, .empty, .empty⟩

/-- The checkpoints of a run, in insertion order. -/
def checkpointsOf (db : RecoveryDb) (runId : String) : List RecoveryCheckpoint :=
  db.checkpoints.select fun c => c.runId = runId

/-- The checkpoints of a run, by sequence. -/
def lineage (db : RecoveryDb) (runId : String) : List RecoveryCheckpoint :=
  (db.checkpointsOf runId).insertionSort fun a b => a.sequence ≤ b.sequence

theorem mem_checkpointsOf {db : RecoveryDb} {runId : String} {c : RecoveryCheckpoint} :
    c ∈ db.checkpointsOf runId ↔ c ∈ db.checkpoints.rows ∧ c.runId = runId := by
  simp [checkpointsOf, Table.mem_select]

end RecoveryDb

namespace CheckpointStore

/-! ## The calls -/

/-- Open the store. -/
def openStore (db : RecoveryDb) : RecoveryDb × Except Raised Unit :=
  transaction (fun db => do
    raiseIf (db.userVersion ≠ 0 ∧ db.userVersion ≠ 1)
      ⟨.valueError, "unsupported checkpoint database schema: " ++ toString db.userVersion⟩
    .ok ((), { db with userVersion := 1 })) db

/-- The text of a plan. -/
def planJson (plan : List RecoveryOperation) : String :=
  String.ofList <| jsonArray <| plan.map fun operation => jsonArray
    [jsonString operation.operationId, jsonString operation.tool, jsonString operation.payload]

variable [Hashlib]

/-- The digest of a plan. -/
def planSha256 (plan : List RecoveryOperation) : String :=
  Hashlib.sha256Hexdigest (planJson plan)

/-- The checks of a plan. -/
def materializePlan (plan : List RecoveryOperation) : Except Raised Unit := do
  raiseIf (plan = []) ⟨.valueError, "recovery plan must contain at least one operation"⟩
  raiseIf (HasDuplicates (plan.map RecoveryOperation.operationId))
    ⟨.valueError, "recovery plan operation_ids must be unique"⟩

/-- The row of a run is bound to the exact plan. -/
def BoundTo (run : RunRow) (plan : List RecoveryOperation) : Prop :=
  (run.planJson, run.planSha256, run.operationCount) =
    (planJson plan, planSha256 plan, (plan.length : Int))

instance (run : RunRow) (plan : List RecoveryOperation) : Decidable (BoundTo run plan) :=
  inferInstanceAs (Decidable (_ = _))

/-- The checkpoint of a run under an id. -/
def loadCheckpoint (db : RecoveryDb) (runId checkpointId : String) : Option RecoveryCheckpoint :=
  db.checkpoints.find? (runId, checkpointId)

/-- `INSERT INTO recovery_checkpoints`, with its primary key and `UNIQUE(run_id, sequence)`. -/
def insertCheckpoint (row : RecoveryCheckpoint) (db : RecoveryDb) : Except Raised RecoveryDb := do
  let checkpoints ← orRaise (db.checkpoints.insert? row)
    (uniqueFailed "recovery_checkpoints.run_id, recovery_checkpoints.checkpoint_id")
  raiseIf (∃ c ∈ db.checkpoints.rows, c.runId = row.runId ∧ c.sequence = row.sequence)
    (uniqueFailed "recovery_checkpoints.run_id, recovery_checkpoints.sequence")
  .ok { db with checkpoints }

/-- `INSERT INTO recovery_runs`. -/
def insertRun (row : RunRow) (db : RecoveryDb) : Except Raised RecoveryDb := do
  let runs ← orRaise (db.runs.insert? row) (uniqueFailed "recovery_runs.run_id")
  .ok { db with runs }

/-- `UPDATE recovery_runs SET head_checkpoint_id=?`. -/
def setHead (runId checkpointId : String) (db : RecoveryDb) : RecoveryDb :=
  { db with
    runs := db.runs.update runId (fun run => { run with headCheckpointId := checkpointId })
      fun _ => rfl }

/-- The root checkpoint of a run. -/
def initialCheckpoint (runId checkpointId : String) (plan : List RecoveryOperation) :
    RecoveryCheckpoint :=
  ⟨runId, checkpointId, 0, none, planSha256 plan, 0⟩

/-- The row of a new run. -/
def runRow (runId checkpointId : String) (plan : List RecoveryOperation) : RunRow :=
  ⟨runId, planJson plan, planSha256 plan, plan.length, checkpointId⟩

/-- The checks of `start` before its transaction. -/
def checkStart (runId : String) (plan : List RecoveryOperation) (checkpointId : String) :
    Except Raised Unit := do
  raiseIf (isBlank runId = true) ⟨.valueError, "run_id must be a nonempty string"⟩
  raiseIf (isBlank checkpointId = true) ⟨.valueError, "checkpoint_id must be a nonempty string"⟩
  materializePlan plan

/-- The exception of a root that is not the stored one. -/
def rootConflict : Raised :=
  ⟨.checkpointConflict, "initial checkpoint identity conflicts with persisted lineage"⟩

/-- Start a run or find it started, in a transaction. -/
def startInTransaction (runId : String) (plan : List RecoveryOperation) (checkpointId : String)
    (db : RecoveryDb) : Except Raised (RecoveryCheckpoint × RecoveryDb) := do
  let initial := initialCheckpoint runId checkpointId plan
  match db.runs.find? runId with
  | none => do
    let db ← insertRun (runRow runId checkpointId plan) db
    let db ← insertCheckpoint initial db
    .ok (initial, db)
  | some run => do
    raiseIf (¬BoundTo run plan)
      ⟨.checkpointConflict, "run_id is already bound to a different exact plan"⟩
    let existing ← orRaise (loadCheckpoint db runId checkpointId) rootConflict
    raiseIf (existing ≠ initial) rootConflict
    .ok (existing, db)

/-- Start a run or replay its exact initial checkpoint after restart. -/
def start (runId : String) (plan : List RecoveryOperation) (checkpointId : String := "start")
    (db : RecoveryDb) : RecoveryDb × Except Raised RecoveryCheckpoint :=
  match checkStart runId plan checkpointId with
  | .error e => (db, .error e)
  | .ok () => transaction (startInTransaction runId plan checkpointId) db

/-- The exception of a run that is not stored. -/
def unknownRun (runId : String) : Raised :=
  ⟨.checkpointConflict, "unknown recovery run: " ++ runId⟩

/-- The exception of a head that names no checkpoint. -/
def missingHead : Raised :=
  ⟨.checkpointConflict, "persisted recovery head is missing"⟩

/-- The currently authoritative checkpoint of a run. -/
def current (runId : String) (db : RecoveryDb) : Except Raised RecoveryCheckpoint := do
  let run ← orRaise (db.runs.find? runId) (unknownRun runId)
  orRaise (loadCheckpoint db runId run.headCheckpointId) missingHead

/-- The checkpoint that an advance proposes. -/
def candidateCheckpoint (parent : RecoveryCheckpoint) (checkpointId : String) (run : RunRow)
    (completedCount : Int) : RecoveryCheckpoint where
  runId := parent.runId
  checkpointId := checkpointId
  sequence := parent.sequence + 1
  parentCheckpointId := some parent.checkpointId
  planSha256 := run.planSha256
  completedCount := completedCount

/-- The checks of an advance whose checkpoint id is new. -/
def checkAdvance (parent : RecoveryCheckpoint) (run : RunRow) (completedCount : Int) :
    Except Raised Unit := do
  raiseIf (run.headCheckpointId ≠ parent.checkpointId)
    ⟨.staleCheckpoint, "checkpoint " ++ parent.checkpointId ++ " is stale; current head is " ++
      run.headCheckpointId⟩
  raiseIf (parent.planSha256 ≠ run.planSha256)
    ⟨.checkpointConflict, "parent checkpoint plan binding does not match the run"⟩
  raiseIf (completedCount ≤ parent.completedCount)
    ⟨.checkpointConflict, "checkpoint progress must advance beyond its parent"⟩
  raiseIf (completedCount > run.operationCount)
    ⟨.checkpointConflict, "checkpoint progress exceeds the bound recovery plan"⟩

/-- The run and the stored parent of an advance. -/
def findParent (parent : RecoveryCheckpoint) (db : RecoveryDb) : Except Raised RunRow := do
  let run ← orRaise (db.runs.find? parent.runId) (unknownRun parent.runId)
  let persisted ← orRaise (loadCheckpoint db parent.runId parent.checkpointId)
    ⟨.checkpointConflict, "parent checkpoint does not match persisted lineage"⟩
  raiseIf (persisted ≠ parent)
    ⟨.checkpointConflict, "parent checkpoint does not match persisted lineage"⟩
  .ok run

/-- Advance a run from a parent, in a transaction. -/
def advanceInTransaction (parent : RecoveryCheckpoint) (checkpointId : String)
    (completedCount : Int) (db : RecoveryDb) :
    Except Raised (RecoveryCheckpoint × RecoveryDb) := do
  let run ← findParent parent db
  let candidate := candidateCheckpoint parent checkpointId run completedCount
  match loadCheckpoint db parent.runId checkpointId with
  | some existing => do
    raiseIf (¬(existing = candidate ∧ run.headCheckpointId = checkpointId))
      ⟨.checkpointConflict, "checkpoint_id is already bound to different progress"⟩
    .ok (existing, db)
  | none => do
    checkAdvance parent run completedCount
    let db ← insertCheckpoint candidate db
    .ok (candidate, setHead parent.runId checkpointId db)

/-- Commit a new linear checkpoint after verified partial progress. -/
def advance (parent : RecoveryCheckpoint) (checkpointId : String) (completedCount : Int)
    (db : RecoveryDb) : RecoveryDb × Except Raised RecoveryCheckpoint :=
  if isBlank checkpointId then
    (db, .error ⟨.valueError, "checkpoint_id must be a nonempty string"⟩)
  else
    transaction (advanceInTransaction parent checkpointId completedCount) db

/-- The remaining operations from the exact current checkpoint. -/
def resume (checkpoint : RecoveryCheckpoint) (plan : List RecoveryOperation) (db : RecoveryDb) :
    Except Raised (List RecoveryOperation) := do
  materializePlan plan
  let run ← orRaise (db.runs.find? checkpoint.runId) (unknownRun checkpoint.runId)
  raiseIf (¬BoundTo run plan)
    ⟨.checkpointConflict, "resume plan does not match the run's exact bound plan"⟩
  let persisted ← orRaise (loadCheckpoint db checkpoint.runId checkpoint.checkpointId)
    ⟨.checkpointConflict, "resume checkpoint does not match persisted lineage"⟩
  raiseIf (persisted ≠ checkpoint)
    ⟨.checkpointConflict, "resume checkpoint does not match persisted lineage"⟩
  raiseIf (run.headCheckpointId ≠ checkpoint.checkpointId)
    ⟨.staleCheckpoint, "checkpoint " ++ checkpoint.checkpointId ++
      " is stale; current head is " ++ run.headCheckpointId⟩
  .ok (sliceFrom plan checkpoint.completedCount)

/-- The calls of the store. -/
inductive RecoveryCall where
  | reopen
  | start (runId : String) (plan : List RecoveryOperation) (checkpointId : String)
  | current (runId : String)
  | advance (parent : RecoveryCheckpoint) (checkpointId : String) (completedCount : Int)
  | resume (checkpoint : RecoveryCheckpoint) (plan : List RecoveryOperation)
  deriving DecidableEq

/-- What the calls return. -/
inductive RecoveryReply where
  | done
  | checkpoint (checkpoint : RecoveryCheckpoint)
  | remaining (operations : List RecoveryOperation)
  deriving DecidableEq

/-- The store as a serialised machine. -/
def recoveryMachine : Machine RecoveryDb RecoveryCall (Except Raised RecoveryReply) where
  perform
    | .reopen, db => ((openStore db).1, (fun _ => .done) <$> (openStore db).2)
    | .start runId plan checkpointId, db =>
      ((start runId plan checkpointId db).1,
        .checkpoint <$> (start runId plan checkpointId db).2)
    | .current runId, db => (db, .checkpoint <$> current runId db)
    | .advance parent checkpointId completedCount, db =>
      ((advance parent checkpointId completedCount db).1,
        .checkpoint <$> (advance parent checkpointId completedCount db).2)
    | .resume checkpoint plan, db => (db, .remaining <$> resume checkpoint plan db)

/-! ## What the statements do -/

/-- A stored checkpoint has the key of `row`, or its run and sequence. -/
def Blocked (row : RecoveryCheckpoint) (db : RecoveryDb) : Prop :=
  ∃ c ∈ db.checkpoints.rows, c.key = row.key ∨ c.runId = row.runId ∧ c.sequence = row.sequence

/-- The insert violates a constraint, or adds the row. -/
theorem insertCheckpoint_cases (row : RecoveryCheckpoint) (db : RecoveryDb) :
    (∃ e, insertCheckpoint row db = .error e ∧ Blocked row db) ∨
      ∃ db', insertCheckpoint row db = .ok db' ∧ db'.runs = db.runs ∧
        db'.checkpoints.rows = db.checkpoints.rows ++ [row] := by
  unfold insertCheckpoint
  rcases hfind : db.checkpoints.find? row.key with _ | old
  · obtain ⟨checkpoints, hins, hrows⟩ := Table.exists_insert? hfind
    rw [hins, orRaise_some, ok_bind]
    by_cases hseq : ∃ c ∈ db.checkpoints.rows, c.runId = row.runId ∧ c.sequence = row.sequence
    · rw [raiseIf_pos hseq, error_bind]
      obtain ⟨c, hc, hrow⟩ := hseq
      exact Or.inl ⟨_, rfl, c, hc, Or.inr hrow⟩
    · rw [raiseIf_neg hseq, ok_bind]
      exact Or.inr ⟨_, rfl, rfl, hrows⟩
  · rw [Table.insert?_of_some hfind, orRaise_none, error_bind]
    obtain ⟨hold, hkey⟩ := Table.find?_eq_some_iff.1 hfind
    exact Or.inl ⟨_, rfl, old, hold, Or.inl hkey⟩

theorem find?_setHead {db : RecoveryDb} {runId : String} {run : RunRow}
    (h : db.runs.find? runId = some run) (checkpointId i : String) :
    (setHead runId checkpointId db).runs.find? i =
      if i = runId then some { run with headCheckpointId := checkpointId }
      else db.runs.find? i := by
  rw [setHead, Table.find?_update, h, Option.map_some]

theorem materializePlan_error {plan : List RecoveryOperation} {e : Raised}
    (h : materializePlan plan = .error e) : e.error = .valueError := by
  simp only [materializePlan, raiseIf_bind_eq_error, raiseIf_eq_error] at h
  obtain ⟨-, rfl⟩ | ⟨-, -, rfl⟩ := h <;> rfl

theorem findParent_eq_ok {parent : RecoveryCheckpoint} {db : RecoveryDb} {run : RunRow} :
    findParent parent db = .ok run ↔ db.runs.find? parent.runId = some run ∧
      loadCheckpoint db parent.runId parent.checkpointId = some parent := by
  simp only [findParent, orRaise_bind_eq_ok, raiseIf_bind_eq_ok, not_not, Except.ok.injEq]
  constructor
  · rintro ⟨r, hrun, p, hload, rfl, rfl⟩
    exact ⟨hrun, hload⟩
  · rintro ⟨hrun, hload⟩
    exact ⟨run, hrun, parent, hload, rfl, rfl⟩

theorem findParent_error {parent : RecoveryCheckpoint} {db : RecoveryDb} {e : Raised}
    (h : findParent parent db = .error e) : e.error = .checkpointConflict := by
  simp only [findParent, orRaise_bind_eq_error, raiseIf_bind_eq_error, reduceCtorEq, and_false,
    or_false] at h
  obtain ⟨-, rfl⟩ | ⟨run, -, ⟨-, rfl⟩ | ⟨p, -, -, rfl⟩⟩ := h <;> rfl

/-- The checks of an advance : the parent is the head and the count goes on within the
plan. -/
structure MayAdvance (parent : RecoveryCheckpoint) (run : RunRow) (completedCount : Int) :
    Prop where
  head : run.headCheckpointId = parent.checkpointId
  plan : parent.planSha256 = run.planSha256
  progress : parent.completedCount < completedCount
  bound : completedCount ≤ run.operationCount

theorem checkAdvance_eq_ok {parent : RecoveryCheckpoint} {run : RunRow} {completedCount : Int} :
    checkAdvance parent run completedCount = .ok () ↔
      MayAdvance parent run completedCount := by
  simp only [checkAdvance, raiseIf_bind_eq_ok, raiseIf_eq_ok, not_not, not_le, not_lt, gt_iff_lt]
  refine ⟨?_, fun h => ⟨h.head, h.plan, h.progress, h.bound⟩⟩
  rintro ⟨hh, hp, hc, hb⟩
  exact ⟨hh, hp, hc, hb⟩

theorem checkAdvance_error {parent : RecoveryCheckpoint} {run : RunRow} {completedCount : Int}
    {e : Raised} (h : checkAdvance parent run completedCount = .error e) :
    e.error = .checkpointConflict ∨ e.error = .staleCheckpoint := by
  simp only [checkAdvance, raiseIf_bind_eq_error, raiseIf_eq_error] at h
  obtain ⟨-, rfl⟩ | ⟨-, ⟨-, rfl⟩ | ⟨-, ⟨-, rfl⟩ | ⟨-, -, rfl⟩⟩⟩ := h <;> simp

theorem checkStart_error {runId : String} {plan : List RecoveryOperation} {checkpointId : String}
    {e : Raised} (h : checkStart runId plan checkpointId = .error e) : e.error = .valueError := by
  rcases raiseIf_bind_eq_error.1 h with ⟨-, rfl⟩ | ⟨-, h⟩
  · rfl
  rcases raiseIf_bind_eq_error.1 h with ⟨-, rfl⟩ | ⟨-, h⟩
  · rfl
  · exact materializePlan_error h

theorem checkStart_plan {runId : String} {plan : List RecoveryOperation} {checkpointId : String}
    (h : checkStart runId plan checkpointId = .ok ()) : plan ≠ [] := by
  obtain ⟨-, h⟩ := raiseIf_bind_eq_ok.1 h
  obtain ⟨-, h⟩ := raiseIf_bind_eq_ok.1 h
  exact (raiseIf_bind_eq_ok.1 h).1

/-! ## What `start` and `advance` do -/

/-- A new run with its root. -/
structure Starts (db db' : RecoveryDb) (runId : String) (plan : List RecoveryOperation)
    (checkpointId : String) : Prop where
  nonempty : plan ≠ []
  absent : db.runs.find? runId = none
  runs : ∀ i, db'.runs.find? i =
    if i = runId then some (runRow runId checkpointId plan) else db.runs.find? i
  checkpoints : db'.checkpoints.rows =
    db.checkpoints.rows ++ [initialCheckpoint runId checkpointId plan]

/-- A child of the head. -/
structure Advances (db db' : RecoveryDb) (parent : RecoveryCheckpoint) (checkpointId : String)
    (run : RunRow) (completedCount : Int) : Prop where
  found : findParent parent db = .ok run
  fresh : loadCheckpoint db parent.runId checkpointId = none
  may : MayAdvance parent run completedCount
  runs : ∀ i, db'.runs.find? i =
    if i = parent.runId then some { run with headCheckpointId := checkpointId }
    else db.runs.find? i
  checkpoints : db'.checkpoints.rows =
    db.checkpoints.rows ++ [candidateCheckpoint parent checkpointId run completedCount]

/-- `start` raises and changes nothing, replays a stored root, or starts a run. It
violates a constraint only if a checkpoint without a run blocks the root. -/
theorem start_cases (runId : String) (plan : List RecoveryOperation) (checkpointId : String)
    (db : RecoveryDb) :
    (∃ e, start runId plan checkpointId db = (db, .error e) ∧
        (e.error ≠ .integrityError ∨ db.runs.find? runId = none ∧
          Blocked (initialCheckpoint runId checkpointId plan) db)) ∨
      (∃ run, db.runs.find? runId = some run ∧ BoundTo run plan ∧
        loadCheckpoint db runId checkpointId = some (initialCheckpoint runId checkpointId plan) ∧
        start runId plan checkpointId db =
          (db, .ok (initialCheckpoint runId checkpointId plan))) ∨
      ∃ db', Starts db db' runId plan checkpointId ∧
        start runId plan checkpointId db =
          (db', .ok (initialCheckpoint runId checkpointId plan)) := by
  unfold start
  rcases hcheck : checkStart runId plan checkpointId with e | ⟨⟩
  · exact Or.inl ⟨e, rfl, Or.inl (by simp [checkStart_error hcheck])⟩
  rcases hrun : db.runs.find? runId with _ | run
  · obtain ⟨runs, hins, -⟩ := Table.exists_insert? (r := runRow runId checkpointId plan) hrun
    have hinsert : insertRun (runRow runId checkpointId plan) db = .ok { db with runs } := by
      rw [insertRun, hins, orRaise_some, ok_bind]
    rcases insertCheckpoint_cases (initialCheckpoint runId checkpointId plan) { db with runs } with
      ⟨e, hc, hblocked⟩ | ⟨db', hc, hruns, hrows⟩
    · have hbody : startInTransaction runId plan checkpointId db = .error e := by
        simp only [startInTransaction, hrun, hinsert, ok_bind, hc, error_bind]
      exact Or.inl ⟨e, transaction_of_error hbody, Or.inr ⟨rfl, hblocked⟩⟩
    · have hbody : startInTransaction runId plan checkpointId db =
          .ok (initialCheckpoint runId checkpointId plan, db') := by
        simp only [startInTransaction, hrun, hinsert, ok_bind, hc]
      refine Or.inr (Or.inr ⟨db', ⟨checkStart_plan hcheck, hrun, fun i => ?_, hrows⟩,
        transaction_of_ok hbody⟩)
      rw [hruns]
      exact Table.find?_insert? hins i
  · rcases hbody : startInTransaction runId plan checkpointId db with e | ⟨c, db'⟩
    · refine Or.inl ⟨e, transaction_of_error hbody, Or.inl ?_⟩
      simp only [startInTransaction, hrun, raiseIf_bind_eq_error, orRaise_bind_eq_error,
        reduceCtorEq, and_false, or_false] at hbody
      obtain ⟨-, rfl⟩ | ⟨-, ⟨-, rfl⟩ | ⟨c, -, -, rfl⟩⟩ := hbody <;> simp [rootConflict]
    · have hpass := hbody
      simp only [startInTransaction, hrun, raiseIf_bind_eq_ok, orRaise_bind_eq_ok, not_not,
        Except.ok.injEq, Prod.mk.injEq] at hpass
      obtain ⟨hbound, c', hload, rfl, rfl, rfl⟩ := hpass
      exact Or.inr (Or.inl ⟨run, rfl, hbound, hload, transaction_of_ok hbody⟩)

/-- What `start` returns has passed its checks. -/
theorem checkStart_of_ok {runId checkpointId : String} {plan : List RecoveryOperation}
    {db : RecoveryDb} {c : RecoveryCheckpoint} (h : (start runId plan checkpointId db).2 = .ok c) :
    checkStart runId plan checkpointId = .ok () := by
  unfold start at h
  rcases hcheck : checkStart runId plan checkpointId with e | ⟨⟩
  · rw [hcheck] at h
    cases h
  · rfl

/-- `advance` raises and changes nothing, replays the head, or adds a child to the head.
It violates a constraint only if a stored checkpoint blocks the child. -/
theorem advance_cases (parent : RecoveryCheckpoint) (checkpointId : String)
    (completedCount : Int) (db : RecoveryDb) :
    (∃ e, advance parent checkpointId completedCount db = (db, .error e) ∧
        (e.error ≠ .integrityError ∨ ∃ run, findParent parent db = .ok run ∧
          loadCheckpoint db parent.runId checkpointId = none ∧
          MayAdvance parent run completedCount ∧
          Blocked (candidateCheckpoint parent checkpointId run completedCount) db)) ∨
      (∃ run, findParent parent db = .ok run ∧ run.headCheckpointId = checkpointId ∧
        loadCheckpoint db parent.runId checkpointId =
          some (candidateCheckpoint parent checkpointId run completedCount) ∧
        advance parent checkpointId completedCount db =
          (db, .ok (candidateCheckpoint parent checkpointId run completedCount))) ∨
      ∃ db' run, Advances db db' parent checkpointId run completedCount ∧
        advance parent checkpointId completedCount db =
          (db', .ok (candidateCheckpoint parent checkpointId run completedCount)) := by
  unfold advance
  split_ifs with hblank
  · exact Or.inl ⟨_, rfl, Or.inl (by simp)⟩
  rcases hfound : findParent parent db with e | run
  · have hbody : advanceInTransaction parent checkpointId completedCount db = .error e := by
      rw [advanceInTransaction, hfound, error_bind]
    exact Or.inl ⟨e, transaction_of_error hbody, Or.inl (by simp [findParent_error hfound])⟩
  rcases hload : loadCheckpoint db parent.runId checkpointId with _ | existing
  · rcases hmay : checkAdvance parent run completedCount with e | ⟨⟩
    · have hbody : advanceInTransaction parent checkpointId completedCount db = .error e := by
        simp only [advanceInTransaction, hfound, ok_bind, hload, hmay, error_bind]
      refine Or.inl ⟨e, transaction_of_error hbody, Or.inl ?_⟩
      rcases checkAdvance_error hmay with he | he <;> simp [he]
    rcases insertCheckpoint_cases (candidateCheckpoint parent checkpointId run completedCount) db
      with ⟨e, hc, hblocked⟩ | ⟨db', hc, hruns, hrows⟩
    · have hbody : advanceInTransaction parent checkpointId completedCount db = .error e := by
        simp only [advanceInTransaction, hfound, ok_bind, hload, hmay, hc, error_bind]
      exact Or.inl ⟨e, transaction_of_error hbody,
        Or.inr ⟨run, rfl, rfl, checkAdvance_eq_ok.1 hmay, hblocked⟩⟩
    · have hbody : advanceInTransaction parent checkpointId completedCount db =
          .ok (candidateCheckpoint parent checkpointId run completedCount,
            setHead parent.runId checkpointId db') := by
        simp only [advanceInTransaction, hfound, ok_bind, hload, hmay, hc]
      have hrun : db'.runs.find? parent.runId = some run := by
        rw [hruns]
        exact (findParent_eq_ok.1 hfound).1
      refine Or.inr (Or.inr ⟨setHead parent.runId checkpointId db', run, ⟨hfound, hload,
        checkAdvance_eq_ok.1 hmay, fun i => ?_, hrows⟩, transaction_of_ok hbody⟩)
      rw [find?_setHead hrun, hruns]
  · by_cases hsame : existing = candidateCheckpoint parent checkpointId run completedCount ∧
        run.headCheckpointId = checkpointId
    · have hbody : advanceInTransaction parent checkpointId completedCount db =
          .ok (existing, db) := by
        simp only [advanceInTransaction, hfound, ok_bind, hload, raiseIf_neg (not_not.2 hsame)]
      obtain ⟨rfl, hhead⟩ := hsame
      exact Or.inr (Or.inl ⟨run, rfl, hhead, rfl, transaction_of_ok hbody⟩)
    · have hbody : advanceInTransaction parent checkpointId completedCount db =
          .error ⟨.checkpointConflict, "checkpoint_id is already bound to different progress"⟩ := by
        simp only [advanceInTransaction, hfound, ok_bind, hload, raiseIf_pos hsame, error_bind]
      exact Or.inl ⟨_, transaction_of_error hbody, Or.inl (by simp)⟩

/-- What `advance` returns has passed the check of its id. -/
theorem nonblank_of_advance {parent c : RecoveryCheckpoint} {checkpointId : String}
    {completedCount : Int} {db : RecoveryDb}
    (h : (advance parent checkpointId completedCount db).2 = .ok c) :
    isBlank checkpointId = false := by
  unfold advance at h
  split_ifs at h with hblank
  simpa using hblank

end CheckpointStore

/-! ## A sample plan -/

/-- The plan of the package's own tests. -/
def testPlan : List RecoveryOperation :=
  [⟨"op-1", "edit", "first", .refl false, .refl false⟩,
    ⟨"op-2", "test", "second", .refl false, .refl false⟩,
    ⟨"op-3", "publish", "third", .refl false, .refl false⟩]

/-- The digest of `testPlan`. -/
def testDigest : String :=
  "33deebe7b94a6de74d673c9501e439043d063e75bc24ee7615ea234ae8bf03c4"

/-- A digest that is right on `testPlan`. -/
@[reducible] def testHashlib : Hashlib where
  sha256Hexdigest _ := testDigest

end ReliabilityLab
