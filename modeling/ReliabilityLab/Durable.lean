import ReliabilityLab.Machine
import ReliabilityLab.Python
import ReliabilityLab.Table

/-!
# The durable sandbox

`DurableSandbox` : approvals, completion marks and the one local effect, a row of
`notes`, in one database. `request`, `decide` and `execute` are one transaction each;
`execute` calls back at four stages, where its process may also be killed.

`request_cases`, `decide_cases` and `execute_cases` are what these calls can do : raise
and change nothing, find their work done, or make the one change that `Requests`,
`Decides` or `Executes` describes.
-/

set_option linter.unusedSectionVars false

open Serial Keyed

namespace ReliabilityLab

/-! ## Operations and rows -/

/-- One effect of the sandbox. -/
structure LocalOperation where
  operationId : String
  tool : String
  payload : String
  operationId_nonblank : isBlank operationId = false
  tool_supported : tool = "record_note"
  deriving DecidableEq

/-- The checked constructor. -/
def LocalOperation.create (operationId tool payload : String) : Except Raised LocalOperation :=
  if ho : isBlank operationId = true then
    .error ⟨.valueError, "operation_id must be a nonempty string"⟩
  else if ht : tool ≠ "record_note" then
    .error ⟨.valueError, "this sandbox supports only the inert record_note tool"⟩
  else
    .ok ⟨operationId, tool, payload, isBlank_eq_false ho, not_not.1 ht⟩

/-- A value of the column `decision`. -/
inductive Decision where
  | approved
  | denied
  deriving DecidableEq, Repr

/-- The decision a caller's text names. -/
def Decision.ofText? (text : String) : Option Decision :=
  if text = "approved" then some .approved
  else if text = "denied" then some .denied
  else none

/-- A row of `operations`. -/
structure OperationRow where
  operationId : String
  tool : String
  payload : String
  decision : Option Decision := none
  completed : Bool := false
  deriving DecidableEq, Repr

/-- A row of `notes`. -/
structure NoteRow where
  operationId : String
  payload : String
  deriving DecidableEq, Repr

/-- The database of a sandbox. -/
structure SandboxDb where
  userVersion : Int
  operations : Table OperationRow OperationRow.operationId
  notes : Table NoteRow NoteRow.operationId

/-- A new database. -/
def SandboxDb.empty : SandboxDb :=
  ⟨0, .empty, .empty⟩

namespace DurableSandbox

/-! ## The calls -/

/-- Open the sandbox. -/
def openStore (db : SandboxDb) : SandboxDb × Except Raised Unit :=
  transaction (fun db => do
    raiseIf (db.userVersion ≠ 0 ∧ db.userVersion ≠ 1)
      ⟨.valueError, "unsupported sandbox database schema: " ++ toString db.userVersion⟩
    .ok ((), { db with userVersion := 1 })) db

/-- The row of an operation, which must be the same exact effect. -/
def existing (operation : LocalOperation) (db : SandboxDb) : Except Raised OperationRow := do
  let row ← orRaise (db.operations.find? operation.operationId)
    ⟨.approvalRequired, "operation must be requested before a decision or execution"⟩
  raiseIf ((row.tool, row.payload) ≠ (operation.tool, operation.payload))
    ⟨.idempotencyConflict, "operation_id is already bound to a different exact effect"⟩
  .ok row

/-- The row a request inserts. -/
def requestRow (operation : LocalOperation) : OperationRow where
  operationId := operation.operationId
  tool := operation.tool
  payload := operation.payload

/-- `INSERT INTO operations ... ON CONFLICT DO NOTHING`. -/
def insertRequest (operation : LocalOperation) (db : SandboxDb) : SandboxDb :=
  { db with operations := db.operations.insertOrIgnore (requestRow operation) }

/-- Store an operation, or find it there as requested. -/
def request (operation : LocalOperation) (db : SandboxDb) : SandboxDb × Except Raised Unit :=
  transaction (fun db => do
    let db := insertRequest operation db
    let _ ← existing operation db
    .ok ((), db)) db

/-- `UPDATE operations SET decision=?`. -/
def setDecision (operationId : String) (decision : Decision) (db : SandboxDb) : SandboxDb :=
  { db with
    operations := db.operations.update operationId
      (fun row => { row with decision := some decision }) fun _ => rfl }

/-- `UPDATE operations SET completed=1`. -/
def setCompleted (operationId : String) (db : SandboxDb) : SandboxDb :=
  { db with
    operations := db.operations.update operationId
      (fun row => { row with completed := true }) fun _ => rfl }

/-- Store the decision on an operation. -/
def decide (operation : LocalOperation) (decision : String) (db : SandboxDb) :
    SandboxDb × Except Raised Unit :=
  match Decision.ofText? decision with
  | none => (db, .error ⟨.valueError, "decision must be approved or denied"⟩)
  | some decision =>
    transaction (fun db => do
      let row ← existing operation db
      raiseIf (∃ previous ∈ row.decision, previous ≠ decision)
        ⟨.approvalConflict, "an existing decision cannot be reversed by replay"⟩
      .ok ((), setDecision operation.operationId decision db)) db

/-- The stages at which `execute` calls back. -/
inductive Stage where
  | beforeEffect
  | afterEffect
  | beforeCommit
  | afterCommit
  deriving DecidableEq, Repr

/-- A callback that lets every stage pass. -/
def noCheckpoint : Stage → Except Raised Unit :=
  fun _ => .ok ()

/-- `INSERT INTO notes`. -/
def insertNote (row : NoteRow) (db : SandboxDb) : Except Raised SandboxDb := do
  let notes ← orRaise (db.notes.insert? row) (uniqueFailed "notes.operation_id")
  raiseIf (db.operations.find? row.operationId = none) foreignKeyFailed
  .ok { db with notes }

/-- The row of an operation that may execute. -/
def approvedRow (operation : LocalOperation) (db : SandboxDb) : Except Raised OperationRow := do
  let row ← existing operation db
  let decision ← orRaise row.decision ⟨.approvalRequired, "an exact approval is required"⟩
  raiseIf (decision = .denied) ⟨.approvalDenied, "the exact operation was denied"⟩
  .ok row

/-- The effect and its completion mark, between the callbacks. -/
def applyEffect (operation : LocalOperation) (checkpoint : Stage → Except Raised Unit)
    (db : SandboxDb) : Except Raised SandboxDb := do
  checkpoint .beforeEffect
  let db ← insertNote ⟨operation.operationId, operation.payload⟩ db
  checkpoint .afterEffect
  let db := setCompleted operation.operationId db
  checkpoint .beforeCommit
  .ok db

/-- The transaction of `execute`. -/
def executeInTransaction (operation : LocalOperation) (checkpoint : Stage → Except Raised Unit)
    (db : SandboxDb) : Except Raised (Bool × SandboxDb) := do
  let row ← approvedRow operation db
  if row.completed then
    .ok (false, db)
  else do
    let db ← applyEffect operation checkpoint db
    .ok (true, db)

/-- `True` for a new effect, `False` for an exact completed replay. -/
def execute (operation : LocalOperation) (checkpoint : Stage → Except Raised Unit)
    (db : SandboxDb) : SandboxDb × Except Raised Bool :=
  let result := transaction (executeInTransaction operation checkpoint) db
  (result.1, do
    let fresh ← result.2
    if fresh then checkpoint .afterCommit
    .ok fresh)

/-- The notes, `ORDER BY operation_id`. -/
def notes (db : SandboxDb) : List (String × String) :=
  (db.notes.rows.insertionSort fun a b => a.operationId ≤ b.operationId).map fun note =>
    (note.operationId, note.payload)

/-- The calls of the store. -/
inductive SandboxCall where
  | reopen
  | request (operation : LocalOperation)
  | decide (operation : LocalOperation) (decision : String)
  | execute (operation : LocalOperation) (checkpoint : Stage → Except Raised Unit)
  | notes

/-- What the calls return. -/
inductive SandboxReply where
  | done
  | executed (fresh : Bool)
  | notes (rows : List (String × String))
  deriving DecidableEq

/-- The sandbox as a serialised machine. -/
def sandboxMachine : Machine SandboxDb SandboxCall (Except Raised SandboxReply) where
  perform
    | .reopen, db => ((openStore db).1, (fun _ => .done) <$> (openStore db).2)
    | .request operation, db =>
      ((request operation db).1, (fun _ => .done) <$> (request operation db).2)
    | .decide operation decision, db =>
      ((decide operation decision db).1, (fun _ => .done) <$> (decide operation decision db).2)
    | .execute operation checkpoint, db =>
      ((execute operation checkpoint db).1, .executed <$> (execute operation checkpoint db).2)
    | .notes, db => (db, .ok (.notes (notes db)))

/-! ## The row of an operation -/

/-- The row stores the operation's exact effect. -/
structure Stores (row : OperationRow) (operation : LocalOperation) : Prop where
  tool : row.tool = operation.tool
  payload : row.payload = operation.payload

theorem existing_eq_ok {operation : LocalOperation} {db : SandboxDb} {row : OperationRow} :
    existing operation db = .ok row ↔
      db.operations.find? operation.operationId = some row ∧ Stores row operation := by
  simp only [existing, orRaise_bind_eq_ok, raiseIf_bind_eq_ok, not_not, Prod.mk.injEq,
    Except.ok.injEq]
  constructor
  · rintro ⟨r, hrow, ⟨ht, hp⟩, rfl⟩
    exact ⟨hrow, ht, hp⟩
  · rintro ⟨hrow, hs⟩
    exact ⟨row, hrow, ⟨hs.tool, hs.payload⟩, rfl⟩

theorem approvedRow_eq_ok {operation : LocalOperation} {db : SandboxDb} {row : OperationRow} :
    approvedRow operation db = .ok row ↔
      existing operation db = .ok row ∧ row.decision = some .approved := by
  unfold approvedRow
  rw [bind_eq_ok]
  refine ⟨?_, fun ⟨hrow, hd⟩ => ⟨row, hrow, ?_⟩⟩
  · rintro ⟨r, hrow, hpass⟩
    obtain ⟨d, hd, hpass⟩ := orRaise_bind_eq_ok.1 hpass
    obtain ⟨hne, hr⟩ := raiseIf_bind_eq_ok.1 hpass
    obtain rfl := Except.ok.inj hr
    rcases d with _ | _
    · exact ⟨hrow, hd⟩
    · exact absurd rfl hne
  · rw [hd, orRaise_some, ok_bind, raiseIf_neg (by simp), ok_bind]

/-! ## What each call does -/

/-- A new request. -/
structure Requests (db db' : SandboxDb) (operation : LocalOperation) : Prop where
  absent : db.operations.find? operation.operationId = none
  operations : ∀ i, db'.operations.find? i =
    if i = operation.operationId then some (requestRow operation) else db.operations.find? i
  notes : db'.notes = db.notes

/-- A decision on `row`, the first or the same as before. -/
structure Decides (db db' : SandboxDb) (operation : LocalOperation) (row : OperationRow)
    (decision : Decision) : Prop where
  existing : existing operation db = .ok row
  agrees : ∀ d, row.decision = some d → d = decision
  operations : ∀ i, db'.operations.find? i =
    if i = operation.operationId then some { row with decision := some decision }
    else db.operations.find? i
  notes : db'.notes = db.notes

/-- A new effect of `row`. -/
structure Executes (db db' : SandboxDb) (operation : LocalOperation) (row : OperationRow) :
    Prop where
  approved : approvedRow operation db = .ok row
  pending : row.completed = false
  fresh : db.notes.find? operation.operationId = none
  operations : ∀ i, db'.operations.find? i =
    if i = operation.operationId then some { row with completed := true }
    else db.operations.find? i
  notes : ∀ i, db'.notes.find? i =
    if i = operation.operationId then some ⟨operation.operationId, operation.payload⟩
    else db.notes.find? i

/-- A request is new, repeats the one before it, or conflicts with it. -/
theorem request_cases (operation : LocalOperation) (db : SandboxDb) :
    (∃ db', Requests db db' operation ∧ request operation db = (db', .ok ())) ∨
      (∃ row, existing operation db = .ok row ∧ request operation db = (db, .ok ())) ∨
      ∃ row e, db.operations.find? operation.operationId = some row ∧ ¬Stores row operation ∧
        request operation db = (db, .error e) := by
  have hfind : ∀ i, (insertRequest operation db).operations.find? i =
      if i = operation.operationId then
        some ((db.operations.find? operation.operationId).getD (requestRow operation))
      else db.operations.find? i :=
    Table.find?_insertOrIgnore db.operations (requestRow operation)
  rcases hrow : db.operations.find? operation.operationId with _ | row
  · have hnew : existing operation (insertRequest operation db) = .ok (requestRow operation) :=
      existing_eq_ok.2 ⟨by rw [hfind, if_pos rfl, hrow, Option.getD_none], rfl, rfl⟩
    refine Or.inl ⟨insertRequest operation db, ⟨hrow, fun i => ?_, rfl⟩, transaction_of_ok ?_⟩
    · rw [hfind, hrow, Option.getD_none]
    · simp only [hnew, ok_bind]
  have hold : insertRequest operation db = db := by
    rw [insertRequest, Table.insertOrIgnore_of_some (r := requestRow operation) hrow]
  by_cases hs : Stores row operation
  · have hex := existing_eq_ok.2 ⟨hrow, hs⟩
    exact Or.inr (Or.inl ⟨row, hex, transaction_of_ok (by simp only [hold, hex, ok_bind])⟩)
  · rcases hex : existing operation db with e | r
    · refine Or.inr (Or.inr ⟨row, e, rfl, hs, transaction_of_error ?_⟩)
      simp only [hold, hex, error_bind]
    · obtain ⟨hr, hsr⟩ := existing_eq_ok.1 hex
      exact absurd (Option.some.inj (hrow.symm.trans hr) ▸ hsr) hs

theorem find?_setDecision {db : SandboxDb} {operationId : String} {row : OperationRow}
    (h : db.operations.find? operationId = some row) (d : Decision) (i : String) :
    (setDecision operationId d db).operations.find? i =
      if i = operationId then some { row with decision := some d }
      else db.operations.find? i := by
  rw [setDecision, Table.find?_update, h, Option.map_some]

theorem find?_setCompleted {db : SandboxDb} {operationId : String} {row : OperationRow}
    (h : db.operations.find? operationId = some row) (i : String) :
    (setCompleted operationId db).operations.find? i =
      if i = operationId then some { row with completed := true }
      else db.operations.find? i := by
  rw [setCompleted, Table.find?_update, h, Option.map_some]

/-- A decision is taken on a requested operation, in agreement with the one before it, or
nothing changes. -/
theorem decide_cases (operation : LocalOperation) (text : String) (db : SandboxDb) :
    (∃ row d, Decision.ofText? text = some d ∧
        Decides db (setDecision operation.operationId d db) operation row d ∧
        decide operation text db = (setDecision operation.operationId d db, .ok ())) ∨
      ∃ e, decide operation text db = (db, .error e) ∧
        ∀ row d, Decision.ofText? text = some d → existing operation db = .ok row →
          ∃ d', row.decision = some d' ∧ d' ≠ d := by
  unfold decide
  rcases Decision.ofText? text with _ | d
  · exact Or.inr ⟨_, rfl, fun _ _ h => by cases h⟩
  rcases hex : existing operation db with e | row
  · refine Or.inr ⟨e, transaction_of_error ?_, fun _ _ _ h => by cases h⟩
    rw [hex, error_bind]
  by_cases hrev : ∃ previous ∈ row.decision, previous ≠ d
  · refine Or.inr ⟨⟨.approvalConflict, "an existing decision cannot be reversed by replay"⟩,
      transaction_of_error ?_, fun r d' hd' hr => ?_⟩
    · rw [hex, ok_bind, raiseIf_pos hrev, error_bind]
    · obtain rfl := Except.ok.inj hr
      obtain rfl := Option.some.inj hd'
      obtain ⟨p, hp, hne⟩ := hrev
      exact ⟨p, hp, hne⟩
  · refine Or.inl ⟨row, d, rfl, ⟨hex, fun p hp => ?_,
      find?_setDecision (existing_eq_ok.1 hex).1 d, rfl⟩, transaction_of_ok ?_⟩
    · by_contra hne
      exact hrev ⟨p, hp, hne⟩
    · rw [hex, ok_bind, raiseIf_neg hrev, ok_bind]

theorem insertNote_of_fresh {db : SandboxDb} (note : NoteRow) {row : OperationRow}
    (hfresh : db.notes.find? note.operationId = none)
    (hrow : db.operations.find? note.operationId = some row) :
    ∃ notes, insertNote note db = .ok { db with notes } ∧
      ∀ i, notes.find? i = if i = note.operationId then some note else db.notes.find? i := by
  obtain ⟨notes, hins, -⟩ := Table.exists_insert? hfresh
  refine ⟨notes, ?_, Table.find?_insert? hins⟩
  rw [insertNote, hins, orRaise_some, ok_bind, raiseIf_neg (by simp [hrow]), ok_bind]

/-- The effect of an approved pending operation is applied, unless a callback raises or
there is a note already. -/
theorem applyEffect_cases {operation : LocalOperation} (checkpoint : Stage → Except Raised Unit)
    {db : SandboxDb} {row : OperationRow} (happ : approvedRow operation db = .ok row)
    (hpending : row.completed = false) :
    (∃ e, applyEffect operation checkpoint db = .error e ∧
        ((∃ stage, checkpoint stage = .error e) ∨
          db.notes.find? operation.operationId ≠ none)) ∨
      ∃ db', applyEffect operation checkpoint db = .ok db' ∧ Executes db db' operation row := by
  have hrow := (existing_eq_ok.1 (approvedRow_eq_ok.1 happ).1).1
  unfold applyEffect
  rcases hbefore : checkpoint .beforeEffect with e | ⟨⟩
  · exact Or.inl ⟨e, rfl, Or.inl ⟨_, hbefore⟩⟩
  rcases hfresh : db.notes.find? operation.operationId with _ | old
  · obtain ⟨notes, hins, hnotes⟩ :=
      insertNote_of_fresh ⟨operation.operationId, operation.payload⟩ hfresh hrow
    rcases hafter : checkpoint .afterEffect with e | ⟨⟩
    · exact Or.inl ⟨e, by simp [hins], Or.inl ⟨_, hafter⟩⟩
    rcases hcommit : checkpoint .beforeCommit with e | ⟨⟩
    · exact Or.inl ⟨e, by simp [hins], Or.inl ⟨_, hcommit⟩⟩
    · exact Or.inr ⟨setCompleted operation.operationId { db with notes }, by simp [hins],
        ⟨happ, hpending, hfresh, find?_setCompleted hrow, hnotes⟩⟩
  · refine Or.inl ⟨uniqueFailed "notes.operation_id", ?_, Or.inr (by simp)⟩
    have hins : db.notes.insert? ⟨operation.operationId, operation.payload⟩ = none :=
      Table.insert?_of_some hfresh
    rw [ok_bind, insertNote, hins]
    rfl

/-- An execution raises and changes nothing, finds its effect done, or applies it. -/
theorem execute_cases (operation : LocalOperation) (checkpoint : Stage → Except Raised Unit)
    (db : SandboxDb) :
    (∃ e, execute operation checkpoint db = (db, .error e) ∧
        (approvedRow operation db = .error e ∨
          ∃ row, approvedRow operation db = .ok row ∧ row.completed = false ∧
            ((∃ stage, checkpoint stage = .error e) ∨
              db.notes.find? operation.operationId ≠ none))) ∨
      (∃ row, approvedRow operation db = .ok row ∧ row.completed = true ∧
        execute operation checkpoint db = (db, .ok false)) ∨
      ∃ row db', Executes db db' operation row ∧
        execute operation checkpoint db = (db', do checkpoint .afterCommit; .ok true) := by
  unfold execute
  rcases happ : approvedRow operation db with e | row
  · have hbody : executeInTransaction operation checkpoint db = .error e := by
      rw [executeInTransaction, happ, error_bind]
    rw [transaction_of_error hbody]
    exact Or.inl ⟨e, rfl, Or.inl rfl⟩
  rcases hc : row.completed with _ | _
  · rcases applyEffect_cases checkpoint happ hc with
      ⟨e, heff, hcause⟩ | ⟨db', heff, hdone⟩
    · have hbody : executeInTransaction operation checkpoint db = .error e := by
        simp [executeInTransaction, happ, hc, heff]
      rw [transaction_of_error hbody]
      exact Or.inl ⟨e, rfl, Or.inr ⟨row, rfl, hc, hcause⟩⟩
    · have hbody : executeInTransaction operation checkpoint db = .ok (true, db') := by
        simp [executeInTransaction, happ, hc, heff]
      rw [transaction_of_ok hbody]
      exact Or.inr (Or.inr ⟨row, db', hdone, rfl⟩)
  · have hbody : executeInTransaction operation checkpoint db = .ok (false, db) := by
      simp [executeInTransaction, happ, hc]
    rw [transaction_of_ok hbody]
    exact Or.inr (Or.inl ⟨row, rfl, hc, rfl⟩)

end DurableSandbox

end ReliabilityLab
