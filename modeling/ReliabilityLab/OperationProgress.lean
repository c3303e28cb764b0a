import ReliabilityLab.DurableEffects
import ReliabilityLab.KeyedMachines

/-!
# The progress of one operation

What a caller of the durable sandbox sees of one operation id is a small automaton
(`Progress`) : unknown, then requested with an exact payload and perhaps a decision, then
executed. `progressMachine` gives the reply of every call in each of these states. It has no
tables, no constraints and no transaction over two rows.

`sandbox_progress` : in every run, with crashes and with callbacks that raise, the row of an
id, its note and every reply to a call about it are those of this automaton, run on the calls
about this id alone.
-/

set_option linter.unusedSectionVars false

open Serial Keyed

namespace ReliabilityLab

namespace DurableSandbox

/-! ## One operation -/

/-- What is known of an operation id. -/
inductive Progress where
  | unknown
  | requested (payload : String) (decision : Option Decision)
  | executed (payload : String)
  deriving DecidableEq, Repr

namespace Progress

/-- The payload of an operation that was requested. -/
def payload? : Progress → Option String
  | .unknown => none
  | .requested payload _ | .executed payload => some payload

/-- What was executed was approved. -/
def decision? : Progress → Option Decision
  | .unknown => none
  | .requested _ decision => decision
  | .executed _ => some .approved

/-- The progress after a decision. -/
def decided (decision : Decision) : Progress → Progress
  | .requested payload _ => .requested payload (some decision)
  | p => p

/-- The note of the operation `i`. -/
def note (i : String) : Progress → Option NoteRow
  | .executed payload => some ⟨i, payload⟩
  | _ => none

/-- The operation was requested, with this payload. -/
def sameEffect (operation : LocalOperation) (p : Progress) : Except Raised Unit := do
  let payload ← orRaise p.payload?
    ⟨.approvalRequired, "operation must be requested before a decision or execution"⟩
  raiseIf (payload ≠ operation.payload)
    ⟨.idempotencyConflict, "operation_id is already bound to a different exact effect"⟩

end Progress

/-- A call about one operation id. -/
inductive ProgressCall where
  | request (operation : LocalOperation)
  | decide (operation : LocalOperation) (decision : String)
  | execute (operation : LocalOperation) (checkpoint : Stage → Except Raised Unit)

/-- An approved operation that is pending lets the callbacks pass and is executed. -/
def executeProgress (operation : LocalOperation) (checkpoint : Stage → Except Raised Unit)
    (p : Progress) : Except Raised (Bool × Progress) := do
  p.sameEffect operation
  match p with
  | .executed payload => .ok (false, .executed payload)
  | p => do
    let decision ← orRaise p.decision? ⟨.approvalRequired, "an exact approval is required"⟩
    raiseIf (decision = .denied) ⟨.approvalDenied, "the exact operation was denied"⟩
    checkpoint .beforeEffect
    checkpoint .afterEffect
    checkpoint .beforeCommit
    .ok (true, .executed operation.payload)

/-- The automaton of an operation id. -/
def progressMachine : Machine Progress ProgressCall (Except Raised SandboxReply) where
  perform
    | .request operation, p =>
      match p with
      | .unknown => (.requested operation.payload none, .ok .done)
      | p => (p, (fun _ => .done) <$> p.sameEffect operation)
    | .decide operation text, p =>
      transaction (fun p => do
        let decision ← orRaise (Decision.ofText? text)
          ⟨.valueError, "decision must be approved or denied"⟩
        p.sameEffect operation
        raiseIf (∃ previous ∈ p.decision?, previous ≠ decision)
          ⟨.approvalConflict, "an existing decision cannot be reversed by replay"⟩
        .ok (.done, p.decided decision)) p
    | .execute operation checkpoint, p =>
      let result := transaction (executeProgress operation checkpoint) p
      (result.1, do
        let fresh ← result.2
        if fresh then checkpoint .afterCommit
        .ok (.executed fresh))

/-- The operation id a call is about. -/
def toOperation : SandboxCall → Option (String × ProgressCall)
  | .reopen | .notes => none
  | .request operation => some (operation.operationId, .request operation)
  | .decide operation decision => some (operation.operationId, .decide operation decision)
  | .execute operation checkpoint => some (operation.operationId, .execute operation checkpoint)

/-! ## The row of an operation -/

/-- The progress of a stored operation. -/
def rowProgress (row : OperationRow) : Progress :=
  if row.completed then .executed row.payload else .requested row.payload row.decision

/-- What the database knows of an operation id. -/
def progress (db : SandboxDb) (i : String) : Progress :=
  (db.operations.find? i).elim .unknown rowProgress

theorem progress_of_none {db : SandboxDb} {i : String} (h : db.operations.find? i = none) :
    progress db i = .unknown := by
  rw [progress, h, Option.elim_none]

theorem progress_of_row {db : SandboxDb} {i : String} {row : OperationRow}
    (h : db.operations.find? i = some row) : progress db i = rowProgress row := by
  rw [progress, h, Option.elim_some]

theorem payload?_rowProgress (row : OperationRow) :
    (rowProgress row).payload? = some row.payload := by
  unfold rowProgress
  split_ifs <;> rfl

theorem rowProgress_decided (row : OperationRow) (d : Decision) :
    rowProgress { row with decision := some d } = (rowProgress row).decided d := by
  unfold rowProgress
  split_ifs <;> rfl

/-- `WellFormed`, and every row is of the one tool. -/
structure Recorded (db : SandboxDb) : Prop where
  wellFormed : WellFormed db
  tool : ∀ i row, db.operations.find? i = some row → row.tool = "record_note"

theorem recorded_empty : Recorded .empty :=
  ⟨wellFormed_empty, fun i row h => by simp [SandboxDb.empty] at h⟩

/-- The new row of one id has the tool. -/
theorem Recorded.tool_update {db db' : SandboxDb} (h : Recorded db) {k : String}
    {new : OperationRow}
    (hops : ∀ i, db'.operations.find? i = if i = k then some new else db.operations.find? i)
    (hnew : new.tool = "record_note") {i : String} {row : OperationRow}
    (hrow : db'.operations.find? i = some row) :
    row.tool = "record_note" := by
  rw [hops] at hrow
  split_ifs at hrow with hi
  · exact Option.some.inj hrow ▸ hnew
  · exact h.tool i row hrow

theorem recorded_preserved : sandboxMachine.Preserves Recorded := by
  intro c db h
  refine ⟨wellFormed_preserved c db h.wellFormed, fun i row hrow => ?_⟩
  rcases perform_cases c db with hs | ⟨op, -, hreq⟩ | ⟨op, text, row, d, -, hdec⟩ |
    ⟨op, ck, row, -, hexec⟩
  · rw [hs.operations] at hrow
    exact h.tool i row hrow
  · exact h.tool_update hreq.operations op.tool_supported hrow
  · have htool := h.tool _ _ (existing_eq_ok.1 hdec.existing).1
    exact h.tool_update hdec.operations htool hrow
  · have htool := h.tool _ _ (existing_eq_ok.1 (approvedRow_eq_ok.1 hexec.approved).1).1
    exact h.tool_update hexec.operations htool hrow

theorem Recorded.note {db : SandboxDb} (h : Recorded db) (i : String) :
    db.notes.find? i = (progress db i).note i := by
  cases hrow : db.operations.find? i with
  | none =>
    rw [progress_of_none hrow]
    refine Option.eq_none_iff_forall_ne_some.2 fun note hnote => ?_
    obtain ⟨row, hr, -⟩ := h.wellFormed.noted i note hnote
    rw [hrow] at hr
    cases hr
  | some row =>
    rw [progress_of_row hrow, rowProgress]
    split_ifs with hc
    · exact (h.wellFormed.completed i row hrow hc).2
    · refine Option.eq_none_iff_forall_ne_some.2 fun note hnote => hc ?_
      obtain ⟨r, hr, hc'⟩ := h.wellFormed.noted i note hnote
      exact Option.some.inj (hrow.symm.trans hr) ▸ hc'

theorem Recorded.decision? {db : SandboxDb} (h : Recorded db) {i : String} {row : OperationRow}
    (hrow : db.operations.find? i = some row) : (rowProgress row).decision? = row.decision := by
  unfold rowProgress
  split_ifs with hc
  · exact (h.wellFormed.completed i row hrow hc).1.symm
  · rfl

/-- `existing` compares the payload only, as every row is of the one tool. -/
theorem Recorded.existing {db : SandboxDb} (h : Recorded db) (operation : LocalOperation) :
    (∃ e, existing operation db = .error e ∧
        (progress db operation.operationId).sameEffect operation = .error e) ∨
      ∃ row, existing operation db = .ok row ∧
        db.operations.find? operation.operationId = some row ∧
        progress db operation.operationId = rowProgress row ∧
        (progress db operation.operationId).sameEffect operation = .ok () ∧
        row.payload = operation.payload := by
  cases hrow : db.operations.find? operation.operationId with
  | none =>
    rw [progress_of_none hrow, DurableSandbox.existing, hrow]
    exact Or.inl ⟨_, rfl, rfl⟩
  | some row =>
    rw [progress_of_row hrow, Progress.sameEffect, payload?_rowProgress, orRaise_some, ok_bind]
    by_cases hp : row.payload = operation.payload
    · have htool : row.tool = operation.tool :=
        (h.tool _ _ hrow).trans operation.tool_supported.symm
      exact Or.inr ⟨row, existing_eq_ok.2 ⟨hrow, htool, hp⟩, rfl, rfl,
        raiseIf_neg (not_not.2 hp) _, hp⟩
    · refine Or.inl ⟨⟨.idempotencyConflict,
        "operation_id is already bound to a different exact effect"⟩, ?_, raiseIf_pos hp _⟩
      rw [DurableSandbox.existing, hrow, orRaise_some, ok_bind, raiseIf_pos (by simp [hp]),
        error_bind]

/-! ## The calls -/

theorem Recorded.request {db : SandboxDb} (h : Recorded db) (operation : LocalOperation) :
    progress (request operation db).1 operation.operationId =
        (progressMachine.perform (.request operation) (progress db operation.operationId)).1 ∧
      (fun _ => SandboxReply.done) <$> (request operation db).2 =
        (progressMachine.perform (.request operation) (progress db operation.operationId)).2 := by
  rcases hrow : db.operations.find? operation.operationId with _ | row
  · rcases request_cases operation db with ⟨db', hreq, hp⟩ | ⟨row, hex, -⟩ | ⟨row, e, hfind, -⟩
    · rw [hp, progress_of_none hrow, progress_of_row ((hreq.operations _).trans (if_pos rfl))]
      exact ⟨rfl, rfl⟩
    · rw [(existing_eq_ok.1 hex).1] at hrow
      cases hrow
    · rw [hfind] at hrow
      cases hrow
  · have hold : insertRequest operation db = db := by
      rw [insertRequest, Table.insertOrIgnore_of_some (r := requestRow operation) hrow]
    have hmachine : progressMachine.perform (.request operation) (progress db
        operation.operationId) = (progress db operation.operationId, (fun _ => .done) <$>
          (progress db operation.operationId).sameEffect operation) := by
      rw [progress_of_row hrow, rowProgress]
      split_ifs <;> rfl
    rw [hmachine]
    rcases h.existing operation with ⟨e, hex, hsame⟩ | ⟨r, hex, -, -, hsame, -⟩
    · have hp : DurableSandbox.request operation db = (db, .error e) :=
        transaction_of_error (by simp only [hold, hex, error_bind])
      rw [hp, hsame]
      exact ⟨rfl, rfl⟩
    · have hp : DurableSandbox.request operation db = (db, .ok ()) :=
        transaction_of_ok (by simp only [hold, hex, ok_bind])
      rw [hp, hsame]
      exact ⟨rfl, rfl⟩

theorem Recorded.decide {db : SandboxDb} (h : Recorded db) (operation : LocalOperation)
    (text : String) :
    progress (decide operation text db).1 operation.operationId =
        (progressMachine.perform (.decide operation text)
          (progress db operation.operationId)).1 ∧
      (fun _ => SandboxReply.done) <$> (decide operation text db).2 =
        (progressMachine.perform (.decide operation text)
          (progress db operation.operationId)).2 := by
  unfold DurableSandbox.decide
  simp only [progressMachine]
  rcases Decision.ofText? text with _ | d
  · exact ⟨rfl, rfl⟩
  simp only [orRaise_some, ok_bind]
  rcases h.existing operation with ⟨e, hex, hsame⟩ | ⟨row, hex, hrow, hprog, hsame, -⟩
  · rw [transaction_of_error (by rw [hex, error_bind]),
      transaction_of_error (by rw [hsame, error_bind])]
    exact ⟨rfl, rfl⟩
  have hdec : (progress db operation.operationId).decision? = row.decision := by
    rw [hprog, h.decision? hrow]
  by_cases hrev : ∃ previous ∈ row.decision, previous ≠ d
  · rw [transaction_of_error (by rw [hex, ok_bind, raiseIf_pos hrev, error_bind]),
      transaction_of_error
        (by rw [hsame, ok_bind, raiseIf_pos (by rw [hdec]; exact hrev), error_bind])]
    exact ⟨rfl, rfl⟩
  · rw [transaction_of_ok (by rw [hex, ok_bind, raiseIf_neg hrev, ok_bind]),
      transaction_of_ok
        (by rw [hsame, ok_bind, raiseIf_neg (by rw [hdec]; exact hrev), ok_bind])]
    refine ⟨?_, rfl⟩
    rw [progress_of_row ((find?_setDecision hrow d _).trans (if_pos rfl)), rowProgress_decided,
      hprog]

/-- An effect that finds no note succeeds exactly if the callbacks do. -/
theorem applyEffect_of_fresh {operation : LocalOperation} (checkpoint : Stage → Except Raised Unit)
    {db : SandboxDb} {row : OperationRow}
    (hrow : db.operations.find? operation.operationId = some row)
    (hfresh : db.notes.find? operation.operationId = none) :
    ∃ db', progress db' operation.operationId = .executed row.payload ∧
      applyEffect operation checkpoint db = (do
        checkpoint .beforeEffect
        checkpoint .afterEffect
        checkpoint .beforeCommit
        .ok db') := by
  obtain ⟨notes, hins, -⟩ :=
    insertNote_of_fresh ⟨operation.operationId, operation.payload⟩ hfresh hrow
  refine ⟨setCompleted operation.operationId { db with notes }, ?_, ?_⟩
  · exact progress_of_row ((find?_setCompleted hrow _).trans (if_pos rfl))
  · unfold applyEffect
    simp only [hins, ok_bind]

/-- The transaction of `execute` moves the progress of its operation. -/
theorem Recorded.executeInTransaction {db : SandboxDb} (h : Recorded db)
    (operation : LocalOperation) (checkpoint : Stage → Except Raised Unit) :
    (∃ e, executeInTransaction operation checkpoint db = .error e ∧
        executeProgress operation checkpoint (progress db operation.operationId) = .error e) ∨
      ∃ fresh db', executeInTransaction operation checkpoint db = .ok (fresh, db') ∧
        executeProgress operation checkpoint (progress db operation.operationId) =
          .ok (fresh, progress db' operation.operationId) := by
  unfold DurableSandbox.executeInTransaction executeProgress approvedRow
  rcases h.existing operation with ⟨e, hex, hsame⟩ | ⟨row, hex, hrow, hprog, hsame, hpayload⟩
  · exact Or.inl ⟨e, by rw [hex]; rfl, by rw [hsame, error_bind]⟩
  rw [hex, hsame, ok_bind, ok_bind, hprog]
  cases hc : row.completed with
  | true =>
    have happ := (h.wellFormed.completed _ row hrow hc).1
    refine Or.inr ⟨false, db, by rw [happ]; simp [hc, raiseIf], ?_⟩
    rw [hprog, rowProgress, if_pos hc]
  | false =>
    have hpending : rowProgress row = .requested row.payload row.decision := by
      rw [rowProgress, if_neg (by simp [hc])]
    rw [hpending]
    simp only [Progress.decision?]
    rcases hd : row.decision with _ | (_ | _)
    · exact Or.inl ⟨_, rfl, rfl⟩
    · have hfresh := h.wellFormed.fresh_of_pending (approvedRow_eq_ok.2 ⟨hex, hd⟩) hc
      obtain ⟨db', hprog', heffect⟩ := applyEffect_of_fresh checkpoint hrow hfresh
      simp only [orRaise_some, ok_bind, raiseIf, reduceCtorEq, if_false, hc, heffect,
        Bool.false_eq_true]
      rcases checkpoint .beforeEffect with e | ⟨⟩
      · exact Or.inl ⟨e, rfl, rfl⟩
      rcases checkpoint .afterEffect with e | ⟨⟩
      · exact Or.inl ⟨e, rfl, rfl⟩
      rcases checkpoint .beforeCommit with e | ⟨⟩
      · exact Or.inl ⟨e, rfl, rfl⟩
      · exact Or.inr ⟨true, db', rfl, by rw [hprog', hpayload]; rfl⟩
    · exact Or.inl ⟨_, rfl, rfl⟩

theorem Recorded.execute {db : SandboxDb} (h : Recorded db) (operation : LocalOperation)
    (checkpoint : Stage → Except Raised Unit) :
    progress (execute operation checkpoint db).1 operation.operationId =
        (progressMachine.perform (.execute operation checkpoint)
          (progress db operation.operationId)).1 ∧
      SandboxReply.executed <$> (execute operation checkpoint db).2 =
        (progressMachine.perform (.execute operation checkpoint)
          (progress db operation.operationId)).2 := by
  unfold DurableSandbox.execute
  simp only [progressMachine]
  rcases h.executeInTransaction operation checkpoint with ⟨e, hbody, hprog⟩ |
    ⟨fresh, db', hbody, hprog⟩
  · rw [transaction_of_error hbody, transaction_of_error hprog]
    exact ⟨rfl, rfl⟩
  · rw [transaction_of_ok hbody, transaction_of_ok hprog]
    refine ⟨rfl, ?_⟩
    cases fresh
    · rfl
    · simp only [ok_bind, if_true]
      cases checkpoint .afterCommit <;> rfl

/-! ## The sandbox serves the automata -/

/-- A call changes the row of no other operation. -/
theorem progress_frame {c : SandboxCall} {db : SandboxDb} {i : String}
    (hc : ∀ d, toOperation c ≠ some (i, d)) :
    progress (sandboxMachine.perform c db).1 i = progress db i := by
  unfold progress
  rcases perform_cases c db with hs | ⟨op, rfl, hreq⟩ | ⟨op, text, row, d, rfl, hdec⟩ |
    ⟨op, ck, row, rfl, hexec⟩
  · rw [hs.operations]
  · rw [hreq.operations, if_neg]
    rintro rfl
    exact hc _ rfl
  · rw [hdec.operations, if_neg]
    rintro rfl
    exact hc _ rfl
  · rw [hexec.operations, if_neg]
    rintro rfl
    exact hc _ rfl

theorem sandbox_serves :
    sandboxMachine.Serves (fun _ => progressMachine) toOperation id Recorded progress where
  keeps := recorded_preserved
  step {c db i d} hdb hc := by
    cases c with
    | reopen => cases hc
    | notes => cases hc
    | request operation =>
      obtain ⟨rfl, rfl⟩ := Prod.mk.inj (Option.some.inj hc)
      exact hdb.request operation
    | decide operation text =>
      obtain ⟨rfl, rfl⟩ := Prod.mk.inj (Option.some.inj hc)
      exact hdb.decide operation text
    | execute operation checkpoint =>
      obtain ⟨rfl, rfl⟩ := Prod.mk.inj (Option.some.inj hc)
      exact hdb.execute operation checkpoint
  frame _ hc := progress_frame hc

/-- In every run the row and the note of an operation id, and the replies to the calls about
it, are those of its automaton on the calls about it that were not rolled back. -/
theorem sandbox_progress (cs : List (SandboxCall × Machine.Fate)) (i : String) :
    let p := progressMachine.after .unknown
      (Machine.callsTo (Machine.Serves.crashKey toOperation) i cs)
    progress (sandboxMachine.crashing.after .empty cs) i = p ∧
      (sandboxMachine.crashing.after .empty cs).notes.find? i = p.note i ∧
      Machine.repliesTo (Machine.Serves.crashKey toOperation) i
          (sandboxMachine.crashing.history .empty cs) =
        (progressMachine.history .unknown
          (Machine.callsTo (Machine.Serves.crashKey toOperation) i cs)).map
            fun e => (e.1, some e.2) := by
  have hview := sandbox_serves.crashing.view_after recorded_empty cs i
  refine ⟨hview, ?_, sandbox_serves.crashing.replies_history recorded_empty cs i⟩
  rw [(recorded_preserved.crashing.after recorded_empty cs).note i, hview]
  rfl

end DurableSandbox

end ReliabilityLab
