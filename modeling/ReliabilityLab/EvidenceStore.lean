import ReliabilityLab.Machine
import ReliabilityLab.Reconciliation
import ReliabilityLab.Table

/-!
# The evidence store

`ReconciliationEvidenceStore` : one head per operation identity, the newest provider
evidence with its decision, and one completion row per identity. `record` replaces a
head by newer evidence only, `markReconciled` writes a completion from the current
accepting head only, and `applyRetry` applies a retry only while it is the head's.

`record_cases` and `markReconciled_cases` are what these two calls can do, and
`perform_cases` what any call can do to the tables.
-/

set_option linter.unusedSectionVars false

open Serial Keyed

namespace ReliabilityLab

/-! ## The database -/

/-- A head as its readers see it. -/
@[ext]
structure ReconciliationEvidenceRecord where
  provider : String
  operationId : String
  evidenceId : String
  revision : Int
  effectSha256 : String
  decision : ReconciliationDecision
  deriving DecidableEq, Repr

/-- A row of `reconciliation_heads`. -/
structure HeadRow where
  provider : String
  operationId : String
  effectSha256 : String
  evidenceId : String
  revision : Int
  action : DecisionAction
  shouldRetry : Int
  reason : String
  retryPreconditionRevision : Option Int
  retryEffectSha256 : Option String
  deriving DecidableEq, Repr

/-- A row of `reconciliation_completions`. -/
structure ReconciliationCompletionRecord where
  provider : String
  operationId : String
  effectSha256 : String
  evidenceId : String
  revision : Int
  deriving DecidableEq, Repr

/-- The identity of the operation of a record. -/
def ReconciliationEvidenceRecord.identity (record : ReconciliationEvidenceRecord) :
    String × String :=
  (record.provider, record.operationId)

/-- The identity of the operation of a head. -/
def HeadRow.identity (row : HeadRow) : String × String :=
  (row.provider, row.operationId)

/-- The identity of the operation of a completion. -/
def ReconciliationCompletionRecord.identity (row : ReconciliationCompletionRecord) :
    String × String :=
  (row.provider, row.operationId)

/-- The decision in a row. -/
def decisionFromRow (row : HeadRow) : ReconciliationDecision where
  action := row.action
  shouldRetry := row.shouldRetry ≠ 0
  reason := row.reason
  retryPreconditionRevision := row.retryPreconditionRevision
  retryEffectSha256 := row.retryEffectSha256

/-- The record in a row. -/
def recordFromRow (row : HeadRow) : ReconciliationEvidenceRecord where
  provider := row.provider
  operationId := row.operationId
  evidenceId := row.evidenceId
  revision := row.revision
  effectSha256 := row.effectSha256
  decision := decisionFromRow row

/-- The values bound to the upsert of a head. -/
def rowOfRecord (record : ReconciliationEvidenceRecord) : HeadRow where
  provider := record.provider
  operationId := record.operationId
  effectSha256 := record.effectSha256
  evidenceId := record.evidenceId
  revision := record.revision
  action := record.decision.action
  shouldRetry := if record.decision.shouldRetry then 1 else 0
  reason := record.decision.reason
  retryPreconditionRevision := record.decision.retryPreconditionRevision
  retryEffectSha256 := record.decision.retryEffectSha256

/-- A stored record is read back as it was. -/
theorem recordFromRow_rowOfRecord (record : ReconciliationEvidenceRecord) :
    recordFromRow (rowOfRecord record) = record := by
  obtain ⟨p, o, e, r, s, ⟨a, b, t, q, f⟩⟩ := record
  cases b <;> rfl

/-- The `SET` clause of the upsert : every column of `new` but the key. -/
def HeadRow.overwrite (new old : HeadRow) : HeadRow :=
  { new with provider := old.provider, operationId := old.operationId }

@[simp] theorem HeadRow.identity_overwrite (new old : HeadRow) :
    (new.overwrite old).identity = old.identity := rfl

theorem HeadRow.overwrite_of_identity {new old : HeadRow} (h : old.identity = new.identity) :
    new.overwrite old = new := by
  obtain ⟨hp, ho⟩ := Prod.mk.inj h
  simp only [overwrite, hp, ho]

/-- The tables `reconciliation_heads` and `reconciliation_completions`. -/
structure EvidenceDb where
  heads : Table HeadRow HeadRow.identity
  completions : Table ReconciliationCompletionRecord ReconciliationCompletionRecord.identity

namespace EvidenceDb

/-- A new database. -/
def empty : EvidenceDb :=
  ⟨.empty, .empty⟩

/-- The persisted head of an identity. -/
def head (db : EvidenceDb) (k : String × String) : Option ReconciliationEvidenceRecord :=
  (db.heads.find? k).map recordFromRow

/-- The completion row of an identity. -/
def completionOf (db : EvidenceDb) (k : String × String) :
    Option ReconciliationCompletionRecord :=
  db.completions.find? k

@[simp] theorem head_empty (k : String × String) : empty.head k = none := rfl

@[simp] theorem completionOf_empty (k : String × String) : empty.completionOf k = none := rfl

/-- `INSERT INTO reconciliation_heads ... ON CONFLICT DO UPDATE`. -/
def putHead (db : EvidenceDb) (record : ReconciliationEvidenceRecord) : EvidenceDb :=
  { db with
    heads := db.heads.upsert (rowOfRecord record) (rowOfRecord record).overwrite
      (rowOfRecord record).identity_overwrite }

@[simp] theorem completionOf_putHead (db : EvidenceDb) (record : ReconciliationEvidenceRecord)
    (k : String × String) : (db.putHead record).completionOf k = db.completionOf k := rfl

theorem head_putHead (db : EvidenceDb) (record : ReconciliationEvidenceRecord)
    (k : String × String) :
    (db.putHead record).head k = if k = record.identity then some record else db.head k := by
  have hkey : (rowOfRecord record).identity = record.identity := rfl
  unfold head putHead
  rw [Table.find?_upsert, hkey]
  split_ifs with hk
  · rcases hold : db.heads.find? record.identity with _ | old
    · exact congrArg some (recordFromRow_rowOfRecord record)
    · have hid : old.identity = (rowOfRecord record).identity := Table.key_of_find? hold
      simp only [Option.elim_some, Option.map_some, HeadRow.overwrite_of_identity hid,
        recordFromRow_rowOfRecord]
  · rfl

end EvidenceDb

namespace ReconciliationEvidenceStore

/-! ## The calls -/

variable [Hashlib]

/-- The record a call of `record` proposes. -/
def candidateRecord (operation : ExternalOperation) (evidenceId : String)
    (evidence : ProviderEvidence) : Except Raised ReconciliationEvidenceRecord := do
  raiseIf (isBlank evidenceId = true)
    ⟨.valueError, "evidence_id must be a nonempty string"⟩
  let revision ← orRaise evidence.readbackRevision
    ⟨.evidenceLineageConflict, "persistent evidence lineage requires a provider revision"⟩
  let decision ← reconcileLostAck operation evidence
  .ok ⟨operation.provider, operation.operationId, evidenceId, revision, operation.effectSha256,
    decision⟩

/-- The exception of a completion row bound to another effect. -/
def completedOtherEffect : Raised :=
  ⟨.evidenceLineageConflict, "reconciled operation identity is bound to a different exact effect"⟩

/-- The checks of `record` against a completion row. -/
def checkCompletion (operation : ExternalOperation) (candidate : ReconciliationEvidenceRecord) :
    Option ReconciliationCompletionRecord → Except Raised Unit
  | none => .ok ()
  | some completion => do
    raiseIf (completion.effectSha256 ≠ operation.effectSha256) completedOtherEffect
    raiseIf (candidate.decision.shouldRetry = true)
      ⟨.supersededReconciliationDecision,
        "reconciled operation cannot regain retry authority from later absence evidence"⟩

/-- The checks of `record` against the head. The head is given back when it already
carries the candidate's evidence. -/
def checkHead (operation : ExternalOperation) (candidate : ReconciliationEvidenceRecord) :
    Option ReconciliationEvidenceRecord → Except Raised (Option ReconciliationEvidenceRecord)
  | none => .ok none
  | some current => do
    raiseIf (current.effectSha256 ≠ operation.effectSha256)
      ⟨.evidenceLineageConflict, "operation identity is already bound to a different exact effect"⟩
    raiseIf (candidate.revision < current.revision)
      ⟨.supersededReconciliationDecision,
        "provider evidence is older than the persisted reconciliation head"⟩
    if candidate.revision = current.revision then do
      raiseIf (¬(candidate.effectSha256 = current.effectSha256 ∧
          candidate.decision = current.decision))
        ⟨.evidenceLineageConflict,
          "the same provider revision cannot carry conflicting reconciliation evidence"⟩
      .ok (some current)
    else
      .ok none

/-- Persist provider evidence for an operation. -/
def record (operation : ExternalOperation) (evidenceId : String) (evidence : ProviderEvidence)
    (db : EvidenceDb) : EvidenceDb × Except Raised ReconciliationEvidenceRecord :=
  match candidateRecord operation evidenceId evidence with
  | .error e => (db, .error e)
  | .ok candidate =>
    transaction (fun db => do
      checkCompletion operation candidate (db.completionOf operation.identity)
      match ← checkHead operation candidate (db.head operation.identity) with
      | some current => .ok (current, db)
      | none => .ok (candidate, db.putHead candidate)) db

/-- The persisted head of an operation. -/
def current (operation : ExternalOperation) (db : EvidenceDb) :
    Except Raised ReconciliationEvidenceRecord := do
  let record ← orRaise (db.head operation.identity)
    ⟨.evidenceLineageConflict, "no reconciliation evidence is persisted for this operation"⟩
  raiseIf (record.effectSha256 ≠ operation.effectSha256)
    ⟨.evidenceLineageConflict, "persisted evidence is bound to a different exact effect"⟩
  .ok record

/-- The completion row of an operation, if there is one. -/
def completion (operation : ExternalOperation) (db : EvidenceDb) :
    Except Raised (Option ReconciliationCompletionRecord) :=
  match db.completionOf operation.identity with
  | none => .ok none
  | some completion => do
    raiseIf (completion.effectSha256 ≠ operation.effectSha256)
      ⟨.evidenceLineageConflict,
        "persisted reconciliation completion is bound to a different exact effect"⟩
    .ok (some completion)

/-- The exception of an evidence id and decision that are not the head's. -/
def supersededDecision : Raised :=
  ⟨.supersededReconciliationDecision,
    "reconciliation decision is superseded by newer persisted provider evidence"⟩

/-- The exception of completing from a decision that does not accept a commit. -/
def notPresent : Raised :=
  ⟨.evidenceLineageConflict, "only a current provider-PRESENT decision can complete reconciliation"⟩

/-- Durably complete reconciliation only from the current accepting decision. -/
def markReconciled (operation : ExternalOperation) (evidenceId : String)
    (decision : ReconciliationDecision) (db : EvidenceDb) :
    EvidenceDb × Except Raised ReconciliationCompletionRecord :=
  transaction (fun db => do
    let current ← current operation db
    raiseIf (current.evidenceId ≠ evidenceId ∨ current.decision ≠ decision) supersededDecision
    raiseIf (decision.shouldRetry = true ∨ decision.action ≠ .acceptRemoteCommit) notPresent
    match db.completionOf operation.identity with
    | some existing => do
      raiseIf (existing.effectSha256 ≠ operation.effectSha256) completedOtherEffect
      .ok (existing, db)
    | none => do
      let completion : ReconciliationCompletionRecord :=
        ⟨operation.provider, operation.operationId, operation.effectSha256, evidenceId,
          current.revision⟩
      let completions ← orRaise (db.completions.insert? completion)
        (uniqueFailed
          "reconciliation_completions.provider, reconciliation_completions.operation_id")
      .ok (completion, { db with completions })) db

/-- The evidence and the decision are those of the head. -/
def assertCurrent (operation : ExternalOperation) (evidenceId : String)
    (decision : ReconciliationDecision) (db : EvidenceDb) : Except Raised Unit := do
  let current ← current operation db
  raiseIf (current.evidenceId ≠ evidenceId ∨ current.decision ≠ decision) supersededDecision

/-- A conditional retry, with the decision of the head. -/
def applyRetry (operation : ExternalOperation) (evidenceId : String)
    (decision : ReconciliationDecision) (providerState : VersionedProviderState)
    (db : EvidenceDb) : Except Raised VersionedProviderState := do
  assertCurrent operation evidenceId decision db
  applyConditionalRetry operation decision providerState

/-- A call of the store. Opening the store again creates no table that exists. -/
inductive EvidenceCall where
  | reopen
  | record (operation : ExternalOperation) (evidenceId : String) (evidence : ProviderEvidence)
  | current (operation : ExternalOperation)
  | completion (operation : ExternalOperation)
  | markReconciled (operation : ExternalOperation) (evidenceId : String)
      (decision : ReconciliationDecision)
  | assertCurrent (operation : ExternalOperation) (evidenceId : String)
      (decision : ReconciliationDecision)
  | applyRetry (operation : ExternalOperation) (evidenceId : String)
      (decision : ReconciliationDecision) (providerState : VersionedProviderState)
  deriving DecidableEq

/-- What the calls return. -/
inductive EvidenceReply where
  | done
  | head (record : ReconciliationEvidenceRecord)
  | completed (completion : Option ReconciliationCompletionRecord)
  | state (state : VersionedProviderState)
  deriving DecidableEq

/-- The store as a serialised machine. -/
def evidenceMachine : Machine EvidenceDb EvidenceCall (Except Raised EvidenceReply) where
  perform
    | .reopen, db => (db, .ok .done)
    | .record operation evidenceId evidence, db =>
      ((record operation evidenceId evidence db).1,
        .head <$> (record operation evidenceId evidence db).2)
    | .current operation, db => (db, .head <$> current operation db)
    | .completion operation, db => (db, .completed <$> completion operation db)
    | .markReconciled operation evidenceId decision, db =>
      ((markReconciled operation evidenceId decision db).1,
        (fun c => .completed (some c)) <$> (markReconciled operation evidenceId decision db).2)
    | .assertCurrent operation evidenceId decision, db =>
      (db, (fun _ => .done) <$> assertCurrent operation evidenceId decision db)
    | .applyRetry operation evidenceId decision providerState, db =>
      (db, .state <$> applyRetry operation evidenceId decision providerState db)

/-! ## What `record` does -/

theorem candidateRecord_eq_ok {operation : ExternalOperation} {evidenceId : String}
    {evidence : ProviderEvidence} {candidate : ReconciliationEvidenceRecord} :
    candidateRecord operation evidenceId evidence = .ok candidate ↔
      isBlank evidenceId = false ∧ ∃ revision decision,
        evidence.readbackRevision = some revision ∧
        reconcileLostAck operation evidence = .ok decision ∧
        candidate = ⟨operation.provider, operation.operationId, evidenceId, revision,
          operation.effectSha256, decision⟩ := by
  simp only [candidateRecord, raiseIf_bind_eq_ok, orRaise_bind_eq_ok]
  simp only [bind_eq_ok, Except.ok.injEq]
  refine ⟨?_, ?_⟩
  · rintro ⟨hid, r, hr, d, hd, rfl⟩
    exact ⟨by simpa using hid, r, d, hr, hd, rfl⟩
  · rintro ⟨hid, r, d, hr, hd, rfl⟩
    exact ⟨by simp [hid], r, hr, d, hd, rfl⟩

theorem checkCompletion_eq_ok {operation : ExternalOperation}
    {candidate : ReconciliationEvidenceRecord} {row : Option ReconciliationCompletionRecord} :
    checkCompletion operation candidate row = .ok () ↔ ∀ c, row = some c →
      c.effectSha256 = operation.effectSha256 ∧ candidate.decision.shouldRetry = false := by
  rcases row with _ | c
  · simp [checkCompletion]
  · simp [checkCompletion, raiseIf_bind_eq_ok]

/-- `checkHead` lets the candidate replace the head. -/
theorem checkHead_eq_none {operation : ExternalOperation}
    {candidate : ReconciliationEvidenceRecord} {row : Option ReconciliationEvidenceRecord} :
    checkHead operation candidate row = .ok none ↔ ∀ h, row = some h →
      h.effectSha256 = operation.effectSha256 ∧ h.revision < candidate.revision := by
  rcases row with _ | h
  · simp [checkHead]
  · simp only [checkHead, raiseIf_bind_eq_ok, not_not, Option.some.injEq, forall_eq']
    refine and_congr_right fun _ => ?_
    split_ifs with heq
    · simp only [raiseIf_bind_eq_ok, Except.ok.injEq, reduceCtorEq, and_false, false_iff]
      omega
    · simp only [and_true]
      omega

/-- `checkHead` finds the candidate's evidence persisted. -/
theorem checkHead_eq_some {operation : ExternalOperation}
    {candidate : ReconciliationEvidenceRecord} {row : Option ReconciliationEvidenceRecord}
    {h : ReconciliationEvidenceRecord} :
    checkHead operation candidate row = .ok (some h) ↔ row = some h ∧
      h.effectSha256 = operation.effectSha256 ∧ candidate.revision = h.revision ∧
      candidate.effectSha256 = h.effectSha256 ∧ candidate.decision = h.decision := by
  rcases row with _ | g
  · simp [checkHead]
  · simp only [checkHead, raiseIf_bind_eq_ok, not_not, Option.some.injEq]
    refine ⟨?_, ?_⟩
    · rintro ⟨he, -, hr⟩
      split_ifs at hr with heq
      · simp only [raiseIf_bind_eq_ok, not_not, Except.ok.injEq, Option.some.injEq] at hr
        obtain ⟨⟨hce, hd⟩, rfl⟩ := hr
        exact ⟨rfl, he, heq, hce, hd⟩
      · cases hr
    · rintro ⟨rfl, he, heq, hce, hd⟩
      refine ⟨he, by omega, ?_⟩
      rw [if_pos heq]
      simp [hce, hd]

/-- The outcome of a `record` whose checks pass. -/
theorem record_of_checks {operation : ExternalOperation} {evidenceId : String}
    {evidence : ProviderEvidence} {db : EvidenceDb} {candidate : ReconciliationEvidenceRecord}
    {found : Option ReconciliationEvidenceRecord}
    (hcand : candidateRecord operation evidenceId evidence = .ok candidate)
    (hcomp : checkCompletion operation candidate (db.completionOf operation.identity) = .ok ())
    (hhead : checkHead operation candidate (db.head operation.identity) = .ok found) :
    record operation evidenceId evidence db =
      (found.elim (db.putHead candidate) fun _ => db, .ok (found.getD candidate)) := by
  unfold record
  rw [hcand]
  simp only
  rcases found with _ | h <;> refine transaction_of_ok ?_ <;> rw [hcomp, ok_bind, hhead] <;> rfl

/-- A `record` that the completion row refuses. -/
theorem record_of_completion_error {operation : ExternalOperation} {evidenceId : String}
    {evidence : ProviderEvidence} {db : EvidenceDb} {candidate : ReconciliationEvidenceRecord}
    {e : Raised} (hcand : candidateRecord operation evidenceId evidence = .ok candidate)
    (hcomp : checkCompletion operation candidate (db.completionOf operation.identity) = .error e) :
    record operation evidenceId evidence db = (db, .error e) := by
  unfold record
  rw [hcand]
  exact transaction_of_error (by rw [hcomp]; rfl)

/-- A `record` that the head refuses. -/
theorem record_of_head_error {operation : ExternalOperation} {evidenceId : String}
    {evidence : ProviderEvidence} {db : EvidenceDb} {candidate : ReconciliationEvidenceRecord}
    {e : Raised} (hcand : candidateRecord operation evidenceId evidence = .ok candidate)
    (hcomp : checkCompletion operation candidate (db.completionOf operation.identity) = .ok ())
    (hhead : checkHead operation candidate (db.head operation.identity) = .error e) :
    record operation evidenceId evidence db = (db, .error e) := by
  unfold record
  rw [hcand]
  exact transaction_of_error (by rw [hcomp, ok_bind, hhead]; rfl)

/-- `record` raises and changes nothing, or its checks pass. -/
theorem record_cases (operation : ExternalOperation) (evidenceId : String)
    (evidence : ProviderEvidence) (db : EvidenceDb) :
    (∃ e, record operation evidenceId evidence db = (db, .error e)) ∨
      ∃ candidate found, candidateRecord operation evidenceId evidence = .ok candidate ∧
        checkCompletion operation candidate (db.completionOf operation.identity) = .ok () ∧
        checkHead operation candidate (db.head operation.identity) = .ok found ∧
        record operation evidenceId evidence db =
          (found.elim (db.putHead candidate) fun _ => db, .ok (found.getD candidate)) := by
  rcases hcand : candidateRecord operation evidenceId evidence with e | candidate
  · exact Or.inl ⟨e, by simp [record, hcand]⟩
  rcases hcomp : checkCompletion operation candidate (db.completionOf operation.identity) with
    e | u
  · exact Or.inl ⟨e, record_of_completion_error hcand hcomp⟩
  rcases hhead : checkHead operation candidate (db.head operation.identity) with e | found
  · exact Or.inl ⟨e, record_of_head_error hcand hcomp hhead⟩
  · exact Or.inr ⟨candidate, found, rfl, hcomp, hhead, record_of_checks hcand hcomp hhead⟩

/-! ## What `markReconciled` does -/

theorem current_eq_ok {operation : ExternalOperation} {db : EvidenceDb}
    {h : ReconciliationEvidenceRecord} :
    current operation db = .ok h ↔
      db.head operation.identity = some h ∧ h.effectSha256 = operation.effectSha256 := by
  simp only [current, orRaise_bind_eq_ok, raiseIf_bind_eq_ok, not_not, Except.ok.injEq]
  constructor
  · rintro ⟨h', hh, he, rfl⟩
    exact ⟨hh, he⟩
  · rintro ⟨hh, he⟩
    exact ⟨h, hh, he, rfl⟩

/-- The row a new completion writes. -/
def completionRow (operation : ExternalOperation) (h : ReconciliationEvidenceRecord) :
    ReconciliationCompletionRecord :=
  ⟨operation.provider, operation.operationId, operation.effectSha256, h.evidenceId, h.revision⟩

/-- What a new completion does to the database. -/
structure Completes (db db' : EvidenceDb) (operation : ExternalOperation)
    (h : ReconciliationEvidenceRecord) : Prop where
  absent : db.completionOf operation.identity = none
  heads : db'.heads = db.heads
  completionOf : ∀ k, db'.completionOf k =
    if k = operation.identity then some (completionRow operation h) else db.completionOf k

/-- `markReconciled` with the current accepting head gives the completion there is, or
writes one. -/
theorem markReconciled_current {operation : ExternalOperation} {db : EvidenceDb}
    {h : ReconciliationEvidenceRecord} (hcur : current operation db = .ok h)
    (hretry : h.decision.shouldRetry = false) (haction : h.decision.action = .acceptRemoteCommit) :
    (∀ c, db.completionOf operation.identity = some c →
        c.effectSha256 = operation.effectSha256 →
        markReconciled operation h.evidenceId h.decision db = (db, .ok c)) ∧
      (db.completionOf operation.identity = none → ∃ db', Completes db db' operation h ∧
        markReconciled operation h.evidenceId h.decision db =
          (db', .ok (completionRow operation h))) := by
  refine ⟨fun c hc he => transaction_of_ok ?_, fun hn => ?_⟩
  · simp [hcur, hretry, haction, hc, he, raiseIf]
  · obtain ⟨completions, hins, hrows⟩ := Table.exists_insert? (t := db.completions)
      (r := completionRow operation h) hn
    refine ⟨⟨db.heads, completions⟩, ⟨hn, rfl, fun k => Table.find?_insert? hins k⟩,
      transaction_of_ok ?_⟩
    rw [completionRow] at hins
    simp [hcur, hretry, haction, hn, hins, raiseIf, completionRow]

/-- An evidence id or decision that is not the head's is superseded. -/
theorem markReconciled_superseded {operation : ExternalOperation} {evidenceId : String}
    {decision : ReconciliationDecision} {db : EvidenceDb} {h : ReconciliationEvidenceRecord}
    (hcur : current operation db = .ok h)
    (hne : h.evidenceId ≠ evidenceId ∨ h.decision ≠ decision) :
    markReconciled operation evidenceId decision db = (db, .error supersededDecision) := by
  refine transaction_of_error ?_
  rw [hcur, ok_bind, raiseIf_pos hne]
  rfl

/-- The head's own evidence id and decision are never superseded. -/
theorem markReconciled_not_superseded {operation : ExternalOperation} {db : EvidenceDb}
    {h : ReconciliationEvidenceRecord} (hcur : current operation db = .ok h) :
    (markReconciled operation h.evidenceId h.decision db).2 ≠ .error supersededDecision := by
  intro hm
  have hbody := transaction_eq_error.1 hm
  rw [hcur, ok_bind, raiseIf_neg (by simp), ok_bind, raiseIf_bind_eq_error] at hbody
  rcases hbody with ⟨-, hne⟩ | ⟨-, hbody⟩
  · exact absurd hne (by decide)
  rcases hcomp : db.completionOf operation.identity with _ | c <;> simp only [hcomp] at hbody
  · obtain ⟨-, hne⟩ | ⟨t, -, hne⟩ := orRaise_bind_eq_error.1 hbody
    · exact absurd (congrArg Raised.error hne) (by simp [uniqueFailed, supersededDecision])
    · cases hne
  · obtain ⟨-, hne⟩ | ⟨-, hne⟩ := raiseIf_bind_eq_error.1 hbody
    · exact absurd hne (by decide)
    · cases hne

/-- `markReconciled` raises and changes nothing, or is given the current accepting head. -/
theorem markReconciled_cases (operation : ExternalOperation) (evidenceId : String)
    (decision : ReconciliationDecision) (db : EvidenceDb) :
    (∃ e, markReconciled operation evidenceId decision db = (db, .error e)) ∨
      ∃ h, current operation db = .ok h ∧ h.evidenceId = evidenceId ∧ h.decision = decision ∧
        h.decision.shouldRetry = false ∧ h.decision.action = .acceptRemoteCommit ∧
        ((∃ c, db.completionOf operation.identity = some c ∧
            markReconciled operation evidenceId decision db = (db, .ok c)) ∨
          ∃ db', Completes db db' operation h ∧
            markReconciled operation evidenceId decision db =
              (db', .ok (completionRow operation h))) := by
  rcases hcur : current operation db with e | h
  · exact Or.inl ⟨e, transaction_of_error (by rw [hcur]; rfl)⟩
  by_cases hne : h.evidenceId ≠ evidenceId ∨ h.decision ≠ decision
  · exact Or.inl ⟨_, markReconciled_superseded hcur hne⟩
  obtain ⟨rfl, rfl⟩ : h.evidenceId = evidenceId ∧ h.decision = decision := by
    simpa only [not_or, not_not] using hne
  by_cases hacc : h.decision.shouldRetry = true ∨ h.decision.action ≠ .acceptRemoteCommit
  · refine Or.inl ⟨notPresent, transaction_of_error ?_⟩
    rw [hcur, ok_bind, raiseIf_neg hne, ok_bind, raiseIf_pos hacc]
    rfl
  obtain ⟨hretry, haction⟩ : h.decision.shouldRetry = false ∧
      h.decision.action = .acceptRemoteCommit := by
    simpa only [not_or, not_not, Bool.not_eq_true] using hacc
  obtain ⟨hold, hnew⟩ := markReconciled_current hcur hretry haction
  rcases hcomp : db.completionOf operation.identity with _ | c
  · obtain ⟨db', hc, hm⟩ := hnew hcomp
    exact Or.inr ⟨h, rfl, rfl, rfl, hretry, haction, Or.inr ⟨db', hc, hm⟩⟩
  · by_cases he : c.effectSha256 = operation.effectSha256
    · exact Or.inr ⟨h, rfl, rfl, rfl, hretry, haction, Or.inl ⟨c, rfl, hold c hcomp he⟩⟩
    · refine Or.inl ⟨completedOtherEffect, transaction_of_error ?_⟩
      rw [hcur, ok_bind, raiseIf_neg hne, ok_bind, raiseIf_neg hacc, ok_bind, hcomp]
      simp only [raiseIf_pos he]
      rfl

/-! ## What a call does -/

/-- A call leaves the database alone, replaces a head, or writes a completion. -/
theorem perform_cases (c : EvidenceCall) (db : EvidenceDb) :
    (evidenceMachine.perform c db).1 = db ∨
      (∃ operation evidenceId evidence candidate, c = .record operation evidenceId evidence ∧
        candidateRecord operation evidenceId evidence = .ok candidate ∧
        checkCompletion operation candidate (db.completionOf operation.identity) = .ok () ∧
        checkHead operation candidate (db.head operation.identity) = .ok none ∧
        (evidenceMachine.perform c db).1 = db.putHead candidate) ∨
      ∃ operation evidenceId decision h, c = .markReconciled operation evidenceId decision ∧
        current operation db = .ok h ∧ h.decision.shouldRetry = false ∧
        h.decision.action = .acceptRemoteCommit ∧
        Completes db (evidenceMachine.perform c db).1 operation h := by
  rcases c with _ | ⟨operation, evidenceId, evidence⟩ | _ | _ | ⟨operation, evidenceId, decision⟩ |
    _ | _
  · exact Or.inl rfl
  · rcases record_cases operation evidenceId evidence db with
      ⟨e, h⟩ | ⟨candidate, _ | found, hcand, hcomp, hhead, h⟩
    · exact Or.inl (by simp only [evidenceMachine, h])
    · exact Or.inr (Or.inl ⟨operation, evidenceId, evidence, candidate, rfl, hcand, hcomp, hhead,
        by simp only [evidenceMachine, h, Option.elim_none]⟩)
    · exact Or.inl (by simp only [evidenceMachine, h, Option.elim_some])
  · exact Or.inl rfl
  · exact Or.inl rfl
  · rcases markReconciled_cases operation evidenceId decision db with
      ⟨e, h⟩ | ⟨g, hcur, -, -, hretry, haction, ⟨c, -, h⟩ | ⟨db', hdb', h⟩⟩
    · exact Or.inl (by simp only [evidenceMachine, h])
    · exact Or.inl (by simp only [evidenceMachine, h])
    · exact Or.inr (Or.inr ⟨operation, evidenceId, decision, g, rfl, hcur, hretry, haction,
        by simpa only [evidenceMachine, h] using hdb'⟩)
  · exact Or.inl rfl
  · exact Or.inl rfl

theorem Completes.head {db db' : EvidenceDb} {operation : ExternalOperation}
    {h : ReconciliationEvidenceRecord} (hc : Completes db db' operation h) (k : String × String) :
    db'.head k = db.head k := by
  simp only [EvidenceDb.head, hc.heads]

end ReconciliationEvidenceStore

end ReliabilityLab
