import ReliabilityLab.Json
import ReliabilityLab.Numerals

/-!
# The trace validator

`validateTrace` of `trace_integrity.py` : one loop over the records of a trace, whose
state (`LoopState`) is what the source keeps in local variables, then the checks of the
whole sequence and of the checkpoints. Each kind of record has its own branch; a branch
gives the violations it finds and the state for the next record. A trace is accepted if
there are no violations.

The only exceptions are those of the set memberships, of a tag that cannot be hashed.
-/

set_option linter.unusedSectionVars false

open Serial

namespace ReliabilityLab

namespace TraceIntegrity

open Json

/-! ## Vocabulary -/

/-- `_RECORD_KINDS`. -/
def recordKinds : List String :=
  ["runtime_event", "approval", "effect", "checkpoint", "provider_evidence",
    "reconciliation_completion"]

/-- `_EVENT_KINDS`. -/
def eventKinds : List String :=
  ["output", "completed", "failed"]

/-- `_READBACK_STATES`. -/
def readbackStates : List String :=
  ["present", "absent", "ambiguous"]

/-- `_DECISIONS`. -/
def decisions : List String :=
  ["approved", "denied"]

/-- A text of 64 characters that `int(_, 16)` takes and `lower` leaves as it is. What
`int(_, 16)` takes has no cased letters outside ASCII. -/
def isSha256Text (text : String) : Bool :=
  text.toList.length = 64 ∧ (parseInt 16 text).isSome = true ∧
    text.toList.map Char.toLower = text.toList

/-- `_is_sha256`. -/
def isSha256 : Json → Bool
  | .str text => isSha256Text text
  | _ => false

/-- The scope of a trace, as the validator reads it. -/
structure Scope where
  runId : Json
  turnId : Json
  provider : Json
  operationId : Json

/-- The local variables of the loop. `evidenceById` is a dictionary to which only new keys
are added. -/
structure LoopState where
  sequences : List Int := []
  recordIds : List String := []
  eventIds : List String := []
  binding : Option (String × String) := none
  approvedSequence : Option Int := none
  deniedSequence : Option Int := none
  expectedEffect : Option String := none
  checkpoints : List Mapping := []
  evidenceById : List (String × Mapping) := []
  evidenceHistory : List Mapping := []
  completionCount : Nat := 0

/-- `if c: violations.add(name)`. -/
def flag (c : Prop) [Decidable c] (name : String) : List String :=
  if c then [name] else []

@[simp] theorem flag_eq_nil {c : Prop} [Decidable c] {name : String} :
    flag c name = [] ↔ ¬c := by
  unfold flag
  split_ifs with h <;> simp [h]

section validator

variable [Hashlib]

/-- The canonical trace-level fingerprint for one exact effect. -/
def effectFingerprint (provider operationId tool payloadSha256 : String) : String :=
  Hashlib.sha256Hexdigest <| String.ofList <| jsonArray
    [jsonString provider, jsonString operationId, jsonString tool, jsonString payloadSha256]

/-! ## The checks of every record -/

/-- An `int` that is no `bool` and at least `least`. -/
def intFrom? (least : Int) : Json → Option Int
  | .int n => if n < least then none else some n
  | _ => none

/-- The violations of the fields that every record has. -/
def commonFlags (record : Mapping) : List String :=
  flag ((record.get "record_id").nonemptyStr? = none) "record_id_invalid" ++
    flag (intFrom? 1 (record.get "sequence") = none) "record_sequence_invalid"

/-- The state with the id and the sequence number of a record, if they are valid. -/
def noteCommon (st : LoopState) (record : Mapping) : LoopState :=
  { st with
    recordIds := st.recordIds ++ (record.get "record_id").nonemptyStr?.toList
    sequences := st.sequences ++ (intFrom? 1 (record.get "sequence")).toList }

/-! ## Events and checkpoints -/

/-- The branch of an event. -/
def runtimeEvent (scope : Scope) (st : LoopState) (record : Mapping) :
    Except Raised (List String × LoopState) := do
  let eventId := (record.get "event_id").nonemptyStr?
  let repeated := ∃ id ∈ st.eventIds, eventId = some id
  let known ← inSet (record.get "event_kind") eventKinds
  .ok (flag (¬PyEq (record.get "run_id") scope.runId) "event_run_scope_mismatch" ++
      flag (¬PyEq (record.get "turn_id") scope.turnId) "event_turn_scope_mismatch" ++
      flag (eventId = none) "event_id_invalid" ++
      flag repeated "event_id_duplicate" ++
      flag (known = false) "event_kind_invalid" ++
      flag (isSha256 (record.get "payload_sha256") = false) "event_payload_sha256_invalid",
    { st with
      eventIds := if repeated then st.eventIds else st.eventIds ++ eventId.toList })

/-- The branch of a checkpoint, whose lineage is checked after the loop. -/
def checkpoint (scope : Scope) (st : LoopState) (record : Mapping) : List String × LoopState :=
  (flag (¬PyEq (record.get "run_id") scope.runId) "checkpoint_run_scope_mismatch",
    { st with checkpoints := st.checkpoints ++ [record] })

/-! ## Approvals and effects -/

/-- The violations of the scope of an operation. -/
def operationFlags (scope : Scope) (record : Mapping) : List String :=
  flag (¬PyEq (record.get "operation_id") scope.operationId) "operation_scope_mismatch" ++
    flag (¬PyEq (record.get "provider") scope.provider) "provider_scope_mismatch"

/-- The tool and payload of a record, if they are a text and a digest. -/
def candidateBinding? (record : Mapping) : Option (String × String) :=
  match record.get "tool", record.get "payload_sha256" with
  | .str tool, .str payload => if isSha256Text payload then some (tool, payload) else none
  | _, _ => none

/-- The violations of the tool and the payload of an approval or an effect. -/
def bindingFlags (st : LoopState) (record : Mapping) : List String :=
  flag ((record.get "tool").nonemptyStr? = none) "operation_tool_invalid" ++
    flag (isSha256 (record.get "payload_sha256") = false) "operation_payload_sha256_invalid" ++
    flag (∃ candidate ∈ candidateBinding? record, ∃ bound ∈ st.binding, bound ≠ candidate)
      "approval_effect_binding_mismatch"

/-- The first binding of a trace fixes the expected effect. -/
def noteBinding (scope : Scope) (st : LoopState) (record : Mapping) : LoopState :=
  match candidateBinding? record, st.binding with
  | some candidate, none =>
    { st with
      binding := some candidate
      expectedEffect :=
        match scope.provider, scope.operationId with
        | .str provider, .str operationId =>
          some (effectFingerprint provider operationId candidate.1 candidate.2)
        | _, _ => st.expectedEffect }
  | _, _ => st

/-- `expected_effect is not None and record.get("effect_sha256") != expected_effect`. -/
def effectFlags (st : LoopState) (record : Mapping) (name : String) : List String :=
  flag (∃ expected ∈ st.expectedEffect, ¬PyEq (record.get "effect_sha256") (.str expected)) name

/-- Remember the sequence of a decision. -/
def noteDecision (st : LoopState) (record : Mapping) : LoopState :=
  match (record.get "sequence").intValue? with
  | none => st
  | some n =>
    if record.get "decision" = .str "approved" then { st with approvedSequence := some n }
    else { st with deniedSequence := some n }

/-- The branch of an approval. -/
def approval (scope : Scope) (st : LoopState) (record : Mapping) :
    Except Raised (List String × LoopState) := do
  let bound := noteBinding scope st record
  let known ← inSet (record.get "decision") decisions
  .ok (bindingFlags st record ++
      flag (known = false) "approval_decision_invalid" ++
      effectFlags bound record "approval_effect_fingerprint_mismatch",
    if known then noteDecision bound record else bound)

/-- The checks of an effect against the decisions so far. -/
def permissionFlags (st : LoopState) (record : Mapping) : List String :=
  match (record.get "sequence").intValue? with
  | none => []
  | some n =>
    flag (∀ approved ∈ st.approvedSequence, n ≤ approved) "effect_without_prior_approval" ++
      flag (∃ denied ∈ st.deniedSequence, denied < n) "effect_after_denial"

/-- The branch of an effect. -/
def effect (scope : Scope) (st : LoopState) (record : Mapping) : List String × LoopState :=
  let bound := noteBinding scope st record
  (bindingFlags st record ++
      effectFlags bound record "effect_fingerprint_mismatch" ++
      permissionFlags bound record,
    bound)

/-! ## Evidence and completions -/

/-- The checks of an evidence record against the one before it. -/
def historyFlags (st : LoopState) (record : Mapping) : List String :=
  match st.evidenceHistory.getLast? with
  | none => []
  | some previous =>
    match (previous.get "revision").intValue?, (record.get "revision").intValue? with
    | some previousRevision, some revision =>
      if revision < previousRevision then ["provider_revision_rollback"]
      else
        flag (revision = previousRevision ∧
            (¬PyEq (previous.get "readback") (record.get "readback") ∨
              ¬PyEq (previous.get "effect_sha256") (record.get "effect_sha256")))
          "provider_same_revision_conflict"
    | _, _ => []

/-- The branch of provider evidence. -/
def providerEvidence (st : LoopState) (record : Mapping) :
    Except Raised (List String × LoopState) := do
  let evidenceId := (record.get "evidence_id").nonemptyStr?
  let repeated := ∃ id ∈ evidenceId, (st.evidenceById.lookup id).isSome = true
  let known ← inSet (record.get "readback") readbackStates
  .ok (flag (evidenceId = none) "provider_evidence_id_invalid" ++
      flag repeated "provider_evidence_id_duplicate" ++
      flag (intFrom? 0 (record.get "revision") = none) "provider_revision_invalid" ++
      flag (known = false) "provider_readback_invalid" ++
      effectFlags st record "provider_effect_fingerprint_mismatch" ++
      historyFlags st record,
    { st with
      evidenceById :=
        if repeated then st.evidenceById
        else st.evidenceById ++ evidenceId.toList.map fun id => (id, record)
      evidenceHistory := st.evidenceHistory ++ [record] })

/-- The evidence that a completion names. -/
def namedEvidence? (st : LoopState) (record : Mapping) : Option Mapping :=
  match record.get "evidence_id" with
  | .str evidenceId => st.evidenceById.lookup evidenceId
  | _ => none

/-- The violations of a completion against the evidence that it names. -/
def namedFlags (st : LoopState) (record : Mapping) : List String :=
  match namedEvidence? st record with
  | none => ["completion_evidence_missing"]
  | some evidence =>
    flag (evidence.get "readback" ≠ .str "present") "completion_requires_present_evidence" ++
      flag (¬PyEq (evidence.get "revision") (record.get "revision"))
        "completion_revision_mismatch" ++
      flag (¬PyEq (evidence.get "effect_sha256") (record.get "effect_sha256"))
        "completion_evidence_effect_mismatch"

/-- The integral revisions of evidence records. -/
def revisionsOf (history : List Mapping) : List Int :=
  history.filterMap fun item => (item.get "revision").intValue?

/-- The violation of a completion that is not at the latest revision. -/
def latestFlags (st : LoopState) (record : Mapping) : List String :=
  flag (∃ latest ∈ (revisionsOf st.evidenceHistory).max?,
      ¬PyEq (record.get "revision") (.int latest))
    "completion_not_latest_provider_revision"

/-- The branch of a completion. -/
def reconciliationCompletion (st : LoopState) (record : Mapping) : List String × LoopState :=
  let counted := { st with completionCount := st.completionCount + 1 }
  (flag (1 < counted.completionCount) "multiple_reconciliation_completions" ++
      effectFlags st record "completion_effect_fingerprint_mismatch" ++
      namedFlags st record ++
      latestFlags st record,
    counted)

/-! ## The loop -/

/-- The branches after the scope of an operation record is checked. -/
def operation (scope : Scope) (st : LoopState) (record : Mapping) :
    Except Raised (List String × LoopState) :=
  let kind := record.get "kind"
  if kind = .str "approval" then approval scope st record
  else if kind = .str "effect" then .ok (effect scope st record)
  else if kind = .str "provider_evidence" then providerEvidence st record
  else .ok (reconciliationCompletion st record)

/-- One turn of the loop. -/
def step (scope : Scope) (st : LoopState) (record : Mapping) :
    Except Raised (List String × LoopState) := do
  let kind := record.get "kind"
  let noted := noteCommon st record
  let known ← inSet kind recordKinds
  if known = false then .ok (commonFlags record ++ ["record_kind_invalid"], noted)
  else if kind = .str "runtime_event" then do
    let (found, next) ← runtimeEvent scope noted record
    .ok (commonFlags record ++ found, next)
  else if kind = .str "checkpoint" then
    let (found, next) := checkpoint scope noted record
    .ok (commonFlags record ++ found, next)
  else do
    let (found, next) ← operation scope noted record
    .ok (commonFlags record ++ operationFlags scope record ++ found, next)

/-- The loop, from the record at `index` on. -/
def scan (scope : Scope) : Nat → LoopState → List Json → Except Raised (List String × LoopState)
  | _, st, [] => .ok ([], st)
  | index, st, .dict record :: records => do
    let (found, next) ← step scope st record
    let (more, last) ← scan scope (index + 1) next records
    .ok (found ++ more, last)
  | index, st, _ :: records => do
    let (more, last) ← scan scope (index + 1) st records
    .ok (("record_" ++ toString index ++ "_invalid") :: more, last)

/-! ## The checks after the loop -/

/-- The violations of the order and the ids of the records. -/
def orderFlags (st : LoopState) : List String :=
  flag (OutOfOrder st.sequences) "record_sequence_not_strictly_increasing" ++
    flag (HasDuplicates st.recordIds) "record_id_duplicate"

/-- The checks of one checkpoint by itself. -/
def checkpointFlags (record : Mapping) : List String :=
  flag ((record.get "checkpoint_id").nonemptyStr? = none) "checkpoint_id_invalid" ++
    flag (∀ n ∈ (record.get "checkpoint_sequence").intValue?, n < 0)
      "checkpoint_sequence_invalid" ++
    flag (∀ n ∈ (record.get "completed_count").intValue?, n < 0)
      "checkpoint_completed_count_invalid" ++
    flag (isSha256 (record.get "plan_sha256") = false) "checkpoint_plan_sha256_invalid"

/-- The violations of the first checkpoint. -/
def rootFlags (record : Mapping) : List String :=
  flag (record.get "parent_checkpoint_id" ≠ .null) "checkpoint_root_parent_not_null" ++
    flag (¬PyEq (record.get "checkpoint_sequence") (.int 0)) "checkpoint_root_sequence_not_zero"

/-- The checks of a checkpoint against the one before it. -/
def lineageFlags (previous record : Mapping) : List String :=
  flag (¬PyEq (record.get "parent_checkpoint_id") (previous.get "checkpoint_id"))
      "checkpoint_parent_mismatch" ++
    flag (∃ n ∈ (previous.get "checkpoint_sequence").intValue?,
        ¬PyEq (record.get "checkpoint_sequence") (.int (n + 1)))
      "checkpoint_sequence_gap" ++
    flag (¬PyEq (record.get "plan_sha256") (previous.get "plan_sha256"))
      "checkpoint_plan_drift" ++
    flag (∃ m ∈ (previous.get "completed_count").intValue?,
        ∃ n ∈ (record.get "completed_count").intValue?, n < m)
      "checkpoint_progress_rollback"

/-- The loop over the checkpoints. -/
def checkpointsFlags : Option Mapping → List Mapping → List String
  | _, [] => []
  | previous, record :: records =>
    checkpointFlags record ++ previous.elim (rootFlags record) (lineageFlags · record) ++
      checkpointsFlags (some record) records

/-- `tuple(sorted(violations))`. -/
def sortedSet (violations : List String) : List String :=
  violations.dedup.insertionSort (· ≤ ·)

omit [Hashlib] in
theorem mem_sortedSet {violations : List String} {v : String} :
    v ∈ sortedSet violations ↔ v ∈ violations := by
  unfold sortedSet
  rw [(List.perm_insertionSort (· ≤ ·) violations.dedup).mem_iff, List.mem_dedup]

omit [Hashlib] in
theorem sortedSet_eq_nil {violations : List String} :
    sortedSet violations = [] ↔ violations = [] := by
  unfold sortedSet
  refine ⟨fun h => ?_, fun h => by simp [h]⟩
  have hperm := List.perm_insertionSort (· ≤ ·) violations.dedup
  rw [h] at hperm
  have hdedup := hperm.symm.eq_nil
  rcases violations with _ | ⟨v, vs⟩
  · rfl
  · have hmem : v ∈ (v :: vs).dedup := List.mem_dedup.2 List.mem_cons_self
    simp [hdedup] at hmem

/-- The violations of the ids of the scope. -/
def scopeFlags (scope : Scope) : List String :=
  flag (scope.runId.nonemptyStr? = none) "scope_run_id_invalid" ++
    flag (scope.turnId.nonemptyStr? = none) "scope_turn_id_invalid" ++
    flag (scope.provider.nonemptyStr? = none) "scope_provider_invalid" ++
    flag (scope.operationId.nonemptyStr? = none) "scope_operation_id_invalid"

/-- The scope of a trace. -/
def scopeOf (scope : Mapping) : Scope :=
  ⟨scope.get "run_id", scope.get "turn_id", scope.get "provider", scope.get "operation_id"⟩

/-- The deterministic integrity violations of one canonical trace. -/
def validateTrace (trace : Mapping) : Except Raised (List String) :=
  match trace.get "scope", trace.get "records" with
  | .dict scope, .list records => do
    let (found, last) ← scan (scopeOf scope) 0 {} records
    .ok (sortedSet (scopeFlags (scopeOf scope) ++ found ++ orderFlags last ++
      checkpointsFlags none last.checkpoints))
  | .dict _, _ => .ok ["records_missing_or_invalid"]
  | _, _ => .ok ["scope_missing_or_invalid"]

end validator

end TraceIntegrity

end ReliabilityLab
