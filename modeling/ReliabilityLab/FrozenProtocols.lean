import ReliabilityLab.ReliabilityGates
import ReliabilityLab.ReleaseVerifier
import ReliabilityLab.SourceIdentities
import ReliabilityLab.TraceCorpus

/-!
# Frozen protocols

The three `verify_protocol.py` : `validate` compares a protocol and its inputs with the frozen
definition, and `main` reads the files and compares their digests. A file system is the
contents of its files. `main` is the errors that are printed, or none if it raises; the
process exits with zero exactly if there are no errors.

What the evaluations and the publication verifiers may take for granted of a protocol that was
accepted follows where they are modelled.
-/

set_option linter.unusedSectionVars false

open Serial Keyed

namespace ReliabilityLab

open Json

open TraceIntegrity (flag flag_eq_nil hashKey lookupTrace applyMutation)

open Publication (differing differing_eq_nil eqGates)

/-- The files of a repository. -/
abbrev Files := String → Option Bytes

section files

variable [JsonLoads] [PayloadHash]

/-- The object that a file holds, or none where reading it, or using it as an object, raises. -/
def Files.object? (files : Files) (path : String) : Option Mapping :=
  match (files path).map JsonLoads.loadsText with
  | some (.ok (.dict members)) => some members
  | _ => none

theorem Files.object?_eq_some {files : Files} {path : String} {members : Mapping} :
    files.object? path = some members ↔
      ∃ payload, files path = some payload ∧ JsonLoads.loadsText payload = .ok (.dict members) := by
  unfold Files.object?
  rcases files path with _ | payload
  · simp
  · simp only [Option.map_some, Option.some.injEq, exists_eq_left']
    rcases JsonLoads.loadsText payload with _ | (_ | _ | _ | _ | _ | _ | _) <;> simp

/-- The digest of a file. -/
def Files.sha256? (files : Files) (path : String) : Option String :=
  (files path).map PayloadHash.sha256Hexdigest

/-- A state of the repository, whose files have contents of an archive. -/
structure Snapshot (archive : Archive) where
  stored : Table (String × Content) Prod.fst
  archived : ∀ file ∈ stored.rows, file.2 ∈ archive.rows

/-- The files of a snapshot. -/
def Snapshot.files {archive : Archive} (snapshot : Snapshot archive) : Files := fun path =>
  (snapshot.stored.find? path).map (·.2.payload)

/-- Whether a file differs from its frozen digest. -/
def digestErrors (sha256 expected message : String) : List String :=
  flag (sha256 ≠ expected) message

/-- `tuple(str(item.get(key)) for item in items if isinstance(item, dict))`. -/
def textsOf [PyRepr] (items : List Json) (key : String) : List String :=
  (dictsOf items).map fun item => (item.get key).toStr

/-- The execution controls of an evaluation. -/
def frozenExecution (directory : String) : Json :=
  .dict [("independent_runs_required", .int 2),
    ("normalized_output_byte_equal_required", .bool true),
    ("result_path_pattern", .str (directory ++ "/artifacts/run-\x7brun\x7d.json")),
    ("aggregate_publication_requires_frozen_protocol_commit", .bool true)]

/-- The boundary of an evaluation's published result. -/
def frozenResultArtifact (directory : String) : Json :=
  .dict [("published_results_path", .str (directory ++ "/RESULTS.json")),
    ("must_be_absent_at_freeze", .bool true)]

end files

namespace Snapshot

variable {archive : Archive} {snapshot : Snapshot archive} {path : String} {content : Content}

theorem files_of_mem (h : (path, content) ∈ snapshot.stored.rows) :
    snapshot.files path = some content.payload := by
  unfold files
  rw [Table.find?_eq_some_iff.2 ⟨h, rfl⟩]
  rfl

theorem files_eq_none (h : ∀ file ∈ snapshot.stored.rows, file.1 ≠ path) :
    snapshot.files path = none := by
  unfold files
  rw [Table.find?_eq_none_iff.2 h]
  rfl

/-- The digest of a file is that of its content. -/
theorem sha256?_of_mem (h : (path, content) ∈ snapshot.stored.rows) :
    letI := archive.payloadHash
    snapshot.files.sha256? path = some content.sha256 := by
  let := archive.payloadHash
  rw [Files.sha256?, files_of_mem h, Option.map_some,
    Archive.sha256Hexdigest_of_mem (snapshot.archived _ h)]

/-- The object that a file holds is the document of its content. -/
theorem object?_of_mem {document : Mapping} (h : (path, content) ∈ snapshot.stored.rows)
    (hdocument : content.document = some document) :
    letI := archive.jsonLoads
    snapshot.files.object? path = some document := by
  let := archive.payloadHash
  let := archive.jsonLoads
  exact Files.object?_eq_some.2 ⟨content.payload, files_of_mem h,
    Archive.document?_of_mem (snapshot.archived _ h) hdocument⟩

end Snapshot

/-- Objects whose texts under a key are none of `None` have the key. -/
theorem ne_null_of_textsOf [PyRepr] {items : List Json} {key : String} {expected : List String}
    (hrepr : PyRepr.repr .null = "None") (h : textsOf items key = expected)
    (hnone : "None" ∉ expected) : ∀ item ∈ dictsOf items, item.get key ≠ .null := by
  intro item hmem hnull
  refine hnone (h ▸ List.mem_map.2 ⟨item, hmem, ?_⟩)
  rw [hnull]
  exact hrepr

/-- A document differs in no field that it has as expected. -/
theorem differing_same {document : Mapping} {fields : List (String × Json × String)}
    (h : fields.map (fun field => document.get field.1) = fields.map (·.2.1))
    (hnan : ∀ field ∈ fields, field.2.1 ≠ .float .nan) : differing document fields = [] := by
  rw [differing_eq_nil]
  intro field hmem
  rw [List.map_inj_left.1 h field hmem]
  exact ⟨hnan field hmem, rfl⟩

/-! ## The reliability evaluation -/

namespace ReliabilityV1

namespace VerifyProtocol

/-- `EXPECTED_PROTOCOL_ID`. -/
def expectedProtocolId : String :=
  "core-reliability-v1-20260911"

/-- `EXPECTED_SCENARIO_SHA256`. -/
def expectedScenarioSha256 : String :=
  "5ca2ab5cd388037d056420e678004dd9909e479c11b84fbd6424b7a7d06c9044"

/-- `EXPECTED_SCENARIO_IDS`. -/
def expectedScenarioIds : List String :=
  ["stale_child_completion_scoped", "lost_ack_retry_idempotency",
    "terminal_conflict_fails_closed", "approval_mutation_fails_closed",
    "durable_restart_exact_replay", "stale_checkpoint_lineage_fails_closed",
    "provider_present_suppresses_retry", "stale_readback_revision_fails_closed",
    "restart_evidence_supersedes_retry", "repeated_lost_ack_converges",
    "competing_retry_authorities_converge"]

/-- `EXPECTED_CLAIM_BOUNDARY`. -/
def expectedClaimBoundary : Mapping :=
  [("production_reliability_claim_allowed", .bool false),
    ("exactly_once_claim_allowed", .bool false),
    ("distributed_consensus_claim_allowed", .bool false),
    ("model_quality_claim_allowed", .bool false),
    ("throughput_or_latency_claim_allowed", .bool false),
    ("aggregate_score_claim_allowed_before_two_reproducing_runs", .bool false)]

variable [JsonLoads] [PayloadHash] [PyRepr]

/-- The errors of the protocol's reference to its scenario manifest. -/
def manifestErrors (protocol : Mapping) : List String :=
  match protocol.get "scenario_manifest" with
  | .dict manifest =>
    differing manifest
      [("path", .str "evals/reliability_v1/SCENARIOS.json", "scenario manifest path mismatch"),
        ("sha256", .str expectedScenarioSha256, "scenario manifest SHA-256 mismatch"),
        ("scenario_count", count expectedScenarioIds.length, "scenario_count mismatch")]
  | _ => ["scenario_manifest must be an object"]

/-- The errors of the scenarios. -/
def scenarioErrors (scenarios : Mapping) : List String :=
  match scenarios.get "scenarios" with
  | .list items =>
    flag (textsOf items "id" ≠ expectedScenarioIds)
        "scenario ids/order differ from the frozen definition" ++
      flag (textsOf items "runner" ≠ expectedScenarioIds)
        "scenario runner ids/order differ from the frozen definition" ++
      flag (items.length ≠ expectedScenarioIds.length) "scenario fixture count mismatch"
  | _ => ["scenarios must be a list"]

/-- The errors of the protocol and the scenarios. -/
def validate (protocol scenarios : Mapping) (resultsExist : Bool) : List String :=
  differing protocol
      [("schema_version", .str "carl.reliability-evaluation-protocol.v1",
          "protocol schema_version mismatch"),
        ("protocol_id", .str expectedProtocolId, "protocol_id mismatch"),
        ("status", .str "frozen_unexecuted",
          "protocol must remain frozen_unexecuted at the freeze boundary")] ++
    manifestErrors protocol ++
    differing protocol
      [("execution", frozenExecution "evals/reliability_v1",
          "execution controls differ from the frozen definition"),
        ("metrics", .dict expectedMetrics,
          "aggregate metric gates differ from the frozen definition"),
        ("claim_boundary", .dict expectedClaimBoundary,
          "claim boundary differs from the frozen definition"),
        ("result_artifact", frozenResultArtifact "evals/reliability_v1",
          "result artifact boundary differs from the frozen definition")] ++
    flag (resultsExist = true) "RESULTS.json must not exist at the freeze boundary" ++
    differing scenarios
      [("schema_version", .str "carl.reliability-scenarios.v1",
          "scenario schema_version mismatch"),
        ("fixture_set", .str "core-reliability-boundaries-20260911", "fixture_set mismatch")] ++
    scenarioErrors scenarios

/-- The errors of `main`, or none if it raises. -/
def main (files : Files) : Option (List String) := do
  let protocol ← files.object? "evals/reliability_v1/PROTOCOL.json"
  let scenarios ← files.object? "evals/reliability_v1/SCENARIOS.json"
  let sha256 ← files.sha256? "evals/reliability_v1/SCENARIOS.json"
  some (validate protocol scenarios (files "evals/reliability_v1/RESULTS.json").isSome ++
    digestErrors sha256 expectedScenarioSha256
      "SCENARIOS.json bytes do not match the frozen SHA-256")

end VerifyProtocol

end ReliabilityV1

/-! ## The trace-integrity evaluation -/

namespace TraceIntegrityV1

namespace VerifyProtocol

/-- `EXPECTED_PROTOCOL_ID`. -/
def expectedProtocolId : String :=
  "trace-integrity-v1-20260913"

/-- `EXPECTED_DETECTOR_SHA256`. -/
def expectedDetectorSha256 : String :=
  "d481d451106dbcf3f7fad7e89ce5aed12bdded26c179553150092524af0cd0e7"

/-- `EXPECTED_SCHEMA_SHA256`. -/
def expectedSchemaSha256 : String :=
  "2d1281fc3c16dacca9eb2136c090417adeea160531b812e340a8a3fc6065a7cc"

/-- `EXPECTED_BASELINES_SHA256`. -/
def expectedBaselinesSha256 : String :=
  "9b2b62d25d849be3123c3b0212351e89c2876dbd8e861675a2a084e666f9c4c5"

/-- `EXPECTED_MUTATIONS_SHA256`. -/
def expectedMutationsSha256 : String :=
  "ef4f7eb8bdc8170afe15eb6ae4bf59c5bd677477dde1c0d8e398ee8aeb448af2"

/-- `EXPECTED_BASELINE_IDS`. -/
def expectedBaselineIds : List String :=
  ["retry_then_reconcile", "retry_authority_pending", "parent_turn_terminal"]

/-- `EXPECTED_MUTATION_IDS`. -/
def expectedMutationIds : List String :=
  ["event_run_scope_graft", "event_turn_scope_graft", "event_id_collision",
    "record_sequence_collision", "approval_operation_swap", "effect_payload_hash_drift",
    "effect_fingerprint_drift", "checkpoint_parent_rewind", "checkpoint_sequence_gap",
    "checkpoint_plan_hash_drift", "provider_revision_rollback",
    "provider_same_revision_conflict", "completion_stale_evidence",
    "completion_revision_drift", "completion_effect_drift"]

/-- `EXPECTED_CATEGORIES`. -/
def expectedCategories : List String :=
  ["event_identity", "trace_order", "approval_effect_binding", "checkpoint_lineage",
    "provider_revision", "reconciliation_completion"]

/-- `EXPECTED_GATES`. -/
def expectedGates : Mapping :=
  [("clean_trace_accept_rate", .dict [("operator", .str "eq"), ("threshold", .float (.finite 1))]),
    ("mutation_detection_rate", .dict [("operator", .str "eq"), ("threshold", .float (.finite 1))]),
    ("false_positive_count", .dict [("operator", .str "eq"), ("threshold", .int 0)]),
    ("false_negative_count", .dict [("operator", .str "eq"), ("threshold", .int 0)]),
    ("detector_error_count", .dict [("operator", .str "eq"), ("threshold", .int 0)])]

/-- `EXPECTED_CLAIM_BOUNDARY`. -/
def expectedClaimBoundary : Mapping :=
  [("production_trace_integrity_claim_allowed", .bool false),
    ("production_reliability_claim_allowed", .bool false),
    ("exactly_once_claim_allowed", .bool false),
    ("distributed_consensus_claim_allowed", .bool false),
    ("real_provider_claim_allowed", .bool false),
    ("aggregate_detection_claim_allowed_before_two_reproducing_runs", .bool false)]

/-- The detector that the protocol must name. -/
def expectedDetector : Mapping :=
  [("callable", .str "agent_reliability_lab.trace_integrity:evaluate_trace_corpus"),
    ("source_path", .str "src/agent_reliability_lab/trace_integrity.py"),
    ("sha256", .str expectedDetectorSha256)]

/-- The artifacts that the protocol must name. -/
def expectedArtifacts : Mapping :=
  [("trace_schema", .dict [("path", .str "evals/trace_integrity_v1/TRACE_SCHEMA.json"),
      ("sha256", .str expectedSchemaSha256)]),
    ("baseline_traces", .dict [("path", .str "evals/trace_integrity_v1/BASELINE_TRACES.json"),
      ("sha256", .str expectedBaselinesSha256), ("trace_count", .int 3)]),
    ("mutation_corpus", .dict [("path", .str "evals/trace_integrity_v1/MUTATIONS.json"),
      ("sha256", .str expectedMutationsSha256), ("mutation_count", .int 15)])]

/-- The kinds of the records in the frozen schema. -/
def expectedKinds : List String :=
  ["runtime_event", "approval", "effect", "checkpoint", "provider_evidence",
    "reconciliation_completion"]

/-- `isinstance(record_kinds, dict) and set(record_kinds) == expected_kinds`. -/
def kindsOk : Json → Bool
  | .dict kinds =>
    (∀ member ∈ kinds, member.1 ∈ expectedKinds) ∧
      ∀ kind ∈ expectedKinds, Mapping.get? kinds kind ≠ none
  | _ => false

variable [JsonLoads] [PayloadHash] [PyRepr]

/-- `document.get(key)` if it is a list, with the error if it is not. -/
def listUnder (document : Mapping) (key message : String) : List String × List Json :=
  match document.get key with
  | .list items => ([], items)
  | _ => ([message], [])

/-- The items of `{trace["trace_id"]: trace for trace in traces if ...}`. -/
def indexNamed : List Mapping → Except Raised (List (Json × Json))
  | [] => .ok []
  | trace :: traces =>
    match trace.get? "trace_id" with
    | none => indexNamed traces
    | some traceId => do
      hashKey traceId
      let byId ← indexNamed traces
      .ok ((traceId, .dict trace) :: byId)

/-- `by_id.get(key)`. -/
def getTrace (byId : List (Json × Json)) (key : Json) : Except Raised (Option Mapping) := do
  hashKey key
  .ok ((byId.reverse.find? fun item => item.1.norm = key.norm).map fun item => item.2.members)

/-- `str(exc)`. The text of a `KeyError` is the `repr` of its key. -/
def exceptionText (raised : Raised) : String :=
  if raised.error = .keyError then PyRepr.repr (.str raised.message) else raised.message

/-- The errors of one entry of the mutations. -/
def mutationErrors (byId : List (Json × Json)) : Json → Except Raised (List String)
  | .dict item => do
    let known ← inSet (Mapping.get item "operator") ["replace", "remove"]
    let name := (Mapping.get item "id").toStr
    if known = false then .ok ["unsupported mutation operator: " ++ name]
    else do
      match ← getTrace byId (Mapping.get item "base_trace_id") with
      | none => .ok ["mutation references unknown baseline: " ++ name]
      | some base =>
        match applyMutation base item with
        | .error raised =>
          if raised.error ∈ [ErrorClass.keyError, .typeError, .valueError, .indexError] then
            .ok ["mutation cannot be applied deterministically: " ++ name ++ ": " ++
              exceptionText raised]
          else .error raised
        | .ok mutated =>
          .ok (flag (PyEq (.dict mutated) (.dict base))
            ("mutation produced no structural change: " ++ name))
  | _ => .ok ["mutation entry must be an object"]

/-- The errors of the protocol and the corpus. -/
def validate (protocol schema baselines mutations : Mapping) (resultsExist : Bool) :
    Except Raised (List String) := do
  let (tracesError, traces) :=
    listUnder baselines "traces" "baseline traces must be a list"
  let byId ← indexNamed (dictsOf traces)
  let (itemsError, items) := listUnder mutations "mutations" "mutations must be a list"
  let entryErrors ← items.mapM (mutationErrors byId)
  .ok (differing protocol
      [("schema_version", .str "carl.trace-integrity-evaluation-protocol.v1",
          "protocol schema_version mismatch"),
        ("protocol_id", .str expectedProtocolId, "protocol_id mismatch"),
        ("status", .str "frozen_unexecuted",
          "protocol must remain frozen_unexecuted at the freeze boundary"),
        ("detection_gates", .dict expectedGates,
          "detection gates differ from the frozen definition"),
        ("claim_boundary", .dict expectedClaimBoundary,
          "claim boundary differs from the frozen definition"),
        ("execution", frozenExecution "evals/trace_integrity_v1",
          "execution controls differ from the frozen definition"),
        ("result_artifact", frozenResultArtifact "evals/trace_integrity_v1",
          "result artifact boundary differs from the frozen definition")] ++
    flag (resultsExist = true) "RESULTS.json must not exist at the freeze boundary" ++
    differing protocol
      [("detector", .dict expectedDetector, "detector identity differs from the frozen definition"),
        ("artifacts", .dict expectedArtifacts,
          "artifact identities differ from the frozen definition")] ++
    differing schema
      [("schema_version", .str "carl.trace-integrity-schema.v1",
        "trace schema_version mismatch")] ++
    flag (kindsOk (schema.get "record_kinds") = false)
      "trace schema record kinds differ from the frozen definition" ++
    differing baselines
      [("schema_version", .str "carl.trace-integrity-baselines.v1",
        "baseline schema_version mismatch")] ++
    tracesError ++
    flag (textsOf traces "trace_id" ≠ expectedBaselineIds)
      "baseline ids/order differ from the frozen definition" ++
    differing mutations
      [("schema_version", .str "carl.trace-integrity-mutations.v1",
        "mutation schema_version mismatch")] ++
    itemsError ++
    flag (textsOf items "id" ≠ expectedMutationIds)
      "mutation ids/order differ from the frozen definition" ++
    flag ((textsOf items "category").eraseDups ≠ expectedCategories)
      "mutation categories/order differ from the frozen definition" ++
    entryErrors.flatten)

/-- The errors of `main`, or none if it raises. -/
def main (files : Files) : Option (List String) := do
  let protocol ← files.object? "evals/trace_integrity_v1/PROTOCOL.json"
  let schema ← files.object? "evals/trace_integrity_v1/TRACE_SCHEMA.json"
  let baselines ← files.object? "evals/trace_integrity_v1/BASELINE_TRACES.json"
  let mutations ← files.object? "evals/trace_integrity_v1/MUTATIONS.json"
  let errors ← (validate protocol schema baselines mutations
    (files "evals/trace_integrity_v1/RESULTS.json").isSome).toOption
  let detector ← files.sha256? "src/agent_reliability_lab/trace_integrity.py"
  let schemaSha256 ← files.sha256? "evals/trace_integrity_v1/TRACE_SCHEMA.json"
  let baselinesSha256 ← files.sha256? "evals/trace_integrity_v1/BASELINE_TRACES.json"
  let mutationsSha256 ← files.sha256? "evals/trace_integrity_v1/MUTATIONS.json"
  some (errors ++
    digestErrors detector expectedDetectorSha256
      "detector source bytes do not match the frozen SHA-256" ++
    digestErrors schemaSha256 expectedSchemaSha256
      "TRACE_SCHEMA.json bytes do not match the frozen SHA-256" ++
    digestErrors baselinesSha256 expectedBaselinesSha256
      "BASELINE_TRACES.json bytes do not match the frozen SHA-256" ++
    digestErrors mutationsSha256 expectedMutationsSha256
      "MUTATIONS.json bytes do not match the frozen SHA-256")

end VerifyProtocol

end TraceIntegrityV1

/-! ## The release gate -/

namespace ReleaseGate

namespace VerifyProtocol

/-- The ids of the sources, in the frozen order. -/
def expectedSourceIds : List String :=
  ["core_reliability_v1", "trace_integrity_v1"]

/-- `EXPECTED_CLAIM_BOUNDARY`. -/
def expectedClaimBoundary : Mapping :=
  [("distributed_consensus_claim_allowed", .bool false),
    ("exactly_once_claim_allowed", .bool false),
    ("production_reliability_claim_allowed", .bool false),
    ("production_trace_integrity_claim_allowed", .bool false),
    ("real_provider_claim_allowed", .bool false),
    ("release_ready_claim_allowed_before_two_reproducing_runs", .bool false)]

variable [JsonLoads] [PayloadHash] [PyRepr]

/-- The errors of the sources of the evidence. -/
def sourceErrors (evidence : Mapping) : List String :=
  match evidence.get "sources" with
  | .list sources =>
    flag (textsOf sources "id" ≠ expectedSourceIds)
        "evidence source ids/order differ from the frozen definition" ++
      flag (sources.length ≠ 2) "evidence source count mismatch"
  | _ => ["evidence sources must be a list"]

/-- The errors of the protocol and the evidence. -/
def validate (protocol evidence : Mapping) (resultsExist : Bool) : List String :=
  differing protocol
      [("schema_version", .str "carl.combined-evidence-release-protocol.v1",
          "protocol schema_version mismatch"),
        ("protocol_id", .str "combined-evidence-release-v1-20260916", "protocol_id mismatch"),
        ("status", .str "frozen_unexecuted",
          "protocol must remain frozen_unexecuted at the freeze boundary"),
        ("release_criteria", .dict frozenCriteria,
          "release criteria differ from the frozen definition"),
        ("claim_boundary", .dict expectedClaimBoundary,
          "claim boundary differs from the frozen definition"),
        ("evidence_manifest", .dict [("path", .str "evals/release_gate_v1/EVIDENCE.json"),
            ("sha256", .str eSha), ("source_count", .int 2)],
          "evidence manifest identity differs from the frozen definition"),
        ("evaluator", .dict [("path", .str "evals/release_gate_v1/evaluate.py"),
            ("sha256", .str vSha)],
          "evaluator identity differs from the frozen definition"),
        ("execution", frozenExecution "evals/release_gate_v1",
          "execution controls differ from the frozen definition"),
        ("result_artifact", frozenResultArtifact "evals/release_gate_v1",
          "result artifact boundary differs from the frozen definition")] ++
    flag (resultsExist = true) "RESULTS.json must not exist at the freeze boundary" ++
    differing evidence
      [("schema_version", .str "carl.combined-evidence-manifest.v1",
          "evidence schema_version mismatch"),
        ("evidence_set_id", .str "combined-release-evidence-v1-20260916",
          "evidence_set_id mismatch")] ++
    sourceErrors evidence

/-- The errors of `main`, or none if it raises. -/
def main (env : Environment) : Option (List String) := do
  let files : Files := env.file
  let protocol ← files.object? "evals/release_gate_v1/PROTOCOL.json"
  let evidence ← files.object? "evals/release_gate_v1/EVIDENCE.json"
  let protocolSha256 ← files.sha256? "evals/release_gate_v1/PROTOCOL.json"
  let evidenceSha256 ← files.sha256? "evals/release_gate_v1/EVIDENCE.json"
  let evaluatorSha256 ← files.sha256? "evals/release_gate_v1/evaluate.py"
  some (validate protocol evidence (files "evals/release_gate_v1/RESULTS.json").isSome ++
    digestErrors protocolSha256 pSha "PROTOCOL.json bytes do not match the frozen SHA-256" ++
    digestErrors evidenceSha256 eSha "EVIDENCE.json bytes do not match the frozen SHA-256" ++
    digestErrors evaluatorSha256 vSha "evaluator bytes do not match the frozen SHA-256" ++
    verifySourceIdentities env evidence)

end VerifyProtocol

end ReleaseGate

end ReliabilityLab
