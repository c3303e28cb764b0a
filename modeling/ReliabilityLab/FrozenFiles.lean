import ReliabilityLab.EvaluationRuns
import ReliabilityLab.FrozenPrograms
import ReliabilityLab.FrozenProtocols

/-!
# Frozen files

The frozen and the published files of the three evaluations, as the repository has them. A
document is written by its members, in the order of its file.

`FrozenFiles.archive` : their contents, each with its digest.
-/

open Keyed

namespace ReliabilityLab

open Json

/-! ## Common members -/

namespace Publication

/-- The controls of an execution by two runs. -/
def frozenControls (directory : String) : Mapping :=
  [("aggregate_publication_requires_frozen_protocol_commit", .bool true),
    ("independent_runs_required", .int 2), ("normalized_output_byte_equal_required", .bool true),
    ("result_path_pattern", .str (directory ++ "/artifacts/run-\x7brun\x7d.json"))]

/-- The boundary of the published result. -/
def resultBoundary (directory : String) : Mapping :=
  [("must_be_absent_at_freeze", .bool true),
    ("published_results_path", .str (directory ++ "/RESULTS.json"))]

/-- The published results of gates whose metrics are at their thresholds. -/
def publishedGates (thresholds : Mapping) : Mapping :=
  thresholds.map fun threshold => (threshold.1, .dict [("actual", threshold.2),
    ("operator", .str "eq"), ("passed", .bool true), ("threshold", threshold.2)])

/-- The published reproduction by two runs with one output. -/
def publishedReproduction (sha256 : String) : Mapping :=
  [("independent_runs_recorded", .int 2), ("independent_runs_required", .int 2),
    ("normalized_output_byte_identical", .bool true), ("normalized_output_sha256", .str sha256)]

/-- The published identities of two run artifacts with one digest. -/
def publishedRuns (directory sha256 : String) : Json :=
  .list ([1, 2].map fun index =>
    .dict [("path", .str (directory ++ "/artifacts/run-" ++ toString index ++ ".json")),
      ("sha256", .str sha256)])

end Publication

open Publication

/-! ## The reliability evaluation -/

namespace ReliabilityV1

/-- The claim boundary of the protocol. -/
def claimBoundary : Mapping :=
  [("aggregate_score_claim_allowed_before_two_reproducing_runs", .bool false),
    ("distributed_consensus_claim_allowed", .bool false),
    ("exactly_once_claim_allowed", .bool false), ("model_quality_claim_allowed", .bool false),
    ("production_reliability_claim_allowed", .bool false),
    ("throughput_or_latency_claim_allowed", .bool false)]

/-- The frozen protocol. -/
def frozenProtocol : Mapping :=
  [("claim_boundary", .dict claimBoundary),
    ("execution", .dict (frozenControls "evals/reliability_v1")),
    ("metrics", .dict (eqGates reliabilityThresholds)),
    ("protocol_id", .str VerifyProtocol.expectedProtocolId),
    ("purpose", .str ("aggregate deterministic safety, convergence, and fail-closed evidence " ++
      "across implemented coding-agent reliability boundaries")),
    ("result_artifact", .dict (resultBoundary "evals/reliability_v1")),
    ("scenario_manifest", .dict [("path", .str "evals/reliability_v1/SCENARIOS.json"),
      ("scenario_count", .int 11), ("sha256", .str VerifyProtocol.expectedScenarioSha256)]),
    ("schema_version", .str "carl.reliability-evaluation-protocol.v1"),
    ("status", .str "frozen_unexecuted")]

/-- The fixture of a scenario. -/
def fixtureOf (category : String) (scenario : Evaluation.Scenario) : Mapping :=
  [("category", .str category), ("convergence_required", .bool scenario.convergenceRequired),
    ("fail_closed_required", .bool scenario.failClosedRequired), ("id", .str scenario.id),
    ("runner", .str scenario.id), ("safety_required", .bool scenario.safetyRequired)]

/-- The categories of the scenarios. -/
def categories : List String :=
  ["event_identity", "retry_idempotency", "terminal_finality", "approval_binding",
    "durable_execution", "partial_progress_recovery", "cross_system_reconciliation",
    "stale_readback_race", "evidence_lineage", "repeated_lost_ack", "competing_reconcilers"]

/-- The frozen scenarios. -/
def frozenScenarios : Mapping :=
  [("fixture_set", .str "core-reliability-boundaries-20260911"),
    ("scenarios", .list ((List.zipWith fixtureOf categories Evaluation.scenarios).map .dict)),
    ("schema_version", .str "carl.reliability-scenarios.v1")]

/-- What the runners say of their scenarios. -/
def scenarioDetails : List String :=
  ["foreign child completion is ignored and the parent reaches its own terminal state",
    "exact replay is suppressed by the stable operation identity",
    "incompatible same-turn terminal outcomes are rejected instead of last-write-wins",
    "approval is bound to the exact operation, tool, and payload",
    "file-backed completion survives restart and exact replay does not repeat the local effect",
    "stale checkpoint replay is rejected and recovery resumes only from the current lineage",
    "authoritative PRESENT readback accepts the committed effect instead of replaying it",
    "revision drift invalidates old absence evidence before a retry can commit",
    "newer provider evidence durably supersedes pre-restart retry authority",
    "fresh PRESENT evidence closes a lost-ack loop and supersedes stale retry authority",
    "one revision-bound retry commits and stale competing authority is rejected before " ++
      "convergence"]

/-- The results of the frozen scenarios. -/
def passingResults : List ScenarioResult :=
  List.zipWith Evaluation.Scenario.passing Evaluation.scenarios scenarioDetails

/-- A scenario result, as the files have it. -/
def publishedResult (result : ScenarioResult) : Mapping :=
  [("convergence_applicable", .bool result.convergenceApplicable),
    ("convergence_passed", ScenarioResult.optional result.convergencePassed),
    ("detail", .str result.detail),
    ("duplicate_effect_violations", .int result.duplicateEffectViolations),
    ("fail_closed_applicable", .bool result.failClosedApplicable),
    ("fail_closed_passed", ScenarioResult.optional result.failClosedPassed),
    ("passed", .bool result.passed), ("safety_applicable", .bool result.safetyApplicable),
    ("safety_passed", ScenarioResult.optional result.safetyPassed),
    ("scenario_id", .str result.scenarioId)]

/-- The results on the scenarios. -/
def scenarioResults : Json :=
  .list (passingResults.map fun result => .dict (publishedResult result))

/-- The metrics, as the files have them. -/
def publishedMetrics : Mapping :=
  [("all_scenarios_passed", .bool true), ("convergence_applicable", .int 8),
    ("convergence_pass_rate", .float (.finite 1)), ("convergence_passed", .int 8),
    ("duplicate_effect_violations", .int 0), ("fail_closed_applicable", .int 7),
    ("fail_closed_pass_rate", .float (.finite 1)), ("fail_closed_passed", .int 7),
    ("safety_applicable", .int 11), ("safety_pass_rate", .float (.finite 1)),
    ("safety_passed", .int 11), ("scenario_count", .int 11),
    ("scenario_pass_rate", .float (.finite 1)), ("scenario_passed", .int 11)]

/-- The run artifacts. -/
def frozenRun : Mapping :=
  [("claim_boundary", .dict claimBoundary), ("metrics", .dict publishedMetrics),
    ("protocol_id", .str VerifyProtocol.expectedProtocolId),
    ("scenario_manifest_sha256", .str VerifyProtocol.expectedScenarioSha256),
    ("scenario_results", scenarioResults),
    ("schema_version", .str "carl.reliability-evaluation-result.v1")]

/-- The digest of the run artifacts. -/
def runSha256 : String :=
  "31390b50cb0761a1c4c06f3c5783367f52fb9d4c15722f409bb5efcc1a24c203"

/-- The published results. -/
def publishedResults : Mapping :=
  [("aggregate_disposition", .str "pass"), ("claim_boundary", .dict claimBoundary),
    ("freeze_commit_sha", .str freezeCommitSha),
    ("frozen_gates", .dict (publishedGates reliabilityThresholds)),
    ("limitations", .list
      [.str ("Deterministic local reliability scenarios only; not a production reliability " ++
          "measurement."),
        .str ("No exactly-once remote-effect, distributed-consensus, model-quality, " ++
          "throughput, or latency claim."),
        .str ("Provider and persistence boundaries are bounded in-memory or SQLite-backed " ++
          "simulations.")]),
    ("metrics", .dict publishedMetrics), ("protocol_id", .str VerifyProtocol.expectedProtocolId),
    ("protocol_sha256", .str expectedProtocolSha256),
    ("reproduction", .dict (publishedReproduction runSha256)),
    ("run_artifacts", publishedRuns "evals/reliability_v1" runSha256),
    ("scenario_manifest_sha256", .str VerifyProtocol.expectedScenarioSha256),
    ("scenario_results", scenarioResults),
    ("schema_version", .str "carl.reliability-evaluation-publication.v1")]

end ReliabilityV1

/-! ## The trace-integrity evaluation -/

namespace TraceIntegrityV1

open TraceIntegrity (retryThenReconcile sampleEffect)

/-- The claim boundary of the protocol. -/
def claimBoundary : Mapping :=
  [("aggregate_detection_claim_allowed_before_two_reproducing_runs", .bool false),
    ("distributed_consensus_claim_allowed", .bool false),
    ("exactly_once_claim_allowed", .bool false),
    ("production_reliability_claim_allowed", .bool false),
    ("production_trace_integrity_claim_allowed", .bool false),
    ("real_provider_claim_allowed", .bool false)]

/-- The frozen protocol. -/
def frozenProtocol : Mapping :=
  [("artifacts", .dict
      [("baseline_traces", .dict
          [("path", .str "evals/trace_integrity_v1/BASELINE_TRACES.json"),
            ("sha256", .str VerifyProtocol.expectedBaselinesSha256), ("trace_count", .int 3)]),
        ("mutation_corpus", .dict [("mutation_count", .int 15),
          ("path", .str "evals/trace_integrity_v1/MUTATIONS.json"),
          ("sha256", .str VerifyProtocol.expectedMutationsSha256)]),
        ("trace_schema", .dict [("path", .str "evals/trace_integrity_v1/TRACE_SCHEMA.json"),
          ("sha256", .str VerifyProtocol.expectedSchemaSha256)])]),
    ("claim_boundary", .dict claimBoundary),
    ("detection_gates", .dict (eqGates traceThresholds)),
    ("detector", .dict
      [("callable", .str "agent_reliability_lab.trace_integrity:evaluate_trace_corpus"),
        ("sha256", .str VerifyProtocol.expectedDetectorSha256),
        ("source_path", .str "src/agent_reliability_lab/trace_integrity.py")]),
    ("execution", .dict (frozenControls "evals/trace_integrity_v1")),
    ("protocol_id", .str VerifyProtocol.expectedProtocolId),
    ("purpose", .str ("detect deterministic corruption of cross-layer coding-agent trace " ++
      "lineage without accepting malformed clean state")),
    ("result_artifact", .dict (resultBoundary "evals/trace_integrity_v1")),
    ("schema_version", .str "carl.trace-integrity-evaluation-protocol.v1"),
    ("status", .str "frozen_unexecuted")]

/-- The frozen schema of a record kind. -/
def kindOf (kind : String) (required : List String) : String × Json :=
  (kind, .dict [("required", .list (required.map .str))])

/-- The frozen schema. -/
def frozenSchema : Mapping :=
  [("common_record_required", .list [.str "record_id", .str "sequence", .str "kind"]),
    ("cross_record_invariants", .list
      [.str "record sequence is unique and strictly increasing in serialized order",
        .str "runtime event run/turn identity matches trace scope and event_id is unique",
        .str "approval and effect bind the same exact operation/tool/payload fingerprint",
        .str "effect execution requires a prior approval and cannot follow denial",
        .str "checkpoint lineage is linear with stable plan identity and nondecreasing progress",
        .str ("provider revisions are monotonic and same-revision observations cannot " ++
          "conflict"),
        .str "reconciliation completion binds the latest matching PRESENT provider evidence"]),
    ("record_kinds", .dict
      [kindOf "approval" ["provider", "operation_id", "tool", "payload_sha256", "effect_sha256",
          "decision"],
        kindOf "checkpoint" ["run_id", "checkpoint_id", "parent_checkpoint_id",
          "checkpoint_sequence", "plan_sha256", "completed_count"],
        kindOf "effect" ["provider", "operation_id", "tool", "payload_sha256", "effect_sha256",
          "idempotency_key"],
        kindOf "provider_evidence" ["provider", "operation_id", "evidence_id", "revision",
          "readback", "effect_sha256"],
        kindOf "reconciliation_completion" ["provider", "operation_id", "evidence_id", "revision",
          "effect_sha256"],
        kindOf "runtime_event" ["event_id", "run_id", "turn_id", "event_kind",
          "payload_sha256"]]),
    ("schema_version", .str "carl.trace-integrity-schema.v1"),
    ("scope_required", .list [.str "run_id", .str "turn_id", .str "provider",
      .str "operation_id"])]

/-- The digest of the effect of `retryAuthorityPending`. -/
def pendingEffect : String :=
  "066f3c30f147e480acb5198e97f453be77c359f351d16512c51347d20e88a6c0"

/-- The records of the second baseline trace, `retry_authority_pending`. -/
def retryAuthorityPending : List Mapping :=
  [[("event_id", .str "evt-pending"), ("event_kind", .str "output"),
      ("kind", .str "runtime_event"),
      ("payload_sha256", .str "6c99eafb6a8e8007863f35fdc807f9fc2be9aabf35a6344eb87f55428021ae2e"),
      ("record_id", .str "p1"), ("run_id", .str "run-84"), ("sequence", .int 1),
      ("turn_id", .str "turn-parent")],
    [("decision", .str "approved"), ("effect_sha256", .str pendingEffect),
      ("kind", .str "approval"), ("operation_id", .str "op-22"),
      ("payload_sha256", .str "41c691092945085c0570557d8b55db737c56953f5e086d19c9968375afcf0008"),
      ("provider", .str "provider-b"), ("record_id", .str "p2"), ("sequence", .int 2),
      ("tool", .str "write_marker")],
    [("checkpoint_id", .str "cp-pending"), ("checkpoint_sequence", .int 0),
      ("completed_count", .int 0), ("kind", .str "checkpoint"), ("parent_checkpoint_id", .null),
      ("plan_sha256", .str "8493ba04bf6f8943c03306760a9402270b13b40c1d22563c48f8586437de4ec1"),
      ("record_id", .str "p3"), ("run_id", .str "run-84"), ("sequence", .int 3)],
    [("effect_sha256", .str pendingEffect), ("evidence_id", .str "ev-8-absent"),
      ("kind", .str "provider_evidence"), ("operation_id", .str "op-22"),
      ("provider", .str "provider-b"), ("readback", .str "absent"), ("record_id", .str "p4"),
      ("revision", .int 8), ("sequence", .int 4)]]

/-- The records of the third baseline trace, `parent_turn_terminal`. -/
def parentTurnTerminal : List Mapping :=
  [[("event_id", .str "evt-output"), ("event_kind", .str "output"),
      ("kind", .str "runtime_event"),
      ("payload_sha256", .str "ebbef8615f8d26a2c818d8e9dc6b93d252d73377bcea19eb117166f5fedb58de"),
      ("record_id", .str "e1"), ("run_id", .str "run-7"), ("sequence", .int 1),
      ("turn_id", .str "turn-parent")],
    [("event_id", .str "evt-complete"), ("event_kind", .str "completed"),
      ("kind", .str "runtime_event"),
      ("payload_sha256", .str "a4c3ed04a95a3da14a9d235c83d868bed7c0f45cf7f3faa751ee8f50598d2211"),
      ("record_id", .str "e2"), ("run_id", .str "run-7"), ("sequence", .int 2),
      ("turn_id", .str "turn-parent")]]

/-- A trace of the main turn of a run. -/
def traceOf (traceId runId provider operationId : String) (records : List Mapping) : Mapping :=
  [("records", .list (records.map .dict)),
    ("scope", .dict [("operation_id", .str operationId), ("provider", .str provider),
      ("run_id", .str runId), ("turn_id", .str "turn-parent")]),
    ("trace_id", .str traceId)]

/-- The frozen baseline traces. -/
def frozenBaselines : Mapping :=
  [("fixture_set", .str "trace-integrity-clean-baselines-20260913"),
    ("schema_version", .str "carl.trace-integrity-baselines.v1"),
    ("traces", .list
      [.dict (traceOf "retry_then_reconcile" "run-42" "local-provider" "op-17" retryThenReconcile),
        .dict (traceOf "retry_authority_pending" "run-84" "provider-b" "op-22"
          retryAuthorityPending),
        .dict (traceOf "parent_turn_terminal" "run-7" "provider-c" "op-unused"
          parentTurnTerminal)])]

/-- A mutation that replaces a value of a baseline trace. -/
def replacing (traceId category id path : String) (value : Json) : Json :=
  .dict [("base_trace_id", .str traceId), ("category", .str category), ("id", .str id),
    ("operator", .str "replace"), ("path", .str path), ("value", value)]

/-- The frozen mutations. -/
def frozenMutations : Mapping :=
  [("corpus_id", .str "trace-integrity-mutations-20260913"),
    ("mutations", .list
      [replacing "retry_then_reconcile" "event_identity" "event_run_scope_graft"
          "/records/0/run_id" (.str "run-foreign"),
        replacing "retry_then_reconcile" "event_identity" "event_turn_scope_graft"
          "/records/0/turn_id" (.str "turn-child"),
        replacing "parent_turn_terminal" "event_identity" "event_id_collision"
          "/records/1/event_id" (.str "evt-output"),
        replacing "retry_then_reconcile" "trace_order" "record_sequence_collision"
          "/records/1/sequence" (.int 1),
        replacing "retry_then_reconcile" "approval_effect_binding" "approval_operation_swap"
          "/records/1/operation_id" (.str "op-foreign"),
        replacing "retry_then_reconcile" "approval_effect_binding" "effect_payload_hash_drift"
          "/records/4/payload_sha256"
          (.str "7ba2bf965b72bbb3448c386c6eab9ff21f2b28ce61b27ba77d39fb7baddce032"),
        replacing "retry_then_reconcile" "approval_effect_binding" "effect_fingerprint_drift"
          "/records/4/effect_sha256"
          (.str "cab184c4ca3b729edf76f060cf4aacaa5747376a0727193d787d1e6e3c8bb6af"),
        replacing "retry_then_reconcile" "checkpoint_lineage" "checkpoint_parent_rewind"
          "/records/5/parent_checkpoint_id" (.str "cp-foreign"),
        replacing "retry_then_reconcile" "checkpoint_lineage" "checkpoint_sequence_gap"
          "/records/5/checkpoint_sequence" (.int 2),
        replacing "retry_then_reconcile" "checkpoint_lineage" "checkpoint_plan_hash_drift"
          "/records/5/plan_sha256"
          (.str "e4eaa2228c8c29e03d6a964b49fed291fe1779a3846f48761b9af0a67c61bd4b"),
        replacing "retry_then_reconcile" "provider_revision" "provider_revision_rollback"
          "/records/6/revision" (.int 2),
        replacing "retry_then_reconcile" "provider_revision" "provider_same_revision_conflict"
          "/records/6/revision" (.int 3),
        replacing "retry_then_reconcile" "reconciliation_completion" "completion_stale_evidence"
          "/records/7/evidence_id" (.str "ev-3-absent"),
        replacing "retry_then_reconcile" "reconciliation_completion" "completion_revision_drift"
          "/records/7/revision" (.int 3),
        replacing "retry_then_reconcile" "reconciliation_completion" "completion_effect_drift"
          "/records/7/effect_sha256"
          (.str "9167cd41d46396a062532b9724cbf7cac63ae431798ef943c59396f345d2ac83")]),
    ("schema_version", .str "carl.trace-integrity-mutations.v1")]

/-- The violations that each mutation makes. -/
def mutationViolations : List (List String) :=
  [["event_run_scope_mismatch"], ["event_turn_scope_mismatch"], ["event_id_duplicate"],
    ["record_sequence_not_strictly_increasing"], ["operation_scope_mismatch"],
    ["approval_effect_binding_mismatch"], ["effect_fingerprint_mismatch"],
    ["checkpoint_parent_mismatch"], ["checkpoint_sequence_gap"], ["checkpoint_plan_drift"],
    ["completion_not_latest_provider_revision", "completion_revision_mismatch",
      "provider_revision_rollback"],
    ["completion_not_latest_provider_revision", "completion_revision_mismatch",
      "provider_same_revision_conflict"],
    ["completion_requires_present_evidence", "completion_revision_mismatch"],
    ["completion_not_latest_provider_revision", "completion_revision_mismatch"],
    ["completion_effect_fingerprint_mismatch", "completion_evidence_effect_mismatch"]]

/-- The results on the baseline traces, as the files have them. -/
def cleanResults : Json :=
  .list (VerifyProtocol.expectedBaselineIds.map fun id =>
    .dict [("accepted", .bool true), ("trace_id", .str id), ("violations", .list [])])

/-- The results on the mutated traces, as the files have them. -/
def mutationResults : Json :=
  .list (List.zipWith (fun id violations => .dict [("detected", .bool true),
    ("mutation_id", .str id), ("violations", .list (violations.map .str))])
    VerifyProtocol.expectedMutationIds mutationViolations)

/-- The metrics, as the files have them. -/
def publishedMetrics : Mapping :=
  [("clean_trace_accept_rate", .float (.finite 1)), ("clean_trace_count", .int 3),
    ("detector_error_count", .int 0), ("false_negative_count", .int 0),
    ("false_positive_count", .int 0), ("mutation_count", .int 15),
    ("mutation_detection_rate", .float (.finite 1))]

/-- The run artifacts. -/
def frozenRun : Mapping :=
  [("clean_results", cleanResults), ("metrics", .dict publishedMetrics),
    ("mutation_results", mutationResults),
    ("schema_version", .str "carl.trace-integrity-result.v1")]

/-- The digest of the run artifacts. -/
def runSha256 : String :=
  "4d1486472eada40441a407c827495dd5cee89a8f348749f05a42ec8291baf164"

/-- The published results. -/
def publishedResults : Mapping :=
  [("aggregate_disposition", .str "pass"), ("claim_boundary", .dict claimBoundary),
    ("clean_results", cleanResults), ("freeze_commit_sha", .str freezeCommitSha),
    ("frozen_artifacts", .dict
      [("baseline_traces_sha256", .str VerifyProtocol.expectedBaselinesSha256),
        ("detector_sha256", .str VerifyProtocol.expectedDetectorSha256),
        ("mutation_corpus_sha256", .str VerifyProtocol.expectedMutationsSha256),
        ("trace_schema_sha256", .str VerifyProtocol.expectedSchemaSha256)]),
    ("frozen_gates", .dict (publishedGates traceThresholds)),
    ("limitations", .list
      [.str ("Deterministic local mutation evaluation over repository-authored synthetic traces " ++
          "only; not a production trace-integrity measurement."),
        .str ("Detection of these 15 frozen mutations does not establish completeness against " ++
          "arbitrary or adversarial corruption."),
        .str ("No production reliability, exactly-once remote-effect, distributed-consensus, " ++
          "real-provider, throughput, latency, or model-quality claim.")]),
    ("metrics", .dict publishedMetrics), ("mutation_results", mutationResults),
    ("protocol_id", .str VerifyProtocol.expectedProtocolId),
    ("protocol_sha256", .str expectedProtocolSha256),
    ("reproduction", .dict (publishedReproduction runSha256)),
    ("run_artifacts", publishedRuns "evals/trace_integrity_v1" runSha256),
    ("schema_version", .str "carl.trace-integrity-publication.v1")]

end TraceIntegrityV1

/-! ## The release gate -/

namespace ReleaseGate

/-- The frozen protocol. -/
def frozenProtocol : Mapping :=
  [("claim_boundary", .dict VerifyProtocol.expectedClaimBoundary),
    ("evaluator", .dict [("path", .str "evals/release_gate_v1/evaluate.py"),
      ("sha256", .str vSha)]),
    ("evidence_manifest", .dict [("path", .str "evals/release_gate_v1/EVIDENCE.json"),
      ("sha256", .str eSha), ("source_count", .int 2)]),
    ("execution", .dict (frozenControls "evals/release_gate_v1")),
    ("protocol_id", .str "combined-evidence-release-v1-20260916"),
    ("purpose", .str ("compose already-published reliability and trace-integrity evidence " ++
      "through a fail-closed release-readiness gate")),
    ("release_criteria", .dict frozenCriteria),
    ("result_artifact", .dict (resultBoundary "evals/release_gate_v1")),
    ("schema_version", .str "carl.combined-evidence-release-protocol.v1"),
    ("status", .str "frozen_unexecuted")]

/-- The digest of the results of the reliability evaluation. -/
def coreResultSha256 : String :=
  "f0cfa595075f3c4d5c97c68c837ff7498d0f10eb78ec2ac80edbf5c09f8abeb9"

/-- The digest of their verifier. -/
def coreVerifierSha256 : String :=
  "26e93427b03347f4323b7cdbcc2bb7b2bdeae8ee528f90c58b91404622ce7cc5"

/-- The digest of the results of the trace-integrity evaluation. -/
def traceResultSha256 : String :=
  "36e49c3c225b1b54cb8def2b99a87f96815dec3943b35a34b64d9e12adfe71c8"

/-- The digest of their verifier. -/
def traceVerifierSha256 : String :=
  "55709890a14cb5af2aaab693ecd515f9d737fd874ccebfdf0e34aefbc68ca741"

/-- The entry of the reliability evaluation. -/
def coreSource : Mapping :=
  [("freeze_commit_sha", .str ReliabilityV1.freezeCommitSha), ("id", .str "core_reliability_v1"),
    ("protocol_id", .str ReliabilityV1.VerifyProtocol.expectedProtocolId),
    ("protocol_path", .str "evals/reliability_v1/PROTOCOL.json"),
    ("protocol_sha256", .str ReliabilityV1.expectedProtocolSha256),
    ("result_commit_sha", .str "be63a2d88dc5537386dca70977bd2d258b80e1cc"),
    ("result_path", .str "evals/reliability_v1/RESULTS.json"),
    ("result_schema_version", .str "carl.reliability-evaluation-publication.v1"),
    ("result_sha256", .str coreResultSha256),
    ("result_verifier_path", .str "evals/reliability_v1/verify_results.py"),
    ("result_verifier_sha256", .str coreVerifierSha256)]

/-- The entry of the trace-integrity evaluation. -/
def traceSource : Mapping :=
  [("freeze_commit_sha", .str TraceIntegrityV1.freezeCommitSha), ("id", .str "trace_integrity_v1"),
    ("protocol_id", .str TraceIntegrityV1.VerifyProtocol.expectedProtocolId),
    ("protocol_path", .str "evals/trace_integrity_v1/PROTOCOL.json"),
    ("protocol_sha256", .str TraceIntegrityV1.expectedProtocolSha256),
    ("result_commit_sha", .str "7d358de55cfbb50b8a5f8162d689f352a6b9c4f4"),
    ("result_path", .str "evals/trace_integrity_v1/RESULTS.json"),
    ("result_schema_version", .str "carl.trace-integrity-publication.v1"),
    ("result_sha256", .str traceResultSha256),
    ("result_verifier_path", .str "evals/trace_integrity_v1/verify_results.py"),
    ("result_verifier_sha256", .str traceVerifierSha256)]

/-- The frozen evidence. -/
def frozenEvidence : Mapping :=
  [("evidence_set_id", .str "combined-release-evidence-v1-20260916"),
    ("schema_version", .str "carl.combined-evidence-manifest.v1"),
    ("sources", .list [.dict coreSource, .dict traceSource])]

/-- The metrics, as the files have them. -/
def publishedMetrics : Mapping :=
  [("required_source_count_satisfied", .bool true), ("source_count", .int 2),
    ("sources_failed", .int 0), ("sources_passed", .int 2)]

/-- The results on the sources, as the files have them. -/
def sourceResults : Json :=
  .list (VerifyProtocol.expectedSourceIds.map fun id => .dict
    [("checks", .dict (checkNames.map fun name => (name, .bool true))), ("errors", .list []),
      ("passed", .bool true), ("source_id", .str id)])

/-- The run artifacts. -/
def frozenRun : Mapping :=
  [("evidence_set_id", .str "combined-release-evidence-v1-20260916"),
    ("metrics", .dict publishedMetrics),
    ("protocol_id", .str "combined-evidence-release-v1-20260916"), ("release_ready", .bool true),
    ("schema_version", .str "carl.combined-evidence-release-run.v1"),
    ("source_results", sourceResults)]

/-- The digest of the run artifacts. -/
def runSha256 : String :=
  "9f22ca75e990e24ab5d95e52c89aef77ac2a9dfa2582863919b9f6c746502b62"

/-- The published results. -/
def publishedResults : Mapping :=
  [("claim_boundary", .dict VerifyProtocol.expectedClaimBoundary),
    ("evaluator_sha256", .str vSha), ("evidence_manifest_sha256", .str eSha),
    ("freeze_commit_sha", .str freeze),
    ("limitations", .list
      [.str ("Combined readiness applies only to the two exact deterministic local evidence " ++
          "publications pinned by the frozen manifest."),
        .str ("No production reliability, production trace integrity, exactly-once " ++
          "remote-effect, distributed-consensus, real-provider, model-quality, throughput, " ++
          "latency, or adoption claim.")]),
    ("metrics", .dict publishedMetrics),
    ("protocol_id", .str "combined-evidence-release-v1-20260916"), ("protocol_sha256", .str pSha),
    ("release_ready", .bool true),
    ("reproduction", .dict (publishedReproduction runSha256)),
    ("run_artifacts", publishedRuns "evals/release_gate_v1" runSha256),
    ("schema_version", .str "carl.combined-evidence-release-publication.v1"),
    ("source_results", sourceResults)]

end ReleaseGate

/-! ## The archive -/

namespace FrozenFiles

/-- The content of a document. -/
def documentContent (document : Mapping) (sha256 : String) : Content :=
  letI := plainRepr
  ⟨documentPayload document, sha256, some document⟩

/-- The content of a program. -/
def programContent (lines : List String) (sha256 : String) : Content :=
  ⟨programPayload lines, sha256, none⟩

/-- `evals/reliability_v1/PROTOCOL.json`. -/
def coreProtocol : Content :=
  documentContent ReliabilityV1.frozenProtocol ReliabilityV1.expectedProtocolSha256

/-- `evals/reliability_v1/SCENARIOS.json`. -/
def coreScenarios : Content :=
  documentContent ReliabilityV1.frozenScenarios ReliabilityV1.VerifyProtocol.expectedScenarioSha256

/-- Each of `evals/reliability_v1/artifacts`. -/
def coreRun : Content :=
  documentContent ReliabilityV1.frozenRun ReliabilityV1.runSha256

/-- `evals/reliability_v1/RESULTS.json`. -/
def coreResults : Content :=
  documentContent ReliabilityV1.publishedResults ReleaseGate.coreResultSha256

/-- `evals/reliability_v1/verify_results.py`. -/
def coreVerifier : Content :=
  programContent Programs.reliabilityVerifier ReleaseGate.coreVerifierSha256

/-- `evals/trace_integrity_v1/PROTOCOL.json`. -/
def traceProtocol : Content :=
  documentContent TraceIntegrityV1.frozenProtocol TraceIntegrityV1.expectedProtocolSha256

/-- `evals/trace_integrity_v1/TRACE_SCHEMA.json`. -/
def traceSchema : Content :=
  documentContent TraceIntegrityV1.frozenSchema
    TraceIntegrityV1.VerifyProtocol.expectedSchemaSha256

/-- `evals/trace_integrity_v1/BASELINE_TRACES.json`. -/
def traceBaselines : Content :=
  documentContent TraceIntegrityV1.frozenBaselines
    TraceIntegrityV1.VerifyProtocol.expectedBaselinesSha256

/-- `evals/trace_integrity_v1/MUTATIONS.json`. -/
def traceMutations : Content :=
  documentContent TraceIntegrityV1.frozenMutations
    TraceIntegrityV1.VerifyProtocol.expectedMutationsSha256

/-- `src/agent_reliability_lab/trace_integrity.py`. -/
def traceDetector : Content :=
  programContent Programs.traceIntegrity TraceIntegrityV1.VerifyProtocol.expectedDetectorSha256

/-- Each of `evals/trace_integrity_v1/artifacts`. -/
def traceRun : Content :=
  documentContent TraceIntegrityV1.frozenRun TraceIntegrityV1.runSha256

/-- `evals/trace_integrity_v1/RESULTS.json`. -/
def traceResults : Content :=
  documentContent TraceIntegrityV1.publishedResults ReleaseGate.traceResultSha256

/-- `evals/trace_integrity_v1/verify_results.py`. -/
def traceVerifier : Content :=
  programContent Programs.traceVerifier ReleaseGate.traceVerifierSha256

/-- `evals/release_gate_v1/PROTOCOL.json`. -/
def gateProtocol : Content :=
  documentContent ReleaseGate.frozenProtocol ReleaseGate.pSha

/-- `evals/release_gate_v1/EVIDENCE.json`. -/
def gateEvidence : Content :=
  documentContent ReleaseGate.frozenEvidence ReleaseGate.eSha

/-- `evals/release_gate_v1/evaluate.py`. -/
def gateEvaluator : Content :=
  programContent Programs.releaseEvaluator ReleaseGate.vSha

/-- Each of `evals/release_gate_v1/artifacts`. -/
def gateRun : Content :=
  documentContent ReleaseGate.frozenRun ReleaseGate.runSha256

/-- `evals/release_gate_v1/RESULTS.json`. -/
def gateResults : Content :=
  documentContent ReleaseGate.publishedResults
    "01b31c8d0b1af522f093ba1819cc6720895daeeae73c6559cf616839a2af8e72"

/-- The contents of the frozen and of the published files. -/
def archive : Archive where
  rows := [coreProtocol, coreScenarios, coreRun, coreResults, coreVerifier, traceProtocol,
    traceSchema, traceBaselines, traceMutations, traceDetector, traceRun, traceResults,
    traceVerifier, gateProtocol, gateEvidence, gateEvaluator, gateRun, gateResults]
  unique := by decide +kernel

end FrozenFiles

end ReliabilityLab
