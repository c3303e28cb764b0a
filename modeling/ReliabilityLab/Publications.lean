import ReliabilityLab.EvaluationMetrics
import ReliabilityLab.TraceIntegrity

/-!
# Published results

The two publication verifiers, `ReliabilityV1.validate` and `TraceIntegrityV1.validate`. Each
compares the published document with the run artifacts and derives the gate results and
the disposition from the metrics block of the run.
-/

set_option linter.unusedSectionVars false

open Serial

namespace ReliabilityLab

open Json

open TraceIntegrity (flag flag_eq_nil)

namespace Publication

/-! ## Gates -/

/-- `isinstance(value, (int, float)) and not isinstance(value, bool)`. -/
def isNumber : Json → Bool
  | .int _ | .float _ => true
  | _ => false

/-- `_gate_passed`. -/
def gatePassed (actual : Json) (operator : String) (threshold : Json) : Except Raised Bool :=
  if operator = "eq" then .ok (PyEq actual threshold)
  else .error ⟨.valueError, "unsupported frozen gate operator: " ++ operator⟩

/-- The result of one frozen gate. -/
structure GateResult where
  actual : Json
  operator : String
  threshold : Json
  passed : Bool

/-- The entry of a gate in a publication. -/
def GateResult.toJson (gate : GateResult) : Json :=
  .dict [("actual", gate.actual), ("operator", .str gate.operator),
    ("threshold", gate.threshold), ("passed", .bool gate.passed)]

/-- The result of the gate `name`. -/
def deriveGate (metrics : Mapping) (name : String) (specification : Json) :
    Except Raised GateResult :=
  match specification with
  | .dict specification =>
    let threshold := Mapping.get specification "threshold"
    let actual := metrics.get name
    match Mapping.get specification "operator" with
    | .str operator => do
      raiseIf (isNumber threshold = false)
        ⟨.typeError, "gate threshold must be numeric: " ++ name⟩
      raiseIf (isNumber actual = false) ⟨.typeError, "result metric must be numeric: " ++ name⟩
      let passed ← gatePassed actual operator threshold
      .ok ⟨actual, operator, threshold, passed⟩
    | _ => .error ⟨.typeError, "gate operator must be a string: " ++ name⟩
  | _ => .error ⟨.typeError, "gate specification must be an object: " ++ name⟩

/-- The results of gates on the metrics, in order. -/
def deriveGates (metrics : Mapping) : Mapping → Except Raised (List (String × GateResult))
  | [] => .ok []
  | (name, specification) :: gates => do
    let gate ← deriveGate metrics name specification
    let derived ← deriveGates metrics gates
    .ok ((name, gate) :: derived)

/-- `derive_gate_results`, for the gates that the protocol has under `key`. -/
def deriveGateResults (key : String) (protocol metrics : Mapping) :
    Except Raised (List (String × GateResult)) :=
  match protocol.get key with
  | .dict gates => deriveGates metrics (sortedItems gates)
  | _ => .error ⟨.typeError, "protocol " ++ key ++ " must be an object"⟩

/-- The disposition of derived gate results. -/
def disposition (derived : List (String × GateResult)) : String :=
  if derived ≠ [] ∧ ∀ gate ∈ derived, gate.2.passed = true then "pass" else "fail"

/-! ## Runs -/

section runs

variable [PayloadHash] [JsonLoads]

/-- The payloads are the same bytes. -/
def byteEqual : List Bytes → Bool
  | [] => false
  | payload :: payloads => payloads.all fun other => other = payload

/-- The errors and the value of reading the first payload. -/
def normalizedRun (message : String) : List Bytes → Except Raised (List String × Json)
  | [] => .ok ([], .dict [])
  | payload :: _ =>
    match JsonLoads.loads payload with
    | .ok normalized => .ok ([], normalized)
    | .error .jsonDecodeError => .ok ([message], .dict [])
    | .error (.other raised) => .error raised

/-- The identities of the run artifacts in a directory. -/
def expectedRuns (directory : String) (runPayloads : List Bytes) : Json :=
  .list (runPayloads.mapIdx fun index payload =>
    .dict [("path", .str (directory ++ "/artifacts/run-" ++ toString (index + 1) ++ ".json")),
      ("sha256", .str (PayloadHash.sha256Hexdigest payload))])

/-- The digest of the first payload. -/
def firstSha256 : List Bytes → Json
  | [] => .null
  | payload :: _ => .str (PayloadHash.sha256Hexdigest payload)

/-- The reproduction that is expected of these payloads. -/
def expectedReproduction (requiredRuns : Json) (runPayloads : List Bytes) : Json :=
  .dict [("independent_runs_required", requiredRuns),
    ("independent_runs_recorded", count runPayloads.length),
    ("normalized_output_byte_identical", .bool (byteEqual runPayloads)),
    ("normalized_output_sha256", firstSha256 runPayloads)]

/-- The execution controls of a protocol, with the number of runs it requires. -/
def executionControls (protocol : Mapping) : Except String (Mapping × Json) :=
  match protocol.get "execution" with
  | .dict execution =>
    let requiredRuns := Mapping.get execution "independent_runs_required"
    if ∃ n ∈ requiredRuns.intValue?, 1 ≤ n then .ok (execution, requiredRuns)
    else .error "independent_runs_required must be a positive integer"
  | _ => .error "protocol execution controls are missing"

/-- Whether the outputs differ where the protocol does not allow it. -/
def byteErrors (execution : Mapping) (runPayloads : List Bytes) : List String :=
  flag (execution.get "normalized_output_byte_equal_required" = .bool true ∧
      byteEqual runPayloads = false)
    "normalized independent run outputs are not byte-identical"

/-- The errors of the fields that differ from what is expected of them. -/
def differing (results : Mapping) (fields : List (String × Json × String)) : List String :=
  fields.flatMap fun field => flag (¬PyEq (results.get field.1) field.2.1) field.2.2

/-- The gate results of the run, or the error instead. -/
def derivedGates (derive : Mapping → Except Raised (List (String × GateResult))) (run : Mapping) :
    List String × List (String × GateResult) :=
  match run.get "metrics" with
  | .dict metrics =>
    match derive metrics with
    | .ok derived => ([], derived)
    | .error raised => ([raised.message], [])
  | _ => (["normalized run metrics are missing"], [])

/-- The errors of the published gate results and disposition. -/
def gateErrors (derive : Mapping → Except Raised (List (String × GateResult)))
    (results run : Mapping) : List String :=
  let (errors, derived) := derivedGates derive run
  errors ++ differing results
    [("frozen_gates", .dict (derived.map fun gate => (gate.1, gate.2.toJson)),
        "published gate results differ from the frozen gate evaluation"),
      ("aggregate_disposition", .str (disposition derived),
        "aggregate disposition differs from the frozen gate evaluation")]

end runs

end Publication

open Publication

/-! ## The reliability evaluation -/

namespace ReliabilityV1

variable [PayloadHash] [JsonLoads]

/-- `FREEZE_COMMIT_SHA`. -/
def freezeCommitSha : String :=
  "f11c5d441261fbbd07be23b806c53d7c685d8560"

/-- `EXPECTED_PROTOCOL_SHA256`. -/
def expectedProtocolSha256 : String :=
  "bba37a4f3f5733bd51af35eae1286090dcd36929fbaf711a28ffccc0735819df"

/-- `derive_gate_results`, of the metrics. -/
def deriveGateResults (protocol metrics : Mapping) : Except Raised (List (String × GateResult)) :=
  Publication.deriveGateResults "metrics" protocol metrics

/-- The errors of the scenario manifest. -/
def manifestErrors (protocol scenarios : Mapping) (scenarioSha256 : String) : List String :=
  match protocol.get "scenario_manifest" with
  | .dict manifest =>
    let countErrors := match scenarios.get "scenarios" with
      | .list items =>
        flag (¬PyEq (count items.length) (Mapping.get manifest "scenario_count"))
          "scenario count differs from the frozen manifest"
      | _ => []
    flag (¬PyEq (.str scenarioSha256) (Mapping.get manifest "sha256"))
      "SCENARIOS.json bytes differ from the frozen manifest" ++ countErrors
  | _ => ["scenario_manifest is missing"]

/-- The published fields with what they must be. -/
def publishedFields (protocol run : Mapping) (requiredRuns : Json) (runPayloads : List Bytes)
    (protocolSha256 scenarioSha256 : String) : List (String × Json × String) :=
  [("schema_version", .str "carl.reliability-evaluation-publication.v1",
      "result publication schema_version mismatch"),
    ("protocol_id", protocol.get "protocol_id", "result protocol_id mismatch"),
    ("freeze_commit_sha", .str freezeCommitSha, "freeze commit mismatch"),
    ("protocol_sha256", .str protocolSha256, "published protocol SHA-256 mismatch"),
    ("scenario_manifest_sha256", .str scenarioSha256, "published scenario SHA-256 mismatch"),
    ("claim_boundary", protocol.get "claim_boundary",
      "published claim boundary differs from the frozen protocol"),
    ("metrics", run.get "metrics", "published metrics differ from the normalized run"),
    ("scenario_results", run.get "scenario_results",
      "published scenario results differ from the normalized run"),
    ("run_artifacts", expectedRuns "evals/reliability_v1" runPayloads,
      "published run-artifact identities differ from the executed runs"),
    ("reproduction", expectedReproduction requiredRuns runPayloads,
      "published reproduction summary differs from the executed runs")]

/-- The errors of a reliability publication. -/
def validate (protocol scenarios results : Mapping) (runPayloads : List Bytes)
    (protocolSha256 scenarioSha256 : String) : Except Raised (List String) :=
  match executionControls protocol with
  | .error message => .ok [message]
  | .ok (execution, requiredRuns) => do
    let (decodeErrors, normalized) ←
      normalizedRun "normalized run artifact is not valid JSON" runPayloads
    let run ← normalized.getter
    .ok (flag (¬PyEq (count runPayloads.length) requiredRuns)
        "published run count differs from the frozen requirement" ++
      flag (protocolSha256 ≠ expectedProtocolSha256)
        "PROTOCOL.json bytes differ from the frozen commit" ++
      manifestErrors protocol scenarios scenarioSha256 ++
      byteErrors execution runPayloads ++
      decodeErrors ++
      differing results
        (publishedFields protocol run requiredRuns runPayloads protocolSha256 scenarioSha256) ++
      gateErrors (deriveGateResults protocol) results run)

end ReliabilityV1

/-! ## The trace-integrity evaluation -/

namespace TraceIntegrityV1

variable [PayloadHash] [JsonLoads]

/-- `FREEZE_COMMIT_SHA`. -/
def freezeCommitSha : String :=
  "cee88ebde76d67e99721796bf292f553f88fb5a3"

/-- `EXPECTED_PROTOCOL_SHA256`. -/
def expectedProtocolSha256 : String :=
  "13c86ce5b0ad1a641d21491838780127d3b2d69e8ad1e2b9abbad6bdaf5a9ea4"

/-- `derive_gate_results`, of the detection gates. -/
def deriveGateResults (protocol metrics : Mapping) : Except Raised (List (String × GateResult)) :=
  Publication.deriveGateResults "detection_gates" protocol metrics

/-- The digests of the detector and its inputs. -/
structure FrozenDigests where
  baselines : String
  detector : String
  mutations : String
  schema : String

/-- `protocol["artifacts"][name]["sha256"]`. -/
def artifactSha256 (protocol : Mapping) (name : String) : Except Raised Json := do
  let artifacts ← (Json.dict protocol).subscript "artifacts"
  let artifact ← artifacts.subscript name
  artifact.subscript "sha256"

/-- The digests of the artifacts that the protocol names. -/
def expectedFrozenArtifacts (protocol : Mapping) : Except Raised Json := do
  let baselines ← artifactSha256 protocol "baseline_traces"
  let detector ← (Json.dict protocol).subscript "detector"
  let detectorSha256 ← detector.subscript "sha256"
  let mutations ← artifactSha256 protocol "mutation_corpus"
  let schema ← artifactSha256 protocol "trace_schema"
  .ok (.dict [("baseline_traces_sha256", baselines), ("detector_sha256", detectorSha256),
    ("mutation_corpus_sha256", mutations), ("trace_schema_sha256", schema)])

/-- The digests of the artifacts. -/
def actualFrozenArtifacts (digests : FrozenDigests) : Json :=
  .dict [("baseline_traces_sha256", .str digests.baselines),
    ("detector_sha256", .str digests.detector),
    ("mutation_corpus_sha256", .str digests.mutations),
    ("trace_schema_sha256", .str digests.schema)]

/-- The published fields with what they must be. -/
def publishedFields (protocol run : Mapping) (frozenArtifacts requiredRuns : Json)
    (runPayloads : List Bytes) (protocolSha256 : String) : List (String × Json × String) :=
  [("schema_version", .str "carl.trace-integrity-publication.v1",
      "result publication schema_version mismatch"),
    ("protocol_id", protocol.get "protocol_id", "result protocol_id mismatch"),
    ("freeze_commit_sha", .str freezeCommitSha, "freeze commit mismatch"),
    ("protocol_sha256", .str protocolSha256, "published protocol SHA-256 mismatch"),
    ("frozen_artifacts", frozenArtifacts,
      "published frozen-artifact identities differ from the frozen protocol"),
    ("claim_boundary", protocol.get "claim_boundary",
      "published claim boundary differs from the frozen protocol"),
    ("metrics", run.get "metrics", "published metrics differ from the normalized run"),
    ("clean_results", run.get "clean_results",
      "published clean results differ from the normalized run"),
    ("mutation_results", run.get "mutation_results",
      "published mutation results differ from the normalized run"),
    ("run_artifacts", expectedRuns "evals/trace_integrity_v1" runPayloads,
      "published run-artifact identities differ from the executed runs"),
    ("reproduction", expectedReproduction requiredRuns runPayloads,
      "published reproduction summary differs from the executed runs")]

/-- The errors of a trace-integrity publication. -/
def validate (protocol results : Mapping) (runPayloads : List Bytes) (protocolSha256 : String)
    (digests : FrozenDigests) : Except Raised (List String) :=
  match executionControls protocol with
  | .error message => .ok [message]
  | .ok (execution, requiredRuns) => do
    let frozenArtifacts ← expectedFrozenArtifacts protocol
    let (decodeErrors, normalized) ←
      normalizedRun "normalized run artifact is not valid JSON" runPayloads
    let run ← normalized.getter
    .ok (flag (¬PyEq (count runPayloads.length) requiredRuns)
        "published run count differs from the frozen requirement" ++
      flag (protocolSha256 ≠ expectedProtocolSha256)
        "PROTOCOL.json bytes differ from the frozen commit" ++
      flag (¬PyEq (actualFrozenArtifacts digests) frozenArtifacts)
        "frozen detector or input bytes differ from PROTOCOL.json" ++
      byteErrors execution runPayloads ++
      decodeErrors ++
      differing results
        (publishedFields protocol run frozenArtifacts requiredRuns runPayloads protocolSha256) ++
      gateErrors (deriveGateResults protocol) results run)

end TraceIntegrityV1

end ReliabilityLab
