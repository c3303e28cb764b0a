import ReliabilityLab.TraceIntegrity

/-!
# The release gate

`evaluateManifest` composes published evidence : each source of the manifest is evaluated
against its pinned files, commits and verifier, and the release is ready if the required
number of sources pass.

The gate leaves out the entries of the manifest that are not objects before it counts, and
counts an entry as often as it stands there. `manifest_failsClosed_iff` says when readiness means
what it should of every entry : the manifest has objects only, of pairwise different ids,
or its objects do not meet the gate.
-/

set_option linter.unusedSectionVars false

open Serial

namespace ReliabilityLab

open Json

open TraceIntegrity (sortedSet sortedSet_eq_nil)

namespace ReleaseGate

/-! ## One source -/

/-- The files of the repository, its pinned blobs, and the verifiers' return codes and
outputs. -/
structure Environment where
  file : String → Option Bytes
  gitBlob : String → String → Option Bytes
  runVerifier : String → Int × String

/-- The checks of a source with their outcomes, and the errors. -/
structure Findings where
  checks : Mapping
  errors : List String

instance : Append Findings where
  append a b := ⟨a.checks ++ b.checks, a.errors ++ b.errors⟩

/-- The check `name`, with its error if it did not pass. -/
def check (name : String) (passed : Bool) (error : String) : Findings :=
  ⟨[(name, .bool passed)], if passed then [] else [error]⟩

/-- The result of one source. -/
structure SourceResult where
  sourceId : String
  passed : Bool
  checks : Mapping
  errors : List String
  deriving DecidableEq

/-- The entry of a source in a run. -/
def SourceResult.toMapping (result : SourceResult) : Mapping :=
  [("source_id", .str result.sourceId), ("passed", .bool result.passed),
    ("checks", .dict result.checks), ("errors", .list (result.errors.map .str))]

section evaluate

variable [PayloadHash] [JsonLoads] [PyRepr]

/-- Whether the pinned blob is the expected one, with the error if not. -/
def checkBlobIdentity (env : Environment) (commit path expectedSha256 : String) :
    Bool × String :=
  match env.gitBlob commit path with
  | none => (false, "pinned_git_blob_missing")
  | some payload =>
    if PayloadHash.sha256Hexdigest payload ≠ expectedSha256 then
      (false, "pinned_git_blob_sha256_mismatch")
    else (true, "ok")

/-- The findings about one pinned file. -/
def identityFindings (env : Environment) (label : String) (commit relpath expectedSha : Json) :
    Findings :=
  match commit.nonemptyStr?, relpath.nonemptyStr?, expectedSha.nonemptyStr? with
  | some commit, some relpath, some expectedSha =>
    match env.file relpath with
    | none => check (label ++ "_present") false (label ++ "_missing")
    | some payload =>
      let (blobOk, blobError) := checkBlobIdentity env commit relpath expectedSha
      check (label ++ "_present") true (label ++ "_missing") ++
        check (label ++ "_current_sha256_matches")
          (PayloadHash.sha256Hexdigest payload = expectedSha)
          (label ++ "_current_sha256_mismatch") ++
        check (label ++ "_pinned_commit_sha256_matches") blobOk (label ++ "_" ++ blobError)
  | _, _, _ => check (label ++ "_identity_complete") false (label ++ "_identity_incomplete")

/-- The published result, if its file holds an object. -/
def publishedResult (env : Environment) (resultPath : Json) : Except Raised (Option Mapping) :=
  match resultPath with
  | .str path =>
    match env.file path with
    | none => .ok none
    | some payload =>
      match JsonLoads.loadsText payload with
      | .ok (.dict result) => .ok (some result)
      | .ok _ => .ok none
      | .error .jsonDecodeError => .ok none
      | .error (.other raised) => .error raised
  | _ => .ok none

/-- `isinstance(item, dict) and item.get("passed") is True`. -/
def gatePasses : Json → Bool
  | .dict item => Mapping.get item "passed" = .bool true
  | _ => false

/-- There are frozen gates, and all of them passed. -/
def gatesOk : Json → Bool
  | .dict gates => gates ≠ [] ∧ ∀ gate ∈ sortedItems gates, gatePasses gate.2 = true
  | _ => false

/-- The runs recorded are those required, and enough of them. -/
def runsSatisfied (reproduction criteria : Mapping) : Bool :=
  ∃ required ∈ (reproduction.get "independent_runs_required").intValue?,
    ∃ recorded ∈ (reproduction.get "independent_runs_recorded").intValue?,
      ∃ minimum ∈ (criteria.get "minimum_source_independent_runs").intValue?,
        minimum ≤ required ∧ recorded = required

/-- The checks of the reproduction of a result. -/
def reproductionFindings (criteria : Mapping) (reproduction : Json) : Findings :=
  match reproduction with
  | .dict reproduction =>
    check "reproduction_object_present" true "reproduction_missing" ++
      check "source_independent_runs_satisfied" (runsSatisfied reproduction criteria)
        "source_independent_runs_not_satisfied" ++
      check "source_normalized_output_byte_identical"
        (Mapping.get reproduction "normalized_output_byte_identical" = .bool true)
        "source_normalized_output_not_byte_identical"
  | _ => check "reproduction_object_present" false "reproduction_missing"

/-- The result's field `key` is the expected one. -/
def matchFindings (result : Mapping) (key : String) (expected : Json) : Findings :=
  check ("result_" ++ key ++ "_matches") (PyEq (result.get key) expected)
    ("result_" ++ key ++ "_mismatch")

/-- The findings about the published result. -/
def resultFindings (source criteria : Mapping) : Option Mapping → Findings
  | none => check "result_json_valid" false "result_json_invalid"
  | some result =>
    check "result_json_valid" true "result_json_invalid" ++
      matchFindings result "schema_version" (source.get "result_schema_version") ++
      matchFindings result "protocol_id" (source.get "protocol_id") ++
      matchFindings result "freeze_commit_sha" (source.get "freeze_commit_sha") ++
      matchFindings result "protocol_sha256" (source.get "protocol_sha256") ++
      check "source_disposition_passes"
        (PyEq (result.get "aggregate_disposition") (criteria.get "required_source_disposition"))
        "source_disposition_not_release_ready" ++
      check "all_frozen_source_gates_pass" (gatesOk (result.get "frozen_gates"))
        "frozen_source_gate_failure" ++
      reproductionFindings criteria (result.get "reproduction")

/-- The source's own verifier returns zero. -/
def verifierOk (env : Environment) : Json → Bool
  | .str path => (env.file path).isSome && (env.runVerifier path).1 = 0
  | _ => false

/-- The id of a source. -/
def sourceIdOf (source : Mapping) : String :=
  ((source.get? "id").getD (.str "unknown")).toStr

/-- The findings about the pinned files of a source. -/
def identitiesFindings (env : Environment) (source : Mapping) : Findings :=
  identityFindings env "protocol" (source.get "freeze_commit_sha") (source.get "protocol_path")
      (source.get "protocol_sha256") ++
    identityFindings env "result" (source.get "result_commit_sha") (source.get "result_path")
      (source.get "result_sha256") ++
    identityFindings env "result_verifier" (source.get "result_commit_sha")
      (source.get "result_verifier_path") (source.get "result_verifier_sha256")

/-- The result with these findings. -/
def SourceResult.ofFindings (sourceId : String) (findings : Findings) : SourceResult where
  sourceId := sourceId
  passed := findings.errors = []
  checks := sortedItems findings.checks
  errors := sortedSet findings.errors

/-- Evaluate one source. -/
def evaluateSource (env : Environment) (source criteria : Mapping) :
    Except Raised SourceResult := do
  let result ← publishedResult env (source.get "result_path")
  .ok (.ofFindings (sourceIdOf source) (identitiesFindings env source ++
    resultFindings source criteria result ++
    check "source_result_verifier_passes" (verifierOk env (source.get "result_verifier_path"))
      "source_result_verifier_failed"))

/-! ## The manifest -/

/-- The results of the objects among the entries. -/
def evaluateSources (env : Environment) (criteria : Mapping) :
    List Json → Except Raised (List SourceResult)
  | [] => .ok []
  | .dict source :: sources => do
    let result ← evaluateSource env source criteria
    let results ← evaluateSources env criteria sources
    .ok (result :: results)
  | _ :: sources => evaluateSources env criteria sources

/-- The result of a release gate. -/
structure ReleaseRun where
  protocolId : Json
  evidenceSetId : Json
  sourceResults : List SourceResult
  countOk : Bool
  releaseReady : Bool
  deriving DecidableEq

/-- The document of a run. -/
def ReleaseRun.toMapping (run : ReleaseRun) : Mapping :=
  let passed := run.sourceResults.countP (·.passed)
  [("schema_version", .str "carl.combined-evidence-release-run.v1"),
    ("protocol_id", run.protocolId), ("evidence_set_id", run.evidenceSetId),
    ("metrics", .dict [("source_count", .int run.sourceResults.length),
      ("sources_passed", .int passed),
      ("sources_failed", .int (run.sourceResults.length - passed)),
      ("required_source_count_satisfied", .bool run.countOk)]),
    ("source_results", .list (run.sourceResults.map fun result => .dict result.toMapping)),
    ("release_ready", .bool run.releaseReady)]

/-- The required number of sources is `n`. -/
def countSatisfied (criteria : Mapping) (n : ℕ) : Bool :=
  ∃ required ∈ (criteria.get "required_source_count").intValue?, (n : Int) = required

/-- Evaluate an evidence manifest against the release criteria. -/
def evaluateManifest (env : Environment) (protocol evidence : Mapping) :
    Except Raised ReleaseRun :=
  match protocol.get "release_criteria", evidence.get "sources" with
  | .dict criteria, .list sources => do
    let sourceResults ← evaluateSources env criteria sources
    let countOk := countSatisfied criteria sourceResults.length
    let passedCount := sourceResults.countP (·.passed)
    .ok {
      protocolId := protocol.get "protocol_id"
      evidenceSetId := evidence.get "evidence_set_id"
      sourceResults := sourceResults
      countOk := countOk
      releaseReady := countOk && passedCount = sourceResults.length && sourceResults ≠ [] }
  | .dict _, _ => .error ⟨.typeError, "evidence sources must be a list"⟩
  | _, _ => .error ⟨.typeError, "release_criteria must be an object"⟩

/-! ## Readiness -/

/-- The source passes its evaluation. -/
def Passes (env : Environment) (criteria source : Mapping) : Prop :=
  ∃ result, evaluateSource env source criteria = .ok result ∧ result.passed = true

/-- The objects of the manifest meet the gate. -/
structure GateMet (env : Environment) (criteria : Mapping) (sources : List Json) : Prop where
  count : countSatisfied criteria (dictsOf sources).length = true
  nonempty : dictsOf sources ≠ []
  passing : ∀ source ∈ dictsOf sources, Passes env criteria source

/-- The manifest has objects only, of pairwise different ids. -/
structure Distinct (sources : List Json) : Prop where
  objects : ∀ source ∈ sources, ∃ entry, source = .dict entry
  ids : ((dictsOf sources).map sourceIdOf).Nodup

/-- Every entry of the manifest counts : there are as many as required, each an object that
passes, no two of one id. -/
structure FailsClosed (env : Environment) (criteria : Mapping) (sources : List Json) : Prop where
  count : countSatisfied criteria sources.length = true
  passing : ∀ source ∈ sources, ∃ entry, source = .dict entry ∧ Passes env criteria entry
  ids : ((dictsOf sources).map sourceIdOf).Nodup

/-- The results are those of the objects, in order. -/
theorem evaluateSources_eq_ok {env : Environment} {criteria : Mapping} {sources : List Json}
    {results : List SourceResult} (h : evaluateSources env criteria sources = .ok results) :
    List.Forall₂ (fun source result => evaluateSource env source criteria = .ok result)
      (dictsOf sources) results := by
  induction sources generalizing results with
  | nil =>
    obtain rfl := Except.ok.inj h
    exact .nil
  | cons source sources ih =>
    by_cases hdict : ∃ entry, source = .dict entry
    · obtain ⟨entry, rfl⟩ := hdict
      obtain ⟨result, hresult, h⟩ := bind_eq_ok.1 h
      obtain ⟨rest, hrest, h⟩ := bind_eq_ok.1 h
      obtain rfl := Except.ok.inj h
      exact .cons hresult (ih hrest)
    · have hskip : evaluateSources env criteria (source :: sources) =
          evaluateSources env criteria sources ∧
          dictsOf (source :: sources) = dictsOf sources := by
        rcases source with _ | _ | _ | _ | _ | _ | entry
        case dict => exact absurd ⟨entry, rfl⟩ hdict
        all_goals exact ⟨rfl, rfl⟩
      rw [hskip.1] at h
      rw [hskip.2]
      exact ih h

/-- All results pass exactly if all sources do. -/
theorem all_passed_iff {env : Environment} {criteria : Mapping} {entries : List Mapping}
    {results : List SourceResult}
    (h : List.Forall₂ (fun source result => evaluateSource env source criteria = .ok result)
      entries results) :
    (∀ result ∈ results, result.passed = true) ↔
      ∀ source ∈ entries, Passes env criteria source := by
  induction h with
  | nil => simp
  | @cons source result entries results hresult _ ih =>
    have hpasses : Passes env criteria source ↔ result.passed = true := by
      refine ⟨?_, fun hpassed => ⟨result, hresult, hpassed⟩⟩
      rintro ⟨result', hresult', hpassed⟩
      obtain rfl := Except.ok.inj (hresult.symm.trans hresult')
      exact hpassed
    rw [List.forall_mem_cons, List.forall_mem_cons, ih, hpasses]

/-- A run of the evaluator, by its parts. -/
theorem evaluateManifest_eq_ok {env : Environment} {protocol evidence criteria : Mapping}
    {sources : List Json} {run : ReleaseRun}
    (hcriteria : protocol.get "release_criteria" = .dict criteria)
    (hsources : evidence.get "sources" = .list sources)
    (h : evaluateManifest env protocol evidence = .ok run) :
    evaluateSources env criteria sources = .ok run.sourceResults ∧
      run.countOk = countSatisfied criteria run.sourceResults.length ∧
      (run.releaseReady = true ↔ run.countOk = true ∧
        (∀ result ∈ run.sourceResults, result.passed = true) ∧ run.sourceResults ≠ []) := by
  unfold evaluateManifest at h
  rw [hcriteria, hsources] at h
  obtain ⟨results, hresults, h⟩ := bind_eq_ok.1 h
  obtain rfl := Except.ok.inj h
  refine ⟨hresults, rfl, ?_⟩
  simp only [Bool.and_eq_true, decide_eq_true_eq, List.countP_eq_length, and_assoc]

/-- The release is ready exactly if the objects of the manifest meet the gate. -/
theorem ready_iff {env : Environment} {protocol evidence criteria : Mapping}
    {sources : List Json} {run : ReleaseRun}
    (hcriteria : protocol.get "release_criteria" = .dict criteria)
    (hsources : evidence.get "sources" = .list sources)
    (h : evaluateManifest env protocol evidence = .ok run) :
    run.releaseReady = true ↔ GateMet env criteria sources := by
  obtain ⟨hresults, hcount, hready⟩ := evaluateManifest_eq_ok hcriteria hsources h
  have heach := evaluateSources_eq_ok hresults
  have hlen := heach.length_eq
  have hnil : run.sourceResults ≠ [] ↔ dictsOf sources ≠ [] := by
    rw [← List.length_pos_iff, ← List.length_pos_iff, hlen]
  rw [hready, hcount, all_passed_iff heach, hnil, ← hlen]
  exact ⟨fun ⟨hcount, hpassing, hnonempty⟩ => ⟨hcount, hnonempty, hpassing⟩,
    fun hmet => ⟨hmet.count, hmet.passing, hmet.nonempty⟩⟩

theorem dictsOf_eq {sources : List Json} (h : ∀ source ∈ sources, ∃ entry, source = .dict entry) :
    sources = (dictsOf sources).map .dict := by
  induction sources with
  | nil => rfl
  | cons source sources ih =>
    rw [List.forall_mem_cons] at h
    obtain ⟨⟨entry, rfl⟩, hrest⟩ := h
    rw [dictsOf_dict, List.map_cons, ← ih hrest]

/-- Objects that meet the gate are all there is to the manifest exactly if it has nothing
else and no id twice. -/
theorem GateMet.closed_iff {env : Environment} {criteria : Mapping} {sources : List Json}
    (h : GateMet env criteria sources) : FailsClosed env criteria sources ↔ Distinct sources := by
  refine ⟨fun hclosed => ⟨fun source hsource => ?_, hclosed.ids⟩, fun hdistinct => ?_⟩
  · obtain ⟨entry, hentry, -⟩ := hclosed.passing source hsource
    exact ⟨entry, hentry⟩
  · have hlen : sources.length = (dictsOf sources).length := by
      conv_lhs => rw [dictsOf_eq hdistinct.objects, List.length_map]
    refine ⟨by rw [hlen]; exact h.count, fun source hsource => ?_, hdistinct.ids⟩
    obtain ⟨entry, rfl⟩ := hdistinct.objects source hsource
    exact ⟨entry, rfl, h.passing entry (mem_dictsOf.2 hsource)⟩

/-- Readiness fails closed on every entry of the manifest exactly if, where the objects of
the manifest meet the gate, they are all there is to it and no two have one id. -/
theorem manifest_failsClosed_iff (env : Environment) (protocol evidence criteria : Mapping)
    (sources : List Json) (run : ReleaseRun)
    (hcriteria : protocol.get "release_criteria" = .dict criteria)
    (hsources : evidence.get "sources" = .list sources)
    (h : evaluateManifest env protocol evidence = .ok run) :
    (run.releaseReady = true → FailsClosed env criteria sources) ↔
      (GateMet env criteria sources → Distinct sources) := by
  rw [ready_iff hcriteria hsources h]
  exact forall_congr' fun hmet => hmet.closed_iff

end evaluate

/-! ## Two sources -/

/-- The frozen release criteria. -/
def frozenCriteria : Mapping :=
  [("minimum_source_independent_runs", .int 2),
    ("require_current_result_bytes_match_pinned_commit", .bool true),
    ("require_exact_result_commit_identity", .bool true),
    ("require_source_frozen_gates_all_pass", .bool true),
    ("require_source_independent_runs_satisfied", .bool true),
    ("require_source_normalized_output_byte_identical", .bool true),
    ("require_source_result_protocol_identity_match_manifest", .bool true),
    ("require_source_result_verifier_pass", .bool true), ("required_source_count", .int 2),
    ("required_source_disposition", .str "pass")]

/-- A protocol with the frozen criteria. -/
def sampleProtocol : Mapping :=
  [("protocol_id", .str "combined-evidence-release-v1-20260916"),
    ("release_criteria", .dict frozenCriteria)]

/-- The digest of an empty object, the protocol file of the sample sources. -/
def protocolDigest : String :=
  "44136fa355b3678a1146ad16f7e8649e94fb4fc21fe77e8310c060f61caaff8a"

/-- The digest of `resultPayload`. -/
def resultDigest : String :=
  "c053bb9cdb40b39a946e7ad8b202c009411553e2ec5681136f63d85abfb32bac"

/-- The digest of the empty verifier of the sample sources. -/
def verifierDigest : String :=
  "e3b0c44298fc1c149afbf4c8996fb92427ae41e4649b934ca495991b7852b855"

/-- The text of an empty object. -/
def protocolPayload : Bytes :=
  [123, 125]

/-- A published result that passes. -/
def sampleResult : Mapping :=
  [("aggregate_disposition", .str "pass"), ("freeze_commit_sha", .str "f11c5d4"),
    ("frozen_gates", .dict [("scenario_pass_rate", .dict [("passed", .bool true)])]),
    ("protocol_id", .str "core-reliability-v1"), ("protocol_sha256", .str protocolDigest),
    ("reproduction", .dict [("independent_runs_recorded", .int 2),
      ("independent_runs_required", .int 2),
      ("normalized_output_byte_identical", .bool true)]),
    ("schema_version", .str "v1")]

/-- The text of `sampleResult`. -/
def resultPayload : Bytes :=
  ("\x7b\"aggregate_disposition\": \"pass\", \"freeze_commit_sha\": \"f11c5d4\", " ++
    "\"frozen_gates\": \x7b\"scenario_pass_rate\": \x7b\"passed\": true\x7d\x7d, " ++
    "\"protocol_id\": \"core-reliability-v1\", \"protocol_sha256\": \"" ++ protocolDigest ++
    "\", \"reproduction\": \x7b\"independent_runs_recorded\": 2, " ++
    "\"independent_runs_required\": 2, \"normalized_output_byte_identical\": true\x7d, " ++
    "\"schema_version\": \"v1\"\x7d").toUTF8.data.toList

/-- The files of a source. -/
def sampleFile (path : String) : Option Bytes :=
  if path = "PROTOCOL.json" then some protocolPayload
  else if path = "RESULTS.json" then some resultPayload
  else if path = "verify_results.py" then some []
  else none

/-- A repository whose commits all hold its present files, with verifiers that succeed. -/
def sampleEnvironment : Environment where
  file := sampleFile
  gitBlob _ path := sampleFile path
  runVerifier _ := (0, "PASS")

/-- A digest that is right on these files. -/
@[reducible] def sampleHash : PayloadHash where
  sha256Hexdigest payload :=
    if payload = [] then verifierDigest
    else if payload = protocolPayload then protocolDigest
    else resultDigest

/-- The object in the result file. -/
@[reducible] def sampleLoads : JsonLoads where
  loads _ := .ok (.dict sampleResult)
  loadsText _ := .ok (.dict sampleResult)

/-- A source that passes. -/
def sampleSource (id : String) : Mapping :=
  [("freeze_commit_sha", .str "f11c5d4"), ("id", .str id),
    ("protocol_id", .str "core-reliability-v1"), ("protocol_path", .str "PROTOCOL.json"),
    ("protocol_sha256", .str protocolDigest), ("result_commit_sha", .str "be63a2d"),
    ("result_path", .str "RESULTS.json"), ("result_schema_version", .str "v1"),
    ("result_sha256", .str resultDigest), ("result_verifier_path", .str "verify_results.py"),
    ("result_verifier_sha256", .str verifierDigest)]

/-- The readiness of a manifest of the sample sources. -/
def sampleReady (sources : List Json) : Except Raised Bool :=
  letI := sampleHash
  letI := sampleLoads
  letI := plainRepr
  ReleaseRun.releaseReady <$>
    evaluateManifest sampleEnvironment sampleProtocol [("sources", .list sources)]

theorem manifest_failsClosed_iff_sample :
    letI := sampleHash
    letI := sampleLoads
    letI := plainRepr
    FailsClosed sampleEnvironment frozenCriteria
      [.dict (sampleSource "core_reliability_v1"), .dict (sampleSource "trace_integrity_v1")] := by
  let := sampleHash
  let := sampleLoads
  let := plainRepr
  have hready : sampleReady [.dict (sampleSource "core_reliability_v1"),
      .dict (sampleSource "trace_integrity_v1")] = .ok true := by decide +kernel
  obtain ⟨run, hrun, hready⟩ := map_eq_ok.1 hready
  refine (manifest_failsClosed_iff sampleEnvironment sampleProtocol _ frozenCriteria
    [.dict (sampleSource "core_reliability_v1"), .dict (sampleSource "trace_integrity_v1")] run
    rfl rfl hrun).2 (fun _ => ⟨?_, by decide⟩) hready
  simp

/-- One source twice makes a release ready, and so do two sources with an entry that is not
an object. -/
theorem repeated_and_malformed_ready :
    letI := sampleHash
    letI := sampleLoads
    letI := plainRepr
    let repeated := [Json.dict (sampleSource "core_reliability_v1"),
      .dict (sampleSource "core_reliability_v1")]
    let malformed := [Json.dict (sampleSource "core_reliability_v1"),
      .dict (sampleSource "trace_integrity_v1"), .str "trace_integrity_v1"]
    sampleReady repeated = .ok true ∧
      ¬FailsClosed sampleEnvironment frozenCriteria repeated ∧
      sampleReady malformed = .ok true ∧
      ¬FailsClosed sampleEnvironment frozenCriteria malformed := by
  let := sampleHash
  let := sampleLoads
  let := plainRepr
  refine ⟨?_, fun h => ?_, ?_, fun h => ?_⟩
  · decide +kernel
  · have hids := h.ids
    revert hids
    decide
  · decide +kernel
  · have hcount := h.count
    revert hcount
    decide

end ReleaseGate

end ReliabilityLab
