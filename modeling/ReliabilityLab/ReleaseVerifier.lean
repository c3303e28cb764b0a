import ReliabilityLab.Documents
import ReliabilityLab.Publications
import ReliabilityLab.ReleaseGate

/-!
# The release publication

`validate` compares the published release with its run artifacts and derives the
readiness again, from the metrics and source results of the run.

`derived_readiness_iff` : what it derives from a run of the evaluator is the readiness
of the run, unless no source is required and the manifest has no object. There the evaluator
refuses the empty release and the verifier, which has no such check, takes it for ready.
-/

set_option linter.unusedSectionVars false

open Serial

namespace ReliabilityLab

open Json

open TraceIntegrity (flag flag_eq_nil sortedSet_eq_nil)

open Publication (byteEqual normalizedRun expectedRuns expectedReproduction differing)

namespace ReleaseGate

/-- `FREEZE`. -/
def freeze : String :=
  "ac90e062d55f51afbf54eb8aa9ce0134b902377b"

/-- `P_SHA`. -/
def pSha : String :=
  "3aea2286f57b832490bbe85479d042ffa525877dd99d521f69286e6494097ca1"

/-- `E_SHA`. -/
def eSha : String :=
  "99438a2c2ab2cef784df4d3a51ad7f114d695509d657ca25c502f8d74d15397f"

/-- `V_SHA`. -/
def vSha : String :=
  "a0a2ca7c771312d70b4bd5f582c0db0ec272855c67e2d95aa136c03745e106c4"

/-- The frozen files of the release gate. -/
structure GateFiles where
  protocol : Bytes
  evidence : Bytes
  evaluator : Bytes

/-- `s.get("passed") is True and not s.get("errors")`. -/
def sourcePassed (source : Json) : Except Raised Bool := do
  let result ← source.getter
  .ok (result.get "passed" = .bool true && !(result.get "errors").truthy)

/-- `all(...)` over the source results. -/
def allPassed : List Json → Except Raised Bool
  | [] => .ok true
  | source :: sources => do
    let passed ← sourcePassed source
    if passed then allPassed sources else .ok false

/-- The items that `len` counts and a loop visits. -/
def sized : Json → Except Raised (List Json)
  | .list items => .ok items
  | .str text => .ok (text.toList.map fun c => .str (String.singleton c))
  | .dict members => .ok ((sortedItems members).map fun member => .str member.1)
  | value => .error ⟨.typeError, "object of type '" ++ value.typeName ++ "' has no len()"⟩

/-- The readiness that the source results and metrics of a run amount to. -/
def derivedReadiness (protocol run : Mapping) : Except Raised Bool := do
  let found := run.get "source_results"
  let sources := if found.truthy then found else .list []
  let metrics ← ((run.get? "metrics").getD (.dict [])).getter
  if (metrics.get "required_source_count_satisfied").truthy then
    let items ← sized sources
    let criteria ← (Json.dict protocol).subscript "release_criteria"
    let required ← criteria.subscript "required_source_count"
    if PyEq (count items.length) required then allPassed items else .ok false
  else .ok false

/-- The error of a run whose readiness is not the derived one. -/
def readinessDiffers : String :=
  "normalized release_ready differs from frozen composition criteria"

section verify

variable [PayloadHash] [JsonLoads]

/-- The published fields with what they must be. -/
def publishedFields (run : Mapping) (protocolId claimBoundary : Json) :
    List (String × Json × String) :=
  [("schema_version", Json.str "carl.combined-evidence-release-publication.v1"),
    ("protocol_id", protocolId), ("freeze_commit_sha", .str freeze),
    ("protocol_sha256", .str pSha), ("evidence_manifest_sha256", .str eSha),
    ("evaluator_sha256", .str vSha), ("release_ready", run.get "release_ready"),
    ("metrics", run.get "metrics"), ("source_results", run.get "source_results"),
    ("claim_boundary", claimBoundary)].map fun field =>
      (field.1, field.2, "published " ++ field.1 ++ " mismatch")

/-- The errors of a release publication. -/
def validate (files : GateFiles) (protocol results : Mapping) (runs : List Bytes) :
    Except Raised (List String) := do
  let execution ← (Json.dict protocol).subscript "execution"
  let required ← execution.subscript "independent_runs_required"
  let byteEqualRequired ← execution.subscript "normalized_output_byte_equal_required"
  let (decodeErrors, normalized) ← normalizedRun "run artifact invalid JSON" runs
  let protocolId ← (Json.dict protocol).subscript "protocol_id"
  let run ← normalized.getter
  let claimBoundary ← (Json.dict protocol).subscript "claim_boundary"
  let derived ← derivedReadiness protocol run
  .ok (flag (PayloadHash.sha256Hexdigest files.protocol ≠ pSha ∨
        PayloadHash.sha256Hexdigest files.evidence ≠ eSha ∨
        PayloadHash.sha256Hexdigest files.evaluator ≠ vSha)
      "frozen protocol/evidence/evaluator identity drift" ++
    flag (¬PyEq (count runs.length) required)
      "published run count differs from frozen requirement" ++
    flag (byteEqualRequired.truthy = true ∧ byteEqual runs = false)
      "independent outputs are not byte-identical" ++
    decodeErrors ++
    differing results (publishedFields run protocolId claimBoundary) ++
    differing results
      [("reproduction", expectedReproduction required runs, "reproduction summary mismatch"),
        ("run_artifacts", expectedRuns "evals/release_gate_v1" runs,
          "run artifact identities mismatch")] ++
    flag (run.get "release_ready" ≠ .bool derived) readinessDiffers)

end verify

/-! ## Runs of the evaluator -/

/-- The release requires no source, and the manifest has no object. -/
structure EmptyRelease (criteria : Mapping) (sources : List Json) : Prop where
  required : (criteria.get "required_source_count").intValue? = some 0
  sources : dictsOf sources = []

theorem subscript_of_get {members : Mapping} {key : String} {value : Json}
    (h : members.get key = value) (hvalue : value ≠ .null) :
    (Json.dict members).subscript key = .ok value := by
  unfold subscript
  simp only [Mapping.get?_eq_some_of_get h hvalue]

/-- A source result as it reads back. -/
def readResult (result : SourceResult) : Json :=
  .dict (sortKeysMembers result.toMapping)

theorem sourcePassed_readResult (result : SourceResult) :
    sourcePassed (readResult result) = .ok (result.passed && decide (result.errors = [])) := by
  have hpassed : Mapping.get (sortKeysMembers result.toMapping) "passed" =
      .bool result.passed := by
    rw [get_sortKeysMembers]
    rfl
  have herrors : Mapping.get (sortKeysMembers result.toMapping) "errors" =
      .list (result.errors.map .str) := by
    rw [get_sortKeysMembers]
    have hget : Mapping.get result.toMapping "errors" = .list (result.errors.map .str) := rfl
    rw [hget, sortKeys, sortKeysList_eq_map, List.map_map]
    rfl
  have htruthy : (Json.list (result.errors.map .str)).truthy = !decide (result.errors = []) := by
    simp [truthy]
  simp only [sourcePassed, readResult, getter, ok_bind, hpassed, herrors, htruthy]
  rcases result.passed with _ | _ <;> simp

/-- The errors of a source tell whether it passed. -/
theorem passed_iff_errors [PayloadHash] [JsonLoads] [PyRepr] {env : Environment}
    {source criteria : Mapping} {result : SourceResult}
    (h : evaluateSource env source criteria = .ok result) :
    result.passed = true ↔ result.errors = [] := by
  obtain ⟨published, -, h⟩ := bind_eq_ok.1 h
  obtain rfl := Except.ok.inj h
  rw [SourceResult.ofFindings, decide_eq_true_iff, sortedSet_eq_nil]

theorem allPassed_readResults {results : List SourceResult}
    (h : ∀ result ∈ results, result.passed = true ↔ result.errors = []) :
    allPassed (results.map readResult) =
      .ok (decide (∀ result ∈ results, result.passed = true)) := by
  induction results with
  | nil => simp [allPassed]
  | cons result results ih =>
    rw [List.forall_mem_cons] at h
    rw [List.map_cons, allPassed, sourcePassed_readResult, ok_bind]
    rcases hpassed : result.passed with _ | _
    · simp [hpassed]
    · have herrors : result.errors = [] := h.1.1 hpassed
      simp only [herrors, decide_true, Bool.and_true, if_true, ih h.2, List.forall_mem_cons,
        hpassed, true_and]

/-- What the verifier derives from a run of the evaluator that it reads back. -/
theorem derivedReadiness_of_run {protocol criteria : Mapping} {run : ReleaseRun}
    (hcriteria : protocol.get "release_criteria" = .dict criteria)
    (hcount : run.countOk = countSatisfied criteria run.sourceResults.length)
    (herrors : ∀ result ∈ run.sourceResults, result.passed = true ↔ result.errors = []) :
    derivedReadiness protocol (sortKeysMembers run.toMapping) =
      .ok (run.countOk && decide (∀ result ∈ run.sourceResults, result.passed = true)) := by
  have hsources : Mapping.get (sortKeysMembers run.toMapping) "source_results" =
      .list (run.sourceResults.map readResult) := by
    rw [get_sortKeysMembers]
    have hget : Mapping.get run.toMapping "source_results" =
        .list (run.sourceResults.map fun result => .dict result.toMapping) := rfl
    rw [hget, sortKeys, sortKeysList_eq_map, List.map_map]
    refine congrArg Json.list (List.map_congr_left fun result _ => ?_)
    rw [Function.comp, sortKeys]
    rfl
  obtain ⟨metrics, hmetrics, hsatisfied⟩ : ∃ metrics : Mapping,
      Mapping.get? (sortKeysMembers run.toMapping) "metrics" = some (.dict metrics) ∧
        metrics.get "required_source_count_satisfied" = .bool run.countOk := by
    rw [get?_sortKeysMembers]
    refine ⟨_, rfl, ?_⟩
    rw [get_sortKeysMembers]
    rfl
  have hfound : (if (Json.list (run.sourceResults.map readResult)).truthy = true then
      Json.list (run.sourceResults.map readResult) else .list []) =
        .list (run.sourceResults.map readResult) := by
    rcases run.sourceResults with _ | ⟨result, results⟩ <;> simp [truthy]
  unfold derivedReadiness
  simp only [hsources, hmetrics, Option.getD_some, getter, ok_bind, hsatisfied, hfound]
  rcases hok : run.countOk with _ | _
  · simp [truthy]
  · rw [hok] at hcount
    obtain ⟨required, hrequired, hlen⟩ : ∃ required,
        (criteria.get "required_source_count").intValue? = some required ∧
          (run.sourceResults.length : Int) = required := by
      simpa [countSatisfied] using hcount.symm
    have hvalue : criteria.get "required_source_count" ≠ .null := by
      intro hnull
      simp [hnull, intValue?] at hrequired
    have heq : PyEq (count run.sourceResults.length) (criteria.get "required_source_count") :=
      (pyEq_of_intValue? rfl hrequired).2 hlen
    simp only [truthy, if_true, sized, ok_bind, subscript_of_get hcriteria (by simp),
      subscript_of_get rfl hvalue, List.length_map, if_pos heq, allPassed_readResults herrors,
      Bool.true_and]

section agree

variable [PayloadHash] [JsonLoads] [PyRepr]

theorem passed_iff_errors_of_mem {env : Environment} {criteria : Mapping} {sources : List Json}
    {results : List SourceResult} (h : evaluateSources env criteria sources = .ok results) :
    ∀ result ∈ results, result.passed = true ↔ result.errors = [] := by
  have heach := evaluateSources_eq_ok h
  clear h
  generalize dictsOf sources = entries at heach
  induction heach with
  | nil => simp
  | cons hresult _ ih => exact List.forall_mem_cons.2 ⟨passed_iff_errors hresult, ih⟩

theorem not_mem_flag {c : Prop} [Decidable c] {name : String} (h : name ≠ readinessDiffers) :
    readinessDiffers ∉ flag c name := by
  unfold flag
  split_ifs <;> simp [h.symm]

theorem not_mem_differing {results : Mapping} {fields : List (String × Json × String)}
    (h : ∀ field ∈ fields, field.2.2 ≠ readinessDiffers) :
    readinessDiffers ∉ differing results fields := by
  intro hmem
  obtain ⟨field, hfield, hmem⟩ := List.mem_flatMap.1 hmem
  exact not_mem_flag (h field hfield) hmem

/-- The last error stands for a readiness that is not the derived one, and no other does. -/
theorem readinessDiffers_mem {files : GateFiles} {protocol results run : Mapping}
    {payload : Bytes} {runs : List Bytes} {errors : List String} {derived : Bool}
    (hloads : JsonLoads.loads payload = .ok (.dict run))
    (hderived : derivedReadiness protocol run = .ok derived)
    (h : validate files protocol results (payload :: runs) = .ok errors) :
    readinessDiffers ∈ errors ↔ run.get "release_ready" ≠ .bool derived := by
  have hnormalized : normalizedRun "run artifact invalid JSON" (payload :: runs) =
      .ok ([], .dict run) := by
    simp only [normalizedRun, hloads]
  unfold validate at h
  obtain ⟨execution, -, h⟩ := bind_eq_ok.1 h
  obtain ⟨required, -, h⟩ := bind_eq_ok.1 h
  obtain ⟨byteEqualRequired, -, h⟩ := bind_eq_ok.1 h
  rw [hnormalized, ok_bind] at h
  obtain ⟨protocolId, -, h⟩ := bind_eq_ok.1 h
  simp only [getter, ok_bind] at h
  obtain ⟨claimBoundary, -, h⟩ := bind_eq_ok.1 h
  rw [hderived, ok_bind] at h
  obtain rfl := Except.ok.inj h
  rw [List.mem_append, or_iff_right]
  · unfold flag
    split_ifs with hdiffers <;> simp [hdiffers]
  · simp only [List.mem_append, not_or]
    refine ⟨⟨⟨⟨⟨?_, ?_⟩, ?_⟩, ?_⟩, ?_⟩, ?_⟩
    · exact not_mem_flag (by decide)
    · exact not_mem_flag (by decide)
    · exact not_mem_flag (by decide)
    · exact List.not_mem_nil
    · exact not_mem_differing (by simp [publishedFields, readinessDiffers])
    · exact not_mem_differing (by simp [readinessDiffers])

/-- The verifier returns on a run from which it derives a readiness. -/
theorem validate_returns (files : GateFiles) {protocol run : Mapping} (results : Mapping)
    {payload : Bytes} (runs : List Bytes) {derived : Bool}
    {execution required byteEqualRequired protocolId claimBoundary : Json}
    (hloads : JsonLoads.loads payload = .ok (.dict run))
    (hderived : derivedReadiness protocol run = .ok derived)
    (hexecution : (Json.dict protocol).subscript "execution" = .ok execution)
    (hrequired : execution.subscript "independent_runs_required" = .ok required)
    (hbyteEqual : execution.subscript "normalized_output_byte_equal_required" =
      .ok byteEqualRequired)
    (hid : (Json.dict protocol).subscript "protocol_id" = .ok protocolId)
    (hboundary : (Json.dict protocol).subscript "claim_boundary" = .ok claimBoundary) :
    ∃ errors, validate files protocol results (payload :: runs) = .ok errors := by
  have hnormalized : normalizedRun "run artifact invalid JSON" (payload :: runs) =
      .ok ([], .dict run) := by
    simp only [normalizedRun, hloads]
  unfold validate
  simp only [hexecution, hrequired, hbyteEqual, hnormalized, hid, hboundary, getter, hderived,
    ok_bind]
  exact ⟨_, rfl⟩

/-- The verifier derives the readiness of a run of the evaluator that it reads back, and does
not find it different, exactly if the release is not empty. -/
theorem derived_readiness_iff (env : Environment) (protocol evidence criteria : Mapping)
    (sources : List Json) (run : ReleaseRun) (payload : Bytes)
    (hcriteria : protocol.get "release_criteria" = .dict criteria)
    (hsources : evidence.get "sources" = .list sources)
    (h : evaluateManifest env protocol evidence = .ok run)
    (hloads : JsonLoads.loads payload = .ok (sortKeys (.dict run.toMapping))) :
    ∃ derived, derivedReadiness protocol (sortKeysMembers run.toMapping) = .ok derived ∧
      (derived = run.releaseReady ↔ ¬EmptyRelease criteria sources) ∧
      ∀ files results runs errors,
        validate files protocol results (payload :: runs) = .ok errors →
        (readinessDiffers ∉ errors ↔ ¬EmptyRelease criteria sources) := by
  obtain ⟨hresults, hcount, hready⟩ := evaluateManifest_eq_ok hcriteria hsources h
  have hderived := derivedReadiness_of_run hcriteria hcount (passed_iff_errors_of_mem hresults)
  have hlen := (evaluateSources_eq_ok hresults).length_eq
  have hempty : EmptyRelease criteria sources ↔ run.countOk = true ∧ run.sourceResults = [] := by
    have hnil : dictsOf sources = [] ↔ run.sourceResults = [] := by
      rw [← List.length_eq_zero_iff, ← List.length_eq_zero_iff, hlen]
    rw [hcount]
    refine ⟨fun hempty => ?_, fun ⟨hok, hnone⟩ => ?_⟩
    · have hnone := hnil.1 hempty.sources
      refine ⟨?_, hnone⟩
      simp [countSatisfied, hnone, hempty.required]
    · refine ⟨?_, hnil.2 hnone⟩
      rw [hnone] at hok
      simpa [countSatisfied, eq_comm] using hok
  have hagree : (run.countOk && decide (∀ result ∈ run.sourceResults, result.passed = true)) =
      run.releaseReady ↔ ¬EmptyRelease criteria sources := by
    rw [hempty, Bool.eq_iff_iff, hready, Bool.and_eq_true, decide_eq_true_eq]
    refine ⟨fun hiff hnone => ?_, fun hnonempty => ?_⟩
    · have hall : ∀ result ∈ run.sourceResults, result.passed = true := by simp [hnone.2]
      exact (hiff.1 ⟨hnone.1, hall⟩).2.2 hnone.2
    · exact ⟨fun hok => ⟨hok.1, hok.2, fun hnone => hnonempty ⟨hok.1, hnone⟩⟩,
        fun hok => ⟨hok.1, hok.2.1⟩⟩
  refine ⟨_, hderived, hagree, fun files results runs errors hvalidate => ?_⟩
  have hrelease : Mapping.get (sortKeysMembers run.toMapping) "release_ready" =
      .bool run.releaseReady := by
    rw [get_sortKeysMembers]
    rfl
  rw [readinessDiffers_mem (by rw [hloads, sortKeys]) hderived hvalidate, hrelease, not_not,
    Json.bool.injEq, ← hagree, eq_comm]

end agree

/-! ## Sample runs -/

/-- The sample protocol with another number of required sources. -/
def protocolRequiring (n : Int) : Mapping :=
  [("claim_boundary", .dict []),
    ("execution", .dict [("independent_runs_required", .int 2),
      ("normalized_output_byte_equal_required", .bool true)]),
    ("protocol_id", .str "combined-evidence-release-v1-20260916"),
    ("release_criteria", .dict (frozenCriteria.set "required_source_count" (.int n)))]

/-- A run on the sample protocol. -/
def sampleRun (results : List SourceResult) : ReleaseRun where
  protocolId := .str "combined-evidence-release-v1-20260916"
  evidenceSetId := .str "combined-v1"
  sourceResults := results
  countOk := true
  releaseReady := false

/-- The text of a run. -/
def runPayload (run : ReleaseRun) : Bytes :=
  letI := plainRepr
  documentPayload (sortKeysMembers run.toMapping)

/-- The contents of the sample repository and of a run artifact. -/
def runContents (run : ReleaseRun) (sha256 : String) : List Content :=
  [⟨[], verifierDigest, none⟩, ⟨protocolPayload, protocolDigest, some []⟩,
    ⟨resultPayload, resultDigest, some sampleResult⟩,
    ⟨runPayload run, sha256, some (sortKeysMembers run.toMapping)⟩]

/-! One of two sources passes. -/

/-- The checks that are made of a source. -/
def checkNames : List String :=
  ["all_frozen_source_gates_pass", "protocol_current_sha256_matches",
    "protocol_pinned_commit_sha256_matches", "protocol_present", "reproduction_object_present",
    "result_current_sha256_matches", "result_freeze_commit_sha_matches", "result_json_valid",
    "result_pinned_commit_sha256_matches", "result_present", "result_protocol_id_matches",
    "result_protocol_sha256_matches", "result_schema_version_matches",
    "result_verifier_current_sha256_matches", "result_verifier_pinned_commit_sha256_matches",
    "result_verifier_present", "source_disposition_passes", "source_independent_runs_satisfied",
    "source_normalized_output_byte_identical", "source_result_verifier_passes"]

/-- A sample source, with another schema version. -/
def outdatedSource : Mapping :=
  (sampleSource "trace_integrity_v1").set "result_schema_version" (.str "v2")

/-- A manifest of two sources, of which the second is outdated. -/
def twoSources : Mapping :=
  [("evidence_set_id", .str "combined-v1"),
    ("sources", .list [.dict (sampleSource "core_reliability_v1"), .dict outdatedSource])]

/-- The run over the two sources. -/
def mixedRun : ReleaseRun :=
  sampleRun
    [⟨"core_reliability_v1", true, checkNames.map fun name => (name, .bool true), []⟩,
      ⟨"trace_integrity_v1", false,
        checkNames.map fun name => (name, .bool (name ≠ "result_schema_version_matches")),
        ["result_schema_version_mismatch"]⟩]

/-- The contents of the files, with the run of two sources. -/
def mixedArchive : Archive where
  rows := runContents mixedRun
    "171aa94eb1bd8c917722e112b4744f1fc621fb12d2283a061413e0ec1809593f"
  unique := by decide +kernel

theorem derived_readiness_iff_sample :
    letI := mixedArchive.payloadHash
    letI := mixedArchive.jsonLoads
    letI := plainRepr
    derivedReadiness (protocolRequiring 2) (sortKeysMembers mixedRun.toMapping) =
        .ok mixedRun.releaseReady ∧
      ∃ errors, validate ⟨protocolPayload, protocolPayload, []⟩ (protocolRequiring 2) []
          [runPayload mixedRun, runPayload mixedRun] = .ok errors ∧ readinessDiffers ∉ errors := by
  let := mixedArchive.payloadHash
  let := mixedArchive.jsonLoads
  let := plainRepr
  have hrun : evaluateManifest sampleEnvironment (protocolRequiring 2) twoSources =
      .ok mixedRun := by decide +kernel
  have hloads : JsonLoads.loads (runPayload mixedRun) =
      .ok (.dict (sortKeysMembers mixedRun.toMapping)) :=
    @Archive.document?_of_mem _ ⟨runPayload mixedRun, _, _⟩ _ (List.mem_of_getElem? (i := 3) rfl)
      rfl
  obtain ⟨derived, hderived, hagree, hmem⟩ := derived_readiness_iff sampleEnvironment
    (protocolRequiring 2) twoSources _ _ mixedRun (runPayload mixedRun) rfl rfl hrun hloads
  have hsome : ¬EmptyRelease (frozenCriteria.set "required_source_count" (.int 2))
      [.dict (sampleSource "core_reliability_v1"), .dict outdatedSource] := by
    rintro ⟨-, hnone⟩
    cases hnone
  obtain rfl := hagree.2 hsome
  have hcontrols : (Json.dict (protocolRequiring 2)).subscript "execution" =
      .ok (.dict [("independent_runs_required", .int 2),
        ("normalized_output_byte_equal_required", .bool true)]) := rfl
  obtain ⟨errors, herrors⟩ := validate_returns ⟨protocolPayload, protocolPayload, []⟩ []
    [runPayload mixedRun] hloads hderived hcontrols rfl rfl rfl rfl
  exact ⟨hderived, errors, herrors, (hmem _ _ _ errors herrors).2 hsome⟩

/-! No source is required and there is none. -/

/-- A manifest without sources. -/
def noSources : Mapping :=
  [("evidence_set_id", .str "combined-v1"), ("sources", .list [])]

/-- The run over the manifest without sources. -/
def emptyRun : ReleaseRun :=
  sampleRun []

/-- The contents of the files, with the run without sources. -/
def emptyArchive : Archive where
  rows := runContents emptyRun
    "cfb50c5ed90899a56292f8734f5ef3c9113d8501317318e2ef2823ec8e053f1d"
  unique := by decide +kernel

/-- The evaluator does not release an empty manifest of which no source is required, and the
verifier finds that readiness different from the one it derives. -/
theorem emptyRelease_differs :
    letI := emptyArchive.payloadHash
    letI := emptyArchive.jsonLoads
    letI := plainRepr
    evaluateManifest sampleEnvironment (protocolRequiring 0) noSources = .ok emptyRun ∧
      JsonLoads.loads (runPayload emptyRun) = .ok (sortKeys (.dict emptyRun.toMapping)) ∧
      emptyRun.releaseReady = false ∧
      derivedReadiness (protocolRequiring 0) (sortKeysMembers emptyRun.toMapping) = .ok true ∧
      ∃ errors, validate ⟨protocolPayload, protocolPayload, []⟩ (protocolRequiring 0) []
          [runPayload emptyRun, runPayload emptyRun] = .ok errors ∧ readinessDiffers ∈ errors := by
  let := emptyArchive.payloadHash
  let := emptyArchive.jsonLoads
  let := plainRepr
  refine ⟨rfl, ?_, rfl, ?_, ?_⟩
  · exact @Archive.document?_of_mem _ ⟨runPayload emptyRun, _, _⟩ _
      (List.mem_of_getElem? (i := 3) rfl) rfl
  · decide +kernel
  · have hmem : (fun errors => decide (readinessDiffers ∈ errors)) <$>
        validate ⟨protocolPayload, protocolPayload, []⟩ (protocolRequiring 0) []
          [runPayload emptyRun, runPayload emptyRun] = .ok true := by decide +kernel
    obtain ⟨errors, herrors, hmem⟩ := map_eq_ok.1 hmem
    exact ⟨errors, herrors, of_decide_eq_true hmem⟩

end ReleaseGate

end ReliabilityLab
