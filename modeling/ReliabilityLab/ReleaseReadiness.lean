import ReliabilityLab.PublishedTraces

/-!
# Readiness of a frozen release

What readiness means once `VerifyProtocol.main` has accepted the release gate.

`frozen_release_ready_iff` : then the manifest is two sources with the frozen ids, nothing is
wrong with a pinned file, and the release is ready exactly if every entry of the manifest is
one of as many passing sources as are required.

`ready_release_reproduces` : a ready release whose sources are the two evaluations, checked by
their own verifiers, rests on publications that pass, each of two or more identical run
artifacts whose metrics pass every gate of the evaluation's protocol.

`release_published` : what the verifier of the release derives from its run is the readiness,
and a publication without errors reports the sources and the readiness as they are.
-/

set_option linter.unusedSectionVars false

open Serial

namespace ReliabilityLab

open Json

open TraceIntegrity (mem_sortedSet flag_eq_nil)

open Publication

namespace ReleaseGate

section frozen

variable [JsonLoads] [PayloadHash] [PyRepr]

/-! ## An accepted release gate -/

/-- The release gate is of two sources with the frozen ids, whose pinned files are as pinned. -/
structure FrozenGate (env : Environment) (protocol evidence criteria : Mapping)
    (sources : List Mapping) : Prop where
  protocolFile : Files.object? env.file "evals/release_gate_v1/PROTOCOL.json" = some protocol
  evidenceFile : Files.object? env.file "evals/release_gate_v1/EVIDENCE.json" = some evidence
  execution : PyEq (protocol.get "execution") (frozenExecution "evals/release_gate_v1")
  releaseCriteria : protocol.get "release_criteria" = .dict criteria
  frozen : PyEq (.dict criteria) (.dict frozenCriteria)
  sourceList : evidence.get "sources" = .list (sources.map .dict)
  sourceIds : sources.map sourceIdOf = VerifyProtocol.expectedSourceIds
  identities : ∀ source ∈ sources, (identitiesFindings env source).errors = []

/-- A list of as many entries as texts of objects among them is of objects. -/
theorem dicts_of_length {items : List Json} (h : items.length = (dictsOf items).length) :
    items = (dictsOf items).map .dict := by
  induction items with
  | nil => rfl
  | cons item items ih =>
    have hle : (dictsOf items).length ≤ items.length := List.length_filterMap_le _ _
    rcases item with _ | _ | _ | _ | _ | _ | members
    case dict =>
      rw [dictsOf_dict, List.map_cons, ← ih (by simpa [dictsOf_dict] using h)]
    all_goals
      have hskip : (items.length + 1) = (dictsOf items).length := h
      omega

/-- The verifier finds nothing wrong with the identities exactly if they have no errors. -/
theorem verifySourceIdentities_eq_nil {env : Environment} {evidence : Mapping}
    {sources : List Mapping} (hsources : evidence.get "sources" = .list (sources.map .dict)) :
    verifySourceIdentities env evidence = [] ↔
      ∀ source ∈ sources, (identitiesFindings env source).errors = [] := by
  unfold verifySourceIdentities
  simp only [hsources, List.flatMap_map, List.flatMap_eq_nil_iff, verifySource, verifyIdentity_eq,
    List.append_eq_nil_iff, List.map_eq_nil_iff, identitiesFindings, errors_append_eq_nil,
    identityFindings_errors]

theorem frozenGate_of_accepted (hrepr : PyRepr.repr .null = "None") {env : Environment}
    (h : VerifyProtocol.main env = some []) :
    ∃ protocol evidence criteria sources, FrozenGate env protocol evidence criteria sources := by
  simp only [VerifyProtocol.main, Option.bind_eq_bind, Option.bind_eq_some_iff, Option.some.injEq,
    List.append_eq_nil_iff] at h
  obtain ⟨protocol, hprotocol, evidence, hevidence, -, -, -, -, -, -,
    ⟨⟨⟨hvalidate, -⟩, -⟩, -⟩, hidentities⟩ := h
  simp only [VerifyProtocol.validate, List.append_eq_nil_iff, differing_eq_nil,
    List.forall_mem_cons] at hvalidate
  obtain ⟨⟨⟨hfields, -⟩, -⟩, hsources⟩ := hvalidate
  obtain ⟨-, -, -, hcriteria, -, -, -, hexecution, -⟩ := hfields
  obtain ⟨criteria, hdict, -⟩ := hcriteria.dict
  rw [hdict] at hcriteria
  unfold VerifyProtocol.sourceErrors at hsources
  split at hsources
  · next items hitems =>
    simp only [List.append_eq_nil_iff, flag_eq_nil, not_not] at hsources
    obtain ⟨hids, hlen⟩ := hsources
    have hdicts : items = (dictsOf items).map .dict := by
      refine dicts_of_length ?_
      have hcount := congrArg List.length hids
      rw [textsOf, List.length_map] at hcount
      rw [hlen, hcount]
      rfl
    have hnull := ne_null_of_textsOf hrepr hids (by decide)
    refine ⟨protocol, evidence, criteria, dictsOf items, hprotocol, hevidence, hexecution, hdict,
      hcriteria, hitems.trans (congrArg Json.list hdicts), ?_, ?_⟩
    · rw [← hids, textsOf]
      refine List.map_congr_left fun source hmem => ?_
      rw [sourceIdOf, Mapping.get?_eq_some_of_get rfl (hnull source hmem), Option.getD_some]
    · exact (verifySourceIdentities_eq_nil (hitems.trans (congrArg Json.list hdicts))).1 hidentities
  · simp at hsources

/-- A source of an accepted gate has no error about its pinned files. -/
theorem evaluateSource_errors_subset {env : Environment} {source criteria : Mapping}
    {result : SourceResult} (hidentities : (identitiesFindings env source).errors = [])
    (h : evaluateSource env source criteria = .ok result) : result.errors ⊆ otherErrors := by
  obtain ⟨published, -, rfl⟩ := evaluateSource_eq_ok.1 h
  intro error hmem
  rw [SourceResult.ofFindings, mem_sortedSet, sourceFindings, Findings.append_errors,
    Findings.append_errors, hidentities, List.nil_append, List.mem_append] at hmem
  rcases hmem with hresult | hverifier
  · exact resultFindings_errors_subset source criteria published hresult
  · exact check_errors_subset (by decide) hverifier

theorem evaluateSource_sourceId {env : Environment} {source criteria : Mapping}
    {result : SourceResult} (h : evaluateSource env source criteria = .ok result) :
    result.sourceId = sourceIdOf source := by
  obtain ⟨published, -, rfl⟩ := evaluateSource_eq_ok.1 h
  rfl

variable {env : Environment} {protocol evidence criteria : Mapping} {sources : List Mapping}

/-- The entries of an accepted manifest are objects of different ids. -/
theorem FrozenGate.distinct (h : FrozenGate env protocol evidence criteria sources) :
    Distinct (sources.map .dict) := by
  refine ⟨List.forall_mem_map.2 fun source _ => ⟨source, rfl⟩, ?_⟩
  rw [dictsOf_map, h.sourceIds]
  decide

theorem FrozenGate.ne_nil (h : FrozenGate env protocol evidence criteria sources) :
    sources ≠ [] := by
  rintro rfl
  simpa [VerifyProtocol.expectedSourceIds] using h.sourceIds

/-- Every entry counts exactly if the gate is met, in whatever environment it is evaluated. -/
theorem FrozenGate.met_iff (h : FrozenGate env protocol evidence criteria sources)
    (later : Environment) : GateMet later criteria (sources.map .dict) ↔
      FailsClosed later criteria (sources.map .dict) := by
  refine ⟨fun hmet => hmet.closed_iff.2 h.distinct, fun hclosed => ?_⟩
  refine ⟨?_, ?_, fun source hmem => ?_⟩
  · rw [dictsOf_map, ← List.length_map (f := Json.dict)]
    exact hclosed.count
  · rw [dictsOf_map]
    exact h.ne_nil
  · obtain ⟨entry, heq, hpasses⟩ := hclosed.passing (.dict source) (mem_dictsOf.1 hmem)
    obtain rfl := Json.dict.inj heq
    exact hpasses

/-- The results of an accepted gate are those of its sources, in the frozen order. -/
theorem FrozenGate.results (h : FrozenGate env protocol evidence criteria sources)
    {later : Environment} {run : ReleaseRun}
    (hrun : evaluateManifest later protocol evidence = .ok run) :
    List.Forall₂ (fun source result => evaluateSource later source criteria = .ok result) sources
        run.sourceResults ∧
      run.sourceResults.map (·.sourceId) = VerifyProtocol.expectedSourceIds := by
  obtain ⟨hresults, -, -⟩ := evaluateManifest_eq_ok h.releaseCriteria h.sourceList hrun
  have heach := evaluateSources_eq_ok hresults
  rw [dictsOf_map] at heach
  refine ⟨heach, ?_⟩
  rw [← h.sourceIds, ← List.forall₂_eq_eq_eq, List.forall₂_map_left_iff,
    List.forall₂_map_right_iff]
  exact heach.flip.imp fun result source hresult => evaluateSource_sourceId hresult

/-- The result of a source that passes : all checks are made, and true. -/
def passingResult (source : Mapping) : SourceResult where
  sourceId := sourceIdOf source
  passed := true
  checks := sortedItems (sourceChecks.map fun name => (name, .bool true))
  errors := []

/-- The run of a release that is ready. -/
def readyRun (protocol evidence : Mapping) (sources : List Mapping) : ReleaseRun where
  protocolId := protocol.get "protocol_id"
  evidenceSetId := evidence.get "evidence_set_id"
  sourceResults := sources.map passingResult
  countOk := true
  releaseReady := true

theorem eq_passingResult {source : Mapping} {found : SourceResult}
    (h : evaluateSource env source criteria = .ok found) (hpassed : found.passed = true) :
    found = passingResult source := by
  obtain ⟨result, -, rfl⟩ := evaluateSource_eq_ok.1 h
  have hnone := ofFindings_passed.1 hpassed
  have hchecks := (sourceFindings_agrees env source criteria result).2.1 hnone
  simp only [SourceResult.ofFindings, passingResult, hnone, hchecks, decide_true]
  rfl

/-- A ready run says the same wherever the gate is evaluated. -/
theorem FrozenGate.eq_readyRun (h : FrozenGate env protocol evidence criteria sources)
    {later : Environment} {run : ReleaseRun}
    (hrun : evaluateManifest later protocol evidence = .ok run) (hready : run.releaseReady = true) :
    run = readyRun protocol evidence sources := by
  obtain ⟨heach, -⟩ := h.results hrun
  obtain ⟨-, -, hiff⟩ := evaluateManifest_eq_ok h.releaseCriteria h.sourceList hrun
  obtain ⟨hcount, hpassed, -⟩ := hiff.1 hready
  have hresults : run.sourceResults = sources.map passingResult := by
    rw [← List.forall₂_eq_eq_eq, List.forall₂_map_right_iff]
    refine (List.forall₂_iff_get.2 ⟨heach.length_eq.symm, fun i hi hi' => ?_⟩)
    exact eq_passingResult (List.forall₂_iff_get.1 heach |>.2 i hi' hi)
      (hpassed _ (List.get_mem _ _))
  unfold evaluateManifest at hrun
  rw [h.releaseCriteria, h.sourceList] at hrun
  obtain ⟨results, -, hrun⟩ := bind_eq_ok.1 hrun
  obtain rfl := Except.ok.inj hrun
  simp only [readyRun] at hcount hready hresults ⊢
  rw [hready, hcount, hresults]

/-- An accepted gate is evaluated source by source, in the frozen order and with no error about
a pinned file. It is ready exactly if every entry of the manifest counts, and then the run says
nothing of where it was made. -/
theorem frozen_release_ready_iff (hrepr : PyRepr.repr .null = "None") (env : Environment)
    (h : VerifyProtocol.main env = some []) :
    ∃ protocol evidence criteria sources, FrozenGate env protocol evidence criteria sources ∧
      ∀ run, evaluateManifest env protocol evidence = .ok run →
        run.sourceResults.map (·.sourceId) = VerifyProtocol.expectedSourceIds ∧
          (∀ result ∈ run.sourceResults, result.errors ⊆ otherErrors) ∧
          (run.releaseReady = true ↔ FailsClosed env criteria (sources.map .dict)) ∧
          (run.releaseReady = true → run = readyRun protocol evidence sources) := by
  obtain ⟨protocol, evidence, criteria, sources, hgate⟩ := frozenGate_of_accepted hrepr h
  refine ⟨protocol, evidence, criteria, sources, hgate, fun run hrun => ?_⟩
  obtain ⟨heach, hids⟩ := hgate.results hrun
  refine ⟨hids, fun result hmem => ?_, ?_, hgate.eq_readyRun hrun⟩
  · obtain ⟨k, hk⟩ := List.getElem?_of_mem hmem
    obtain ⟨source, hsource, hresult⟩ := exists_of_forall₂_getElem? heach hk
    exact evaluateSource_errors_subset
      (hgate.identities source (List.mem_of_getElem? hsource)) hresult
  · rw [ready_iff hgate.releaseCriteria hgate.sourceList hrun, hgate.met_iff]

/-! ## What a ready release rests on -/

/-- The publication in a directory passes : two or more run artifacts, all of them the same
bytes, whose metrics are the published ones and pass every gate of the protocol there. -/
def Reproduces (files : Files) (directory key : String) : Prop :=
  ∃ (protocol results run metrics : Mapping) (payload : Bytes) (n : ℕ)
      (derived : List (String × GateResult)),
    files.object? (directory ++ "/PROTOCOL.json") = some protocol ∧
    files.object? (directory ++ "/RESULTS.json") = some results ∧
    2 ≤ n ∧ (∀ index, 1 ≤ index → index ≤ n →
      files (artifactPath directory index) = some payload) ∧
    JsonLoads.loads payload = .ok (.dict run) ∧ run.get "metrics" = .dict metrics ∧
    PyEq (results.get "metrics") (.dict metrics) ∧
    results.get "aggregate_disposition" = .str "pass" ∧
    deriveGateResults key protocol metrics = .ok derived ∧ derived ≠ [] ∧
    ∀ gate ∈ derived, gate.2.passed = true

/-- What a publication verifier without errors has read and found of a directory. -/
def Verified (files : Files) (directory key : String) : Prop :=
  ∃ protocol results n runPayloads,
    files.object? (directory ++ "/PROTOCOL.json") = some protocol ∧
    files.object? (directory ++ "/RESULTS.json") = some results ∧
    files.runPayloads directory n = some runPayloads ∧ Accepts key protocol results runPayloads

theorem verified_of_reliability {files : Files}
    (h : ReliabilityV1.VerifyResults.main files = some []) :
    Verified files "evals/reliability_v1" "metrics" := by
  simp only [ReliabilityV1.VerifyResults.main, Option.bind_eq_bind, Option.bind_eq_some_iff,
    toOption_eq_some] at h
  obtain ⟨protocol, hprotocol, _, -, results, hresults, n, -, runPayloads, hruns, _, -, _, -,
    hvalidate⟩ := h
  exact ⟨protocol, results, n, runPayloads, hprotocol, hresults, hruns,
    ReliabilityV1.accepts_of_validate hvalidate⟩

theorem verified_of_trace {files : Files}
    (h : TraceIntegrityV1.VerifyResults.main files = some []) :
    Verified files "evals/trace_integrity_v1" "detection_gates" := by
  simp only [TraceIntegrityV1.VerifyResults.main, Option.bind_eq_bind, Option.bind_eq_some_iff,
    toOption_eq_some] at h
  obtain ⟨protocol, hprotocol, results, hresults, n, -, runPayloads, hruns, _, -, _, -, _, -, _,
    -, _, -, hvalidate⟩ := h
  exact ⟨protocol, results, n, runPayloads, hprotocol, hresults, hruns,
    TraceIntegrityV1.accepts_of_validate hvalidate⟩

/-- The runs that an accepted publication recorded are two or more, of the same bytes. -/
theorem runs_of_reproduced {reproduction : Mapping} {requiredRuns : Json}
    {runPayloads : List Bytes} (hfrozen : PyEq (.dict criteria) (.dict frozenCriteria))
    (hreproduced : Reproduced criteria reproduction)
    (h : PyEq (.dict reproduction) (expectedReproduction requiredRuns runPayloads)) :
    2 ≤ runPayloads.length ∧ byteEqual runPayloads = true := by
  obtain ⟨required, minimum, -, hrecorded, hminimum, hle⟩ := hreproduced.runs
  obtain ⟨_, heq, hget⟩ := PyEq.dict h
  obtain rfl := Json.dict.inj heq
  obtain ⟨_, heq, hfrozenGet⟩ := hfrozen.dict
  obtain rfl := Json.dict.inj heq
  have hlen : required = runPayloads.length := by
    have hnorm := hget "independent_runs_recorded"
    rw [norm_of_intValue? hrecorded] at hnorm
    exact Json.int.inj hnorm
  have htwo : minimum = 2 := by
    have hnorm := hfrozenGet "minimum_source_independent_runs"
    rw [norm_of_intValue? hminimum] at hnorm
    exact Json.int.inj hnorm
  refine ⟨by omega, ?_⟩
  have hnorm := hget "normalized_output_byte_identical"
  rw [hreproduced.identical] at hnorm
  rcases hidentical : byteEqual runPayloads with _ | _
  · have hzero : (1 : Int) = if byteEqual runPayloads then 1 else 0 := Json.int.inj hnorm
    simp [hidentical] at hzero
  · rfl

/-- Every artifact of runs of the same bytes is the first of them. -/
theorem artifact_of_byteEqual {files : Files} {directory : String} {n : Int} {payload : Bytes}
    {payloads : List Bytes} (h : files.runPayloads directory n = some (payload :: payloads))
    (hidentical : byteEqual (payload :: payloads) = true) {index : ℕ} (hpos : 1 ≤ index)
    (hle : index ≤ (payload :: payloads).length) :
    files (artifactPath directory index) = some payload := by
  obtain ⟨k, rfl⟩ := Nat.exists_eq_add_of_le' hpos
  obtain ⟨other, hother⟩ : ∃ other, (payload :: payloads)[k]? = some other :=
    ⟨_, List.getElem?_eq_getElem hle⟩
  have hsame : other = payload := by
    rcases List.mem_cons.1 (List.mem_of_getElem? hother) with rfl | hmem
    · rfl
    · exact of_decide_eq_true (List.all_eq_true.1 hidentical other hmem)
  rw [← hsame]
  exact (artifact_of_runPayloads h).2 k other hother

/-- A source that holds and whose verifier was right reproduces. -/
theorem reproduces_of_holds {directory key : String} {source published : Mapping}
    (hfrozen : PyEq (.dict criteria) (.dict frozenCriteria))
    (hholds : Holds env source criteria published)
    (hpath : source.get "result_path" = .str (directory ++ "/RESULTS.json"))
    (hverified : Verified env.file directory key) : Reproduces env.file directory key := by
  obtain ⟨protocol, results, n, runPayloads, hprotocol, hresults, hruns, requiredRuns, run,
    ⟨payload, payloads, rfl, hloads⟩, hmetrics, hreproduction, hgates⟩ := hverified
  obtain rfl : results = published := by
    obtain ⟨path, file, hresultPath, hfile, hpublished⟩ := hholds.file
    obtain rfl := Json.str.inj (hpath.symm.trans hresultPath)
    have hobject := Files.object?_eq_some.2 ⟨file, hfile, hpublished⟩
    exact Option.some.inj (hresults.symm.trans hobject)
  obtain ⟨reproduction, heq, hreproduced⟩ := hholds.fields.reproduction
  rw [heq] at hreproduction
  obtain ⟨htwo, hidentical⟩ := runs_of_reproduced hfrozen hreproduced hreproduction
  obtain ⟨metrics, derived, hrun, hderived, hdisposition⟩ := disposition_of_gateErrors hgates
  have hpass : results.get "aggregate_disposition" = .str "pass" := by
    obtain ⟨_, hcriteria, hget⟩ := hfrozen.dict
    obtain rfl := Json.dict.inj hcriteria
    have hrequired : criteria.get "required_source_disposition" = .str "pass" :=
      norm_eq_str.1 (hget "required_source_disposition")
    have hsame := hholds.fields.disposition
    rwa [hrequired, pyEq_str] at hsame
  rw [hpass, Json.str.injEq, eq_comm, disposition_eq_pass] at hdisposition
  rw [hrun] at hmetrics
  exact ⟨protocol, results, run, metrics, payload, _, derived, hprotocol, hresults, htwo,
    fun index => artifact_of_byteEqual hruns hidentical, hloads, hrun, hmetrics, hpass, hderived,
    hdisposition⟩

/-- A ready release of the two evaluations, whose verifiers return zero only where they find no
error, rests on publications that pass. -/
theorem ready_release_reproduces (hrepr : PyRepr.repr .null = "None") (env : Environment)
    (protocol evidence core trace : Mapping) (run : ReleaseRun)
    (haccepted : VerifyProtocol.main env = some [])
    (hprotocol : Files.object? env.file "evals/release_gate_v1/PROTOCOL.json" = some protocol)
    (hevidence : Files.object? env.file "evals/release_gate_v1/EVIDENCE.json" = some evidence)
    (hsources : evidence.get "sources" = .list [.dict core, .dict trace])
    (hcore : core.get "result_path" = .str "evals/reliability_v1/RESULTS.json")
    (htrace : trace.get "result_path" = .str "evals/trace_integrity_v1/RESULTS.json")
    (hcoreVerifier : ∀ path, core.get "result_verifier_path" = .str path →
      (env.runVerifier path).1 = 0 → ReliabilityV1.VerifyResults.main env.file = some [])
    (htraceVerifier : ∀ path, trace.get "result_verifier_path" = .str path →
      (env.runVerifier path).1 = 0 → TraceIntegrityV1.VerifyResults.main env.file = some [])
    (hrun : evaluateManifest env protocol evidence = .ok run) (hready : run.releaseReady = true) :
    Reproduces env.file "evals/reliability_v1" "metrics" ∧
      Reproduces env.file "evals/trace_integrity_v1" "detection_gates" := by
  obtain ⟨_, _, criteria, sources, hgate⟩ := frozenGate_of_accepted hrepr haccepted
  obtain rfl := Option.some.inj (hprotocol.symm.trans hgate.protocolFile)
  obtain rfl := Option.some.inj (hevidence.symm.trans hgate.evidenceFile)
  have hpassing := ((ready_iff hgate.releaseCriteria hsources hrun).1 hready).passing
  simp only [dictsOf_dict, List.forall_mem_cons, passes_iff] at hpassing
  obtain ⟨⟨corePublished, hcoreHolds⟩, ⟨tracePublished, htraceHolds⟩, -⟩ := hpassing
  obtain ⟨corePath, _, hcorePath, -, hcoreZero⟩ := hcoreHolds.verified
  obtain ⟨tracePath, _, htracePath, -, htraceZero⟩ := htraceHolds.verified
  exact ⟨reproduces_of_holds hgate.frozen hcoreHolds hcore
      (verified_of_reliability (hcoreVerifier corePath hcorePath hcoreZero)),
    reproduces_of_holds hgate.frozen htraceHolds htrace
      (verified_of_trace (htraceVerifier tracePath htracePath htraceZero))⟩

/-! ## The release publication -/

/-- The errors of `main`, or none where it raises, a file holds no object or a frozen file is
missing. -/
def VerifyResults.main (files : Files) : Option (List String) := do
  let protocol ← files.object? "evals/release_gate_v1/PROTOCOL.json"
  let results ← files.object? "evals/release_gate_v1/RESULTS.json"
  let n ← requiredRuns? protocol
  let runs ← files.runPayloads "evals/release_gate_v1" n
  let protocolFile ← files "evals/release_gate_v1/PROTOCOL.json"
  let evidenceFile ← files "evals/release_gate_v1/EVIDENCE.json"
  let evaluatorFile ← files "evals/release_gate_v1/evaluate.py"
  (validate ⟨protocolFile, evidenceFile, evaluatorFile⟩ protocol results runs).toOption

/-- The gate was frozen and evaluated, and the run written as the first run artifact. -/
structure Evaluated (frozen env : Environment) (published : Files) (run : ReleaseRun) : Prop where
  accepted : VerifyProtocol.main frozen = some []
  protocol : published "evals/release_gate_v1/PROTOCOL.json" =
    frozen.file "evals/release_gate_v1/PROTOCOL.json"
  evaluated : ∃ protocol evidence,
    Files.object? frozen.file "evals/release_gate_v1/PROTOCOL.json" = some protocol ∧
    Files.object? frozen.file "evals/release_gate_v1/EVIDENCE.json" = some evidence ∧
    evaluateManifest env protocol evidence = .ok run
  artifact : ∃ payload, published (artifactPath "evals/release_gate_v1" 1) = some payload ∧
    JsonLoads.loads payload = .ok (Json.dict run.toMapping).sortKeys

/-- The publication says what the run says, in the frozen order of the sources. -/
structure Reports (env : Environment) (criteria : Mapping) (sources : List Mapping)
    (results : Mapping) : Prop where
  ready : PyEq (results.get "release_ready") (.bool true) ↔
    FailsClosed env criteria (sources.map .dict)
  entries : ∃ entries : List Mapping, results.get "source_results" = .list (entries.map .dict) ∧
    entries.map (·.get "source_id") = VerifyProtocol.expectedSourceIds.map .str ∧
    List.Forall₂ (fun entry source => PyEq (entry.get "passed") (.bool true) ↔
      Passes env criteria source) entries sources

/-- What is equal to a truth value is equal to `True` exactly if that is true. -/
theorem pyEq_true_of_norm {value : Json} {b : Bool} (h : value.norm = (Json.bool b).norm) :
    PyEq value (.bool true) ↔ b = true := by
  refine ⟨fun heq => ?_, ?_⟩
  · have hnorm := h.symm.trans heq.2
    rcases b with _ | _
    · simp [Json.norm] at hnorm
    · rfl
  · rintro rfl
    exact pyEq_of_norm h (by simp)

/-- What the verifier checks of runs, the first of which it can read. -/
theorem validate_eq_nil_iff {files : GateFiles} {results run : Mapping} {payload : Bytes}
    {payloads : List Bytes} (hloads : JsonLoads.loads payload = .ok (.dict run)) :
    validate files protocol results (payload :: payloads) = .ok [] ↔
      ∃ execution required byteEqualRequired protocolId claimBoundary derived,
        (Json.dict protocol).subscript "execution" = .ok execution ∧
        execution.subscript "independent_runs_required" = .ok required ∧
        execution.subscript "normalized_output_byte_equal_required" = .ok byteEqualRequired ∧
        (Json.dict protocol).subscript "protocol_id" = .ok protocolId ∧
        (Json.dict protocol).subscript "claim_boundary" = .ok claimBoundary ∧
        derivedReadiness protocol run = .ok derived ∧
        (PayloadHash.sha256Hexdigest files.protocol = pSha ∧
          PayloadHash.sha256Hexdigest files.evidence = eSha ∧
          PayloadHash.sha256Hexdigest files.evaluator = vSha) ∧
        PyEq (count (payload :: payloads).length) required ∧
        (byteEqualRequired.truthy = true → byteEqual (payload :: payloads) = true) ∧
        differing results (publishedFields run protocolId claimBoundary) = [] ∧
        differing results
          [("reproduction", expectedReproduction required (payload :: payloads),
              "reproduction summary mismatch"),
            ("run_artifacts", expectedRuns "evals/release_gate_v1" (payload :: payloads),
              "run artifact identities mismatch")] = [] ∧
        run.get "release_ready" = .bool derived := by
  unfold validate
  rw [normalizedRun_of_decodes _ ⟨payload, payloads, rfl, hloads⟩]
  simp only [bind_eq_ok, ok_bind, getter, Except.ok.injEq, exists_and_left, not_and, and_assoc,
    List.append_eq_nil_iff, flag_eq_nil, Bool.not_eq_false, not_or, not_not, List.append_nil]

/-- A publication without errors has the fields of its run, and one output. -/
theorem fields_of_validate {files : GateFiles} {results run : Mapping} {payload : Bytes}
    {payloads : List Bytes} {directory : String}
    (hexecution : PyEq (protocol.get "execution") (frozenExecution directory))
    (hloads : JsonLoads.loads payload = .ok (.dict run))
    (h : validate files protocol results (payload :: payloads) = .ok []) :
    (∀ other ∈ payloads, other = payload) ∧
      PyEq (results.get "release_ready") (run.get "release_ready") ∧
      PyEq (results.get "source_results") (run.get "source_results") := by
  obtain ⟨_, _, byteEqualRequired, _, _, _, hsubscript, -, hrequired, -, -, -, -, -, hidentical,
    hfields, -, -⟩ := (validate_eq_nil_iff hloads).1 h
  obtain ⟨execution, hdict, hget⟩ := hexecution.dict
  rw [subscript_of_get hdict (by simp), Except.ok.injEq] at hsubscript
  rw [← hsubscript, subscript_returns] at hrequired
  have htruthy : byteEqualRequired.truthy = true := by
    have hvalue : execution.get "normalized_output_byte_equal_required" = byteEqualRequired := by
      rw [Mapping.get, hrequired, Option.getD_some]
    rw [← hvalue, ← truthy_norm, hget, truthy_norm]
    rfl
  simp only [publishedFields, differing_eq_nil, List.forall_mem_map, List.forall_mem_cons]
    at hfields
  obtain ⟨-, -, -, -, -, -, hready, -, hresults, -⟩ := hfields
  exact ⟨fun other hmem => of_decide_eq_true (List.all_eq_true.1 (hidentical htruthy) other hmem),
    hready, hresults⟩

/-- An entry of a publication says of a source whether it passed. -/
theorem entries_of_results {entries : List Mapping} {results : List SourceResult}
    (hentries : List.Forall₂ (fun entry result =>
      ∀ k, (entry.get k).norm = (result.toMapping.get k).norm) entries results)
    (hresults : List.Forall₂ (fun source result =>
      evaluateSource env source criteria = .ok result) sources results) :
    List.Forall₂ (fun entry source => PyEq (entry.get "passed") (.bool true) ↔
      Passes env criteria source) entries sources := by
  induction hentries generalizing sources with
  | nil =>
    cases hresults
    exact .nil
  | cons hentry _ ih =>
    rcases hresults with _ | ⟨hresult, hrest⟩
    refine .cons ?_ (ih hrest)
    rw [pyEq_true_of_norm (hentry "passed")]
    refine ⟨fun hpassed => ⟨_, hresult, hpassed⟩, ?_⟩
    rintro ⟨result, hresult', hpassed⟩
    obtain rfl := Except.ok.inj (hresult.symm.trans hresult')
    exact hpassed

/-- What a publication that equals the run of an accepted gate says. -/
theorem FrozenGate.reports (h : FrozenGate env protocol evidence criteria sources)
    {later : Environment} {run : ReleaseRun} {results : Mapping}
    (hrun : evaluateManifest later protocol evidence = .ok run)
    (hready : PyEq (results.get "release_ready") (.bool run.releaseReady))
    (hresults : PyEq (results.get "source_results")
      (.list (run.sourceResults.map fun result => .dict result.toMapping))) :
    Reports later criteria sources results := by
  obtain ⟨heach, hids⟩ := h.results hrun
  obtain ⟨entries, hentries, hall⟩ := forall₂_of_pyEq hresults
  refine ⟨?_, entries, hentries, ?_, entries_of_results hall heach⟩
  · rw [pyEq_true_of_norm hready.2, ready_iff h.releaseCriteria h.sourceList hrun, h.met_iff]
  · rw [← hids, List.map_map, ← List.forall₂_eq_eq_eq, List.forall₂_map_left_iff,
      List.forall₂_map_right_iff]
    exact hall.imp fun entry result hget => norm_eq_str.1 (hget "source_id")

/-- The verifier derives the readiness of the run of an accepted gate. -/
theorem FrozenGate.derived (h : FrozenGate env protocol evidence criteria sources)
    {later : Environment} {run : ReleaseRun}
    (hrun : evaluateManifest later protocol evidence = .ok run) :
    derivedReadiness protocol (sortKeysMembers run.toMapping) = .ok run.releaseReady := by
  obtain ⟨hresults, hcount, hready⟩ :=
    evaluateManifest_eq_ok h.releaseCriteria h.sourceList hrun
  have hne : run.sourceResults ≠ [] := by
    intro hnil
    have hids := (h.results hrun).2
    rw [hnil] at hids
    simp [VerifyProtocol.expectedSourceIds] at hids
  rw [derivedReadiness_of_run h.releaseCriteria hcount (passed_iff_errors_of_mem hresults),
    Except.ok.injEq, Bool.eq_iff_iff, hready, Bool.and_eq_true, decide_eq_true_eq]
  exact ⟨fun h => ⟨h.1, h.2, hne⟩, fun h => ⟨h.1, h.2.1⟩⟩

/-- What the verifier derives from the run of an accepted gate is its readiness. Where it finds
no error, the two runs are the same and the publication reports each source and the gate. -/
theorem release_published (hrepr : PyRepr.repr .null = "None") (frozen env : Environment)
    (published : Files) (run : ReleaseRun) (results : Mapping) (errors : List String)
    (hevaluated : Evaluated frozen env published run)
    (hresults : published.object? "evals/release_gate_v1/RESULTS.json" = some results)
    (hverified : VerifyResults.main published = some errors) :
    readinessDiffers ∉ errors ∧ (errors = [] → ∃ protocol evidence criteria sources payload,
      FrozenGate frozen protocol evidence criteria sources ∧
      published (artifactPath "evals/release_gate_v1" 1) = some payload ∧
      published (artifactPath "evals/release_gate_v1" 2) = some payload ∧
      Reports env criteria sources results) := by
  obtain ⟨protocol, evidence, criteria, sources, hgate⟩ :=
    frozenGate_of_accepted hrepr hevaluated.accepted
  obtain ⟨_, _, hprotocol, hevidence, hrun⟩ := hevaluated.evaluated
  obtain rfl := Option.some.inj (hgate.protocolFile.symm.trans hprotocol)
  obtain rfl := Option.some.inj (hgate.evidenceFile.symm.trans hevidence)
  obtain ⟨payload, hpayload, hloads⟩ := hevaluated.artifact
  have hobject : published.object? "evals/release_gate_v1/PROTOCOL.json" = some protocol := by
    rw [← hprotocol, Files.object?, Files.object?, hevaluated.protocol]
  simp only [VerifyResults.main, hobject, hresults, Option.bind_eq_bind, Option.bind_some,
    Option.bind_eq_some_iff, toOption_eq_some] at hverified
  obtain ⟨n, hn, runs, hruns, protocolFile, -, evidenceFile, -, evaluatorFile, -, hvalidate⟩ :=
    hverified
  obtain rfl := requiredRuns_eq_two hgate.execution hn
  obtain ⟨first, second, hfirst, hsecond, rfl⟩ := mem_runPayloads hruns
  obtain rfl := Option.some.inj (hpayload.symm.trans hfirst)
  rw [sortKeys] at hloads
  have hready : Mapping.get (sortKeysMembers run.toMapping) "release_ready" =
      .bool run.releaseReady := by
    rw [get_sortKeysMembers]
    rfl
  refine ⟨?_, ?_⟩
  · rw [readinessDiffers_mem hloads (hgate.derived hrun) hvalidate, hready, not_not]
  · rintro rfl
    obtain ⟨hsame, hreadyField, hresultsField⟩ :=
      fields_of_validate hgate.execution hloads hvalidate
    rw [hready] at hreadyField
    rw [get_sortKeysMembers] at hresultsField
    refine ⟨protocol, evidence, criteria, sources, payload, hgate, hpayload, ?_,
      hgate.reports hrun hreadyField
        (hresultsField.trans (pyEq_of_norm (norm_sortKeys _) (by simp)))⟩
    rw [hsecond, hsame second (by simp)]

end frozen

/-! ## The frozen release -/

/-- The files of the two evaluations. -/
def sourceFiles : List (String × Content) :=
  (ReliabilityV1.frozenFiles ++ ReliabilityV1.publishedFiles) ++
    ((TraceIntegrityV1.frozenFiles ++ TraceIntegrityV1.publishedFiles) ++
      [("evals/reliability_v1/verify_results.py", FrozenFiles.coreVerifier),
        ("evals/trace_integrity_v1/verify_results.py", FrozenFiles.traceVerifier)])

/-- The files that are frozen. -/
def frozenFiles : List (String × Content) :=
  [("evals/release_gate_v1/PROTOCOL.json", FrozenFiles.gateProtocol),
    ("evals/release_gate_v1/EVIDENCE.json", FrozenFiles.gateEvidence),
    ("evals/release_gate_v1/evaluate.py", FrozenFiles.gateEvaluator)]

/-- The files that are published. -/
def publishedFiles : List (String × Content) :=
  [("evals/release_gate_v1/RESULTS.json", FrozenFiles.gateResults),
    (artifactPath "evals/release_gate_v1" 1, FrozenFiles.gateRun),
    (artifactPath "evals/release_gate_v1" 2, FrozenFiles.gateRun)]

/-- The repository, whose commits hold its files, with verifiers that succeed. -/
def environmentOf {archive : Archive} (snapshot : Snapshot archive) : Environment where
  file := snapshot.files
  gitBlob _ := snapshot.files
  runVerifier _ := (0, "PASS")

section snapshot

variable {archive : Archive} {snapshot : Snapshot archive}

/-- A file is as pinned where the pin is the digest of its content. -/
theorem pinned_of_mem {commit path : String} {content : Content}
    (h : (path, content) ∈ snapshot.stored.rows) (hcommit : commit ≠ "") (hpath : path ≠ "")
    (hsha256 : content.sha256 ≠ "") :
    letI := archive.payloadHash
    Pinned (environmentOf snapshot) (.str commit) (.str path) (.str content.sha256) := by
  let := archive.payloadHash
  have hfile := Snapshot.files_of_mem h
  have hdigest := Archive.sha256Hexdigest_of_mem (snapshot.archived _ h)
  exact ⟨commit, path, content.sha256, nonemptyStr?_eq_some.2 ⟨rfl, hcommit⟩,
    nonemptyStr?_eq_some.2 ⟨rfl, hpath⟩, nonemptyStr?_eq_some.2 ⟨rfl, hsha256⟩,
    ⟨_, hfile, hdigest⟩, _, hfile, hdigest⟩

/-- The verifier of a source is there and succeeds. -/
theorem verifierPasses_of_mem {source : Mapping} {path : String} {content : Content}
    (hpath : source.get "result_verifier_path" = .str path)
    (h : (path, content) ∈ snapshot.stored.rows) :
    VerifierPasses (environmentOf snapshot) source :=
  ⟨path, _, hpath, Snapshot.files_of_mem h, rfl⟩

/-- A source holds whose three files are stored as its entry pins them, if the fields of its
result do. -/
theorem holds_of_mem {source criteria published : Mapping}
    {freeze commit protocolPath resultPath verifierPath : String}
    {protocol result verifier : Content}
    (hprotocol : (protocolPath, protocol) ∈ snapshot.stored.rows)
    (hresult : (resultPath, result) ∈ snapshot.stored.rows)
    (hverifier : (verifierPath, verifier) ∈ snapshot.stored.rows)
    (hpins : ["freeze_commit_sha", "protocol_path", "protocol_sha256", "result_commit_sha",
        "result_path", "result_sha256", "result_verifier_path",
        "result_verifier_sha256"].map source.get =
      [freeze, protocolPath, protocol.sha256, commit, resultPath, result.sha256, verifierPath,
        verifier.sha256].map .str)
    (hne : ∀ text ∈ [freeze, protocolPath, protocol.sha256, commit, resultPath, result.sha256,
      verifierPath, verifier.sha256], text ≠ "")
    (hdocument : result.document = some published)
    (hfields : ResultHolds source criteria published) :
    letI := archive.payloadHash
    letI := archive.jsonLoads
    Holds (environmentOf snapshot) source criteria published := by
  let := archive.payloadHash
  let := archive.jsonLoads
  simp only [List.map_cons, List.map_nil, List.cons.injEq, and_true] at hpins
  obtain ⟨hfreeze, hpath, hsha, hcommit, hresultPath, hresultSha, hverifierPath, hverifierSha⟩ :=
    hpins
  simp only [List.forall_mem_cons, List.not_mem_nil, false_imp_iff, implies_true, and_true] at hne
  obtain ⟨hfreezeNe, hpathNe, hshaNe, hcommitNe, hresultPathNe, hresultShaNe, hverifierPathNe,
    hverifierShaNe⟩ := hne
  refine ⟨?_, ?_, ?_, ?_, hfields, verifierPasses_of_mem hverifierPath hverifier⟩
  · rw [hfreeze, hpath, hsha]
    exact pinned_of_mem hprotocol hfreezeNe hpathNe hshaNe
  · rw [hcommit, hresultPath, hresultSha]
    exact pinned_of_mem hresult hcommitNe hresultPathNe hresultShaNe
  · rw [hcommit, hverifierPath, hverifierSha]
    exact pinned_of_mem hverifier hcommitNe hverifierPathNe hverifierShaNe
  · exact ⟨_, _, hresultPath, Snapshot.files_of_mem hresult,
      Archive.document?_of_mem (snapshot.archived _ hresult) hdocument⟩

/-- A publication of two twin runs records them as required. -/
theorem reproduced_twins (sha256 : String) :
    Reproduced frozenCriteria (publishedReproduction sha256) :=
  ⟨⟨2, 2, rfl, rfl, rfl, le_rfl⟩, rfl⟩

/-- The published reliability evaluation is all that the release wants of it. -/
theorem coreSource_holds (h : sourceFiles ⊆ snapshot.stored.rows) :
    letI := archive.payloadHash
    letI := archive.jsonLoads
    Holds (environmentOf snapshot) coreSource frozenCriteria ReliabilityV1.publishedResults := by
  let := plainRepr
  let := archive.payloadHash
  let := archive.jsonLoads
  exact holds_of_mem (h (List.mem_of_getElem? (i := 0) rfl)) (h (List.mem_of_getElem? (i := 2) rfl))
    (h (List.mem_of_getElem? (i := 13) rfl)) rfl (by decide) rfl
    ⟨pyEq_of_norm rfl (by decide), pyEq_of_norm rfl (by decide), pyEq_of_norm rfl (by decide),
      pyEq_of_norm rfl (by decide), pyEq_of_norm rfl (by decide),
      gatesOk_eq_true.1 (by decide +kernel), _, rfl, reproduced_twins _⟩

/-- The published trace-integrity evaluation is all that the release wants of it. -/
theorem traceSource_holds (h : sourceFiles ⊆ snapshot.stored.rows) :
    letI := archive.payloadHash
    letI := archive.jsonLoads
    Holds (environmentOf snapshot) traceSource frozenCriteria
      TraceIntegrityV1.publishedResults := by
  let := plainRepr
  let := archive.payloadHash
  let := archive.jsonLoads
  exact holds_of_mem (h (List.mem_of_getElem? (i := 5) rfl))
    (h (List.mem_of_getElem? (i := 10) rfl)) (h (List.mem_of_getElem? (i := 14) rfl)) rfl
    (by decide) rfl
    ⟨pyEq_of_norm rfl (by decide), pyEq_of_norm rfl (by decide), pyEq_of_norm rfl (by decide),
      pyEq_of_norm rfl (by decide), pyEq_of_norm rfl (by decide),
      gatesOk_eq_true.1 (by decide +kernel), _, rfl, reproduced_twins _⟩

/-- Nothing is wrong with the pinned files of a source that holds. -/
theorem errors_of_holds [JsonLoads] [PayloadHash] {env : Environment}
    {source criteria published : Mapping} (h : Holds env source criteria published) :
    (identitiesFindings env source).errors = [] := by
  let := plainRepr
  rw [identitiesFindings, errors_append_eq_nil, errors_append_eq_nil]
  exact ⟨⟨identityFindings_errors_eq_nil.2 h.protocol, identityFindings_errors_eq_nil.2 h.result⟩,
    identityFindings_errors_eq_nil.2 h.verifier⟩

/-- The gate is of the published evaluations. -/
theorem frozenGate_of_frozen (h : sourceFiles ++ frozenFiles ⊆ snapshot.stored.rows) :
    letI := plainRepr
    letI := archive.payloadHash
    letI := archive.jsonLoads
    FrozenGate (environmentOf snapshot) frozenProtocol frozenEvidence frozenCriteria
      [coreSource, traceSource] := by
  let := plainRepr
  let := archive.payloadHash
  let := archive.jsonLoads
  obtain ⟨hsources, -⟩ := List.append_subset.1 h
  refine ⟨Snapshot.object?_of_mem (h (List.mem_of_getElem? (i := 15) rfl)) rfl,
    Snapshot.object?_of_mem (h (List.mem_of_getElem? (i := 16) rfl)) rfl, by decide +kernel, rfl,
    by decide +kernel, rfl, rfl, ?_⟩
  simp only [List.forall_mem_cons]
  exact ⟨errors_of_holds (coreSource_holds hsources), errors_of_holds (traceSource_holds hsources),
    by simp⟩

/-- The release gate is accepted. -/
theorem gate_accepted (h : sourceFiles ++ frozenFiles ⊆ snapshot.stored.rows)
    (habsent : ∀ file ∈ snapshot.stored.rows, file.1 ≠ "evals/release_gate_v1/RESULTS.json") :
    letI := plainRepr
    letI := archive.payloadHash
    letI := archive.jsonLoads
    VerifyProtocol.main (environmentOf snapshot) = some [] := by
  let := plainRepr
  let := archive.payloadHash
  let := archive.jsonLoads
  have hprotocol := h (List.mem_of_getElem? (i := 15) rfl)
  have hevidence := h (List.mem_of_getElem? (i := 16) rfl)
  have hevaluator := h (List.mem_of_getElem? (i := 17) rfl)
  have hgate := frozenGate_of_frozen h
  have hvalidate : VerifyProtocol.validate frozenProtocol frozenEvidence false = [] := by
    decide +kernel
  have hidentities : verifySourceIdentities (environmentOf snapshot) frozenEvidence = [] :=
    (verifySourceIdentities_eq_nil hgate.sourceList).2 hgate.identities
  have hfile : (environmentOf snapshot).file = snapshot.files := rfl
  simp only [VerifyProtocol.main, hfile, Snapshot.object?_of_mem hprotocol rfl,
    Snapshot.object?_of_mem hevidence rfl, Snapshot.sha256?_of_mem hprotocol,
    Snapshot.sha256?_of_mem hevidence, Snapshot.sha256?_of_mem hevaluator,
    Snapshot.files_eq_none habsent, Option.bind_eq_bind, Option.bind_some]
  rw [Option.isSome_none, hvalidate, hidentities]
  rfl

/-- The release is ready. -/
theorem gate_run (h : sourceFiles ⊆ snapshot.stored.rows) :
    letI := plainRepr
    letI := archive.payloadHash
    letI := archive.jsonLoads
    evaluateManifest (environmentOf snapshot) frozenProtocol frozenEvidence =
      .ok (readyRun frozenProtocol frozenEvidence [coreSource, traceSource]) := by
  let := plainRepr
  let := archive.payloadHash
  let := archive.jsonLoads
  obtain ⟨core, hcore, hcorePassed⟩ := passes_iff.2 ⟨_, coreSource_holds h⟩
  obtain ⟨trace, htrace, htracePassed⟩ := passes_iff.2 ⟨_, traceSource_holds h⟩
  obtain rfl := eq_passingResult hcore hcorePassed
  obtain rfl := eq_passingResult htrace htracePassed
  have hresults : evaluateSources (environmentOf snapshot) frozenCriteria
      [.dict coreSource, .dict traceSource] =
        .ok [passingResult coreSource, passingResult traceSource] := by
    simp only [evaluateSources, hcore, htrace, ok_bind]
  have hcriteria : frozenProtocol.get "release_criteria" = .dict frozenCriteria := rfl
  have hsources : frozenEvidence.get "sources" = .list [.dict coreSource, .dict traceSource] := rfl
  simp only [evaluateManifest, hcriteria, hsources, hresults, ok_bind]
  rfl

/-- The run artifacts hold the run of a release that is ready. -/
theorem sortKeys_readyRun :
    letI := plainRepr
    sortKeysMembers (readyRun frozenProtocol frozenEvidence [coreSource, traceSource]).toMapping =
      frozenRun := by
  decide +kernel

/-- The publication of the release is verified. -/
theorem verified_of_published
    (h : (sourceFiles ++ frozenFiles) ++ publishedFiles ⊆ snapshot.stored.rows) :
    letI := plainRepr
    letI := archive.payloadHash
    letI := archive.jsonLoads
    VerifyResults.main snapshot.files = some [] := by
  let := plainRepr
  let := archive.payloadHash
  let := archive.jsonLoads
  have hprotocol := h (List.mem_of_getElem? (i := 15) rfl)
  have hevidence := h (List.mem_of_getElem? (i := 16) rfl)
  have hevaluator := h (List.mem_of_getElem? (i := 17) rfl)
  have hresults := h (List.mem_of_getElem? (i := 18) rfl)
  have hfirst := h (List.mem_of_getElem? (i := 19) rfl)
  have hsecond := h (List.mem_of_getElem? (i := 20) rfl)
  have hrequired : requiredRuns? frozenProtocol = some 2 := by
    decide +kernel
  have hderived : derivedReadiness frozenProtocol frozenRun = .ok true := by
    obtain ⟨hgate, -⟩ := List.append_subset.1 h
    obtain ⟨hsources, -⟩ := List.append_subset.1 hgate
    rw [← sortKeys_readyRun, (frozenGate_of_frozen hgate).derived (gate_run hsources)]
    rfl
  have hsha256 := Archive.sha256Hexdigest_of_mem (snapshot.archived _ hfirst)
  have hloads := Archive.document?_of_mem (snapshot.archived _ hfirst) rfl
  simp only [VerifyResults.main, Snapshot.object?_of_mem hprotocol rfl,
    Snapshot.object?_of_mem hresults rfl, hrequired,
    runPayloads_two (Snapshot.files_of_mem hfirst) (Snapshot.files_of_mem hsecond),
    Snapshot.files_of_mem hprotocol, Snapshot.files_of_mem hevidence,
    Snapshot.files_of_mem hevaluator, Option.bind_eq_bind, Option.bind_some, toOption_eq_some]
  refine (validate_eq_nil_iff hloads).2 ⟨_, _, _, _, _, true, rfl, rfl, rfl, rfl, rfl, hderived,
    ⟨Archive.sha256Hexdigest_of_mem (snapshot.archived _ hprotocol),
      Archive.sha256Hexdigest_of_mem (snapshot.archived _ hevidence),
      Archive.sha256Hexdigest_of_mem (snapshot.archived _ hevaluator)⟩,
    by decide, fun _ => byteEqual_twins _, differing_same rfl (by decide +kernel), ?_, rfl⟩
  simp only [differing_eq_nil, expectedRuns_twins _ hsha256, expectedReproduction_twins hsha256,
    List.forall_mem_cons, List.not_mem_nil, false_imp_iff, implies_true, and_true]
  exact ⟨by decide +kernel, pyEq_of_norm rfl (by decide)⟩

end snapshot

/-- The repository when the gate was frozen. -/
def frozenSnapshot : Snapshot FrozenFiles.archive where
  stored := ⟨sourceFiles ++ frozenFiles, by decide +kernel⟩
  archived := by
    simp [sourceFiles, frozenFiles, ReliabilityV1.frozenFiles, ReliabilityV1.publishedFiles,
      TraceIntegrityV1.frozenFiles, TraceIntegrityV1.publishedFiles, FrozenFiles.archive]

/-- The repository when the release was published. -/
def publishedSnapshot : Snapshot FrozenFiles.archive where
  stored := ⟨(sourceFiles ++ frozenFiles) ++ publishedFiles, by decide +kernel⟩
  archived := by
    simp [sourceFiles, frozenFiles, publishedFiles, ReliabilityV1.frozenFiles,
      ReliabilityV1.publishedFiles, TraceIntegrityV1.frozenFiles, TraceIntegrityV1.publishedFiles,
      FrozenFiles.archive]

theorem frozen_release_ready_iff_sample :
    letI := plainRepr
    letI := FrozenFiles.archive.payloadHash
    letI := FrozenFiles.archive.jsonLoads
    ∃ protocol evidence criteria sources,
      FrozenGate (environmentOf frozenSnapshot) protocol evidence criteria sources ∧
        FailsClosed (environmentOf frozenSnapshot) criteria (sources.map .dict) := by
  let := plainRepr
  let := FrozenFiles.archive.payloadHash
  let := FrozenFiles.archive.jsonLoads
  obtain ⟨protocol, evidence, criteria, sources, hgate, hruns⟩ :=
    frozen_release_ready_iff rfl (environmentOf frozenSnapshot)
      (gate_accepted (List.Subset.refl _) (by decide +kernel))
  obtain rfl : frozenProtocol = protocol := Option.some.inj
    ((Snapshot.object?_of_mem (List.mem_of_getElem? (i := 15) rfl) rfl).symm.trans
      hgate.protocolFile)
  obtain rfl : frozenEvidence = evidence := Option.some.inj
    ((Snapshot.object?_of_mem (List.mem_of_getElem? (i := 16) rfl) rfl).symm.trans
      hgate.evidenceFile)
  exact ⟨_, _, criteria, sources, hgate,
    (hruns _ (gate_run (List.subset_append_left _ _))).2.2.1.1 rfl⟩

theorem ready_release_reproduces_sample :
    letI := FrozenFiles.archive.payloadHash
    letI := FrozenFiles.archive.jsonLoads
    Reproduces frozenSnapshot.files "evals/reliability_v1" "metrics" ∧
      Reproduces frozenSnapshot.files "evals/trace_integrity_v1" "detection_gates" := by
  let := plainRepr
  let := FrozenFiles.archive.payloadHash
  let := FrozenFiles.archive.jsonLoads
  have hsources : sourceFiles ⊆ frozenSnapshot.stored.rows := List.subset_append_left _ _
  have hcore := ReliabilityV1.verified_of_published
    (List.Subset.trans (List.subset_append_left _ _) hsources)
  have htrace := TraceIntegrityV1.verified_of_published
    (List.Subset.trans (List.subset_append_left _ _)
      (List.Subset.trans (List.subset_append_right _ _) hsources))
  exact ready_release_reproduces rfl (environmentOf frozenSnapshot) frozenProtocol frozenEvidence
    coreSource traceSource (readyRun frozenProtocol frozenEvidence [coreSource, traceSource])
    (gate_accepted (List.Subset.refl _) (by decide +kernel))
    (Snapshot.object?_of_mem (List.mem_of_getElem? (i := 15) rfl) rfl)
    (Snapshot.object?_of_mem (List.mem_of_getElem? (i := 16) rfl) rfl) rfl rfl rfl
    (fun _ _ _ => hcore) (fun _ _ _ => htrace) (gate_run hsources) rfl

theorem release_published_sample :
    letI := plainRepr
    letI := FrozenFiles.archive.payloadHash
    letI := FrozenFiles.archive.jsonLoads
    ∃ criteria sources,
      Reports (environmentOf frozenSnapshot) criteria sources publishedResults := by
  let := plainRepr
  let := FrozenFiles.archive.payloadHash
  let := FrozenFiles.archive.jsonLoads
  have hgate := frozenGate_of_frozen (List.Subset.refl frozenSnapshot.stored.rows)
  have hprotocol : publishedSnapshot.files "evals/release_gate_v1/PROTOCOL.json" =
      frozenSnapshot.files "evals/release_gate_v1/PROTOCOL.json" :=
    (Snapshot.files_of_mem (List.mem_of_getElem? (i := 15) rfl)).trans
      (Snapshot.files_of_mem (List.mem_of_getElem? (i := 15) rfl)).symm
  have hloads : JsonLoads.loads FrozenFiles.gateRun.payload = .ok (Json.dict
      (readyRun frozenProtocol frozenEvidence [coreSource, traceSource]).toMapping).sortKeys := by
    rw [sortKeys, sortKeys_readyRun]
    exact Archive.document?_of_mem (by simp [FrozenFiles.archive]) rfl
  have hevaluated : Evaluated (environmentOf frozenSnapshot) (environmentOf frozenSnapshot)
      publishedSnapshot.files (readyRun frozenProtocol frozenEvidence [coreSource, traceSource]) :=
    ⟨gate_accepted (List.Subset.refl _) (by decide +kernel), hprotocol,
      ⟨_, _, hgate.protocolFile, hgate.evidenceFile, gate_run (List.subset_append_left _ _)⟩,
      _, Snapshot.files_of_mem (List.mem_of_getElem? (i := 19) rfl), hloads⟩
  obtain ⟨-, hreports⟩ := release_published rfl (environmentOf frozenSnapshot)
    (environmentOf frozenSnapshot) publishedSnapshot.files
    (readyRun frozenProtocol frozenEvidence [coreSource, traceSource]) publishedResults []
    hevaluated (Snapshot.object?_of_mem (List.mem_of_getElem? (i := 18) rfl) rfl)
    (verified_of_published (List.Subset.refl _))
  obtain ⟨_, _, criteria, sources, _, -, -, -, hreports⟩ := hreports rfl
  exact ⟨criteria, sources, hreports⟩

end ReleaseGate

end ReliabilityLab
