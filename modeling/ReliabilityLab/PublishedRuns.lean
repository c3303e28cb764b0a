import ReliabilityLab.FrozenFiles

/-!
# From a frozen protocol to its publication

`VerifyResults.main` of the two evaluations, on the files of a repository, after the protocol
was frozen (`VerifyProtocol.main`) and the evaluation was run.

`reliability_published` : a reliability publication that the verifier accepts is a pass of the
frozen scenarios in their order, each of which passed.
-/

set_option linter.unusedSectionVars false

open Serial

namespace ReliabilityLab

open Json

open TraceIntegrity (flag flag_eq_nil)

open Publication

/-! ## The disposition -/

namespace Publication

/-- Every derived gate is that of a specification. -/
theorem gate_of_derived {metrics gates : Mapping} {derived : List (String × GateResult)}
    (h : deriveGates metrics gates = .ok derived) {name : String} {gate : GateResult}
    (hmem : (name, gate) ∈ derived) :
    ∃ specification, (name, specification) ∈ gates ∧
      deriveGate metrics name specification = .ok gate := by
  induction gates generalizing derived with
  | nil =>
    obtain rfl := Except.ok.inj h
    simp at hmem
  | cons member gates ih =>
    obtain ⟨name', specification'⟩ := member
    obtain ⟨gate', hgate', h⟩ := bind_eq_ok.1 h
    obtain ⟨rest, hrest, h⟩ := bind_eq_ok.1 h
    obtain rfl := Except.ok.inj h
    rcases List.mem_cons.1 hmem with hhead | htail
    · obtain ⟨rfl, rfl⟩ := Prod.mk.inj hhead
      exact ⟨specification', List.mem_cons_self, hgate'⟩
    · obtain ⟨specification, hspec, hgate⟩ := ih hrest htail
      exact ⟨specification, List.mem_cons_of_mem _ hspec, hgate⟩

/-- A gate of a frozen protocol is one of its thresholds. -/
theorem threshold_of_gate {gates thresholds spec : Mapping} {name : String}
    (hgates : PyEq (.dict gates) (.dict (eqGates thresholds)))
    (hspec : gates.get? name = some (.dict spec)) :
    ∃ threshold, (name, threshold) ∈ thresholds ∧ (spec.get "threshold").norm = threshold.norm := by
  have hnorm := norm_dict_eq_iff.1 hgates.2 name
  rw [hspec] at hnorm
  obtain ⟨value, hvalue, hvalueNorm⟩ := Option.map_eq_some_iff.1 hnorm.symm
  obtain ⟨⟨name', threshold⟩, hmem, heq⟩ := List.mem_map.1 (Mapping.mem_of_get? hvalue)
  obtain ⟨rfl, rfl⟩ := Prod.mk.inj heq
  obtain ⟨members, hdict, hget⟩ := (pyEq_of_norm hvalueNorm.symm (by simp)).dict
  obtain rfl := Json.dict.inj hdict
  exact ⟨threshold, hmem, hget "threshold"⟩

/-- The gates of a frozen protocol, all derived, pass exactly if the metrics meet the
thresholds. -/
theorem derived_passed_iff {key : String} {protocol metrics thresholds : Mapping}
    {derived : List (String × GateResult)} (hkeys : (thresholds.map Prod.fst).Nodup)
    (hnan : ∀ threshold ∈ thresholds, threshold.2 ≠ .float .nan) (hne : thresholds ≠ [])
    (hgates : PyEq (protocol.get key) (.dict (eqGates thresholds)))
    (hderived : deriveGateResults key protocol metrics = .ok derived) :
    (derived ≠ [] ∧ ∀ gate ∈ derived, gate.2.passed = true) ↔ Meets thresholds metrics := by
  refine ⟨fun h => meets_of_derived hkeys hnan hgates hderived h.2, fun hmeets => ?_⟩
  obtain ⟨gates, heq, -⟩ := hgates.dict
  rw [heq] at hgates
  rw [deriveGateResults, heq] at hderived
  refine ⟨?_, fun gate hgate => ?_⟩
  · rintro rfl
    obtain ⟨⟨name, threshold⟩, hmem⟩ := List.exists_mem_of_ne_nil _ hne
    have hfrozen : (eqGates thresholds).get? name =
        some (.dict [("operator", .str "eq"), ("threshold", threshold)]) := by
      refine Mapping.get?_of_mem ?_ (List.mem_map.2 ⟨_, hmem, rfl⟩)
      simpa [eqGates, Function.comp_def] using hkeys
    have hnorm := norm_dict_eq_iff.1 hgates.2 name
    rw [hfrozen] at hnorm
    obtain ⟨value, hvalue, -⟩ := Option.map_eq_some_iff.1 hnorm
    obtain ⟨gate, hgate, -⟩ := deriveGates_eq_ok hderived (mem_sortedItems.2 hvalue)
    simp at hgate
  · obtain ⟨name, gate⟩ := gate
    obtain ⟨specification, hspec, hresult⟩ := gate_of_derived hderived hgate
    obtain ⟨spec, rfl, hiff⟩ := deriveGate_eq_ok hresult
    obtain ⟨threshold, hmem, hthreshold⟩ := threshold_of_gate hgates (mem_sortedItems.1 hspec)
    have hmet := hmeets _ hmem
    exact hiff.2 ⟨hmet.1, hmet.2.trans hthreshold.symm⟩

/-- A publication without gate errors has the disposition of the derived gates of its run. -/
theorem disposition_of_gateErrors {derive : Mapping → Except Raised (List (String × GateResult))}
    {results run : Mapping} (h : gateErrors derive results run = []) :
    ∃ metrics derived, run.get "metrics" = .dict metrics ∧ derive metrics = .ok derived ∧
      results.get "aggregate_disposition" = .str (disposition derived) := by
  unfold gateErrors at h
  rcases hrun : derivedGates derive run with ⟨errors, derived⟩
  rw [hrun] at h
  simp only [List.append_eq_nil_iff, differing_eq_nil, List.forall_mem_cons, pyEq_str] at h
  obtain ⟨rfl, -, hdisposition, -⟩ := h
  unfold derivedGates at hrun
  split at hrun
  · next metrics hmetrics =>
    split at hrun
    · next derived' hderive =>
      obtain rfl := (Prod.mk.inj hrun).2
      exact ⟨metrics, derived', hmetrics, hderive, hdisposition⟩
    · simp at hrun
  · simp at hrun

theorem disposition_eq_pass {derived : List (String × GateResult)} :
    disposition derived = "pass" ↔ derived ≠ [] ∧ ∀ gate ∈ derived, gate.2.passed = true := by
  unfold disposition
  split_ifs with hall
  · exact iff_of_true rfl hall
  · exact iff_of_false (by simp) hall

/-- A publication without gate errors is a pass exactly if the metrics of the run meet the
thresholds. -/
theorem pass_iff_meets {key : String} {protocol thresholds results run : Mapping}
    (hkeys : (thresholds.map Prod.fst).Nodup)
    (hnan : ∀ threshold ∈ thresholds, threshold.2 ≠ .float .nan) (hne : thresholds ≠ [])
    (hgates : PyEq (protocol.get key) (.dict (eqGates thresholds)))
    (h : gateErrors (deriveGateResults key protocol) results run = []) :
    ∃ metrics, run.get "metrics" = .dict metrics ∧
      (results.get "aggregate_disposition" = .str "pass" ↔ Meets thresholds metrics) := by
  obtain ⟨metrics, derived, hmetrics, hderived, hdisposition⟩ := disposition_of_gateErrors h
  refine ⟨metrics, hmetrics, ?_⟩
  rw [hdisposition, Json.str.injEq, disposition_eq_pass]
  exact derived_passed_iff hkeys hnan hne hgates hderived

section twins

variable [PayloadHash]

theorem byteEqual_twins (payload : Bytes) : byteEqual [payload, payload] = true := by
  simp [byteEqual]

theorem expectedRuns_twins (directory : String) {payload : Bytes} {sha256 : String}
    (h : PayloadHash.sha256Hexdigest payload = sha256) :
    expectedRuns directory [payload, payload] = publishedRuns directory sha256 := by
  subst h
  rfl

theorem expectedReproduction_twins {payload : Bytes} {sha256 : String}
    (h : PayloadHash.sha256Hexdigest payload = sha256) :
    expectedReproduction (.int 2) [payload, payload] =
      .dict [("independent_runs_required", .int 2), ("independent_runs_recorded", .int 2),
        ("normalized_output_byte_identical", .bool true),
        ("normalized_output_sha256", .str sha256)] := by
  subst h
  rw [expectedReproduction, byteEqual_twins]
  rfl

end twins

end Publication

/-- A list equal to a list of objects is one, of objects with equal members at each place. -/
theorem forall₂_of_pyEq {α : Type} {toMapping : α → Mapping} {published : Json} {items : List α}
    (h : PyEq published (.list (items.map fun item => .dict (toMapping item)))) :
    ∃ entries : List Mapping, published = .list (entries.map .dict) ∧
      List.Forall₂ (fun entry item => ∀ k, (entry.get k).norm = ((toMapping item).get k).norm)
        entries items := by
  obtain ⟨xs, rfl, hxs⟩ := h.list
  clear h
  induction items generalizing xs with
  | nil =>
    obtain rfl := List.map_eq_nil_iff.1 hxs
    exact ⟨[], rfl, .nil⟩
  | cons item items ih =>
    rcases xs with _ | ⟨x, xs⟩
    · simp at hxs
    · rw [List.map_cons, List.map_cons, List.map_cons, List.cons.injEq] at hxs
      obtain ⟨entry, rfl, hget⟩ := (pyEq_of_norm hxs.1 (by simp)).dict
      obtain ⟨entries, hentries, hall⟩ := ih xs hxs.2
      exact ⟨entry :: entries, by rw [List.map_cons, Json.list.inj hentries], .cons hget hall⟩

section decoded

variable [PayloadHash] [JsonLoads]

/-- The first payload reads as the run. -/
def Decodes (runPayloads : List Bytes) (run : Mapping) : Prop :=
  ∃ first rest, runPayloads = first :: rest ∧ JsonLoads.loads first = .ok (.dict run)

theorem normalizedRun_of_decodes (message : String) {runPayloads : List Bytes} {run : Mapping}
    (h : Decodes runPayloads run) :
    normalizedRun message runPayloads = .ok ([], .dict run) := by
  obtain ⟨first, rest, rfl, hloads⟩ := h
  rw [normalizedRun, hloads]

/-- The publication is of the metrics of the first payload and says of the payloads what is so,
with the disposition of the derived gates. -/
def Accepts (key : String) (protocol results : Mapping) (runPayloads : List Bytes) : Prop :=
  ∃ requiredRuns run, Decodes runPayloads run ∧
    PyEq (results.get "metrics") (run.get "metrics") ∧
    PyEq (results.get "reproduction") (expectedReproduction requiredRuns runPayloads) ∧
    gateErrors (deriveGateResults key protocol) results run = []

end decoded

/-! ## The verifiers of the publications -/

/-- The path of a run artifact. -/
def artifactPath (directory : String) (index : ℕ) : String :=
  directory ++ "/artifacts/run-" ++ toString index ++ ".json"

/-- The run artifacts in a directory, if all `n` of them are there. -/
def Files.runPayloads (files : Files) (directory : String) (n : Int) : Option (List Bytes) :=
  (List.range n.toNat).mapM fun index => files (artifactPath directory (index + 1))

/-- `range(1, protocol["execution"]["independent_runs_required"] + 1)`, by its length. -/
def requiredRuns? (protocol : Mapping) : Option Int := do
  let execution ← ((Json.dict protocol).subscript "execution").toOption
  let requiredRuns ← (execution.subscript "independent_runs_required").toOption
  requiredRuns.intValue?

theorem toOption_eq_some {α : Type} {x : Except Raised α} {a : α} :
    x.toOption = some a ↔ x = .ok a := by
  rcases x with _ | _ <;> simp [Except.toOption]

/-- The payloads are those of the artifacts, numbered from one. -/
theorem artifact_of_runPayloads {files : Files} {directory : String} {n : Int}
    {payloads : List Bytes} (h : files.runPayloads directory n = some payloads) :
    payloads.length = n.toNat ∧ ∀ index payload, payloads[index]? = some payload →
      files (artifactPath directory (index + 1)) = some payload := by
  have heach := mapM_eq_some_iff.1 h
  refine ⟨by rw [← heach.length_eq, List.length_range], fun index payload hpayload => ?_⟩
  obtain ⟨_, hindex, hfile⟩ := exists_of_forall₂_getElem? heach hpayload
  obtain ⟨hlt, rfl⟩ := List.getElem?_eq_some_iff.1 hindex
  rwa [List.getElem_range] at hfile

theorem mem_runPayloads {files : Files} {directory : String} {payloads : List Bytes}
    (h : files.runPayloads directory 2 = some payloads) :
    ∃ first second, files (artifactPath directory 1) = some first ∧
      files (artifactPath directory 2) = some second ∧ payloads = [first, second] := by
  obtain ⟨hlen, hfile⟩ := artifact_of_runPayloads h
  obtain ⟨first, second, rfl⟩ := List.length_eq_two.1 hlen
  exact ⟨first, second, hfile 0 first rfl, hfile 1 second rfl, rfl⟩

theorem runPayloads_two {files : Files} {directory : String} {first second : Bytes}
    (hfirst : files (artifactPath directory 1) = some first)
    (hsecond : files (artifactPath directory 2) = some second) :
    files.runPayloads directory 2 = some [first, second] := by
  simp [Files.runPayloads, List.range_succ, hfirst, hsecond]

/-- An accepted protocol requires two runs, if it requires an integer number of them. -/
theorem requiredRuns_eq_two {protocol : Mapping} {directory : String} {n : Int}
    (hexecution : PyEq (protocol.get "execution") (frozenExecution directory))
    (h : requiredRuns? protocol = some n) : n = 2 := by
  obtain ⟨execution, heq, hget⟩ := hexecution.dict
  have hexecution := Mapping.get?_eq_some_of_get heq (by simp)
  rw [requiredRuns?, subscript_returns.2 hexecution] at h
  simp only [Except.toOption, Option.bind_eq_bind, Option.bind_some] at h
  obtain ⟨required, hrequired, hn⟩ := Option.bind_eq_some_iff.1 h
  have hvalue : execution.get "independent_runs_required" = required := by
    rcases hsub : (Json.dict execution).subscript "independent_runs_required" with e | value
    · simp [hsub] at hrequired
    · rw [hsub] at hrequired
      obtain rfl := Option.some.inj hrequired
      rw [Mapping.get, subscript_returns.1 hsub, Option.getD_some]
  have hnorm := hget "independent_runs_required"
  rw [hvalue, norm_of_intValue? hn] at hnorm
  exact Json.int.inj hnorm

section main

variable [JsonLoads] [PayloadHash]

namespace ReliabilityV1

/-- The errors of `main`, or none where it raises or a file holds no object. -/
def VerifyResults.main (files : Files) : Option (List String) := do
  let protocol ← files.object? "evals/reliability_v1/PROTOCOL.json"
  let scenarios ← files.object? "evals/reliability_v1/SCENARIOS.json"
  let results ← files.object? "evals/reliability_v1/RESULTS.json"
  let n ← requiredRuns? protocol
  let runPayloads ← files.runPayloads "evals/reliability_v1" n
  let protocolSha256 ← files.sha256? "evals/reliability_v1/PROTOCOL.json"
  let scenarioSha256 ← files.sha256? "evals/reliability_v1/SCENARIOS.json"
  (validate protocol scenarios results runPayloads protocolSha256 scenarioSha256).toOption

end ReliabilityV1

namespace TraceIntegrityV1

/-- The errors of `main`, or none where it raises or a file holds no object. -/
def VerifyResults.main (files : Files) : Option (List String) := do
  let protocol ← files.object? "evals/trace_integrity_v1/PROTOCOL.json"
  let results ← files.object? "evals/trace_integrity_v1/RESULTS.json"
  let n ← requiredRuns? protocol
  let runPayloads ← files.runPayloads "evals/trace_integrity_v1" n
  let protocolSha256 ← files.sha256? "evals/trace_integrity_v1/PROTOCOL.json"
  let detector ← files.sha256? "src/agent_reliability_lab/trace_integrity.py"
  let schema ← files.sha256? "evals/trace_integrity_v1/TRACE_SCHEMA.json"
  let baselines ← files.sha256? "evals/trace_integrity_v1/BASELINE_TRACES.json"
  let mutations ← files.sha256? "evals/trace_integrity_v1/MUTATIONS.json"
  (validate protocol results runPayloads protocolSha256
    ⟨baselines, detector, mutations, schema⟩).toOption

end TraceIntegrityV1

end main

/-! ## The reliability publication -/

namespace ReliabilityV1

section published

variable [JsonLoads] [PayloadHash] [PyRepr]

/-- What an accepted protocol says of the execution, the gates and the scenarios. -/
structure FrozenReliability (protocol scenarios : Mapping) : Prop where
  execution : PyEq (protocol.get "execution") (frozenExecution "evals/reliability_v1")
  gates : PyEq (protocol.get "metrics") (.dict (eqGates reliabilityThresholds))
  fixtures : ∃ items, scenarios.get "scenarios" = .list items ∧ items.length = 11 ∧
    textsOf items "id" = VerifyProtocol.expectedScenarioIds ∧
    textsOf items "runner" = VerifyProtocol.expectedScenarioIds

theorem frozenReliability_of_accepted {protocol scenarios : Mapping} {resultsExist : Bool}
    (h : VerifyProtocol.validate protocol scenarios resultsExist = []) :
    FrozenReliability protocol scenarios := by
  simp only [VerifyProtocol.validate, List.append_eq_nil_iff, differing_eq_nil,
    List.forall_mem_cons] at h
  obtain ⟨⟨⟨⟨⟨-, -⟩, hexecution, hmetrics, -⟩, -⟩, -⟩, hscenarios⟩ := h
  refine ⟨hexecution, ⟨hmetrics.1, hmetrics.2.trans ?_⟩, ?_⟩
  · decide +kernel
  · unfold VerifyProtocol.scenarioErrors at hscenarios
    split at hscenarios
    · next items hitems =>
      simp only [List.append_eq_nil_iff, flag_eq_nil, not_not] at hscenarios
      exact ⟨items, hitems, hscenarios.2, hscenarios.1.1, hscenarios.1.2⟩
    · simp at hscenarios

variable {protocol scenarios results : Mapping} {runPayloads : List Bytes}
  {protocolSha256 scenarioSha256 : String}

/-- What the verifier checks, one thing at a time. -/
theorem validate_eq_nil_iff :
    validate protocol scenarios results runPayloads protocolSha256 scenarioSha256 = .ok [] ↔
      ∃ execution requiredRuns run,
        executionControls protocol = .ok (execution, requiredRuns) ∧
        Decodes runPayloads run ∧
        PyEq (count runPayloads.length) requiredRuns ∧
        protocolSha256 = expectedProtocolSha256 ∧
        manifestErrors protocol scenarios scenarioSha256 = [] ∧
        byteErrors execution runPayloads = [] ∧
        (∀ field ∈ publishedFields protocol run requiredRuns runPayloads protocolSha256
          scenarioSha256, PyEq (results.get field.1) field.2.1) ∧
        gateErrors (deriveGateResults protocol) results run = [] := by
  constructor
  · intro h
    unfold validate at h
    split at h
    · simp at h
    · next execution requiredRuns hcontrols =>
      obtain ⟨⟨decodeErrors, normalized⟩, hnormalized, h⟩ := bind_eq_ok.1 h
      obtain ⟨run, hrun, h⟩ := bind_eq_ok.1 h
      simp only [Except.ok.injEq, List.append_eq_nil_iff, flag_eq_nil, not_not] at h
      obtain ⟨⟨⟨⟨⟨⟨hcount, hdigest⟩, hmanifest⟩, hbytes⟩, rfl⟩, hfields⟩, hgates⟩ := h
      have hdecodes : Decodes runPayloads run :=
        run_of_decoded (executionControls_eq_ok hcontrols) hcount hnormalized hrun
      exact ⟨execution, requiredRuns, run, hcontrols, hdecodes, hcount, hdigest, hmanifest,
        hbytes, differing_eq_nil.1 hfields, hgates⟩
  · rintro ⟨execution, requiredRuns, run, hcontrols, hdecodes, hcount, hdigest, hmanifest, hbytes,
      hfields, hgates⟩
    have hnormalized :=
      normalizedRun_of_decodes "normalized run artifact is not valid JSON" hdecodes
    unfold validate
    rw [hcontrols, hnormalized]
    simp only [ok_bind, getter, Except.ok.injEq, List.append_eq_nil_iff, flag_eq_nil, not_not]
    exact ⟨⟨⟨⟨⟨⟨hcount, hdigest⟩, hmanifest⟩, hbytes⟩, trivial⟩, differing_eq_nil.2 hfields⟩,
      hgates⟩

theorem accepts_of_validate
    (h : validate protocol scenarios results runPayloads protocolSha256 scenarioSha256 = .ok []) :
    Accepts "metrics" protocol results runPayloads := by
  obtain ⟨execution, requiredRuns, run, -, hdecodes, -, -, -, -, hfields, hgates⟩ :=
    validate_eq_nil_iff.1 h
  simp only [publishedFields, List.forall_mem_cons] at hfields
  obtain ⟨-, -, -, -, -, -, hmetrics, -, -, hreproduction, -⟩ := hfields
  exact ⟨requiredRuns, run, hdecodes, hmetrics, hreproduction, hgates⟩

/-- The protocol was frozen, the evaluation run on the frozen files, and its report written as
the first run artifact. -/
structure Evaluated [Hashlib] (frozen published : Files) (report : Evaluation.EvaluationReport) :
    Prop where
  accepted : VerifyProtocol.main frozen = some []
  evaluated : ∃ protocolFile scenarioFile,
    frozen "evals/reliability_v1/PROTOCOL.json" = some protocolFile ∧
    published "evals/reliability_v1/PROTOCOL.json" = some protocolFile ∧
    frozen "evals/reliability_v1/SCENARIOS.json" = some scenarioFile ∧
    Evaluation.evaluate protocolFile scenarioFile = .ok report
  artifact : ∃ payload, published (artifactPath "evals/reliability_v1" 1) = some payload ∧
    JsonLoads.loads payload = .ok (Json.dict report.toMapping).sortKeys

/-- The publication is a pass, of the frozen scenarios in their order, each of which passed. -/
structure FrozenPass (results : Mapping) : Prop where
  disposition : results.get "aggregate_disposition" = .str "pass"
  scenarios : ∃ entries : List Mapping, results.get "scenario_results" = .list (entries.map .dict) ∧
    entries.map (·.get "scenario_id") = VerifyProtocol.expectedScenarioIds.map .str ∧
    ∀ entry ∈ entries, EntryPasses entry

/-- A report on frozen files is of the frozen scenarios. -/
theorem Evaluated.report [Hashlib] {frozen published : Files} {report : Evaluation.EvaluationReport}
    (h : Evaluated frozen published report) :
    ∃ protocol, published.object? "evals/reliability_v1/PROTOCOL.json" = some protocol ∧
      PyEq (protocol.get "execution") (frozenExecution "evals/reliability_v1") ∧
      PyEq (protocol.get "metrics") (.dict (eqGates reliabilityThresholds)) ∧
      report.scenarioResults.map (·.scenarioId) = VerifyProtocol.expectedScenarioIds ∧
      (∀ result ∈ report.scenarioResults, result.Passes) ∧
      summarizeResults report.scenarioResults = .ok report.metrics := by
  obtain ⟨protocolFile, scenarioFile, hfrozenProtocol, hprotocol, hscenario, hevaluate⟩ :=
    h.evaluated
  obtain ⟨protocol, fixtures, haccepted, hpass⟩ :=
    (Evaluation.evaluate_returns_iff protocolFile scenarioFile).2 report hevaluate
  obtain ⟨manifest, hmanifest, hfixtures⟩ := haccepted.manifest
  have hmain := h.accepted
  have hobject := Files.object?_eq_some.2 ⟨protocolFile, hfrozenProtocol, haccepted.document⟩
  have hscenarios := Files.object?_eq_some.2 ⟨scenarioFile, hscenario, hmanifest⟩
  simp only [VerifyProtocol.main, hobject, hscenarios, Option.bind_eq_bind, Option.bind_some,
    Option.bind_eq_some_iff, Option.some.injEq, List.append_eq_nil_iff] at hmain
  obtain ⟨sha256, -, hvalidate, -⟩ := hmain
  have hfrozen := frozenReliability_of_accepted hvalidate
  obtain ⟨items, hitems, -, hids, -⟩ := hfrozen.fixtures
  obtain rfl := Json.list.inj (hitems.symm.trans hfixtures)
  refine ⟨protocol, Files.object?_eq_some.2 ⟨protocolFile, hprotocol, haccepted.document⟩,
    hfrozen.execution, hfrozen.gates, ?_, hpass.passes, hpass.metrics⟩
  rw [← hids, textsOf, dictsOf_map, ← List.forall₂_eq_eq_eq, List.forall₂_map_left_iff,
    List.forall₂_map_right_iff]
  refine (hpass.results.imp ?_).flip
  rintro fixture _ ⟨scenario, hscenario, hfits, detail, rfl⟩
  exact (hfits.id_eq hscenario).symm

/-- The first run artifact holds what was computed. -/
theorem computed_sortKeys {report : Evaluation.EvaluationReport}
    (hmetrics : summarizeResults report.scenarioResults = .ok report.metrics) :
    Computed (sortKeysMembers report.toMapping) report.scenarioResults := by
  refine ⟨⟨report.metrics, hmetrics, ?_⟩, ?_⟩
  · rw [get_sortKeysMembers]
    exact pyEq_of_norm (norm_sortKeys _) (by simp)
  · rw [get_sortKeysMembers]
    exact pyEq_of_norm (norm_sortKeys _) (by simp)

/-- A pass that repeats what was computed of the frozen scenarios is a pass of them. -/
theorem frozenPass_of_backed {run : Mapping} {items : List ScenarioResult}
    (hpass : results.get "aggregate_disposition" = .str "pass")
    (hbacked : Backed reliabilityThresholds ["scenario_results"] results run)
    (hcomputed : Computed run items)
    (hids : items.map (·.scenarioId) = VerifyProtocol.expectedScenarioIds)
    (hpasses : ∀ item ∈ items, item.Passes) : FrozenPass results := by
  have hlen : items.length ≤ 2 ^ 53 := by
    rw [← List.length_map, hids]
    decide
  obtain ⟨entries, hentries, hentryPasses⟩ := entryPasses_of_backed hbacked hcomputed hlen
    fun item hmem => (hpasses item hmem).duplicates.ge
  obtain ⟨entries', hentries', hall⟩ :=
    forall₂_of_pyEq ((hbacked.items "scenario_results" (by simp)).trans hcomputed.items)
  obtain rfl : entries = entries' :=
    TraceIntegrity.map_dict_injective (Json.list.inj (hentries.symm.trans hentries'))
  refine ⟨hpass, entries, hentries, ?_, hentryPasses⟩
  rw [← hids, List.map_map, ← List.forall₂_eq_eq_eq, List.forall₂_map_left_iff,
    List.forall₂_map_right_iff]
  exact hall.imp fun entry item hget => norm_eq_str.1 (hget "scenario_id")

/-- What the verifier accepts after a frozen evaluation is a pass, and says truly whether the two
runs are the same. -/
theorem reliability_published [Hashlib] (frozen published : Files)
    (report : Evaluation.EvaluationReport) (results : Mapping)
    (hevaluated : Evaluated frozen published report)
    (hresults : published.object? "evals/reliability_v1/RESULTS.json" = some results)
    (hverified : VerifyResults.main published = some []) :
    FrozenPass results ∧ ∃ first second,
      published (artifactPath "evals/reliability_v1" 1) = some first ∧
      published (artifactPath "evals/reliability_v1" 2) = some second ∧
      PyEq (results.get "reproduction") (expectedReproduction (.int 2) [first, second]) := by
  obtain ⟨protocol, hprotocol, hexecution, hgates, hids, hpasses, hmetrics⟩ := hevaluated.report
  obtain ⟨payload, hpayload, hloads⟩ := hevaluated.artifact
  simp only [VerifyResults.main, hprotocol, hresults, Option.bind_eq_bind, Option.bind_some,
    Option.bind_eq_some_iff, toOption_eq_some] at hverified
  obtain ⟨scenarios, -, n, hn, runPayloads, hruns, protocolSha256, -, scenarioSha256, -,
    hvalidate⟩ := hverified
  obtain rfl := requiredRuns_eq_two hexecution hn
  obtain ⟨first, second, hfirst, hsecond, rfl⟩ := mem_runPayloads hruns
  obtain ⟨execution, requiredRuns, run, hcontrols, ⟨first', rest, hcons, hrun⟩, hcount, -, -, -,
    hfields, hgateErrors⟩ := validate_eq_nil_iff.1 hvalidate
  obtain ⟨rfl, rfl⟩ := List.cons.inj hcons
  obtain rfl := Option.some.inj (hfirst.symm.trans hpayload)
  have hcomputed : Computed run report.scenarioResults := by
    obtain rfl : run = sortKeysMembers report.toMapping :=
      Json.dict.inj (Except.ok.inj (hrun.symm.trans hloads))
    exact computed_sortKeys hmetrics
  have hpass : results.get "aggregate_disposition" = .str "pass" := by
    obtain ⟨metrics, hmetrics', hiff⟩ :=
      pass_iff_meets (by decide) (by decide) (by decide) hgates hgateErrors
    obtain ⟨summary, hsummary, hsame⟩ := hcomputed.metrics
    rw [hmetrics'] at hsame
    exact hiff.2 ((meets_of_passes hsummary hpasses).of_pyEq hsame.symm)
  obtain ⟨first'', rest'', run', hcons', hrun', hbacked⟩ := backed_of_pass hgates hvalidate hpass
  obtain ⟨rfl, -⟩ := List.cons.inj hcons'
  obtain rfl := Json.dict.inj (Except.ok.inj (hrun.symm.trans hrun'))
  have hreproduction := hfields ("reproduction", expectedReproduction requiredRuns [first, second],
    "published reproduction summary differs from the executed runs") (by simp [publishedFields])
  refine ⟨frozenPass_of_backed hpass hbacked hcomputed hids hpasses, first, second, hfirst,
    hsecond, hreproduction.trans (pyEq_of_norm ?_ (by simp [expectedReproduction]))⟩
  have hrequired : requiredRuns.norm = (Json.int 2).norm := hcount.2.symm
  simp only [expectedReproduction, Json.norm, normMembers, hrequired]

end published

/-! ## The frozen evaluation -/

/-- The report of the frozen evaluation. -/
def frozenReport : Evaluation.EvaluationReport where
  protocolId := .str VerifyProtocol.expectedProtocolId
  scenarioManifestSha256 := .str VerifyProtocol.expectedScenarioSha256
  scenarioResults := passingResults
  metrics :=
    [("scenario_count", .int 11), ("scenario_passed", .int 11),
      ("scenario_pass_rate", .float (.finite 1)), ("safety_applicable", .int 11),
      ("safety_passed", .int 11), ("safety_pass_rate", .float (.finite 1)),
      ("convergence_applicable", .int 8), ("convergence_passed", .int 8),
      ("convergence_pass_rate", .float (.finite 1)), ("fail_closed_applicable", .int 7),
      ("fail_closed_passed", .int 7), ("fail_closed_pass_rate", .float (.finite 1)),
      ("duplicate_effect_violations", .int 0), ("all_scenarios_passed", .bool true)]
  claimBoundary := .dict claimBoundary

/-- A digest that is right on the effects and the plan of the scenarios. -/
@[reducible] def scenarioHashlib : Hashlib where
  sha256Hexdigest text :=
    if text = "[\"provider-a\",\"op-loop\",\"create_record\",\"payload-v1\"]" then
      "b7937debf2bc0e02bb583e9c0d183d05ec9f25208d259d644f15cca111019c0e"
    else if text = "[\"provider-a\",\"op-race\",\"create_record\",\"payload-v1\"]" then
      "187d90d89fb02bce57615e2d5648bcc7eea81e014b551fa2619968f75b6db80e"
    else if text = "[[\"op-1\",\"edit\",\"one\"],[\"op-2\",\"test\",\"two\"]," ++
        "[\"op-3\",\"publish\",\"three\"]]" then
      "62facfd7a35cc8cf54afb44b3e94c8669d6d9e980109cb2fe0f03e5b80be4b27"
    else sampleHashlib.sha256Hexdigest text

/-- The harness makes the frozen report. -/
theorem evaluateDocuments_frozen :
    letI := scenarioHashlib
    letI := plainRepr
    Evaluation.evaluateDocuments (.dict frozenProtocol) (.dict frozenScenarios)
      VerifyProtocol.expectedScenarioSha256 = .ok frozenReport := by
  decide +kernel

/-- The run artifacts hold the frozen report. -/
theorem sortKeys_frozenReport : sortKeysMembers frozenReport.toMapping = frozenRun := by
  decide +kernel

/-- The files that are frozen. -/
def frozenFiles : List (String × Content) :=
  [("evals/reliability_v1/PROTOCOL.json", FrozenFiles.coreProtocol),
    ("evals/reliability_v1/SCENARIOS.json", FrozenFiles.coreScenarios)]

/-- The files that are published. -/
def publishedFiles : List (String × Content) :=
  [("evals/reliability_v1/RESULTS.json", FrozenFiles.coreResults),
    (artifactPath "evals/reliability_v1" 1, FrozenFiles.coreRun),
    (artifactPath "evals/reliability_v1" 2, FrozenFiles.coreRun)]

section snapshot

variable {archive : Archive} {snapshot : Snapshot archive}

/-- The frozen protocol and its scenarios are accepted. -/
theorem accepted_of_frozen (h : frozenFiles ⊆ snapshot.stored.rows)
    (habsent : ∀ file ∈ snapshot.stored.rows, file.1 ≠ "evals/reliability_v1/RESULTS.json") :
    letI := plainRepr
    letI := archive.payloadHash
    letI := archive.jsonLoads
    VerifyProtocol.main snapshot.files = some [] := by
  let := plainRepr
  let := archive.payloadHash
  let := archive.jsonLoads
  have hprotocol := h (List.mem_of_getElem? (i := 0) rfl)
  have hscenarios := h (List.mem_of_getElem? (i := 1) rfl)
  have haccepted : VerifyProtocol.validate frozenProtocol frozenScenarios false = [] := by
    decide +kernel
  simp only [VerifyProtocol.main, Snapshot.object?_of_mem hprotocol rfl,
    Snapshot.object?_of_mem hscenarios rfl, Snapshot.sha256?_of_mem hscenarios,
    Snapshot.files_eq_none habsent, Option.bind_eq_bind, Option.bind_some]
  rw [Option.isSome_none, haccepted]
  rfl

/-- The publication of the frozen evaluation is verified. -/
theorem verified_of_published (h : frozenFiles ++ publishedFiles ⊆ snapshot.stored.rows) :
    letI := archive.payloadHash
    letI := archive.jsonLoads
    VerifyResults.main snapshot.files = some [] := by
  let := plainRepr
  let := archive.payloadHash
  let := archive.jsonLoads
  have hprotocol := h (List.mem_of_getElem? (i := 0) rfl)
  have hscenarios := h (List.mem_of_getElem? (i := 1) rfl)
  have hresults := h (List.mem_of_getElem? (i := 2) rfl)
  have hfirst := h (List.mem_of_getElem? (i := 3) rfl)
  have hsecond := h (List.mem_of_getElem? (i := 4) rfl)
  have hrequired : requiredRuns? frozenProtocol = some 2 := by
    decide +kernel
  have hsha256 := Archive.sha256Hexdigest_of_mem (snapshot.archived _ hfirst)
  have hloads := Archive.document?_of_mem (snapshot.archived _ hfirst) rfl
  simp only [VerifyResults.main, Snapshot.object?_of_mem hprotocol rfl,
    Snapshot.object?_of_mem hscenarios rfl, Snapshot.object?_of_mem hresults rfl, hrequired,
    runPayloads_two (Snapshot.files_of_mem hfirst) (Snapshot.files_of_mem hsecond),
    Snapshot.sha256?_of_mem hprotocol, Snapshot.sha256?_of_mem hscenarios, Option.bind_eq_bind,
    Option.bind_some, toOption_eq_some]
  refine validate_eq_nil_iff.2 ⟨frozenControls "evals/reliability_v1", .int 2, frozenRun, rfl,
    ⟨_, _, rfl, hloads⟩, by decide, rfl, by decide +kernel, by simp [byteErrors, byteEqual_twins],
    ?_, by decide +kernel⟩
  simp only [publishedFields, expectedRuns_twins _ hsha256, expectedReproduction_twins hsha256,
    List.forall_mem_cons, List.not_mem_nil, false_imp_iff, implies_true, and_true]
  exact ⟨pyEq_of_norm rfl (by simp), pyEq_of_norm rfl (by decide), pyEq_of_norm rfl (by simp),
    pyEq_of_norm rfl (by simp), pyEq_of_norm rfl (by simp), pyEq_of_norm rfl (by decide),
    pyEq_of_norm rfl (by decide), pyEq_of_norm rfl (by decide), pyEq_of_norm rfl (by decide),
    by decide +kernel⟩

end snapshot

/-- The repository when the protocol was frozen. -/
def frozenSnapshot : Snapshot FrozenFiles.archive where
  stored := ⟨frozenFiles, by decide +kernel⟩
  archived := by simp [frozenFiles, FrozenFiles.archive]

/-- The repository when the results were published. -/
def publishedSnapshot : Snapshot FrozenFiles.archive where
  stored := ⟨frozenFiles ++ publishedFiles, by decide +kernel⟩
  archived := by simp [frozenFiles, publishedFiles, FrozenFiles.archive]

/-- The published results of the frozen evaluation are a pass. -/
theorem reliability_published_sample :
    letI := scenarioHashlib
    letI := plainRepr
    letI := FrozenFiles.archive.payloadHash
    letI := FrozenFiles.archive.jsonLoads
    Evaluated frozenSnapshot.files publishedSnapshot.files frozenReport ∧
      FrozenPass publishedResults := by
  let := scenarioHashlib
  let := plainRepr
  let := FrozenFiles.archive.payloadHash
  let := FrozenFiles.archive.jsonLoads
  have hprotocol : Evaluation.loadFile FrozenFiles.coreProtocol.payload =
      .ok (.dict frozenProtocol) :=
    Evaluation.loadFile_eq_ok.2 (Archive.document?_of_mem (by simp [FrozenFiles.archive]) rfl)
  have hscenarios : Evaluation.loadFile FrozenFiles.coreScenarios.payload =
      .ok (.dict frozenScenarios) :=
    Evaluation.loadFile_eq_ok.2 (Archive.document?_of_mem (by simp [FrozenFiles.archive]) rfl)
  have hsha256 : PayloadHash.sha256Hexdigest FrozenFiles.coreScenarios.payload =
      VerifyProtocol.expectedScenarioSha256 :=
    Archive.sha256Hexdigest_of_mem (by simp [FrozenFiles.archive])
  have hloads : JsonLoads.loads FrozenFiles.coreRun.payload =
      .ok (Json.dict frozenReport.toMapping).sortKeys := by
    rw [sortKeys, sortKeys_frozenReport]
    exact Archive.document?_of_mem (by simp [FrozenFiles.archive]) rfl
  have hevaluated : Evaluated frozenSnapshot.files publishedSnapshot.files frozenReport := by
    refine ⟨accepted_of_frozen (List.Subset.refl _) (by decide +kernel), ⟨_, _,
      Snapshot.files_of_mem (List.mem_of_getElem? (i := 0) rfl),
      Snapshot.files_of_mem (List.mem_of_getElem? (i := 0) rfl),
      Snapshot.files_of_mem (List.mem_of_getElem? (i := 1) rfl), ?_⟩,
      ⟨_, Snapshot.files_of_mem (List.mem_of_getElem? (i := 3) rfl), hloads⟩⟩
    unfold Evaluation.evaluate
    rw [hprotocol, ok_bind, hscenarios, ok_bind, hsha256]
    exact evaluateDocuments_frozen
  exact ⟨hevaluated, (reliability_published frozenSnapshot.files publishedSnapshot.files
    frozenReport publishedResults hevaluated
    (Snapshot.object?_of_mem (List.mem_of_getElem? (i := 2) rfl) rfl)
    (verified_of_published (List.Subset.refl _))).1⟩

end ReliabilityV1

end ReliabilityLab
