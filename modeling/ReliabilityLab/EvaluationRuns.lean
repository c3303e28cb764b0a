import ReliabilityLab.ScenarioRunners

/-!
# The run of the reliability evaluation

`run_scenario_manifest` and `evaluate` of `evaluation.py`. The files are their bytes, with
`json.loads` and the digest as parameters.

`evaluate_returns_iff` : the harness returns exactly on a frozen protocol with a manifest of
fixtures that name a scenario twice and require its outcomes, and then it reports these
scenarios in their order, all of them passed, with metrics that meet every frozen threshold.
-/

set_option linter.unusedSectionVars false

open Serial

namespace ReliabilityLab

namespace Evaluation

open Json

/-- What the harness may raise : an exception of the package or of Python, a `RuntimeError` of
its own, or a `json.JSONDecodeError`. -/
inductive HarnessError where
  | raised (raised : Raised)
  | runtimeError (message : String)
  | jsonDecodeError
  deriving DecidableEq

/-- A call that may raise, within the harness. -/
def calling {α : Type} : Except Raised α → Except HarnessError α
  | .ok a => .ok a
  | .error raised => .error (.raised raised)

@[simp] theorem calling_eq_ok {α : Type} {x : Except Raised α} {a : α} :
    calling x = .ok a ↔ x = .ok a := by
  rcases x with e | a' <;> simp [calling]

section harness

variable [Hashlib] [PyRepr]

/-- `str(item.get(key, ""))`. -/
def nameOf (item : Mapping) (key : String) : String :=
  ((item.get? key).getD (.str "")).toStr

/-- The fields of a fixture that say what applies, with what the result says. -/
def applicability (result : ScenarioResult) : List (String × Bool) :=
  [("safety_required", result.safetyApplicable),
    ("convergence_required", result.convergenceApplicable),
    ("fail_closed_required", result.failClosedApplicable)]

/-- What a result applies to is what its fixture says. -/
def checkApplicability (scenarioId : String) (item : Mapping) :
    List (String × Bool) → Except HarnessError Unit
  | [] => .ok ()
  | (fixtureKey, resultValue) :: fields => do
    raiseIf (item.get fixtureKey ≠ .bool resultValue)
      (.runtimeError ("scenario applicability mismatch for " ++ scenarioId ++ ": " ++ fixtureKey))
    checkApplicability scenarioId item fields

/-- One fixture of the manifest. -/
def runFixture : Json → Except HarnessError ScenarioResult
  | .dict item =>
    let scenarioId := nameOf item "id"
    let runnerName := nameOf item "runner"
    match scenarioRunners.lookup runnerName with
    | none => .error (.raised ⟨.valueError, "unknown frozen scenario runner: " ++ runnerName⟩)
    | some runner => do
      let result ← calling runner
      raiseIf (result.scenarioId ≠ scenarioId)
        (.runtimeError ("scenario identity mismatch: fixture=" ++ PyRepr.repr (.str scenarioId) ++
          " runner=" ++ PyRepr.repr (.str result.scenarioId)))
      checkApplicability scenarioId item (applicability result)
      .ok result
  | _ => .error (.raised ⟨.typeError, "each scenario fixture must be an object"⟩)

/-- The results of the scenarios of a manifest. -/
def runScenarioManifest (manifest : Mapping) : Except HarnessError (List ScenarioResult) :=
  match manifest.get "scenarios" with
  | .list scenarios => scenarios.mapM runFixture
  | _ => .error (.raised ⟨.typeError, "scenario manifest must contain a scenarios list"⟩)

/-- The report of an evaluation. -/
structure EvaluationReport where
  protocolId : Json
  scenarioManifestSha256 : Json
  scenarioResults : List ScenarioResult
  metrics : Mapping
  claimBoundary : Json
  deriving DecidableEq

/-- The document of a report. -/
def EvaluationReport.toMapping (report : EvaluationReport) : Mapping :=
  [("schema_version", .str "carl.reliability-evaluation-result.v1"),
    ("protocol_id", report.protocolId),
    ("scenario_manifest_sha256", report.scenarioManifestSha256),
    ("scenario_results", .list (report.scenarioResults.map fun result => .dict result.asdict)),
    ("metrics", .dict report.metrics),
    ("claim_boundary", report.claimBoundary)]

/-- `evaluate`, on the parsed documents and the digest of the manifest's bytes. -/
def evaluateDocuments (protocol manifest : Json) (scenarioSha256 : String) :
    Except HarnessError EvaluationReport := do
  let protocol ← calling protocol.getter
  raiseIf (¬PyEq (protocol.get "status") (.str "frozen_unexecuted"))
    (.raised ⟨.valueError, "aggregate execution requires the frozen_unexecuted protocol"⟩)
  match protocol.get "scenario_manifest" with
  | .dict frozenManifest => do
    raiseIf (¬PyEq (Mapping.get frozenManifest "sha256") (.str scenarioSha256))
      (.raised ⟨.valueError, "scenario manifest does not match the frozen SHA-256"⟩)
    let manifest ← calling manifest.getter
    let results ← runScenarioManifest manifest
    let metrics ← calling (summarizeResults results)
    let protocolId ← calling ((Json.dict protocol).subscript "protocol_id")
    let sha256 ← calling ((Json.dict frozenManifest).subscript "sha256")
    let claimBoundary ← calling ((Json.dict protocol).subscript "claim_boundary")
    .ok ⟨protocolId, sha256, results, metrics, claimBoundary⟩
  | _ => .error (.raised ⟨.typeError, "protocol scenario_manifest is missing"⟩)

/-- `json.loads` of the text of a file. -/
def loadFile [JsonLoads] (payload : Bytes) : Except HarnessError Json :=
  match JsonLoads.loadsText payload with
  | .ok document => .ok document
  | .error .jsonDecodeError => .error .jsonDecodeError
  | .error (.other raised) => .error (.raised raised)

/-- `evaluate`. -/
def evaluate [JsonLoads] [PayloadHash] (protocolFile scenarioFile : Bytes) :
    Except HarnessError EvaluationReport := do
  let protocol ← loadFile protocolFile
  let manifest ← loadFile scenarioFile
  evaluateDocuments protocol manifest (PayloadHash.sha256Hexdigest scenarioFile)

/-! ## One fixture -/

/-- The fixture names its runner as `id` and as `runner`, and requires what the runner
reports. -/
structure Runs (item : Mapping) (result : ScenarioResult) : Prop where
  runner : (nameOf item "runner", .ok result) ∈ scenarioRunners
  scenarioId : nameOf item "id" = result.scenarioId
  required : ∀ field ∈ applicability result, item.get field.1 = .bool field.2

theorem checkApplicability_eq_ok {scenarioId : String} {item : Mapping}
    {fields : List (String × Bool)} :
    checkApplicability scenarioId item fields = .ok () ↔
      ∀ field ∈ fields, item.get field.1 = .bool field.2 := by
  induction fields with
  | nil => simp [checkApplicability]
  | cons field fields ih =>
    obtain ⟨fixtureKey, resultValue⟩ := field
    rw [checkApplicability, raiseIf_bind_eq_ok, not_not, ih, List.forall_mem_cons]

theorem scenarioRunners_nodup : (scenarioRunners.map Prod.fst).Nodup := by
  unfold scenarioRunners
  simp only [List.map_cons, List.map_nil]
  decide

/-- A name finds the runner that is listed under it. -/
theorem lookup_scenarioRunners {name : String} {runner : Except Raised ScenarioResult} :
    scenarioRunners.lookup name = some runner ↔ (name, runner) ∈ scenarioRunners := by
  rw [List.lookup_eq_some_iff]
  constructor
  · rintro ⟨before, after, heq, -⟩
    rw [heq]
    exact List.mem_append_right _ List.mem_cons_self
  · intro hmem
    obtain ⟨before, after, heq⟩ := List.append_of_mem hmem
    refine ⟨before, after, heq, fun member hbefore => ?_⟩
    have hnodup := scenarioRunners_nodup
    rw [heq, List.map_append, List.nodup_append] at hnodup
    have hne := hnodup.2.2 member.1 (List.mem_map_of_mem hbefore) name (by simp)
    simpa using hne.symm

theorem runFixture_eq_ok {item : Json} {result : ScenarioResult} :
    runFixture item = .ok result ↔ ∃ fixture, item = .dict fixture ∧ Runs fixture result := by
  constructor
  · intro h
    unfold runFixture at h
    split at h
    · next fixture =>
      dsimp only at h
      split at h
      · cases h
      · next runner hrunner =>
        obtain ⟨result', hresult, h⟩ := bind_eq_ok.1 h
        obtain ⟨hid, h⟩ := raiseIf_bind_eq_ok.1 h
        obtain ⟨_, hchecks, h⟩ := bind_eq_ok.1 h
        obtain rfl := Except.ok.inj h
        rw [calling_eq_ok] at hresult
        subst hresult
        exact ⟨fixture, rfl, lookup_scenarioRunners.1 hrunner, (not_not.1 hid).symm,
          checkApplicability_eq_ok.1 hchecks⟩
    · cases h
  · rintro ⟨fixture, rfl, hruns⟩
    unfold runFixture
    dsimp only
    rw [lookup_scenarioRunners.2 hruns.runner]
    refine bind_eq_ok.2 ⟨result, calling_eq_ok.2 rfl, raiseIf_bind_eq_ok.2
      ⟨not_not.2 hruns.scenarioId.symm, ?_⟩⟩
    exact bind_eq_ok.2 ⟨(), checkApplicability_eq_ok.2 hruns.required, rfl⟩

/-- The fixture is of the scenario : it names it twice, and requires its outcomes. -/
structure Fits (item : Mapping) (scenario : Scenario) : Prop where
  id : nameOf item "id" = scenario.id
  runner : nameOf item "runner" = scenario.id
  safety : item.get "safety_required" = .bool scenario.safetyRequired
  convergence : item.get "convergence_required" = .bool scenario.convergenceRequired
  failClosed : item.get "fail_closed_required" = .bool scenario.failClosedRequired

/-- A listed runner is that of a scenario, and succeeds. -/
theorem scenario_of_runner {name : String} {runner : Except Raised ScenarioResult}
    (h : (name, runner) ∈ scenarioRunners) :
    ∃ scenario ∈ scenarios, name = scenario.id ∧ Succeeds scenario runner := by
  obtain ⟨k, hk⟩ := List.getElem?_of_mem h
  obtain ⟨scenario, hscenario, hid, hsucceeds⟩ :=
    exists_of_forall₂_getElem? scenarioRunners_succeed.flip hk
  exact ⟨scenario, List.mem_of_getElem? hscenario, hid, hsucceeds⟩

/-- A scenario has a runner, which succeeds. -/
theorem runner_of_scenario {scenario : Scenario} (h : scenario ∈ scenarios) :
    ∃ detail, (scenario.id, .ok (scenario.passing detail)) ∈ scenarioRunners := by
  obtain ⟨k, hk⟩ := List.getElem?_of_mem h
  obtain ⟨⟨name, runner⟩, hrunner, rfl, detail, rfl⟩ :=
    exists_of_forall₂_getElem? scenarioRunners_succeed hk
  exact ⟨detail, List.mem_of_getElem? hrunner⟩

/-- A fixture runs exactly if it is of a scenario, with the result of that scenario. -/
theorem Runs.scenario {item : Mapping} {result : ScenarioResult} (h : Runs item result) :
    ∃ scenario ∈ scenarios, Fits item scenario ∧ ∃ detail, result = scenario.passing detail := by
  obtain ⟨scenario, hscenario, hname, detail, hresult⟩ := scenario_of_runner h.runner
  obtain rfl := Except.ok.inj hresult
  obtain ⟨hsafety, hconvergence, hfailClosed, -⟩ :=
    (by simpa [applicability, Scenario.passing, Evaluation.result] using h.required :
      item.get "safety_required" = .bool scenario.safetyRequired ∧
      item.get "convergence_required" = .bool scenario.convergenceRequired ∧
      item.get "fail_closed_required" = .bool scenario.failClosedRequired ∧ True)
  exact ⟨scenario, hscenario, ⟨h.scenarioId, hname, hsafety, hconvergence, hfailClosed⟩,
    detail, rfl⟩

theorem exists_runs_iff {item : Mapping} :
    (∃ result, Runs item result) ↔ ∃ scenario ∈ scenarios, Fits item scenario := by
  constructor
  · rintro ⟨result, h⟩
    obtain ⟨scenario, hscenario, hfits, -⟩ := h.scenario
    exact ⟨scenario, hscenario, hfits⟩
  · rintro ⟨scenario, hscenario, hfits⟩
    obtain ⟨detail, hrunner⟩ := runner_of_scenario hscenario
    refine ⟨scenario.passing detail, hfits.runner ▸ hrunner, hfits.id, ?_⟩
    simp [applicability, Scenario.passing, Evaluation.result, hfits.safety, hfits.convergence,
      hfits.failClosed]

/-! ## A run -/

/-- Runs of all fixtures of a manifest, in its order. -/
def RunsAll (manifest : Mapping) (fixtures : List Mapping) (results : List ScenarioResult) : Prop :=
  manifest.get "scenarios" = .list (fixtures.map .dict) ∧ List.Forall₂ Runs fixtures results

theorem runScenarioManifest_eq_ok {manifest : Mapping} {results : List ScenarioResult} :
    runScenarioManifest manifest = .ok results ↔ ∃ fixtures, RunsAll manifest fixtures results := by
  unfold runScenarioManifest RunsAll
  constructor
  · intro h
    split at h
    · next scenarios hscenarios =>
      obtain ⟨fixtures, hfixtures, hruns⟩ :=
        dicts_of_forall₂ ((mapM_eq_ok_iff.1 h).imp fun item result => runFixture_eq_ok.1)
      exact ⟨fixtures, hscenarios.trans (congrArg Json.list hfixtures), hruns⟩
    · cases h
  · rintro ⟨fixtures, hscenarios, hruns⟩
    rw [hscenarios]
    exact mapM_eq_ok_iff.2 (List.forall₂_map_left_iff.2
      (hruns.imp fun fixture result hrun => runFixture_eq_ok.2 ⟨fixture, rfl, hrun⟩))

/-- The protocol is frozen, for a manifest with this digest. -/
structure Frozen (protocol : Mapping) (scenarioSha256 : String) : Prop where
  status : protocol.get "status" = .str "frozen_unexecuted"
  manifest : ∃ frozenManifest, protocol.get "scenario_manifest" = .dict frozenManifest ∧
    Mapping.get frozenManifest "sha256" = .str scenarioSha256
  protocolId : protocol.get? "protocol_id" ≠ none
  claimBoundary : protocol.get? "claim_boundary" ≠ none

/-- The report is that of these results. -/
structure Reports (protocol : Mapping) (scenarioSha256 : String) (results : List ScenarioResult)
    (report : EvaluationReport) : Prop where
  protocolId : protocol.get? "protocol_id" = some report.protocolId
  scenarioManifestSha256 : report.scenarioManifestSha256 = .str scenarioSha256
  scenarioResults : report.scenarioResults = results
  metrics : summarizeResults results = .ok report.metrics
  claimBoundary : protocol.get? "claim_boundary" = some report.claimBoundary

theorem evaluateDocuments_eq_ok {protocol manifest : Json} {scenarioSha256 : String}
    {report : EvaluationReport} :
    evaluateDocuments protocol manifest scenarioSha256 = .ok report ↔
      ∃ protocolItems manifestItems fixtures results, protocol = .dict protocolItems ∧
        manifest = .dict manifestItems ∧ Frozen protocolItems scenarioSha256 ∧
        RunsAll manifestItems fixtures results ∧
        Reports protocolItems scenarioSha256 results report := by
  constructor
  · intro h
    unfold evaluateDocuments at h
    obtain ⟨protocolItems, hprotocol, h⟩ := bind_eq_ok.1 h
    rw [calling_eq_ok, getter_returns] at hprotocol
    obtain ⟨hstatus, h⟩ := raiseIf_bind_eq_ok.1 h
    rw [not_not, pyEq_str] at hstatus
    split at h
    · next frozenManifest hfrozen =>
      obtain ⟨hsha256, h⟩ := raiseIf_bind_eq_ok.1 h
      rw [not_not, pyEq_str] at hsha256
      obtain ⟨manifestItems, hmanifest, h⟩ := bind_eq_ok.1 h
      rw [calling_eq_ok, getter_returns] at hmanifest
      obtain ⟨results, hresults, h⟩ := bind_eq_ok.1 h
      obtain ⟨fixtures, hruns⟩ := runScenarioManifest_eq_ok.1 hresults
      obtain ⟨metrics, hmetrics, h⟩ := bind_eq_ok.1 h
      obtain ⟨protocolId, hprotocolId, h⟩ := bind_eq_ok.1 h
      obtain ⟨sha256, hsha, h⟩ := bind_eq_ok.1 h
      obtain ⟨claimBoundary, hboundary, h⟩ := bind_eq_ok.1 h
      obtain rfl := Except.ok.inj h
      rw [calling_eq_ok, subscript_returns] at hprotocolId hsha hboundary
      have hshaEq : sha256 = .str scenarioSha256 := by
        rw [← hsha256, Mapping.get, hsha, Option.getD_some]
      exact ⟨protocolItems, manifestItems, fixtures, results, hprotocol, hmanifest,
        ⟨hstatus, ⟨frozenManifest, hfrozen, hsha256⟩, by simp [hprotocolId], by simp [hboundary]⟩,
        hruns, ⟨hprotocolId, hshaEq, rfl, calling_eq_ok.1 hmetrics, hboundary⟩⟩
    · cases h
  · rintro ⟨protocolItems, manifestItems, fixtures, results, rfl, rfl, hfrozen, hruns, hreports⟩
    obtain ⟨frozenManifest, hmanifest, hsha256⟩ := hfrozen.manifest
    obtain ⟨protocolId, sha256, scenarioResults, metrics, claimBoundary⟩ := report
    obtain ⟨hprotocolId, rfl, rfl, hmetrics, hboundary⟩ := hreports
    unfold evaluateDocuments
    refine bind_eq_ok.2 ⟨protocolItems, rfl, raiseIf_bind_eq_ok.2 ⟨?_, ?_⟩⟩
    · rw [not_not, pyEq_str]
      exact hfrozen.status
    rw [hmanifest]
    refine raiseIf_bind_eq_ok.2 ⟨by rw [not_not, pyEq_str]; exact hsha256, ?_⟩
    refine bind_eq_ok.2 ⟨manifestItems, rfl, ?_⟩
    refine bind_eq_ok.2 ⟨_, runScenarioManifest_eq_ok.2 ⟨fixtures, hruns⟩, ?_⟩
    refine bind_eq_ok.2 ⟨metrics, calling_eq_ok.2 hmetrics, ?_⟩
    refine bind_eq_ok.2 ⟨protocolId, calling_eq_ok.2 (subscript_returns.2 hprotocolId), ?_⟩
    have hsha := Mapping.get?_eq_some_of_get hsha256 (by simp)
    refine bind_eq_ok.2 ⟨.str scenarioSha256, calling_eq_ok.2 (subscript_returns.2 hsha), ?_⟩
    exact bind_eq_ok.2 ⟨claimBoundary, calling_eq_ok.2 (subscript_returns.2 hboundary), rfl⟩

/-- The files are a frozen protocol and its manifest, with these fixtures. -/
structure Accepted [JsonLoads] [PayloadHash] (protocolFile scenarioFile : Bytes)
    (protocol : Mapping) (fixtures : List Mapping) : Prop where
  document : JsonLoads.loadsText protocolFile = .ok (.dict protocol)
  manifest : ∃ manifest : Mapping, JsonLoads.loadsText scenarioFile = .ok (.dict manifest) ∧
    manifest.get "scenarios" = .list (fixtures.map .dict)
  frozen : Frozen protocol (PayloadHash.sha256Hexdigest scenarioFile)
  nonempty : fixtures ≠ []
  fits : ∀ fixture ∈ fixtures, ∃ scenario ∈ scenarios, Fits fixture scenario

/-- The report has the result of a scenario for each fixture, in their order, all of them passed,
and metrics that meet the frozen thresholds. -/
structure AllPass (fixtures : List Mapping) (report : EvaluationReport) : Prop where
  results : List.Forall₂ (fun fixture result => ∃ scenario ∈ scenarios, Fits fixture scenario ∧
    ∃ detail, result = scenario.passing detail) fixtures report.scenarioResults
  passes : ∀ result ∈ report.scenarioResults, result.Passes
  metrics : summarizeResults report.scenarioResults = .ok report.metrics
  meets : Meets reliabilityThresholds report.metrics

theorem loadFile_eq_ok [JsonLoads] {payload : Bytes} {document : Json} :
    loadFile payload = .ok document ↔ JsonLoads.loadsText payload = .ok document := by
  unfold loadFile
  rcases JsonLoads.loadsText payload with (_ | _) | _ <;> simp

/-- A run of all fixtures exists if each of them has one. -/
theorem runScenarioManifest_returns {manifest : Mapping} {fixtures : List Mapping}
    (hscenarios : manifest.get "scenarios" = .list (fixtures.map .dict))
    (h : ∀ fixture ∈ fixtures, ∃ scenario ∈ scenarios, Fits fixture scenario) :
    ∃ results, runScenarioManifest manifest = .ok results ∧
      results.length = fixtures.length := by
  unfold runScenarioManifest
  rw [hscenarios]
  obtain ⟨results, hresults⟩ : ∃ results, (fixtures.map Json.dict).mapM runFixture = .ok results :=
    mapM_returns_iff.2 (List.forall_mem_map.2 fun fixture hmem =>
      (exists_runs_iff.2 (h fixture hmem)).imp fun result hrun =>
        runFixture_eq_ok.2 ⟨fixture, rfl, hrun⟩)
  exact ⟨results, hresults, (length_of_mapM hresults).trans (List.length_map _)⟩

/-- A fixture that was run is of a scenario. -/
theorem fits_of_runs {fixtures : List Mapping} {results : List ScenarioResult}
    (h : List.Forall₂ Runs fixtures results) :
    ∀ fixture ∈ fixtures, ∃ scenario ∈ scenarios, Fits fixture scenario := by
  intro fixture hmem
  obtain ⟨k, hk⟩ := List.getElem?_of_mem hmem
  obtain ⟨result, -, hrun⟩ := exists_of_forall₂_getElem? h.flip hk
  exact exists_runs_iff.1 ⟨result, hrun⟩

/-- What the runs of fixtures give has passed. -/
theorem passes_of_runs {fixtures : List Mapping} {results : List ScenarioResult}
    (h : List.Forall₂ Runs fixtures results) : ∀ result ∈ results, result.Passes := by
  intro result hmem
  obtain ⟨k, hk⟩ := List.getElem?_of_mem hmem
  obtain ⟨fixture, -, hrun⟩ := exists_of_forall₂_getElem? h hk
  obtain ⟨scenario, -, -, detail, rfl⟩ := hrun.scenario
  exact scenario.passing_passes detail

/-- A report is on a frozen protocol with fixtures of its scenarios, all of them passed. -/
theorem accepted_of_evaluate [JsonLoads] [PayloadHash] {protocolFile scenarioFile : Bytes}
    {report : EvaluationReport} (h : evaluate protocolFile scenarioFile = .ok report) :
    ∃ protocol fixtures, Accepted protocolFile scenarioFile protocol fixtures ∧
      AllPass fixtures report := by
  obtain ⟨document, hdocument, h⟩ := bind_eq_ok.1 h
  obtain ⟨scenarios, hscenarios, h⟩ := bind_eq_ok.1 h
  obtain ⟨protocol, manifest, fixtures, results, rfl, rfl, hfrozen, ⟨hlist, hruns⟩, hreports⟩ :=
    evaluateDocuments_eq_ok.1 h
  rw [loadFile_eq_ok] at hdocument hscenarios
  obtain rfl := hreports.scenarioResults
  have hne := (rated_of_summary hreports.metrics).nonempty
  have hpasses := passes_of_runs hruns
  refine ⟨protocol, fixtures, ⟨hdocument, ⟨manifest, hscenarios, hlist⟩, hfrozen, ?_,
    fits_of_runs hruns⟩, ⟨hruns.imp fun fixture result hrun => hrun.scenario, hpasses,
      hreports.metrics, meets_of_passes hreports.metrics hpasses⟩⟩
  rintro rfl
  exact hne (List.forall₂_nil_left_iff.1 hruns)

/-- The harness returns exactly on a frozen protocol with fixtures of its scenarios, and its
reports are of these scenarios, all passed. -/
theorem evaluate_returns_iff [JsonLoads] [PayloadHash] (protocolFile scenarioFile : Bytes) :
    ((∃ report, evaluate protocolFile scenarioFile = .ok report) ↔
      ∃ protocol fixtures, Accepted protocolFile scenarioFile protocol fixtures) ∧
    ∀ report, evaluate protocolFile scenarioFile = .ok report →
      ∃ protocol fixtures, Accepted protocolFile scenarioFile protocol fixtures ∧
        AllPass fixtures report := by
  refine ⟨⟨?_, ?_⟩, fun report h => accepted_of_evaluate h⟩
  · rintro ⟨report, h⟩
    obtain ⟨protocol, fixtures, haccepted, -⟩ := accepted_of_evaluate h
    exact ⟨protocol, fixtures, haccepted⟩
  · rintro ⟨protocol, fixtures, haccepted⟩
    obtain ⟨manifest, hmanifest, hscenarios⟩ := haccepted.manifest
    obtain ⟨results, hresults, hlen⟩ :=
      runScenarioManifest_returns hscenarios haccepted.fits
    obtain ⟨fixtures', hruns⟩ := runScenarioManifest_eq_ok.1 hresults
    have hne : results ≠ [] := by
      rw [← List.length_pos_iff, hlen, List.length_pos_iff]
      exact haccepted.nonempty
    obtain ⟨metrics, hmetrics⟩ := summarizeBy_returns trueDiv hne
    obtain ⟨protocolId, hprotocolId⟩ := Option.ne_none_iff_exists'.1 haccepted.frozen.protocolId
    obtain ⟨claimBoundary, hboundary⟩ :=
      Option.ne_none_iff_exists'.1 haccepted.frozen.claimBoundary
    refine ⟨⟨protocolId, _, results, metrics, claimBoundary⟩, bind_eq_ok.2
      ⟨.dict protocol, loadFile_eq_ok.2 haccepted.document, bind_eq_ok.2
        ⟨.dict manifest, loadFile_eq_ok.2 hmanifest, evaluateDocuments_eq_ok.2
          ⟨protocol, manifest, fixtures', results, rfl, rfl, haccepted.frozen, hruns,
            ⟨hprotocolId, rfl, rfl, hmetrics, hboundary⟩⟩⟩⟩⟩

/-- The id of a fixture of a scenario is an item of it. -/
theorem Fits.id_eq {item : Mapping} {scenario : Scenario} (h : Fits item scenario)
    (hscenario : scenario ∈ scenarios) : (item.get "id").toStr = scenario.id := by
  have hne : ∀ scenario ∈ scenarios, scenario.id ≠ "" := by
    simp [scenarios]
  have hid := h.id
  rw [nameOf] at hid
  rw [← hid, Mapping.get]
  rcases hitem : item.get? "id" with _ | id
  · rw [hitem] at hid
    exact absurd hid.symm (hne scenario hscenario)
  · rfl

end harness

end Evaluation

end ReliabilityLab
