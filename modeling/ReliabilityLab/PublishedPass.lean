import ReliabilityLab.Publications

/-!
# A published pass

A publication that passes without errors repeats a run whose metrics meet the frozen gates
(`Backed`). The items of the run are compared with the published ones only : nothing derives
the metrics from them. So a published pass says of its items what the run's metrics say of
the run's items (`published_pass_backed`), and no more (`unbacked_pass`).
-/

set_option linter.unusedSectionVars false

open Serial

namespace ReliabilityLab

open Json

open TraceIntegrity (flag flag_eq_nil)

open Publication

/-! ## What an accepted publication says -/

namespace Publication

theorem differing_eq_nil {results : Mapping} {fields : List (String × Json × String)} :
    differing results fields = [] ↔ ∀ field ∈ fields, PyEq (results.get field.1) field.2.1 := by
  simp [differing, List.flatMap_eq_nil_iff]

theorem gatePassed_eq_ok {actual threshold : Json} {operator : String} {passed : Bool} :
    gatePassed actual operator threshold = .ok passed ↔
      operator = "eq" ∧ decide (PyEq actual threshold) = passed := by
  unfold gatePassed
  split_ifs with h <;> simp [h]

/-- A gate with a result is an object, and passed if its metric is the threshold. -/
theorem deriveGate_eq_ok {metrics : Mapping} {name : String} {specification : Json}
    {gate : GateResult} (h : deriveGate metrics name specification = .ok gate) :
    ∃ spec : Mapping, specification = .dict spec ∧
      (gate.passed = true ↔ PyEq (metrics.get name) (spec.get "threshold")) := by
  unfold deriveGate at h
  split at h
  · next spec =>
    dsimp only at h
    split at h
    · simp only [bind_eq_ok, Except.ok.injEq] at h
      obtain ⟨_, -, _, -, passed, hpassed, rfl⟩ := h
      obtain ⟨-, rfl⟩ := gatePassed_eq_ok.1 hpassed
      exact ⟨spec, rfl, decide_eq_true_iff⟩
    · simp at h
  · simp at h

theorem deriveGates_eq_ok {metrics gates : Mapping} {derived : List (String × GateResult)}
    (h : deriveGates metrics gates = .ok derived) {name : String} {specification : Json}
    (hmem : (name, specification) ∈ gates) :
    ∃ gate, (name, gate) ∈ derived ∧ deriveGate metrics name specification = .ok gate := by
  induction gates generalizing derived with
  | nil => simp at hmem
  | cons member gates ih =>
    obtain ⟨name', specification'⟩ := member
    obtain ⟨gate, hgate, h⟩ := bind_eq_ok.1 h
    obtain ⟨rest, hrest, h⟩ := bind_eq_ok.1 h
    obtain rfl := Except.ok.inj h
    rcases List.mem_cons.1 hmem with hhead | htail
    · obtain ⟨rfl, rfl⟩ := Prod.mk.inj hhead
      exact ⟨gate, List.mem_cons_self, hgate⟩
    · obtain ⟨gate', hmem', hgate'⟩ := ih hrest htail
      exact ⟨gate', List.mem_cons_of_mem _ hmem', hgate'⟩

/-- The gates that compare every metric with its threshold. -/
def eqGates (thresholds : Mapping) : Mapping :=
  thresholds.map fun threshold =>
    (threshold.1, .dict [("operator", .str "eq"), ("threshold", threshold.2)])

/-- If all gates of a protocol pass, the metrics meet its thresholds. -/
theorem meets_of_derived {key : String} {protocol metrics thresholds : Mapping}
    {derived : List (String × GateResult)} (hkeys : (thresholds.map Prod.fst).Nodup)
    (hnan : ∀ threshold ∈ thresholds, threshold.2 ≠ .float .nan)
    (hgates : PyEq (protocol.get key) (.dict (eqGates thresholds)))
    (hderived : deriveGateResults key protocol metrics = .ok derived)
    (hpassed : ∀ gate ∈ derived, gate.2.passed = true) : Meets thresholds metrics := by
  rintro ⟨name, threshold⟩ hmem
  obtain ⟨gates, heq, hget⟩ := hgates.dict
  rw [deriveGateResults, heq] at hderived
  have hfrozen : (eqGates thresholds).get? name =
      some (.dict [("operator", .str "eq"), ("threshold", threshold)]) := by
    refine Mapping.get?_of_mem ?_ (List.mem_map.2 ⟨_, hmem, rfl⟩)
    simpa [eqGates, Function.comp_def] using hkeys
  have hspec := hget name
  rw [Mapping.get, Mapping.get, hfrozen, Option.getD_some, ← Mapping.get] at hspec
  have hspec' := pyEq_of_norm hspec (by simp)
  obtain ⟨spec, hspec, hthreshold⟩ := hspec'.dict
  have hmem' : (name, Json.dict spec) ∈ sortedItems gates := by
    refine Mapping.mem_of_get? ?_
    rw [get?_sortedItems]
    exact Mapping.get?_eq_some_of_get hspec (by simp)
  obtain ⟨gate, hgate, hresult⟩ := deriveGates_eq_ok hderived hmem'
  obtain ⟨spec', hsame, hiff⟩ := deriveGate_eq_ok hresult
  obtain rfl := Json.dict.inj hsame
  exact (hiff.1 (hpassed _ hgate)).trans
    (pyEq_of_norm (hthreshold "threshold") (hnan _ hmem))

/-- A published pass without gate errors : all gates of the run passed. -/
theorem derived_of_pass {derive : Mapping → Except Raised (List (String × GateResult))}
    {results run : Mapping} (h : gateErrors derive results run = [])
    (hpass : results.get "aggregate_disposition" = .str "pass") :
    ∃ metrics derived, run.get "metrics" = .dict metrics ∧ derive metrics = .ok derived ∧
      ∀ gate ∈ derived, gate.2.passed = true := by
  unfold gateErrors at h
  rcases hderived : derivedGates derive run with ⟨errors, derived⟩
  rw [hderived] at h
  simp only [List.append_eq_nil_iff, differing_eq_nil, List.forall_mem_cons] at h
  obtain ⟨rfl, -, hdisposition, -⟩ := h
  rw [hpass, pyEq_str, Json.str.injEq] at hdisposition
  unfold disposition at hdisposition
  split_ifs at hdisposition with hall
  · unfold derivedGates at hderived
    split at hderived
    · next metrics hmetrics =>
      split at hderived
      · next derived' hderive =>
        obtain rfl := (Prod.mk.inj hderived).2
        exact ⟨metrics, derived', hmetrics, hderive, hall.2⟩
      · simp at hderived
    · simp at hderived
  · simp at hdisposition

section runs

variable [PayloadHash] [JsonLoads]

/-- A required number of runs is positive. -/
theorem executionControls_eq_ok {protocol execution : Mapping} {requiredRuns : Json}
    (h : executionControls protocol = .ok (execution, requiredRuns)) :
    ∃ n, requiredRuns.intValue? = some n ∧ 1 ≤ n := by
  unfold executionControls at h
  split at h
  · dsimp only at h
    split_ifs at h with hn
    obtain ⟨-, rfl⟩ := Prod.mk.inj (Except.ok.inj h)
    exact hn
  · simp at h

/-- There is a first payload, and it reads as an object. -/
theorem run_of_decoded {runPayloads : List Bytes} {requiredRuns normalized : Json} {run : Mapping}
    (hrequired : ∃ n, requiredRuns.intValue? = some n ∧ 1 ≤ n)
    (hcount : PyEq (count runPayloads.length) requiredRuns)
    {message : String} (hnormalized : normalizedRun message runPayloads = .ok ([], normalized))
    (hrun : normalized.getter = .ok run) :
    ∃ first rest, runPayloads = first :: rest ∧ JsonLoads.loads first = .ok (.dict run) := by
  obtain ⟨n, hn, hpos⟩ := hrequired
  rw [pyEq_of_intValue? rfl hn] at hcount
  rcases runPayloads with _ | ⟨first, rest⟩
  · simp at hcount
    omega
  · refine ⟨first, rest, rfl, ?_⟩
    dsimp only [normalizedRun] at hnormalized
    split at hnormalized
    · next value hloads =>
      obtain ⟨-, rfl⟩ := Prod.mk.inj (Except.ok.inj hnormalized)
      rw [hloads]
      rcases value with _ | _ | _ | _ | _ | _ | members <;> simp [getter] at hrun
      rw [hrun]
    · simp at hnormalized
    · simp at hnormalized

end runs

/-- A list equal to a list of objects is one, of objects with equal members. -/
theorem entries_of_pyEq {α : Type} {toMapping : α → Mapping} {published : Json} {items : List α}
    (h : PyEq published (.list (items.map fun item => .dict (toMapping item)))) :
    ∃ entries : List Mapping, published = .list (entries.map .dict) ∧
      ∀ entry ∈ entries, ∃ item ∈ items,
        ∀ k, (entry.get k).norm = ((toMapping item).get k).norm := by
  obtain ⟨xs, rfl, hxs⟩ := h.list
  have hdict : ∀ x ∈ xs, ∃ item ∈ items, ∃ entry : Mapping, x = .dict entry ∧
      ∀ k, (entry.get k).norm = ((toMapping item).get k).norm := by
    intro x hx
    have hmem : x.norm ∈ xs.map Json.norm := List.mem_map_of_mem hx
    rw [hxs, List.map_map] at hmem
    obtain ⟨item, hitem, hnorm⟩ := List.mem_map.1 hmem
    obtain ⟨entry, rfl, hget⟩ := (pyEq_of_norm hnorm.symm (by simp)).dict
    exact ⟨item, hitem, entry, rfl, hget⟩
  refine ⟨xs.map members, ?_, fun entry hentry => ?_⟩
  · have hsame : xs.map (fun x => Json.dict x.members) = xs.map id := by
      refine List.map_congr_left fun x hx => ?_
      obtain ⟨-, -, entry, rfl, -⟩ := hdict x hx
      rfl
    rw [List.map_map]
    exact congrArg Json.list (hsame.trans (List.map_id xs)).symm
  · obtain ⟨x, hx, rfl⟩ := List.mem_map.1 hentry
    obtain ⟨item, hitem, entry, rfl, hget⟩ := hdict x hx
    exact ⟨item, hitem, hget⟩

/-- The published document repeats the metrics and the items of the run, and the metrics
meet the thresholds. -/
structure Backed (thresholds : Mapping) (items : List String) (results run : Mapping) : Prop where
  metrics : PyEq (results.get "metrics") (run.get "metrics")
  items : ∀ key ∈ items, PyEq (results.get key) (run.get key)
  meets : ∃ metrics, run.get "metrics" = .dict metrics ∧ Meets thresholds metrics

/-- The checks that both verifiers make of a published pass. -/
theorem backed_of_checks [PayloadHash] [JsonLoads] {key message : String}
    {protocol execution results run thresholds : Mapping} {requiredRuns normalized : Json}
    {runPayloads : List Bytes} {items : List String} (hkeys : (thresholds.map Prod.fst).Nodup)
    (hnan : ∀ threshold ∈ thresholds, threshold.2 ≠ .float .nan)
    (hgates : PyEq (protocol.get key) (.dict (eqGates thresholds)))
    (hcontrols : executionControls protocol = .ok (execution, requiredRuns))
    (hcount : PyEq (count runPayloads.length) requiredRuns)
    (hnormalized : normalizedRun message runPayloads = .ok ([], normalized))
    (hrun : normalized.getter = .ok run)
    (hfields : ∀ field ∈ "metrics" :: items, PyEq (results.get field) (run.get field))
    (hgateErrors : gateErrors (deriveGateResults key protocol) results run = [])
    (hpass : results.get "aggregate_disposition" = .str "pass") :
    ∃ first rest run, runPayloads = first :: rest ∧ JsonLoads.loads first = .ok (.dict run) ∧
      Backed thresholds items results run := by
  rw [List.forall_mem_cons] at hfields
  obtain ⟨first, rest, rfl, hloads⟩ :=
    run_of_decoded (executionControls_eq_ok hcontrols) hcount hnormalized hrun
  obtain ⟨metrics, derived, hmetrics, hderived, hpassed⟩ := derived_of_pass hgateErrors hpass
  have hmeets := meets_of_derived hkeys hnan hgates hderived hpassed
  exact ⟨first, rest, run, rfl, hloads, hfields.1, hfields.2, metrics, hmetrics, hmeets⟩

end Publication

namespace ReliabilityV1

variable [PayloadHash] [JsonLoads] {protocol scenarios results : Mapping}
  {runPayloads : List Bytes} {protocolSha256 scenarioSha256 : String}

/-- A published pass without errors repeats a run whose metrics meet the frozen gates. -/
theorem backed_of_pass
    (hgates : PyEq (protocol.get "metrics") (.dict (eqGates reliabilityThresholds)))
    (h : validate protocol scenarios results runPayloads protocolSha256 scenarioSha256 = .ok [])
    (hpass : results.get "aggregate_disposition" = .str "pass") :
    ∃ first rest run, runPayloads = first :: rest ∧ JsonLoads.loads first = .ok (.dict run) ∧
      Backed reliabilityThresholds ["scenario_results"] results run := by
  unfold validate at h
  split at h
  · simp at h
  · next execution requiredRuns hcontrols =>
    obtain ⟨⟨decodeErrors, normalized⟩, hnormalized, h⟩ := bind_eq_ok.1 h
    obtain ⟨run, hrun, h⟩ := bind_eq_ok.1 h
    simp only [Except.ok.injEq, List.append_eq_nil_iff, flag_eq_nil, not_not] at h
    obtain ⟨⟨⟨⟨⟨⟨hcount, -⟩, -⟩, -⟩, rfl⟩, hfields⟩, hgateErrors⟩ := h
    simp only [differing_eq_nil, publishedFields, List.forall_mem_cons] at hfields
    obtain ⟨-, -, -, -, -, -, hmetrics, hscenarios, -⟩ := hfields
    refine backed_of_checks (by decide) (by decide) hgates hcontrols hcount hnormalized hrun ?_
      hgateErrors hpass
    simp [hmetrics, hscenarios]

/-- What a published scenario result says of a scenario that passed. -/
structure EntryPasses (entry : Mapping) : Prop where
  passed : PyEq (entry.get "passed") (.bool true)
  safety : PyEq (entry.get "safety_applicable") (.bool true) →
    PyEq (entry.get "safety_passed") (.bool true)
  convergence : PyEq (entry.get "convergence_applicable") (.bool true) →
    PyEq (entry.get "convergence_passed") (.bool true)
  failClosed : PyEq (entry.get "fail_closed_applicable") (.bool true) →
    PyEq (entry.get "fail_closed_passed") (.bool true)
  duplicates : PyEq (entry.get "duplicate_effect_violations") (.int 0)

/-- The metrics of the run are those of its scenario results. -/
structure Computed (run : Mapping) (items : List ScenarioResult) : Prop where
  metrics : ∃ summary, summarizeResults items = .ok summary ∧
    PyEq (run.get "metrics") (.dict summary)
  items : PyEq (run.get "scenario_results") (.list (items.map fun item => .dict item.asdict))

/-- An outcome of a scenario that passed, as it is published. -/
theorem outcome_of_norm {entry : Mapping} {applicable outcome : String} {applies : Bool}
    {value : Option Bool} (happlies : (entry.get applicable).norm = (Json.bool applies).norm)
    (hvalue : (entry.get outcome).norm = (ScenarioResult.optional value).norm)
    (h : applies = true → value = some true) :
    PyEq (entry.get applicable) (.bool true) → PyEq (entry.get outcome) (.bool true) := by
  intro hentry
  have htrue : applies = true := by
    have hnorm := happlies.symm.trans hentry.2
    rcases applies with _ | _ <;> simp [Json.norm] at hnorm ⊢
  rw [h htrue] at hvalue
  exact pyEq_of_norm hvalue (by simp)

/-- The entries of a pass whose metrics are computed from its items all pass. -/
theorem entryPasses_of_backed {run : Mapping} {items : List ScenarioResult}
    (hbacked : Backed reliabilityThresholds ["scenario_results"] results run)
    (hcomputed : Computed run items) (hlen : items.length ≤ 2 ^ 53)
    (hcounts : ∀ item ∈ items, 0 ≤ item.duplicateEffectViolations) :
    ∃ entries : List Mapping, results.get "scenario_results" = .list (entries.map .dict) ∧
      ∀ entry ∈ entries, EntryPasses entry := by
  obtain ⟨metrics, hmetrics, hmeets⟩ := hbacked.meets
  obtain ⟨summary, hsummary, hsame⟩ := hcomputed.metrics
  rw [hmetrics] at hsame
  have hpasses := passes_of_meets hsummary hsame hlen hcounts hmeets
  obtain ⟨entries, hentries, heach⟩ :=
    entries_of_pyEq ((hbacked.items _ (by simp)).trans hcomputed.items)
  refine ⟨entries, hentries, fun entry hentry => ?_⟩
  obtain ⟨item, hitem, hget⟩ := heach entry hentry
  have hitemPasses := hpasses item hitem
  refine ⟨?_, ?_, ?_, ?_, ?_⟩
  · have hpassed : (entry.get "passed").norm = (Json.bool item.passed).norm := hget "passed"
    rw [hitemPasses.passed] at hpassed
    exact pyEq_of_norm hpassed (by simp)
  · exact outcome_of_norm (hget "safety_applicable") (hget "safety_passed") hitemPasses.safety
  · exact outcome_of_norm (hget "convergence_applicable") (hget "convergence_passed")
      hitemPasses.convergence
  · exact outcome_of_norm (hget "fail_closed_applicable") (hget "fail_closed_passed")
      hitemPasses.failClosed
  · have hduplicates : (entry.get "duplicate_effect_violations").norm =
        (Json.int item.duplicateEffectViolations).norm := hget "duplicate_effect_violations"
    rw [hitemPasses.duplicates] at hduplicates
    exact pyEq_of_norm hduplicates (by simp)

end ReliabilityV1

namespace TraceIntegrityV1

variable [PayloadHash] [JsonLoads] {protocol results : Mapping} {runPayloads : List Bytes}
  {protocolSha256 : String} {digests : FrozenDigests}

/-- A published pass without errors repeats a run whose metrics meet the frozen gates. -/
theorem backed_of_pass
    (hgates : PyEq (protocol.get "detection_gates") (.dict (eqGates traceThresholds)))
    (h : validate protocol results runPayloads protocolSha256 digests = .ok [])
    (hpass : results.get "aggregate_disposition" = .str "pass") :
    ∃ first rest run, runPayloads = first :: rest ∧ JsonLoads.loads first = .ok (.dict run) ∧
      Backed traceThresholds ["clean_results", "mutation_results"] results run := by
  unfold validate at h
  split at h
  · simp at h
  · next execution requiredRuns hcontrols =>
    obtain ⟨frozenArtifacts, -, h⟩ := bind_eq_ok.1 h
    obtain ⟨⟨decodeErrors, normalized⟩, hnormalized, h⟩ := bind_eq_ok.1 h
    obtain ⟨run, hrun, h⟩ := bind_eq_ok.1 h
    simp only [Except.ok.injEq, List.append_eq_nil_iff, flag_eq_nil, not_not] at h
    obtain ⟨⟨⟨⟨⟨⟨hcount, -⟩, -⟩, -⟩, rfl⟩, hfields⟩, hgateErrors⟩ := h
    simp only [differing_eq_nil, publishedFields, List.forall_mem_cons] at hfields
    obtain ⟨-, -, -, -, -, -, hmetrics, hclean, hmutations, -⟩ := hfields
    refine backed_of_checks (by decide) (by decide) hgates hcontrols hcount hnormalized hrun ?_
      hgateErrors hpass
    simp [hmetrics, hclean, hmutations]

/-- The metrics of the run are those of its results. -/
structure Computed (run : Mapping) (cleanResults : List CleanResult)
    (mutationResults : List MutationResult) : Prop where
  metrics : ∃ metrics, corpusMetrics cleanResults mutationResults = .ok metrics ∧
    PyEq (run.get "metrics") (.dict metrics)
  clean : PyEq (run.get "clean_results")
    (.list (cleanResults.map fun result => .dict result.toMapping))
  mutations : PyEq (run.get "mutation_results")
    (.list (mutationResults.map fun result => .dict result.toMapping))

/-- The published entries under `results` all have `key` true. -/
def AllTrue (results : Json) (key : String) : Prop :=
  ∃ entries : List Mapping, results = .list (entries.map .dict) ∧
    ∀ entry ∈ entries, PyEq (entry.get key) (.bool true)

theorem allTrue_of_pyEq {α : Type} {toMapping : α → Mapping} {published : Json} {items : List α}
    {key : String} {value : α → Bool}
    (h : PyEq published (.list (items.map fun item => .dict (toMapping item))))
    (hkey : ∀ item, (toMapping item).get key = .bool (value item))
    (hvalue : ∀ item ∈ items, value item = true) : AllTrue published key := by
  obtain ⟨entries, hentries, heach⟩ := entries_of_pyEq h
  refine ⟨entries, hentries, fun entry hentry => ?_⟩
  obtain ⟨item, hitem, hget⟩ := heach entry hentry
  have hnorm := hget key
  rw [hkey, hvalue item hitem] at hnorm
  exact pyEq_of_norm hnorm (by simp)

/-- The entries of a pass whose metrics are computed from its results are all as they
should be. -/
theorem allTrue_of_backed {run : Mapping} {cleanResults : List CleanResult}
    {mutationResults : List MutationResult}
    (hbacked : Backed traceThresholds ["clean_results", "mutation_results"] results run)
    (hcomputed : Computed run cleanResults mutationResults) :
    AllTrue (results.get "clean_results") "accepted" ∧
      AllTrue (results.get "mutation_results") "detected" := by
  obtain ⟨metrics, hmetrics, hmeets⟩ := hbacked.meets
  obtain ⟨computed, hcorpus, hsame⟩ := hcomputed.metrics
  rw [hmetrics] at hsame
  obtain ⟨haccepted, hdetected⟩ := detects_of_meets hcorpus hsame hmeets
  exact ⟨allTrue_of_pyEq ((hbacked.items _ (by simp)).trans hcomputed.clean) (fun _ => rfl)
      haccepted,
    allTrue_of_pyEq ((hbacked.items _ (by simp)).trans hcomputed.mutations) (fun _ => rfl)
      hdetected⟩

end TraceIntegrityV1

/-! ## A published pass -/

namespace Publication

section backed

variable [PayloadHash] [JsonLoads]

/-- A publication of the frozen gates that passes without errors repeats the items and the
metrics of its run, and the metrics meet the gates. If the run's metrics are those that the
evaluation computes from the run's items, every published item passes. -/
theorem published_pass_backed :
    (∀ (protocol scenarios results : Mapping) (runPayloads : List Bytes)
      (protocolSha256 scenarioSha256 : String),
      PyEq (protocol.get "metrics") (.dict (eqGates reliabilityThresholds)) →
      ReliabilityV1.validate protocol scenarios results runPayloads protocolSha256
        scenarioSha256 = .ok [] →
      results.get "aggregate_disposition" = .str "pass" →
      ∃ first rest run, runPayloads = first :: rest ∧ JsonLoads.loads first = .ok (.dict run) ∧
        Backed reliabilityThresholds ["scenario_results"] results run ∧
        ∀ items : List ScenarioResult, ReliabilityV1.Computed run items →
          items.length ≤ 2 ^ 53 → (∀ item ∈ items, 0 ≤ item.duplicateEffectViolations) →
          ∃ entries : List Mapping,
            results.get "scenario_results" = .list (entries.map .dict) ∧
              ∀ entry ∈ entries, ReliabilityV1.EntryPasses entry) ∧
    ∀ (protocol results : Mapping) (runPayloads : List Bytes) (protocolSha256 : String)
      (digests : TraceIntegrityV1.FrozenDigests),
      PyEq (protocol.get "detection_gates") (.dict (eqGates traceThresholds)) →
      TraceIntegrityV1.validate protocol results runPayloads protocolSha256 digests = .ok [] →
      results.get "aggregate_disposition" = .str "pass" →
      ∃ first rest run, runPayloads = first :: rest ∧ JsonLoads.loads first = .ok (.dict run) ∧
        Backed traceThresholds ["clean_results", "mutation_results"] results run ∧
        ∀ cleanResults mutationResults,
          TraceIntegrityV1.Computed run cleanResults mutationResults →
          TraceIntegrityV1.AllTrue (results.get "clean_results") "accepted" ∧
            TraceIntegrityV1.AllTrue (results.get "mutation_results") "detected" := by
  refine ⟨?_, ?_⟩
  · intro protocol scenarios results runPayloads protocolSha256 scenarioSha256 hgates h hpass
    obtain ⟨first, rest, run, hpayloads, hloads, hbacked⟩ :=
      ReliabilityV1.backed_of_pass hgates h hpass
    exact ⟨first, rest, run, hpayloads, hloads, hbacked, fun items hcomputed hlen hcounts =>
      ReliabilityV1.entryPasses_of_backed hbacked hcomputed hlen hcounts⟩
  · intro protocol results runPayloads protocolSha256 digests hgates h hpass
    obtain ⟨first, rest, run, hpayloads, hloads, hbacked⟩ :=
      TraceIntegrityV1.backed_of_pass hgates h hpass
    exact ⟨first, rest, run, hpayloads, hloads, hbacked, fun cleanResults mutationResults =>
      TraceIntegrityV1.allTrue_of_backed hbacked⟩

end backed

/-! Publications of one scenario, and of one clean trace and one mutation. -/

/-- One digest for every payload. -/
@[reducible] def constantHash (digest : String) : PayloadHash where
  sha256Hexdigest _ := digest

/-- One value for every payload. -/
@[reducible] def constantLoads (value : Json) : JsonLoads where
  loads _ := .ok value
  loadsText _ := .ok value

/-- The gate results of metrics at their thresholds. -/
def metGates (thresholds : Mapping) : Mapping :=
  thresholds.map fun threshold => (threshold.1, .dict [("actual", threshold.2),
    ("operator", .str "eq"), ("threshold", threshold.2), ("passed", .bool true)])

/-- The execution controls of the sample protocols. -/
def sampleExecution : Json :=
  .dict [("independent_runs_required", .int 2),
    ("normalized_output_byte_equal_required", .bool true)]

/-- The digest of the frozen scenarios. -/
def sampleScenarios : String :=
  "5ca2ab5cd388037d056420e678004dd9909e479c11b84fbd6424b7a7d06c9044"

/-- A protocol of one scenario. -/
def reliabilityProtocol : Mapping :=
  [("claim_boundary", .dict []), ("execution", sampleExecution),
    ("metrics", .dict (eqGates reliabilityThresholds)),
    ("protocol_id", .str "core-reliability-v1-20260911"),
    ("scenario_manifest", .dict [("scenario_count", .int 1), ("sha256", .str sampleScenarios)])]

/-- A result of that scenario. -/
def sampleScenario (passed : Bool) : ScenarioResult where
  scenarioId := "lost_ack_retry_idempotency"
  passed := passed
  safetyApplicable := true
  safetyPassed := some true
  convergenceApplicable := false
  convergencePassed := none
  failClosedApplicable := false
  failClosedPassed := none
  duplicateEffectViolations := 0
  detail := ""

/-- The metrics of one scenario that passed. -/
def sampleSummary : Mapping :=
  [("all_scenarios_passed", .bool true), ("convergence_applicable", .int 0),
    ("convergence_pass_rate", .float (.finite 1)), ("convergence_passed", .int 0),
    ("duplicate_effect_violations", .int 0), ("fail_closed_applicable", .int 0),
    ("fail_closed_pass_rate", .float (.finite 1)), ("fail_closed_passed", .int 0),
    ("safety_applicable", .int 1), ("safety_pass_rate", .float (.finite 1)),
    ("safety_passed", .int 1), ("scenario_count", .int 1),
    ("scenario_pass_rate", .float (.finite 1)), ("scenario_passed", .int 1)]

/-- A run of one scenario, with the metrics of one that passed. -/
def reliabilityRun (passed : Bool) : Mapping :=
  [("metrics", .dict sampleSummary),
    ("scenario_results", .list [.dict (sampleScenario passed).asdict])]

/-- The text of `reliabilityRun`, with its keys in order. -/
def reliabilityPayload (passed : Bool) : Bytes :=
  ("\x7b\"metrics\": \x7b\"all_scenarios_passed\": true, \"convergence_applicable\": 0, " ++
    "\"convergence_pass_rate\": 1.0, \"convergence_passed\": 0, " ++
    "\"duplicate_effect_violations\": 0, \"fail_closed_applicable\": 0, " ++
    "\"fail_closed_pass_rate\": 1.0, \"fail_closed_passed\": 0, \"safety_applicable\": 1, " ++
    "\"safety_pass_rate\": 1.0, \"safety_passed\": 1, \"scenario_count\": 1, " ++
    "\"scenario_pass_rate\": 1.0, \"scenario_passed\": 1\x7d, " ++
    "\"scenario_results\": [\x7b\"convergence_applicable\": false, " ++
    "\"convergence_passed\": null, \"detail\": \"\", \"duplicate_effect_violations\": 0, " ++
    "\"fail_closed_applicable\": false, \"fail_closed_passed\": null, \"passed\": " ++
    (if passed then "true" else "false") ++ ", \"safety_applicable\": true, " ++
    "\"safety_passed\": true, \"scenario_id\": \"lost_ack_retry_idempotency\"\x7d]\x7d").toUTF8.data.toList

/-- The digest of `reliabilityPayload`. -/
def reliabilityDigest (passed : Bool) : String :=
  if passed then "a4a4b12dae1accb3485a7053fd486cf5d42e9aba56a3cd92b0cbded2b10557a7"
  else "ddee29a825aec2eaa719286eac2be4e9f4def0cfee20535f3567b4de3b1da61a"

/-- The publication of a run. -/
def reliabilityPublication [PayloadHash] (run : Mapping) (runPayloads : List Bytes) : Mapping :=
  [("aggregate_disposition", .str "pass"), ("claim_boundary", .dict []),
    ("freeze_commit_sha", .str ReliabilityV1.freezeCommitSha),
    ("frozen_gates", .dict (metGates reliabilityThresholds)), ("metrics", run.get "metrics"),
    ("protocol_id", .str "core-reliability-v1-20260911"),
    ("protocol_sha256", .str ReliabilityV1.expectedProtocolSha256),
    ("reproduction", expectedReproduction (.int 2) runPayloads),
    ("run_artifacts", expectedRuns "evals/reliability_v1" runPayloads),
    ("scenario_manifest_sha256", .str sampleScenarios),
    ("scenario_results", run.get "scenario_results"),
    ("schema_version", .str "carl.reliability-evaluation-publication.v1")]

/-- The frozen digests. -/
def traceDigests : TraceIntegrityV1.FrozenDigests where
  baselines := "9b2b62d25d849be3123c3b0212351e89c2876dbd8e861675a2a084e666f9c4c5"
  detector := "d481d451106dbcf3f7fad7e89ce5aed12bdded26c179553150092524af0cd0e7"
  mutations := "ef4f7eb8bdc8170afe15eb6ae4bf59c5bd677477dde1c0d8e398ee8aeb448af2"
  schema := "2d1281fc3c16dacca9eb2136c090417adeea160531b812e340a8a3fc6065a7cc"

/-- A protocol with the frozen digests. -/
def traceProtocol : Mapping :=
  [("artifacts", .dict [("baseline_traces", .dict [("sha256", .str traceDigests.baselines)]),
      ("mutation_corpus", .dict [("sha256", .str traceDigests.mutations)]),
      ("trace_schema", .dict [("sha256", .str traceDigests.schema)])]),
    ("claim_boundary", .dict []), ("detection_gates", .dict (eqGates traceThresholds)),
    ("detector", .dict [("sha256", .str traceDigests.detector)]), ("execution", sampleExecution),
    ("protocol_id", .str "trace-integrity-v1-20260913")]

/-- A result on a baseline trace. -/
def sampleClean (accepted : Bool) : CleanResult where
  traceId := .str "retry_then_reconcile"
  accepted := accepted
  violations := []

/-- A result on a mutation of it. -/
def sampleMutation (detected : Bool) : MutationResult where
  mutationId := .str "checkpoint_plan_hash_drift"
  detected := detected
  violations := ["checkpoint_plan_drift"]

/-- A run of one trace and one mutation, with the metrics of ones that are right. -/
def traceRun (right : Bool) : Mapping :=
  [("clean_results", .list [.dict (sampleClean right).toMapping]),
    ("metrics", .dict [("clean_trace_accept_rate", .float (.finite 1)),
      ("clean_trace_count", .int 1), ("detector_error_count", .int 0),
      ("false_negative_count", .int 0), ("false_positive_count", .int 0),
      ("mutation_count", .int 1), ("mutation_detection_rate", .float (.finite 1))]),
    ("mutation_results", .list [.dict (sampleMutation right).toMapping])]

/-- The text of `traceRun`, with its keys in order. -/
def tracePayload (right : Bool) : Bytes :=
  let verdict := if right then "true" else "false"
  ("\x7b\"clean_results\": [\x7b\"accepted\": " ++ verdict ++
    ", \"trace_id\": \"retry_then_reconcile\", \"violations\": []\x7d], " ++
    "\"metrics\": \x7b\"clean_trace_accept_rate\": 1.0, \"clean_trace_count\": 1, " ++
    "\"detector_error_count\": 0, \"false_negative_count\": 0, " ++
    "\"false_positive_count\": 0, \"mutation_count\": 1, " ++
    "\"mutation_detection_rate\": 1.0\x7d, \"mutation_results\": [\x7b\"detected\": " ++
    verdict ++ ", \"mutation_id\": \"checkpoint_plan_hash_drift\", " ++
    "\"violations\": [\"checkpoint_plan_drift\"]\x7d]\x7d").toUTF8.data.toList

/-- The digest of `tracePayload`. -/
def traceDigest (right : Bool) : String :=
  if right then "e34782ae18d8619c115f76c41c5635fb5e6bc89f1327c6ddb96aae14763a5a59"
  else "108a10e51ba4988e24b30e121c4f836addd7ffb2b8811a2262e6e87b72bb1d1c"

/-- The publication of a run. -/
def tracePublication [PayloadHash] (run : Mapping) (runPayloads : List Bytes) : Mapping :=
  [("aggregate_disposition", .str "pass"), ("claim_boundary", .dict []),
    ("clean_results", run.get "clean_results"),
    ("freeze_commit_sha", .str TraceIntegrityV1.freezeCommitSha),
    ("frozen_artifacts", TraceIntegrityV1.actualFrozenArtifacts traceDigests),
    ("frozen_gates", .dict (metGates traceThresholds)), ("metrics", run.get "metrics"),
    ("mutation_results", run.get "mutation_results"),
    ("protocol_id", .str "trace-integrity-v1-20260913"),
    ("protocol_sha256", .str TraceIntegrityV1.expectedProtocolSha256),
    ("reproduction", expectedReproduction (.int 2) runPayloads),
    ("run_artifacts", expectedRuns "evals/trace_integrity_v1" runPayloads),
    ("schema_version", .str "carl.trace-integrity-publication.v1")]

/-- The publication of `reliabilityRun`. -/
def reliabilityDocument (passed : Bool) : Mapping :=
  letI := constantHash (reliabilityDigest passed)
  reliabilityPublication (reliabilityRun passed)
    [reliabilityPayload passed, reliabilityPayload passed]

/-- The errors of `reliabilityDocument`. -/
def reliabilityErrors (passed : Bool) : Except Raised (List String) :=
  letI := constantHash (reliabilityDigest passed)
  letI := constantLoads (.dict (reliabilityRun passed))
  ReliabilityV1.validate reliabilityProtocol [("scenarios", .list [.dict []])]
    (reliabilityDocument passed) [reliabilityPayload passed, reliabilityPayload passed]
    ReliabilityV1.expectedProtocolSha256 sampleScenarios

/-- The publication of `traceRun`. -/
def traceDocument (right : Bool) : Mapping :=
  letI := constantHash (traceDigest right)
  tracePublication (traceRun right) [tracePayload right, tracePayload right]

/-- The errors of `traceDocument`. -/
def traceErrors (right : Bool) : Except Raised (List String) :=
  letI := constantHash (traceDigest right)
  letI := constantLoads (.dict (traceRun right))
  TraceIntegrityV1.validate traceProtocol (traceDocument right)
    [tracePayload right, tracePayload right] TraceIntegrityV1.expectedProtocolSha256 traceDigests

theorem published_pass_backed_sample :
    (∃ entries : List Mapping,
      (reliabilityDocument true).get "scenario_results" = .list (entries.map .dict) ∧
        ∀ entry ∈ entries, ReliabilityV1.EntryPasses entry) ∧
    TraceIntegrityV1.AllTrue ((traceDocument true).get "clean_results") "accepted" ∧
      TraceIntegrityV1.AllTrue ((traceDocument true).get "mutation_results") "detected" := by
  refine ⟨?_, ?_⟩
  · let := constantHash (reliabilityDigest true)
    let := constantLoads (.dict (reliabilityRun true))
    have hvalid : reliabilityErrors true = .ok [] := by decide +kernel
    obtain ⟨first, rest, run, -, hloads, -, hbacked⟩ := published_pass_backed.1
      reliabilityProtocol _ (reliabilityDocument true) _ _ _ (by decide +kernel) hvalid rfl
    obtain rfl := Json.dict.inj (Except.ok.inj hloads)
    refine hbacked [sampleScenario true] ⟨⟨_, rfl, ?_⟩, ?_⟩ ?_ ?_
    · decide +kernel
    · decide +kernel
    · decide
    · decide
  · let := constantHash (traceDigest true)
    let := constantLoads (.dict (traceRun true))
    have hvalid : traceErrors true = .ok [] := by decide +kernel
    obtain ⟨first, rest, run, -, hloads, -, hbacked⟩ := published_pass_backed.2 traceProtocol
      (traceDocument true) _ _ _ (by decide +kernel) hvalid rfl
    obtain rfl := Json.dict.inj (Except.ok.inj hloads)
    refine hbacked [sampleClean true] [sampleMutation true] ⟨⟨_, rfl, ?_⟩, ?_, ?_⟩
    · decide +kernel
    · decide +kernel
    · decide +kernel

/-- Publications of runs whose items contradict their metrics pass without errors. -/
theorem unbacked_pass :
    (PyEq (reliabilityProtocol.get "metrics") (.dict (eqGates reliabilityThresholds)) ∧
      reliabilityErrors false = .ok [] ∧
      (reliabilityDocument false).get "aggregate_disposition" = .str "pass" ∧
      (reliabilityDocument false).get "scenario_results" =
        .list [.dict (sampleScenario false).asdict] ∧
      Mapping.get (sampleScenario false).asdict "passed" = .bool false) ∧
    PyEq (traceProtocol.get "detection_gates") (.dict (eqGates traceThresholds)) ∧
      traceErrors false = .ok [] ∧
      (traceDocument false).get "aggregate_disposition" = .str "pass" ∧
      (traceDocument false).get "clean_results" = .list [.dict (sampleClean false).toMapping] ∧
      Mapping.get (sampleClean false).toMapping "accepted" = .bool false ∧
      (traceDocument false).get "mutation_results" =
        .list [.dict (sampleMutation false).toMapping] ∧
      Mapping.get (sampleMutation false).toMapping "detected" = .bool false := by
  refine ⟨⟨?_, ?_, rfl, rfl, rfl⟩, ?_, ?_, rfl, rfl, rfl, rfl, rfl⟩
  · decide +kernel
  · decide +kernel
  · decide +kernel
  · decide +kernel

end Publication

end ReliabilityLab
