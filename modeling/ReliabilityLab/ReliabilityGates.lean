import ReliabilityLab.PublishedPass

/-!
# The reliability gates

The frozen gates of the reliability evaluation on the metrics of any results. Each gate has a
result, since each gated metric is a number, and all pass exactly if every scenario result
passes (`gates_pass_iff`). So it is for exact rates (`exactGates_pass_iff`), and for doubles up
to `2 ^ 53` results (`doubleGates_pass_iff`).
-/

open Serial

namespace ReliabilityLab

open Json

open Publication

/-! ## Gates -/

/-- The frozen gates. -/
def expectedMetrics : Mapping :=
  [("scenario_pass_rate", .dict [("operator", .str "eq"), ("threshold", .float (.finite 1))]),
    ("safety_pass_rate", .dict [("operator", .str "eq"), ("threshold", .float (.finite 1))]),
    ("convergence_pass_rate", .dict [("operator", .str "eq"), ("threshold", .float (.finite 1))]),
    ("fail_closed_pass_rate", .dict [("operator", .str "eq"), ("threshold", .float (.finite 1))]),
    ("duplicate_effect_violations", .dict [("operator", .str "eq"), ("threshold", .int 0)])]

theorem sortedItems_expectedMetrics :
    sortedItems expectedMetrics = eqGates reliabilityThresholds := by
  decide +kernel

/-- The result of the gate that compares a metric with its threshold. -/
def eqGateResult (metrics : Mapping) (threshold : String × Json) : String × GateResult :=
  (threshold.1, ⟨metrics.get threshold.1, "eq", threshold.2,
    PyEq (metrics.get threshold.1) threshold.2⟩)

/-- Gates on numbers all have results. -/
theorem deriveGates_eqGates {metrics thresholds : Mapping}
    (hthresholds : ∀ threshold ∈ thresholds, isNumber threshold.2 = true)
    (hmetrics : ∀ threshold ∈ thresholds, isNumber (metrics.get threshold.1) = true) :
    deriveGates metrics (eqGates thresholds) = .ok (thresholds.map (eqGateResult metrics)) := by
  induction thresholds with
  | nil => rfl
  | cons threshold thresholds ih =>
    rw [List.forall_mem_cons] at hthresholds hmetrics
    have hgate : deriveGate metrics threshold.1
        (.dict [("operator", .str "eq"), ("threshold", threshold.2)]) =
        .ok (eqGateResult metrics threshold).2 := by
      have hthreshold : Mapping.get
          [("operator", .str "eq"), ("threshold", threshold.2)] "threshold" = threshold.2 := rfl
      have hoperator : Mapping.get
          [("operator", .str "eq"), ("threshold", threshold.2)] "operator" = .str "eq" := rfl
      simp [deriveGate, hthreshold, hoperator, hthresholds.1, hmetrics.1, gatePassed,
        eqGateResult]
    rw [eqGates, List.map_cons, deriveGates, hgate, ok_bind, ← eqGates,
      ih hthresholds.2 hmetrics.2]
    rfl

theorem eqGateResults_passed {metrics thresholds : Mapping} :
    (∀ gate ∈ thresholds.map (eqGateResult metrics), gate.2.passed = true) ↔
      Meets thresholds metrics := by
  rw [List.forall_mem_map]
  simp only [eqGateResult, decide_eq_true_eq, Meets]

theorem reliabilityThresholds_isNumber :
    ∀ threshold ∈ reliabilityThresholds, isNumber threshold.2 = true := by
  decide

theorem isNumber_of_outcomeRateBy {quotient : ℕ → ℕ → ℚ} {results : List ScenarioResult}
    {outcome : ScenarioResult → Option Bool} {rate : Json}
    (h : outcomeRateBy quotient results outcome = .ok rate) : isNumber rate = true := by
  unfold outcomeRateBy at h
  split_ifs at h with hnone
  · obtain rfl := Except.ok.inj h
    rfl
  · rw [divide_eq_ok (List.length_pos_iff.2 hnone).ne'] at h
    obtain rfl := Except.ok.inj h
    rfl

section gates

variable {quotient : ℕ → ℕ → ℚ} {results : List ScenarioResult} {metrics : Mapping}

/-- The metrics that the frozen gates compare are numbers. -/
theorem Rated.isNumber (h : Rated quotient results metrics) :
    ∀ threshold ∈ reliabilityThresholds, isNumber (metrics.get threshold.1) = true := by
  intro threshold hmem
  simp only [reliabilityThresholds, List.mem_cons, List.not_mem_nil, or_false] at hmem
  obtain rfl | rfl | rfl | rfl | rfl := hmem
  · exact isNumber_of_outcomeRateBy h.convergence
  · rw [h.duplicates]
    rfl
  · exact isNumber_of_outcomeRateBy h.failClosed
  · exact isNumber_of_outcomeRateBy h.safety
  · rw [h.scenario]
    rfl

/-- The frozen gates on a summary all have results, and all pass exactly if every result
passes. -/
theorem gates_pass_iff {protocol : Mapping}
    (hgates : protocol.get "metrics" = .dict expectedMetrics)
    (hquotient : OneIfAll results.length quotient) (hne : results ≠ [])
    (hcounts : ∀ result ∈ results, 0 ≤ result.duplicateEffectViolations) :
    ∃ metrics derived, summarizeBy quotient results = .ok metrics ∧
      ReliabilityV1.deriveGateResults protocol metrics = .ok derived ∧
      derived.map Prod.fst = reliabilityThresholds.map Prod.fst ∧
      ((∀ gate ∈ derived, gate.2.passed = true) ↔ ∀ result ∈ results, result.Passes) := by
  obtain ⟨metrics, hsummary⟩ := summarizeBy_returns quotient hne
  have hgated := Gated.of_summary hquotient hsummary
  refine ⟨metrics, reliabilityThresholds.map (eqGateResult metrics), hsummary, ?_, ?_, ?_⟩
  · rw [ReliabilityV1.deriveGateResults, Publication.deriveGateResults, hgates]
    dsimp only
    rw [sortedItems_expectedMetrics]
    exact deriveGates_eqGates reliabilityThresholds_isNumber (rated_of_summary hsummary).isNumber
  · simp [eqGateResult]
  · rw [eqGateResults_passed, hgated.meets_iff hcounts]

/-- With exact rates, the frozen gates all pass exactly if every result passes. -/
theorem exactGates_pass_iff (protocol : Mapping)
    (hgates : protocol.get "metrics" = .dict expectedMetrics) (results : List ScenarioResult)
    (hne : results ≠ []) (hcounts : ∀ result ∈ results, 0 ≤ result.duplicateEffectViolations) :
    ∃ metrics derived, summarizeBy exactDiv results = .ok metrics ∧
      ReliabilityV1.deriveGateResults protocol metrics = .ok derived ∧
      derived.map Prod.fst = reliabilityThresholds.map Prod.fst ∧
      ((∀ gate ∈ derived, gate.2.passed = true) ↔ ∀ result ∈ results, result.Passes) :=
  gates_pass_iff hgates (oneIfAll_exactDiv _) hne hcounts

/-- With doubles, up to `2 ^ 53` results. -/
theorem doubleGates_pass_iff {protocol : Mapping}
    (hgates : protocol.get "metrics" = .dict expectedMetrics) (hne : results ≠ [])
    (hlen : results.length ≤ 2 ^ 53)
    (hcounts : ∀ result ∈ results, 0 ≤ result.duplicateEffectViolations) :
    ∃ metrics derived, summarizeResults results = .ok metrics ∧
      ReliabilityV1.deriveGateResults protocol metrics = .ok derived ∧
      derived.map Prod.fst = reliabilityThresholds.map Prod.fst ∧
      ((∀ gate ∈ derived, gate.2.passed = true) ↔ ∀ result ∈ results, result.Passes) :=
  gates_pass_iff hgates (oneIfAll_trueDiv.mono hlen) hne hcounts

end gates

/-! ## Sample results -/

/-- Two results, each with outcomes that do not apply. -/
def sampleResults : List ScenarioResult :=
  [sampleScenario true,
    ⟨"terminal_conflict_fails_closed", true, true, some true, false, none, true, some true, 0, ""⟩]

/-- The frozen gates on two results. -/
theorem exactGates_pass_iff_sample :
    ∃ metrics derived, summarizeBy exactDiv sampleResults = .ok metrics ∧
      ReliabilityV1.deriveGateResults [("metrics", .dict expectedMetrics)] metrics = .ok derived ∧
      derived.map Prod.fst = reliabilityThresholds.map Prod.fst ∧
      ((∀ gate ∈ derived, gate.2.passed = true) ↔ ∀ result ∈ sampleResults, result.Passes) :=
  exactGates_pass_iff [("metrics", .dict expectedMetrics)] rfl sampleResults (by decide)
    (by decide)

end ReliabilityLab
