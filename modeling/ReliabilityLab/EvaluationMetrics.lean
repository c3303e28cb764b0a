import Mathlib.Algebra.Order.BigOperators.Group.List
import ReliabilityLab.Floats
import ReliabilityLab.Json
import ReliabilityLab.Transaction

/-!
# Evaluation metrics

What the two evaluations count. `summarizeResults` is the metrics block of the reliability
scenarios, `corpusMetrics` that of the trace corpus. `Meets` : a block meets thresholds.

`summarize_results` divides up to four times : by the number of results, and by the number of
those that an outcome applies to. `summarizeBy quotient` makes these divisions with the
quotient as a parameter, and a division by zero raises. With doubles it is `summarizeResults`,
with `exactDiv` its rates are exact. No division raises (`summarizeBy_returns`), and each rate
is one exactly if all items count, for a quotient that is one for equal counts only
(`OneIfAll`).

`passes_of_meets` and `detects_of_meets` : a block computed from items meets the frozen
thresholds only if every item is what it should be. `meets_of_passes` and `meets_of_detects` :
then it does.
-/

open Serial

namespace ReliabilityLab

open Json

/-- The metrics meet every threshold. -/
def Meets (thresholds metrics : Mapping) : Prop :=
  ∀ threshold ∈ thresholds, PyEq (metrics.get threshold.1) threshold.2

/-- Equal metrics meet the same thresholds. -/
theorem Meets.of_pyEq {thresholds metrics summary : Mapping} (h : Meets thresholds metrics)
    (hsame : PyEq (.dict metrics) (.dict summary)) : Meets thresholds summary := by
  obtain ⟨ms, heq, hget⟩ := hsame.dict
  obtain rfl := Json.dict.inj heq
  intro threshold hmem
  have hmet := h threshold hmem
  exact pyEq_of_norm ((hget threshold.1).symm.trans hmet.2) hmet.symm.1

/-- A count. -/
def Json.count (n : ℕ) : Json :=
  .int n

/-- `p / n`. -/
def Json.rate (p n : ℕ) : Json :=
  .float (.finite (trueDiv p n))

theorem norm_finite_eq_one {q : ℚ} : (Json.float (.finite q)).norm = .int 1 ↔ q = 1 := by
  constructor
  · intro h
    unfold Json.norm PyFloat.norm at h
    dsimp only at h
    split_ifs at h with hden
    have hnum : q.num = 1 := Json.int.inj h
    rw [← Rat.num_div_den q, hnum, hden]
    norm_num
  · rintro rfl
    decide

theorem rate_self {n : ℕ} (h : 0 < n) : rate n n = .float (.finite 1) := by
  rw [rate, trueDiv_self h]

/-- The exception of a division by zero. -/
def divisionByZero : Raised :=
  ⟨.zeroDivisionError, "division by zero"⟩

/-- `p / n`, with `quotient` as its value. -/
def divide (quotient : ℕ → ℕ → ℚ) (p n : ℕ) : Except Raised Json := do
  raiseIf (n = 0) divisionByZero
  .ok (.float (.finite (quotient p n)))

theorem divide_eq_ok {quotient : ℕ → ℕ → ℚ} {p n : ℕ} (hn : n ≠ 0) :
    divide quotient p n = .ok (.float (.finite (quotient p n))) := by
  rw [divide, raiseIf_neg hn, ok_bind]

/-- The exact quotient. -/
def exactDiv (p n : ℕ) : ℚ :=
  p / n

/-- Of at most `most` items, the quotient is one only if all count. -/
def OneIfAll (most : ℕ) (quotient : ℕ → ℕ → ℚ) : Prop :=
  ∀ p n, p ≤ n → 0 < n → n ≤ most → (quotient p n = 1 ↔ p = n)

theorem oneIfAll_exactDiv (most : ℕ) : OneIfAll most exactDiv := by
  intro p n _ hpos _
  have hne : (n : ℚ) ≠ 0 := by exact_mod_cast hpos.ne'
  rw [exactDiv, div_eq_one_iff_eq hne, Nat.cast_inj]

theorem oneIfAll_trueDiv : OneIfAll (2 ^ 53) trueDiv := by
  intro p n hle hpos hmost
  refine ⟨trueDiv_eq_one hle hmost, ?_⟩
  rintro rfl
  exact trueDiv_self hpos

/-- A rate that is one exactly if `all`. -/
def IsRateOf (value : Json) (all : Prop) : Prop :=
  ∃ q : ℚ, value = .float (.finite q) ∧ (q = 1 ↔ all)

theorem IsRateOf.pyEq_one {value : Json} {all : Prop} (h : IsRateOf value all) :
    PyEq value (.float (.finite 1)) ↔ all := by
  obtain ⟨q, rfl, hq⟩ := h
  rw [← hq, ← norm_finite_eq_one, ← norm_finite_eq_one.2 rfl]
  exact ⟨And.right, fun hnorm => pyEq_of_norm hnorm (by simp)⟩

/-! ## Scenarios -/

/-- The result of a scenario, with what of it applies. -/
structure ScenarioResult where
  scenarioId : String
  passed : Bool
  safetyApplicable : Bool
  safetyPassed : Option Bool
  convergenceApplicable : Bool
  convergencePassed : Option Bool
  failClosedApplicable : Bool
  failClosedPassed : Option Bool
  duplicateEffectViolations : Int
  detail : String
  deriving DecidableEq

namespace ScenarioResult

/-- A `bool | None`. -/
def optional : Option Bool → Json
  | some b => .bool b
  | none => .null

/-- `asdict(result)`. -/
def asdict (result : ScenarioResult) : Mapping :=
  [("scenario_id", .str result.scenarioId), ("passed", .bool result.passed),
    ("safety_applicable", .bool result.safetyApplicable),
    ("safety_passed", optional result.safetyPassed),
    ("convergence_applicable", .bool result.convergenceApplicable),
    ("convergence_passed", optional result.convergencePassed),
    ("fail_closed_applicable", .bool result.failClosedApplicable),
    ("fail_closed_passed", optional result.failClosedPassed),
    ("duplicate_effect_violations", .int result.duplicateEffectViolations),
    ("detail", .str result.detail)]

/-- The scenario passed, with every outcome that applies and no duplicate effect. -/
structure Passes (result : ScenarioResult) : Prop where
  passed : result.passed = true
  safety : result.safetyApplicable = true → result.safetyPassed = some true
  convergence : result.convergenceApplicable = true → result.convergencePassed = some true
  failClosed : result.failClosedApplicable = true → result.failClosedPassed = some true
  duplicates : result.duplicateEffectViolations = 0

end ScenarioResult

/-- The rate of an outcome, over the results it applies to. -/
def outcomeRateBy (quotient : ℕ → ℕ → ℚ) (results : List ScenarioResult)
    (outcome : ScenarioResult → Option Bool) : Except Raised Json :=
  if results = [] then .ok (.float (.finite 1))
  else divide quotient (results.countP fun result => outcome result = some true) results.length

/-- `summarize_results`, with `quotient` for its divisions. -/
def summarizeBy (quotient : ℕ → ℕ → ℚ) (results : List ScenarioResult) :
    Except Raised Mapping := do
  raiseIf (results = []) ⟨.valueError, "evaluation requires at least one scenario result"⟩
  let safety := results.filter (·.safetyApplicable)
  let convergence := results.filter (·.convergenceApplicable)
  let failClosed := results.filter (·.failClosedApplicable)
  let passedCount := results.countP (·.passed)
  let scenarioRate ← divide quotient passedCount results.length
  let safetyRate ← outcomeRateBy quotient safety (·.safetyPassed)
  let convergenceRate ← outcomeRateBy quotient convergence (·.convergencePassed)
  let failClosedRate ← outcomeRateBy quotient failClosed (·.failClosedPassed)
  .ok [("scenario_count", count results.length),
    ("scenario_passed", count passedCount),
    ("scenario_pass_rate", scenarioRate),
    ("safety_applicable", count safety.length),
    ("safety_passed", count (safety.countP (·.safetyPassed = some true))),
    ("safety_pass_rate", safetyRate),
    ("convergence_applicable", count convergence.length),
    ("convergence_passed", count (convergence.countP (·.convergencePassed = some true))),
    ("convergence_pass_rate", convergenceRate),
    ("fail_closed_applicable", count failClosed.length),
    ("fail_closed_passed", count (failClosed.countP (·.failClosedPassed = some true))),
    ("fail_closed_pass_rate", failClosedRate),
    ("duplicate_effect_violations", .int (results.map (·.duplicateEffectViolations)).sum),
    ("all_scenarios_passed", .bool (passedCount = results.length))]

/-- The metrics of scenario results. -/
def summarizeResults : List ScenarioResult → Except Raised Mapping :=
  summarizeBy trueDiv

/-- The frozen thresholds of the reliability metrics. -/
def reliabilityThresholds : Mapping :=
  [("convergence_pass_rate", .float (.finite 1)), ("duplicate_effect_violations", .int 0),
    ("fail_closed_pass_rate", .float (.finite 1)), ("safety_pass_rate", .float (.finite 1)),
    ("scenario_pass_rate", .float (.finite 1))]

section summary

variable {quotient : ℕ → ℕ → ℚ} {results : List ScenarioResult}

/-- The rate of the items that `p` counts. -/
theorem isRateOf_countP {α : Type} {xs : List α} (p : α → Bool)
    (hquotient : OneIfAll xs.length quotient) (hne : xs ≠ []) :
    IsRateOf (.float (.finite (quotient (xs.countP p) xs.length))) (∀ x ∈ xs, p x = true) := by
  refine ⟨_, rfl, ?_⟩
  rw [hquotient _ _ List.countP_le_length (List.length_pos_iff.2 hne) le_rfl,
    List.countP_eq_length]

theorem OneIfAll.mono {most most' : ℕ} (h : OneIfAll most' quotient) (hle : most ≤ most') :
    OneIfAll most quotient :=
  fun p n hp hpos hn => h p n hp hpos (hn.trans hle)

theorem outcomeRateBy_returns (quotient : ℕ → ℕ → ℚ) (results : List ScenarioResult)
    (outcome : ScenarioResult → Option Bool) :
    ∃ rate, outcomeRateBy quotient results outcome = .ok rate := by
  unfold outcomeRateBy
  split_ifs with hnone
  · exact ⟨_, rfl⟩
  · exact ⟨_, divide_eq_ok (List.length_pos_iff.2 hnone).ne'⟩

/-- No division raises, whichever outcomes apply. -/
theorem summarizeBy_returns (quotient : ℕ → ℕ → ℚ) (hne : results ≠ []) :
    ∃ metrics, summarizeBy quotient results = .ok metrics := by
  have hlen : results.length ≠ 0 := (List.length_pos_iff.2 hne).ne'
  obtain ⟨safetyRate, hsafety⟩ :=
    outcomeRateBy_returns quotient (results.filter (·.safetyApplicable)) (·.safetyPassed)
  obtain ⟨convergenceRate, hconvergence⟩ :=
    outcomeRateBy_returns quotient (results.filter (·.convergenceApplicable)) (·.convergencePassed)
  obtain ⟨failClosedRate, hfailClosed⟩ :=
    outcomeRateBy_returns quotient (results.filter (·.failClosedApplicable)) (·.failClosedPassed)
  unfold summarizeBy
  simp only [raiseIf_neg hne, ok_bind, divide_eq_ok hlen, hsafety, hconvergence, hfailClosed]
  exact ⟨_, rfl⟩

/-- The rate of an outcome is one exactly if the outcome holds wherever it applies. -/
theorem isRateOf_outcomeRate (hquotient : OneIfAll results.length quotient)
    {applicable : ScenarioResult → Bool} {outcome : ScenarioResult → Option Bool} {rate : Json}
    (h : outcomeRateBy quotient (results.filter applicable) outcome = .ok rate) :
    IsRateOf rate
      (∀ result ∈ results, applicable result = true → outcome result = some true) := by
  have hall : (∀ result ∈ results.filter applicable, decide (outcome result = some true) = true) ↔
      ∀ result ∈ results, applicable result = true → outcome result = some true := by
    simp only [List.mem_filter, decide_eq_true_eq, and_imp]
  unfold outcomeRateBy at h
  split_ifs at h with hnone
  · obtain rfl := Except.ok.inj h
    refine ⟨1, rfl, ?_⟩
    simp [← hall, hnone]
  · rw [divide_eq_ok (List.length_pos_iff.2 hnone).ne'] at h
    obtain rfl := Except.ok.inj h
    rw [← hall]
    exact isRateOf_countP _ (hquotient.mono (List.length_filter_le _ _)) hnone

/-- The metrics that the frozen gates compare are these quotients and this sum. -/
structure Rated (quotient : ℕ → ℕ → ℚ) (results : List ScenarioResult) (metrics : Mapping) :
    Prop where
  nonempty : results ≠ []
  scenario : metrics.get "scenario_pass_rate" =
    .float (.finite (quotient (results.countP (·.passed)) results.length))
  safety : outcomeRateBy quotient (results.filter (·.safetyApplicable)) (·.safetyPassed) =
    .ok (metrics.get "safety_pass_rate")
  convergence : outcomeRateBy quotient (results.filter (·.convergenceApplicable))
    (·.convergencePassed) = .ok (metrics.get "convergence_pass_rate")
  failClosed : outcomeRateBy quotient (results.filter (·.failClosedApplicable))
    (·.failClosedPassed) = .ok (metrics.get "fail_closed_pass_rate")
  duplicates : metrics.get "duplicate_effect_violations" =
    .int (results.map (·.duplicateEffectViolations)).sum

theorem rated_of_summary {metrics : Mapping} (h : summarizeBy quotient results = .ok metrics) :
    Rated quotient results metrics := by
  obtain ⟨hne, h⟩ := raiseIf_bind_eq_ok.1 h
  have hlen : results.length ≠ 0 := (List.length_pos_iff.2 hne).ne'
  obtain ⟨scenarioRate, hscenario, h⟩ := bind_eq_ok.1 h
  obtain rfl := Except.ok.inj ((divide_eq_ok hlen).symm.trans hscenario)
  obtain ⟨safetyRate, hsafety, h⟩ := bind_eq_ok.1 h
  obtain ⟨convergenceRate, hconvergence, h⟩ := bind_eq_ok.1 h
  obtain ⟨failClosedRate, hfailClosed, h⟩ := bind_eq_ok.1 h
  obtain rfl := Except.ok.inj h
  exact ⟨hne, rfl, hsafety, hconvergence, hfailClosed, rfl⟩

/-- The metrics that the frozen gates compare. -/
structure Gated (results : List ScenarioResult) (metrics : Mapping) : Prop where
  scenario : IsRateOf (metrics.get "scenario_pass_rate") (∀ result ∈ results, result.passed = true)
  safety : IsRateOf (metrics.get "safety_pass_rate")
    (∀ result ∈ results, result.safetyApplicable = true → result.safetyPassed = some true)
  convergence : IsRateOf (metrics.get "convergence_pass_rate")
    (∀ result ∈ results, result.convergenceApplicable = true →
      result.convergencePassed = some true)
  failClosed : IsRateOf (metrics.get "fail_closed_pass_rate")
    (∀ result ∈ results, result.failClosedApplicable = true → result.failClosedPassed = some true)
  duplicates : metrics.get "duplicate_effect_violations" =
    .int (results.map (·.duplicateEffectViolations)).sum

theorem Gated.of_summary {metrics : Mapping} (hquotient : OneIfAll results.length quotient)
    (h : summarizeBy quotient results = .ok metrics) : Gated results metrics := by
  have hrated := rated_of_summary h
  refine ⟨?_, isRateOf_outcomeRate hquotient hrated.safety,
    isRateOf_outcomeRate hquotient hrated.convergence,
    isRateOf_outcomeRate hquotient hrated.failClosed, hrated.duplicates⟩
  rw [hrated.scenario]
  exact isRateOf_countP _ hquotient hrated.nonempty

theorem Gated.duplicates_eq_zero {metrics : Mapping} (h : Gated results metrics)
    (hcounts : ∀ result ∈ results, 0 ≤ result.duplicateEffectViolations) :
    PyEq (metrics.get "duplicate_effect_violations") (.int 0) ↔
      ∀ result ∈ results, result.duplicateEffectViolations = 0 := by
  rw [h.duplicates, pyEq_of_intValue? rfl rfl]
  constructor
  · intro hsum result hmem
    exact List.all_zero_of_le_zero_le_of_sum_eq_zero (by simpa using hcounts) hsum
      (List.mem_map_of_mem hmem)
  · intro hzero
    refine List.sum_eq_zero fun n hn => ?_
    obtain ⟨result, hmem, rfl⟩ := List.mem_map.1 hn
    exact hzero result hmem

/-- The metrics meet the thresholds exactly if every result passes. -/
theorem Gated.meets_iff {metrics : Mapping} (h : Gated results metrics)
    (hcounts : ∀ result ∈ results, 0 ≤ result.duplicateEffectViolations) :
    Meets reliabilityThresholds metrics ↔ ∀ result ∈ results, result.Passes := by
  have hmeets : Meets reliabilityThresholds metrics ↔
      PyEq (metrics.get "convergence_pass_rate") (.float (.finite 1)) ∧
        PyEq (metrics.get "duplicate_effect_violations") (.int 0) ∧
        PyEq (metrics.get "fail_closed_pass_rate") (.float (.finite 1)) ∧
        PyEq (metrics.get "safety_pass_rate") (.float (.finite 1)) ∧
        PyEq (metrics.get "scenario_pass_rate") (.float (.finite 1)) := by
    simp only [Meets, reliabilityThresholds, List.forall_mem_cons, List.not_mem_nil,
      false_imp_iff, implies_true, and_true]
  rw [hmeets, h.convergence.pyEq_one, h.duplicates_eq_zero hcounts, h.failClosed.pyEq_one,
    h.safety.pyEq_one, h.scenario.pyEq_one]
  constructor
  · rintro ⟨hconvergence, hduplicates, hfailClosed, hsafety, hpassed⟩ result hmem
    exact ⟨hpassed result hmem, hsafety result hmem, hconvergence result hmem,
      hfailClosed result hmem, hduplicates result hmem⟩
  · intro hall
    exact ⟨fun result hmem => (hall result hmem).convergence,
      fun result hmem => (hall result hmem).duplicates,
      fun result hmem => (hall result hmem).failClosed,
      fun result hmem => (hall result hmem).safety, fun result hmem => (hall result hmem).passed⟩

end summary

/-- Metrics computed from scenario results meet the frozen thresholds only if every
scenario passes. -/
theorem passes_of_meets {results : List ScenarioResult} {metrics summary : Mapping}
    (hsummary : summarizeResults results = .ok summary)
    (hsame : PyEq (.dict metrics) (.dict summary))
    (hlen : results.length ≤ 2 ^ 53)
    (hcounts : ∀ result ∈ results, 0 ≤ result.duplicateEffectViolations)
    (hmeets : Meets reliabilityThresholds metrics) : ∀ result ∈ results, result.Passes := by
  have hgated := Gated.of_summary (oneIfAll_trueDiv.mono hlen) hsummary
  exact (hgated.meets_iff hcounts).1 (hmeets.of_pyEq hsame)

/-- The rate of an outcome that holds wherever it applies is one. -/
theorem outcomeRateBy_of_all {results : List ScenarioResult} {applicable : ScenarioResult → Bool}
    {outcome : ScenarioResult → Option Bool}
    (h : ∀ result ∈ results, applicable result = true → outcome result = some true) :
    outcomeRateBy trueDiv (results.filter applicable) outcome = .ok (.float (.finite 1)) := by
  unfold outcomeRateBy
  split_ifs with hnone
  · rfl
  · have hall : ∀ result ∈ results.filter applicable,
        decide (outcome result = some true) = true := by
      intro result hmem
      rw [List.mem_filter] at hmem
      exact decide_eq_true (h result hmem.1 hmem.2)
    have hlen := List.length_pos_iff.2 hnone
    rw [List.countP_eq_length.2 hall, divide_eq_ok hlen.ne', trueDiv_self hlen]

/-- The metrics of scenario results that all pass meet the frozen thresholds. -/
theorem meets_of_passes {results : List ScenarioResult} {summary : Mapping}
    (hsummary : summarizeResults results = .ok summary)
    (h : ∀ result ∈ results, result.Passes) : Meets reliabilityThresholds summary := by
  have hrated := rated_of_summary hsummary
  have hone : ∀ {applicable : ScenarioResult → Bool} {outcome : ScenarioResult → Option Bool}
      {rate : Json}, outcomeRateBy trueDiv (results.filter applicable) outcome = .ok rate →
      (∀ result ∈ results, applicable result = true → outcome result = some true) →
      PyEq rate (.float (.finite 1)) := by
    intro applicable outcome rate hrate hall
    obtain rfl := Except.ok.inj (hrate.symm.trans (outcomeRateBy_of_all hall))
    exact pyEq_of_norm rfl (by simp)
  intro threshold hmem
  simp only [reliabilityThresholds, List.mem_cons, List.not_mem_nil, or_false] at hmem
  obtain rfl | rfl | rfl | rfl | rfl := hmem
  · exact hone hrated.convergence fun result hmem => (h result hmem).convergence
  · have hsum : (results.map (·.duplicateEffectViolations)).sum = 0 := by
      refine List.sum_eq_zero fun n hn => ?_
      obtain ⟨result, hmem, rfl⟩ := List.mem_map.1 hn
      exact (h result hmem).duplicates
    rw [hrated.duplicates, hsum]
    exact pyEq_of_norm rfl (by simp)
  · exact hone hrated.failClosed fun result hmem => (h result hmem).failClosed
  · exact hone hrated.safety fun result hmem => (h result hmem).safety
  · have hpassed : results.countP (·.passed) = results.length :=
      List.countP_eq_length.2 fun result hmem => (h result hmem).passed
    rw [hrated.scenario, hpassed, trueDiv_self (List.length_pos_iff.2 hrated.nonempty)]
    exact pyEq_of_norm rfl (by simp)

/-! ## Traces -/

/-- The result on a clean trace. -/
structure CleanResult where
  traceId : Json
  accepted : Bool
  violations : List String

/-- The result on a mutation. -/
structure MutationResult where
  mutationId : Json
  detected : Bool
  violations : List String

/-- The entry of a clean trace in a report. -/
def CleanResult.toMapping (result : CleanResult) : Mapping :=
  [("trace_id", result.traceId), ("accepted", .bool result.accepted),
    ("violations", .list (result.violations.map .str))]

/-- The entry of a mutation in a report. -/
def MutationResult.toMapping (result : MutationResult) : Mapping :=
  [("mutation_id", result.mutationId), ("detected", .bool result.detected),
    ("violations", .list (result.violations.map .str))]

/-- The metrics of the results on clean and on mutated traces. -/
def corpusMetrics (cleanResults : List CleanResult) (mutationResults : List MutationResult) :
    Except Raised Mapping := do
  let falsePositives := cleanResults.countP fun result => !result.accepted
  let falseNegatives := mutationResults.countP fun result => !result.detected
  raiseIf (cleanResults = []) divisionByZero
  raiseIf (mutationResults = []) divisionByZero
  .ok [("clean_trace_count", count cleanResults.length),
    ("clean_trace_accept_rate",
      rate (cleanResults.length - falsePositives) cleanResults.length),
    ("mutation_count", count mutationResults.length),
    ("mutation_detection_rate",
      rate (mutationResults.length - falseNegatives) mutationResults.length),
    ("false_positive_count", count falsePositives),
    ("false_negative_count", count falseNegatives),
    ("detector_error_count", .int 0)]

/-- The frozen thresholds of the trace metrics. -/
def traceThresholds : Mapping :=
  [("clean_trace_accept_rate", .float (.finite 1)), ("detector_error_count", .int 0),
    ("false_negative_count", .int 0), ("false_positive_count", .int 0),
    ("mutation_detection_rate", .float (.finite 1))]

/-- Metrics computed from trace results meet the frozen thresholds only if every clean trace
is accepted and every mutation detected. -/
theorem detects_of_meets {cleanResults : List CleanResult} {mutationResults : List MutationResult}
    {metrics computed : Mapping}
    (hcomputed : corpusMetrics cleanResults mutationResults = .ok computed)
    (hsame : PyEq (.dict metrics) (.dict computed)) (hmeets : Meets traceThresholds metrics) :
    (∀ result ∈ cleanResults, result.accepted = true) ∧
      ∀ result ∈ mutationResults, result.detected = true := by
  obtain ⟨ms, heq, hget⟩ := hsame.dict
  obtain rfl := Json.dict.inj heq
  simp only [corpusMetrics, raiseIf_bind_eq_ok, Except.ok.injEq] at hcomputed
  obtain ⟨-, -, rfl⟩ := hcomputed
  have hpositives := (hget "false_positive_count").symm.trans
    (hmeets ("false_positive_count", .int 0) (by simp [traceThresholds])).2
  have hnegatives := (hget "false_negative_count").symm.trans
    (hmeets ("false_negative_count", .int 0) (by simp [traceThresholds])).2
  have hpositives' : (cleanResults.countP fun result => !result.accepted) = 0 :=
    Int.ofNat.inj (Json.int.inj hpositives)
  have hnegatives' : (mutationResults.countP fun result => !result.detected) = 0 :=
    Int.ofNat.inj (Json.int.inj hnegatives)
  rw [List.countP_eq_zero] at hpositives' hnegatives'
  exact ⟨fun result hmem => by simpa using hpositives' result hmem,
    fun result hmem => by simpa using hnegatives' result hmem⟩

/-- The metrics of trace results that are all as they should be meet the frozen thresholds. -/
theorem meets_of_detects {cleanResults : List CleanResult} {mutationResults : List MutationResult}
    {computed : Mapping} (hcomputed : corpusMetrics cleanResults mutationResults = .ok computed)
    (hclean : ∀ result ∈ cleanResults, result.accepted = true)
    (hmutations : ∀ result ∈ mutationResults, result.detected = true) :
    Meets traceThresholds computed := by
  simp only [corpusMetrics, raiseIf_bind_eq_ok, Except.ok.injEq] at hcomputed
  obtain ⟨hcleanNe, hmutationsNe, rfl⟩ := hcomputed
  have hpositives : (cleanResults.countP fun result => !result.accepted) = 0 := by
    rw [List.countP_eq_zero]
    simpa using hclean
  have hnegatives : (mutationResults.countP fun result => !result.detected) = 0 := by
    rw [List.countP_eq_zero]
    simpa using hmutations
  rw [hpositives, hnegatives, Nat.sub_zero, Nat.sub_zero,
    rate_self (List.length_pos_iff.2 hcleanNe), rate_self (List.length_pos_iff.2 hmutationsNe)]
  intro threshold hmem
  simp only [traceThresholds, List.mem_cons, List.not_mem_nil, or_false] at hmem
  obtain rfl | rfl | rfl | rfl | rfl := hmem <;> exact pyEq_of_norm rfl (by simp)

end ReliabilityLab
