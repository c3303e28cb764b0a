import ReliabilityLab.EvaluationMetrics
import ReliabilityLab.MalformedTraces
import ReliabilityLab.MutatedLocations
import ReliabilityLab.Publications

/-!
# The evaluation of a trace corpus

`evaluateTraceCorpus` validates the clean traces, applies each mutation to the trace it names,
validates the result, and takes the metrics of both. Its count of detector errors is the
constant 0 : an exception of the validator or of a mutation leaves no report, and so does an
empty list, whose rate divides by zero. `evaluateTraceCorpus_reports_iff` : a report with the
right count is given exactly when nothing is left to count.
-/

set_option linter.unusedSectionVars false

open Serial

namespace ReliabilityLab

namespace TraceIntegrity

open Json PyJson

open PyText (scalars)

/-! ## The evaluation -/

/-- The hash of a dictionary key. -/
def hashKey : Json → Except Raised Unit
  | .list _ => .error (unhashable "list")
  | .dict _ => .error (unhashable "dict")
  | _ => .ok ()

section evaluation

variable [Hashlib] [PyRepr]

/-- An item of `{trace["trace_id"]: trace for trace in traces}`. -/
def indexTrace (trace : Json) : Except Raised (Json × Json) := do
  let traceId ← trace.subscript "trace_id"
  hashKey traceId
  .ok (traceId, trace)

/-- `by_id[key]` : of the items with one key, the last stands. -/
def lookupTrace (byId : List (Json × Json)) (key : Json) : Except Raised Json := do
  hashKey key
  let item ← orRaise (byId.reverse.find? fun item => item.1.norm = key.norm)
    ⟨.keyError, PyRepr.repr key⟩
  .ok item.2

/-- The result of a clean trace. -/
def cleanResult (trace : Json) : Except Raised CleanResult := do
  let violations ← validateTraceText trace.members
  let traceId ← trace.subscript "trace_id"
  .ok ⟨traceId, violations = [], violations⟩

/-- The result of a mutation. -/
def mutationResult (byId : List (Json × Json)) (mutation : Json) :
    Except Raised MutationResult := do
  let baseTraceId ← mutation.subscript "base_trace_id"
  let base ← lookupTrace byId baseTraceId
  let mutated ← applyMutation base.members mutation.members
  let violations ← validateTraceText mutated
  let mutationId ← mutation.subscript "id"
  .ok ⟨mutationId, violations ≠ [], violations⟩

/-- Evaluate clean traces and frozen mutations with deterministic ordering. -/
def evaluateTraceCorpus (baselineDocument mutationDocument : Mapping) : Except Raised Mapping :=
  match baselineDocument.get "traces", mutationDocument.get "mutations" with
  | .list traces, .list mutations => do
    let byId ← traces.mapM indexTrace
    let cleanResults ← traces.mapM cleanResult
    let mutationResults ← mutations.mapM (mutationResult byId)
    let metrics ← corpusMetrics cleanResults mutationResults
    .ok [("schema_version", .str "carl.trace-integrity-result.v1"),
      ("clean_results", .list (cleanResults.map fun result => .dict result.toMapping)),
      ("mutation_results", .list (mutationResults.map fun result => .dict result.toMapping)),
      ("metrics", .dict metrics)]
  | _, _ => .error ⟨.typeError, "baseline and mutation documents must contain lists"⟩

/-! ## What is counted -/

/-- The trace that a mutation names : the last one with its id. -/
def baseTrace? (traces : List Mapping) (mutation : Mapping) : Option Mapping :=
  (mutation.get? "base_trace_id").bind fun key =>
    traces.reverse.find? fun trace => (trace.get "trace_id").norm = key.norm

/-- Whether a call raises. -/
def raises {α : Type} : Except Raised α → Bool
  | .ok _ => false
  | .error _ => true

/-- The mutation, applied to the trace it names, or the validator on the result raises. -/
def mutationRaises (traces : List Mapping) (mutation : Mapping) : Bool :=
  match baseTrace? traces mutation with
  | some base => raises (applyMutation base mutation >>= validateTraceText)
  | none => false

/-- The number of traces and mutations on which the validator or a mutation raises. -/
def raisedCount (traces mutations : List Mapping) : ℕ :=
  traces.countP (fun trace => raises (validateTraceText trace)) +
    mutations.countP (mutationRaises traces)

/-- The evaluation returns a report whose count of detector errors is the number of traces and
mutations that raise, and whose gate passes exactly if there are none. -/
def Reports (baselineDocument mutationDocument : Mapping) (traces mutations : List Mapping) :
    Prop :=
  ∃ report metrics : Mapping, evaluateTraceCorpus baselineDocument mutationDocument = .ok report ∧
    report.get "metrics" = .dict metrics ∧
    metrics.get "detector_error_count" = count (raisedCount traces mutations) ∧
    (Publication.gatePassed (metrics.get "detector_error_count") "eq" (.int 0) = .ok true ↔
      raisedCount traces mutations = 0)

/-! ## When it is counted -/

/-- The trace has an id with a hash, and can be checked. -/
structure HandledTrace (trace : Mapping) : Prop where
  traceId : ∃ traceId, trace.get? "trace_id" = some traceId ∧ traceId.Hashable
  checkable : CheckableTrace trace

/-- The mutation has an id and names a trace, to which it applies with a result that can be
checked. -/
structure HandledMutation (traces : List Mapping) (mutation : Mapping) : Prop where
  mutationId : mutation.get? "id" ≠ none
  baseTraceId : ∃ key, mutation.get? "base_trace_id" = some key ∧ key.Hashable
  base : ∃ base, baseTrace? traces mutation = some base ∧ Applies base mutation ∧
    ∀ mutated, applyMutation base mutation = .ok mutated → CheckableTrace mutated

theorem hashKey_eq_ok {key : Json} : hashKey key = .ok () ↔ key.Hashable := by
  rcases key with _ | _ | _ | _ | _ | _ | _ <;> simp [hashKey, Json.Hashable]

/-- The item of a trace. -/
def indexed (trace : Mapping) : Json × Json :=
  (trace.get "trace_id", .dict trace)

/-- What is looked up in the index of traces is the trace that the mutation names. -/
theorem lookupTrace_eq_ok {traces : List Mapping} {key : Json} {mutation : Mapping}
    (hkey : mutation.get? "base_trace_id" = some key) {item : Json} :
    lookupTrace (traces.map indexed) key = .ok item ↔
      key.Hashable ∧ ∃ base, baseTrace? traces mutation = some base ∧ item = .dict base := by
  unfold lookupTrace baseTrace?
  rw [check_bind_eq_ok, hashKey_eq_ok, hkey, Option.bind_some, ← List.map_reverse, List.find?_map]
  simp only [orRaise_bind_eq_ok, Option.map_eq_some_iff, Except.ok.injEq]
  refine and_congr_right fun _ => ?_
  constructor
  · rintro ⟨_, ⟨base, hbase, rfl⟩, rfl⟩
    exact ⟨base, hbase, rfl⟩
  · rintro ⟨base, hbase, rfl⟩
    exact ⟨_, ⟨base, hbase, rfl⟩, rfl⟩

theorem indexTrace_eq_ok {trace : Mapping} {item : Json × Json} :
    indexTrace (.dict trace) = .ok item ↔
      ∃ traceId, trace.get? "trace_id" = some traceId ∧ traceId.Hashable ∧
        item = (traceId, .dict trace) := by
  unfold indexTrace
  rw [bind_eq_ok]
  refine exists_congr fun traceId => ?_
  rw [subscript_returns, check_bind_eq_ok, hashKey_eq_ok, Except.ok.injEq]
  exact and_congr_right fun _ => and_congr_right fun _ => eq_comm

/-- The index of traces with their ids. -/
theorem mapM_indexTrace {traces : List Mapping} {byId : List (Json × Json)}
    (h : (traces.map Json.dict).mapM indexTrace = .ok byId) :
    byId = traces.map indexed := by
  have hall : ∀ item ∈ traces.map Json.dict, ∀ entry, indexTrace item = .ok entry →
      entry = (item.members.get "trace_id", item) := by
    intro item hitem entry hentry
    obtain ⟨trace, -, rfl⟩ := List.mem_map.1 hitem
    obtain ⟨traceId, hget, -, rfl⟩ := indexTrace_eq_ok.1 hentry
    simp [members, Mapping.get, hget]
  rw [mapM_eq_map hall h, List.map_map]
  rfl

/-! ## Mutated traces -/

theorem operate_coded {mutation : Mapping} {parent changed : Json} {token : String}
    (hmutation : Coded (.dict mutation)) (hparent : Coded parent)
    (h : operate mutation parent token = .ok changed) : Coded changed := by
  dsimp only [operate] at h
  split_ifs at h
  · obtain ⟨value, hvalue, h⟩ := orRaise_bind_eq_ok.1 h
    have hcoded := hmutation.get? hvalue
    rcases parent with _ | _ | _ | _ | _ | items | members
    case list =>
      obtain ⟨k, -, h⟩ := bind_eq_ok.1 h
      cases h
      exact hparent.set_list hcoded k
    case dict =>
      obtain ⟨-, h⟩ := raiseIf_bind_eq_ok.1 h
      cases h
      exact hparent.set hcoded token
    all_goals cases h
  · rcases parent with _ | _ | _ | _ | _ | items | members
    case list =>
      obtain ⟨k, -, h⟩ := bind_eq_ok.1 h
      cases h
      exact coded_list.2 fun item hitem =>
        coded_list.1 hparent item (List.mem_of_mem_eraseIdx hitem)
    case dict =>
      obtain ⟨-, h⟩ := raiseIf_bind_eq_ok.1 h
      cases h
      exact coded_dict.2 fun member hmember =>
        coded_dict.1 hparent member (List.mem_of_mem_filter hmember)
    all_goals cases h

theorem descend_coded {target : Json → String → Except Raised Json} {tokens : List String}
    {document mutated : Json}
    (htarget : ∀ parent token changed, Coded parent → target parent token = .ok changed →
      Coded changed)
    (hdocument : Coded document) (h : descend target document tokens = .ok mutated) :
    Coded mutated := by
  induction tokens generalizing document mutated with
  | nil =>
    rw [descend] at h
    exact Except.ok.inj h ▸ hdocument
  | cons token tokens ih =>
    rcases tokens with _ | ⟨next, tokens⟩
    · rw [descend] at h
      exact htarget document token mutated hdocument h
    rcases document with _ | _ | _ | _ | _ | items | members
    case list =>
      rw [descend_list] at h
      obtain ⟨k, hk, h⟩ := bind_eq_ok.1 h
      obtain ⟨changed, hchanged, h⟩ := bind_eq_ok.1 h
      cases h
      obtain ⟨item, hitem⟩ := getElem?_ne_none_of_listPosition hk
      rw [hitem, Option.getD_some] at hchanged
      have hcoded := coded_list.1 hdocument item (List.mem_of_getElem? hitem)
      exact hdocument.set_list (ih hcoded hchanged) k
    case dict =>
      rw [descend_dict] at h
      obtain ⟨item, hitem, h⟩ := orRaise_bind_eq_ok.1 h
      obtain ⟨changed, hchanged, h⟩ := bind_eq_ok.1 h
      cases h
      exact hdocument.set (ih (hdocument.get? hitem) hchanged) token
    all_goals simp [descend] at h

/-- A mutated trace has the texts of the trace and of the mutation. -/
theorem applyMutation_coded {trace mutation mutated : Mapping} (htrace : Coded (.dict trace))
    (hmutation : Coded (.dict mutation)) (h : applyMutation trace mutation = .ok mutated) :
    Coded (.dict mutated) := by
  unfold applyMutation at h
  split at h
  · obtain ⟨tokens, -, h⟩ := bind_eq_ok.1 h
    obtain ⟨changed, hchanged, h⟩ := bind_eq_ok.1 h
    cases h
    have hcoded := descend_coded (fun _ _ _ hparent hop => operate_coded hmutation hparent hop)
      htrace hchanged
    rcases changed with _ | _ | _ | _ | _ | items | members
    case dict => exact hcoded
    all_goals exact coded_codeMembers []
  · cases h

/-! ## The results -/

theorem cleanResult_returns_iff {trace : Mapping} :
    (∃ result, cleanResult (.dict trace) = .ok result) ↔
      (∃ violations, validateTraceText trace = .ok violations) ∧
        ∃ traceId, trace.get? "trace_id" = some traceId := by
  simp only [cleanResult, members, bind_eq_ok, subscript_returns, Except.ok.injEq]
  constructor
  · rintro ⟨_, violations, hviolations, traceId, hid, -⟩
    exact ⟨⟨violations, hviolations⟩, traceId, hid⟩
  · rintro ⟨⟨violations, hviolations⟩, traceId, hid⟩
    exact ⟨_, violations, hviolations, traceId, hid, rfl⟩

/-- The index and the result of a trace are there exactly if the trace is handled. -/
theorem handledTrace_iff {trace : Mapping} (h : Coded (.dict trace)) :
    HandledTrace trace ↔ (∃ item, indexTrace (.dict trace) = .ok item) ∧
      ∃ result, cleanResult (.dict trace) = .ok result := by
  simp only [indexTrace_eq_ok, cleanResult_returns_iff, validateTraceText_of_coded h]
  constructor
  · rintro ⟨⟨traceId, hid, hhash⟩, hcheckable⟩
    exact ⟨⟨_, traceId, hid, hhash, rfl⟩, hcheckable, traceId, hid⟩
  · rintro ⟨⟨_, traceId, hid, hhash, -⟩, hcheckable, -⟩
    exact ⟨⟨traceId, hid, hhash⟩, hcheckable⟩

theorem mem_of_baseTrace? {traces : List Mapping} {mutation base : Mapping}
    (h : baseTrace? traces mutation = some base) : base ∈ traces := by
  obtain ⟨key, -, hbase⟩ := Option.bind_eq_some_iff.1 h
  exact List.mem_reverse.1 (List.mem_of_find?_eq_some hbase)

/-- The result of a mutation is there exactly if the mutation is handled. -/
theorem handledMutation_iff {traces : List Mapping} {mutation : Mapping}
    (htraces : ∀ trace ∈ traces, Coded (.dict trace)) (hmutation : Coded (.dict mutation)) :
    HandledMutation traces mutation ↔
      ∃ result, mutationResult (traces.map indexed) (.dict mutation) = .ok result := by
  have hchecked : ∀ {base mutated : Mapping}, baseTrace? traces mutation = some base →
      applyMutation base mutation = .ok mutated →
        ((∃ violations, validateTraceText mutated = .ok violations) ↔ CheckableTrace mutated) :=
    fun hbase happly => validateTraceText_of_coded
      (applyMutation_coded (htraces _ (mem_of_baseTrace? hbase)) hmutation happly)
  unfold mutationResult
  simp only [bind_eq_ok, subscript_returns, Except.ok.injEq]
  constructor
  · rintro ⟨hid, ⟨key, hkey, hhash⟩, base, hbase, happlies, hcheckable⟩
    obtain ⟨mutationId, hmutationId⟩ := Option.ne_none_iff_exists'.1 hid
    obtain ⟨mutated, happly⟩ := applyMutation_returns_iff.2 happlies
    obtain ⟨violations, hviolations⟩ := (hchecked hbase happly).2 (hcheckable mutated happly)
    exact ⟨_, key, hkey, .dict base, (lookupTrace_eq_ok hkey).2 ⟨hhash, base, hbase, rfl⟩,
      mutated, happly, violations, hviolations, mutationId, hmutationId, rfl⟩
  · rintro ⟨_, key, hkey, item, hlookup, mutated, happly, violations, hviolations, mutationId,
      hmutationId, -⟩
    obtain ⟨hhash, base, hbase, rfl⟩ := (lookupTrace_eq_ok hkey).1 hlookup
    refine ⟨by simp [hmutationId], ⟨key, hkey, hhash⟩, base, hbase,
      applyMutation_returns_iff.1 ⟨mutated, happly⟩, fun mutated' happly' => ?_⟩
    obtain rfl := Except.ok.inj (happly.symm.trans happly')
    exact (hchecked hbase happly).1 ⟨violations, hviolations⟩

/-! ## The report -/

theorem mapM_dict_returns_iff {α : Type} {f : Json → Except Raised α} {ms : List Mapping} :
    (∃ results, (ms.map Json.dict).mapM f = .ok results) ↔
      ∀ m ∈ ms, ∃ result, f (.dict m) = .ok result := by
  rw [mapM_returns_iff, List.forall_mem_map]

theorem ne_nil_of_mapM {α β : Type} {f : α → Except Raised β} {as : List α} {bs : List β}
    (h : as.mapM f = .ok bs) : bs ≠ [] ↔ as ≠ [] := by
  rw [← List.length_pos_iff, length_of_mapM h, List.length_pos_iff]

/-- The metrics of results are there exactly if there are results of both kinds. -/
theorem corpusMetrics_returns_iff {cleanResults : List CleanResult}
    {mutationResults : List MutationResult} :
    (∃ metrics, corpusMetrics cleanResults mutationResults = .ok metrics) ↔
      cleanResults ≠ [] ∧ mutationResults ≠ [] := by
  simp [corpusMetrics]

theorem corpusMetrics_errors {cleanResults : List CleanResult}
    {mutationResults : List MutationResult} {metrics : Mapping}
    (h : corpusMetrics cleanResults mutationResults = .ok metrics) :
    metrics.get "detector_error_count" = .int 0 := by
  simp only [corpusMetrics, raiseIf_bind_eq_ok, Except.ok.injEq] at h
  obtain ⟨-, -, rfl⟩ := h
  rfl

theorem raises_eq_false {α : Type} {x : Except Raised α} : raises x = false ↔ ∃ a, x = .ok a := by
  cases x <;> simp [raises]

/-- Nothing that is handled raises. -/
theorem raisedCount_eq_zero {traces mutations : List Mapping}
    (htraces : ∀ trace ∈ traces, Coded (.dict trace))
    (hmutations : ∀ mutation ∈ mutations, Coded (.dict mutation))
    (hhandled : ∀ trace ∈ traces, HandledTrace trace)
    (hhandledMutations : ∀ mutation ∈ mutations, HandledMutation traces mutation) :
    raisedCount traces mutations = 0 := by
  have hclean : traces.countP (fun trace => raises (validateTraceText trace)) = 0 := by
    rw [List.countP_eq_zero]
    intro trace htrace
    rw [Bool.not_eq_true, raises_eq_false]
    exact (validateTraceText_of_coded (htraces trace htrace)).2 (hhandled trace htrace).checkable
  have hmutated : mutations.countP (mutationRaises traces) = 0 := by
    rw [List.countP_eq_zero]
    intro mutation hmutation
    obtain ⟨_, h⟩ := (handledMutation_iff htraces (hmutations mutation hmutation)).1
      (hhandledMutations mutation hmutation)
    obtain ⟨key, hkey, h⟩ := bind_eq_ok.1 h
    obtain ⟨item, hlookup, h⟩ := bind_eq_ok.1 h
    obtain ⟨-, base, hbase, rfl⟩ := (lookupTrace_eq_ok (subscript_returns.1 hkey)).1 hlookup
    obtain ⟨mutated, happly, h⟩ := bind_eq_ok.1 h
    obtain ⟨violations, hviolations, -⟩ := bind_eq_ok.1 h
    rw [Bool.not_eq_true, mutationRaises, hbase]
    exact raises_eq_false.2 ⟨violations, bind_eq_ok.2 ⟨mutated, happly, hviolations⟩⟩
  rw [raisedCount, hclean, hmutated]

/-- The evaluation returns exactly if there are traces and mutations and all are handled. -/
theorem evaluateTraceCorpus_returns_iff {baselineDocument mutationDocument : Mapping}
    {traces mutations : List Mapping}
    (hbaseline : baselineDocument.get "traces" = .list (traces.map .dict))
    (hmutation : mutationDocument.get "mutations" = .list (mutations.map .dict))
    (htraces : ∀ trace ∈ traces, Coded (.dict trace))
    (hmutations : ∀ mutation ∈ mutations, Coded (.dict mutation)) :
    (∃ report, evaluateTraceCorpus baselineDocument mutationDocument = .ok report) ↔
      traces ≠ [] ∧ mutations ≠ [] ∧ (∀ trace ∈ traces, HandledTrace trace) ∧
        ∀ mutation ∈ mutations, HandledMutation traces mutation := by
  unfold evaluateTraceCorpus
  rw [hbaseline, hmutation]
  constructor
  · rintro ⟨report, h⟩
    obtain ⟨byId, hindex, h⟩ := bind_eq_ok.1 h
    obtain ⟨cleanResults, hclean, h⟩ := bind_eq_ok.1 h
    obtain ⟨mutationResults, hmutated, h⟩ := bind_eq_ok.1 h
    obtain ⟨metrics, hmetrics, -⟩ := bind_eq_ok.1 h
    obtain ⟨hcleanNe, hmutatedNe⟩ := corpusMetrics_returns_iff.1 ⟨metrics, hmetrics⟩
    obtain rfl := mapM_indexTrace hindex
    have hitems := mapM_dict_returns_iff.1 ⟨_, hindex⟩
    have hresults := mapM_dict_returns_iff.1 ⟨_, hclean⟩
    have hmutationResults := mapM_dict_returns_iff.1 ⟨_, hmutated⟩
    refine ⟨?_, ?_, fun trace htrace => ?_, fun mutation hmem => ?_⟩
    · simpa using (ne_nil_of_mapM hclean).1 hcleanNe
    · simpa using (ne_nil_of_mapM hmutated).1 hmutatedNe
    · exact (handledTrace_iff (htraces trace htrace)).2
        ⟨hitems trace htrace, hresults trace htrace⟩
    · exact (handledMutation_iff htraces (hmutations mutation hmem)).2
        (hmutationResults mutation hmem)
  · rintro ⟨hne, hmutationsNe, hhandled, hhandledMutations⟩
    have heach := fun trace htrace =>
      (handledTrace_iff (htraces trace htrace)).1 (hhandled trace htrace)
    obtain ⟨byId, hindex⟩ := mapM_dict_returns_iff.2 fun trace htrace => (heach trace htrace).1
    obtain ⟨cleanResults, hclean⟩ :=
      mapM_dict_returns_iff.2 fun trace htrace => (heach trace htrace).2
    obtain ⟨mutationResults, hmutated⟩ := mapM_dict_returns_iff.2 fun mutation hmem =>
      (handledMutation_iff htraces (hmutations mutation hmem)).1 (hhandledMutations mutation hmem)
    obtain rfl := mapM_indexTrace hindex
    obtain ⟨metrics, hmetrics⟩ := corpusMetrics_returns_iff.2
      ⟨(ne_nil_of_mapM hclean).2 (by simpa using hne),
        (ne_nil_of_mapM hmutated).2 (by simpa using hmutationsNe)⟩
    exact ⟨_, bind_eq_ok.2 ⟨_, hindex, bind_eq_ok.2 ⟨_, hclean, bind_eq_ok.2
      ⟨_, hmutated, bind_eq_ok.2 ⟨metrics, hmetrics, rfl⟩⟩⟩⟩⟩

/-- A report has the metrics of its results. -/
theorem evaluateTraceCorpus_metrics {baselineDocument mutationDocument report : Mapping}
    (h : evaluateTraceCorpus baselineDocument mutationDocument = .ok report) :
    ∃ metrics : Mapping, report.get "metrics" = .dict metrics ∧
      metrics.get "detector_error_count" = .int 0 := by
  unfold evaluateTraceCorpus at h
  split at h
  · obtain ⟨byId, -, h⟩ := bind_eq_ok.1 h
    obtain ⟨cleanResults, -, h⟩ := bind_eq_ok.1 h
    obtain ⟨mutationResults, -, h⟩ := bind_eq_ok.1 h
    obtain ⟨metrics, hmetrics, h⟩ := bind_eq_ok.1 h
    cases h
    exact ⟨metrics, rfl, corpusMetrics_errors hmetrics⟩
  · cases h

/-- The evaluation gives a report with the right count of detector errors exactly if there are
traces and mutations and all of them are handled. -/
theorem evaluateTraceCorpus_reports_iff (baselineDocument mutationDocument : Mapping)
    (traces mutations : List PyMapping)
    (hbaseline : baselineDocument.get "traces" = .list ((traces.map codeMembers).map .dict))
    (hmutation : mutationDocument.get "mutations" = .list ((mutations.map codeMembers).map .dict)) :
    Reports baselineDocument mutationDocument (traces.map codeMembers)
        (mutations.map codeMembers) ↔
      traces ≠ [] ∧ mutations ≠ [] ∧ (∀ trace ∈ traces, HandledTrace (codeMembers trace)) ∧
        ∀ mutation ∈ mutations,
          HandledMutation (traces.map codeMembers) (codeMembers mutation) := by
  have hcoded : ∀ (ms : List PyMapping), ∀ m ∈ ms.map codeMembers, Coded (.dict m) := by
    intro ms m hm
    obtain ⟨pm, -, rfl⟩ := List.mem_map.1 hm
    exact coded_codeMembers pm
  have hreturns := evaluateTraceCorpus_returns_iff hbaseline hmutation (hcoded traces)
    (hcoded mutations)
  have hconditions : (traces.map codeMembers ≠ [] ∧ mutations.map codeMembers ≠ [] ∧
      (∀ trace ∈ traces.map codeMembers, HandledTrace trace) ∧
        ∀ mutation ∈ mutations.map codeMembers,
          HandledMutation (traces.map codeMembers) mutation) ↔
      traces ≠ [] ∧ mutations ≠ [] ∧ (∀ trace ∈ traces, HandledTrace (codeMembers trace)) ∧
        ∀ mutation ∈ mutations,
          HandledMutation (traces.map codeMembers) (codeMembers mutation) := by
    rw [List.forall_mem_map, List.forall_mem_map, Ne, List.map_eq_nil_iff, Ne, List.map_eq_nil_iff]
  rw [← hconditions, ← hreturns]
  constructor
  · rintro ⟨report, metrics, h, -⟩
    exact ⟨report, h⟩
  · rintro ⟨report, h⟩
    obtain ⟨-, -, hhandled, hhandledMutations⟩ := hreturns.1 ⟨report, h⟩
    have hzero := raisedCount_eq_zero (hcoded traces) (hcoded mutations) hhandled
      hhandledMutations
    obtain ⟨metrics, hmetrics, herrors⟩ := evaluateTraceCorpus_metrics h
    refine ⟨report, metrics, h, hmetrics, by rw [herrors, hzero]; rfl, ?_⟩
    rw [herrors, hzero]
    exact iff_of_true (by decide) rfl

end evaluation

/-! ## Samples -/

/-- A trace without a scope. -/
def corpusTrace : PyMapping :=
  [(scalars "trace_id", .str (scalars "trace-1"))]

/-- The mutation that removes what `path` points at. -/
def corpusMutation (path : String) : PyMapping :=
  [(scalars "id", .str (scalars "mutation-1")),
    (scalars "base_trace_id", .str (scalars "trace-1")),
    (scalars "operator", .str (scalars "remove")), (scalars "path", .str (scalars path))]

/-- A document with a list of objects. -/
def corpusDocument (key : String) (items : List PyMapping) : Mapping :=
  [(key, .list ((items.map codeMembers).map .dict))]

/-- A mutation of a member that its trace does not have leaves no report, and neither do
documents without traces and mutations. -/
theorem missingMember_aborts :
    letI := traceHashlib
    letI := plainRepr
    evaluateTraceCorpus (corpusDocument "traces" [corpusTrace])
        (corpusDocument "mutations" [corpusMutation "/records"]) = .error ⟨.keyError, "records"⟩ ∧
      ¬Reports (corpusDocument "traces" [corpusTrace])
        (corpusDocument "mutations" [corpusMutation "/records"]) [codeMembers corpusTrace]
        [codeMembers (corpusMutation "/records")] ∧
      evaluateTraceCorpus (corpusDocument "traces" []) (corpusDocument "mutations" []) =
        .error divisionByZero ∧
      ¬Reports (corpusDocument "traces" []) (corpusDocument "mutations" []) [] [] := by
  let := traceHashlib
  let := plainRepr
  have haborts : evaluateTraceCorpus (corpusDocument "traces" [corpusTrace])
      (corpusDocument "mutations" [corpusMutation "/records"]) =
        .error ⟨.keyError, "records"⟩ := by
    decide +kernel
  have hempty : evaluateTraceCorpus (corpusDocument "traces" []) (corpusDocument "mutations" []) =
      .error divisionByZero := by
    decide +kernel
  refine ⟨haborts, ?_, hempty, ?_⟩
  · rintro ⟨report, metrics, h, -⟩
    rw [haborts] at h
    cases h
  · rintro ⟨report, metrics, h, -⟩
    rw [hempty] at h
    cases h

/-- A trace with the approval of an effect. -/
def approvedTrace : PyMapping :=
  [(scalars "trace_id", .str (scalars "trace-1")),
    (scalars "scope", .dict [(scalars "run_id", .str (scalars "run-42")),
      (scalars "turn_id", .str (scalars "turn-parent")),
      (scalars "provider", .str (scalars "local-provider")),
      (scalars "operation_id", .str (scalars "op-17"))]),
    (scalars "records", .list [.dict [(scalars "kind", .str (scalars "approval")),
      (scalars "record_id", .str (scalars "r1")), (scalars "sequence", .int 1),
      (scalars "provider", .str (scalars "local-provider")),
      (scalars "operation_id", .str (scalars "op-17")),
      (scalars "tool", .str (scalars "record_note")),
      (scalars "payload_sha256", .str (scalars samplePayload)),
      (scalars "effect_sha256", .str (scalars sampleEffect)),
      (scalars "decision", .str (scalars "approved"))]])]

/-- The approval without its tool is checked too. -/
theorem evaluateTraceCorpus_reports_iff_sample :
    letI := traceHashlib
    letI := plainRepr
    Reports (corpusDocument "traces" [approvedTrace])
      (corpusDocument "mutations" [corpusMutation "/records/0/tool"]) [codeMembers approvedTrace]
      [codeMembers (corpusMutation "/records/0/tool")] := by
  let := traceHashlib
  let := plainRepr
  have hclean : validateTraceText (codeMembers approvedTrace) = .ok [] := by decide +kernel
  have hmutated : ((applyMutation (codeMembers approvedTrace) (codeMembers
      (corpusMutation "/records/0/tool"))).bind validateTraceText).toOption.isSome := by
    decide +kernel
  refine (evaluateTraceCorpus_reports_iff _ _ [approvedTrace]
    [corpusMutation "/records/0/tool"] rfl rfl).2 ⟨by simp, by simp, ?_, ?_⟩
  · refine List.forall_mem_singleton.2 ⟨⟨.str "trace-1", by decide +kernel, trivial⟩, ?_⟩
    exact (validateTraceText_of_coded (coded_codeMembers approvedTrace)).1 ⟨_, hclean⟩
  · refine List.forall_mem_singleton.2 ⟨by decide +kernel, ⟨.str "trace-1", by decide +kernel,
      trivial⟩, codeMembers approvedTrace, by decide +kernel, ?_, fun mutated happly => ?_⟩
    · rcases happly : applyMutation (codeMembers approvedTrace)
        (codeMembers (corpusMutation "/records/0/tool")) with e | mutated
      · rw [happly] at hmutated
        cases hmutated
      · exact applyMutation_returns_iff.1 ⟨_, happly⟩
    · rw [happly] at hmutated
      rcases hviolations : validateTraceText mutated with e | violations
      · rw [Except.bind, hviolations] at hmutated
        cases hmutated
      · exact (validateTraceText_of_coded (applyMutation_coded (coded_codeMembers _)
          (coded_codeMembers _) happly)).1 ⟨_, hviolations⟩

end TraceIntegrity

end ReliabilityLab
