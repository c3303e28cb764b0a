import ReliabilityLab.PublishedRuns

/-!
# The publication of the trace evaluation

`corpus_of_accepted` : of a corpus that `VerifyProtocol.validate` accepts, every mutation is an
object that applies to one of the traces and changes it.

`acceptedCorpus_returns_iff` : the evaluation of an accepted corpus of objects returns exactly
if the validator returns on its traces and on its mutated traces.

`trace_published` : an accepted publication of it is a pass exactly if the validator finds
nothing in the traces and something in every mutated trace.
-/

set_option linter.unusedSectionVars false

open Serial

namespace ReliabilityLab

open Json PyJson

open PyText (scalars)

open TraceIntegrity

open Publication

namespace TraceIntegrityV1

section evaluation

variable [Hashlib] [PyRepr]

/-! ## The results of the evaluation -/

/-- The result of a clean trace. -/
structure CleanOf (trace : Mapping) (result : CleanResult) : Prop where
  violations : validateTraceText trace = .ok result.violations
  traceId : trace.get? "trace_id" = some result.traceId
  accepted : result.accepted = true ↔ result.violations = []

/-- The result of a mutation of one of the traces. -/
structure MutatedOf (traces : List Mapping) (mutation : Mapping) (result : MutationResult) :
    Prop where
  violations : ∃ base mutated, baseTrace? traces mutation = some base ∧
    applyMutation base mutation = .ok mutated ∧
    validateTraceText mutated = .ok result.violations
  mutationId : mutation.get? "id" = some result.mutationId
  detected : result.detected = true ↔ result.violations ≠ []

theorem dict_of_subscript {value item : Json} {key : String}
    (h : value.subscript key = .ok item) : ∃ members, value = .dict members := by
  rcases value with _ | _ | _ | _ | _ | _ | members <;> simp [subscript] at h
  exact ⟨members, rfl⟩

theorem indexTrace_dict {trace : Json} {item : Json × Json} (h : indexTrace trace = .ok item) :
    ∃ members, trace = .dict members := by
  obtain ⟨traceId, htraceId, -⟩ := bind_eq_ok.1 h
  exact dict_of_subscript htraceId

theorem cleanResult_eq_ok {trace : Mapping} {result : CleanResult}
    (h : cleanResult (.dict trace) = .ok result) : CleanOf trace result := by
  obtain ⟨violations, hviolations, h⟩ := bind_eq_ok.1 h
  obtain ⟨traceId, htraceId, h⟩ := bind_eq_ok.1 h
  obtain rfl := Except.ok.inj h
  exact ⟨hviolations, subscript_returns.1 htraceId, decide_eq_true_iff⟩

theorem mutationResult_eq_ok {traces : List Mapping} {mutation : Json} {result : MutationResult}
    (h : mutationResult (traces.map indexed) mutation = .ok result) :
    ∃ members, mutation = .dict members ∧ MutatedOf traces members result := by
  obtain ⟨key, hkey, h⟩ := bind_eq_ok.1 h
  obtain ⟨members, rfl⟩ := dict_of_subscript hkey
  obtain ⟨item, hlookup, h⟩ := bind_eq_ok.1 h
  obtain ⟨-, base, hbase, rfl⟩ := (lookupTrace_eq_ok (subscript_returns.1 hkey)).1 hlookup
  obtain ⟨mutated, happly, h⟩ := bind_eq_ok.1 h
  obtain ⟨violations, hviolations, h⟩ := bind_eq_ok.1 h
  obtain ⟨mutationId, hmutationId, h⟩ := bind_eq_ok.1 h
  obtain rfl := Except.ok.inj h
  exact ⟨members, rfl, ⟨base, mutated, hbase, happly, hviolations⟩,
    subscript_returns.1 hmutationId, decide_eq_true_iff⟩

/-- A report, by its parts. -/
structure ReportOf (traces mutations : List Mapping) (cleanResults : List CleanResult)
    (mutationResults : List MutationResult) (report : Mapping) : Prop where
  clean : List.Forall₂ CleanOf traces cleanResults
  mutated : List.Forall₂ (MutatedOf traces) mutations mutationResults
  metrics : ∃ metrics, corpusMetrics cleanResults mutationResults = .ok metrics ∧
    report.get "metrics" = .dict metrics
  cleanResults : report.get "clean_results" =
    .list (cleanResults.map fun result => .dict result.toMapping)
  mutationResults : report.get "mutation_results" =
    .list (mutationResults.map fun result => .dict result.toMapping)

/-- The documents of an evaluation that returns hold objects, and its report their results. -/
theorem evaluateTraceCorpus_eq_ok {baselineDocument mutationDocument report : Mapping}
    (h : evaluateTraceCorpus baselineDocument mutationDocument = .ok report) :
    ∃ traces mutations cleanResults mutationResults,
      baselineDocument.get "traces" = .list (traces.map .dict) ∧
      mutationDocument.get "mutations" = .list (mutations.map .dict) ∧
      ReportOf traces mutations cleanResults mutationResults report := by
  unfold evaluateTraceCorpus at h
  split at h
  · next traceItems mutationItems htraces hmutations =>
    obtain ⟨byId, hindex, h⟩ := bind_eq_ok.1 h
    obtain ⟨cleanResults, hclean, h⟩ := bind_eq_ok.1 h
    obtain ⟨mutationResults, hmutated, h⟩ := bind_eq_ok.1 h
    obtain ⟨metrics, hmetrics, h⟩ := bind_eq_ok.1 h
    obtain rfl := Except.ok.inj h
    obtain ⟨traces, rfl, -⟩ := dicts_of_forall₂ (R := fun _ _ => True)
      ((mapM_eq_ok_iff.1 hindex).imp fun item entry hitem =>
        (indexTrace_dict hitem).imp fun members hmembers => ⟨hmembers, trivial⟩)
    obtain rfl := mapM_indexTrace hindex
    obtain ⟨mutations, rfl, hmutationsAll⟩ := dicts_of_forall₂
      ((mapM_eq_ok_iff.1 hmutated).imp fun item result => mutationResult_eq_ok)
    exact ⟨traces, mutations, cleanResults, mutationResults, htraces, hmutations,
      (List.forall₂_map_left_iff.1 (mapM_eq_ok_iff.1 hclean)).imp fun trace result =>
        cleanResult_eq_ok, hmutationsAll, ⟨metrics, hmetrics, rfl⟩, rfl, rfl⟩
  · cases h

/-- The results are right exactly if the validator finds nothing in the traces and something in
every mutated trace. -/
theorem ReportOf.right_iff {traces mutations : List Mapping} {cleanResults : List CleanResult}
    {mutationResults : List MutationResult} {report : Mapping}
    (h : ReportOf traces mutations cleanResults mutationResults report) :
    ((∀ result ∈ cleanResults, result.accepted = true) ∧
        ∀ result ∈ mutationResults, result.detected = true) ↔
      (∀ trace ∈ traces, validateTraceText trace = .ok []) ∧
        ∀ mutation ∈ mutations, ∃ base mutated violations,
          baseTrace? traces mutation = some base ∧ applyMutation base mutation = .ok mutated ∧
            validateTraceText mutated = .ok violations ∧ violations ≠ [] := by
  refine and_congr ?_ ?_
  · refine (forall_mem_iff_of_forall₂ h.clean fun trace result hresult => ?_).symm
    rw [hresult.accepted, hresult.violations, Except.ok.injEq]
  · refine (forall_mem_iff_of_forall₂ h.mutated fun mutation result hresult => ?_).symm
    obtain ⟨base, mutated, hbase, happly, hviolations⟩ := hresult.violations
    rw [hresult.detected]
    constructor
    · rintro ⟨base', mutated', violations, hbase', happly', hviolations', hne⟩
      obtain rfl := Option.some.inj (hbase.symm.trans hbase')
      obtain rfl := Except.ok.inj (happly.symm.trans happly')
      obtain rfl := Except.ok.inj (hviolations.symm.trans hviolations')
      exact hne
    · exact fun hne => ⟨base, mutated, _, hbase, happly, hviolations, hne⟩

end evaluation

/-! ## An accepted corpus -/

section accepted

variable [Hashlib] [PyRepr]

open VerifyProtocol

/-- The index of traces that all have an id. -/
theorem indexNamed_eq_ok {traces : List Mapping} {byId : List (Json × Json)}
    (hids : ∀ trace ∈ traces, trace.get "trace_id" ≠ .null) (h : indexNamed traces = .ok byId) :
    byId = traces.map indexed ∧ ∀ trace ∈ traces, (trace.get "trace_id").Hashable := by
  induction traces generalizing byId with
  | nil =>
    obtain rfl := Except.ok.inj h
    simp
  | cons trace traces ih =>
    rw [List.forall_mem_cons] at hids
    rw [indexNamed, Mapping.get?_eq_some_of_get rfl hids.1] at h
    obtain ⟨_, hhash, h⟩ := bind_eq_ok.1 h
    obtain ⟨rest, hrest, h⟩ := bind_eq_ok.1 h
    obtain rfl := Except.ok.inj h
    obtain ⟨rfl, hhashable⟩ := ih hids.2 hrest
    exact ⟨rfl, List.forall_mem_cons.2 ⟨hashKey_eq_ok.1 hhash, hhashable⟩⟩

/-- An entry without errors is an object that applies to a trace of the index and changes it. -/
theorem mutationErrors_eq_nil {byId : List (Json × Json)} {item : Json}
    (h : mutationErrors byId item = .ok []) :
    ∃ (mutation base mutated : Mapping), item = .dict mutation ∧
      getTrace byId (mutation.get "base_trace_id") = .ok (some base) ∧
      applyMutation base mutation = .ok mutated ∧ ¬PyEq (.dict mutated) (.dict base) := by
  unfold mutationErrors at h
  split at h
  · next mutation =>
    obtain ⟨known, -, h⟩ := bind_eq_ok.1 h
    dsimp only at h
    split_ifs at h
    · simp at h
    · obtain ⟨found, hfound, h⟩ := bind_eq_ok.1 h
      rcases found with _ | base
      · simp at h
      · dsimp only at h
        split at h
        · split_ifs at h
          simp at h
        · next mutated happly =>
          rw [Except.ok.injEq, TraceIntegrity.flag_eq_nil] at h
          exact ⟨mutation, base, mutated, rfl, hfound, happly, h⟩
  · simp at h

/-- An entry that applies to a trace of the index and changes it has no errors. -/
theorem mutationErrors_of_changed {byId : List (Json × Json)} {mutation base mutated : Mapping}
    (hknown : inSet (mutation.get "operator") ["replace", "remove"] = .ok true)
    (hbase : getTrace byId (mutation.get "base_trace_id") = .ok (some base))
    (happly : applyMutation base mutation = .ok mutated)
    (hchanged : ¬PyEq (.dict mutated) (.dict base)) :
    mutationErrors byId (.dict mutation) = .ok [] := by
  simp only [mutationErrors, hknown, ok_bind, hbase, happly, Bool.true_eq_false,
    if_false, Except.ok.injEq, TraceIntegrity.flag_eq_nil]
  exact hchanged

/-- A trace that the index finds is the one that the mutation names. -/
theorem baseTrace_of_getTrace {traces : List Mapping} {mutation base : Mapping}
    (hids : ∀ trace ∈ traces, trace.get "trace_id" ≠ .null)
    (h : getTrace (traces.map indexed) (mutation.get "base_trace_id") = .ok (some base)) :
    ∃ key, mutation.get? "base_trace_id" = some key ∧ key.Hashable ∧
      baseTrace? traces mutation = some base := by
  obtain ⟨_, hhash, h⟩ := bind_eq_ok.1 h
  rw [hashKey_eq_ok] at hhash
  rw [Except.ok.injEq, ← List.map_reverse, List.find?_map, Option.map_map,
    Option.map_eq_some_iff] at h
  obtain ⟨trace, hfound, rfl⟩ := h
  have hsame := List.find?_some hfound
  have hnorm : (trace.get "trace_id").norm = (mutation.get "base_trace_id").norm :=
    of_decide_eq_true hsame
  have hmem := List.mem_reverse.1 (List.mem_of_find?_eq_some hfound)
  have hkey : mutation.get "base_trace_id" ≠ .null := by
    intro hnull
    rw [hnull, Json.norm, norm_eq_null] at hnorm
    exact hids trace hmem hnorm
  refine ⟨_, Mapping.get?_eq_some_of_get rfl hkey, hhash, ?_⟩
  rw [baseTrace?, Mapping.get?_eq_some_of_get rfl hkey, Option.bind_some]
  exact hfound

/-- Every mutation of the corpus applies to the trace it names and changes it. -/
structure Applicable (baselines mutations : Mapping) (traces : List Json) (items : List Mapping) :
    Prop where
  baselines : baselines.get "traces" = .list traces
  mutations : mutations.get "mutations" = .list (items.map .dict)
  traceTexts : textsOf traces "trace_id" = expectedBaselineIds
  mutationTexts : textsOf (items.map .dict) "id" = expectedMutationIds
  traceIds : ∀ trace ∈ dictsOf traces,
    ∃ traceId, trace.get? "trace_id" = some traceId ∧ traceId.Hashable
  mutationIds : ∀ mutation ∈ items, mutation.get? "id" ≠ none
  changes : ∀ mutation ∈ items, ∃ key base mutated,
    mutation.get? "base_trace_id" = some key ∧ key.Hashable ∧
      baseTrace? (dictsOf traces) mutation = some base ∧
      applyMutation base mutation = .ok mutated ∧ ¬PyEq (.dict mutated) (.dict base)

theorem listUnder_eq_nil {document : Mapping} {key message : String} {items : List Json}
    (h : listUnder document key message = ([], items)) : document.get key = .list items := by
  unfold listUnder at h
  split at h
  · next found hfound =>
    obtain ⟨-, rfl⟩ := Prod.mk.inj h
    exact hfound
  · simp at h

/-- A corpus that is accepted is applicable, for the frozen gates. -/
theorem corpus_of_accepted (hrepr : PyRepr.repr .null = "None")
    {protocol schema baselines mutations : Mapping} {resultsExist : Bool}
    (h : VerifyProtocol.validate protocol schema baselines mutations resultsExist = .ok []) :
    (∃ traces items, Applicable baselines mutations traces items) ∧
      PyEq (protocol.get "detection_gates") (.dict expectedGates) ∧
      PyEq (protocol.get "execution") (frozenExecution "evals/trace_integrity_v1") := by
  unfold VerifyProtocol.validate at h
  rcases htraces : listUnder baselines "traces" "baseline traces must be a list" with
    ⟨tracesError, traces⟩
  rcases hitems : listUnder mutations "mutations" "mutations must be a list" with
    ⟨itemsError, items⟩
  rw [htraces, hitems] at h
  obtain ⟨byId, hindex, h⟩ := bind_eq_ok.1 h
  obtain ⟨entryErrors, hentries, h⟩ := bind_eq_ok.1 h
  simp only [Except.ok.injEq, List.append_eq_nil_iff, TraceIntegrity.flag_eq_nil, not_not,
    differing_eq_nil, List.forall_mem_cons] at h
  obtain ⟨⟨⟨⟨⟨⟨⟨⟨⟨⟨⟨⟨hprotocol, -⟩, -⟩, -⟩, -⟩, -⟩, rfl⟩, htraceTexts⟩, -⟩, rfl⟩, hmutationTexts⟩,
    -⟩, hnone⟩ := h
  obtain ⟨-, -, -, hgates, -, hexecution, -⟩ := hprotocol
  have htraceIds := ne_null_of_textsOf hrepr htraceTexts (by decide)
  have hmutationIds := ne_null_of_textsOf hrepr hmutationTexts (by decide)
  obtain ⟨rfl, hhashable⟩ := indexNamed_eq_ok htraceIds hindex
  have hentry : ∀ item ∈ items,
      mutationErrors (List.map indexed (dictsOf traces)) item = .ok [] := by
    intro item hmem
    obtain ⟨k, hk⟩ := List.getElem?_of_mem hmem
    obtain ⟨errors, herrors, hitem⟩ :=
      exists_of_forall₂_getElem? (mapM_eq_ok_iff.1 hentries).flip hk
    rw [← List.flatten_eq_nil_iff.1 hnone errors (List.mem_of_getElem? herrors)]
    exact hitem
  obtain ⟨entries, rfl, -⟩ := dicts_of_forall₂ (R := fun _ _ => True)
    (List.forall₂_same.2 fun item hmem => by
      obtain ⟨mutation, -, -, hdict, -⟩ := mutationErrors_eq_nil (hentry item hmem)
      exact ⟨mutation, hdict, trivial⟩)
  rw [dictsOf_map] at hmutationIds
  refine ⟨⟨traces, entries, listUnder_eq_nil htraces, listUnder_eq_nil hitems, htraceTexts,
    hmutationTexts, fun trace hmem => ⟨_, Mapping.get?_eq_some_of_get rfl (htraceIds trace hmem),
      hhashable trace hmem⟩, fun mutation hmem => ?_, fun mutation hmem => ?_⟩, hgates, hexecution⟩
  · simp [Mapping.get?_eq_some_of_get rfl (hmutationIds mutation hmem)]
  · obtain ⟨_, base, mutated, hdict, hbase, happly, hchanged⟩ :=
      mutationErrors_eq_nil (hentry (.dict mutation) (List.mem_map_of_mem hmem))
    obtain rfl := Json.dict.inj hdict
    obtain ⟨key, hkey, hhash, hbase⟩ := baseTrace_of_getTrace htraceIds hbase
    exact ⟨key, base, mutated, hkey, hhash, hbase, happly, hchanged⟩

/-- The evaluation of an accepted corpus of objects returns exactly if its traces and its mutated
traces can be checked. Every mutation changes the trace it names. -/
theorem acceptedCorpus_returns_iff (hrepr : PyRepr.repr .null = "None")
    (protocol schema baselines mutations : Mapping) (resultsExist : Bool)
    (traces items : List PyMapping)
    (htraces : baselines.get "traces" = .list ((traces.map codeMembers).map .dict))
    (hitems : mutations.get "mutations" = .list ((items.map codeMembers).map .dict))
    (h : VerifyProtocol.validate protocol schema baselines mutations resultsExist = .ok []) :
    ((∃ report, evaluateTraceCorpus baselines mutations = .ok report) ↔
      (∀ trace ∈ traces, CheckableTrace (codeMembers trace)) ∧
        ∀ mutation ∈ items, ∀ base mutated,
          baseTrace? (traces.map codeMembers) (codeMembers mutation) = some base →
          applyMutation base (codeMembers mutation) = .ok mutated → CheckableTrace mutated) ∧
    ∀ mutation ∈ items, ∃ base mutated,
      baseTrace? (traces.map codeMembers) (codeMembers mutation) = some base ∧
        applyMutation base (codeMembers mutation) = .ok mutated ∧
        ¬PyEq (.dict mutated) (.dict base) := by
  obtain ⟨⟨found, entries, happlicable⟩, -, -⟩ := corpus_of_accepted hrepr h
  obtain rfl := Json.list.inj (happlicable.baselines.symm.trans htraces)
  obtain rfl : entries = items.map codeMembers :=
    map_dict_injective (Json.list.inj (happlicable.mutations.symm.trans hitems))
  have htraceIds := happlicable.traceIds
  have hchanges := happlicable.changes
  rw [dictsOf_map] at htraceIds hchanges
  have hcoded : ∀ (ms : List PyMapping), ∀ m ∈ ms.map codeMembers, Coded (.dict m) := by
    intro ms
    rw [List.forall_mem_map]
    exact fun pm _ => coded_codeMembers pm
  refine ⟨?_, fun mutation hmem => ?_⟩
  · rw [evaluateTraceCorpus_returns_iff htraces hitems (hcoded traces) (hcoded items),
      List.forall_mem_map, List.forall_mem_map]
    constructor
    · rintro ⟨-, -, hhandled, hmutations⟩
      refine ⟨fun trace hmem => (hhandled trace hmem).checkable,
        fun mutation hmem base mutated hbase happly => ?_⟩
      obtain ⟨base', hbase', -, hcheckable⟩ := (hmutations mutation hmem).base
      obtain rfl := Option.some.inj (hbase.symm.trans hbase')
      exact hcheckable mutated happly
    · rintro ⟨hcheckable, hmutated⟩
      have htexts := happlicable.traceTexts
      have hmutationTexts := happlicable.mutationTexts
      rw [textsOf, dictsOf_map] at htexts hmutationTexts
      refine ⟨?_, ?_, fun trace hmem => ⟨htraceIds _ (List.mem_map_of_mem hmem),
        hcheckable trace hmem⟩, fun mutation hmem => ?_⟩
      · intro hnil
        simp [hnil, expectedBaselineIds] at htexts
      · intro hnil
        simp [hnil, expectedMutationIds] at hmutationTexts
      · obtain ⟨key, base, mutated, hkey, hhash, hbase, happly, -⟩ :=
          hchanges _ (List.mem_map_of_mem hmem)
        exact ⟨happlicable.mutationIds _ (List.mem_map_of_mem hmem), ⟨key, hkey, hhash⟩, base,
          hbase, applyMutation_returns_iff.1 ⟨mutated, happly⟩,
          fun mutated' happly' => hmutated mutation hmem base mutated' hbase happly'⟩
  · obtain ⟨-, base, mutated, -, -, hbase, happly, hchanged⟩ :=
      hchanges _ (List.mem_map_of_mem hmem)
    exact ⟨base, mutated, hbase, happly, hchanged⟩

end accepted

/-! ## The publication -/

section published

variable [JsonLoads] [PayloadHash]

variable {protocol results : Mapping} {runPayloads : List Bytes} {protocolSha256 : String}
  {digests : FrozenDigests}

/-- What the verifier checks, one thing at a time. -/
theorem validate_eq_nil_iff :
    validate protocol results runPayloads protocolSha256 digests = .ok [] ↔
      ∃ execution requiredRuns frozenArtifacts run,
        executionControls protocol = .ok (execution, requiredRuns) ∧
        expectedFrozenArtifacts protocol = .ok frozenArtifacts ∧
        Decodes runPayloads run ∧
        PyEq (count runPayloads.length) requiredRuns ∧
        protocolSha256 = expectedProtocolSha256 ∧
        PyEq (actualFrozenArtifacts digests) frozenArtifacts ∧
        byteErrors execution runPayloads = [] ∧
        differing results (publishedFields protocol run frozenArtifacts requiredRuns runPayloads
          protocolSha256) = [] ∧
        gateErrors (deriveGateResults protocol) results run = [] := by
  constructor
  · intro h
    unfold validate at h
    split at h
    · simp at h
    · next execution requiredRuns hcontrols =>
      obtain ⟨frozenArtifacts, hartifacts, h⟩ := bind_eq_ok.1 h
      obtain ⟨⟨decodeErrors, normalized⟩, hnormalized, h⟩ := bind_eq_ok.1 h
      obtain ⟨run, hrun, h⟩ := bind_eq_ok.1 h
      simp only [Except.ok.injEq, List.append_eq_nil_iff, TraceIntegrity.flag_eq_nil, not_not] at h
      obtain ⟨⟨⟨⟨⟨⟨hcount, hdigest⟩, hidentity⟩, hbytes⟩, rfl⟩, hfields⟩, hgates⟩ := h
      have hdecodes : Decodes runPayloads run :=
        run_of_decoded (executionControls_eq_ok hcontrols) hcount hnormalized hrun
      exact ⟨execution, requiredRuns, frozenArtifacts, run, hcontrols, hartifacts, hdecodes,
        hcount, hdigest, hidentity, hbytes, hfields, hgates⟩
  · rintro ⟨execution, requiredRuns, frozenArtifacts, run, hcontrols, hartifacts, hdecodes, hcount,
      hdigest, hidentity, hbytes, hfields, hgates⟩
    have hnormalized :=
      normalizedRun_of_decodes "normalized run artifact is not valid JSON" hdecodes
    unfold validate
    rw [hcontrols, hartifacts, hnormalized]
    simp only [ok_bind, getter, Except.ok.injEq, List.append_eq_nil_iff,
      TraceIntegrity.flag_eq_nil, not_not]
    exact ⟨⟨⟨⟨⟨⟨hcount, hdigest⟩, hidentity⟩, hbytes⟩, trivial⟩, hfields⟩, hgates⟩

theorem accepts_of_validate
    (h : validate protocol results runPayloads protocolSha256 digests = .ok []) :
    Accepts "detection_gates" protocol results runPayloads := by
  obtain ⟨execution, requiredRuns, frozenArtifacts, run, -, -, hdecodes, -, -, -, -, hfields,
    hgates⟩ := validate_eq_nil_iff.1 h
  simp only [differing_eq_nil, publishedFields, List.forall_mem_cons] at hfields
  obtain ⟨-, -, -, -, -, -, hmetrics, -, -, -, hreproduction, -⟩ := hfields
  exact ⟨requiredRuns, run, hdecodes, hmetrics, hreproduction, hgates⟩

variable [Hashlib] [PyRepr]

/-- The corpus was frozen and evaluated, and the report written as the first run artifact. -/
structure Evaluated (frozen published : Files) (baselines mutations report : Mapping) : Prop where
  accepted : VerifyProtocol.main frozen = some []
  protocol : published "evals/trace_integrity_v1/PROTOCOL.json" =
    frozen "evals/trace_integrity_v1/PROTOCOL.json"
  baselineFile : frozen.object? "evals/trace_integrity_v1/BASELINE_TRACES.json" = some baselines
  mutationFile : frozen.object? "evals/trace_integrity_v1/MUTATIONS.json" = some mutations
  evaluated : evaluateTraceCorpus baselines mutations = .ok report
  artifact : ∃ payload, published (artifactPath "evals/trace_integrity_v1" 1) = some payload ∧
    JsonLoads.loads payload = .ok (Json.dict report).sortKeys

/-- The validator finds nothing in the traces and something in every mutated trace. -/
def Separates (traces mutations : List Mapping) : Prop :=
  (∀ trace ∈ traces, validateTraceText trace = .ok []) ∧
    ∀ mutation ∈ mutations, ∃ base mutated violations,
      baseTrace? traces mutation = some base ∧ applyMutation base mutation = .ok mutated ∧
        validateTraceText mutated = .ok violations ∧ violations ≠ []

/-- An evaluated corpus is applicable, and was frozen with the published protocol. -/
theorem Evaluated.corpus (hrepr : PyRepr.repr .null = "None") {frozen published : Files}
    {baselines mutations report : Mapping}
    (h : Evaluated frozen published baselines mutations report) :
    (∃ traces items, Applicable baselines mutations traces items) ∧
      ∃ protocol, published.object? "evals/trace_integrity_v1/PROTOCOL.json" = some protocol ∧
        PyEq (protocol.get "detection_gates") (.dict (eqGates traceThresholds)) ∧
        PyEq (protocol.get "execution") (frozenExecution "evals/trace_integrity_v1") := by
  have haccepted := h.accepted
  simp only [VerifyProtocol.main, h.baselineFile, h.mutationFile, Option.bind_eq_bind,
    Option.bind_some, Option.bind_eq_some_iff, toOption_eq_some, Option.some.injEq,
    List.append_eq_nil_iff] at haccepted
  obtain ⟨protocol, hprotocol, schema, -, errors, hvalidate, -, -, -, -, -, -, -, -,
    ⟨⟨⟨rfl, -⟩, -⟩, -⟩, -⟩ := haccepted
  obtain ⟨happlicable, hgates, hexecution⟩ := corpus_of_accepted hrepr hvalidate
  have hpublished : published.object? "evals/trace_integrity_v1/PROTOCOL.json" =
      some protocol := by
    rw [Files.object?, h.protocol]
    exact hprotocol
  exact ⟨happlicable, protocol, hpublished,
    hgates.trans (pyEq_of_norm (by decide +kernel) (by simp)), hexecution⟩

/-- What the verifier accepts after the evaluation of a frozen corpus is a pass exactly if the
validator separates the frozen traces from the frozen mutations. -/
theorem trace_published (hrepr : PyRepr.repr .null = "None") (frozen published : Files)
    (baselines mutations report results : Mapping)
    (hevaluated : Evaluated frozen published baselines mutations report)
    (hresults : published.object? "evals/trace_integrity_v1/RESULTS.json" = some results)
    (hverified : VerifyResults.main published = some []) :
    ∃ traces items : List Mapping, baselines.get "traces" = .list (traces.map .dict) ∧
      mutations.get "mutations" = .list (items.map .dict) ∧
      traces.map (fun trace => (trace.get "trace_id").toStr) =
        VerifyProtocol.expectedBaselineIds ∧
      items.map (fun mutation => (mutation.get "id").toStr) =
        VerifyProtocol.expectedMutationIds ∧
      (results.get "aggregate_disposition" = .str "pass" ↔ Separates traces items) := by
  obtain ⟨traces, items, cleanResults, mutationResults, htraces, hitems, hreport⟩ :=
    evaluateTraceCorpus_eq_ok hevaluated.evaluated
  obtain ⟨⟨found, entries, happlicable⟩, protocol, hprotocol, hgates, hexecution⟩ :=
    hevaluated.corpus hrepr
  obtain rfl := Json.list.inj (happlicable.baselines.symm.trans htraces)
  have htexts := happlicable.traceTexts
  have hmutationTexts := happlicable.mutationTexts
  rw [Json.list.inj (happlicable.mutations.symm.trans hitems)] at hmutationTexts
  rw [textsOf, dictsOf_map] at htexts hmutationTexts
  refine ⟨traces, items, htraces, hitems, htexts, hmutationTexts, ?_⟩
  obtain ⟨payload, hpayload, hloads⟩ := hevaluated.artifact
  simp only [VerifyResults.main, hprotocol, hresults, Option.bind_eq_bind, Option.bind_some,
    Option.bind_eq_some_iff, toOption_eq_some] at hverified
  obtain ⟨n, hn, runPayloads, hruns, _, -, _, -, _, -, _, -, _, -, hvalidateResults⟩ := hverified
  obtain rfl := requiredRuns_eq_two hexecution hn
  obtain ⟨first, second, hfirst, -, rfl⟩ := mem_runPayloads hruns
  obtain rfl := Option.some.inj (hfirst.symm.trans hpayload)
  obtain ⟨-, run, ⟨first', rest, hcons, hrun⟩, -, -, hgateErrors⟩ :=
    accepts_of_validate hvalidateResults
  obtain ⟨rfl, -⟩ := List.cons.inj hcons
  obtain rfl : run = sortKeysMembers report :=
    Json.dict.inj (Except.ok.inj (hrun.symm.trans hloads))
  obtain ⟨metrics, hmetrics, hiff⟩ :=
    pass_iff_meets (by decide) (by decide) (by decide) hgates hgateErrors
  obtain ⟨computed, hcomputed, hreportMetrics⟩ := hreport.metrics
  rw [get_sortKeysMembers, hreportMetrics] at hmetrics
  have hsame : PyEq (.dict metrics) (.dict computed) := by
    rw [← hmetrics]
    exact pyEq_of_norm (norm_sortKeys _) (by simp)
  rw [hiff, Separates, ← hreport.right_iff]
  exact ⟨fun hmeets => detects_of_meets hcomputed hsame hmeets,
    fun hright => (meets_of_detects hcomputed hright.1 hright.2).of_pyEq hsame.symm⟩

end published

/-! ## A corpus of scopes -/

/-- A trace without records. -/
def scopeTrace (traceId : String) : PyMapping :=
  [(scalars "trace_id", .str (scalars traceId)),
    (scalars "scope", .dict [(scalars "run_id", .str (scalars "run-1")),
      (scalars "turn_id", .str (scalars "turn-1")), (scalars "provider", .str (scalars "p")),
      (scalars "operation_id", .str (scalars "op-1"))]),
    (scalars "records", .list [])]

/-- The mutation that empties the run id of the scope. -/
def scopeMutation (id category : String) : PyMapping :=
  [(scalars "id", .str (scalars id)), (scalars "category", .str (scalars category)),
    (scalars "base_trace_id", .str (scalars "retry_then_reconcile")),
    (scalars "operator", .str (scalars "replace")),
    (scalars "path", .str (scalars "/scope/run_id")), (scalars "value", .str [])]

/-- The categories of the frozen mutations. -/
def mutationCategories : List String :=
  ["event_identity", "event_identity", "event_identity", "trace_order", "approval_effect_binding",
    "approval_effect_binding", "approval_effect_binding", "checkpoint_lineage",
    "checkpoint_lineage", "checkpoint_lineage", "provider_revision", "provider_revision",
    "reconciliation_completion", "reconciliation_completion", "reconciliation_completion"]

/-- Traces with the ids of the baseline traces. -/
def scopeTraces : List PyMapping :=
  VerifyProtocol.expectedBaselineIds.map scopeTrace

/-- Mutations with the ids and the categories of the frozen ones. -/
def scopeMutations : List PyMapping :=
  List.zipWith scopeMutation VerifyProtocol.expectedMutationIds mutationCategories

/-- The document of the traces. -/
def scopeBaselines : Mapping :=
  [("schema_version", .str "carl.trace-integrity-baselines.v1"),
    ("traces", .list ((scopeTraces.map codeMembers).map .dict))]

/-- The document of the mutations. -/
def scopeCorpus : Mapping :=
  [("schema_version", .str "carl.trace-integrity-mutations.v1"),
    ("mutations", .list ((scopeMutations.map codeMembers).map .dict))]

/-- The errors of `verify_protocol.py` on the frozen protocol and the corpus of scopes. -/
def scopeErrors : Except Raised (List String) :=
  letI := plainRepr
  VerifyProtocol.validate frozenProtocol frozenSchema scopeBaselines scopeCorpus false

/-- The trace that the mutations are of, and what they make of it. -/
def scopeBase : Mapping :=
  codeMembers (scopeTrace "retry_then_reconcile")

/-- The trace that the mutations make of it. -/
def scopeMutated : Mapping :=
  scopeBase.set "scope" (.dict [("run_id", .str ""), ("turn_id", .str "turn-1"),
    ("provider", .str "p"), ("operation_id", .str "op-1")])

theorem scopeMutation_mutated :
    letI := plainRepr
    ∀ mutation ∈ scopeMutations,
      baseTrace? (scopeTraces.map codeMembers) (codeMembers mutation) = some scopeBase ∧
        applyMutation scopeBase (codeMembers mutation) = .ok scopeMutated := by
  decide +kernel

/-- The corpus of scopes is accepted. -/
theorem scopeErrors_eq : scopeErrors = .ok [] := by
  let := traceHashlib
  let := plainRepr
  have hindex : VerifyProtocol.indexNamed (scopeTraces.map codeMembers) =
      .ok ((scopeTraces.map codeMembers).map indexed) := by
    decide +kernel
  have hfound : ∀ mutation ∈ scopeMutations,
      inSet ((codeMembers mutation).get "operator") ["replace", "remove"] = .ok true ∧
        VerifyProtocol.getTrace ((scopeTraces.map codeMembers).map indexed)
          ((codeMembers mutation).get "base_trace_id") = .ok (some scopeBase) := by
    decide +kernel
  have hchanged : ¬PyEq (.dict scopeMutated) (.dict scopeBase) := by decide +kernel
  have hentries : ∀ item ∈ (scopeMutations.map codeMembers).map .dict,
      VerifyProtocol.mutationErrors ((scopeTraces.map codeMembers).map indexed) item = .ok [] := by
    simp only [List.forall_mem_map]
    intro mutation hmem
    exact mutationErrors_of_changed (hfound mutation hmem).1 (hfound mutation hmem).2
      (scopeMutation_mutated mutation hmem).2 hchanged
  have hmap := mapM_eq_ok_iff.2 (List.forall₂_map_right_iff.2 (List.forall₂_same.2 hentries))
  have htraces : VerifyProtocol.listUnder scopeBaselines "traces"
      "baseline traces must be a list" = ([], (scopeTraces.map codeMembers).map .dict) := rfl
  have hitems : VerifyProtocol.listUnder scopeCorpus "mutations" "mutations must be a list" =
      ([], (scopeMutations.map codeMembers).map .dict) := rfl
  simp only [scopeErrors, VerifyProtocol.validate, htraces, hitems, dictsOf_map, hindex, ok_bind,
    hmap, Except.ok.injEq, List.append_eq_nil_iff, TraceIntegrity.flag_eq_nil, not_not,
    and_assoc]
  refine ⟨by decide +kernel, by simp, by decide +kernel, differing_same rfl (by simp),
    by decide +kernel, differing_same rfl (by simp), trivial, rfl, differing_same rfl (by simp),
    trivial, rfl, by decide +kernel, by simp⟩

theorem acceptedCorpus_returns_iff_sample :
    letI := traceHashlib
    letI := plainRepr
    ∃ report, evaluateTraceCorpus scopeBaselines scopeCorpus = .ok report := by
  let := traceHashlib
  let := plainRepr
  have hclean : ∀ trace ∈ scopeTraces, validateTraceText (codeMembers trace) = .ok [] := by
    decide +kernel
  have hviolations : validateTraceText scopeMutated = .ok ["scope_run_id_invalid"] := by
    decide +kernel
  refine (acceptedCorpus_returns_iff rfl frozenProtocol frozenSchema scopeBaselines scopeCorpus
    false scopeTraces scopeMutations rfl rfl scopeErrors_eq).1.2 ⟨fun trace hmem => ?_,
      fun mutation hmem base mutated hbase happly => ?_⟩
  · exact (validateTraceText_of_coded (coded_codeMembers trace)).1 ⟨_, hclean trace hmem⟩
  · obtain ⟨hbase', happly'⟩ := scopeMutation_mutated mutation hmem
    obtain rfl := Option.some.inj (hbase.symm.trans hbase')
    obtain rfl := Except.ok.inj (happly.symm.trans happly')
    exact (validateTraceText_of_coded (applyMutation_coded (coded_codeMembers _)
      (coded_codeMembers mutation) happly)).1 ⟨_, hviolations⟩

/-! ## The frozen corpus -/

/-- The frozen corpus is accepted. -/
theorem validate_frozen :
    letI := plainRepr
    VerifyProtocol.validate frozenProtocol frozenSchema frozenBaselines frozenMutations false =
      .ok [] := by
  decide +kernel

/-- A digest that is right on the effects of the frozen corpus. -/
@[reducible] def corpusHashlib : Hashlib where
  sha256Hexdigest text :=
    if text = "[\"provider-b\",\"op-22\",\"write_marker\"," ++
        "\"41c691092945085c0570557d8b55db737c56953f5e086d19c9968375afcf0008\"]" then pendingEffect
    else sampleEffect

/-- The report on the frozen corpus. -/
def frozenReport : Mapping :=
  [("schema_version", .str "carl.trace-integrity-result.v1"),
    ("clean_results", .list (VerifyProtocol.expectedBaselineIds.map fun id =>
      .dict (CleanResult.mk (.str id) true []).toMapping)),
    ("mutation_results", .list (List.zipWith (fun id violations =>
      .dict (MutationResult.mk (.str id) true violations).toMapping)
      VerifyProtocol.expectedMutationIds mutationViolations)),
    ("metrics", .dict [("clean_trace_count", .int 3),
      ("clean_trace_accept_rate", .float (.finite 1)), ("mutation_count", .int 15),
      ("mutation_detection_rate", .float (.finite 1)), ("false_positive_count", .int 0),
      ("false_negative_count", .int 0), ("detector_error_count", .int 0)])]

/-- The evaluation makes the frozen report. -/
theorem evaluateTraceCorpus_frozen :
    letI := corpusHashlib
    letI := plainRepr
    evaluateTraceCorpus frozenBaselines frozenMutations = .ok frozenReport := by
  decide +kernel

/-- The run artifacts hold the frozen report. -/
theorem sortKeys_frozenReport : sortKeysMembers frozenReport = frozenRun := by
  decide +kernel

/-- The files that are frozen. -/
def frozenFiles : List (String × Content) :=
  [("evals/trace_integrity_v1/PROTOCOL.json", FrozenFiles.traceProtocol),
    ("evals/trace_integrity_v1/TRACE_SCHEMA.json", FrozenFiles.traceSchema),
    ("evals/trace_integrity_v1/BASELINE_TRACES.json", FrozenFiles.traceBaselines),
    ("evals/trace_integrity_v1/MUTATIONS.json", FrozenFiles.traceMutations),
    ("src/agent_reliability_lab/trace_integrity.py", FrozenFiles.traceDetector)]

/-- The files that are published. -/
def publishedFiles : List (String × Content) :=
  [("evals/trace_integrity_v1/RESULTS.json", FrozenFiles.traceResults),
    (artifactPath "evals/trace_integrity_v1" 1, FrozenFiles.traceRun),
    (artifactPath "evals/trace_integrity_v1" 2, FrozenFiles.traceRun)]

section snapshot

variable {archive : Archive} {snapshot : Snapshot archive}

/-- The frozen protocol and its corpus are accepted. -/
theorem accepted_of_frozen (h : frozenFiles ⊆ snapshot.stored.rows)
    (habsent : ∀ file ∈ snapshot.stored.rows,
      file.1 ≠ "evals/trace_integrity_v1/RESULTS.json") :
    letI := plainRepr
    letI := archive.payloadHash
    letI := archive.jsonLoads
    VerifyProtocol.main snapshot.files = some [] := by
  let := plainRepr
  let := archive.payloadHash
  let := archive.jsonLoads
  have hprotocol := h (List.mem_of_getElem? (i := 0) rfl)
  have hschema := h (List.mem_of_getElem? (i := 1) rfl)
  have hbaselines := h (List.mem_of_getElem? (i := 2) rfl)
  have hmutations := h (List.mem_of_getElem? (i := 3) rfl)
  have hdetector := h (List.mem_of_getElem? (i := 4) rfl)
  simp only [VerifyProtocol.main, Snapshot.object?_of_mem hprotocol rfl,
    Snapshot.object?_of_mem hschema rfl, Snapshot.object?_of_mem hbaselines rfl,
    Snapshot.object?_of_mem hmutations rfl, Snapshot.sha256?_of_mem hschema,
    Snapshot.sha256?_of_mem hbaselines, Snapshot.sha256?_of_mem hmutations,
    Snapshot.sha256?_of_mem hdetector, Snapshot.files_eq_none habsent, Option.bind_eq_bind,
    Option.bind_some]
  rw [Option.isSome_none, toOption_eq_some.2 validate_frozen]
  rfl

/-- The publication of the frozen evaluation is verified. -/
theorem verified_of_published (h : frozenFiles ++ publishedFiles ⊆ snapshot.stored.rows) :
    letI := archive.payloadHash
    letI := archive.jsonLoads
    VerifyResults.main snapshot.files = some [] := by
  let := archive.payloadHash
  let := archive.jsonLoads
  have hprotocol := h (List.mem_of_getElem? (i := 0) rfl)
  have hschema := h (List.mem_of_getElem? (i := 1) rfl)
  have hbaselines := h (List.mem_of_getElem? (i := 2) rfl)
  have hmutations := h (List.mem_of_getElem? (i := 3) rfl)
  have hdetector := h (List.mem_of_getElem? (i := 4) rfl)
  have hresults := h (List.mem_of_getElem? (i := 5) rfl)
  have hfirst := h (List.mem_of_getElem? (i := 6) rfl)
  have hsecond := h (List.mem_of_getElem? (i := 7) rfl)
  have hrequired : requiredRuns? frozenProtocol = some 2 := by
    decide +kernel
  have hsha256 := Archive.sha256Hexdigest_of_mem (snapshot.archived _ hfirst)
  have hloads := Archive.document?_of_mem (snapshot.archived _ hfirst) rfl
  simp only [VerifyResults.main, Snapshot.object?_of_mem hprotocol rfl,
    Snapshot.object?_of_mem hresults rfl, hrequired,
    runPayloads_two (Snapshot.files_of_mem hfirst) (Snapshot.files_of_mem hsecond),
    Snapshot.sha256?_of_mem hprotocol, Snapshot.sha256?_of_mem hschema,
    Snapshot.sha256?_of_mem hbaselines, Snapshot.sha256?_of_mem hmutations,
    Snapshot.sha256?_of_mem hdetector, Option.bind_eq_bind, Option.bind_some, toOption_eq_some]
  refine validate_eq_nil_iff.2 ⟨frozenControls "evals/trace_integrity_v1", .int 2,
    actualFrozenArtifacts ⟨_, _, _, _⟩, frozenRun, rfl, rfl, ⟨_, _, rfl, hloads⟩, by decide, rfl,
    pyEq_of_norm rfl (by simp [actualFrozenArtifacts]),
    by simp [byteErrors, byteEqual_twins], ?_, by decide +kernel⟩
  simp only [differing_eq_nil, publishedFields, expectedRuns_twins _ hsha256,
    expectedReproduction_twins hsha256, List.forall_mem_cons, List.not_mem_nil, false_imp_iff,
    implies_true, and_true]
  exact ⟨pyEq_of_norm rfl (by simp), pyEq_of_norm rfl (by decide), pyEq_of_norm rfl (by simp),
    pyEq_of_norm rfl (by simp), pyEq_of_norm rfl (by simp [actualFrozenArtifacts]),
    pyEq_of_norm rfl (by decide), pyEq_of_norm rfl (by decide), pyEq_of_norm rfl (by decide),
    pyEq_of_norm rfl (by decide), pyEq_of_norm rfl (by decide), by decide +kernel⟩

end snapshot

/-- The repository when the protocol was frozen. -/
def frozenSnapshot : Snapshot FrozenFiles.archive where
  stored := ⟨frozenFiles, by decide +kernel⟩
  archived := by simp [frozenFiles, FrozenFiles.archive]

/-- The repository when the results were published. -/
def publishedSnapshot : Snapshot FrozenFiles.archive where
  stored := ⟨frozenFiles ++ publishedFiles, by decide +kernel⟩
  archived := by simp [frozenFiles, publishedFiles, FrozenFiles.archive]

/-- The published results are a pass : the validator separates the frozen corpus. -/
theorem trace_published_sample :
    letI := corpusHashlib
    letI := plainRepr
    ∃ traces items : List Mapping, frozenBaselines.get "traces" = .list (traces.map .dict) ∧
      frozenMutations.get "mutations" = .list (items.map .dict) ∧ Separates traces items := by
  let := corpusHashlib
  let := plainRepr
  let := FrozenFiles.archive.payloadHash
  let := FrozenFiles.archive.jsonLoads
  have hloads : JsonLoads.loads FrozenFiles.traceRun.payload =
      .ok (Json.dict frozenReport).sortKeys := by
    rw [sortKeys, sortKeys_frozenReport]
    exact Archive.document?_of_mem (by simp [FrozenFiles.archive]) rfl
  have hevaluated : Evaluated frozenSnapshot.files publishedSnapshot.files frozenBaselines
      frozenMutations frozenReport :=
    ⟨accepted_of_frozen (List.Subset.refl _) (by decide +kernel),
      (Snapshot.files_of_mem (List.mem_of_getElem? (i := 0) rfl)).trans
        (Snapshot.files_of_mem (List.mem_of_getElem? (i := 0) rfl)).symm,
      Snapshot.object?_of_mem (List.mem_of_getElem? (i := 2) rfl) rfl,
      Snapshot.object?_of_mem (List.mem_of_getElem? (i := 3) rfl) rfl,
      evaluateTraceCorpus_frozen, _, Snapshot.files_of_mem (List.mem_of_getElem? (i := 6) rfl),
      hloads⟩
  obtain ⟨traces, items, htraces, hitems, -, -, hiff⟩ := trace_published rfl
    frozenSnapshot.files publishedSnapshot.files frozenBaselines frozenMutations frozenReport
    publishedResults hevaluated
    (Snapshot.object?_of_mem (List.mem_of_getElem? (i := 5) rfl) rfl)
    (verified_of_published (List.Subset.refl _))
  exact ⟨traces, items, htraces, hitems, hiff.1 rfl⟩

end TraceIntegrityV1

end ReliabilityLab
