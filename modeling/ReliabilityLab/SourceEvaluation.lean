import ReliabilityLab.ReleaseGate

/-!
# What a passing source shows

`evaluate_source` collects checks and errors side by side. Every check that is made has its
error exactly if it is not true (`Findings.Agrees`), no check is made twice under one name
(`findings_names`), and a branch that leaves checks out makes one that is not true
(`Findings.Complete`). So a source passes exactly if all its checks are true, and then all of
`sourceChecks` were made. `passed_iff` says what they amount to (`Holds`).
-/

set_option linter.unusedSectionVars false

open Serial

namespace ReliabilityLab

open Json

open TraceIntegrity (sortedSet sortedSet_eq_nil)

namespace ReleaseGate

/-! ## Checks and errors -/

/-- The checks are true exactly if there is no error. -/
def Findings.Agrees (f : Findings) : Prop :=
  (∀ c ∈ f.checks, c.2 = .bool true) ↔ f.errors = []

/-- Without an error the checks are those named, all of them true. -/
def Findings.Complete (names : List String) (f : Findings) : Prop :=
  f.errors = [] → f.checks = names.map fun name => (name, .bool true)

theorem Findings.append_checks (f g : Findings) : (f ++ g).checks = f.checks ++ g.checks := rfl

theorem Findings.append_errors (f g : Findings) : (f ++ g).errors = f.errors ++ g.errors := rfl

@[simp] theorem errors_append_eq_nil {f g : Findings} :
    (f ++ g).errors = [] ↔ f.errors = [] ∧ g.errors = [] := by
  rw [Findings.append_errors, List.append_eq_nil_iff]

@[simp] theorem check_errors_eq_nil {name error : String} {passed : Bool} :
    (check name passed error).errors = [] ↔ passed = true := by
  unfold check
  split_ifs with h <;> simp [h]

theorem check_names (name error : String) (passed : Bool) :
    (check name passed error).checks.map Prod.fst = [name] := rfl

theorem check_agrees (name error : String) (passed : Bool) :
    (check name passed error).Agrees := by
  rw [Findings.Agrees, check_errors_eq_nil]
  simp [check]

theorem Findings.Agrees.append {f g : Findings} (hf : f.Agrees) (hg : g.Agrees) :
    (f ++ g).Agrees := by
  unfold Agrees at hf hg ⊢
  rw [errors_append_eq_nil, append_checks, List.forall_mem_append, hf, hg]

theorem check_complete (name error : String) (passed : Bool) :
    (check name passed error).Complete [name] := by
  intro h
  rw [check_errors_eq_nil] at h
  simp [check, h]

theorem Findings.Complete.append {names names' : List String} {f g : Findings}
    (hf : f.Complete names) (hg : g.Complete names') : (f ++ g).Complete (names ++ names') := by
  intro h
  obtain ⟨hferrors, hgerrors⟩ := errors_append_eq_nil.1 h
  rw [append_checks, hf hferrors, hg hgerrors, List.map_append]

/-- A check that is not true completes anything. -/
theorem check_false_complete (name error : String) (names : List String) :
    (check name false error).Complete names := by
  intro h
  simp at h

/-! ## The names -/

/-- The checks of a pinned file whose identity is complete. -/
def pinChecks (label : String) : List String :=
  [label ++ "_present", label ++ "_current_sha256_matches",
    label ++ "_pinned_commit_sha256_matches"]

/-- The checks of a result. -/
def resultChecks : List String :=
  ["result_json_valid", "result_schema_version_matches", "result_protocol_id_matches",
    "result_freeze_commit_sha_matches", "result_protocol_sha256_matches",
    "source_disposition_passes", "all_frozen_source_gates_pass", "reproduction_object_present",
    "source_independent_runs_satisfied", "source_normalized_output_byte_identical"]

/-- The checks of a source, none of them skipped. -/
def sourceChecks : List String :=
  pinChecks "protocol" ++ pinChecks "result" ++ pinChecks "result_verifier" ++ resultChecks ++
    ["source_result_verifier_passes"]

/-- The names that the checks of a pinned file may have. -/
def pinNames (label : String) : List String :=
  (label ++ "_identity_complete") :: pinChecks label

section evaluate

variable [PayloadHash] [JsonLoads] [PyRepr]

variable {env : Environment} {source criteria : Mapping}

theorem identityFindings_agrees (env : Environment) (label : String)
    (commit relpath expectedSha : Json) :
    (identityFindings env label commit relpath expectedSha).Agrees ∧
      (identityFindings env label commit relpath expectedSha).Complete (pinChecks label) ∧
      ((identityFindings env label commit relpath expectedSha).checks.map Prod.fst).Sublist
        (pinNames label) := by
  unfold identityFindings
  split
  · split
    · exact ⟨check_agrees _ _ _, check_false_complete _ _ _, by simp [check, pinNames, pinChecks]⟩
    · refine ⟨((check_agrees _ _ _).append (check_agrees _ _ _)).append (check_agrees _ _ _),
        ((check_complete _ _ _).append (check_complete _ _ _)).append (check_complete _ _ _), ?_⟩
      exact List.sublist_cons_self _ (pinChecks label)
  · exact ⟨check_agrees _ _ _, check_false_complete _ _ _, by simp [check, pinNames]⟩

theorem reproductionFindings_agrees (criteria : Mapping) (reproduction : Json) :
    (reproductionFindings criteria reproduction).Agrees ∧
      (reproductionFindings criteria reproduction).Complete
        ["reproduction_object_present", "source_independent_runs_satisfied",
          "source_normalized_output_byte_identical"] ∧
      ((reproductionFindings criteria reproduction).checks.map Prod.fst).Sublist
        ["reproduction_object_present", "source_independent_runs_satisfied",
          "source_normalized_output_byte_identical"] := by
  unfold reproductionFindings
  split
  · exact ⟨((check_agrees _ _ _).append (check_agrees _ _ _)).append (check_agrees _ _ _),
      ((check_complete _ _ _).append (check_complete _ _ _)).append (check_complete _ _ _),
      List.Sublist.refl _⟩
  · exact ⟨check_agrees _ _ _, check_false_complete _ _ _, by simp [check]⟩

theorem resultFindings_agrees (source criteria : Mapping) (result : Option Mapping) :
    (resultFindings source criteria result).Agrees ∧
      (resultFindings source criteria result).Complete resultChecks ∧
      ((resultFindings source criteria result).checks.map Prod.fst).Sublist resultChecks := by
  rcases result with _ | result
  · exact ⟨check_agrees _ _ _, check_false_complete _ _ _, by
      simp [resultFindings, check, resultChecks]⟩
  · obtain ⟨hagrees, hcomplete, hnames⟩ :=
      reproductionFindings_agrees criteria (result.get "reproduction")
    refine ⟨?_, ?_, ?_⟩
    · exact (((((((check_agrees _ _ _).append (check_agrees _ _ _)).append
        (check_agrees _ _ _)).append (check_agrees _ _ _)).append (check_agrees _ _ _)).append
        (check_agrees _ _ _)).append (check_agrees _ _ _)).append hagrees
    · exact (((((((check_complete _ _ _).append (check_complete _ _ _)).append
        (check_complete _ _ _)).append (check_complete _ _ _)).append
        (check_complete _ _ _)).append (check_complete _ _ _)).append
        (check_complete _ _ _)).append hcomplete
    · exact (List.Sublist.refl (resultChecks.take 7)).append hnames

/-- The findings about a source whose result file holds `result`. -/
def sourceFindings (env : Environment) (source criteria : Mapping) (result : Option Mapping) :
    Findings :=
  identitiesFindings env source ++ resultFindings source criteria result ++
    check "source_result_verifier_passes" (verifierOk env (source.get "result_verifier_path"))
      "source_result_verifier_failed"

theorem ofFindings_passed {sourceId : String} {findings : Findings} :
    (SourceResult.ofFindings sourceId findings).passed = true ↔ findings.errors = [] :=
  decide_eq_true_iff

theorem evaluateSource_eq_ok {found : SourceResult} :
    evaluateSource env source criteria = .ok found ↔
      ∃ result, publishedResult env (source.get "result_path") = .ok result ∧
        found = .ofFindings (sourceIdOf source) (sourceFindings env source criteria result) := by
  rw [evaluateSource, bind_eq_ok]
  simp only [Except.ok.injEq, eq_comm (a := found)]
  rfl

theorem identitiesFindings_agrees (env : Environment) (source : Mapping) :
    (identitiesFindings env source).Agrees ∧
      (identitiesFindings env source).Complete
        (pinChecks "protocol" ++ pinChecks "result" ++ pinChecks "result_verifier") ∧
      ((identitiesFindings env source).checks.map Prod.fst).Sublist
        (pinNames "protocol" ++ pinNames "result" ++ pinNames "result_verifier") := by
  obtain ⟨hagrees, hcomplete, hnames⟩ := identityFindings_agrees env "protocol"
    (source.get "freeze_commit_sha") (source.get "protocol_path") (source.get "protocol_sha256")
  obtain ⟨hagrees', hcomplete', hnames'⟩ := identityFindings_agrees env "result"
    (source.get "result_commit_sha") (source.get "result_path") (source.get "result_sha256")
  obtain ⟨hagrees'', hcomplete'', hnames''⟩ := identityFindings_agrees env "result_verifier"
    (source.get "result_commit_sha") (source.get "result_verifier_path")
    (source.get "result_verifier_sha256")
  refine ⟨(hagrees.append hagrees').append hagrees'',
    (hcomplete.append hcomplete').append hcomplete'', ?_⟩
  simp only [identitiesFindings, Findings.append_checks, List.map_append]
  exact (hnames.append hnames').append hnames''

/-- The checks of a source have their errors, and no two have one name. -/
theorem sourceFindings_agrees (env : Environment) (source criteria : Mapping)
    (result : Option Mapping) :
    (sourceFindings env source criteria result).Agrees ∧
      (sourceFindings env source criteria result).Complete sourceChecks ∧
      ((sourceFindings env source criteria result).checks.map Prod.fst).Nodup := by
  obtain ⟨hagrees, hcomplete, hnames⟩ := identitiesFindings_agrees env source
  obtain ⟨hagrees', hcomplete', hnames'⟩ := resultFindings_agrees source criteria result
  refine ⟨(hagrees.append hagrees').append (check_agrees _ _ _),
    (hcomplete.append hcomplete').append (check_complete _ _ _), ?_⟩
  have hnodup : (pinNames "protocol" ++ pinNames "result" ++ pinNames "result_verifier" ++
      resultChecks ++ ["source_result_verifier_passes"]).Nodup := by decide +kernel
  refine List.Nodup.sublist ?_ hnodup
  simp only [sourceFindings, Findings.append_checks, List.map_append, check_names]
  exact (hnames.append hnames').append (List.Sublist.refl _)

/-! ## What the checks amount to -/

/-- The file `path` and its blob at `commit` have the digest `sha`. -/
structure PinnedFile (env : Environment) (commit path sha : String) : Prop where
  current : ∃ payload, env.file path = some payload ∧ PayloadHash.sha256Hexdigest payload = sha
  pinned : ∃ blob, env.gitBlob commit path = some blob ∧ PayloadHash.sha256Hexdigest blob = sha

/-- A complete identity of a pinned file. -/
def Pinned (env : Environment) (commit relpath expectedSha : Json) : Prop :=
  ∃ c p s, commit.nonemptyStr? = some c ∧ relpath.nonemptyStr? = some p ∧
    expectedSha.nonemptyStr? = some s ∧ PinnedFile env c p s

/-- The result file of a source holds the object `published`. -/
def Published (env : Environment) (source published : Mapping) : Prop :=
  ∃ path payload, source.get "result_path" = .str path ∧ env.file path = some payload ∧
    JsonLoads.loadsText payload = .ok (.dict published)

/-- The recorded runs are those required, at least the minimum of them, with one output. -/
structure Reproduced (criteria reproduction : Mapping) : Prop where
  runs : ∃ required minimum,
    (reproduction.get "independent_runs_required").intValue? = some required ∧
      (reproduction.get "independent_runs_recorded").intValue? = some required ∧
      (criteria.get "minimum_source_independent_runs").intValue? = some minimum ∧
      minimum ≤ required
  identical : reproduction.get "normalized_output_byte_identical" = .bool true

/-- There are frozen gates, and all of them passed. -/
def GatesPassed (frozenGates : Json) : Prop :=
  ∃ gates : Mapping, frozenGates = .dict gates ∧ gates ≠ [] ∧
    ∀ name gate, gates.get? name = some gate →
      ∃ item : Mapping, gate = .dict item ∧ item.get "passed" = .bool true

/-- The result is the one of the source, with the required disposition, its gates passed and
its runs reproduced. -/
structure ResultHolds (source criteria published : Mapping) : Prop where
  schemaVersion : PyEq (published.get "schema_version") (source.get "result_schema_version")
  protocolId : PyEq (published.get "protocol_id") (source.get "protocol_id")
  freezeCommit : PyEq (published.get "freeze_commit_sha") (source.get "freeze_commit_sha")
  protocolSha256 : PyEq (published.get "protocol_sha256") (source.get "protocol_sha256")
  disposition : PyEq (published.get "aggregate_disposition")
    (criteria.get "required_source_disposition")
  gates : GatesPassed (published.get "frozen_gates")
  reproduction : ∃ reproduction : Mapping, published.get "reproduction" = .dict reproduction ∧
    Reproduced criteria reproduction

/-- The verifier of a source is there and returns zero. -/
def VerifierPasses (env : Environment) (source : Mapping) : Prop :=
  ∃ path payload, source.get "result_verifier_path" = .str path ∧ env.file path = some payload ∧
    (env.runVerifier path).1 = 0

/-- The source, with the result `published`, is all that the release wants of it. -/
structure Holds (env : Environment) (source criteria published : Mapping) : Prop where
  protocol : Pinned env (source.get "freeze_commit_sha") (source.get "protocol_path")
    (source.get "protocol_sha256")
  result : Pinned env (source.get "result_commit_sha") (source.get "result_path")
    (source.get "result_sha256")
  verifier : Pinned env (source.get "result_commit_sha") (source.get "result_verifier_path")
    (source.get "result_verifier_sha256")
  file : Published env source published
  fields : ResultHolds source criteria published
  verified : VerifierPasses env source

theorem checkBlobIdentity_eq_true {commit path sha : String} :
    (checkBlobIdentity env commit path sha).1 = true ↔
      ∃ blob, env.gitBlob commit path = some blob ∧ PayloadHash.sha256Hexdigest blob = sha := by
  unfold checkBlobIdentity
  rcases env.gitBlob commit path with _ | blob
  · simp
  · by_cases h : PayloadHash.sha256Hexdigest blob = sha <;> simp [h]

theorem identityFindings_errors_eq_nil {label : String} {commit relpath expectedSha : Json} :
    (identityFindings env label commit relpath expectedSha).errors = [] ↔
      Pinned env commit relpath expectedSha := by
  unfold identityFindings Pinned
  rcases commit.nonemptyStr? with _ | c <;> rcases relpath.nonemptyStr? with _ | p <;>
    rcases expectedSha.nonemptyStr? with _ | s
  case some.some.some =>
    dsimp only
    rcases hfile : env.file p with _ | payload
    · simp only [check_errors_eq_nil, Option.some.injEq, Bool.false_eq_true, false_iff]
      rintro ⟨_, _, _, rfl, rfl, rfl, ⟨payload, hpayload, -⟩, -⟩
      rw [hfile] at hpayload
      cases hpayload
    · simp only [errors_append_eq_nil, check_errors_eq_nil, decide_eq_true_eq, true_and,
        checkBlobIdentity_eq_true, Option.some.injEq]
      constructor
      · rintro ⟨hcurrent, hpinned⟩
        exact ⟨c, p, s, rfl, rfl, rfl, ⟨payload, hfile, hcurrent⟩, hpinned⟩
      · rintro ⟨_, _, _, rfl, rfl, rfl, ⟨payload', hpayload', hcurrent⟩, hpinned⟩
        obtain rfl := Option.some.inj (hfile.symm.trans hpayload')
        exact ⟨hcurrent, hpinned⟩
  all_goals simp

theorem gatePasses_eq_true {gate : Json} :
    gatePasses gate = true ↔
      ∃ item : Mapping, gate = .dict item ∧ item.get "passed" = .bool true := by
  rcases gate with _ | _ | _ | _ | _ | _ | item <;> simp [gatePasses]

theorem gatesOk_eq_true {frozenGates : Json} : gatesOk frozenGates = true ↔
    GatesPassed frozenGates := by
  rcases frozenGates with _ | _ | _ | _ | _ | _ | gates
  case dict =>
    simp only [gatesOk, GatesPassed, decide_eq_true_eq, Bool.decide_and, Bool.and_eq_true,
      Json.dict.injEq, exists_eq_left', gatePasses_eq_true, Prod.forall, mem_sortedItems]
  all_goals simp [gatesOk, GatesPassed]

theorem runsSatisfied_eq_true {reproduction criteria : Mapping} :
    runsSatisfied reproduction criteria = true ↔ ∃ required minimum,
      (reproduction.get "independent_runs_required").intValue? = some required ∧
        (reproduction.get "independent_runs_recorded").intValue? = some required ∧
        (criteria.get "minimum_source_independent_runs").intValue? = some minimum ∧
        minimum ≤ required := by
  simp only [runsSatisfied, decide_eq_true_eq, Option.mem_def]
  constructor
  · rintro ⟨required, hrequired, _, hrecorded, minimum, hminimum, hle, rfl⟩
    exact ⟨_, minimum, hrequired, hrecorded, hminimum, hle⟩
  · rintro ⟨required, minimum, hrequired, hrecorded, hminimum, hle⟩
    exact ⟨required, hrequired, required, hrecorded, minimum, hminimum, hle, rfl⟩

theorem reproductionFindings_errors_eq_nil {reproduction : Json} :
    (reproductionFindings criteria reproduction).errors = [] ↔
      ∃ members : Mapping, reproduction = .dict members ∧ Reproduced criteria members := by
  rcases reproduction with _ | _ | _ | _ | _ | _ | members
  case dict =>
    simp only [reproductionFindings, errors_append_eq_nil, check_errors_eq_nil, true_and,
      runsSatisfied_eq_true, decide_eq_true_eq, Json.dict.injEq, exists_eq_left']
    exact ⟨fun ⟨hruns, hidentical⟩ => ⟨hruns, hidentical⟩, fun h => ⟨h.runs, h.identical⟩⟩
  all_goals simp [reproductionFindings]

theorem resultFindings_errors_eq_nil {result : Option Mapping} :
    (resultFindings source criteria result).errors = [] ↔
      ∃ published, result = some published ∧ ResultHolds source criteria published := by
  rcases result with _ | published
  · simp [resultFindings]
  · simp only [resultFindings, matchFindings, errors_append_eq_nil, check_errors_eq_nil,
      true_and, decide_eq_true_eq, gatesOk_eq_true, reproductionFindings_errors_eq_nil,
      Option.some.injEq, exists_eq_left', and_assoc]
    exact ⟨fun ⟨h₁, h₂, h₃, h₄, h₅, h₆, h₇⟩ => ⟨h₁, h₂, h₃, h₄, h₅, h₆, h₇⟩, fun h =>
      ⟨h.schemaVersion, h.protocolId, h.freezeCommit, h.protocolSha256, h.disposition, h.gates,
        h.reproduction⟩⟩

theorem verifierOk_eq_true :
    verifierOk env (source.get "result_verifier_path") = true ↔ VerifierPasses env source := by
  unfold VerifierPasses
  rcases source.get "result_verifier_path" with _ | _ | _ | _ | path | _ | _
  case str =>
    simp only [verifierOk, Bool.and_eq_true, decide_eq_true_eq, Option.isSome_iff_exists,
      Json.str.injEq]
    constructor
    · rintro ⟨⟨payload, hpayload⟩, hcode⟩
      exact ⟨path, payload, rfl, hpayload, hcode⟩
    · rintro ⟨_, payload, rfl, hpayload, hcode⟩
      exact ⟨⟨payload, hpayload⟩, hcode⟩
  all_goals simp [verifierOk]

theorem publishedResult_eq_some {published : Mapping} :
    publishedResult env (source.get "result_path") = .ok (some published) ↔
      Published env source published := by
  unfold Published publishedResult
  rcases source.get "result_path" with _ | _ | _ | _ | path | _ | _
  case str =>
    simp only [Json.str.injEq]
    rcases hfile : env.file path with _ | payload
    · simp only [Except.ok.injEq, reduceCtorEq, false_iff]
      rintro ⟨_, payload, rfl, hpayload, -⟩
      rw [hfile] at hpayload
      cases hpayload
    · constructor
      · intro h
        refine ⟨path, payload, rfl, hfile, ?_⟩
        revert h
        dsimp only
        split <;> rename_i hloads <;> simp [hloads]
      · rintro ⟨_, payload', rfl, hpayload', hloads⟩
        obtain rfl := Option.some.inj (hfile.symm.trans hpayload')
        simp only [hloads]
  all_goals simp

/-- A source passes exactly if it is all that the release wants of it. -/
theorem passed_iff {found : SourceResult} (h : evaluateSource env source criteria = .ok found) :
    found.passed = true ↔ ∃ published, Holds env source criteria published := by
  obtain ⟨result, hresult, rfl⟩ := evaluateSource_eq_ok.1 h
  rw [ofFindings_passed]
  simp only [sourceFindings, errors_append_eq_nil, identitiesFindings,
    identityFindings_errors_eq_nil, resultFindings_errors_eq_nil, check_errors_eq_nil,
    verifierOk_eq_true, and_assoc]
  constructor
  · rintro ⟨hprotocol, hpinned, hverifier, ⟨published, rfl, hfields⟩, hverified⟩
    exact ⟨published, hprotocol, hpinned, hverifier, publishedResult_eq_some.1 hresult, hfields,
      hverified⟩
  · rintro ⟨published, hholds⟩
    have hsame := publishedResult_eq_some.2 hholds.file
    rw [hresult] at hsame
    exact ⟨hholds.protocol, hholds.result, hholds.verifier,
      ⟨published, Except.ok.inj hsame, hholds.fields⟩, hholds.verified⟩

/-- A source that is all that is wanted of it passes. -/
theorem passes_iff :
    Passes env criteria source ↔ ∃ published, Holds env source criteria published := by
  constructor
  · rintro ⟨found, hfound, hpassed⟩
    exact (passed_iff hfound).1 hpassed
  · rintro ⟨published, hholds⟩
    have hresult := publishedResult_eq_some.2 hholds.file
    have hfound : evaluateSource env source criteria = .ok (.ofFindings (sourceIdOf source)
        (sourceFindings env source criteria (some published))) :=
      evaluateSource_eq_ok.2 ⟨_, hresult, rfl⟩
    exact ⟨_, hfound, (passed_iff hfound).2 ⟨published, hholds⟩⟩

/-- A source passes exactly if all its checks are true. Then no check was skipped, and the
files, the result and the verifier are as the release wants them. -/
theorem evaluateSource_passed (env : Environment) (source criteria : Mapping)
    (found : SourceResult) (h : evaluateSource env source criteria = .ok found) :
    (found.passed = true ↔ ∀ c ∈ found.checks, c.2 = .bool true) ∧
      (found.passed = true →
        (∀ name, name ∈ sourceChecks ↔ found.checks.get? name = some (.bool true)) ∧
          ∃ published, Holds env source criteria published) := by
  obtain ⟨result, hresult, hsame⟩ := evaluateSource_eq_ok.1 h
  obtain ⟨hagrees, hcomplete, hnodup⟩ := sourceFindings_agrees env source criteria result
  have hpassed : found.passed = true ↔ (sourceFindings env source criteria result).errors = [] := by
    rw [hsame, ofFindings_passed]
  have hchecks : found.checks = sortedItems (sourceFindings env source criteria result).checks := by
    rw [hsame]
    rfl
  refine ⟨?_, fun hpass => ⟨fun name => ?_, (passed_iff h).1 hpass⟩⟩
  · unfold Findings.Agrees at hagrees
    rw [hpassed, ← hagrees, hchecks]
    simp only [Prod.forall, mem_sortedItems]
    exact ⟨fun hall name value hget => hall name value (Mapping.mem_of_get? hget),
      fun hall name value hmem => hall name value (Mapping.get?_of_mem hnodup hmem)⟩
  · rw [hchecks, get?_sortedItems, hcomplete (hpassed.1 hpass)]
    constructor
    · intro hname
      refine Mapping.get?_of_mem ?_ (List.mem_map.2 ⟨name, hname, rfl⟩)
      have hnames : sourceChecks.Nodup := by decide +kernel
      simpa [Function.comp_def] using hnames
    · intro hget
      obtain ⟨name', hname', heq⟩ := List.mem_map.1 (Mapping.mem_of_get? hget)
      exact (Prod.mk.inj heq).1 ▸ hname'

end evaluate

/-! ## The sample source -/

/-- The sample source passes with all its checks. -/
theorem evaluateSource_passed_sample :
    letI := sampleHash
    letI := sampleLoads
    letI := plainRepr
    ∃ found, evaluateSource sampleEnvironment (sampleSource "core_reliability_v1")
        frozenCriteria = .ok found ∧ ∀ c ∈ found.checks, c.2 = .bool true := by
  let := sampleHash
  let := sampleLoads
  let := plainRepr
  have hpassed : SourceResult.passed <$> evaluateSource sampleEnvironment
      (sampleSource "core_reliability_v1") frozenCriteria = .ok true := by decide +kernel
  obtain ⟨found, hfound, hpassed⟩ := map_eq_ok.1 hpassed
  exact ⟨found, hfound, (evaluateSource_passed sampleEnvironment _ frozenCriteria found
    hfound).1.1 hpassed⟩

end ReleaseGate

end ReliabilityLab
