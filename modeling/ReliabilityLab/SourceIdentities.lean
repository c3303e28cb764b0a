import ReliabilityLab.SourceEvaluation

/-!
# The protocol verifier

`verify_source_identities` of `verify_protocol.py` : it checks the pinned files of every
source of the evidence manifest, as `evaluate_source` does, with its own messages.

`identityFailures` is the rule both implement. Each reports the failures of the rule, in
order, under its own texts (`identityFindings_errors`, `verifyIdentity_eq`); so the two agree
for every source, label and kind of failure (`sourceIdentities_agree`).
-/

set_option linter.unusedSectionVars false

open Serial

namespace ReliabilityLab

open Json

open TraceIntegrity (sortedSet mem_sortedSet flag)

namespace ReleaseGate

/-! ## The rule -/

/-- What may be wrong with a pinned file. -/
inductive IdentityFailure where
  | incomplete
  | missing
  | currentMismatch
  | blobMissing
  | blobMismatch
  deriving DecidableEq, Repr

namespace IdentityFailure

/-- All failures. -/
def all : List IdentityFailure :=
  [.incomplete, .missing, .currentMismatch, .blobMissing, .blobMismatch]

theorem mem_all (failure : IdentityFailure) : failure ∈ all := by
  cases failure <;> decide

/-- The error of `evaluate_source`. -/
def error (label : String) : IdentityFailure → String
  | incomplete => label ++ "_identity_incomplete"
  | missing => label ++ "_missing"
  | currentMismatch => label ++ "_current_sha256_mismatch"
  | blobMissing => label ++ "_" ++ "pinned_git_blob_missing"
  | blobMismatch => label ++ "_" ++ "pinned_git_blob_sha256_mismatch"

/-- The error of `verify_source_identities`. -/
def message (sourceId label : String) : IdentityFailure → String
  | incomplete => sourceId ++ " " ++ label ++ " identity incomplete"
  | missing => sourceId ++ " " ++ label ++ " missing"
  | currentMismatch => sourceId ++ " " ++ label ++ " current bytes are stale or mismatched"
  | blobMissing => sourceId ++ " " ++ label ++ " pinned commit/path missing"
  | blobMismatch => sourceId ++ " " ++ label ++ " pinned commit bytes mismatch"

end IdentityFailure

/-- A pinned file of a source : its label, and the fields of its commit, path and digest. -/
structure Pin where
  label : String
  commit : String
  path : String
  sha256 : String
  deriving DecidableEq, Repr

/-- The pinned files of a source. -/
def pins : List Pin :=
  [⟨"protocol", "freeze_commit_sha", "protocol_path", "protocol_sha256"⟩,
    ⟨"result", "result_commit_sha", "result_path", "result_sha256"⟩,
    ⟨"result_verifier", "result_commit_sha", "result_verifier_path", "result_verifier_sha256"⟩]

section identities

variable [PayloadHash]

/-- The failures of a pinned file. -/
def identityFailures (env : Environment) (commit relpath expectedSha : Json) :
    List IdentityFailure :=
  match commit.nonemptyStr?, relpath.nonemptyStr?, expectedSha.nonemptyStr? with
  | some commit, some relpath, some expectedSha =>
    match env.file relpath with
    | none => [.missing]
    | some payload =>
      (if PayloadHash.sha256Hexdigest payload = expectedSha then [] else [.currentMismatch]) ++
        match env.gitBlob commit relpath with
        | none => [.blobMissing]
        | some blob =>
          if PayloadHash.sha256Hexdigest blob = expectedSha then [] else [.blobMismatch]
  | _, _, _ => [.incomplete]

/-- The failures of a pinned file of a source. -/
def Pin.failures (pin : Pin) (env : Environment) (source : Mapping) : List IdentityFailure :=
  identityFailures env (source.get pin.commit) (source.get pin.path) (source.get pin.sha256)

/-! ## The verifier -/

/-- The errors of one pinned file. -/
def verifyIdentity (env : Environment) (sourceId label : String)
    (commit relpath expectedSha : Json) : List String :=
  match commit.nonemptyStr?, relpath.nonemptyStr?, expectedSha.nonemptyStr? with
  | some commit, some relpath, some expectedSha =>
    match env.file relpath with
    | none => [sourceId ++ " " ++ label ++ " missing"]
    | some current =>
      flag (PayloadHash.sha256Hexdigest current ≠ expectedSha)
          (sourceId ++ " " ++ label ++ " current bytes are stale or mismatched") ++
        match env.gitBlob commit relpath with
        | none => [sourceId ++ " " ++ label ++ " pinned commit/path missing"]
        | some blob =>
          flag (PayloadHash.sha256Hexdigest blob ≠ expectedSha)
            (sourceId ++ " " ++ label ++ " pinned commit bytes mismatch")
  | _, _, _ => [sourceId ++ " " ++ label ++ " identity incomplete"]

/-- The errors of one source. -/
def verifySource [PyRepr] (env : Environment) (source : Mapping) : List String :=
  verifyIdentity env (sourceIdOf source) "protocol" (source.get "freeze_commit_sha")
      (source.get "protocol_path") (source.get "protocol_sha256") ++
    verifyIdentity env (sourceIdOf source) "result" (source.get "result_commit_sha")
      (source.get "result_path") (source.get "result_sha256") ++
    verifyIdentity env (sourceIdOf source) "result_verifier" (source.get "result_commit_sha")
      (source.get "result_verifier_path") (source.get "result_verifier_sha256")

/-- The errors of the evidence manifest. -/
def verifySourceIdentities [PyRepr] (env : Environment) (evidence : Mapping) : List String :=
  match evidence.get "sources" with
  | .list sources =>
    sources.flatMap fun
      | .dict source => verifySource env source
      | _ => ["evidence source must be an object"]
  | _ => ["evidence sources must be a list"]

/-! ## Both report the failures of the rule -/

theorem verifyIdentity_eq (env : Environment) (sourceId label : String)
    (commit relpath expectedSha : Json) :
    verifyIdentity env sourceId label commit relpath expectedSha =
      (identityFailures env commit relpath expectedSha).map
        (IdentityFailure.message sourceId label) := by
  unfold verifyIdentity identityFailures
  rcases commit.nonemptyStr? with _ | c <;> rcases relpath.nonemptyStr? with _ | p <;>
    rcases expectedSha.nonemptyStr? with _ | s
  case some.some.some =>
    dsimp only
    rcases env.file p with _ | payload
    · rfl
    · rcases env.gitBlob c p with _ | blob <;> simp only [flag, ite_not, List.map_append] <;>
        split_ifs <;> rfl
  all_goals rfl

theorem identityFindings_errors (env : Environment) (label : String)
    (commit relpath expectedSha : Json) :
    (identityFindings env label commit relpath expectedSha).errors =
      (identityFailures env commit relpath expectedSha).map (IdentityFailure.error label) := by
  unfold identityFindings identityFailures
  rcases commit.nonemptyStr? with _ | c <;> rcases relpath.nonemptyStr? with _ | p <;>
    rcases expectedSha.nonemptyStr? with _ | s
  case some.some.some =>
    dsimp only
    rcases env.file p with _ | payload
    · rfl
    · simp only [Findings.append_errors, check, checkBlobIdentity, ite_not]
      rcases env.gitBlob c p with _ | blob <;> simp only [decide_eq_true_eq, List.map_append] <;>
        split_ifs <;> simp_all [IdentityFailure.error]
  all_goals rfl

theorem identitiesFindings_errors (env : Environment) (source : Mapping) :
    (identitiesFindings env source).errors =
      pins.flatMap fun pin => (pin.failures env source).map (IdentityFailure.error pin.label) := by
  simp only [identitiesFindings, Findings.append_errors, identityFindings_errors, pins,
    Pin.failures, List.flatMap_cons, List.flatMap_nil, List.append_nil, List.append_assoc]

/-! ## The other errors of a source -/

/-- The errors that are not about a pinned file. -/
def otherErrors : List String :=
  ["result_json_invalid", "result_schema_version_mismatch", "result_protocol_id_mismatch",
    "result_freeze_commit_sha_mismatch", "result_protocol_sha256_mismatch",
    "source_disposition_not_release_ready", "frozen_source_gate_failure", "reproduction_missing",
    "source_independent_runs_not_satisfied", "source_normalized_output_not_byte_identical",
    "source_result_verifier_failed"]

theorem check_errors_subset {name error : String} {passed : Bool} {errors : List String}
    (h : error ∈ errors) : (check name passed error).errors ⊆ errors := by
  unfold check
  split_ifs
  · exact List.nil_subset _
  · exact List.cons_subset.2 ⟨h, List.nil_subset _⟩

theorem resultFindings_errors_subset (source criteria : Mapping) (result : Option Mapping) :
    (resultFindings source criteria result).errors ⊆ otherErrors := by
  have hreproduction : ∀ reproduction,
      (reproductionFindings criteria reproduction).errors ⊆ otherErrors := by
    intro reproduction
    unfold reproductionFindings
    split
    · simp only [Findings.append_errors, List.append_subset]
      exact ⟨⟨check_errors_subset (by decide), check_errors_subset (by decide)⟩,
        check_errors_subset (by decide)⟩
    · exact check_errors_subset (by decide)
  rcases result with _ | result
  · exact check_errors_subset (by decide)
  · simp only [resultFindings, Findings.append_errors, List.append_subset, matchFindings]
    exact ⟨⟨⟨⟨⟨⟨⟨check_errors_subset (by decide), check_errors_subset (by decide)⟩,
      check_errors_subset (by decide)⟩, check_errors_subset (by decide)⟩,
      check_errors_subset (by decide)⟩, check_errors_subset (by decide)⟩,
      check_errors_subset (by decide)⟩, hreproduction _⟩

/-- An error about a pinned file says which file and which failure, and is no other error. -/
theorem error_unique {pin pin' : Pin} (hpin : pin ∈ pins) (hpin' : pin' ∈ pins)
    (failure failure' : IdentityFailure) :
    failure.error pin.label ∉ otherErrors ∧
      (failure.error pin.label = failure'.error pin'.label → pin = pin' ∧ failure = failure') := by
  have hall : ∀ pin ∈ pins, ∀ pin' ∈ pins, ∀ failure ∈ IdentityFailure.all,
      ∀ failure' ∈ IdentityFailure.all, failure.error pin.label ∉ otherErrors ∧
        (failure.error pin.label = failure'.error pin'.label →
          pin = pin' ∧ failure = failure') := by decide +kernel
  exact hall pin hpin pin' hpin' failure failure.mem_all failure' failure'.mem_all

variable [JsonLoads] [PyRepr]

/-- A source result has the errors of the failures of its pinned files, and no others of
them. -/
theorem mem_errors_iff {env : Environment} {source criteria : Mapping} {found : SourceResult}
    (h : evaluateSource env source criteria = .ok found) {pin : Pin} (hpin : pin ∈ pins)
    (failure : IdentityFailure) :
    failure.error pin.label ∈ found.errors ↔ failure ∈ pin.failures env source := by
  obtain ⟨result, -, rfl⟩ := evaluateSource_eq_ok.1 h
  have hother : ∀ errors, errors ⊆ otherErrors → failure.error pin.label ∉ errors :=
    fun _ hsubset hmem => (error_unique hpin hpin failure failure).1 (hsubset hmem)
  simp only [SourceResult.ofFindings, mem_sortedSet, sourceFindings, Findings.append_errors,
    List.mem_append, identitiesFindings_errors]
  constructor
  · rintro ((hmem | hmem) | hmem)
    · obtain ⟨pin', hpin', hmem⟩ := List.mem_flatMap.1 hmem
      obtain ⟨failure', hfailure', heq⟩ := List.mem_map.1 hmem
      obtain ⟨rfl, rfl⟩ := (error_unique hpin' hpin failure' failure).2 heq
      exact hfailure'
    · exact absurd hmem (hother _ (resultFindings_errors_subset source criteria result))
    · exact absurd hmem (hother _ (check_errors_subset (by decide)))
  · intro hmem
    exact Or.inl (Or.inl (List.mem_flatMap.2 ⟨pin, hpin, List.mem_map_of_mem hmem⟩))

/-- The verifier finds nothing wrong in a manifest of objects exactly if `evaluate_source`
records no error about a pinned file of any of them. The errors of the verifier are, source
by source and label by label, those of the same failures that `evaluate_source` records, and
that are in its result. -/
theorem sourceIdentities_agree (env : Environment) (evidence : Mapping) (sources : List Mapping)
    (hsources : evidence.get "sources" = .list (sources.map .dict)) :
    (verifySourceIdentities env evidence = [] ↔
        ∀ source ∈ sources, (identitiesFindings env source).errors = []) ∧
      verifySourceIdentities env evidence = (sources.flatMap fun source =>
        pins.flatMap fun pin => (pin.failures env source).map
          (IdentityFailure.message (sourceIdOf source) pin.label)) ∧
      ∀ source ∈ sources,
        (identitiesFindings env source).errors = (pins.flatMap fun pin =>
          (pin.failures env source).map (IdentityFailure.error pin.label)) ∧
        ∀ criteria found, evaluateSource env source criteria = .ok found →
          ∀ pin ∈ pins, ∀ failure : IdentityFailure,
            failure.error pin.label ∈ found.errors ↔ failure ∈ pin.failures env source := by
  have hverify : verifySourceIdentities env evidence = (sources.flatMap fun source =>
      pins.flatMap fun pin => (pin.failures env source).map
        (IdentityFailure.message (sourceIdOf source) pin.label)) := by
    unfold verifySourceIdentities
    rw [hsources]
    simp only [List.flatMap_map, verifySource, verifyIdentity_eq, pins, Pin.failures,
      List.flatMap_cons, List.flatMap_nil, List.append_nil, List.append_assoc]
  refine ⟨?_, hverify, fun source _ => ⟨identitiesFindings_errors env source,
    fun criteria found hfound pin hpin failure => mem_errors_iff hfound hpin failure⟩⟩
  simp only [hverify, identitiesFindings_errors, List.flatMap_eq_nil_iff, List.map_eq_nil_iff]

end identities

/-- Of a manifest with a source of another digest, both report that its current and its
pinned bytes do not match. -/
theorem sourceIdentities_agree_sample :
    letI := sampleHash
    letI := plainRepr
    let evidence : Mapping := [("sources", .list ([(sampleSource "core_reliability_v1").set
      "protocol_sha256" (.str verifierDigest)].map .dict))]
    verifySourceIdentities sampleEnvironment evidence =
      ["core_reliability_v1 protocol current bytes are stale or mismatched",
        "core_reliability_v1 protocol pinned commit bytes mismatch"] := by
  let := sampleHash
  let := sampleLoads
  let := plainRepr
  exact (sourceIdentities_agree sampleEnvironment _ _ rfl).2.1.trans (by decide +kernel)

end ReleaseGate

end ReliabilityLab
