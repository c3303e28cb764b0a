import ReliabilityLab.SourceEvaluation

/-!
# Missing identities

The identities that a result is compared with are read with `get`, and a missing one is `None`
on both sides of the comparison. Three of them no other check wants to be there : the
protocol id and the schema version of the source, and the disposition that the criteria
require (`Named`).

A field may be left out at any depth (`Omits`), of the source, of the criteria or of the result.
What the release wants to be a text, a number or `True` cannot come of it (`Trims.get_eq`). So
a source that fails passes with a field left out in two ways only (`Compared.holds_iff`) : the
field is one of the three identities or a part of one, and the two sides agree without it; or it is
a frozen gate that did not pass.
-/

set_option linter.unusedSectionVars false

open Serial

namespace ReliabilityLab

open Json

namespace ReleaseGate

/-! ## Fields left out -/

/-- A value, and the value with a field left out somewhere in it. -/
inductive Omits : Json → Json → Prop
  | member (members : Mapping) (key : String) : Omits (.dict members) (.dict (members.del key))
  | inside (members : Mapping) (key : String) (value value' : Json) :
    members.get? key = some value → Omits value value' →
    Omits (.dict members) (.dict (members.set key value'))
  | item (items : List Json) (i : ℕ) (value value' : Json) :
    items[i]? = some value → Omits value value' → Omits (.list items) (.list (items.set i value'))

/-- The value of a member with a field left out of the object. -/
def TrimmedTo (value value' : Json) : Prop :=
  value' = value ∨ value' = .null ∨ Omits value value'

/-- Each member of `m` is what leaving a field out of `m₀` makes of it. -/
def Trims (m₀ m : Mapping) : Prop :=
  ∀ key, TrimmedTo (m₀.get key) (m.get key)

/-- A value that leaving a field out does not give. -/
def Whole : Json → Prop
  | .bool _ | .int _ | .str _ => True
  | .null | .float _ | .list _ | .dict _ => False

theorem TrimmedTo.eq {value value' : Json} (h : TrimmedTo value value') (hwhole : Whole value') :
    value = value' := by
  rcases h with rfl | rfl | homits
  · rfl
  · exact hwhole.elim
  · cases homits <;> exact hwhole.elim

theorem TrimmedTo.dict {value : Json} {members : Mapping}
    (h : TrimmedTo value (.dict members)) :
    value = .dict members ∨ ∃ members₀ : Mapping, value = .dict members₀ ∧
      Omits (.dict members₀) (.dict members) := by
  rcases h with h | h | homits
  · exact Or.inl h.symm
  · cases h
  · cases homits with
    | member members₀ key => exact Or.inr ⟨members₀, rfl, .member members₀ key⟩
    | inside members₀ key value value' hget homits =>
      exact Or.inr ⟨members₀, rfl, .inside members₀ key value value' hget homits⟩

theorem trims_refl (m : Mapping) : Trims m m :=
  fun _ => Or.inl rfl

/-- The member left out is missing, the member it is left out of is trimmed, and the others stay. -/
theorem trims_of_omits {m₀ m : Mapping} (h : Omits (.dict m₀) (.dict m)) : Trims m₀ m := by
  intro k
  cases h with
  | member _ key =>
    rw [Mapping.get_del]
    split_ifs
    · exact Or.inr (Or.inl rfl)
    · exact Or.inl rfl
  | inside _ key value value' hget homits =>
    rw [Mapping.get_set (by simp [hget])]
    split_ifs with hk
    · subst hk
      exact Or.inr (Or.inr (by simpa [Mapping.get, hget] using homits))
    · exact Or.inl rfl

theorem Trims.get_eq {m₀ m : Mapping} (h : Trims m₀ m) (key : String) (hwhole : Whole (m.get key)) :
    m₀.get key = m.get key :=
  (h key).eq hwhole

theorem whole_of_intValue? {value : Json} {n : Int} (h : value.intValue? = some n) :
    Whole value := by
  cases value <;> trivial

theorem whole_of_nonemptyStr? {value : Json} {s : String} (h : value.nonemptyStr? = some s) :
    Whole value := by
  cases value <;> trivial

section evaluate

variable [PayloadHash] [JsonLoads] [PyRepr]

variable {env env₀ : Environment} {source source₀ criteria criteria₀ : Mapping}
  {published published₀ : Mapping}

/-! ## Gates -/

/-- A gate that passes with a field left out passes with it. -/
theorem gatePasses_of_trimmed {gate gate' : Json} (h : TrimmedTo gate gate')
    (hpasses : gatePasses gate' = true) : gatePasses gate = true := by
  obtain ⟨item, rfl, hpassed⟩ := gatePasses_eq_true.1 hpasses
  rcases h.dict with rfl | ⟨item₀, rfl, homits⟩
  · exact hpasses
  · have hsame := (trims_of_omits homits).get_eq "passed" (by simp [hpassed, Whole])
    exact gatePasses_eq_true.2 ⟨item₀, rfl, hsame.trans hpassed⟩

/-- The frozen gates of the result pass, with a field left out, exactly if they pass with it or the
field is a gate that does not. -/
theorem gatesPassed_of_trimmed {gates₀ gates : Json} (h : TrimmedTo gates₀ gates)
    (hpassed : GatesPassed gates) :
    GatesPassed gates₀ ↔ ∀ (members : Mapping) (key : String) (gate : Json),
      gates₀ = .dict members → gates = .dict (members.del key) → members.get? key = some gate →
      gatePasses gate = true := by
  constructor
  · rintro ⟨members₀, hmembers₀, -, hall⟩ members key gate hmembers - hget
    obtain rfl := Json.dict.inj (hmembers₀.symm.trans hmembers)
    exact gatePasses_eq_true.2 (hall key gate hget)
  intro hkept
  obtain ⟨members', rfl, hne, hall⟩ := hpassed
  rcases h.dict with rfl | ⟨members, rfl, homits⟩
  · exact ⟨members', rfl, hne, hall⟩
  refine ⟨members, rfl, ?_, fun name gate hname => gatePasses_eq_true.1 ?_⟩
  · rintro rfl
    cases homits <;> exact hne rfl
  cases homits with
  | member _ key =>
    by_cases hkey : name = key
    · exact hkept members key gate rfl rfl (hkey ▸ hname)
    · exact gatePasses_eq_true.2 (hall name gate (by rw [Mapping.get?_del, if_neg hkey, hname]))
  | inside _ key value value' hget homits =>
    by_cases hkey : name = key
    · subst hkey
      obtain rfl := Option.some.inj (hget.symm.trans hname)
      refine gatePasses_of_trimmed (Or.inr (Or.inr homits)) (gatePasses_eq_true.2 (hall name _ ?_))
      rw [Mapping.get?_set, if_pos rfl, hget]
      rfl
    · exact gatePasses_eq_true.2 (hall name gate (by rw [Mapping.get?_set, if_neg hkey, hname]))

/-! ## Identities -/

/-- The identities that only the result is compared with are there. -/
structure Named (source criteria : Mapping) : Prop where
  protocolId : source.get "protocol_id" ≠ .null
  schemaVersion : source.get "result_schema_version" ≠ .null
  disposition : criteria.get "required_source_disposition" ≠ .null

/-- The document has the value under the key. -/
def Contains (document : Mapping) (key : String) (value : Json) : Prop :=
  ∃ found, document.get? key = some found ∧ PyEq found value

/-- The identities are there, and the result has them. -/
structure Identified (source criteria published : Mapping) : Prop where
  named : Named source criteria
  protocolId : Contains published "protocol_id" (source.get "protocol_id")
  schemaVersion : Contains published "schema_version" (source.get "result_schema_version")
  disposition : Contains published "aggregate_disposition"
    (criteria.get "required_source_disposition")

/-- One of the identities is missing, and missing in the result too. -/
def MissingBoth (source criteria published : Mapping) : Prop :=
  (source.get "protocol_id" = .null ∧ published.get "protocol_id" = .null) ∨
    (source.get "result_schema_version" = .null ∧ published.get "schema_version" = .null) ∨
    (criteria.get "required_source_disposition" = .null ∧
      published.get "aggregate_disposition" = .null)

/-- Two repositories that differ in the result of the source, which has its own digest in
each. -/
structure SameButResult (env₀ : Environment) (source₀ : Mapping) (env : Environment)
    (source : Mapping) : Prop where
  fields : ∀ key, key ≠ "result_sha256" → source₀.get key = source.get key
  pinned : (identitiesFindings env₀ source₀).errors = (identitiesFindings env source).errors
  verified : VerifierPasses env₀ source₀ ↔ VerifierPasses env source

/-- The second evaluation is the first with a field left out of the source, of the criteria or
of the result. -/
inductive LeavesOut (env₀ : Environment) (source₀ criteria₀ : Mapping) :
    Environment → Mapping → Mapping → Prop
  | source (source : Mapping) : Omits (.dict source₀) (.dict source) →
    LeavesOut env₀ source₀ criteria₀ env₀ source criteria₀
  | criteria (criteria : Mapping) : Omits (.dict criteria₀) (.dict criteria) →
    LeavesOut env₀ source₀ criteria₀ env₀ source₀ criteria
  | result (env : Environment) (source published₀ published : Mapping) :
    SameButResult env₀ source₀ env source → Published env₀ source₀ published₀ →
    Published env source published → Omits (.dict published₀) (.dict published) →
    LeavesOut env₀ source₀ criteria₀ env source criteria₀

/-- What is left out is no identity, nothing inside one, and no frozen gate that did not pass. -/
structure Kept (source₀ criteria₀ published₀ source criteria published : Mapping) : Prop where
  protocolId : PyEq (source₀.get "protocol_id") (source.get "protocol_id") ∧
    PyEq (published₀.get "protocol_id") (published.get "protocol_id")
  schemaVersion : PyEq (source₀.get "result_schema_version") (source.get "result_schema_version") ∧
    PyEq (published₀.get "schema_version") (published.get "schema_version")
  disposition : PyEq (criteria₀.get "required_source_disposition")
      (criteria.get "required_source_disposition") ∧
    PyEq (published₀.get "aggregate_disposition") (published.get "aggregate_disposition")
  gates : ∀ (gates : Mapping) (key : String) (gate : Json),
    published₀.get "frozen_gates" = .dict gates →
    published.get "frozen_gates" = .dict (gates.del key) → gates.get? key = some gate →
    gatePasses gate = true

theorem get_ne_null_of_pyEq {m : Mapping} {key : String} {value : Json}
    (h : PyEq (m.get key) value) (hvalue : value ≠ .null) : m.get key ≠ .null := by
  intro hnull
  rw [hnull] at h
  exact hvalue (pyEq_null.1 h.symm)

theorem contains_of_pyEq {m : Mapping} {key : String} {value : Json}
    (h : PyEq (m.get key) value) (hvalue : value ≠ .null) : Contains m key value :=
  ⟨m.get key, Mapping.get?_eq_some_of_get rfl (get_ne_null_of_pyEq h hvalue), h⟩

/-- A source that holds has each identity, or is without it where the result is too. -/
theorem ResultHolds.named (h : ResultHolds source criteria published)
    (hmissing : ¬MissingBoth source criteria published) : Named source criteria := by
  refine ⟨fun hnull => hmissing (Or.inl ⟨hnull, ?_⟩),
    fun hnull => hmissing (Or.inr (Or.inl ⟨hnull, ?_⟩)),
    fun hnull => hmissing (Or.inr (Or.inr ⟨hnull, ?_⟩))⟩
  · exact pyEq_null.1 (hnull ▸ h.protocolId)
  · exact pyEq_null.1 (hnull ▸ h.schemaVersion)
  · exact pyEq_null.1 (hnull ▸ h.disposition)

theorem ResultHolds.identified (h : ResultHolds source criteria published)
    (hnamed : Named source criteria) : Identified source criteria published :=
  ⟨hnamed, contains_of_pyEq h.protocolId hnamed.protocolId,
    contains_of_pyEq h.schemaVersion hnamed.schemaVersion,
    contains_of_pyEq h.disposition hnamed.disposition⟩

/-! ## Evaluations that differ in one field -/

/-- An evaluation and the one with a field left out, where the latter holds : the files are there
and pinned in both, and one of the two sides of each comparison is the same in both. -/
structure Compared (env₀ : Environment)
    (source₀ criteria₀ published₀ source criteria published : Mapping) : Prop where
  protocol : Pinned env₀ (source₀.get "freeze_commit_sha") (source₀.get "protocol_path")
    (source₀.get "protocol_sha256")
  result : Pinned env₀ (source₀.get "result_commit_sha") (source₀.get "result_path")
    (source₀.get "result_sha256")
  verifier : Pinned env₀ (source₀.get "result_commit_sha") (source₀.get "result_verifier_path")
    (source₀.get "result_verifier_sha256")
  file : Published env₀ source₀ published₀
  verified : VerifierPasses env₀ source₀
  trimsSource : ∀ key, key ≠ "result_sha256" → TrimmedTo (source₀.get key) (source.get key)
  trimsCriteria : Trims criteria₀ criteria
  trimsPublished : Trims published₀ published
  one : published₀ = published ∨
    (∀ key, key ≠ "result_sha256" → source₀.get key = source.get key) ∧ criteria₀ = criteria

/-- The identity of a pinned file is whole. -/
theorem Pinned.trimmed {commit relpath expectedSha commit₀ relpath₀ expectedSha₀ : Json}
    (h : Pinned env commit relpath expectedSha) (hcommit : TrimmedTo commit₀ commit)
    (hrelpath : TrimmedTo relpath₀ relpath) (hsha : TrimmedTo expectedSha₀ expectedSha) :
    Pinned env commit₀ relpath₀ expectedSha₀ := by
  have hall := h
  obtain ⟨c, p, s, hc, hp, hs, -⟩ := h
  rwa [hcommit.eq (whole_of_nonemptyStr? hc), hrelpath.eq (whole_of_nonemptyStr? hp),
    hsha.eq (whole_of_nonemptyStr? hs)]

theorem Holds.compared (h : Holds env source criteria published)
    (hleaves : LeavesOut env₀ source₀ criteria₀ env source criteria) :
    ∃ published₀, Compared env₀ source₀ criteria₀ published₀ source criteria published := by
  cases hleaves with
  | source _ homits =>
    have htrims := trims_of_omits homits
    obtain ⟨path, payload, hpath, hfile, hloads⟩ := h.file
    obtain ⟨vpath, vpayload, hvpath, hvfile, hcode⟩ := h.verified
    have hpath₀ := htrims.get_eq "result_path" (by simp [hpath, Whole])
    have hvpath₀ := htrims.get_eq "result_verifier_path" (by simp [hvpath, Whole])
    exact ⟨published, h.protocol.trimmed (htrims _) (htrims _) (htrims _),
      h.result.trimmed (htrims _) (htrims _) (htrims _),
      h.verifier.trimmed (htrims _) (htrims _) (htrims _),
      ⟨path, payload, hpath₀.trans hpath, hfile, hloads⟩,
      ⟨vpath, vpayload, hvpath₀.trans hvpath, hvfile, hcode⟩, fun key _ => htrims key,
      trims_refl _, trims_refl _, Or.inl rfl⟩
  | criteria _ homits =>
    exact ⟨published, h.protocol, h.result, h.verifier, h.file, h.verified,
      fun key _ => trims_refl _ key, trims_of_omits homits, trims_refl _, Or.inl rfl⟩
  | result _ _ published₀ _ hsame hfull hreduced homits =>
    -- the file that was read without the field is the one that holds
    have hread := publishedResult_eq_some.2 hreduced
    rw [publishedResult_eq_some.2 h.file] at hread
    obtain rfl := Option.some.inj (Except.ok.inj hread)
    have hpins : (identitiesFindings env₀ source₀).errors = [] := by
      rw [hsame.pinned]
      simp only [identitiesFindings, errors_append_eq_nil, identityFindings_errors_eq_nil]
      exact ⟨⟨h.protocol, h.result⟩, h.verifier⟩
    simp only [identitiesFindings, errors_append_eq_nil, identityFindings_errors_eq_nil] at hpins
    obtain ⟨⟨hprotocol, hresult⟩, hverifier⟩ := hpins
    exact ⟨published₀, hprotocol, hresult, hverifier, hfull, hsame.verified.2 h.verified,
      fun key hkey => Or.inl (hsame.fields key hkey).symm, trims_refl _, trims_of_omits homits,
      Or.inr ⟨hsame.fields, rfl⟩⟩

/-- Two values are equal, one of which was compared with success, exactly if the other did not
change. -/
theorem pyEq_kept_iff {a a₀ b b₀ : Json} (h : PyEq a b) (hsame : a₀ = a ∨ b₀ = b) :
    PyEq a₀ b₀ ↔ PyEq b₀ b ∧ PyEq a₀ a := by
  rcases hsame with rfl | rfl
  · exact ⟨fun h₀ => ⟨h₀.symm.trans h, h.trans h.symm⟩, fun ⟨h₀, _⟩ => h.trans h₀.symm⟩
  · exact ⟨fun h₀ => ⟨h.symm.trans h, h₀.trans h.symm⟩, fun ⟨_, h₀⟩ => h₀.trans h⟩

/-- What recorded its runs as required without a field did so with it. -/
theorem reproduced_of_trims {criteria₀ criteria published₀ published : Mapping}
    (hpublished : Trims published₀ published) (hcriteria : Trims criteria₀ criteria)
    (h : ∃ reproduction : Mapping, published.get "reproduction" = .dict reproduction ∧
      Reproduced criteria reproduction) :
    ∃ reproduction : Mapping, published₀.get "reproduction" = .dict reproduction ∧
      Reproduced criteria₀ reproduction := by
  obtain ⟨reproduction, hdict, hreproduced⟩ := h
  obtain ⟨required, minimum, hrequired, hrecorded, hminimum, hle⟩ := hreproduced.runs
  have hmin := hcriteria.get_eq _ (whole_of_intValue? hminimum)
  have htrimmed := hpublished "reproduction"
  rw [hdict] at htrimmed
  obtain ⟨reproduction₀, hdict₀, htrims⟩ : ∃ reproduction₀ : Mapping,
      published₀.get "reproduction" = .dict reproduction₀ ∧ Trims reproduction₀ reproduction := by
    rcases htrimmed.dict with hsame | ⟨reproduction₀, hdict₀, homits⟩
    · exact ⟨reproduction, hsame, trims_refl _⟩
    · exact ⟨reproduction₀, hdict₀, trims_of_omits homits⟩
  refine ⟨reproduction₀, hdict₀, ⟨required, minimum, ?_, ?_, hmin ▸ hminimum, hle⟩, ?_⟩
  · rw [htrims.get_eq _ (whole_of_intValue? hrequired), hrequired]
  · rw [htrims.get_eq _ (whole_of_intValue? hrecorded), hrecorded]
  · rw [htrims.get_eq _ (by simp [hreproduced.identical, Whole]), hreproduced.identical]

/-- Where a source holds without a field, it holds with it exactly if the field is none that counts
by being left out. -/
theorem Compared.holds_iff
    (hcompared : Compared env₀ source₀ criteria₀ published₀ source criteria published)
    (h : Holds env source criteria published) :
    Holds env₀ source₀ criteria₀ published₀ ↔
      Kept source₀ criteria₀ published₀ source criteria published := by
  have hone : ∀ {key key' : String}, key' ≠ "result_sha256" →
      published₀.get key = published.get key ∨ source₀.get key' = source.get key' := by
    intro key key' hkey
    rcases hcompared.one with rfl | ⟨hsource, -⟩
    · exact Or.inl rfl
    · exact Or.inr (hsource key' hkey)
  have honeCriteria : ∀ {key key' : String},
      published₀.get key = published.get key ∨ criteria₀.get key' = criteria.get key' := by
    intro key key'
    rcases hcompared.one with rfl | ⟨-, rfl⟩
    · exact Or.inl rfl
    · exact Or.inr rfl
  have hprotocolId := pyEq_kept_iff h.fields.protocolId (hone (by decide))
  have hschema := pyEq_kept_iff h.fields.schemaVersion (hone (by decide))
  have hdisposition := pyEq_kept_iff h.fields.disposition honeCriteria
  have hgates := gatesPassed_of_trimmed (hcompared.trimsPublished "frozen_gates") h.fields.gates
  constructor
  · intro hholds
    exact ⟨hprotocolId.1 hholds.fields.protocolId, hschema.1 hholds.fields.schemaVersion,
      hdisposition.1 hholds.fields.disposition, hgates.1 hholds.fields.gates⟩
  intro hkept
  refine ⟨hcompared.protocol, hcompared.result, hcompared.verifier, hcompared.file, ?_,
    hcompared.verified⟩
  -- the other comparisons are of texts, numbers and `True`
  have hpin : ∀ {key text : String}, key ≠ "result_sha256" → source.get key = .str text →
      PyEq (published.get key) (source.get key) → PyEq (published₀.get key) (source₀.get key) := by
    intro key text hkey hs heq
    have hsource := (hcompared.trimsSource key hkey).eq (by simp [hs, Whole])
    have hpublished : published₀.get key = published.get key :=
      hcompared.trimsPublished.get_eq _ (by rw [hs, pyEq_str] at heq; simp [heq, Whole])
    rwa [hsource, hpublished]
  refine ⟨hschema.2 hkept.schemaVersion, hprotocolId.2 hkept.protocolId, ?_, ?_,
    hdisposition.2 hkept.disposition, hgates.2 hkept.gates, ?_⟩
  · obtain ⟨c, _, _, hc, -⟩ := h.protocol
    exact hpin (by decide) (nonemptyStr?_eq_some.1 hc).1 h.fields.freezeCommit
  · obtain ⟨_, _, s, -, -, hs, -⟩ := h.protocol
    exact hpin (by decide) (nonemptyStr?_eq_some.1 hs).1 h.fields.protocolSha256
  · exact reproduced_of_trims hcompared.trimsPublished hcompared.trimsCriteria h.fields.reproduction

/-- A passing source has its identities, and its result has them, exactly if it does not meet all
that is wanted with an identity missing in the result and where it is declared. And a source that
passes with a field left out passes with it exactly if, where all that is wanted holds without the
field, it is no identity, nothing inside one, and no frozen gate that did not pass. -/
theorem missingIdentity_iff :
    (∀ env source criteria, (Passes env criteria source →
        ∃ published, Published env source published ∧ Identified source criteria published) ↔
      ∀ published, Holds env source criteria published →
        ¬MissingBoth source criteria published) ∧
    ∀ env₀ source₀ criteria₀ env source criteria,
      LeavesOut env₀ source₀ criteria₀ env source criteria →
      ((Passes env criteria source → Passes env₀ criteria₀ source₀) ↔
        ∀ published₀ published, Published env₀ source₀ published₀ →
          Holds env source criteria published →
          Kept source₀ criteria₀ published₀ source criteria published) := by
  refine ⟨fun env source criteria => ⟨?_, fun h hpasses => ?_⟩,
    fun env₀ source₀ criteria₀ env source criteria hleaves => ⟨?_, fun h hpasses => ?_⟩⟩
  · intro h published hholds hmissing
    obtain ⟨_, -, hidentified⟩ := h (passes_iff.2 ⟨published, hholds⟩)
    rcases hmissing with ⟨hnull, -⟩ | ⟨hnull, -⟩ | ⟨hnull, -⟩
    · exact hidentified.named.protocolId hnull
    · exact hidentified.named.schemaVersion hnull
    · exact hidentified.named.disposition hnull
  · obtain ⟨published, hholds⟩ := passes_iff.1 hpasses
    exact ⟨published, hholds.file,
      hholds.fields.identified (hholds.fields.named (h published hholds))⟩
  · intro h published₀ published hfile hholds
    obtain ⟨published₀', hcompared⟩ := hholds.compared hleaves
    obtain ⟨published₁, hholds₀⟩ := passes_iff.1 (h (passes_iff.2 ⟨published, hholds⟩))
    have hread := publishedResult_eq_some.2 hfile
    rw [publishedResult_eq_some.2 hcompared.file] at hread
    obtain rfl := Option.some.inj (Except.ok.inj hread)
    have hread₁ := publishedResult_eq_some.2 hholds₀.file
    rw [publishedResult_eq_some.2 hfile] at hread₁
    obtain rfl := Option.some.inj (Except.ok.inj hread₁)
    exact (hcompared.holds_iff hholds).1 hholds₀
  · obtain ⟨published, hholds⟩ := passes_iff.1 hpasses
    obtain ⟨published₀, hcompared⟩ := hholds.compared hleaves
    exact passes_iff.2
      ⟨published₀, (hcompared.holds_iff hholds).2 (h published₀ published hcompared.file hholds)⟩

end evaluate

/-! ## A source without a protocol id, and a frozen gate left out -/

/-- The text of a result with these frozen gates and this declaration of its protocol id. -/
def resultText (gates protocolId : String) : Bytes :=
  ("\x7b\"aggregate_disposition\": \"pass\", \"freeze_commit_sha\": \"f11c5d4\", " ++
    "\"frozen_gates\": \x7b" ++ gates ++ "\x7d, " ++ protocolId ++ "\"protocol_sha256\": \"" ++
    protocolDigest ++ "\", \"reproduction\": \x7b\"independent_runs_recorded\": 2, " ++
    "\"independent_runs_required\": 2, \"normalized_output_byte_identical\": true\x7d, " ++
    "\"schema_version\": \"v1\"\x7d").toUTF8.data.toList

/-- The text of `sampleResult` without its protocol id. -/
def unnamedPayload : Bytes :=
  resultText "\"scenario_pass_rate\": \x7b\"passed\": true\x7d" ""

/-- The digest of `unnamedPayload`. -/
def unnamedDigest : String :=
  "f86599ac3c9f31ce820d32a4197d2cceb5ff8d231ba6802c65824539742a5d75"

/-- `sampleResult` with a frozen gate that did not pass. -/
def failingResult : Mapping :=
  sampleResult.set "frozen_gates" (.dict
    [("scenario_pass_rate", .dict [("passed", .bool true)]),
      ("trace_pass_rate", .dict [("passed", .bool false)])])

/-- The text of `failingResult`. -/
def failingPayload : Bytes :=
  resultText ("\"scenario_pass_rate\": \x7b\"passed\": true\x7d, " ++
    "\"trace_pass_rate\": \x7b\"passed\": false\x7d")
    "\"protocol_id\": \"core-reliability-v1\", "

/-- The digest of `failingPayload`. -/
def failingDigest : String :=
  "f0d171bbf81c5b3c33a0da7233a5d073997da58fc6e30787c148b25aad00e378"

/-- The digests of the sample files and of the two other results. -/
@[reducible] def resultHash : PayloadHash where
  sha256Hexdigest payload :=
    if payload = unnamedPayload then unnamedDigest
    else if payload = failingPayload then failingDigest
    else sampleHash.sha256Hexdigest payload

/-- The objects of the sample files and of the two other results. -/
@[reducible] def resultLoads : JsonLoads where
  loads payload :=
    if payload = unnamedPayload then .ok (.dict (sampleResult.del "protocol_id"))
    else if payload = failingPayload then .ok (.dict failingResult)
    else sampleLoads.loads payload
  loadsText payload :=
    if payload = unnamedPayload then .ok (.dict (sampleResult.del "protocol_id"))
    else if payload = failingPayload then .ok (.dict failingResult)
    else sampleLoads.loadsText payload

/-- The sample repository with another result. -/
def withResult (payload : Bytes) : Environment where
  file path := if path = "RESULTS.json" then some payload else sampleFile path
  gitBlob _ path := if path = "RESULTS.json" then some payload else sampleFile path
  runVerifier _ := (0, "PASS")

/-- The sample source with the digest of another result. -/
def sourceOf (digest : String) : Mapping :=
  (sampleSource "core_reliability_v1").set "result_sha256" (.str digest)

/-- The sample result is `failingResult` without the gate that did not pass. -/
theorem failingGate_leavesOut :
    letI := resultHash
    letI := resultLoads
    letI := plainRepr
    LeavesOut (withResult failingPayload) (sourceOf failingDigest) frozenCriteria
      (withResult resultPayload) (sourceOf resultDigest) frozenCriteria := by
  let := resultHash
  let := resultLoads
  let := plainRepr
  have hloads : JsonLoads.loadsText failingPayload = .ok (.dict failingResult) :=
    (if_neg (by decide +kernel)).trans (if_pos rfl)
  have hloads' : JsonLoads.loadsText resultPayload = .ok (.dict sampleResult) :=
    (if_neg (by decide +kernel)).trans (if_neg (by decide +kernel))
  have hread : Published (withResult failingPayload) (sourceOf failingDigest) failingResult :=
    ⟨"RESULTS.json", failingPayload, by decide +kernel, rfl, hloads⟩
  have hread' : Published (withResult resultPayload) (sourceOf resultDigest) sampleResult :=
    ⟨"RESULTS.json", resultPayload, by decide +kernel, rfl, hloads'⟩
  have hverified : ∀ {payload : Bytes} {digest : String},
      VerifierPasses (withResult payload) (sourceOf digest) := fun {_ _} =>
    ⟨"verify_results.py", [], rfl, rfl, rfl⟩
  refine .result _ _ failingResult sampleResult ⟨fun key hkey => ?_, ?_,
    iff_of_true hverified hverified⟩ hread hread' ?_
  · unfold sourceOf
    rw [Mapping.get_set (by decide), Mapping.get_set (by decide), if_neg hkey, if_neg hkey]
  · decide +kernel
  · have hgates := Omits.inside failingResult "frozen_gates" _ _ rfl
      (.member _ "trace_pass_rate")
    have hresult : failingResult.set "frozen_gates" (.dict (Mapping.del
        [("scenario_pass_rate", .dict [("passed", .bool true)]),
          ("trace_pass_rate", .dict [("passed", .bool false)])] "trace_pass_rate")) =
        sampleResult := by decide +kernel
    rwa [hresult] at hgates

theorem failingGate_flips :
    letI := resultHash
    letI := resultLoads
    letI := plainRepr
    Passes (withResult resultPayload) frozenCriteria (sourceOf resultDigest) ∧
      ¬Passes (withResult failingPayload) frozenCriteria (sourceOf failingDigest) := by
  let := resultHash
  let := resultLoads
  let := plainRepr
  have hpassed : SourceResult.passed <$> evaluateSource (withResult resultPayload)
      (sourceOf resultDigest) frozenCriteria = .ok true := by decide +kernel
  have hfails : SourceResult.passed <$> evaluateSource (withResult failingPayload)
      (sourceOf failingDigest) frozenCriteria = .ok false := by decide +kernel
  refine ⟨map_eq_ok.1 hpassed, ?_⟩
  rintro ⟨full, hfull, hpass⟩
  rw [hfull] at hfails
  exact absurd (Except.ok.inj hfails) (by simp [hpass])

/-- The gate that is left out is one that counts. -/
theorem missingIdentity_iff_sample :
    letI := resultHash
    letI := resultLoads
    letI := plainRepr
    ¬∀ published₀ published, Published (withResult failingPayload) (sourceOf failingDigest)
        published₀ →
      Holds (withResult resultPayload) (sourceOf resultDigest) frozenCriteria published →
      Kept (sourceOf failingDigest) frozenCriteria published₀ (sourceOf resultDigest) frozenCriteria
        published := by
  let := resultHash
  let := resultLoads
  let := plainRepr
  intro hkept
  obtain ⟨hpasses, hfails⟩ := failingGate_flips
  exact hfails ((missingIdentity_iff.2 _ _ _ _ _ _ failingGate_leavesOut).2 hkept hpasses)

/-- A source passes without a protocol id, in itself and in its result. And a source that fails for
a frozen gate passes without it, with all its identities. -/
theorem unnamed_passes :
    letI := resultHash
    letI := resultLoads
    letI := plainRepr
    (¬∀ env source criteria, Passes env criteria source →
      ∃ published, Published env source published ∧ Identified source criteria published) ∧
    ¬∀ env₀ source₀ criteria₀ env source criteria,
      LeavesOut env₀ source₀ criteria₀ env source criteria →
      Passes env criteria source → Passes env₀ criteria₀ source₀ := by
  let := resultHash
  let := resultLoads
  let := plainRepr
  refine ⟨fun h => ?_, fun h => ?_⟩
  · have hpassed : SourceResult.passed <$> evaluateSource (withResult unnamedPayload)
        ((sourceOf unnamedDigest).del "protocol_id") frozenCriteria = .ok true := by
      decide +kernel
    obtain ⟨found, hfound, hpassed⟩ := map_eq_ok.1 hpassed
    obtain ⟨_, -, hidentified⟩ := h _ _ _ ⟨found, hfound, hpassed⟩
    exact hidentified.named.protocolId (by rw [Mapping.get_del, if_pos rfl])
  · obtain ⟨hpasses, hfails⟩ := failingGate_flips
    exact hfails (h _ _ _ _ _ _ failingGate_leavesOut hpasses)

end ReleaseGate

end ReliabilityLab
