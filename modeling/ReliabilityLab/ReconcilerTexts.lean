import ReliabilityLab.PythonText
import ReliabilityLab.Reconciler

/-!
# Reconcilers with any text

The calls of the provider store and of the evidence store on texts that may hold surrogates,
which the operations and evidence ids give by their codes. Two things raise for a text with a
surrogate : the statements that bind it, and `effect_sha256`, which encodes all four texts of an
operation. `effectSha256Text` is asked for where the source asks for it, and the columns with
digests, actions and reasons, which are ASCII, are not among the texts that a statement binds.

With more checks a call does what it does on characters, or raises (`restricts_provider`,
`restricts_evidence`). So the databases that workers reach are those they reach on
characters (`exists_reconcilerRun`), and what the stores keep can be encoded
(`encodable_after`).
-/

set_option linter.unusedSectionVars false

open Serial Keyed

namespace ReliabilityLab

open PyText

/-! ## Operations -/

/-- An operation whose texts may hold surrogates. -/
structure TextOperation where
  provider : PyText
  operationId : PyText
  tool : PyText
  payload : PyText
  provider_nonblank : provider.blank = false
  operationId_nonblank : operationId.blank = false
  tool_nonblank : tool.blank = false

namespace TextOperation

/-- The operation whose texts have only the characters of another's. -/
def ofScalars (operation : ExternalOperation) : TextOperation where
  provider := scalars operation.provider
  operationId := scalars operation.operationId
  tool := scalars operation.tool
  payload := scalars operation.payload
  provider_nonblank := by rw [blank_scalars, operation.provider_nonblank]
  operationId_nonblank := by rw [blank_scalars, operation.operationId_nonblank]
  tool_nonblank := by rw [blank_scalars, operation.tool_nonblank]

/-- The operation with another payload. -/
def withPayload (operation : TextOperation) (payload : PyText) : TextOperation :=
  { operation with payload }

/-- The operation with the codes of its texts. -/
def code (operation : TextOperation) : ExternalOperation where
  provider := operation.provider.code
  operationId := operation.operationId.code
  tool := operation.tool.code
  payload := operation.payload.code
  provider_nonblank := by rw [isBlank_code, operation.provider_nonblank]
  operationId_nonblank := by rw [isBlank_code, operation.operationId_nonblank]
  tool_nonblank := by rw [isBlank_code, operation.tool_nonblank]

/-- The texts of the operation can be encoded. -/
def Encodes (operation : TextOperation) : Prop :=
  ∀ text ∈ [operation.provider, operation.operationId, operation.tool, operation.payload],
    text.Encodes

instance (operation : TextOperation) : Decidable operation.Encodes :=
  inferInstanceAs (Decidable (∀ text ∈ _, _))

end TextOperation

/-- The texts that an operation is stored with. -/
def ExternalOperation.texts (operation : ExternalOperation) : List String :=
  [operation.provider, operation.operationId, operation.tool, operation.payload]

theorem TextOperation.encodes_iff {operation : TextOperation} :
    operation.Encodes ↔ ∀ text ∈ operation.code.texts, TextEncodes text := by
  simp [Encodes, ExternalOperation.texts, code]

section operations

variable [Hashlib]

/-- The fingerprint of the exact effect. -/
def effectSha256Text (operation : ExternalOperation) : Except Raised String := do
  encodeText (jsonArray [jsonString operation.provider, jsonString operation.operationId,
    jsonString operation.tool, jsonString operation.payload])
  .ok operation.effectSha256

/-- The four texts and the fingerprint of an operation can be encoded. -/
structure Encodable (operation : ExternalOperation) : Prop where
  texts : ∀ text ∈ operation.texts, TextEncodes text
  effect : effectSha256Text operation = .ok operation.effectSha256

theorem effectSha256Text_stricter (operation : ExternalOperation) :
    Stricter (effectSha256Text operation) (.ok operation.effectSha256) :=
  .check _ (.refl _)

theorem effectSha256Text_eq_ok {operation : TextOperation} :
    effectSha256Text operation.code = .ok operation.code.effectSha256 ↔ operation.Encodes := by
  have hencodes := encodes_jsonArray
    [operation.provider, operation.operationId, operation.tool, operation.payload]
  rw [effectSha256Text, check_bind_eq_ok, and_iff_left rfl, encodeText, raiseIf_eq_ok, not_not]
  exact hencodes

theorem encodable_iff {operation : TextOperation} :
    Encodable operation.code ↔ operation.Encodes :=
  ⟨fun h => effectSha256Text_eq_ok.1 h.effect,
    fun h => ⟨TextOperation.encodes_iff.1 h, effectSha256Text_eq_ok.2 h⟩⟩

/-- An operation that is asked for its fingerprint and gives one has no surrogates. -/
theorem encodes_of_effectSha256Text {operation : TextOperation} {effect : String}
    (h : effectSha256Text operation.code = .ok effect) : operation.Encodes := by
  obtain rfl := Except.ok.inj (effectSha256Text_stricter operation.code _ h)
  exact effectSha256Text_eq_ok.1 h

theorem Encodable.bind {operation : ExternalOperation} (h : Encodable operation)
    {texts : List String} (htexts : ∀ text ∈ texts, text ∈ operation.texts) :
    bindTexts texts = .ok () :=
  bindTexts_of_encodes fun text htext => h.texts text (htexts text htext)

theorem Encodable.bind_id {operation : ExternalOperation} (h : Encodable operation)
    {evidenceId : String} (hid : TextEncodes evidenceId) :
    bindTexts [operation.provider, operation.operationId, evidenceId] = .ok () := by
  refine bindTexts_of_encodes (List.forall_mem_cons.2 ⟨?_, List.forall_mem_cons.2 ⟨?_, ?_⟩⟩)
  · exact h.texts _ (by simp [ExternalOperation.texts])
  · exact h.texts _ (by simp [ExternalOperation.texts])
  · exact List.forall_mem_singleton.2 hid

end operations

namespace VersionedProviderStore

/-! ## The provider store -/

/-- `snapshotInTransaction`, which binds the provider. -/
def snapshotInTransactionText (provider : String) (db : ProviderDb) :
    Except Raised (VersionedProviderState × ProviderDb) := do
  bindTexts [provider]
  snapshotInTransaction provider db

/-- `snapshot`, where the statement binds the provider. -/
def snapshotText (provider : String) (db : ProviderDb) :
    ProviderDb × Except Raised VersionedProviderState :=
  if isBlank provider then
    (db, .error ⟨.valueError, "provider must be a nonempty string"⟩)
  else
    transaction (snapshotInTransactionText provider) db

variable [Hashlib]

/-- What `read` makes of its transaction's result, after the commit. -/
def readbackText (operation : ExternalOperation) (state : VersionedProviderState) :
    Option ExternalOperation → Except Raised ProviderEvidence
  | none => do
    let _ ← effectSha256Text operation
    readback operation state none
  | some row => readback operation state (some row)

/-- A versioned exact readback. -/
def readText (operation : ExternalOperation) (db : ProviderDb) :
    ProviderDb × Except Raised ProviderEvidence :=
  let result := transaction (fun db => do
    let (state, db) ← snapshotInTransactionText operation.provider db
    bindTexts [operation.provider, operation.operationId]
    .ok ((state, db.effects.find? operation.identity), db)) db
  (result.1, do
    let (state, row) ← result.2
    readbackText operation state row)

/-- Apply a retry only if the provider revision still matches the readback. -/
def applyConditionalRetryText (operation : ExternalOperation) (decision : ReconciliationDecision)
    (providerState : VersionedProviderState) : Except Raised VersionedProviderState := do
  raiseIf (decision.shouldRetry = false ∨ decision.action ≠ .retryExactOperation)
    ⟨.retrySafetyUnknown, "reconciliation decision does not authorize a retry"⟩
  let expectedRevision ← orRaise decision.retryPreconditionRevision
    ⟨.retrySafetyUnknown, "retry decision is missing a provider revision precondition"⟩
  let effect ← effectSha256Text operation
  raiseIf (decision.retryEffectSha256 ≠ some effect)
    ⟨.reconciliationConflict, "retry decision is not bound to the exact operation effect"⟩
  raiseIf (providerState.revision ≠ expectedRevision) staleReadback
  raiseIf (∃ existing ∈ providerState.effects, existing.identity = operation.identity)
    ⟨.reconciliationConflict,
      "provider state contradicts the absence readback for this operation identity"⟩
  .ok (providerState.commit operation)

theorem provider_updated (updated : VersionedProviderState) (row : RevisionRow) :
    (⟨row.provider, updated.revision, updated.revision_nonneg⟩ : RevisionRow).provider =
      row.provider :=
  rfl

/-- Serialize competing conditional retries at the provider revision boundary. -/
def conditionalApplyText (operation : ExternalOperation) (decision : ReconciliationDecision)
    (db : ProviderDb) : ProviderDb × Except Raised VersionedProviderState :=
  transaction (fun db => do
    let (current, db) ← snapshotInTransactionText operation.provider db
    let updated ← applyConditionalRetryText operation decision current
    bindTexts operation.texts
    let effects ← orRaise (db.effects.insert? operation)
      (uniqueFailed "provider_effects.provider, provider_effects.operation_id")
    let revisions := db.revisions.update operation.provider
      (fun row => ⟨row.provider, updated.revision, updated.revision_nonneg⟩)
      (provider_updated updated)
    .ok (updated, { revisions, effects })) db

/-- The store as a serialised machine. -/
def textMachine : Machine ProviderDb ProviderCall (Except Raised ProviderReply) where
  perform
    | .reopen, db => (db, .ok .opened)
    | .snapshot provider, db =>
      ((snapshotText provider db).1, .state <$> (snapshotText provider db).2)
    | .read operation, db => ((readText operation db).1, .evidence <$> (readText operation db).2)
    | .conditionalApply operation decision, db =>
      ((conditionalApplyText operation decision db).1,
        .state <$> (conditionalApplyText operation decision db).2)

theorem snapshotInTransactionText_stricter (provider : String) (db : ProviderDb) :
    Stricter (snapshotInTransactionText provider db) (snapshotInTransaction provider db) :=
  .check _ (.refl _)

theorem snapshotText_eq_or_error (provider : String) (db : ProviderDb) :
    snapshotText provider db = snapshot provider db ∨
      ∃ e, snapshotText provider db = (db, .error e) := by
  unfold snapshotText snapshot
  split_ifs with hb
  · exact Or.inl rfl
  · exact transaction_stricter (snapshotInTransactionText_stricter provider db)

theorem readbackText_stricter (operation : ExternalOperation) (state : VersionedProviderState)
    (row : Option ExternalOperation) :
    Stricter (readbackText operation state row) (readback operation state row) := by
  rcases row with _ | row
  · intro evidence hevidence
    exact (bind_eq_ok.1 hevidence).choose_spec.2
  · exact .refl _

/-- A read binds the provider and the operation id, and leaves a revision row. -/
theorem readText_eq {operation : ExternalOperation}
    (h : ∀ text ∈ [operation.provider, operation.operationId], TextEncodes text)
    (db : ProviderDb) :
    readText operation db = (db.touch operation.provider,
      readbackText operation (db.state operation.provider)
        (db.effects.find? operation.identity)) := by
  have hprovider : bindTexts [operation.provider] = .ok () :=
    bindTexts_of_encodes (by simpa using h _ List.mem_cons_self)
  unfold readText snapshotInTransactionText
  simp only [transaction, hprovider, bindTexts_of_encodes h, snapshotInTransaction_eq, ok_bind]
  rfl

theorem readText_cases (operation : ExternalOperation) (db : ProviderDb) :
    (∀ text ∈ [operation.provider, operation.operationId], TextEncodes text) ∧
        readText operation db = (db.touch operation.provider,
          readbackText operation (db.state operation.provider)
            (db.effects.find? operation.identity)) ∨
      readText operation db = (db, .error surrogatesNotAllowed) := by
  by_cases hp : TextEncodes operation.provider
  · by_cases ho : TextEncodes operation.operationId
    · have htexts : ∀ text ∈ [operation.provider, operation.operationId], TextEncodes text := by
        simpa using ⟨hp, ho⟩
      exact Or.inl ⟨htexts, readText_eq htexts db⟩
    · refine Or.inr ?_
      have hprovider : bindTexts [operation.provider] = .ok () :=
        bindTexts_of_encodes (by simpa using hp)
      have hbind : bindTexts [operation.provider, operation.operationId] =
          .error surrogatesNotAllowed := bindTexts_of_not (by simp) ho
      unfold readText snapshotInTransactionText
      simp only [transaction, hprovider, hbind, snapshotInTransaction_eq, ok_bind, error_bind]
  · refine Or.inr ?_
    have hbind : bindTexts [operation.provider] = .error surrogatesNotAllowed :=
      bindTexts_of_not (by simp) hp
    unfold readText snapshotInTransactionText
    simp only [transaction, hbind, error_bind]

theorem readText_of_encodable {operation : ExternalOperation} (h : Encodable operation)
    (db : ProviderDb) : readText operation db = read operation db := by
  have htexts : ∀ text ∈ [operation.provider, operation.operationId], TextEncodes text :=
    fun text htext => h.texts text (by simp [ExternalOperation.texts] at htext ⊢; tauto)
  rw [readText_eq htexts, read_eq]
  rcases db.effects.find? operation.identity with _ | row
  · simp only [readbackText, h.effect, ok_bind]
  · rfl

/-- A read is the read on characters, or raises and leaves at most a revision row. -/
theorem readText_eq_or_error (operation : ExternalOperation) (db : ProviderDb) :
    readText operation db = read operation db ∨
      ∃ e, readText operation db = (db, .error e) ∨
        readText operation db = (db.touch operation.provider, .error e) := by
  rcases readText_cases operation db with ⟨-, h⟩ | h
  · rw [h, read_eq]
    rcases (readbackText_stricter operation (db.state operation.provider)
      (db.effects.find? operation.identity)).eq_or_error with hreply | ⟨e, hreply⟩ <;> rw [hreply]
    · exact Or.inl rfl
    · exact Or.inr ⟨e, Or.inr rfl⟩
  · exact Or.inr ⟨_, Or.inl h⟩

theorem applyConditionalRetryText_stricter (operation : ExternalOperation)
    (decision : ReconciliationDecision) (state : VersionedProviderState) :
    Stricter (applyConditionalRetryText operation decision state)
      (applyConditionalRetry operation decision state) := by
  refine (Stricter.refl _).bind fun _ => (Stricter.refl _).bind fun revision => ?_
  intro updated hupdated
  obtain ⟨effect, heffect, hupdated⟩ := bind_eq_ok.1 hupdated
  obtain rfl := Except.ok.inj (effectSha256Text_stricter operation effect heffect)
  exact hupdated

theorem conditionalApplyText_eq_or_error (operation : ExternalOperation)
    (decision : ReconciliationDecision) (db : ProviderDb) :
    conditionalApplyText operation decision db = conditionalApply operation decision db ∨
      ∃ e, conditionalApplyText operation decision db = (db, .error e) := by
  unfold conditionalApplyText conditionalApply
  refine transaction_stricter ?_
  exact (snapshotInTransactionText_stricter _ db).bind fun _ =>
    (applyConditionalRetryText_stricter _ _ _).bind fun _ => .check _ (.refl _)

/-- Calls that leave the content as it is. -/
def ProviderCall.IsQuiet : ProviderCall → Prop
  | .reopen | .snapshot _ => True
  | .read _ | .conditionalApply _ _ => False

theorem restricts_provider :
    textMachine.Restricts providerMachine (fun reply => ∃ r, reply = .ok r)
      ProviderCall.IsQuiet := by
  have hsame : ∀ (db : ProviderDb) (e : Raised) (reply : Except Raised ProviderReply),
      reply = .error e → (¬∃ r, reply = .ok r) ∧
        ∃ d, ProviderCall.IsQuiet d ∧ db = (providerMachine.perform d db).1 := by
    rintro db e _ rfl
    exact ⟨by simp, .reopen, trivial, rfl⟩
  rintro (_ | provider | operation | ⟨operation, decision⟩) db
  · exact Or.inl rfl
  · rcases snapshotText_eq_or_error provider db with h | ⟨e, h⟩
    · exact Or.inl (by simp only [textMachine, providerMachine, h])
    · refine Or.inr ?_
      simp only [textMachine, h]
      exact hsame db e _ rfl
  · rcases readText_eq_or_error operation db with h | ⟨e, h | h⟩
    · exact Or.inl (by simp only [textMachine, providerMachine, h])
    · refine Or.inr ?_
      simp only [textMachine, h]
      exact hsame db e _ rfl
    · refine Or.inr ?_
      simp only [textMachine, h]
      refine ⟨by simp [Functor.map, Except.map], .snapshot operation.provider, trivial, ?_⟩
      rcases snapshot_cases operation.provider db with ⟨-, hblank⟩ | ⟨hsnapshot, -⟩
      · rw [operation.provider_nonblank] at hblank
        cases hblank
      · simp only [providerMachine, hsnapshot]
  · rcases conditionalApplyText_eq_or_error operation decision db with h | ⟨e, h⟩
    · exact Or.inl (by simp only [textMachine, providerMachine, h])
    · refine Or.inr ?_
      simp only [textMachine, h]
      exact hsame db e _ rfl

/-- The texts of every stored effect can be encoded. -/
def EffectsEncode (db : ProviderDb) : Prop :=
  ∀ e ∈ db.effects.rows, ∀ text ∈ e.texts, TextEncodes text

/-- A conditional write that commits stores texts that can be encoded. -/
theorem conditionalApplyText_texts {operation : ExternalOperation}
    {decision : ReconciliationDecision} {db : ProviderDb} {updated : VersionedProviderState}
    (h : (conditionalApplyText operation decision db).2 = .ok updated) :
    ∀ text ∈ operation.texts, TextEncodes text := by
  obtain ⟨_, -, hbody⟩ := bind_eq_ok.1 (transaction_eq_ok.1 h)
  obtain ⟨_, -, hbody⟩ := bind_eq_ok.1 hbody
  exact bindTexts_eq_ok.1 (check_bind_eq_ok.1 hbody).1

theorem effectsEncode_preserved : textMachine.Preserves EffectsEncode := by
  intro c db h
  rcases restricts_provider c db with heq | ⟨-, d, hd, hstate⟩
  · rcases perform_cases c db with ⟨operation, d, u, rfl, hr, hcom⟩ | ⟨hsame, -⟩
    · have hreply : (conditionalApplyText operation d db).2 = .ok u := by
        obtain ⟨a, ha, hstate⟩ := map_eq_ok.1 ((congrArg Prod.snd heq).trans hr)
        rw [← ProviderReply.state.inj hstate]
        exact ha
      intro e he
      rw [heq, hcom.effects, List.mem_append, List.mem_singleton] at he
      rcases he with he | rfl
      · exact h e he
      · exact conditionalApplyText_texts hreply
    · intro e he
      rw [heq, hsame.effects] at he
      exact h e he
  · intro e he
    rcases perform_cases d db with ⟨operation, d, u, rfl, -, -⟩ | ⟨hsame, -⟩
    · exact hd.elim
    · rw [hstate, hsame.effects] at he
      exact h e he

/-- A read that answers was asked for an operation that can be encoded. -/
theorem encodes_of_readText {operation : TextOperation} {db : ProviderDb} {e : ProviderEvidence}
    (hdb : EffectsEncode db) (h : (readText operation.code db).2 = .ok e) :
    operation.Encodes := by
  rcases readText_cases operation.code db with ⟨htexts, hread⟩ | hread <;> rw [hread] at h
  · rcases hrow : db.effects.find? operation.code.identity with _ | row <;> rw [hrow] at h
    · obtain ⟨effect, heffect, -⟩ := bind_eq_ok.1 h
      exact encodes_of_effectSha256Text heffect
    -- the stored effect has the tool and the payload
    · have hmem := (Table.find?_eq_some_iff.1 hrow).1
      have hsame : (row.tool, row.payload) = (operation.code.tool, operation.code.payload) := by
        by_contra hne
        simp [readbackText, readback, raiseIf, hne] at h
      obtain ⟨htool, hpayload⟩ := Prod.mk.inj hsame
      have hrowtexts := hdb row hmem
      refine TextOperation.encodes_iff.2 fun text htext => ?_
      simp only [ExternalOperation.texts, ← htool, ← hpayload] at htext hrowtexts
      simp only [List.mem_cons, List.not_mem_nil, or_false] at htext htexts hrowtexts
      rcases htext with rfl | rfl | rfl | rfl
      · exact htexts _ (Or.inl rfl)
      · exact htexts _ (Or.inr rfl)
      · exact hrowtexts _ (by simp)
      · exact hrowtexts _ (by simp)
  · cases h

theorem conditionalApplyText_of_encodable {operation : ExternalOperation}
    (h : Encodable operation) (decision : ReconciliationDecision) (db : ProviderDb) :
    conditionalApplyText operation decision db = conditionalApply operation decision db := by
  have hprovider : bindTexts [operation.provider] = .ok () :=
    h.bind (by simp [ExternalOperation.texts])
  have htexts : bindTexts operation.texts = .ok () := h.bind fun _ ht => ht
  unfold conditionalApplyText conditionalApply
  simp only [snapshotInTransactionText, applyConditionalRetryText, hprovider, htexts, h.effect,
    ok_bind, applyConditionalRetry]

end VersionedProviderStore

namespace ReconciliationEvidenceStore

/-! ## The evidence store -/

variable [Hashlib]

/-- Resolve a lost acknowledgement without guessing remote state. -/
def reconcileLostAckText (operation : ExternalOperation) (evidence : ProviderEvidence) :
    Except Raised ReconciliationDecision := do
  raiseIf (evidence.provider ≠ operation.provider ∨ evidence.operationId ≠ operation.operationId)
    ⟨.reconciliationConflict,
      "provider evidence is not bound to the exact provider and operation identity"⟩
  match evidence.readback with
  | .ambiguous =>
    .error ⟨.remoteStateAmbiguous,
      "provider readback is ambiguous; retry would risk duplicating a committed effect"⟩
  | .present =>
    raiseIf ((evidence.observedTool, evidence.observedPayload) ≠
        (some operation.tool, some operation.payload))
      ⟨.reconciliationConflict,
        "provider readback found a conflicting effect for this operation identity"⟩
    .ok acceptRemoteCommit
  | .absent =>
    raiseIf (evidence.observedTool ≠ none ∨ evidence.observedPayload ≠ none)
      ⟨.reconciliationConflict,
        "confirmed-absent evidence cannot simultaneously report an observed effect"⟩
    -- the effect is asked for only if the key is the operation's
    if evidence.idempotencyKey = some operation.operationId then
      let _ ← effectSha256Text operation
    raiseIf (¬(evidence.idempotencyKey = some operation.operationId ∧
        evidence.idempotencyEffectSha256 = some operation.effectSha256))
      ⟨.retrySafetyUnknown,
        "provider absence is known, but exact idempotent replay safety is not established"⟩
    let revision ← orRaise evidence.readbackRevision
      ⟨.retrySafetyUnknown,
        "provider absence is known, but no revision is available to bind a conditional retry"⟩
    .ok (retryExactOperation operation revision)

/-- The record a call of `record` proposes. -/
def candidateRecordText (operation : ExternalOperation) (evidenceId : String)
    (evidence : ProviderEvidence) : Except Raised ReconciliationEvidenceRecord := do
  raiseIf (isBlank evidenceId = true)
    ⟨.valueError, "evidence_id must be a nonempty string"⟩
  let revision ← orRaise evidence.readbackRevision
    ⟨.evidenceLineageConflict, "persistent evidence lineage requires a provider revision"⟩
  let decision ← reconcileLostAckText operation evidence
  let effect ← effectSha256Text operation
  .ok ⟨operation.provider, operation.operationId, evidenceId, revision, effect, decision⟩

/-- Persist provider evidence for an operation. -/
def recordText (operation : ExternalOperation) (evidenceId : String) (evidence : ProviderEvidence)
    (db : EvidenceDb) : EvidenceDb × Except Raised ReconciliationEvidenceRecord :=
  match candidateRecordText operation evidenceId evidence with
  | .error e => (db, .error e)
  | .ok candidate =>
    transaction (fun db => do
      bindTexts [operation.provider, operation.operationId]
      checkCompletion operation candidate (db.completionOf operation.identity)
      bindTexts [operation.provider, operation.operationId]
      match ← checkHead operation candidate (db.head operation.identity) with
      | some current => .ok (current, db)
      | none => do
        bindTexts [candidate.provider, candidate.operationId, candidate.evidenceId]
        .ok (candidate, db.putHead candidate)) db

/-- The persisted head of an operation. -/
def currentText (operation : ExternalOperation) (db : EvidenceDb) :
    Except Raised ReconciliationEvidenceRecord := do
  bindTexts [operation.provider, operation.operationId]
  let record ← orRaise (db.head operation.identity)
    ⟨.evidenceLineageConflict, "no reconciliation evidence is persisted for this operation"⟩
  let effect ← effectSha256Text operation
  raiseIf (record.effectSha256 ≠ effect)
    ⟨.evidenceLineageConflict, "persisted evidence is bound to a different exact effect"⟩
  .ok record

/-- The completion row of an operation, if there is one. -/
def completionText (operation : ExternalOperation) (db : EvidenceDb) :
    Except Raised (Option ReconciliationCompletionRecord) := do
  bindTexts [operation.provider, operation.operationId]
  match db.completionOf operation.identity with
  | none => .ok none
  | some completion => do
    let effect ← effectSha256Text operation
    raiseIf (completion.effectSha256 ≠ effect)
      ⟨.evidenceLineageConflict,
        "persisted reconciliation completion is bound to a different exact effect"⟩
    .ok (some completion)

/-- Durably complete reconciliation only from the current accepting decision. -/
def markReconciledText (operation : ExternalOperation) (evidenceId : String)
    (decision : ReconciliationDecision) (db : EvidenceDb) :
    EvidenceDb × Except Raised ReconciliationCompletionRecord :=
  transaction (fun db => do
    let current ← currentText operation db
    raiseIf (current.evidenceId ≠ evidenceId ∨ current.decision ≠ decision) supersededDecision
    raiseIf (decision.shouldRetry = true ∨ decision.action ≠ .acceptRemoteCommit) notPresent
    bindTexts [operation.provider, operation.operationId]
    match db.completionOf operation.identity with
    | some existing => do
      raiseIf (existing.effectSha256 ≠ operation.effectSha256) completedOtherEffect
      .ok (existing, db)
    | none => do
      let completion : ReconciliationCompletionRecord :=
        ⟨operation.provider, operation.operationId, operation.effectSha256, evidenceId,
          current.revision⟩
      bindTexts [completion.provider, completion.operationId, completion.evidenceId]
      let completions ← orRaise (db.completions.insert? completion)
        (uniqueFailed
          "reconciliation_completions.provider, reconciliation_completions.operation_id")
      .ok (completion, { db with completions })) db

/-- `assertCurrent`, on the head that is bound. -/
def assertCurrentText (operation : ExternalOperation) (evidenceId : String)
    (decision : ReconciliationDecision) (db : EvidenceDb) : Except Raised Unit := do
  let current ← currentText operation db
  raiseIf (current.evidenceId ≠ evidenceId ∨ current.decision ≠ decision) supersededDecision

/-- `applyRetry`, where each statement binds its texts. -/
def applyRetryText (operation : ExternalOperation) (evidenceId : String)
    (decision : ReconciliationDecision) (providerState : VersionedProviderState)
    (db : EvidenceDb) : Except Raised VersionedProviderState := do
  assertCurrentText operation evidenceId decision db
  VersionedProviderStore.applyConditionalRetryText operation decision providerState

/-- The store as a serialised machine. -/
def textMachine : Machine EvidenceDb EvidenceCall (Except Raised EvidenceReply) where
  perform
    | .reopen, db => (db, .ok .done)
    | .record operation evidenceId evidence, db =>
      ((recordText operation evidenceId evidence db).1,
        .head <$> (recordText operation evidenceId evidence db).2)
    | .current operation, db => (db, .head <$> currentText operation db)
    | .completion operation, db => (db, .completed <$> completionText operation db)
    | .markReconciled operation evidenceId decision, db =>
      ((markReconciledText operation evidenceId decision db).1,
        (fun c => .completed (some c)) <$> (markReconciledText operation evidenceId decision db).2)
    | .assertCurrent operation evidenceId decision, db =>
      (db, (fun _ => .done) <$> assertCurrentText operation evidenceId decision db)
    | .applyRetry operation evidenceId decision providerState, db =>
      (db, .state <$> applyRetryText operation evidenceId decision providerState db)

theorem reconcileLostAckText_stricter (operation : ExternalOperation)
    (evidence : ProviderEvidence) :
    Stricter (reconcileLostAckText operation evidence) (reconcileLostAck operation evidence) := by
  refine (Stricter.refl _).bind fun _ => ?_
  rcases evidence.readback with _ | _ | _
  · exact .refl _
  · refine (Stricter.refl _).bind fun _ => ?_
    split_ifs
    · intro decision hdecision
      exact (bind_eq_ok.1 hdecision).choose_spec.2
    · exact .refl _
  · exact .refl _

theorem candidateRecordText_stricter (operation : ExternalOperation) (evidenceId : String)
    (evidence : ProviderEvidence) :
    Stricter (candidateRecordText operation evidenceId evidence)
      (candidateRecord operation evidenceId evidence) := by
  refine (Stricter.refl _).bind fun _ => (Stricter.refl _).bind fun revision =>
    (reconcileLostAckText_stricter operation evidence).bind fun decision => ?_
  intro candidate hcandidate
  obtain ⟨effect, heffect, hcandidate⟩ := bind_eq_ok.1 hcandidate
  obtain rfl := Except.ok.inj (effectSha256Text_stricter operation effect heffect)
  exact hcandidate

theorem recordText_eq_or_error (operation : ExternalOperation) (evidenceId : String)
    (evidence : ProviderEvidence) (db : EvidenceDb) :
    recordText operation evidenceId evidence db = record operation evidenceId evidence db ∨
      ∃ e, recordText operation evidenceId evidence db = (db, .error e) := by
  unfold recordText record
  rcases hcand : candidateRecordText operation evidenceId evidence with e | candidate
  · exact Or.inr ⟨e, rfl⟩
  · rw [candidateRecordText_stricter _ _ _ _ hcand]
    refine transaction_stricter (.check _ ((Stricter.refl _).bind fun _ => .check _
      ((Stricter.refl _).bind fun found => ?_)))
    rcases found with _ | current
    · exact .check _ (.refl _)
    · exact .refl _

theorem currentText_stricter (operation : ExternalOperation) (db : EvidenceDb) :
    Stricter (currentText operation db) (current operation db) := by
  refine .check _ ((Stricter.refl _).bind fun record => ?_)
  intro current hcurrent
  obtain ⟨effect, heffect, hcurrent⟩ := bind_eq_ok.1 hcurrent
  obtain rfl := Except.ok.inj (effectSha256Text_stricter operation effect heffect)
  exact hcurrent

theorem completionText_stricter (operation : ExternalOperation) (db : EvidenceDb) :
    Stricter (completionText operation db) (completion operation db) := by
  refine .check _ ?_
  unfold completion
  rcases db.completionOf operation.identity with _ | completion
  · exact .refl _
  · intro found hfound
    obtain ⟨effect, heffect, hfound⟩ := bind_eq_ok.1 hfound
    obtain rfl := Except.ok.inj (effectSha256Text_stricter operation effect heffect)
    exact hfound

theorem markReconciledText_eq_or_error (operation : ExternalOperation) (evidenceId : String)
    (decision : ReconciliationDecision) (db : EvidenceDb) :
    markReconciledText operation evidenceId decision db =
        markReconciled operation evidenceId decision db ∨
      ∃ e, markReconciledText operation evidenceId decision db = (db, .error e) := by
  unfold markReconciledText markReconciled
  refine transaction_stricter ((currentText_stricter operation db).bind fun current =>
    (Stricter.refl _).bind fun _ => (Stricter.refl _).bind fun _ => .check _ ?_)
  rcases db.completionOf operation.identity with _ | existing
  · exact .check _ (.refl _)
  · exact .refl _

theorem assertCurrentText_stricter (operation : ExternalOperation) (evidenceId : String)
    (decision : ReconciliationDecision) (db : EvidenceDb) :
    Stricter (assertCurrentText operation evidenceId decision db)
      (assertCurrent operation evidenceId decision db) :=
  (currentText_stricter operation db).bind fun _ => .refl _

theorem applyRetryText_stricter (operation : ExternalOperation) (evidenceId : String)
    (decision : ReconciliationDecision) (state : VersionedProviderState) (db : EvidenceDb) :
    Stricter (applyRetryText operation evidenceId decision state db)
      (applyRetry operation evidenceId decision state db) :=
  (assertCurrentText_stricter operation evidenceId decision db).bind fun _ =>
    VersionedProviderStore.applyConditionalRetryText_stricter operation decision state

/-- A call that writes nothing. -/
theorem restricts_of_stricter {α : Type} {x y : Except Raised α} (h : Stricter x y)
    (f : α → EvidenceReply) (db : EvidenceDb) :
    (db, f <$> x) = (db, f <$> y) ∨ ¬(∃ r, f <$> x = .ok r) ∧
      ∃ d : EvidenceCall, d = .reopen ∧ db = (evidenceMachine.perform d db).1 := by
  rcases h.eq_or_error with rfl | ⟨e, rfl⟩
  · exact Or.inl rfl
  · exact Or.inr ⟨by simp [Functor.map, Except.map], .reopen, rfl, rfl⟩

/-- A call that writes, or raises and changes nothing. -/
theorem restricts_of_eq_or_error {α : Type} {x y : EvidenceDb × Except Raised α} {db : EvidenceDb}
    (h : x = y ∨ ∃ e, x = (db, .error e)) (f : α → EvidenceReply) :
    (x.1, f <$> x.2) = (y.1, f <$> y.2) ∨ ¬(∃ r, f <$> x.2 = .ok r) ∧
      ∃ d : EvidenceCall, d = .reopen ∧ x.1 = (evidenceMachine.perform d db).1 := by
  rcases h with rfl | ⟨e, rfl⟩
  · exact Or.inl rfl
  · exact Or.inr ⟨by simp [Functor.map, Except.map], .reopen, rfl, rfl⟩

theorem restricts_evidence :
    textMachine.Restricts evidenceMachine (fun reply => ∃ r, reply = .ok r)
      fun d => d = .reopen := by
  rintro (_ | ⟨operation, evidenceId, evidence⟩ | operation | operation |
    ⟨operation, evidenceId, decision⟩ | ⟨operation, evidenceId, decision⟩ |
    ⟨operation, evidenceId, decision, state⟩) db
  · exact Or.inl rfl
  · exact restricts_of_eq_or_error (recordText_eq_or_error operation evidenceId evidence db) _
  · exact restricts_of_stricter (currentText_stricter operation db) _ db
  · exact restricts_of_stricter (completionText_stricter operation db) _ db
  · exact restricts_of_eq_or_error
      (markReconciledText_eq_or_error operation evidenceId decision db) _
  · exact restricts_of_stricter (assertCurrentText_stricter operation evidenceId decision db) _ db
  · exact restricts_of_stricter (applyRetryText_stricter operation evidenceId decision state db) _
      db

/-- The evidence id of every head can be encoded. -/
def HeadsEncode (db : EvidenceDb) : Prop :=
  ∀ k h, db.head k = some h → TextEncodes h.evidenceId

/-- A `record` that replaces the head stores an evidence id that can be encoded. -/
theorem recordText_encodes {operation : ExternalOperation} {evidenceId : String}
    {evidence : ProviderEvidence} {db : EvidenceDb} {candidate R : ReconciliationEvidenceRecord}
    (hcand : candidateRecord operation evidenceId evidence = .ok candidate)
    (hhead : checkHead operation candidate (db.head operation.identity) = .ok none)
    (h : (recordText operation evidenceId evidence db).2 = .ok R) :
    TextEncodes candidate.evidenceId := by
  unfold recordText at h
  rcases hcand' : candidateRecordText operation evidenceId evidence with e | candidate' <;>
    rw [hcand'] at h
  · cases h
  · obtain rfl := Except.ok.inj
      (hcand.symm.trans (candidateRecordText_stricter _ _ _ _ hcand'))
    obtain ⟨-, hbody⟩ := check_bind_eq_ok.1 (transaction_eq_ok.1 h)
    obtain ⟨-, hbody⟩ := check_bind_eq_ok.1 hbody
    obtain ⟨-, hbody⟩ := check_bind_eq_ok.1 hbody
    rw [hhead, ok_bind] at hbody
    exact bindTexts_eq_ok.1 (check_bind_eq_ok.1 hbody).1 _ (by simp)

theorem headsEncode_preserved : textMachine.Preserves HeadsEncode := by
  intro c db h
  rcases restricts_evidence c db with heq | ⟨-, d, rfl, hstate⟩
  · intro k g hg
    rcases perform_cases c db with hsame |
      ⟨operation, id, e, candidate, rfl, hcand, hcomp, hhead, hput⟩ |
      ⟨operation, id, d, g', rfl, -, -, -, hdone⟩
    · rw [heq, hsame] at hg
      exact h k g hg
    · rw [heq, hput, EvidenceDb.head_putHead] at hg
      split_ifs at hg with hk
      · obtain rfl := Option.some.inj hg
        have hreply : (recordText operation id e db).2 = .ok candidate := by
          have hrecord := congrArg Prod.snd (record_of_checks hcand hcomp hhead)
          obtain ⟨R, hR, hreply⟩ := map_eq_ok.1 ((congrArg Prod.snd heq).trans
            (map_eq_ok.2 ⟨candidate, hrecord, rfl⟩))
          rw [← EvidenceReply.head.inj hreply]
          exact hR
        exact recordText_encodes hcand hhead hreply
      · exact h k g hg
    · rw [heq, hdone.head] at hg
      exact h k g hg
  · rw [hstate]
    exact h

theorem reconcileLostAckText_of_encodable {operation : ExternalOperation}
    (h : Encodable operation) (evidence : ProviderEvidence) :
    reconcileLostAckText operation evidence = reconcileLostAck operation evidence := by
  unfold reconcileLostAckText reconcileLostAck
  simp only [h.effect, ok_bind]
  rcases evidence.readback with _ | _ | _
  · rfl
  · split_ifs <;> rfl
  · rfl

theorem candidateRecordText_of_encodable {operation : ExternalOperation}
    (h : Encodable operation) (evidenceId : String) (evidence : ProviderEvidence) :
    candidateRecordText operation evidenceId evidence =
      candidateRecord operation evidenceId evidence := by
  unfold candidateRecordText candidateRecord
  simp only [reconcileLostAckText_of_encodable h, h.effect, ok_bind]

/-- `record` of an operation that can be encoded raises for a surrogate of the evidence id, where
it would store it. -/
theorem recordText_of_encodable {operation : ExternalOperation} (h : Encodable operation)
    (evidenceId : String) (evidence : ProviderEvidence) (db : EvidenceDb) :
    recordText operation evidenceId evidence db = record operation evidenceId evidence db ∨
      ¬TextEncodes evidenceId ∧
        recordText operation evidenceId evidence db = (db, .error surrogatesNotAllowed) ∧
        ∃ R, (record operation evidenceId evidence db).2 = .ok R ∧ R.evidenceId = evidenceId := by
  have hbind : bindTexts [operation.provider, operation.operationId] = .ok () :=
    h.bind (by simp [ExternalOperation.texts])
  unfold recordText
  rw [candidateRecordText_of_encodable h]
  rcases hcand : candidateRecord operation evidenceId evidence with e | candidate
  · exact Or.inl (by simp only [record, hcand])
  rcases hcomp : checkCompletion operation candidate (db.completionOf operation.identity)
    with e | ⟨⟩
  · exact Or.inl (by simp only [record, hcand, transaction, hbind, hcomp, ok_bind, error_bind])
  rcases hhead : checkHead operation candidate (db.head operation.identity) with e | _ | current
  · exact Or.inl (by
      simp only [record, hcand, transaction, hbind, hcomp, hhead, ok_bind, error_bind])
  · obtain ⟨-, r, d, -, -, rfl⟩ := candidateRecord_eq_ok.1 hcand
    by_cases hid : TextEncodes evidenceId
    · exact Or.inl (by
        simp only [record, hcand, transaction, hbind, hcomp, hhead, h.bind_id hid, ok_bind])
    · have htexts : bindTexts [operation.provider, operation.operationId, evidenceId] =
          .error surrogatesNotAllowed := bindTexts_of_not (by simp) hid
      refine Or.inr ⟨hid, ?_, _, congrArg Prod.snd (record_of_checks hcand hcomp hhead), rfl⟩
      simp only [transaction, hbind, hcomp, hhead, htexts, ok_bind, error_bind]
  · exact Or.inl (by simp only [record, hcand, transaction, hbind, hcomp, hhead, ok_bind])

theorem markReconciledText_of_encodable {operation : ExternalOperation} (h : Encodable operation)
    {db : EvidenceDb} (hdb : HeadsEncode db) (evidenceId : String)
    (decision : ReconciliationDecision) :
    markReconciledText operation evidenceId decision db =
      markReconciled operation evidenceId decision db := by
  have hbind : bindTexts [operation.provider, operation.operationId] = .ok () :=
    h.bind (by simp [ExternalOperation.texts])
  have hcurrent : currentText operation db = current operation db := by
    unfold currentText current
    simp only [hbind, h.effect, ok_bind]
  unfold markReconciledText markReconciled
  simp only [transaction, hcurrent]
  rcases hhead : current operation db with e | head
  · rfl
  by_cases hid : head.evidenceId = evidenceId
  · have hencodes : TextEncodes evidenceId := hid ▸ hdb _ head (current_eq_ok.1 hhead).1
    rcases db.completionOf operation.identity with _ | existing <;>
      simp only [hbind, h.bind_id hencodes, ok_bind]
  · have hraise : raiseIf (head.evidenceId ≠ evidenceId ∨ head.decision ≠ decision)
        supersededDecision = .error supersededDecision := raiseIf_pos (Or.inl hid) _
    simp only [hraise, ok_bind, error_bind]

end ReconciliationEvidenceStore

namespace Reconciler

open VersionedProviderStore ReconciliationEvidenceStore

variable [Hashlib]

/-! ## The two stores -/

/-- The two stores, each with its own database. -/
def textMachine : Machine (ProviderDb × EvidenceDb) Call Reply :=
  VersionedProviderStore.textMachine.beside ReconciliationEvidenceStore.textMachine

/-- A call that was not rolled back, and raised nothing. -/
def Succeeded (reply : Option Reply) : Prop :=
  ∃ r, reply = some r ∧ Sum.elim (fun r => ∃ a, r = .ok a) (fun r => ∃ a, r = .ok a) r

/-- What the stores keep can be encoded. -/
theorem encodable_after (cs : List (Call × Machine.Fate)) :
    let s := textMachine.crashing.after (.empty, .empty) cs
    EffectsEncode s.1 ∧ HeadsEncode s.2 := by
  have hpreserved := (effectsEncode_preserved.beside headsEncode_preserved).crashing
  refine hpreserved.after ⟨fun e he => ?_, fun k h hh => ?_⟩ cs
  · simp [ProviderDb.empty] at he
  · simp at hh

/-- The databases that workers reach are those that they reach on characters, with the replies
that they were given. -/
theorem exists_reconcilerRun {op : ExternalOperation} {cs : List (Call × Machine.Fate)}
    (hcs : textMachine.crashing.Guarded (Genuine op) (.empty, .empty) cs) :
    ∃ ds, reconcilerMachine.crashing.Guarded (Genuine op) (.empty, .empty) ds ∧
      reconcilerMachine.crashing.after (.empty, .empty) ds =
        textMachine.crashing.after (.empty, .empty) cs ∧
      ∀ x, Succeeded x.2 → x ∈ textMachine.crashing.history (.empty, .empty) cs →
        x ∈ reconcilerMachine.crashing.history (.empty, .empty) ds := by
  refine Machine.Restricts.exists_run (restricts_provider.beside restricts_evidence).crashing
    (G := Genuine op) ?_ ?_ hcs
  · intro h h' c hmem hc
    exact ⟨hc.own, fun id e he => hmem _ ⟨_, rfl, _, rfl⟩ (hc.readback id e he)⟩
  · rintro h ⟨(_ | provider | operation | ⟨operation, decision⟩) | c, fate⟩ hd
    · exact ⟨fun _ ho => (by cases ho), fun _ _ he => (by cases he)⟩
    · exact ⟨fun _ ho => (by cases ho), fun _ _ he => (by cases he)⟩
    · exact hd.elim
    · exact hd.elim
    · obtain rfl : c = .reopen := hd
      exact ⟨fun _ ho => (by cases ho), fun _ _ he => (by cases he)⟩

end Reconciler

end ReliabilityLab
