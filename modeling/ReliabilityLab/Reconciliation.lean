import ReliabilityLab.Python

/-!
# Reconciliation of a lost acknowledgement

`reconciliation.py` without its store. `reconcileLostAck` turns one provider readback
into a decision : accept the remote commit, or retry the exact operation at the
revision that was read. `applyConditionalRetry` applies a decision to a provider state
as a compare-and-set on the revision.

`reconcileLostAck_eq_ok` and `applyConditionalRetry_eq_ok` say exactly when each
returns, and what. A retry decision carries the revision of its readback and the
digest of its operation (`retryExactOperation`); the accepting decision is one
constant (`acceptRemoteCommit`).
-/

open Serial

namespace ReliabilityLab

/-! ## Operations -/

/-- One exact effect on an external provider. -/
@[ext]
structure ExternalOperation where
  provider : String
  operationId : String
  tool : String
  payload : String
  provider_nonblank : isBlank provider = false
  operationId_nonblank : isBlank operationId = false
  tool_nonblank : isBlank tool = false

instance : DecidableEq ExternalOperation := fun _ _ =>
  decidable_of_iff _ ExternalOperation.ext_iff.symm

namespace ExternalOperation

/-- The checked constructor. -/
def create (provider operationId tool payload : String) : Except Raised ExternalOperation :=
  if hp : isBlank provider = true then
    .error ⟨.valueError, "provider must be a nonempty string"⟩
  else if ho : isBlank operationId = true then
    .error ⟨.valueError, "operation_id must be a nonempty string"⟩
  else if ht : isBlank tool = true then
    .error ⟨.valueError, "tool must be a nonempty string"⟩
  else
    .ok ⟨provider, operationId, tool, payload, isBlank_eq_false hp, isBlank_eq_false ho,
      isBlank_eq_false ht⟩

/-- The identity under which a provider stores an effect. -/
def identity (operation : ExternalOperation) : String × String :=
  (operation.provider, operation.operationId)

/-- The fingerprint of the exact effect. -/
def effectSha256 [Hashlib] (operation : ExternalOperation) : String :=
  Hashlib.sha256Hexdigest <| String.ofList <| jsonArray
    [jsonString operation.provider, jsonString operation.operationId,
      jsonString operation.tool, jsonString operation.payload]

theorem provider_eq_of_identity {a b : ExternalOperation} (h : a.identity = b.identity) :
    a.provider = b.provider :=
  congrArg Prod.fst h

end ExternalOperation

/-! ## Evidence and decisions -/

/-- What a provider says of an operation. -/
inductive ProviderReadbackState where
  | present
  | absent
  | ambiguous
  deriving DecidableEq, Repr

/-- One explicit provider readback plus optional exact idempotency evidence. -/
structure ProviderEvidence where
  provider : String
  operationId : String
  readback : ProviderReadbackState
  observedTool : Option String := none
  observedPayload : Option String := none
  readbackRevision : Option Int := none
  idempotencyKey : Option String := none
  idempotencyEffectSha256 : Option String := none
  readbackRevision_nonneg : ∀ r, readbackRevision = some r → 0 ≤ r
  deriving DecidableEq

/-- What to do about an operation. -/
inductive DecisionAction where
  | acceptRemoteCommit
  | retryExactOperation
  deriving DecidableEq, Repr

/-- A decision, with the precondition of a retry. -/
structure ReconciliationDecision where
  action : DecisionAction
  shouldRetry : Bool
  reason : String
  retryPreconditionRevision : Option Int := none
  retryEffectSha256 : Option String := none
  deriving DecidableEq, Repr

/-- The decision of a present readback. -/
def acceptRemoteCommit : ReconciliationDecision where
  action := .acceptRemoteCommit
  shouldRetry := false
  reason := "provider readback confirms the exact effect already committed"

/-- The decision of an absent readback at `revision`. -/
def retryExactOperation [Hashlib] (operation : ExternalOperation) (revision : Int) :
    ReconciliationDecision where
  action := .retryExactOperation
  shouldRetry := true
  reason :=
    "provider confirms absence and exact idempotency evidence permits a retry only " ++
      "while the observed provider revision is still current"
  retryPreconditionRevision := some revision
  retryEffectSha256 := some operation.effectSha256

@[simp] theorem acceptRemoteCommit_shouldRetry : acceptRemoteCommit.shouldRetry = false := rfl

@[simp] theorem acceptRemoteCommit_action :
    acceptRemoteCommit.action = .acceptRemoteCommit := rfl

variable [Hashlib]

/-- Resolve a lost acknowledgement without guessing remote state. The source's last
branch, for a readback that is none of the three states, has no counterpart. -/
def reconcileLostAck (operation : ExternalOperation) (evidence : ProviderEvidence) :
    Except Raised ReconciliationDecision := do
  raiseIf (evidence.provider ≠ operation.provider ∨ evidence.operationId ≠ operation.operationId)
    ⟨.reconciliationConflict,
      "provider evidence is not bound to the exact provider and operation identity"⟩
  match evidence.readback with
  | .ambiguous =>
    .error ⟨.remoteStateAmbiguous,
      "provider readback is ambiguous; retry would risk duplicating a committed effect"⟩
  | .present =>
    raiseIf ((evidence.observedTool, evidence.observedPayload) ≠
        (some operation.tool, some operation.payload))
      ⟨.reconciliationConflict,
        "provider readback found a conflicting effect for this operation identity"⟩
    .ok acceptRemoteCommit
  | .absent =>
    raiseIf (evidence.observedTool ≠ none ∨ evidence.observedPayload ≠ none)
      ⟨.reconciliationConflict,
        "confirmed-absent evidence cannot simultaneously report an observed effect"⟩
    raiseIf (¬(evidence.idempotencyKey = some operation.operationId ∧
        evidence.idempotencyEffectSha256 = some operation.effectSha256))
      ⟨.retrySafetyUnknown,
        "provider absence is known, but exact idempotent replay safety is not established"⟩
    let revision ← orRaise evidence.readbackRevision
      ⟨.retrySafetyUnknown,
        "provider absence is known, but no revision is available to bind a conditional retry"⟩
    .ok (retryExactOperation operation revision)

/-- A present readback of the exact effect. -/
structure ConfirmsCommit (operation : ExternalOperation) (evidence : ProviderEvidence) : Prop where
  readback : evidence.readback = .present
  observedTool : evidence.observedTool = some operation.tool
  observedPayload : evidence.observedPayload = some operation.payload

/-- An absent readback at `revision` with exact idempotency evidence. -/
structure ConfirmsAbsence (operation : ExternalOperation) (evidence : ProviderEvidence)
    (revision : Int) : Prop where
  readback : evidence.readback = .absent
  observedTool : evidence.observedTool = none
  observedPayload : evidence.observedPayload = none
  idempotencyKey : evidence.idempotencyKey = some operation.operationId
  idempotencyEffect : evidence.idempotencyEffectSha256 = some operation.effectSha256
  readbackRevision : evidence.readbackRevision = some revision

theorem reconcileLostAck_eq_ok {operation : ExternalOperation} {evidence : ProviderEvidence}
    {decision : ReconciliationDecision} :
    reconcileLostAck operation evidence = .ok decision ↔
      evidence.provider = operation.provider ∧ evidence.operationId = operation.operationId ∧
        (ConfirmsCommit operation evidence ∧ decision = acceptRemoteCommit ∨
          ∃ revision, ConfirmsAbsence operation evidence revision ∧
            decision = retryExactOperation operation revision) := by
  unfold reconcileLostAck
  rw [raiseIf_bind_eq_ok]
  simp only [not_or, not_not, and_assoc]
  refine and_congr_right fun _ => and_congr_right fun _ => ?_
  rcases hr : evidence.readback with _ | _ | _
  · simp only [raiseIf_bind_eq_ok, not_not, Prod.mk.injEq, Except.ok.injEq]
    refine ⟨fun h => Or.inl ⟨⟨hr, h.1.1, h.1.2⟩, h.2.symm⟩, ?_⟩
    rintro (⟨h, rfl⟩ | ⟨r, h, -⟩)
    · exact ⟨⟨h.observedTool, h.observedPayload⟩, rfl⟩
    · exact absurd (hr.symm.trans h.readback) (by decide)
  · simp only [raiseIf_bind_eq_ok, not_or, not_not, orRaise_bind_eq_ok, Except.ok.injEq]
    refine ⟨fun h => Or.inr ?_, ?_⟩
    · obtain ⟨⟨ht, hp⟩, ⟨hk, he⟩, r, hrev, rfl⟩ := h
      exact ⟨r, ⟨hr, ht, hp, hk, he, hrev⟩, rfl⟩
    · rintro (⟨h, -⟩ | ⟨r, h, rfl⟩)
      · exact absurd (hr.symm.trans h.readback) (by decide)
      · exact ⟨⟨h.observedTool, h.observedPayload⟩, ⟨h.idempotencyKey, h.idempotencyEffect⟩, r,
          h.readbackRevision, rfl⟩
  · simp only [reduceCtorEq, false_iff, not_or, not_and, not_exists]
    exact ⟨fun h => absurd (hr.symm.trans h.readback) (by decide),
      fun r h => absurd (hr.symm.trans h.readback) (by decide)⟩

/-- A decision is the accepting one, or the retry at the revision of its readback. -/
theorem decision_cases {operation : ExternalOperation} {evidence : ProviderEvidence}
    {decision : ReconciliationDecision} {revision : Int}
    (h : reconcileLostAck operation evidence = .ok decision)
    (hrev : evidence.readbackRevision = some revision) :
    decision = acceptRemoteCommit ∨ decision = retryExactOperation operation revision := by
  obtain ⟨-, -, ⟨-, rfl⟩ | ⟨r, hr, rfl⟩⟩ := reconcileLostAck_eq_ok.1 h
  · exact Or.inl rfl
  · obtain rfl : revision = r := Option.some.inj (hrev.symm.trans hr.readbackRevision)
    exact Or.inr rfl

@[simp] theorem retryExactOperation_shouldRetry (operation : ExternalOperation) (revision : Int) :
    (retryExactOperation operation revision).shouldRetry = true := rfl

@[simp] theorem retryExactOperation_action (operation : ExternalOperation) (revision : Int) :
    (retryExactOperation operation revision).action = .retryExactOperation := rfl

@[simp] theorem retryExactOperation_precondition (operation : ExternalOperation)
    (revision : Int) :
    (retryExactOperation operation revision).retryPreconditionRevision = some revision := rfl

@[simp] theorem retryExactOperation_effect (operation : ExternalOperation) (revision : Int) :
    (retryExactOperation operation revision).retryEffectSha256 = some operation.effectSha256 := rfl

/-! ## The conditional retry -/

/-- Provider state for an atomic compare-and-apply retry. -/
@[ext]
structure VersionedProviderState where
  revision : Int
  effects : List ExternalOperation := []
  revision_nonneg : 0 ≤ revision

instance : DecidableEq VersionedProviderState := fun _ _ =>
  decidable_of_iff _ VersionedProviderState.ext_iff.symm

/-- The state after committing `operation`. -/
def VersionedProviderState.commit (state : VersionedProviderState)
    (operation : ExternalOperation) : VersionedProviderState where
  revision := state.revision + 1
  effects := state.effects ++ [operation]
  revision_nonneg := by
    have := state.revision_nonneg
    omega

/-- The exception of a retry whose revision is no longer the provider's. -/
def staleReadback : Raised :=
  ⟨.staleProviderReadback,
    "provider revision changed after the absence readback; retry must be reconciled again"⟩

/-- Apply a retry only if the provider revision still matches the readback. -/
def applyConditionalRetry (operation : ExternalOperation) (decision : ReconciliationDecision)
    (providerState : VersionedProviderState) : Except Raised VersionedProviderState := do
  raiseIf (decision.shouldRetry = false ∨ decision.action ≠ .retryExactOperation)
    ⟨.retrySafetyUnknown, "reconciliation decision does not authorize a retry"⟩
  let expectedRevision ← orRaise decision.retryPreconditionRevision
    ⟨.retrySafetyUnknown, "retry decision is missing a provider revision precondition"⟩
  raiseIf (decision.retryEffectSha256 ≠ some operation.effectSha256)
    ⟨.reconciliationConflict, "retry decision is not bound to the exact operation effect"⟩
  raiseIf (providerState.revision ≠ expectedRevision) staleReadback
  raiseIf (∃ existing ∈ providerState.effects, existing.identity = operation.identity)
    ⟨.reconciliationConflict,
      "provider state contradicts the absence readback for this operation identity"⟩
  .ok (providerState.commit operation)

/-- The checks of a retry that do not look at the provider : the decision is a retry at
`revision`, bound to the operation's effect. -/
structure Authorizes (decision : ReconciliationDecision) (operation : ExternalOperation)
    (revision : Int) : Prop where
  shouldRetry : decision.shouldRetry = true
  action : decision.action = .retryExactOperation
  precondition : decision.retryPreconditionRevision = some revision
  effect : decision.retryEffectSha256 = some operation.effectSha256

theorem retryExactOperation_authorizes (operation : ExternalOperation) (revision : Int) :
    Authorizes (retryExactOperation operation revision) operation revision :=
  ⟨rfl, rfl, rfl, rfl⟩

theorem applyConditionalRetry_eq_ok {operation : ExternalOperation}
    {decision : ReconciliationDecision} {s t : VersionedProviderState} :
    applyConditionalRetry operation decision s = .ok t ↔
      Authorizes decision operation s.revision ∧
        (∀ x ∈ s.effects, x.identity ≠ operation.identity) ∧ t = s.commit operation := by
  simp only [applyConditionalRetry, raiseIf_bind_eq_ok, orRaise_bind_eq_ok, not_or,
    not_not, not_exists, not_and, Except.ok.injEq]
  refine ⟨?_, ?_⟩
  · rintro ⟨⟨hs, ha⟩, r, hr, he, rfl, hx, rfl⟩
    exact ⟨⟨by simpa using hs, ha, hr, he⟩, hx, rfl⟩
  · rintro ⟨h, hx, rfl⟩
    exact ⟨⟨by simp [h.shouldRetry], h.action⟩, s.revision, h.precondition, h.effect, rfl, hx, rfl⟩

/-- An authorised retry at another revision is stale. -/
theorem applyConditionalRetry_stale {operation : ExternalOperation}
    {decision : ReconciliationDecision} {s : VersionedProviderState} {revision : Int}
    (h : Authorizes decision operation revision) (hr : s.revision ≠ revision) :
    applyConditionalRetry operation decision s = .error staleReadback := by
  simp [applyConditionalRetry, h.shouldRetry, h.action, h.precondition, h.effect, hr, raiseIf]

/-- The exceptions of a conditional retry are its own. -/
theorem applyConditionalRetry_error {operation : ExternalOperation}
    {decision : ReconciliationDecision} {s : VersionedProviderState} {e : Raised}
    (h : applyConditionalRetry operation decision s = .error e) :
    e.error = .retrySafetyUnknown ∨ e.error = .reconciliationConflict ∨
      e.error = .staleProviderReadback := by
  simp only [applyConditionalRetry, raiseIf_bind_eq_error, orRaise_bind_eq_error,
    reduceCtorEq, and_false, or_false] at h
  obtain ⟨-, rfl⟩ | ⟨-, ⟨-, rfl⟩ | ⟨r, -, ⟨-, rfl⟩ | ⟨-, ⟨-, rfl⟩ | ⟨-, -, rfl⟩⟩⟩⟩ := h <;>
    simp [staleReadback]

/-! ## Readbacks of a versioned provider -/

/-- The readback of an operation the provider does not store. -/
def absentReadback (operation : ExternalOperation) (state : VersionedProviderState) :
    ProviderEvidence where
  provider := operation.provider
  operationId := operation.operationId
  readback := .absent
  readbackRevision := some state.revision
  idempotencyKey := some operation.operationId
  idempotencyEffectSha256 := some operation.effectSha256
  readbackRevision_nonneg _ hr := Option.some.inj hr ▸ state.revision_nonneg

/-- The readback of an operation the provider stores. -/
def presentReadback (operation : ExternalOperation) (row : ExternalOperation)
    (state : VersionedProviderState) : ProviderEvidence where
  provider := operation.provider
  operationId := operation.operationId
  readback := .present
  observedTool := some row.tool
  observedPayload := some row.payload
  readbackRevision := some state.revision
  readbackRevision_nonneg _ hr := Option.some.inj hr ▸ state.revision_nonneg

theorem reconcileLostAck_absentReadback (operation : ExternalOperation)
    (state : VersionedProviderState) :
    reconcileLostAck operation (absentReadback operation state) =
      .ok (retryExactOperation operation state.revision) :=
  reconcileLostAck_eq_ok.2
    ⟨rfl, rfl, Or.inr ⟨state.revision, ⟨rfl, rfl, rfl, rfl, rfl, rfl⟩, rfl⟩⟩

theorem reconcileLostAck_presentReadback (operation : ExternalOperation)
    (state : VersionedProviderState) :
    reconcileLostAck operation (presentReadback operation operation state) =
      .ok acceptRemoteCommit :=
  reconcileLostAck_eq_ok.2 ⟨rfl, rfl, Or.inl ⟨⟨rfl, rfl, rfl⟩, rfl⟩⟩

/-! ## A sample operation -/

/-- The operation of the package's own tests. -/
def sampleOperation : ExternalOperation :=
  ⟨"provider-a", "op-1", "create_record", "payload-v1", .refl false, .refl false, .refl false⟩

/-- A digest that is right on `sampleOperation`. -/
@[reducible] def sampleHashlib : Hashlib where
  sha256Hexdigest _ := "d6cd2d902752236fa1fa522973d1934b1b80f7a0f8c1672e68e7f4a65ab75255"

/-- An absent readback of `sampleOperation` at `revision`. -/
def sampleAbsent (revision : Nat) : ProviderEvidence :=
  letI := sampleHashlib
  absentReadback sampleOperation ⟨revision, [], Int.natCast_nonneg revision⟩

/-- A present readback of `sampleOperation` at `revision`. -/
def samplePresent (revision : Nat) : ProviderEvidence :=
  presentReadback sampleOperation sampleOperation ⟨revision, [], Int.natCast_nonneg revision⟩

end ReliabilityLab
