import ReliabilityLab.CanonicalText

/-!
# Retry authority

What a retry decision is good for. `reconcile_lost_ack` and `apply_conditional_retry`
together return only for the operation the evidence is about, at the state it was read
from, if that state does not store the operation (`MayRetry`); and the decision is spent
then, for every operation.

The decision names its operation by digest only. That two effects with one digest are one
effect is what the results assume of the hash, and no more : their canonical texts are then
equal, and `canonical_injective` does the rest.
-/

set_option linter.unusedSectionVars false

open Serial

namespace ReliabilityLab

section Decisions

variable [Hashlib]

/-- The evidence is an absent readback of `operation`, at the revision of `state`, with its
operation id as the idempotency key, and `state` does not store the operation. -/
structure MayRetry (operation : ExternalOperation) (evidence : ProviderEvidence)
    (state : VersionedProviderState) : Prop where
  provider : evidence.provider = operation.provider
  operationId : evidence.operationId = operation.operationId
  readback : evidence.readback = .absent
  observedTool : evidence.observedTool = none
  observedPayload : evidence.observedPayload = none
  idempotencyKey : evidence.idempotencyKey = some operation.operationId
  readbackRevision : evidence.readbackRevision = some state.revision
  absent : ∀ x ∈ state.effects,
    ¬(x.provider = operation.provider ∧ x.operationId = operation.operationId)

/-- A retry decision of `a` authorises `b` just for the effect of `a`, at its revision. -/
theorem retryExactOperation_authorizes_iff {a b : ExternalOperation} {revision r : Int} :
    Authorizes (retryExactOperation a revision) b r ↔
      a.effectSha256 = b.effectSha256 ∧ revision = r := by
  constructor
  · intro h
    exact ⟨Option.some.inj h.effect, Option.some.inj h.precondition⟩
  · rintro ⟨heffect, rfl⟩
    exact ⟨rfl, rfl, rfl, by rw [retryExactOperation_effect, heffect]⟩

/-- The decision of `a` applied to `b`. -/
theorem reconcile_apply_eq_ok {a b : ExternalOperation} {evidence : ProviderEvidence}
    {s t : VersionedProviderState} :
    (reconcileLostAck a evidence >>= fun decision => applyConditionalRetry b decision s) = .ok t ↔
      evidence.provider = a.provider ∧ evidence.operationId = a.operationId ∧
        ConfirmsAbsence a evidence s.revision ∧ a.effectSha256 = b.effectSha256 ∧
        (∀ x ∈ s.effects, x.identity ≠ b.identity) ∧ t = s.commit b := by
  rw [bind_eq_ok]
  simp only [reconcileLostAck_eq_ok, applyConditionalRetry_eq_ok]
  constructor
  · rintro ⟨decision, ⟨hp, ho, ⟨-, rfl⟩ | ⟨revision, hconfirms, rfl⟩⟩, hauth, habsent, ht⟩
    · cases hauth.shouldRetry
    · obtain ⟨heffect, rfl⟩ := retryExactOperation_authorizes_iff.1 hauth
      exact ⟨hp, ho, hconfirms, heffect, habsent, ht⟩
  · rintro ⟨hp, ho, hconfirms, heffect, habsent, ht⟩
    exact ⟨_, ⟨hp, ho, Or.inr ⟨s.revision, hconfirms, rfl⟩⟩,
      retryExactOperation_authorizes_iff.2 ⟨heffect, rfl⟩, habsent, ht⟩

/-- A decision at the revision of a state authorises nothing after a commit to it. -/
theorem Authorizes.spent {decision : ReconciliationDecision} {b c : ExternalOperation}
    {s : VersionedProviderState} (h : Authorizes decision b s.revision) :
    ¬Authorizes decision c (s.commit b).revision := by
  intro h'
  have hrevision := Option.some.inj (h.precondition.symm.trans h'.precondition)
  simp only [VersionedProviderState.commit] at hrevision
  omega

/-- Distinct identities stay distinct when an absent one is added. -/
theorem nodup_commit {s : VersionedProviderState} {operation : ExternalOperation}
    (h : (s.effects.map ExternalOperation.identity).Nodup)
    (habsent : ∀ x ∈ s.effects, x.identity ≠ operation.identity) :
    ((s.commit operation).effects.map ExternalOperation.identity).Nodup := by
  show ((s.effects ++ [operation]).map ExternalOperation.identity).Nodup
  rw [List.map_append, List.map_singleton, List.nodup_append']
  refine ⟨h, List.nodup_singleton _, ?_⟩
  rw [List.disjoint_singleton, List.mem_map]
  rintro ⟨x, hx, hid⟩
  exact habsent x hx hid

/-- Let two operations with the digest of `a` and of `b` have the same canonical text.
Applying the decision made for `a` to `b` returns just when `b` is `a`, the evidence
permits the retry of `a` at the state, and it has the digest of `a`; it then gives the
next revision, with `a` appended. If the identities of the state's effects are distinct,
so are those of the result, and the decision raises there for every operation. -/
theorem retryAuthority (a b : ExternalOperation) (evidence : ProviderEvidence)
    (s : VersionedProviderState)
    (hsha : a.effectSha256 = b.effectSha256 → a.canonical = b.canonical) :
    (∀ t, (reconcileLostAck a evidence >>= fun decision => applyConditionalRetry b decision s) =
        .ok t ↔
      b = a ∧ MayRetry a evidence s ∧
        evidence.idempotencyEffectSha256 = some a.effectSha256 ∧
        t.revision = s.revision + 1 ∧ t.effects = s.effects ++ [a]) ∧
      ∀ decision t, reconcileLostAck a evidence = .ok decision →
        applyConditionalRetry b decision s = .ok t →
        (s.effects.map ExternalOperation.identity).Nodup →
        (t.effects.map ExternalOperation.identity).Nodup ∧
          ∀ c, ∃ e, applyConditionalRetry c decision t = .error e := by
  refine ⟨fun t => ?_, fun decision t hdecision ht hnodup => ?_⟩
  · rw [reconcile_apply_eq_ok]
    constructor
    · rintro ⟨hp, ho, h, heffect, habsent, rfl⟩
      obtain rfl := ExternalOperation.canonical_injective (hsha heffect)
      exact ⟨rfl, ⟨hp, ho, h.readback, h.observedTool, h.observedPayload, h.idempotencyKey,
        h.readbackRevision, fun x hx hid => habsent x hx (Prod.ext hid.1 hid.2)⟩,
        h.idempotencyEffect, rfl, rfl⟩
    · rintro ⟨rfl, h, heffect, hrevision, heffects⟩
      exact ⟨h.provider, h.operationId, ⟨h.readback, h.observedTool, h.observedPayload,
        h.idempotencyKey, heffect, h.readbackRevision⟩, rfl,
        fun x hx hid => h.absent x hx (Prod.mk.inj hid),
        VersionedProviderState.ext hrevision heffects⟩
  · obtain ⟨hauth, habsent, rfl⟩ := applyConditionalRetry_eq_ok.1 ht
    refine ⟨nodup_commit hnodup habsent, fun c => exists_error_of_ne_ok fun u hu => ?_⟩
    exact hauth.spent (applyConditionalRetry_eq_ok.1 hu).1

end Decisions

/-- The operation of the package's own tests, absent at revision `4` beside another one. -/
theorem retryAuthority_sample :
    letI := sampleHashlib
    let other : ExternalOperation :=
      ⟨"provider-a", "op-0", "create_record", "payload-v1", by decide, by decide, by decide⟩
    let s : VersionedProviderState := ⟨4, [other], by decide⟩
    (∀ t, (reconcileLostAck sampleOperation (sampleAbsent 4) >>= fun decision =>
        applyConditionalRetry sampleOperation decision s) = .ok t ↔
      sampleOperation = sampleOperation ∧ MayRetry sampleOperation (sampleAbsent 4) s ∧
        (sampleAbsent 4).idempotencyEffectSha256 = some sampleOperation.effectSha256 ∧
        t.revision = s.revision + 1 ∧ t.effects = s.effects ++ [sampleOperation]) ∧
      ∀ decision t, reconcileLostAck sampleOperation (sampleAbsent 4) = .ok decision →
        applyConditionalRetry sampleOperation decision s = .ok t →
        (s.effects.map ExternalOperation.identity).Nodup →
        (t.effects.map ExternalOperation.identity).Nodup ∧
          ∀ c, ∃ e, applyConditionalRetry c decision t = .error e :=
  letI := sampleHashlib
  retryAuthority sampleOperation sampleOperation (sampleAbsent 4) _ fun _ => rfl

end ReliabilityLab
