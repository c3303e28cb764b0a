import ReliabilityLab.CanonicalText
import ReliabilityLab.MalformedTraces

/-!
# Exact canonical texts

The evidence store and the validator hash a canonical text of an effect, and the checkpoint
store keeps the text of a plan. Two of these texts are equal exactly if what they were made from
is equal, field by field and, for plans, operation by operation (`canonicalTexts_exact`), so the
only thing that a digest can confuse is what its hash does.
-/

namespace ReliabilityLab

theorem ExternalOperation.canonical_eq_iff {a b : ExternalOperation} :
    a.canonical = b.canonical ↔ a.provider = b.provider ∧ a.operationId = b.operationId ∧
      a.tool = b.tool ∧ a.payload = b.payload := by
  rw [canonical_injective.eq_iff, ExternalOperation.ext_iff]

namespace TraceIntegrity

theorem canonicalEffect_eq_iff {provider operationId tool payload : String}
    {provider' operationId' tool' payload' : String} :
    canonicalEffect provider operationId tool payload =
        canonicalEffect provider' operationId' tool' payload' ↔
      provider = provider' ∧ operationId = operationId' ∧ tool = tool' ∧ payload = payload' := by
  have hfields := unambiguous_strings.injective.eq_iff
    (a := [provider, operationId, tool, payload])
    (b := [provider', operationId', tool', payload'])
  simpa [canonicalEffect] using hfields

theorem effectFingerprint_eq [Hashlib] (provider operationId tool payload : String) :
    effectFingerprint provider operationId tool payload =
      Hashlib.sha256Hexdigest
        (String.ofList (canonicalEffect provider operationId tool payload)) := rfl

end TraceIntegrity

open TraceIntegrity

namespace CheckpointStore

theorem planJson_eq_iff {plan plan' : List RecoveryOperation} :
    planJson plan = planJson plan' ↔ List.Forall₂ RecoveryOperation.Same plan plan' := by
  have hsame : RecoveryOperation.Same = Eq := by
    ext a b
    exact RecoveryOperation.same_iff
  rw [planJson_injective.eq_iff, hsame, List.forall₂_eq_eq_eq]

end CheckpointStore

open CheckpointStore

/-- The texts that `effect_sha256` and `effect_fingerprint` hash, and the text of a plan, are
equal exactly for equal effects and plans. -/
theorem canonicalTexts_exact [Hashlib] :
    (∀ operation : ExternalOperation,
      operation.effectSha256 = Hashlib.sha256Hexdigest operation.canonical) ∧
    (∀ a b : ExternalOperation, a.canonical = b.canonical ↔
      a.provider = b.provider ∧ a.operationId = b.operationId ∧ a.tool = b.tool ∧
        a.payload = b.payload) ∧
    (∀ provider operationId tool payload,
      effectFingerprint provider operationId tool payload =
        Hashlib.sha256Hexdigest
          (String.ofList (canonicalEffect provider operationId tool payload))) ∧
    (∀ provider operationId tool payload provider' operationId' tool' payload',
      canonicalEffect provider operationId tool payload =
          canonicalEffect provider' operationId' tool' payload' ↔
        provider = provider' ∧ operationId = operationId' ∧ tool = tool' ∧
          payload = payload') ∧
    ∀ plan plan' : List RecoveryOperation,
      planJson plan = planJson plan' ↔ List.Forall₂ RecoveryOperation.Same plan plan' :=
  ⟨ExternalOperation.effectSha256_eq, fun _ _ => ExternalOperation.canonical_eq_iff,
    effectFingerprint_eq, fun _ _ _ _ _ _ _ _ => canonicalEffect_eq_iff,
    fun _ _ => planJson_eq_iff⟩

end ReliabilityLab
