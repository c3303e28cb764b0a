import ReliabilityLab.GenuineReadbacks

/-!
# The reconciliation loop

One worker that reads `op` back, records the readback, retries and observes again if
the decision says so, and completes. `reconcileLoop_converges_iff` : from every state that
workers reach, however they crashed and whatever stale readbacks they recorded, the loop
raises nothing, commits `op` at most once and completes it, if and only if every text that it
encodes is without surrogates. The texts of `op` are always encoded. An evidence id is encoded
where it would be stored : the first one unless the head is of the current revision, the second
one where `op` has to be committed.

The state it starts from is `Consistent`, and each of its calls is shown to succeed
from there : a readback of the current revision is never older than the head, and never
in conflict with it (`record_readback`); the decision of the current revision is a retry
exactly if the provider lacks `op`, and then the retry commits
(`conditionalApply_commits`).
-/

set_option linter.unusedSectionVars false

open Serial Keyed

namespace ReliabilityLab

namespace Reconciler

open PyText VersionedProviderStore ReconciliationEvidenceStore

section loop

variable [Hashlib]

/-! ## Programs -/

/-- A worker's program : each statement is one call of a store, and an exception leaves
the stores as the calls before it did. -/
abbrev Worker := ExceptT Raised (StateM (ProviderDb × EvidenceDb))

/-- A step of the worker on the provider. -/
def onProvider {α : Type} (call : ProviderDb → ProviderDb × Except Raised α) : Worker α :=
  ExceptT.mk fun s => ((call s.1).2, ((call s.1).1, s.2))

/-- A step of the worker on the evidence. -/
def onEvidence {α : Type} (call : EvidenceDb → EvidenceDb × Except Raised α) : Worker α :=
  ExceptT.mk fun s => ((call s.2).2, (s.1, (call s.2).1))

/-- Read `op` back and record the readback. -/
def observe (op : ExternalOperation) (evidenceId : String) :
    Worker ReconciliationEvidenceRecord := do
  let readback ← onProvider (readText op)
  onEvidence (recordText op evidenceId readback)

/-- Observe, retry and observe again if the decision says so, complete. -/
def reconcileLoop (op : ExternalOperation) (evidenceId againId : String) :
    Worker ReconciliationCompletionRecord := do
  let first ← observe op evidenceId
  let current ←
    if first.decision.shouldRetry then do
      let _ ← onProvider (conditionalApplyText op first.decision)
      observe op againId
    else pure first
  onEvidence (markReconciledText op current.evidenceId current.decision)

/-- The outcome of a program from two databases. -/
def Worker.outcome {α : Type} (w : Worker α) (s : ProviderDb × EvidenceDb) :
    Except Raised α × (ProviderDb × EvidenceDb) :=
  (ExceptT.run w).run s

theorem Worker.outcome_bind_of_ok {α β : Type} {w : Worker α} {f : α → Worker β}
    {s t : ProviderDb × EvidenceDb} {a : α} (h : w.outcome s = (.ok a, t)) :
    Worker.outcome (w >>= f) s = (f a).outcome t := by
  unfold Worker.outcome at h ⊢
  rw [ExceptT.run_bind, StateT.run_bind, h]
  rfl

theorem Worker.outcome_bind_of_error {α β : Type} {w : Worker α} (f : α → Worker β)
    {s t : ProviderDb × EvidenceDb} {e : Raised} (h : w.outcome s = (.error e, t)) :
    Worker.outcome (w >>= f) s = (.error e, t) := by
  unfold Worker.outcome at h ⊢
  rw [ExceptT.run_bind, StateT.run_bind, h]
  rfl

@[simp] theorem outcome_onProvider {α : Type} (call : ProviderDb → ProviderDb × Except Raised α)
    (s : ProviderDb × EvidenceDb) :
    (onProvider call).outcome s = ((call s.1).2, ((call s.1).1, s.2)) := rfl

@[simp] theorem outcome_onEvidence {α : Type} (call : EvidenceDb → EvidenceDb × Except Raised α)
    (s : ProviderDb × EvidenceDb) :
    (onEvidence call).outcome s = ((call s.2).2, (s.1, (call s.2).1)) := rfl

@[simp] theorem outcome_pure {α : Type} (a : α) (s : ProviderDb × EvidenceDb) :
    Worker.outcome (pure a) s = (.ok a, s) := rfl

/-! ## The calls of the loop -/

/-- The head of `op` is of its provider's current revision. -/
def HeadIsCurrent (op : ExternalOperation) (P : ProviderDb) (E : EvidenceDb) : Prop :=
  ∃ g, E.head op.identity = some g ∧ g.revision = P.revision op.provider

/-- A readback of the current revision is recorded : the head is given for it if it is current, and
is replaced if it is not. -/
theorem record_readback {op : ExternalOperation} {evidenceId : String} {P : ProviderDb}
    {E : EvidenceDb} {e : ProviderEvidence} {d : ReconciliationDecision}
    (hcon : Consistent op P E) (hid : isBlank evidenceId = false)
    (hrev : e.readbackRevision = some (P.revision op.provider))
    (hd : reconcileLostAck op e = .ok d) (hobs : Observed P op (P.revision op.provider) d) :
    HeadIsCurrent op P E ∧ (∃ R, record op evidenceId e E = (E, .ok R)) ∨
      ¬HeadIsCurrent op P E ∧
        ∃ R, (record op evidenceId e E).2 = .ok R ∧ R.evidenceId = evidenceId := by
  let cand : ReconciliationEvidenceRecord :=
    ⟨op.provider, op.operationId, evidenceId, P.revision op.provider, op.effectSha256, d⟩
  have hcand : candidateRecord op evidenceId e = .ok cand :=
    candidateRecord_eq_ok.2 ⟨hid, _, d, hrev, hd, rfl⟩
  have hcomp : checkCompletion op cand (E.completionOf op.identity) = .ok () := by
    refine checkCompletion_eq_ok.2 fun c hc => ?_
    obtain ⟨heff, hheld, hle⟩ := hcon.completed c hc
    refine ⟨heff, ?_⟩
    rcases hobs.decision with ⟨-, rfl⟩ | ⟨hnot, -⟩
    · rfl
    · exact absurd (hheld.mono hle) hnot
  rcases hh : E.head op.identity with _ | h
  · have hhead : checkHead op cand (E.head op.identity) = .ok none :=
      checkHead_eq_none.2 (by simp [hh])
    exact Or.inr ⟨by simp [HeadIsCurrent, hh],
      cand, congrArg Prod.snd (record_of_checks hcand hcomp hhead), rfl⟩
  obtain ⟨heff, hhobs⟩ := hcon.head h hh
  -- an older head is replaced, one of the same revision has the same decision
  rcases lt_or_eq_of_le hhobs.le_revision with hlt | heq
  · have hhead : checkHead op cand (E.head op.identity) = .ok none := by
      refine checkHead_eq_none.2 fun g hg => ?_
      obtain rfl := Option.some.inj (hh.symm.trans hg)
      exact ⟨heff, hlt⟩
    refine Or.inr ⟨?_, cand, congrArg Prod.snd (record_of_checks hcand hcomp hhead), rfl⟩
    rintro ⟨g, hg, hgrev⟩
    obtain rfl := Option.some.inj (hh.symm.trans hg)
    exact hlt.ne hgrev
  · rw [heq] at hhobs
    exact Or.inl ⟨⟨h, hh, heq⟩, h, record_of_checks hcand hcomp
      (checkHead_eq_some.2 ⟨hh, heff, heq.symm, heff.symm, hobs.decision_unique hhobs⟩)⟩

/-- With any evidence id a readback of the current revision is recorded as on characters, unless
the id has a surrogate and would be stored. -/
theorem recordText_readback {op : ExternalOperation} {evidenceId : String} {P : ProviderDb}
    {E : EvidenceDb} {e : ProviderEvidence} {d : ReconciliationDecision} (hop : Encodable op)
    (hcon : Consistent op P E) (hE : HeadsEncode E) (hid : isBlank evidenceId = false)
    (hrev : e.readbackRevision = some (P.revision op.provider))
    (hd : reconcileLostAck op e = .ok d) (hobs : Observed P op (P.revision op.provider) d) :
    (TextEncodes evidenceId ∨ HeadIsCurrent op P E) ∧
        (∃ R, (record op evidenceId e E).2 = .ok R) ∧
        recordText op evidenceId e E = record op evidenceId e E ∨
      ¬(TextEncodes evidenceId ∨ HeadIsCurrent op P E) ∧
        recordText op evidenceId e E = (E, .error surrogatesNotAllowed) := by
  rcases record_readback hcon hid hrev hd hobs with ⟨hcur, R, hR⟩ | ⟨hnot, R, hR, rfl⟩
  · exact Or.inl ⟨Or.inr hcur, ⟨R, congrArg Prod.snd hR⟩,
      (recordText_of_head hop hE hR).trans hR.symm⟩
  · rcases recordText_of_encodable hop R.evidenceId e E with heq | ⟨hsur, heq, -⟩
    -- what was stored is a head, which can be encoded
    · have hstored := headsEncode_preserved (.record op R.evidenceId e) E hE
      have hhead := (head_of_record hR).1
      rw [← heq] at hhead
      exact Or.inl ⟨Or.inl (hstored _ R hhead), ⟨R, hR⟩, heq⟩
    · exact Or.inr ⟨not_or.2 ⟨hsur, hnot⟩, heq⟩

/-- From consistent databases an observation succeeds, unless it would store an evidence id with a
surrogate. The record it gives is the head, with the decision of the current revision. -/
theorem observe_outcome {op : ExternalOperation} {evidenceId : String} {P : ProviderDb}
    {E : EvidenceDb} (hop : Encodable op) (hcon : Consistent op P E) (hE : HeadsEncode E)
    (hid : isBlank evidenceId = false) :
    (TextEncodes evidenceId ∨ HeadIsCurrent op P E) ∧
        (∃ R E', (observe op evidenceId).outcome (P, E) = (.ok R, (P.touch op.provider, E')) ∧
          Consistent op (P.touch op.provider) E' ∧ HeadsEncode E' ∧ current op E' = .ok R ∧
          R.revision = P.revision op.provider ∧
          Observed (P.touch op.provider) op R.revision R.decision) ∨
      ¬(TextEncodes evidenceId ∨ HeadIsCurrent op P E) ∧
        ∃ e t, (observe op evidenceId).outcome (P, E) = (.error e, t) := by
  obtain ⟨e, d, hread, hrev, hd, hobs⟩ := read_readback hcon.wellFormed hcon.ownIdentity
  have hstate : (read op P).1 = P.touch op.provider := by rw [read_eq]
  have hobserve : (observe op evidenceId).outcome (P, E) =
      ((recordText op evidenceId e E).2,
        (P.touch op.provider, (recordText op evidenceId e E).1)) := by
    rw [observe, Worker.outcome_bind_of_ok (a := e) (t := (P.touch op.provider, E))
      (by rw [outcome_onProvider, readText_of_encodable hop, hread, hstate]), outcome_onEvidence]
  rcases recordText_readback hop hcon hE hid hrev hd hobs with ⟨hcond, ⟨R, hR⟩, heq⟩ | ⟨hnot, heq⟩
  · have hgrows : Grows P (P.touch op.provider) := hstate ▸ grows_perform (.read op) P
    have hself : OwnCall op (some op) := fun o ho _ => (Option.some.inj ho).symm
    have hcon' : Consistent op (P.touch op.provider) E :=
      hstate ▸ hcon.provider_step (c := .read op) hself
    have hobs' := hobs.of_grows hcon.wellFormed hgrows
    obtain ⟨hRrev, hRd⟩ := fields_of_record hR
    obtain hrevision := Option.some.inj (hrev.symm.trans hRrev)
    obtain rfl := Except.ok.inj (hd.symm.trans hRd)
    refine Or.inl ⟨hcond, R, (record op evidenceId e E).1, by rw [hobserve, heq, hR], ?_, ?_,
      current_eq_ok.2 (head_of_record hR), hrevision.symm, hrevision ▸ hobs'⟩
    · refine hcon'.evidence_step (c := .record op evidenceId e) hself fun id e' he => ?_
      cases he
      exact ⟨_, _, hrev, hd, hobs'⟩
    · have hstored : HeadsEncode (recordText op evidenceId e E).1 :=
        headsEncode_preserved (.record op evidenceId e) E hE
      rwa [heq] at hstored
  · exact Or.inr ⟨hnot, _, _, by rw [hobserve, heq]⟩

/-- An operation with a surrogate is not observed. -/
theorem observe_not_encodes {op : TextOperation} (evidenceId : String) {P : ProviderDb}
    (E : EvidenceDb) (hP : EffectsEncode P) (hop : ¬op.Encodes) :
    ∃ e t, (observe op.code evidenceId).outcome (P, E) = (.error e, t) := by
  rcases hread : (readText op.code P).2 with e | evidence
  · exact ⟨e, _, Worker.outcome_bind_of_error (t := ((readText op.code P).1, E)) _
      (by rw [outcome_onProvider, hread])⟩
  · exact absurd (encodes_of_readText hP hread) hop

/-- A retry authorised at the current revision commits, if its identity is free. -/
theorem conditionalApply_commits {op : ExternalOperation} {d : ReconciliationDecision}
    {P : ProviderDb} (hauth : Authorizes d op (P.revision op.provider))
    (hfree : ∀ e ∈ P.effects.rows, e.identity ≠ op.identity) :
    ∃ u P', conditionalApply op d P = (P', .ok u) ∧ Commits P P' op d u := by
  rcases conditionalApply_cases op d P with ⟨e, happ, -⟩ | h
  · have hok : applyConditionalRetry op d (P.state op.provider) =
        .ok ((P.state op.provider).commit op) :=
      applyConditionalRetry_eq_ok.2
        ⟨hauth, fun e he => hfree e (ProviderDb.mem_orderedEffects.1 he).1, rfl⟩
    rw [happ] at hok
    cases hok
  · exact h

/-- A retry that the head permits at the current revision commits, and leaves the head of the
revision before it. -/
theorem retry_outcome {op : ExternalOperation} {P : ProviderDb} {E : EvidenceDb}
    {R : ReconciliationEvidenceRecord} (hop : Encodable op) (hcon : Consistent op P E)
    (hcur : current op E = .ok R) (hrev : R.revision = P.revision op.provider)
    (hdec : R.decision = retryExactOperation op (P.revision op.provider))
    (habsent : op ∉ P.effects.rows) :
    ∃ u P', (onProvider (conditionalApplyText op R.decision)).outcome (P, E) = (.ok u, (P', E)) ∧
      Consistent op P' E ∧ P'.effects.rows = P.effects.rows ++ [op] ∧ ¬HeadIsCurrent op P' E := by
  have hauth : Authorizes R.decision op (P.revision op.provider) := by
    rw [hdec]
    exact retryExactOperation_authorizes op _
  obtain ⟨u, P', happly, hcom⟩ := conditionalApply_commits hauth fun e he hid =>
    habsent (hcon.ownIdentity e he hid ▸ he)
  have hself : OwnCall op (some op) := fun o ho _ => (Option.some.inj ho).symm
  have hcon' := hcon.provider_step (c := .conditionalApply op R.decision) hself
  rw [show (providerMachine.perform (.conditionalApply op R.decision) P).1 = P' from
    congrArg Prod.fst happly] at hcon'
  refine ⟨u, P', ?_, hcon', hcom.effects, ?_⟩
  · rw [outcome_onProvider, conditionalApplyText_of_encodable hop, happly]
  · rintro ⟨g, hg, hgrev⟩
    obtain rfl := Option.some.inj (hg.symm.trans (current_eq_ok.1 hcur).1)
    rw [hcom.revision, if_pos rfl, ← hrev] at hgrev
    omega

/-- From consistent databases the accepting head is completed. -/
theorem markReconciled_completes {op : ExternalOperation} {P : ProviderDb} {E : EvidenceDb}
    {R : ReconciliationEvidenceRecord} (hcon : Consistent op P E) (hcur : current op E = .ok R)
    (hacc : R.decision = acceptRemoteCommit) :
    ∃ c E', markReconciled op R.evidenceId R.decision E = (E', .ok c) ∧
      E'.completionOf op.identity = some c := by
  obtain ⟨hold, hnew⟩ := markReconciled_current hcur (by rw [hacc]; rfl) (by rw [hacc]; rfl)
  rcases hc : E.completionOf op.identity with _ | c
  · obtain ⟨E', hdone, hm⟩ := hnew hc
    exact ⟨_, E', hm, by rw [hdone.completionOf, if_pos rfl]⟩
  · exact ⟨c, E, hold c hc (hcon.completed c hc).1, hc⟩

/-! ## Convergence -/

/-- Observing, and retrying and observing again if the decision says so, from consistent
databases gives the accepting head, unless an evidence id with a surrogate would be stored. -/
theorem settle_outcome {op : ExternalOperation} {evidenceId againId : String} {P : ProviderDb}
    {E : EvidenceDb} (hop : Encodable op) (hcon : Consistent op P E) (hE : HeadsEncode E)
    (hid : isBlank evidenceId = false) (hagain : isBlank againId = false) :
    ((TextEncodes evidenceId ∨ HeadIsCurrent op P E) ∧
        (op ∈ P.effects.rows ∨ TextEncodes againId)) ∧
        (∃ R P' E', (reconcileLoop op evidenceId againId).outcome (P, E) =
            (onEvidence (markReconciledText op R.evidenceId R.decision)).outcome (P', E') ∧
          Consistent op P' E' ∧ HeadsEncode E' ∧ current op E' = .ok R ∧
          R.decision = acceptRemoteCommit ∧ op ∈ P'.effects.rows ∧
          (P'.effects.rows = P.effects.rows ∨ P'.effects.rows = P.effects.rows ++ [op])) ∨
      ¬((TextEncodes evidenceId ∨ HeadIsCurrent op P E) ∧
          (op ∈ P.effects.rows ∨ TextEncodes againId)) ∧
        ∃ e t, (reconcileLoop op evidenceId againId).outcome (P, E) = (.error e, t) := by
  unfold reconcileLoop
  rcases observe_outcome hop hcon hE hid with
    ⟨hcond, R, E₁, hobserve, hcon₁, hE₁, hcur, hrev, hobs⟩ | ⟨hnot, e, t, hobserve⟩
  · rw [Worker.outcome_bind_of_ok hobserve]
    rw [hrev, ← ProviderDb.revision_touch P op.provider] at hobs
    rcases hobs.decision with ⟨hheld, hdec⟩ | ⟨hnot, hdec⟩
    · refine Or.inl ⟨⟨hcond, Or.inl hheld.mem⟩, R, _, E₁, ?_, hcon₁, hE₁, hcur, hdec, hheld.mem,
        Or.inl rfl⟩
      rw [if_neg (by simp [hdec]), Worker.outcome_bind_of_ok (outcome_pure R _)]
    -- the provider lacks the operation, so the retry commits and the second readback finds it
    · have habsent : op ∉ (P.touch op.provider).effects.rows := by
        rwa [heldAt_revision hcon₁.wellFormed] at hnot
      obtain ⟨u, P₂, happlied, hcon₂, hrows, hstale⟩ := retry_outcome hop hcon₁ hcur
        (hrev.trans (ProviderDb.revision_touch P op.provider _).symm) hdec habsent
      have hop₂ : op ∈ P₂.effects.rows := by simp [hrows]
      rw [if_pos (by simp [hdec])]
      rcases observe_outcome hop hcon₂ hE₁ hagain with
        ⟨hcond', R', E₃, hobserve', hcon₃, hE₃, hcur', hrev', hobs'⟩ | ⟨hnot', e, t, hobserve'⟩
      · refine Or.inl ⟨⟨hcond, Or.inr (hcond'.resolve_right hstale)⟩, R', _, E₃, ?_, hcon₃, hE₃,
          hcur', ?_, hop₂, Or.inr hrows⟩
        · rw [Worker.outcome_bind_of_ok happlied, Worker.outcome_bind_of_ok hobserve']
        · rw [hrev', ← ProviderDb.revision_touch P₂ op.provider] at hobs'
          rcases hobs'.decision with ⟨-, h⟩ | ⟨h, -⟩
          · exact h
          · exact absurd ((heldAt_revision hcon₃.wellFormed op).2 hop₂) h
      · refine Or.inr ⟨?_, e, t, ?_⟩
        · rintro ⟨-, hmem | hencodes⟩
          · exact habsent hmem
          · exact hnot' (Or.inl hencodes)
        · rw [Worker.outcome_bind_of_ok happlied]
          exact Worker.outcome_bind_of_error _ hobserve'
  · exact Or.inr ⟨fun h => hnot h.1, e, t, Worker.outcome_bind_of_error _ hobserve⟩

/-- From every state that workers reach who record `op` with its own readbacks only, the
loop raises nothing, commits `op` at most once and ends with `op` completed and stored
once, if and only if `op` has no surrogates, the first evidence id has none or the head is of the
current revision, and the second id has none or `op` is stored already. -/
theorem reconcileLoop_converges_iff (op : TextOperation) (cs : List (Call × Machine.Fate))
    (hcs : textMachine.crashing.Guarded (Genuine op.code) (.empty, .empty) cs)
    (evidenceId againId : PyText) (hid : evidenceId.blank = false)
    (hagain : againId.blank = false) :
    let s := textMachine.crashing.after (.empty, .empty) cs
    (∃ c s', (reconcileLoop op.code evidenceId.code againId.code).outcome s = (.ok c, s') ∧
      s'.2.completionOf op.code.identity = some c ∧
      (s'.1.effects.select fun e => e.identity = op.code.identity) = [op.code] ∧
      (s'.1.effects.rows = s.1.effects.rows ∨
        s'.1.effects.rows = s.1.effects.rows ++ [op.code])) ↔
    op.Encodes ∧ (evidenceId.Encodes ∨ HeadIsCurrent op.code s.1 s.2) ∧
      (op.code ∈ s.1.effects.rows ∨ againId.Encodes) := by
  intro s
  obtain ⟨ds, hds, (hstate : _ = s), -⟩ := exists_reconcilerRun hcs
  obtain ⟨hcon, -⟩ := consistent_after hds
  rw [hstate] at hcon
  obtain ⟨hP, hE⟩ : EffectsEncode s.1 ∧ HeadsEncode s.2 := encodable_after cs
  by_cases hop : op.Encodes
  · rw [← textEncodes_code, ← textEncodes_code, and_iff_right hop]
    rcases settle_outcome (encodable_iff.2 hop) hcon hE ((isBlank_code evidenceId).trans hid)
      ((isBlank_code againId).trans hagain) with
      ⟨hcond, R, P', E', hloop, hcon', hE', hcur, hacc, hmem, hrows⟩ | ⟨hnot, e, t, hloop⟩
    · refine iff_of_true ?_ hcond
      obtain ⟨c, E'', hmark, hc⟩ := markReconciled_completes hcon' hcur hacc
      refine ⟨c, (P', E''), ?_, hc, ?_, hrows⟩
      · rw [hloop, outcome_onEvidence, markReconciledText_of_encodable (encodable_iff.2 hop) hE',
          hmark]
      · rw [select_identity hcon'.ownIdentity, if_pos hmem]
    · refine iff_of_false ?_ hnot
      rintro ⟨c, s', hc, -⟩
      cases hloop.symm.trans hc
  · refine iff_of_false ?_ fun h => hop h.1
    rintro ⟨c, s', hc, -⟩
    obtain ⟨e, t, hobserve⟩ := observe_not_encodes evidenceId.code s.2 hP hop
    cases (Worker.outcome_bind_of_error _ hobserve).symm.trans hc

end loop

/-- The readback of the sample operation is recorded, and the reply of the retry that it permits
is lost. -/
def unacknowledgedRun : List (Call × Machine.Fate) :=
  letI := sampleHashlib
  heldReadbacksRun ++ [(.inl (.conditionalApply sampleTexts.code
    (retryExactOperation sampleOperation 0)), .unacknowledged)]

/-- The loop after the lost reply. -/
theorem reconcileLoop_converges_iff_sample :
    letI := sampleHashlib
    let s := textMachine.crashing.after (.empty, .empty) unacknowledgedRun
    ∃ c s', (reconcileLoop sampleTexts.code (code (scalars "again"))
        (code (scalars "again"))).outcome s = (.ok c, s') ∧
      s'.2.completionOf sampleTexts.code.identity = some c ∧
      (s'.1.effects.select fun e => e.identity = sampleTexts.code.identity) = [sampleTexts.code] ∧
      (s'.1.effects.rows = s.1.effects.rows ∨
        s'.1.effects.rows = s.1.effects.rows ++ [sampleTexts.code]) := by
  let := sampleHashlib
  refine (reconcileLoop_converges_iff sampleTexts unacknowledgedRun
    (heldReadbacksRun_genuine.concat (.of_self rfl fun _ _ h => by cases h)) (scalars "again")
    (scalars "again") (by decide) (by decide)).2 ⟨by decide, Or.inl (by decide), Or.inl (by decide)⟩

/-- From empty stores the loop raises for the surrogate of a payload, and for the surrogate of an
evidence id. -/
theorem reconcileLoop_surrogates :
    letI := sampleHashlib
    ((reconcileLoop (sampleTexts.withPayload [.surrogate 0]).code (code (scalars "read-0"))
      (code (scalars "read-1"))).outcome (.empty, .empty)).1 = .error surrogatesNotAllowed ∧
    ((reconcileLoop sampleTexts.code (code [.surrogate 0])
      (code (scalars "read-1"))).outcome (.empty, .empty)).1 = .error surrogatesNotAllowed := by
  decide

end Reconciler

end ReliabilityLab
