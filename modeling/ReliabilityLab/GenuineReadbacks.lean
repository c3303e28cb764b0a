import ReliabilityLab.ReconcilerTexts

/-!
# Genuine readbacks

Readbacks of `op` that workers hold for any time and record in any order. What a
readback at revision `n` says is a fact about the provider for good, and so is what a
head or completion of `op` says, so the two cannot contradict each other : recording a
readback gives a record, or finds that the store has moved on
(`record_of_readback`).

A head keeps its record while its revision is the same (`later_of_append`), so a second
readback of one revision is given the record of the first
(`record_same_revision`).

With any texts, an operation that was read has no surrogates (`encodes_of_returned`), so only the
evidence id can be refused : when it is blank, or when it has a surrogate and would be stored
(`genuineReadbacks`).
-/

set_option linter.unusedSectionVars false

open Serial Keyed

namespace ReliabilityLab

namespace Reconciler

open PyText VersionedProviderStore ReconciliationEvidenceStore

section readbacks

variable [Hashlib]

/-! ## One `record` -/

/-- The evidence store has moved on. -/
def Superseded {α : Type} (reply : Except Raised α) : Prop :=
  ∃ message, reply = .error ⟨.supersededReconciliationDecision, message⟩

/-- A completion of `op` does not conflict with an observation of `op`. -/
theorem checkCompletion_observed {op : ExternalOperation} {P : ProviderDb} {E : EvidenceDb}
    (hcon : Consistent op P E) (candidate : ReconciliationEvidenceRecord) :
    checkCompletion op candidate (E.completionOf op.identity) = .ok () ∨
      Superseded (checkCompletion op candidate (E.completionOf op.identity)) := by
  rcases hc : E.completionOf op.identity with _ | c
  · exact Or.inl rfl
  · have heff : ¬c.effectSha256 ≠ op.effectSha256 := not_not.2 (hcon.completed c hc).1
    simp only [checkCompletion]
    rw [raiseIf_neg heff, ok_bind]
    by_cases hretry : candidate.decision.shouldRetry = true
    · exact Or.inr ⟨_, raiseIf_pos hretry _⟩
    · exact Or.inl (raiseIf_neg hretry _)

/-- A head of `op` does not conflict with an observation of `op`. -/
theorem checkHead_observed {op : ExternalOperation} {P : ProviderDb} {E : EvidenceDb}
    (hcon : Consistent op P E) {candidate : ReconciliationEvidenceRecord}
    (heff : candidate.effectSha256 = op.effectSha256)
    (hobs : Observed P op candidate.revision candidate.decision) :
    (∃ found, checkHead op candidate (E.head op.identity) = .ok found) ∨
      Superseded (checkHead op candidate (E.head op.identity)) := by
  rcases hh : E.head op.identity with _ | h
  · exact Or.inl ⟨none, rfl⟩
  obtain ⟨hheff, hhobs⟩ := hcon.head h hh
  rcases lt_trichotomy candidate.revision h.revision with hlt | heq | hgt
  · refine Or.inr ⟨"provider evidence is older than the persisted reconciliation head", ?_⟩
    simp only [checkHead]
    rw [raiseIf_neg (not_not.2 hheff), ok_bind, raiseIf_pos hlt]
    rfl
  -- both are observations at one revision, so the decisions agree
  · have hdec : candidate.decision = h.decision := by
      rw [← heq] at hhobs
      exact hobs.decision_unique hhobs
    exact Or.inl ⟨some h, checkHead_eq_some.2 ⟨rfl, hheff, heq, heff.trans hheff.symm, hdec⟩⟩
  · refine Or.inl ⟨none, checkHead_eq_none.2 fun g hg => ?_⟩
    obtain rfl := Option.some.inj hg
    exact ⟨hheff, hgt⟩

/-- From consistent databases a readback of `op` is recorded, or superseded. -/
theorem record_of_readback {op : ExternalOperation} {evidenceId : String} {P : ProviderDb}
    {E : EvidenceDb} {e : ProviderEvidence} (hcon : Consistent op P E) (hread : Readback P op e)
    (hid : isBlank evidenceId = false) :
    (∃ R, (record op evidenceId e E).2 = .ok R) ∨ Superseded (record op evidenceId e E).2 := by
  obtain ⟨n, d, hn, hd, hobs⟩ := hread
  let candidate : ReconciliationEvidenceRecord :=
    ⟨op.provider, op.operationId, evidenceId, n, op.effectSha256, d⟩
  have hcand : candidateRecord op evidenceId e = .ok candidate :=
    candidateRecord_eq_ok.2 ⟨hid, n, d, hn, hd, rfl⟩
  have hobs' : Observed P op candidate.revision candidate.decision := hobs
  rcases checkCompletion_observed hcon candidate with hcomp | ⟨message, hcomp⟩
  · rcases checkHead_observed hcon rfl hobs' with ⟨found, hhead⟩ | ⟨message, hhead⟩
    · exact Or.inl ⟨_, congrArg Prod.snd (record_of_checks hcand hcomp hhead)⟩
    · exact Or.inr ⟨message, congrArg Prod.snd (record_of_head_error hcand hcomp hhead)⟩
  · exact Or.inr ⟨message, congrArg Prod.snd (record_of_completion_error hcand hcomp)⟩

/-- A blank evidence id is refused before anything is read. -/
theorem record_blank (op : ExternalOperation) {evidenceId : String} (e : ProviderEvidence)
    (E : EvidenceDb) (hid : isBlank evidenceId = true) :
    (record op evidenceId e E).2 =
      .error ⟨.valueError, "evidence_id must be a nonempty string"⟩ := by
  simp [record, candidateRecord, hid, raiseIf]

/-! ## Two readbacks of one revision -/

/-- The record of a readback carries its revision and decision. -/
theorem fields_of_record {op : ExternalOperation} {evidenceId : String} {E : EvidenceDb}
    {e : ProviderEvidence} {R : ReconciliationEvidenceRecord}
    (hR : (record op evidenceId e E).2 = .ok R) :
    e.readbackRevision = some R.revision ∧ reconcileLostAck op e = .ok R.decision := by
  rcases record_cases op evidenceId e E with ⟨err, hr⟩ | ⟨cand, found, hcand, -, hhead, hr⟩ <;>
    rw [hr] at hR
  · cases hR
  obtain ⟨-, -, -, hrev, hdec⟩ := candidate_fields hcand
  obtain rfl := Except.ok.inj hR
  rcases found with _ | h
  · exact ⟨hrev, hdec⟩
  · obtain ⟨-, -, hrev', -, hdec'⟩ := checkHead_eq_some.1 hhead
    exact ⟨hrev' ▸ hrev, hdec' ▸ hdec⟩

/-- A head of `op` at the readback's revision is what recording the readback gives, and
the store is left alone. -/
theorem record_same_revision {op : ExternalOperation} {evidenceId : String} {P : ProviderDb}
    {E : EvidenceDb} {e : ProviderEvidence} {R : ReconciliationEvidenceRecord}
    (hcon : Consistent op P E) (hsound : Sound E) (hread : Readback P op e)
    (hid : isBlank evidenceId = false) (hhead : E.head op.identity = some R)
    (hrev : e.readbackRevision = some R.revision) :
    record op evidenceId e E = (E, .ok R) := by
  obtain ⟨n, d, hn, hd, hobs⟩ := hread
  obtain rfl : n = R.revision := Option.some.inj (hn.symm.trans hrev)
  obtain ⟨heff, hhobs⟩ := hcon.head R hhead
  obtain rfl := hobs.decision_unique hhobs
  have hcand : candidateRecord op evidenceId e =
      .ok ⟨op.provider, op.operationId, evidenceId, R.revision, op.effectSha256, R.decision⟩ :=
    candidateRecord_eq_ok.2 ⟨hid, _, _, hn, hd, rfl⟩
  refine record_of_checks hcand (checkCompletion_eq_ok.2 fun c hc => ?_)
    (checkHead_eq_some.2 ⟨hhead, heff, rfl, heff.symm, rfl⟩)
  -- a completed operation has an accepting head
  obtain ⟨h, hh, hheff, hacc, -⟩ := hsound.completed _ c hc
  obtain rfl : h = R := Option.some.inj (hh.symm.trans hhead)
  exact ⟨hheff.symm.trans heff, by rw [hacc]; rfl⟩

/-! ## Over runs -/

/-- `record` gave `R` for the readback `e` of `op`. -/
def Recorded (h : History) (op : ExternalOperation) (e : ProviderEvidence)
    (R : ReconciliationEvidenceRecord) : Prop :=
  ∃ evidenceId fate,
    ((.inr (.record op evidenceId e), fate), some (.inr (.ok (.head R)))) ∈ h

theorem sound_reconciler (cs : List (Call × Machine.Fate)) :
    Sound (reconcilerMachine.crashing.after (.empty, .empty) cs).2 := by
  have hpres : reconcilerMachine.Preserves fun s => Sound s.2 := by
    rintro (c | c) s hs
    · exact hs
    · exact sound_preserved c s.2 hs
  exact hpres.crashing.after sound_empty cs

/-- Later states of a run have later evidence. -/
theorem later_of_append (s : ProviderDb × EvidenceDb) (cs : List (Call × Machine.Fate)) :
    Later s.2 (reconcilerMachine.crashing.after s cs).2 := by
  let R : ProviderDb × EvidenceDb → ProviderDb × EvidenceDb → Prop := fun s t => Later s.2 t.2
  have hstep : ∀ c t, R t (reconcilerMachine.crashing.perform c t).1 := by
    rintro ⟨c, fate⟩ t
    refine Machine.crashing_rel (R := R) (.refl t.2) (c, fate) ?_
    rcases c with c | c
    · exact Later.refl t.2
    · exact later_perform c t.2
  exact Machine.Preserves.rel_after (R := R) (I := fun _ => True) (fun _ _ _ => trivial)
    (fun s => .refl s.2) .trans (fun c t _ => hstep c t) trivial cs

/-- A record that a call gave is the head, or the head is of a greater revision. -/
theorem head_of_recorded {op : ExternalOperation} {e : ProviderEvidence}
    {R : ReconciliationEvidenceRecord} {cs : List (Call × Machine.Fate)}
    (h : Recorded (reconcilerMachine.crashing.history (.empty, .empty) cs) op e R) :
    e.readbackRevision = some R.revision ∧
      ∃ g, (reconcilerMachine.crashing.after (.empty, .empty) cs).2.head op.identity = some g ∧
        R.revision ≤ g.revision ∧ (g.revision = R.revision → g = R) := by
  obtain ⟨evidenceId, fate, hmem⟩ := h
  obtain ⟨pre, post, rfl, hreply⟩ := (Machine.mem_history _).1 hmem
  have hstep := reconcilerMachine.crashing_eq_some hreply.symm
  set s := reconcilerMachine.crashing.after (.empty, .empty) pre
  have hR : (record op evidenceId e s.2).2 = .ok R := reply_record (Sum.inr.inj hstep.2).symm
  have hhead := (head_of_record hR).1
  have hlater := later_of_append
    (reconcilerMachine.crashing.perform (.inr (.record op evidenceId e), fate) s).1 post
  rw [hstep.1] at hlater
  obtain ⟨g, hg, -, hle, hsame⟩ := hlater.head _ R hhead
  refine ⟨(fields_of_record hR).1, g, ?_, hle, hsame⟩
  rw [Machine.after_append, Machine.after_cons, hstep.1]
  exact hg

/-- Once a readback is recorded, another one of its revision is given the record and changes
nothing. -/
theorem record_again {op : ExternalOperation} {P : ProviderDb} {E : EvidenceDb}
    {e₁ e₂ : ProviderEvidence} {id₁ id₂ : String} {R : ReconciliationEvidenceRecord}
    (hcon : Consistent op P E) (hsound : Sound E) (hread₁ : Readback P op e₁)
    (hread₂ : Readback P op e₂) (hrev : e₁.readbackRevision = e₂.readbackRevision)
    (hid : isBlank id₂ = false) (hR : (record op id₁ e₁ E).2 = .ok R) :
    record op id₂ e₂ (record op id₁ e₁ E).1 = ((record op id₁ e₁ E).1, .ok R) := by
  have hown : OwnCall op (some op) := fun o ho _ => (Option.some.inj ho).symm
  have hcon₁ : Consistent op P (record op id₁ e₁ E).1 :=
    hcon.evidence_step (c := .record op id₁ e₁) hown fun id e he => by
      cases he
      exact hread₁
  have hsound₁ : Sound (record op id₁ e₁ E).1 := sound_preserved (.record op id₁ e₁) E hsound
  exact record_same_revision hcon₁ hsound₁ hread₂ hid (head_of_record hR).1
    (hrev.symm.trans (fields_of_record hR).1)

/-- A readback of a recorded revision is given the record and changes nothing, until a newer head
supersedes it. -/
theorem record_after_recorded {op : ExternalOperation} {cs : List (Call × Machine.Fate)}
    {P : ProviderDb} {e₁ e₂ : ProviderEvidence} {id₂ : String} {R : ReconciliationEvidenceRecord}
    (hcon : Consistent op P (reconcilerMachine.crashing.after (.empty, .empty) cs).2)
    (hread₂ : Readback P op e₂) (hrev : e₁.readbackRevision = e₂.readbackRevision)
    (hid : isBlank id₂ = false)
    (hrec : Recorded (reconcilerMachine.crashing.history (.empty, .empty) cs) op e₁ R) :
    let E := (reconcilerMachine.crashing.after (.empty, .empty) cs).2
    record op id₂ e₂ E = (E, .ok R) ∨
      (∃ g, E.head op.identity = some g ∧ R.revision < g.revision) ∧
        Superseded (record op id₂ e₂ E).2 := by
  intro E
  obtain ⟨hR, g, hg, hle, hsame⟩ := head_of_recorded hrec
  rcases eq_or_lt_of_le hle with heq | hlt
  · obtain rfl := hsame heq.symm
    exact Or.inl (record_same_revision hcon (sound_reconciler cs) hread₂ hid hg
      (hrev.symm.trans hR))
  · refine Or.inr ⟨⟨g, hg, hlt⟩, ?_⟩
    rcases record_of_readback hcon hread₂ hid with ⟨R', hR'⟩ | hsup
    -- a record would be the head, which is of a greater revision
    · have hrev' := (fields_of_record hR').1
      have := Option.some.inj (hrev'.symm.trans (hrev.symm.trans hR))
      obtain ⟨g', hg', -, hle', -⟩ := (later_perform (.record op id₂ e₂) E).head _ g hg
      obtain rfl := Option.some.inj (hg'.symm.trans (head_of_record hR').1)
      omega
    · exact hsup

/-! ## Any texts -/

/-- An operation that was read has no surrogates. -/
theorem encodes_of_returned {op : TextOperation} {cs : List (Call × Machine.Fate)}
    {e : ProviderEvidence}
    (h : Returned (textMachine.crashing.history (.empty, .empty) cs) op.code e) :
    op.Encodes := by
  obtain ⟨pre, post, -, hreply⟩ := (Machine.mem_history _).1 h
  have hstep := (textMachine.crashing_eq_some hreply.symm).2
  obtain ⟨e', he', -⟩ := map_eq_ok.1 (Sum.inl.inj hstep).symm
  exact encodes_of_readText (encodable_after pre).1 he'

/-- A record that is the head is given with any evidence id. -/
theorem recordText_of_head {op : ExternalOperation} {evidenceId : String} {E : EvidenceDb}
    {e : ProviderEvidence} {R : ReconciliationEvidenceRecord} (hop : Encodable op)
    (hE : HeadsEncode E) (hR : record op evidenceId e E = (E, .ok R)) :
    recordText op evidenceId e E = (E, .ok R) := by
  have hhead := (head_of_record (congrArg Prod.snd hR)).1
  rcases recordText_of_encodable hop evidenceId e E with h | ⟨hid, -, R', hR', rfl⟩
  · exact h.trans hR
  · obtain rfl := Except.ok.inj ((congrArg Prod.snd hR).symm.trans hR')
    rw [hR] at hhead
    exact absurd (hE _ R hhead) hid

/-- A superseded readback is refused with any evidence id. -/
theorem recordText_of_superseded {op : ExternalOperation} {evidenceId : String} {E : EvidenceDb}
    {e : ProviderEvidence} (hop : Encodable op) (h : Superseded (record op evidenceId e E).2) :
    Superseded (recordText op evidenceId e E).2 := by
  obtain ⟨message, hmessage⟩ := h
  rcases recordText_of_encodable hop evidenceId e E with heq | ⟨-, -, R, hR, -⟩
  · exact ⟨message, heq ▸ hmessage⟩
  · cases hmessage.symm.trans hR

/-- The exceptions that `record` reserves for conflicting or undecidable evidence. -/
def conflictErrors : List ErrorClass :=
  [.evidenceLineageConflict, .reconciliationConflict, .remoteStateAmbiguous, .retrySafetyUnknown]

/-- A readback is recorded under an evidence id without surrogates, or superseded. -/
theorem recordText_of_readback {op : ExternalOperation} {evidenceId : String} {P : ProviderDb}
    {E : EvidenceDb} {e : ProviderEvidence} (hop : Encodable op) (hcon : Consistent op P E)
    (hread : Readback P op e) (hid : isBlank evidenceId = false)
    (hencodes : TextEncodes evidenceId) :
    (∃ R, (recordText op evidenceId e E).2 = .ok R) ∨
      Superseded (recordText op evidenceId e E).2 := by
  have heq : recordText op evidenceId e E = record op evidenceId e E := by
    rcases recordText_of_encodable hop evidenceId e E with heq | ⟨hnot, -⟩
    · exact heq
    · exact absurd hencodes hnot
  rw [heq]
  exact record_of_readback hcon hread hid

theorem recordText_blank {op : ExternalOperation} {evidenceId : String} (hop : Encodable op)
    (e : ProviderEvidence) (E : EvidenceDb) (hid : isBlank evidenceId = true) :
    (recordText op evidenceId e E).2 =
      .error ⟨.valueError, "evidence_id must be a nonempty string"⟩ := by
  have hraise := record_blank op e E hid
  rcases recordText_of_encodable hop evidenceId e E with heq | ⟨-, -, R, hR, -⟩
  · rw [heq, hraise]
  · cases hraise.symm.trans hR

/-- No evidence id makes a readback conflict. -/
theorem recordText_error {op : ExternalOperation} {evidenceId : String} {P : ProviderDb}
    {E : EvidenceDb} {e : ProviderEvidence} {err : Raised} (hop : Encodable op)
    (hcon : Consistent op P E) (hread : Readback P op e)
    (herr : (recordText op evidenceId e E).2 = .error err) : err.error ∉ conflictErrors := by
  rcases hid : isBlank evidenceId with _ | _
  · rcases recordText_of_encodable hop evidenceId e E with heq | ⟨-, heq, -⟩ <;> rw [heq] at herr
    · rcases record_of_readback hcon hread hid with ⟨R, hR⟩ | ⟨message, hR⟩
      · cases herr.symm.trans hR
      · obtain rfl := Except.error.inj (herr.symm.trans hR)
        simp [conflictErrors]
    · obtain rfl := Except.error.inj herr
      simp [surrogatesNotAllowed, conflictErrors]
  · obtain rfl := Except.error.inj (herr.symm.trans (recordText_blank hop e E hid))
    simp [conflictErrors]

/-- In every state that workers reach who record `op` with its own readbacks only, a
readback of `op` that was ever returned is recorded under any nonblank evidence id without
surrogates, or superseded; a blank id is refused, and no id meets a conflict. Two readbacks of one
revision have one decision; once the first is recorded, the second is given its record and changes
nothing, until a newer head supersedes it. -/
theorem genuineReadbacks (op : TextOperation) (cs : List (Call × Machine.Fate))
    (hcs : textMachine.crashing.Guarded (Genuine op.code) (.empty, .empty) cs) :
    let s := textMachine.crashing.after (.empty, .empty) cs
    let h := textMachine.crashing.history (.empty, .empty) cs
    (∀ e, Returned h op.code e → ∀ evidenceId : PyText,
        (evidenceId.blank = false → evidenceId.Encodes →
          (∃ R, (recordText op.code evidenceId.code e s.2).2 = .ok R) ∨
            Superseded (recordText op.code evidenceId.code e s.2).2) ∧
        (evidenceId.blank = true → (recordText op.code evidenceId.code e s.2).2 =
          .error ⟨.valueError, "evidence_id must be a nonempty string"⟩) ∧
        ∀ err, (recordText op.code evidenceId.code e s.2).2 = .error err →
          err.error ∉ conflictErrors) ∧
      ∀ e₁ e₂, Returned h op.code e₁ → Returned h op.code e₂ →
        e₁.readbackRevision = e₂.readbackRevision →
        (∃ d, reconcileLostAckText op.code e₁ = .ok d ∧ reconcileLostAckText op.code e₂ = .ok d) ∧
        (∀ (id₁ id₂ : PyText) R, id₂.blank = false →
          (recordText op.code id₁.code e₁ s.2).2 = .ok R →
          recordText op.code id₂.code e₂ (recordText op.code id₁.code e₁ s.2).1 =
            ((recordText op.code id₁.code e₁ s.2).1, .ok R)) ∧
        ∀ (id₂ : PyText) R, id₂.blank = false → Recorded h op.code e₁ R →
          recordText op.code id₂.code e₂ s.2 = (s.2, .ok R) ∨
            (∃ g, s.2.head op.code.identity = some g ∧ R.revision < g.revision) ∧
              Superseded (recordText op.code id₂.code e₂ s.2).2 := by
  intro s h
  obtain ⟨ds, hds, (hstate : _ = s), hmem⟩ := exists_reconcilerRun hcs
  obtain ⟨hcon, hl⟩ := consistent_after hds
  have hheads : HeadsEncode s.2 := (encodable_after cs).2
  have hreadback : ∀ e, Returned h op.code e → Readback s.1 op.code e := by
    intro e he
    rw [← hstate]
    exact hl.readback e (hmem _ ⟨_, rfl, _, rfl⟩ he)
  have hsound := sound_reconciler ds
  rw [hstate] at hcon hsound
  refine ⟨fun e he evidenceId => ?_, fun e₁ e₂ he₁ he₂ hrev => ?_⟩
  · have hop := encodable_iff.2 (encodes_of_returned he)
    have hblank := isBlank_code evidenceId
    exact ⟨fun hid hencodes => recordText_of_readback hop hcon (hreadback e he) (hblank.trans hid)
        (textEncodes_code.2 hencodes),
      fun hid => recordText_blank hop e s.2 (hblank.trans hid),
      fun err => recordText_error hop hcon (hreadback e he)⟩
  · have hop := encodable_iff.2 (encodes_of_returned he₁)
    have hread₂ := hreadback e₂ he₂
    refine ⟨?_, fun id₁ id₂ R hid hR => ?_, fun id₂ R hid hrec => ?_⟩
    · obtain ⟨n, d, hn, hd, hobs⟩ := hreadback e₁ he₁
      obtain ⟨m, d', hm, hd', hobs'⟩ := hread₂
      obtain rfl : n = m := Option.some.inj (hn.symm.trans (hrev.trans hm))
      rw [reconcileLostAckText_of_encodable hop, reconcileLostAckText_of_encodable hop]
      exact ⟨d, hd, hobs.decision_unique hobs' ▸ hd'⟩
    · have hheads₁ : HeadsEncode (recordText op.code id₁.code e₁ s.2).1 :=
        headsEncode_preserved (.record op.code id₁.code e₁) s.2 hheads
      rcases recordText_of_encodable hop id₁.code e₁ s.2 with heq | ⟨-, heq, -⟩
      · rw [heq] at hR hheads₁ ⊢
        exact recordText_of_head hop hheads₁ (record_again hcon hsound (hreadback e₁ he₁) hread₂
          hrev ((isBlank_code id₂).trans hid) hR)
      · cases hR.symm.trans (congrArg Prod.snd heq)
    · have hrec' :
          Recorded (reconcilerMachine.crashing.history (.empty, .empty) ds) op.code e₁ R := by
        obtain ⟨id, fate, hcall⟩ := hrec
        exact ⟨id, fate, hmem _ ⟨_, rfl, _, rfl⟩ hcall⟩
      have hagain := record_after_recorded (hstate.symm ▸ hcon) hread₂ hrev
        ((isBlank_code id₂).trans hid) hrec'
      rw [hstate] at hagain
      rcases hagain with hsame | ⟨hnewer, hsup⟩
      · exact Or.inl (recordText_of_head hop hheads hsame)
      · exact Or.inr ⟨hnewer, recordText_of_superseded hop hsup⟩

end readbacks

/-- The sample operation, from its texts. -/
def sampleTexts : TextOperation :=
  .ofScalars sampleOperation

/-- Two workers read the sample operation at revision 0. -/
def twoReadsRun : List (Call × Machine.Fate) :=
  [(.inl (.read sampleTexts.code), .returned), (.inl (.read sampleTexts.code), .returned)]

/-- One of them records its readback. -/
def heldReadbacksRun : List (Call × Machine.Fate) :=
  twoReadsRun ++ [(.inr (.record sampleTexts.code "worker-a" (sampleAbsent 0)), .returned)]

theorem twoReadsRun_genuine :
    letI := sampleHashlib
    textMachine.crashing.Guarded (Genuine sampleTexts.code) (.empty, .empty) twoReadsRun := by
  let := sampleHashlib
  refine (Machine.Guarded.nil.concat ?_).concat ?_
  · exact .of_self rfl fun _ _ h => by cases h
  · exact .of_self rfl fun _ _ h => by cases h

theorem twoReadsRun_returned :
    letI := sampleHashlib
    Returned (textMachine.crashing.history (.empty, .empty) twoReadsRun) sampleTexts.code
      (sampleAbsent 0) := by
  let := sampleHashlib
  exact (Machine.mem_history _).2 ⟨[], _, rfl, by decide⟩

theorem heldReadbacksRun_genuine :
    letI := sampleHashlib
    textMachine.crashing.Guarded (Genuine sampleTexts.code) (.empty, .empty) heldReadbacksRun := by
  let := sampleHashlib
  refine twoReadsRun_genuine.concat (.of_self rfl fun id e h => ?_)
  cases h
  exact twoReadsRun_returned

theorem genuineReadbacks_sample :
    letI := sampleHashlib
    (textMachine.crashing.Guarded (Genuine sampleTexts.code) (.empty, .empty)
      heldReadbacksRun) ∧
    ∃ R, (recordText sampleTexts.code (code (scalars "worker-b")) (sampleAbsent 0)
      (textMachine.crashing.after (.empty, .empty) heldReadbacksRun).2).2 = .ok R ∧
      R.evidenceId = "worker-a" := by
  let := sampleHashlib
  have hread : Returned (textMachine.crashing.history (.empty, .empty) heldReadbacksRun)
      sampleTexts.code (sampleAbsent 0) :=
    (Machine.mem_history _).2 ⟨[], _, rfl, by decide⟩
  have hrec : Recorded (textMachine.crashing.history (.empty, .empty) heldReadbacksRun)
      sampleTexts.code (sampleAbsent 0) ⟨"provider-a", "op-1", "worker-a", 0,
        sampleOperation.effectSha256, retryExactOperation sampleOperation 0⟩ :=
    ⟨"worker-a", .returned, (Machine.mem_history _).2 ⟨twoReadsRun, [], rfl, by decide⟩⟩
  obtain ⟨-, h⟩ := genuineReadbacks sampleTexts heldReadbacksRun heldReadbacksRun_genuine
  obtain ⟨-, -, h⟩ := h _ _ hread hread rfl
  refine ⟨heldReadbacksRun_genuine, ?_⟩
  rcases h (scalars "worker-b") _ (by decide) hrec with h | ⟨⟨g, hg, hlt⟩, -⟩
  · exact ⟨_, congrArg Prod.snd h, rfl⟩
  · have hhead : (textMachine.crashing.after (.empty, .empty) heldReadbacksRun).2.head
        sampleTexts.code.identity = some ⟨"provider-a", "op-1", "worker-a", 0,
          sampleOperation.effectSha256, retryExactOperation sampleOperation 0⟩ := by decide
    obtain rfl := Option.some.inj (hhead.symm.trans hg)
    exact absurd hlt (by decide)

/-- A blank evidence id and a surrogate are neither recorded nor superseded. -/
theorem genuineReadbacks_refused :
    letI := sampleHashlib
    let s := textMachine.crashing.after (.empty, .empty) twoReadsRun
    (textMachine.crashing.Guarded (Genuine sampleTexts.code) (.empty, .empty) twoReadsRun ∧
      Returned (textMachine.crashing.history (.empty, .empty) twoReadsRun) sampleTexts.code
        (sampleAbsent 0)) ∧
    (recordText sampleTexts.code (code []) (sampleAbsent 0) s.2).2 =
      .error ⟨.valueError, "evidence_id must be a nonempty string"⟩ ∧
    (recordText sampleTexts.code (code [.surrogate 0]) (sampleAbsent 0) s.2).2 =
      .error surrogatesNotAllowed ∧
    ∀ evidenceId ∈ [[], [.surrogate 0]],
      ¬((∃ R, (recordText sampleTexts.code (code evidenceId) (sampleAbsent 0) s.2).2 = .ok R) ∨
        Superseded (recordText sampleTexts.code (code evidenceId) (sampleAbsent 0) s.2).2) := by
  let := sampleHashlib
  intro s
  have hblank : (recordText sampleTexts.code (code []) (sampleAbsent 0) s.2).2 =
      .error ⟨.valueError, "evidence_id must be a nonempty string"⟩ := by
    decide
  have hsurrogate : (recordText sampleTexts.code (code [.surrogate 0]) (sampleAbsent 0) s.2).2 =
      .error surrogatesNotAllowed := by
    decide
  refine ⟨⟨twoReadsRun_genuine, twoReadsRun_returned⟩, hblank, hsurrogate, ?_⟩
  simp [Superseded, hblank, hsurrogate, surrogatesNotAllowed]

end Reconciler

end ReliabilityLab
