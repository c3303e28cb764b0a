import Mathlib.Data.Int.Order.Basic
import ReliabilityLab.EvidenceStore

/-!
# Evidence lineage

What holds along every run of the evidence store, whatever operations, evidence and
evidence ids its callers use, and however often they crash and reopen it.

`Sound` is an invariant : a retry head carries its own revision and digest, and a
completed identity has an accepting head no older than its completion. `Later` orders
the databases of a run : a head keeps its digest, never goes back, and is the same
record while its revision is the same; a completion row never changes. From the two,
a completed identity never has retry authority again (`evidenceInvariant`), and a
superseded retry decision never equals a later head, since it carries its revision
(`supersededAuthority`).

The accepting decision carries no revision. `bindsObservation_iff` says exactly when a
completion is bound to the observation its caller held.
-/

set_option linter.unusedSectionVars false

open Serial Keyed

namespace ReliabilityLab

namespace ReconciliationEvidenceStore

section authority

variable [Hashlib]

/-! ## The invariant -/

/-- The decision of a record accepts the commit, or is a retry at the record's own
revision and digest. -/
def Bound (h : ReconciliationEvidenceRecord) : Prop :=
  h.decision = acceptRemoteCommit ∨
    h.decision.shouldRetry = true ∧ h.decision.action = .retryExactOperation ∧
      h.decision.retryPreconditionRevision = some h.revision ∧
      h.decision.retryEffectSha256 = some h.effectSha256

/-- The heads are bound to their effects, and the completions come from heads. -/
structure Sound (db : EvidenceDb) : Prop where
  head : ∀ k h, db.head k = some h → Bound h
  completed : ∀ k c, db.completionOf k = some c → ∃ h, db.head k = some h ∧
    h.effectSha256 = c.effectSha256 ∧ h.decision = acceptRemoteCommit ∧ c.revision ≤ h.revision

theorem sound_empty : Sound .empty :=
  ⟨fun _ _ h => by simp at h, fun _ _ h => by simp at h⟩

theorem Bound.eq_accept {h : ReconciliationEvidenceRecord} (hb : Bound h)
    (hr : h.decision.shouldRetry = false) : h.decision = acceptRemoteCommit := by
  rcases hb with hb | ⟨ht, -⟩
  · exact hb
  · simp [hr] at ht

/-- The fields of a candidate. -/
theorem candidate_fields {operation : ExternalOperation} {evidenceId : String}
    {evidence : ProviderEvidence} {candidate : ReconciliationEvidenceRecord}
    (h : candidateRecord operation evidenceId evidence = .ok candidate) :
    candidate.identity = operation.identity ∧ candidate.evidenceId = evidenceId ∧
      candidate.effectSha256 = operation.effectSha256 ∧
      evidence.readbackRevision = some candidate.revision ∧
      reconcileLostAck operation evidence = .ok candidate.decision := by
  obtain ⟨-, r, d, hr, hd, rfl⟩ := candidateRecord_eq_ok.1 h
  exact ⟨rfl, rfl, rfl, hr, hd⟩

theorem candidate_bound {operation : ExternalOperation} {evidenceId : String}
    {evidence : ProviderEvidence} {candidate : ReconciliationEvidenceRecord}
    (h : candidateRecord operation evidenceId evidence = .ok candidate) : Bound candidate := by
  obtain ⟨-, -, heff, hrev, hdec⟩ := candidate_fields h
  rcases decision_cases hdec hrev with hd | hd
  · exact Or.inl hd
  · exact Or.inr (by simp [hd, heff])

theorem sound_preserved : evidenceMachine.Preserves Sound := by
  intro c db hdb
  rcases perform_cases c db with h | ⟨op, id, ev, cand, -, hcand, hcomp, hhead, h⟩ |
    ⟨op, id, d, h, -, hcur, hretry, -, hdone⟩
  · rw [h]
    exact hdb
  · have hid := (candidate_fields hcand).1
    have heff := (candidate_fields hcand).2.2.1
    rw [h]
    refine ⟨fun k g hg => ?_, fun k g hg => ?_⟩
    · rw [EvidenceDb.head_putHead] at hg
      split_ifs at hg with hk
      · exact Option.some.inj hg ▸ candidate_bound hcand
      · exact hdb.head k g hg
    · rw [EvidenceDb.completionOf_putHead] at hg
      obtain ⟨old, hold, hoeff, -, hle⟩ := hdb.completed k g hg
      rw [EvidenceDb.head_putHead]
      split_ifs with hk
      · rw [hk, hid] at hg hold
        obtain ⟨hgeff, hr⟩ := checkCompletion_eq_ok.1 hcomp g hg
        have hlt := (checkHead_eq_none.1 hhead old hold).2
        exact ⟨cand, rfl, heff.trans hgeff.symm, (candidate_bound hcand).eq_accept hr, by omega⟩
      · exact hdb.completed k g hg
  · obtain ⟨hh, heff⟩ := current_eq_ok.1 hcur
    refine ⟨fun k g hg => hdb.head k g (hdone.head k ▸ hg), fun k g hg => ?_⟩
    rw [hdone.completionOf] at hg
    rw [hdone.head]
    split_ifs at hg with hk
    · subst hk
      obtain rfl := Option.some.inj hg
      exact ⟨h, hh, heff, (hdb.head _ h hh).eq_accept hretry, le_rfl⟩
    · exact hdb.completed k g hg

theorem sound_after (cs : List (EvidenceCall × Machine.Fate)) :
    Sound (evidenceMachine.crashing.after .empty cs) :=
  sound_preserved.crashing.after sound_empty cs

/-! ## The order of a run -/

/-- What a later database keeps of an earlier one. -/
structure Later (db db' : EvidenceDb) : Prop where
  head : ∀ k h, db.head k = some h → ∃ h', db'.head k = some h' ∧
    h'.effectSha256 = h.effectSha256 ∧ h.revision ≤ h'.revision ∧
    (h'.revision = h.revision → h' = h)
  completed : ∀ k c, db.completionOf k = some c → db'.completionOf k = some c

theorem Later.refl (db : EvidenceDb) : Later db db :=
  ⟨fun _ h hh => ⟨h, hh, rfl, le_rfl, fun _ => rfl⟩, fun _ _ hc => hc⟩

theorem Later.trans {a b c : EvidenceDb} (hab : Later a b) (hbc : Later b c) : Later a c := by
  refine ⟨fun k h hh => ?_, fun k g hg => hbc.completed k g (hab.completed k g hg)⟩
  obtain ⟨h', hh', he', hr', hs'⟩ := hab.head k h hh
  obtain ⟨h'', hh'', he'', hr'', hs''⟩ := hbc.head k h' hh'
  refine ⟨h'', hh'', he''.trans he', hr'.trans hr'', fun heq => ?_⟩
  -- the revision in between is squeezed, so neither step replaced the record
  rw [hs'' (by omega), hs' (by omega)]

theorem later_perform (c : EvidenceCall) (db : EvidenceDb) :
    Later db (evidenceMachine.perform c db).1 := by
  rcases perform_cases c db with h | ⟨op, id, ev, cand, -, hcand, -, hhead, h⟩ |
    ⟨op, id, d, h, -, -, -, -, hdone⟩
  · rw [h]
    exact .refl db
  · have hid := (candidate_fields hcand).1
    have heff := (candidate_fields hcand).2.2.1
    rw [h]
    refine ⟨fun k g hg => ?_, fun k g hg => hg⟩
    rw [EvidenceDb.head_putHead]
    split_ifs with hk
    · rw [hk, hid] at hg
      obtain ⟨hgeff, hlt⟩ := checkHead_eq_none.1 hhead g hg
      exact ⟨cand, rfl, heff.trans hgeff.symm, hlt.le, fun heq => absurd heq hlt.ne'⟩
    · exact ⟨g, hg, rfl, le_rfl, fun _ => rfl⟩
  · refine ⟨fun k g hg => ⟨g, hdone.head k ▸ hg, rfl, le_rfl, fun _ => rfl⟩, fun k g hg => ?_⟩
    rw [hdone.completionOf]
    split_ifs with hk
    · rw [hk, hdone.absent] at hg
      cases hg
    · exact hg

theorem later_after (db : EvidenceDb) (cs : List (EvidenceCall × Machine.Fate)) :
    Later db (evidenceMachine.crashing.after db cs) :=
  Machine.Preserves.rel_after (I := fun _ => True) (fun _ _ _ => trivial) Later.refl Later.trans
    (fun c s _ => Machine.crashing_rel (.refl s) c (later_perform c.1 s)) trivial cs

/-! ## Retry authority -/

/-- A retry is applied only with the head's evidence id and decision. -/
theorem applyRetry_eq_ok {operation : ExternalOperation} {evidenceId : String}
    {decision : ReconciliationDecision} {s t : VersionedProviderState} {db : EvidenceDb}
    (h : applyRetry operation evidenceId decision s db = .ok t) :
    ∃ g, db.head operation.identity = some g ∧ g.evidenceId = evidenceId ∧
      g.decision = decision ∧ Authorizes decision operation s.revision := by
  obtain ⟨⟨⟩, hassert, happ⟩ := bind_eq_ok.1 h
  obtain ⟨g, hcur, hg⟩ := bind_eq_ok.1 hassert
  obtain ⟨hid, hdec⟩ : g.evidenceId = evidenceId ∧ g.decision = decision := by
    simpa only [raiseIf_eq_ok, not_or, not_not] using hg
  exact ⟨g, (current_eq_ok.1 hcur).1, hid, hdec, (applyConditionalRetry_eq_ok.1 happ).1⟩

/-- In every reachable state `db` of the store, and every later state `db'` : heads keep
their digest and their revision never decreases; a retry head carries its own revision
and digest; a completion row never changes, and its identity has an accepting head of
the same digest no older than the row; and no retry of a completed identity applies. -/
theorem evidenceInvariant (cs ds : List (EvidenceCall × Machine.Fate)) :
    let db := evidenceMachine.crashing.after .empty cs
    let db' := evidenceMachine.crashing.after .empty (cs ++ ds)
    (∀ k h, db.head k = some h → ∃ h', db'.head k = some h' ∧
        h'.effectSha256 = h.effectSha256 ∧ h.revision ≤ h'.revision) ∧
      (∀ k h, db.head k = some h →
        h.decision.shouldRetry = true ∨ h.decision.action = .retryExactOperation →
          h.decision.retryPreconditionRevision = some h.revision ∧
            h.decision.retryEffectSha256 = some h.effectSha256) ∧
      (∀ k c, db.completionOf k = some c → db'.completionOf k = some c) ∧
      (∀ k c, db.completionOf k = some c → ∃ h, db.head k = some h ∧
        h.effectSha256 = c.effectSha256 ∧ h.decision.action = .acceptRemoteCommit ∧
        h.decision.shouldRetry = false ∧ c.revision ≤ h.revision) ∧
      ∀ operation c, db.completionOf operation.identity = some c →
        ∀ evidenceId decision providerState, ∃ e,
          applyRetry operation evidenceId decision providerState db' = .error e := by
  intro db db'
  have hsound := sound_after cs
  have hlater : Later db db' := by
    have := later_after db ds
    rwa [← Machine.after_append] at this
  refine ⟨fun k h hh => ?_, fun k h hh hretry => ?_, hlater.completed, fun k c hc => ?_,
    fun operation c hc evidenceId decision providerState => ?_⟩
  · obtain ⟨h', hh', he, hr, -⟩ := hlater.head k h hh
    exact ⟨h', hh', he, hr⟩
  · rcases hsound.head k h hh with hb | ⟨-, -, hp, he⟩
    · rw [hb] at hretry
      simp at hretry
    · exact ⟨hp, he⟩
  · obtain ⟨h, hh, he, hd, hr⟩ := hsound.completed k c hc
    exact ⟨h, hh, he, by simp [hd], by simp [hd], hr⟩
  · rcases happ : applyRetry operation evidenceId decision providerState db' with e | t
    · exact ⟨e, rfl⟩
    · obtain ⟨g, hg, -, rfl, hauth⟩ := applyRetry_eq_ok happ
      obtain ⟨g', hg', -, hd, -⟩ :=
        (sound_after (cs ++ ds)).completed _ c (hlater.completed _ c hc)
      obtain rfl := Option.some.inj (hg.symm.trans hg')
      have := hauth.shouldRetry
      simp [hd] at this

/-- A retry head that was replaced by a head of greater revision never authorises a
retry again. -/
theorem supersededAuthority (pre post : List (EvidenceCall × Machine.Fate))
    (operation retried : ExternalOperation) (evidenceId : String) (evidence : ProviderEvidence)
    (fate : Machine.Fate) (old new : ReconciliationEvidenceRecord)
    (providerState updated : VersionedProviderState)
    (hold : (evidenceMachine.crashing.after .empty pre).head retried.identity = some old)
    (hretry : old.decision.shouldRetry = true)
    (hnew : (evidenceMachine.crashing.after .empty
      (pre ++ [(.record operation evidenceId evidence, fate)])).head retried.identity = some new)
    (hgreater : old.revision < new.revision) :
    applyRetry retried old.evidenceId old.decision providerState
      (evidenceMachine.crashing.after .empty
        (pre ++ [(.record operation evidenceId evidence, fate)] ++ post)) ≠ .ok updated := by
  intro happ
  obtain ⟨g, hg, -, hdec, -⟩ := applyRetry_eq_ok happ
  have hbound : ∀ cs h, (evidenceMachine.crashing.after .empty cs).head retried.identity = some h →
      h.decision.shouldRetry = true → h.decision.retryPreconditionRevision = some h.revision := by
    intro cs h hh hr
    rcases (sound_after cs).head _ h hh with hb | ⟨-, -, hp, -⟩
    · simp [hb] at hr
    · exact hp
  have hrev : some g.revision = some old.revision :=
    calc some g.revision = g.decision.retryPreconditionRevision :=
          (hbound _ g hg (hdec ▸ hretry)).symm
      _ = old.decision.retryPreconditionRevision := by rw [hdec]
      _ = some old.revision := hbound pre old hold hretry
  have hlater := later_after (evidenceMachine.crashing.after .empty
    (pre ++ [(.record operation evidenceId evidence, fate)])) post
  rw [← Machine.after_append] at hlater
  obtain ⟨g', hg', -, hle, -⟩ := hlater.head _ new hnew
  obtain rfl := Option.some.inj (hg.symm.trans hg')
  have := Option.some.inj hrev
  omega

end authority

/-- An absent readback at revision 4, then a present one at revision 5. -/
theorem supersededAuthority_sample :
    letI := sampleHashlib
    applyRetry sampleOperation "read-4" (retryExactOperation sampleOperation 4)
      ⟨4, [], by decide⟩
      (evidenceMachine.crashing.after .empty
        ([(.record sampleOperation "read-4" (sampleAbsent 4), .returned)] ++
          [(.record sampleOperation "read-5" (samplePresent 5), .unacknowledged)] ++
          [(.reopen, .returned)])) ≠ .ok ⟨5, [sampleOperation], by decide⟩ :=
  letI := sampleHashlib
  supersededAuthority [(.record sampleOperation "read-4" (sampleAbsent 4), .returned)]
    [(.reopen, .returned)] sampleOperation sampleOperation "read-5" (samplePresent 5)
    .unacknowledged
    ⟨"provider-a", "op-1", "read-4", 4, sampleOperation.effectSha256,
      retryExactOperation sampleOperation 4⟩
    ⟨"provider-a", "op-1", "read-5", 5, sampleOperation.effectSha256, acceptRemoteCommit⟩
    ⟨4, [], by decide⟩ ⟨5, [sampleOperation], by decide⟩ (by decide) (by decide) (by decide)
    (by decide)

/-! ## What a completion binds

A worker is given the record `R` by `record`, other calls follow, and it completes with
`R.evidenceId` and `R.decision`. -/

section completion

variable [Hashlib]

/-- A returned record is the head. -/
theorem head_of_record {operation : ExternalOperation} {evidenceId : String}
    {evidence : ProviderEvidence} {db : EvidenceDb} {R : ReconciliationEvidenceRecord}
    (h : (record operation evidenceId evidence db).2 = .ok R) :
    (record operation evidenceId evidence db).1.head operation.identity = some R ∧
      R.effectSha256 = operation.effectSha256 := by
  rcases record_cases operation evidenceId evidence db with
    ⟨e, hr⟩ | ⟨cand, _ | found, hcand, -, hhead, hr⟩ <;> rw [hr] at h ⊢
  · cases h
  · obtain ⟨hid, -, heff, -⟩ := candidate_fields hcand
    obtain rfl : cand = R := Except.ok.inj h
    exact ⟨by simp [EvidenceDb.head_putHead, hid], heff⟩
  · obtain rfl : found = R := Except.ok.inj h
    obtain ⟨hh, he, -⟩ := checkHead_eq_some.1 hhead
    exact ⟨hh, he⟩

theorem reply_record {operation : ExternalOperation} {evidenceId : String}
    {evidence : ProviderEvidence} {db : EvidenceDb} {R : ReconciliationEvidenceRecord}
    (h : (evidenceMachine.perform (.record operation evidenceId evidence) db).2 =
      .ok (.head R)) : (record operation evidenceId evidence db).2 = .ok R := by
  obtain ⟨S, hS, hR⟩ := map_eq_ok.1 h
  rw [hS, EvidenceReply.head.inj hR]

/-- Between the two calls the identity had a head of another revision. -/
def Replaced (R : ReconciliationEvidenceRecord) (k : String × String) (db : EvidenceDb)
    (mid : List (EvidenceCall × Machine.Fate)) : Prop :=
  ∃ cs ds H, mid = cs ++ ds ∧ (evidenceMachine.crashing.after db cs).head k = some H ∧
    H.revision ≠ R.revision

/-- The completion binds the observation `R` : a new row has its revision and finds it as
the head, and if the head was replaced the call is superseded. -/
structure BindsObservation (operation : ExternalOperation) (R : ReconciliationEvidenceRecord)
    (db : EvidenceDb) (mid : List (EvidenceCall × Machine.Fate)) : Prop where
  written : ∀ c, (evidenceMachine.crashing.after db mid).completionOf operation.identity = none →
    (markReconciled operation R.evidenceId R.decision
      (evidenceMachine.crashing.after db mid)).2 = .ok c →
    (evidenceMachine.crashing.after db mid).head operation.identity = some R ∧
      c.revision = R.revision
  superseded : Replaced R operation.identity db mid →
    (markReconciled operation R.evidenceId R.decision
      (evidenceMachine.crashing.after db mid)).2 = .error supersededDecision

/-- The head carries `R`'s evidence id and decision at another revision. -/
def Reused (R : ReconciliationEvidenceRecord) (k : String × String) (db : EvidenceDb) : Prop :=
  ∃ H, db.head k = some H ∧ H.evidenceId = R.evidenceId ∧ H.decision = R.decision ∧
    H.revision ≠ R.revision

/-- Unless `R`'s evidence id is reused by the head, its completion binds `R`. -/
theorem binds_of_not_reused {operation : ExternalOperation} {R : ReconciliationEvidenceRecord}
    {db : EvidenceDb} {mid : List (EvidenceCall × Machine.Fate)}
    (hhead : db.head operation.identity = some R)
    (heff : R.effectSha256 = operation.effectSha256)
    (hfree : ¬Reused R operation.identity (evidenceMachine.crashing.after db mid)) :
    BindsObservation operation R db mid := by
  obtain ⟨H, hH, hHeff, hle, hsame⟩ := (later_after db mid).head _ R hhead
  have hcur : current operation (evidenceMachine.crashing.after db mid) = .ok H :=
    current_eq_ok.2 ⟨hH, hHeff.trans heff⟩
  refine ⟨fun c hnone hmark => ?_, ?_⟩
  · rcases markReconciled_cases operation R.evidenceId R.decision
        (evidenceMachine.crashing.after db mid) with
      ⟨e, hm⟩ | ⟨g, hg, hid, hdec, -, -, ⟨c', hc', -⟩ | ⟨db', -, hm⟩⟩
    · simp [hm] at hmark
    · simp [hnone] at hc'
    · obtain rfl : H = g := Except.ok.inj (hcur.symm.trans hg)
      have hrev : H.revision = R.revision := by
        by_contra hne
        exact hfree ⟨H, hH, hid, hdec, hne⟩
      rw [hm] at hmark
      obtain rfl := Except.ok.inj hmark
      exact ⟨hsame hrev ▸ hH, hrev⟩
  · rintro ⟨cs, ds, G, rfl, hG, hne⟩
    -- the head was past `R` at `G`, so it is past `R` now
    obtain ⟨G', hG', -, hRG, -⟩ := (later_after db cs).head _ R hhead
    obtain rfl := Option.some.inj (hG.symm.trans hG')
    have hlater := later_after (evidenceMachine.crashing.after db cs) ds
    rw [← Machine.after_append] at hlater
    obtain ⟨H', hH', -, hGH, -⟩ := hlater.head _ G hG
    obtain rfl := Option.some.inj (hH.symm.trans hH')
    have hne' : H.evidenceId ≠ R.evidenceId ∨ H.decision ≠ R.decision := by
      by_contra hboth
      obtain ⟨hid, hdec⟩ : H.evidenceId = R.evidenceId ∧ H.decision = R.decision := by
        simpa only [not_or, not_not] using hboth
      exact hfree ⟨H, hH, hid, hdec, by omega⟩
    rw [markReconciled_superseded hcur hne']

/-- A reused evidence id is not superseded. -/
theorem not_reused_of_binds {operation : ExternalOperation} {R : ReconciliationEvidenceRecord}
    {db : EvidenceDb} {mid : List (EvidenceCall × Machine.Fate)}
    (hhead : db.head operation.identity = some R)
    (heff : R.effectSha256 = operation.effectSha256)
    (hbinds : BindsObservation operation R db mid) :
    ¬Reused R operation.identity (evidenceMachine.crashing.after db mid) := by
  rintro ⟨H, hH, hid, hdec, hne⟩
  have hmark := hbinds.superseded ⟨mid, [], H, by simp, hH, hne⟩
  obtain ⟨H', hH', hHeff, -⟩ := (later_after db mid).head _ R hhead
  obtain rfl := Option.some.inj (hH.symm.trans hH')
  have hcur : current operation (evidenceMachine.crashing.after db mid) = .ok H :=
    current_eq_ok.2 ⟨hH, hHeff.trans heff⟩
  rw [← hid, ← hdec] at hmark
  exact markReconciled_not_superseded hcur hmark

/-- A head is the head there was, or some `record` of the run was given its evidence id
and evidence at its revision. -/
theorem head_origin {k : String × String} {db : EvidenceDb} {H : ReconciliationEvidenceRecord} :
    ∀ {cs : List (EvidenceCall × Machine.Fate)},
      (evidenceMachine.crashing.after db cs).head k = some H →
      db.head k = some H ∨ ∃ operation evidence fate,
        (.record operation H.evidenceId evidence, fate) ∈ cs ∧ operation.identity = k ∧
          evidence.readbackRevision = some H.revision := by
  intro cs
  induction cs using List.reverseRecOn with
  | nil => exact Or.inl
  | append_singleton cs c ih =>
    intro h
    have hold : (evidenceMachine.crashing.after db cs).head k = some H →
        db.head k = some H ∨ ∃ operation evidence fate,
          (.record operation H.evidenceId evidence, fate) ∈ cs ++ [c] ∧ operation.identity = k ∧
            evidence.readbackRevision = some H.revision := by
      intro hk
      rcases ih hk with h0 | ⟨op, ev, f, hmem, hid, hrev⟩
      · exact Or.inl h0
      · exact Or.inr ⟨op, ev, f, List.mem_append_left _ hmem, hid, hrev⟩
    rw [Machine.after_concat] at h
    rcases evidenceMachine.crashing_cases c (evidenceMachine.crashing.after db cs) with
      ⟨hc, -⟩ | ⟨hc, -⟩ <;> rw [hc] at h
    · exact hold h
    rcases perform_cases c.1 (evidenceMachine.crashing.after db cs) with
      hp | ⟨op, id, ev, cand, hcall, hcand, -, -, hp⟩ | ⟨op, id, d, g, -, -, -, -, hp⟩
    · rw [hp] at h
      exact hold h
    · rw [hp, EvidenceDb.head_putHead] at h
      split_ifs at h with hk
      · obtain rfl := Option.some.inj h
        obtain ⟨hid, hev, -, hrev, -⟩ := candidate_fields hcand
        refine Or.inr ⟨op, ev, c.2, List.mem_append_right _ ?_, by rw [hk, hid], hrev⟩
        rw [hev, ← hcall]
        exact List.mem_singleton.2 rfl
      · exact hold h
    · exact hold (hp.head k ▸ h)

/-- If no `record` call in between reuses `R`'s evidence id for other evidence of its
identity, the completion binds `R`. -/
theorem binds_of_fresh_evidenceId {operation : ExternalOperation}
    {R : ReconciliationEvidenceRecord} {db : EvidenceDb}
    {mid : List (EvidenceCall × Machine.Fate)}
    (hhead : db.head operation.identity = some R)
    (heff : R.effectSha256 = operation.effectSha256)
    (hfresh : ∀ op evidence fate, (.record op R.evidenceId evidence, fate) ∈ mid →
      op.identity = operation.identity → evidence.readbackRevision = some R.revision) :
    BindsObservation operation R db mid := by
  refine binds_of_not_reused hhead heff ?_
  rintro ⟨H, hH, hid, -, hne⟩
  rcases head_origin hH with hR | ⟨op, ev, fate, hmem, hk, hrev⟩
  · exact hne (congrArg _ (Option.some.inj (hR.symm.trans hhead)))
  · rw [hid] at hmem
    exact hne (Option.some.inj (hrev.symm.trans (hfresh op ev fate hmem hk)))

/-- In every run where `record` returned `R`, the completion from `R` binds `R` exactly
if the head just before it does not carry `R`'s evidence id and decision at another
revision. -/
theorem bindsObservation_iff (pre mid : List (EvidenceCall × Machine.Fate))
    (operation : ExternalOperation) (evidenceId : String) (evidence : ProviderEvidence)
    (R : ReconciliationEvidenceRecord)
    (hR : (evidenceMachine.crashing.perform (.record operation evidenceId evidence, .returned)
      (evidenceMachine.crashing.after .empty pre)).2 = some (.ok (.head R))) :
    BindsObservation operation R (evidenceMachine.crashing.after .empty
        (pre ++ [(.record operation evidenceId evidence, .returned)])) mid ↔
      ¬Reused R operation.identity (evidenceMachine.crashing.after .empty
        (pre ++ [(.record operation evidenceId evidence, .returned)] ++ mid)) := by
  rw [Machine.after_append _ _ (pre ++ _) mid, Machine.after_concat]
  have hrec : (record operation evidenceId evidence
      (evidenceMachine.crashing.after .empty pre)).2 = .ok R :=
    reply_record (evidenceMachine.crashing_eq_some hR).2.symm
  obtain ⟨hhead, heff⟩ := head_of_record hrec
  exact ⟨not_reused_of_binds hhead heff, binds_of_not_reused hhead heff⟩

end completion

/-- A record of a present readback, with a newer head under another evidence id in between. -/
theorem bindsObservation_iff_sample :
    letI := sampleHashlib
    let R : ReconciliationEvidenceRecord :=
      ⟨"provider-a", "op-1", "read", 5, sampleOperation.effectSha256, acceptRemoteCommit⟩
    let mid := [(EvidenceCall.record sampleOperation "reread" (samplePresent 6),
      Machine.Fate.returned)]
    BindsObservation sampleOperation R (evidenceMachine.crashing.after .empty
        ([] ++ [(.record sampleOperation "read" (samplePresent 5), .returned)])) mid := by
  let := sampleHashlib
  intro R mid
  refine (bindsObservation_iff [] mid sampleOperation "read" (samplePresent 5) R (by decide)).2 ?_
  rintro ⟨H, hH, hid, -⟩
  have hhead : (evidenceMachine.crashing.after .empty
      ([] ++ [(.record sampleOperation "read" (samplePresent 5), .returned)] ++ mid)).head
        sampleOperation.identity = some
      ⟨"provider-a", "op-1", "reread", 6, sampleOperation.effectSha256, acceptRemoteCommit⟩ := by
    decide +kernel
  obtain rfl := Option.some.inj (hhead.symm.trans hH)
  exact absurd hid (by decide)

/-- Two present readbacks under one evidence id : the completion from the record at
revision 5 is written at revision 6. -/
theorem bindsObservation_reused_evidenceId :
    letI := sampleHashlib
    let R : ReconciliationEvidenceRecord :=
      ⟨"provider-a", "op-1", "read", 5, sampleOperation.effectSha256, acceptRemoteCommit⟩
    let db := evidenceMachine.crashing.after .empty
      [(.record sampleOperation "read" (samplePresent 5), .returned)]
    let mid := [(EvidenceCall.record sampleOperation "read" (samplePresent 6),
      Machine.Fate.returned)]
    (evidenceMachine.crashing.perform (.record sampleOperation "read" (samplePresent 5), .returned)
        .empty).2 = some (.ok (.head R)) ∧
      (markReconciled sampleOperation R.evidenceId R.decision
        (evidenceMachine.crashing.after db mid)).2 =
          .ok ⟨"provider-a", "op-1", sampleOperation.effectSha256, "read", 6⟩ ∧
      ¬BindsObservation sampleOperation R db mid := by
  let := sampleHashlib
  intro R db mid
  have hmark : (markReconciled sampleOperation R.evidenceId R.decision
      (evidenceMachine.crashing.after db mid)).2 =
        .ok ⟨"provider-a", "op-1", sampleOperation.effectSha256, "read", 6⟩ := by decide
  refine ⟨by decide, hmark, fun h => ?_⟩
  exact absurd (h.written _ (by decide) hmark).2 (by decide)

end ReconciliationEvidenceStore

end ReliabilityLab
