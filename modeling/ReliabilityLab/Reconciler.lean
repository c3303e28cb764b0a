import ReliabilityLab.EvidenceLineage
import ReliabilityLab.ProviderStore

/-!
# Reconcilers

Workers that reconcile one operation `op` through a provider store and an evidence
store. The two databases are never changed in one transaction, so a worker may act on
a readback or a decision that the provider has left behind : `reconcilerMachine` is
the two stores side by side, and `Genuine` is the only condition on its calls, that
`op` is recorded with readbacks it was given and that its identity is its own.

The revisions of a provider are the positions in its commit order, so what a readback
at revision `n` saw stays a fact about the provider for good : whether `op` is among its
first `n` effects (`HeldAt`). `Consistent` says that of every head and completion of
`op`, and `Ledger` of every readback and commit of the history. From the two,
`composedSafety` : `op` is committed once, and a completion is dated between its commit
and the present.
-/

set_option linter.unusedSectionVars false

open Serial Keyed

namespace ReliabilityLab

/-- The operation a call of the provider store is about. -/
def VersionedProviderStore.ProviderCall.operation? :
    VersionedProviderStore.ProviderCall → Option ExternalOperation
  | .reopen | .snapshot _ => none
  | .read operation | .conditionalApply operation _ => some operation

/-- The operation a call of the evidence store is about. -/
def ReconciliationEvidenceStore.EvidenceCall.operation? :
    ReconciliationEvidenceStore.EvidenceCall → Option ExternalOperation
  | .reopen => none
  | .record operation _ _ | .current operation | .completion operation
  | .markReconciled operation _ _ | .assertCurrent operation _ _
  | .applyRetry operation _ _ _ => some operation

namespace Reconciler

open VersionedProviderStore ReconciliationEvidenceStore

section runs

variable [Hashlib]

/-! ## Readbacks of one operation -/

/-- `op` is among the first `n` effects of its provider. -/
def HeldAt (P : ProviderDb) (op : ExternalOperation) (n : Int) : Prop :=
  op ∈ (P.effectsOf op.provider).take n.toNat

/-- `d` is the decision of what the provider was at its revision `n`. -/
structure Observed (P : ProviderDb) (op : ExternalOperation) (n : Int)
    (d : ReconciliationDecision) : Prop where
  le_revision : n ≤ P.revision op.provider
  decision : HeldAt P op n ∧ d = acceptRemoteCommit ∨ ¬HeldAt P op n ∧ d = retryExactOperation op n

/-- A readback of `op` at some revision of its provider. -/
def Readback (P : ProviderDb) (op : ExternalOperation) (e : ProviderEvidence) : Prop :=
  ∃ n d, e.readbackRevision = some n ∧ reconcileLostAck op e = .ok d ∧ Observed P op n d

/-- The effect stored under `op`'s identity is `op`. -/
def OwnIdentity (P : ProviderDb) (op : ExternalOperation) : Prop :=
  ∀ e ∈ P.effects.rows, e.identity = op.identity → e = op

theorem HeldAt.mono {P : ProviderDb} {op : ExternalOperation} {m n : Int} (h : HeldAt P op m)
    (hmn : m ≤ n) : HeldAt P op n :=
  (List.take_sublist_take_left (Int.toNat_le_toNat hmn)).subset h

theorem HeldAt.mem {P : ProviderDb} {op : ExternalOperation} {n : Int} (h : HeldAt P op n) :
    op ∈ P.effects.rows :=
  (ProviderDb.mem_effectsOf.1 (List.mem_of_mem_take h)).1

/-- At the current revision every stored effect is held. -/
theorem heldAt_revision {P : ProviderDb} (hP : WellFormed P) (op : ExternalOperation) :
    HeldAt P op (P.revision op.provider) ↔ op ∈ P.effects.rows := by
  unfold HeldAt
  rw [hP, Int.toNat_natCast, List.take_length, ProviderDb.mem_effectsOf]
  simp

/-- What was held at a revision does not change when the provider grows. -/
theorem heldAt_of_grows {P P' : ProviderDb} (hP : WellFormed P) (h : Grows P P')
    {op : ExternalOperation} {n : Int} (hn : n ≤ P.revision op.provider) :
    HeldAt P' op n ↔ HeldAt P op n := by
  obtain ⟨later, hlater⟩ : P.effectsOf op.provider <+: P'.effectsOf op.provider :=
    h.effects.filter _
  have hlen : n.toNat ≤ (P.effectsOf op.provider).length := by
    have := hP op.provider
    omega
  unfold HeldAt
  rw [← hlater, List.take_append_of_le_length hlen]

theorem Observed.of_grows {P P' : ProviderDb} (hP : WellFormed P) (h : Grows P P')
    {op : ExternalOperation} {n : Int} {d : ReconciliationDecision} (hd : Observed P op n d) :
    Observed P' op n d := by
  refine ⟨hd.le_revision.trans (h.revision _), ?_⟩
  rw [heldAt_of_grows hP h hd.le_revision]
  exact hd.decision

theorem Readback.of_grows {P P' : ProviderDb} (hP : WellFormed P) (h : Grows P P')
    {op : ExternalOperation} {e : ProviderEvidence} (he : Readback P op e) : Readback P' op e := by
  obtain ⟨n, d, hn, hd, hobs⟩ := he
  exact ⟨n, d, hn, hd, hobs.of_grows hP h⟩

/-- Two observations at one revision have one decision. -/
theorem Observed.decision_unique {P : ProviderDb} {op : ExternalOperation} {n : Int}
    {d d' : ReconciliationDecision} (h : Observed P op n d) (h' : Observed P op n d') :
    d = d' := by
  rcases h.decision with ⟨hn, rfl⟩ | ⟨hn, rfl⟩ <;> rcases h'.decision with ⟨hn', rfl⟩ | ⟨hn', rfl⟩
  · rfl
  · exact absurd hn hn'
  · exact absurd hn' hn
  · rfl

/-- The row under `op`'s identity. -/
theorem find?_of_ownIdentity {P : ProviderDb} {op : ExternalOperation} (h : OwnIdentity P op) :
    P.effects.find? op.identity = none ∧ op ∉ P.effects.rows ∨
      P.effects.find? op.identity = some op ∧ op ∈ P.effects.rows := by
  rcases hf : P.effects.find? op.identity with _ | row
  · exact Or.inl ⟨rfl, fun hop => Table.find?_eq_none_iff.1 hf op hop rfl⟩
  · obtain ⟨hrow, hid⟩ := Table.find?_eq_some_iff.1 hf
    obtain rfl := h row hrow hid
    exact Or.inr ⟨rfl, hrow⟩

/-- `read` always answers, with a readback of the current revision. -/
theorem read_readback {P : ProviderDb} (hP : WellFormed P) {op : ExternalOperation}
    (hown : OwnIdentity P op) :
    ∃ e d, (read op P).2 = .ok e ∧ e.readbackRevision = some (P.revision op.provider) ∧
      reconcileLostAck op e = .ok d ∧ Observed P op (P.revision op.provider) d := by
  rw [read_eq]
  rcases find?_of_ownIdentity hown with ⟨hf, hop⟩ | ⟨hf, hop⟩
  · refine ⟨absentReadback op (P.state op.provider), _, by rw [hf]; rfl, rfl,
      reconcileLostAck_absentReadback op _, le_rfl, Or.inr ⟨?_, rfl⟩⟩
    rwa [heldAt_revision hP]
  · refine ⟨presentReadback op op (P.state op.provider), _, ?_, rfl,
      reconcileLostAck_presentReadback op _, le_rfl, Or.inl ⟨(heldAt_revision hP op).2 hop, rfl⟩⟩
    simp [hf, readback, raiseIf]

/-! ## The invariant of the two databases -/

/-- Every head and completion of `op` is an observation of the provider. -/
structure Consistent (op : ExternalOperation) (P : ProviderDb) (E : EvidenceDb) : Prop where
  wellFormed : WellFormed P
  ownIdentity : OwnIdentity P op
  head : ∀ h, E.head op.identity = some h →
    h.effectSha256 = op.effectSha256 ∧ Observed P op h.revision h.decision
  completed : ∀ c, E.completionOf op.identity = some c →
    c.effectSha256 = op.effectSha256 ∧ HeldAt P op c.revision ∧
      c.revision ≤ P.revision op.provider

theorem consistent_empty (op : ExternalOperation) : Consistent op .empty .empty :=
  ⟨wellFormed_empty, fun _ he => by simp [ProviderDb.empty] at he, fun _ hh => by simp at hh,
    fun _ hc => by simp at hc⟩

/-- The call is about `op`, or about another identity. -/
def OwnCall (op : ExternalOperation) (operation? : Option ExternalOperation) : Prop :=
  ∀ o, operation? = some o → o.identity = op.identity → o = op

theorem Consistent.provider_step {op : ExternalOperation} {P : ProviderDb} {E : EvidenceDb}
    (h : Consistent op P E) {c : ProviderCall} (hc : OwnCall op c.operation?) :
    Consistent op (providerMachine.perform c P).1 E := by
  have hgrows := grows_perform c P
  refine ⟨wellFormed_preserved c P h.wellFormed, fun e he hid => ?_, fun g hg => ?_,
    fun g hg => ?_⟩
  · rcases perform_cases c P with ⟨operation, d, u, rfl, -, hcom⟩ | ⟨hsame, -⟩
    · rw [hcom.effects, List.mem_append, List.mem_singleton] at he
      rcases he with he | rfl
      · exact h.ownIdentity e he hid
      · exact hc e rfl hid
    · exact h.ownIdentity e (hsame.effects ▸ he) hid
  · obtain ⟨heff, hobs⟩ := h.head g hg
    exact ⟨heff, hobs.of_grows h.wellFormed hgrows⟩
  · obtain ⟨heff, hheld, hle⟩ := h.completed g hg
    exact ⟨heff, (heldAt_of_grows h.wellFormed hgrows hle).2 hheld, hle.trans (hgrows.revision _)⟩

theorem Observed.held_of_not_retry {P : ProviderDb} {op : ExternalOperation} {n : Int}
    {d : ReconciliationDecision} (h : Observed P op n d) (hd : d.shouldRetry = false) :
    HeldAt P op n := by
  rcases h.decision with ⟨hn, -⟩ | ⟨-, rfl⟩
  · exact hn
  · simp at hd

theorem Consistent.evidence_step {op : ExternalOperation} {P : ProviderDb} {E : EvidenceDb}
    (h : Consistent op P E) {c : EvidenceCall} (hc : OwnCall op c.operation?)
    (hread : ∀ id e, c = .record op id e → Readback P op e) :
    Consistent op P (evidenceMachine.perform c E).1 := by
  rcases ReconciliationEvidenceStore.perform_cases c E with hE |
    ⟨operation, id, e, cand, rfl, hcand, -, -, hE⟩ |
    ⟨operation, id, d, g, rfl, hcur, hretry, -, hdone⟩
  · rw [hE]
    exact h
  · rw [hE]
    refine ⟨h.wellFormed, h.ownIdentity, fun g hg => ?_, h.completed⟩
    rw [EvidenceDb.head_putHead] at hg
    split_ifs at hg with hk
    · obtain rfl := Option.some.inj hg
      obtain ⟨hid, -, heff, hrev, hdec⟩ := candidate_fields hcand
      obtain rfl := hc operation rfl (hid.symm.trans hk.symm)
      obtain ⟨n, d, hn, hd, hobs⟩ := hread id e rfl
      obtain rfl := Option.some.inj (hn.symm.trans hrev)
      obtain rfl := Except.ok.inj (hd.symm.trans hdec)
      exact ⟨heff, hobs⟩
    · exact h.head g hg
  · refine ⟨h.wellFormed, h.ownIdentity, fun g hg => h.head g (hdone.head _ ▸ hg), fun g' hg => ?_⟩
    rw [hdone.completionOf] at hg
    split_ifs at hg with hk
    · obtain rfl := Option.some.inj hg
      obtain rfl := hc operation rfl hk.symm
      obtain ⟨hh, heff⟩ := current_eq_ok.1 hcur
      obtain ⟨-, hobs⟩ := h.head g hh
      exact ⟨rfl, hobs.held_of_not_retry hretry, hobs.le_revision⟩
    · exact h.completed g' hg

/-! ## Interleavings -/

/-- A call of one of the stores. -/
abbrev Call := ProviderCall ⊕ EvidenceCall

/-- A reply of one of the two stores. -/
abbrev Reply := Except Raised ProviderReply ⊕ Except Raised EvidenceReply

/-- The two stores, each with its own database. -/
def reconcilerMachine : Machine (ProviderDb × EvidenceDb) Call Reply :=
  providerMachine.beside evidenceMachine

/-- The calls so far with their replies; `none` is a call that was rolled back. -/
abbrev History := List ((Call × Machine.Fate) × Option Reply)

/-- A worker was given the readback `e` of `op`. -/
def Returned (h : History) (op : ExternalOperation) (e : ProviderEvidence) : Prop :=
  ((.inl (.read op), .returned), some (.inl (.ok (.evidence e)))) ∈ h

/-- A conditional write committed `op` and left its provider in the state `u`. -/
def Committed (h : History) (op : ExternalOperation) (u : VersionedProviderState) : Prop :=
  ∃ d fate, ((.inl (.conditionalApply op d), fate), some (.inl (.ok (.state u)))) ∈ h

/-- A call with `op`'s identity is about `op`, and `op` is recorded with readbacks that
`read` gave. -/
structure Genuine (op : ExternalOperation) (h : History) (c : Call × Machine.Fate) : Prop where
  own : OwnCall op (c.1.elim ProviderCall.operation? EvidenceCall.operation?)
  readback : ∀ id e, c.1 = .inr (.record op id e) → Returned h op e

/-- What the readbacks and commits of the history say about the provider. -/
structure Ledger (op : ExternalOperation) (h : History) (P : ProviderDb) : Prop where
  readback : ∀ e, Returned h op e → Readback P op e
  commit : ∀ u, Committed h op u →
    u.revision ≤ P.revision op.provider ∧ ¬HeldAt P op (u.revision - 1)
  held : op ∈ P.effects.rows → ∃ u, Committed h op u

theorem ledger_empty (op : ExternalOperation) : Ledger op [] .empty :=
  ⟨fun _ h => by simp [Returned] at h, fun _ h => by simp [Committed] at h,
    fun h => by simp [ProviderDb.empty] at h⟩

theorem returned_concat {op : ExternalOperation} {h : History} {c : Call × Machine.Fate}
    {o : Option Reply} {e : ProviderEvidence} :
    Returned (h ++ [(c, o)]) op e ↔ Returned h op e ∨
      c = (.inl (.read op), .returned) ∧ o = some (.inl (.ok (.evidence e))) := by
  unfold Returned
  rw [List.mem_append, List.mem_singleton, Prod.mk.injEq]
  exact or_congr_right ⟨fun ⟨hc, ho⟩ => ⟨hc.symm, ho.symm⟩, fun ⟨hc, ho⟩ => ⟨hc.symm, ho.symm⟩⟩

theorem committed_concat {op : ExternalOperation} {h : History} {c : Call × Machine.Fate}
    {o : Option Reply} {u : VersionedProviderState} :
    Committed (h ++ [(c, o)]) op u ↔ Committed h op u ∨
      (∃ d, c.1 = .inl (.conditionalApply op d)) ∧ o = some (.inl (.ok (.state u))) := by
  unfold Committed
  simp only [List.mem_append, List.mem_singleton, Prod.mk.injEq]
  refine ⟨?_, ?_⟩
  · rintro ⟨d, fate, h | ⟨rfl, rfl⟩⟩
    · exact Or.inl ⟨d, fate, h⟩
    · exact Or.inr ⟨⟨d, rfl⟩, rfl⟩
  · rintro (⟨d, fate, h⟩ | ⟨⟨d, hc⟩, rfl⟩)
    · exact ⟨d, fate, Or.inl h⟩
    · exact ⟨d, c.2, Or.inr ⟨Prod.ext hc.symm rfl, rfl⟩⟩

/-- A reply that is not the provider's adds nothing. -/
theorem Ledger.quiet_step {op : ExternalOperation} {h : History} {P : ProviderDb}
    (hl : Ledger op h P) {c : Call × Machine.Fate} {o : Option Reply}
    (ho : ∀ r, o ≠ some (.inl r)) : Ledger op (h ++ [(c, o)]) P := by
  refine ⟨fun e he => ?_, fun u hu => ?_, fun hop => ?_⟩
  · rcases returned_concat.1 he with he | ⟨-, hr⟩
    · exact hl.readback e he
    · exact absurd hr (ho _)
  · rcases committed_concat.1 hu with hu | ⟨-, hr⟩
    · exact hl.commit u hu
    · exact absurd hr (ho _)
  · obtain ⟨u, hu⟩ := hl.held hop
    exact ⟨u, committed_concat.2 (Or.inl hu)⟩

/-- What `read` replies is a readback of the database it leaves. -/
theorem readback_of_reply {op : ExternalOperation} {P : ProviderDb} {e : ProviderEvidence}
    (hP : WellFormed P) (hown : OwnIdentity P op)
    (h : (providerMachine.perform (.read op) P).2 = .ok (.evidence e)) :
    Readback (providerMachine.perform (.read op) P).1 op e := by
  obtain ⟨e', d, hread, hrev, hd, hobs⟩ := read_readback hP hown
  simp only [providerMachine, hread] at h
  obtain rfl : e' = e := ProviderReply.evidence.inj (Except.ok.inj h)
  exact Readback.of_grows hP (grows_perform (.read op) P) ⟨_, d, hrev, hd, hobs⟩

/-- A commit produces the revision after the current one, where `op` is not held yet. -/
theorem commit_of_reply {op : ExternalOperation} {d : ReconciliationDecision} {P : ProviderDb}
    {u : VersionedProviderState} (hP : WellFormed P)
    (h : (providerMachine.perform (.conditionalApply op d) P).2 = .ok (.state u)) :
    u.revision ≤ (providerMachine.perform (.conditionalApply op d) P).1.revision op.provider ∧
      ¬HeldAt (providerMachine.perform (.conditionalApply op d) P).1 op (u.revision - 1) := by
  have hcom := commits_of_reply h
  have hrev : u.revision = P.revision op.provider + 1 := by
    rw [hcom.updated]
    rfl
  have hprev : u.revision - 1 = P.revision op.provider := by omega
  refine ⟨by rw [hcom.revision, if_pos rfl, hrev], ?_⟩
  rw [hprev, heldAt_of_grows hP hcom.grows le_rfl, heldAt_revision hP]
  exact fun hop => Table.find?_eq_none_iff.1 hcom.absent op hop rfl

theorem Ledger.provider_step {op : ExternalOperation} {h : History} {P : ProviderDb}
    {E : EvidenceDb} (hl : Ledger op h P) (hcon : Consistent op P E) (c : ProviderCall)
    (fate : Machine.Fate) :
    Ledger op (h ++ [((.inl c, fate), some (.inl (providerMachine.perform c P).2))])
      (providerMachine.perform c P).1 := by
  have hgrows := grows_perform c P
  refine ⟨fun e he => ?_, fun u hu => ?_, fun hop => ?_⟩
  · rcases returned_concat.1 he with he | ⟨hcall, hreply⟩
    · exact (hl.readback e he).of_grows hcon.wellFormed hgrows
    · obtain rfl : c = .read op := Sum.inl.inj (Prod.mk.inj hcall).1
      exact readback_of_reply hcon.wellFormed hcon.ownIdentity
        (Sum.inl.inj (Option.some.inj hreply))
  · rcases committed_concat.1 hu with hu | ⟨⟨d, hcall⟩, hreply⟩
    · obtain ⟨hle, hnot⟩ := hl.commit u hu
      refine ⟨hle.trans (hgrows.revision _), ?_⟩
      rwa [heldAt_of_grows hcon.wellFormed hgrows (by omega)]
    · obtain rfl : c = .conditionalApply op d := Sum.inl.inj hcall
      exact commit_of_reply hcon.wellFormed (Sum.inl.inj (Option.some.inj hreply))
  · have hold : op ∈ P.effects.rows →
        ∃ u, Committed (h ++ [((.inl c, fate), some (.inl (providerMachine.perform c P).2))])
          op u := by
      intro hop
      obtain ⟨u, hu⟩ := hl.held hop
      exact ⟨u, committed_concat.2 (Or.inl hu)⟩
    rcases perform_cases c P with ⟨operation, d, u, rfl, hr, hcom⟩ | ⟨hsame, -⟩
    · rw [hcom.effects, List.mem_append, List.mem_singleton] at hop
      rcases hop with hop | rfl
      · exact hold hop
      · exact ⟨u, committed_concat.2 (Or.inr ⟨⟨d, rfl⟩, by rw [hr]⟩)⟩
    · exact hold (hsame.effects ▸ hop)

/-- The two databases are consistent with each other and with the history. -/
theorem consistent_after {op : ExternalOperation} {cs : List (Call × Machine.Fate)}
    (hcs : reconcilerMachine.crashing.Guarded (Genuine op) (.empty, .empty) cs) :
    let s := reconcilerMachine.crashing.after (.empty, .empty) cs
    Consistent op s.1 s.2 ∧
      Ledger op (reconcilerMachine.crashing.history (.empty, .empty) cs) s.1 := by
  refine hcs.induction (J := fun h s => Consistent op s.1 s.2 ∧ Ledger op h s.1)
    ⟨consistent_empty op, ledger_empty op⟩ ?_
  rintro h ⟨P, E⟩ ⟨c, fate⟩ ⟨hcon, hl⟩ hc
  rcases reconcilerMachine.crashing_cases (c, fate) (P, E) with ⟨hs, -⟩ | ⟨hs, -⟩ <;> rw [hs]
  · exact ⟨hcon, hl.quiet_step fun _ => by simp⟩
  rcases c with c | c
  · exact ⟨hcon.provider_step hc.own, hl.provider_step hcon c fate⟩
  · refine ⟨hcon.evidence_step hc.own fun id e he => ?_, hl.quiet_step fun _ => ?_⟩
    · exact hl.readback e (hc.readback id e (congrArg Sum.inr he))
    · simp [reconcilerMachine]

/-- The effects with `op`'s identity. -/
theorem select_identity {P : ProviderDb} {op : ExternalOperation} (h : OwnIdentity P op) :
    (P.effects.select fun e => e.identity = op.identity) =
      if op ∈ P.effects.rows then [op] else [] := by
  rw [Table.select_key]
  rcases find?_of_ownIdentity h with ⟨hf, hop⟩ | ⟨hf, hop⟩ <;> simp [hf, hop]

/-- In every state that workers reach who record `op` with its own readbacks only, the
provider stores at most one effect under `op`'s identity and it is `op`, and a stored
`op` is not committed again. A head of `op` is no newer than the provider. If `op` is
completed, the provider stores it, and the completion's revision is at least the one the
commit of `op` produced and at most the current one. -/
theorem composedSafety (op : ExternalOperation) (cs : List (Call × Machine.Fate))
    (hcs : reconcilerMachine.crashing.Guarded (Genuine op) (.empty, .empty) cs) :
    let s := reconcilerMachine.crashing.after (.empty, .empty) cs
    let h := reconcilerMachine.crashing.history (.empty, .empty) cs
    (s.1.effects.select fun e => e.identity = op.identity) =
        (if op ∈ s.1.effects.rows then [op] else []) ∧
      (op ∈ s.1.effects.rows → ∀ d u, (conditionalApply op d s.1).2 ≠ .ok u) ∧
      (∀ g, s.2.head op.identity = some g → g.revision ≤ s.1.revision op.provider) ∧
      ∀ c, s.2.completionOf op.identity = some c →
        op ∈ s.1.effects.rows ∧ c.revision ≤ s.1.revision op.provider ∧
          (∃ u, Committed h op u) ∧ ∀ u, Committed h op u → u.revision ≤ c.revision := by
  intro s h
  obtain ⟨hcon, hl⟩ := consistent_after hcs
  refine ⟨select_identity hcon.ownIdentity, fun hop d u hu => ?_,
    fun g hg => (hcon.head g hg).2.le_revision, fun c hc => ?_⟩
  · rcases conditionalApply_cases op d s.1 with ⟨e, -, he⟩ | ⟨u', P', -, hcom⟩
    · rw [he] at hu
      cases hu
    · exact Table.find?_eq_none_iff.1 hcom.absent op hop rfl
  · obtain ⟨-, hheld, hle⟩ := hcon.completed c hc
    refine ⟨hheld.mem, hle, hl.held hheld.mem, fun u hu => ?_⟩
    by_contra hlt
    exact (hl.commit u hu).2 (hheld.mono (by omega))

/-- A call about `op` that records nothing, or a readback `op` was given. -/
theorem Genuine.of_self {op : ExternalOperation} {h : History} {c : Call × Machine.Fate}
    (hc : c.1.elim ProviderCall.operation? EvidenceCall.operation? = some op)
    (hread : ∀ id e, c.1 = .inr (.record op id e) → Returned h op e) : Genuine op h c :=
  ⟨fun _ ho _ => Option.some.inj (ho.symm.trans hc), hread⟩

end runs

/-! ## A sample run -/

/-- An absent readback of the sample operation is recorded, and the reply of the retry
it permits is lost. -/
def lostAckRun : List (Call × Machine.Fate) :=
  letI := sampleHashlib
  [(.inl (.read sampleOperation), .returned),
    (.inr (.record sampleOperation "read-0" (sampleAbsent 0)), .returned),
    (.inl (.conditionalApply sampleOperation (retryExactOperation sampleOperation 0)),
      .unacknowledged)]

theorem lostAckRun_genuine :
    letI := sampleHashlib
    reconcilerMachine.crashing.Guarded (Genuine sampleOperation) (.empty, .empty) lostAckRun := by
  let := sampleHashlib
  refine ((Machine.Guarded.nil.concat ?_).concat ?_).concat ?_
  · exact .of_self rfl fun _ _ h => by cases h
  · refine .of_self rfl fun id e h => ?_
    cases h
    exact (Machine.mem_history _).2 ⟨[], [], rfl, by decide⟩
  · exact .of_self rfl fun _ _ h => by cases h

/-- After the lost reply another worker reads, records and completes. -/
def completedRun : List (Call × Machine.Fate) :=
  lostAckRun ++ [(.inl (.read sampleOperation), .returned)] ++
    [(.inr (.record sampleOperation "read-1" (samplePresent 1)), .returned)] ++
    [(.inr (.markReconciled sampleOperation "read-1" acceptRemoteCommit), .returned)]

theorem completedRun_genuine :
    letI := sampleHashlib
    reconcilerMachine.crashing.Guarded (Genuine sampleOperation) (.empty, .empty)
      completedRun := by
  let := sampleHashlib
  refine ((lostAckRun_genuine.concat ?_).concat ?_).concat ?_
  · exact .of_self rfl fun _ _ h => by cases h
  · refine .of_self rfl fun id e h => ?_
    cases h
    exact (Machine.mem_history _).2 ⟨lostAckRun, [], rfl, by decide⟩
  · exact .of_self rfl fun _ _ h => by cases h

theorem composedSafety_sample :
    letI := sampleHashlib
    let s := reconcilerMachine.crashing.after (.empty, .empty) completedRun
    ∃ c, s.2.completionOf sampleOperation.identity = some c ∧
      c.revision ≤ s.1.revision "provider-a" ∧ sampleOperation ∈ s.1.effects.rows := by
  let := sampleHashlib
  obtain ⟨-, -, -, h⟩ := composedSafety sampleOperation completedRun completedRun_genuine
  have hc : (reconcilerMachine.crashing.after (.empty, .empty) completedRun).2.completionOf
      sampleOperation.identity =
        some ⟨"provider-a", "op-1", sampleOperation.effectSha256, "read-1", 1⟩ := by decide
  exact ⟨_, hc, (h _ hc).2.1, (h _ hc).1⟩

end Reconciler

end ReliabilityLab
