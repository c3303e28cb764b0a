import ReliabilityLab.MalformedTraces

/-!
# What acceptance guarantees

The validator looks at one record at a time, with what it remembers of those before.
Here is what follows for a whole accepted trace. `accepted_authorizes` : an effect has an
earlier approval of exactly it and no earlier denial. `accepted_evidence` : any two
evidence records agree where their revisions do, and a completion rests on the latest
evidence. `accepted_bindsOneEffect_iff` and `accepted_lineage_iff` say exactly when the
operation records share one effect and when the checkpoints are one lineage, since the
validator alone does not make it so : it leaves evidence before the first approval or
effect unchecked, and it does not compare the ids of the checkpoints.
-/

set_option linter.unusedSectionVars false

open Serial

namespace ReliabilityLab

namespace TraceIntegrity

open Json

section accepted

variable [Hashlib] {ids : ScopeIds} {rs pre post : List Mapping} {r : Mapping}

/-! ## Records of an accepted trace -/

theorem Accepted.clean (h : Accepted ids (pre ++ r :: post)) : CleanRecord ids pre r :=
  h.records pre r post rfl

theorem Accepted.clean_of_mem (h : Accepted ids rs) (hr : r ∈ rs) :
    ∃ pre post, rs = pre ++ r :: post ∧ CleanRecord ids pre r := by
  obtain ⟨pre, post, rfl⟩ := List.append_of_mem hr
  exact ⟨pre, post, rfl, h.clean⟩

/-- Earlier records have smaller sequences. -/
theorem Accepted.sequence_lt (h : Accepted ids (pre ++ r :: post)) :
    ∀ q ∈ pre, sequenceOf q < sequenceOf r := by
  intro q hq
  have hinc := h.increasing
  rw [List.map_append, List.pairwise_append] at hinc
  exact hinc.2.2 _ (List.mem_map_of_mem hq) _ (List.mem_map_of_mem List.mem_cons_self)

/-! ## The binding -/

theorem firstBinding_append (xs ys : List Mapping) :
    firstBinding (xs ++ ys) = (firstBinding xs).or (firstBinding ys) := by
  unfold firstBinding
  rw [List.find?_append]
  rcases xs.find? fun r => Binds r with _ | b <;> rfl

theorem firstBinding_cons (hr : Binds r) (xs : List Mapping) :
    firstBinding (r :: xs) = some (bindingOf r) := by
  simp [firstBinding, hr]

theorem firstBinding_eq_none : firstBinding rs = none ↔ ∀ q ∈ rs, ¬Binds q := by
  simp [firstBinding]

/-- Every approval and effect carries the first binding. -/
theorem Accepted.firstBinding_eq (h : Accepted ids rs) (hr : r ∈ rs) (hb : Binds r) :
    firstBinding rs = some (bindingOf r) := by
  obtain ⟨pre, post, rfl, hclean⟩ := h.clean_of_mem hr
  rw [firstBinding_append, firstBinding_cons hb]
  rcases hpre : firstBinding pre with _ | b
  · rfl
  · rw [(hclean.binding hb).bound b hpre]
    rfl

/-- Once there is an approval or effect, the records so far have the binding of all. -/
theorem firstBinding_pre {q : Mapping} (hq : q ∈ pre) (hb : Binds q) :
    firstBinding pre = firstBinding (pre ++ post) := by
  rcases hpre : firstBinding pre with _ | b
  · exact absurd hb (firstBinding_eq_none.1 hpre q hq)
  · rw [firstBinding_append, hpre]
    rfl

/-- An approval or effect brings its binding. -/
theorem CleanBinding.boundBy_eq {bound : Option (String × String)} (h : CleanBinding ids bound r)
    (hb : Binds r) : boundBy (.dict r) = some (bindingOf r) := by
  rw [boundBy, if_pos hb, candidateBinding?_of_clean h.tool h.payload]

/-- What a record of an accepted trace binds is the first binding. -/
theorem Accepted.boundBy_eq (h : Accepted ids rs) (hr : r ∈ rs) :
    boundBy (.dict r) = if Binds r then firstBinding rs else none := by
  split_ifs with hb
  · obtain ⟨_, _, -, hclean⟩ := h.clean_of_mem hr
    rw [(hclean.binding hb).boundBy_eq hb, h.firstBinding_eq hr hb]
  · exact if_neg hb

theorem CleanBinding.tool_eq {bound : Option (String × String)} (h : CleanBinding ids bound r) :
    r.get "tool" = .str (bindingOf r).1 :=
  h.tool.1

theorem CleanBinding.payload_eq {bound : Option (String × String)}
    (h : CleanBinding ids bound r) : r.get "payload_sha256" = .str (bindingOf r).2 :=
  isSha256_eq h.payload

/-! ## Approvals and effects -/

/-- The record names the provider and operation of the scope. -/
def InScope (ids : ScopeIds) (r : Mapping) : Prop :=
  r.get "provider" = .str ids.provider ∧ r.get "operation_id" = .str ids.operationId

/-- A record with a tool and payload carries their fingerprint. -/
def Fingerprinted (ids : ScopeIds) (r : Mapping) : Prop :=
  ∃ tool payload, r.get "tool" = .str tool ∧ r.get "payload_sha256" = .str payload ∧
    r.get "effect_sha256" = .str (effectFingerprint ids.provider ids.operationId tool payload)

/-- The approval `a` approves exactly the effect `e`. -/
structure Approves (a e : Mapping) : Prop where
  decision : Decides "approved" a
  tool : a.get "tool" = e.get "tool"
  payload : a.get "payload_sha256" = e.get "payload_sha256"
  effect : a.get "effect_sha256" = e.get "effect_sha256"

theorem Binds.inScope {done : List Mapping} (hb : Binds r) (h : CleanRecord ids done r) :
    InScope ids r := by
  rcases hb with hb | hb
  · exact (h.scope hb).symm
  · exact (h.scope hb).symm

/-- A record of the last approval that approves, if there is a sequence of one. -/
theorem exists_of_lastDecision {d : String} {n : Int} (h : lastDecision d rs = some n) :
    ∃ a ∈ rs, Decides d a ∧ sequenceOf a = n := by
  obtain ⟨a, ha, hn⟩ := Option.map_eq_some_iff.1 h
  have hmem := List.mem_of_getLast? ha
  rw [List.mem_filter, decide_eq_true_eq] at hmem
  exact ⟨a, hmem.1, hmem.2, hn⟩

theorem lastDecision_ne_none {d : String} (hr : r ∈ rs) (hd : Decides d r) :
    lastDecision d rs ≠ none := by
  unfold lastDecision
  rw [ne_eq, Option.map_eq_none_iff, List.getLast?_eq_none_iff, List.filter_eq_nil_iff]
  exact fun h => h r hr (by simpa using hd)

/-- Two records with the first binding carry one tool, payload and fingerprint. -/
theorem Accepted.same_binding (h : Accepted ids rs) {q : Mapping} (hq : q ∈ rs) (hr : r ∈ rs)
    (hbq : Binds q) (hbr : Binds r) :
    q.get "tool" = r.get "tool" ∧ q.get "payload_sha256" = r.get "payload_sha256" ∧
      q.get "effect_sha256" = r.get "effect_sha256" := by
  have hsame : bindingOf q = bindingOf r :=
    Option.some.inj ((h.firstBinding_eq hq hbq).symm.trans (h.firstBinding_eq hr hbr))
  obtain ⟨_, _, -, hcq⟩ := h.clean_of_mem hq
  obtain ⟨_, _, -, hcr⟩ := h.clean_of_mem hr
  have hq' := hcq.binding hbq
  have hr' := hcr.binding hbr
  exact ⟨by rw [hq'.tool_eq, hr'.tool_eq, hsame], by rw [hq'.payload_eq, hr'.payload_eq, hsame],
    by rw [hq'.effect, hr'.effect, hsame]⟩

/-- An effect has an earlier approval of exactly it. -/
theorem Accepted.exists_approval (h : Accepted ids (pre ++ r :: post)) (hr : HasKind "effect" r) :
    ∃ a ∈ pre, Approves a r ∧ InScope ids a := by
  obtain ⟨⟨n, hn, -⟩, -⟩ := h.clean.effect hr
  obtain ⟨a, ha, hdec, -⟩ := exists_of_lastDecision hn
  have hmem : a ∈ pre ++ r :: post := List.mem_append_left _ ha
  have hbinds : Binds a := Or.inl hdec.1
  obtain ⟨htool, hpayload, heffect⟩ := h.same_binding hmem (by simp) hbinds (Or.inr hr)
  obtain ⟨_, _, -, hclean⟩ := h.clean_of_mem hmem
  exact ⟨a, ha, ⟨hdec, htool, hpayload, heffect⟩, hbinds.inScope hclean⟩

/-- An effect has no earlier denial. -/
theorem Accepted.no_denial (h : Accepted ids (pre ++ r :: post)) (hr : HasKind "effect" r) :
    ∀ d ∈ pre, ¬Decides "denied" d := by
  intro d hd hdec
  obtain ⟨m, hm⟩ := Option.ne_none_iff_exists'.1 (lastDecision_ne_none hd hdec)
  obtain ⟨d', hd', -, rfl⟩ := exists_of_lastDecision hm
  have hle := (h.clean.effect hr).2 _ hm
  have hlt := h.sequence_lt d' hd'
  omega

/-- In an accepted trace every effect follows an approval of exactly it and no denial,
both in the scope, and all approvals and effects carry one tool and payload with their
fingerprint. -/
theorem accepted_authorizes (trace : Mapping) (h : validateTraceText trace = .ok []) :
    ∃ ids rs, Reads trace ids rs ∧
      (∀ pre e post, rs = pre ++ e :: post → HasKind "effect" e →
        InScope ids e ∧ Fingerprinted ids e ∧
          (∃ a ∈ pre, Approves a e ∧ InScope ids a) ∧ ∀ d ∈ pre, ¬Decides "denied" d) ∧
      ∀ q ∈ rs, ∀ r ∈ rs, Binds q → Binds r →
        q.get "tool" = r.get "tool" ∧ q.get "payload_sha256" = r.get "payload_sha256" := by
  obtain ⟨ids, rs, hreads, hacc, -⟩ := validateTraceText_eq_nil.1 h
  refine ⟨ids, rs, hreads, ?_, fun q hq r hr hbq hbr => ?_⟩
  · rintro pre e post rfl he
    have hbinds : Binds e := Or.inr he
    have hbinding := hacc.clean.binding hbinds
    exact ⟨hbinds.inScope hacc.clean,
      ⟨_, _, hbinding.tool_eq, hbinding.payload_eq, hbinding.effect⟩,
      hacc.exists_approval he, hacc.no_denial he⟩
  · obtain ⟨htool, hpayload, -⟩ := hacc.same_binding hq hr hbq hbr
    exact ⟨htool, hpayload⟩

/-! ## Evidence -/

theorem mem_evidenceOf : r ∈ evidenceOf rs ↔ r ∈ rs ∧ HasKind "provider_evidence" r := by
  simp [evidenceOf]

theorem evidenceOf_subset : evidenceOf pre ⊆ evidenceOf (pre ++ post) := by
  intro q hq
  rw [mem_evidenceOf] at hq ⊢
  exact ⟨List.mem_append_left _ hq.1, hq.2⟩

/-- The revision of a record, if it is an integer. -/
def revisionOf (r : Mapping) : Int :=
  (r.get "revision").intValue?.getD 0

/-- The evidence `q` and the later evidence `r` do not contradict each other. -/
structure Agrees (q r : Mapping) : Prop where
  revision : revisionOf q ≤ revisionOf r
  readback : revisionOf q = revisionOf r → PyEq (q.get "readback") (r.get "readback")
  effect : revisionOf q = revisionOf r → PyEq (q.get "effect_sha256") (r.get "effect_sha256")

theorem Agrees.trans {a b c : Mapping} (hab : Agrees a b) (hbc : Agrees b c) : Agrees a c := by
  have hab' := hab.revision
  have hbc' := hbc.revision
  -- equal revisions at the ends squeeze the one in between
  exact ⟨hab'.trans hbc',
    fun h => (hab.readback (by omega)).trans (hbc.readback (by omega)),
    fun h => (hab.effect (by omega)).trans (hbc.effect (by omega))⟩

theorem Accepted.revision_eq (h : Accepted ids rs) (hr : r ∈ evidenceOf rs) :
    r.get "revision" = .int (revisionOf r) ∧ 0 ≤ revisionOf r := by
  obtain ⟨hmem, hkind⟩ := mem_evidenceOf.1 hr
  obtain ⟨_, _, -, hclean⟩ := h.clean_of_mem hmem
  obtain ⟨n, hn, hpos⟩ := (hclean.evidence hkind).revision
  have heq : revisionOf r = n := by rw [revisionOf, hn]; rfl
  rw [heq]
  exact ⟨hn, hpos⟩

theorem Accepted.revision_value (h : Accepted ids rs) (hr : r ∈ evidenceOf rs) :
    (r.get "revision").intValue? = some (revisionOf r) := by
  rw [(h.revision_eq hr).1]
  rfl

/-- Evidence does not contradict the evidence just before it. -/
theorem Accepted.agrees_last (h : Accepted ids (pre ++ r :: post))
    (hkind : HasKind "provider_evidence" r) : ∀ q ∈ (evidenceOf pre).getLast?, Agrees q r := by
  intro q hq
  have hq' : q ∈ evidenceOf (pre ++ r :: post) :=
    evidenceOf_subset (List.mem_of_getLast? hq)
  have hr : r ∈ evidenceOf (pre ++ r :: post) := mem_evidenceOf.2 ⟨by simp, hkind⟩
  obtain ⟨hle, hsame⟩ := (h.clean.evidence hkind).history q hq _ _ (h.revision_value hq')
    (h.revision_value hr)
  exact ⟨hle, fun heq => (hsame heq).1, fun heq => (hsame heq).2⟩

/-- Any two evidence records do not contradict each other. -/
theorem Accepted.evidence_pairwise (h : Accepted ids rs) : (evidenceOf rs).Pairwise Agrees := by
  refine EachAfter.pairwise_filter Agrees.trans fun pre r post hrs hkind => ?_
  subst hrs
  exact h.agrees_last (by simpa using hkind)

theorem Accepted.evidenceIds_nodup (h : Accepted ids rs) :
    ((evidenceOf rs).map fun r => r.get "evidence_id").Nodup := by
  rw [List.nodup_iff_pairwise_ne, List.pairwise_map]
  refine EachAfter.pairwise_filter_of_all fun pre r post hrs hkind q hq heq => ?_
  subst hrs
  have hclean := h.clean.evidence (by simpa using hkind)
  refine hclean.fresh q hq ?_
  rw [evidenceIdOf, evidenceIdOf, heq]

theorem Accepted.completions_le_one (h : Accepted ids rs) : (completionsOf rs).length ≤ 1 := by
  have hpairs : (completionsOf rs).Pairwise fun _ _ => False := by
    refine EachAfter.pairwise_filter_of_all fun pre r post hrs hkind q hq => ?_
    subst hrs
    have hfirst := (h.clean.completion (by simpa using hkind)).first
    exact List.ne_nil_of_mem hq (List.length_eq_zero_iff.1 hfirst)
  rcases hc : completionsOf rs with _ | ⟨a, _ | ⟨b, cs⟩⟩
  · simp
  · simp
  · rw [hc] at hpairs
    exact absurd (List.rel_of_pairwise_cons hpairs List.mem_cons_self) id

/-- The evidence that justifies a completion. -/
structure Justifies (history : List Mapping) (c e : Mapping) : Prop where
  mem : e ∈ history
  evidenceId : c.get "evidence_id" = e.get "evidence_id"
  present : e.get "readback" = .str "present"
  revision : PyEq (e.get "revision") (c.get "revision")
  effect : PyEq (e.get "effect_sha256") (c.get "effect_sha256")
  latest : ∀ q ∈ history, revisionOf q ≤ revisionOf e
  last : ∃ last ∈ history.getLast?, last.get "readback" = .str "present" ∧
    PyEq (last.get "revision") (c.get "revision")

theorem mem_revisionsOf {n : Int} :
    n ∈ revisionsOf rs ↔ ∃ q ∈ rs, (q.get "revision").intValue? = some n := by
  simp [revisionsOf]

/-- The evidence a completion names justifies it. -/
theorem Accepted.justified (h : Accepted ids (pre ++ r :: post))
    (hkind : HasKind "reconciliation_completion" r) : ∃ e, Justifies (evidenceOf pre) r e := by
  have hclean := h.clean.completion hkind
  obtain ⟨e, hfind, hnames⟩ := hclean.named
  have he : e ∈ evidenceOf pre := List.mem_of_find?_eq_some hfind
  have hvalue : ∀ q ∈ evidenceOf pre, (q.get "revision").intValue? = some (revisionOf q) :=
    fun q hq => h.revision_value (evidenceOf_subset hq)
  have hpre : (evidenceOf pre).Pairwise Agrees := by
    have hall := h.evidence_pairwise
    rw [evidenceOf, List.filter_append] at hall
    exact (List.pairwise_append.1 hall).1
  have hlatest : ∀ q ∈ evidenceOf pre, revisionOf q ≤ revisionOf e := by
    intro q hq
    have hmem := mem_revisionsOf.2 ⟨q, hq, hvalue q hq⟩
    obtain ⟨m, hm⟩ := Option.isSome_iff_exists.1 (List.isSome_max?_of_mem hmem)
    have heq : PyEq (e.get "revision") (.int m) := hnames.revision.trans (hclean.latest m hm)
    rw [pyEq_of_intValue? (hvalue e he) rfl] at heq
    have hle := (List.max?_eq_some_iff.1 hm).2 _ hmem
    omega
  obtain ⟨init, last, hinit⟩ : ∃ init last, evidenceOf pre = init ++ [last] := by
    simpa using (List.eq_nil_or_concat (evidenceOf pre)).resolve_left (List.ne_nil_of_mem he)
  have hlast : (evidenceOf pre).getLast? = some last := by simp [hinit]
  -- the last evidence is no older than the one named, so it agrees with it
  have hagrees : e = last ∨ Agrees e last := by
    rw [hinit, List.mem_append, List.mem_singleton] at he
    rw [hinit, List.pairwise_append] at hpre
    rcases he with he | he
    · exact Or.inr (hpre.2.2 e he last (by simp))
    · exact Or.inl he
  refine ⟨e, he, ?_, hnames.present, hnames.revision, hnames.effect, hlatest, last, hlast, ?_⟩
  · obtain ⟨_, _, -, hce⟩ := h.clean_of_mem (List.mem_append_left _ (mem_evidenceOf.1 he).1)
    rw [hnames.evidenceId, evidenceIdOf, ← (hce.evidence (mem_evidenceOf.1 he).2).evidenceId.1]
  · rcases hagrees with rfl | hagrees
    · exact ⟨hnames.present, hnames.revision⟩
    · have hmem := List.mem_of_getLast? hlast
      have heq : revisionOf e = revisionOf last := le_antisymm hagrees.revision (hlatest last hmem)
      have hread := (hagrees.readback heq).symm
      rw [hnames.present, pyEq_str] at hread
      refine ⟨hread, PyEq.trans ?_ hnames.revision⟩
      rw [pyEq_of_intValue? (hvalue last hmem) (hvalue e he), heq]

/-- In an accepted trace the revisions of the evidence never decrease, any two evidence
records of one revision agree, evidence ids are distinct, and there is at most one
completion, which rests on the latest evidence before it. -/
theorem accepted_evidence (trace : Mapping) (h : validateTraceText trace = .ok []) :
    ∃ ids rs, Reads trace ids rs ∧
      (∀ r ∈ evidenceOf rs, r.get "revision" = .int (revisionOf r) ∧ 0 ≤ revisionOf r) ∧
      (evidenceOf rs).Pairwise Agrees ∧
      ((evidenceOf rs).map fun r => r.get "evidence_id").Nodup ∧
      (completionsOf rs).length ≤ 1 ∧
      ∀ pre c post, rs = pre ++ c :: post → HasKind "reconciliation_completion" c →
        ∃ e, Justifies (evidenceOf pre) c e := by
  obtain ⟨ids, rs, hreads, hacc, -⟩ := validateTraceText_eq_nil.1 h
  refine ⟨ids, rs, hreads, fun r hr => hacc.revision_eq hr, hacc.evidence_pairwise,
    hacc.evidenceIds_nodup, hacc.completions_le_one, ?_⟩
  rintro pre c post rfl hkind
  exact hacc.justified hkind

/-! ## One effect -/

/-- An approval, an effect, an evidence record or a completion. -/
def IsOperation (r : Mapping) : Prop :=
  Binds r ∨ HasKind "provider_evidence" r ∨ HasKind "reconciliation_completion" r

/-- The fingerprint of the tool and payload of an approval or effect of the trace. -/
def Expects (ids : ScopeIds) (rs : List Mapping) (fingerprint : String) : Prop :=
  ∃ b ∈ rs, Binds b ∧ ∃ tool payload, b.get "tool" = .str tool ∧
    b.get "payload_sha256" = .str payload ∧
    fingerprint = effectFingerprint ids.provider ids.operationId tool payload

/-- Every operation record carries the fingerprint that the approvals and effects bind. -/
def BindsOneEffect (ids : ScopeIds) (rs : List Mapping) : Prop :=
  ∀ fingerprint, Expects ids rs fingerprint →
    ∀ r ∈ rs, IsOperation r → r.get "effect_sha256" = .str fingerprint

/-- The evidence before the first approval or effect carries the fingerprint. -/
def EarlyEvidenceBound (ids : ScopeIds) (rs : List Mapping) : Prop :=
  ∀ fingerprint, Expects ids rs fingerprint → ∀ pre r post, rs = pre ++ r :: post →
    HasKind "provider_evidence" r → (∀ q ∈ pre, ¬Binds q) →
    r.get "effect_sha256" = .str fingerprint

theorem Accepted.expects_iff (h : Accepted ids rs) {fingerprint : String} :
    Expects ids rs fingerprint ↔
      ∃ b, firstBinding rs = some b ∧ fingerprint = ids.fingerprint b := by
  refine ⟨?_, ?_⟩
  · rintro ⟨b, hb, hbinds, tool, payload, htool, hpayload, rfl⟩
    refine ⟨_, h.firstBinding_eq hb hbinds, ?_⟩
    simp [bindingOf, htool, hpayload, text, ScopeIds.fingerprint]
  · rintro ⟨b, hb, rfl⟩
    obtain ⟨q, hq, rfl⟩ := Option.map_eq_some_iff.1 hb
    have hmem := List.mem_of_find?_eq_some hq
    have hbinds : Binds q := by simpa using List.find?_some hq
    obtain ⟨_, _, -, hclean⟩ := h.clean_of_mem hmem
    have hbinding := hclean.binding hbinds
    exact ⟨q, hmem, hbinds, _, _, hbinding.tool_eq, hbinding.payload_eq, rfl⟩

/-- Evidence carries the fingerprint if early evidence does. -/
theorem Accepted.evidence_effect (h : Accepted ids rs) (hearly : EarlyEvidenceBound ids rs)
    {fingerprint : String} (hexp : Expects ids rs fingerprint) (hr : r ∈ evidenceOf rs) :
    r.get "effect_sha256" = .str fingerprint := by
  obtain ⟨hmem, hkind⟩ := mem_evidenceOf.1 hr
  obtain ⟨pre, post, rfl, hclean⟩ := h.clean_of_mem hmem
  by_cases hpre : ∀ q ∈ pre, ¬Binds q
  · exact hearly fingerprint hexp pre r post rfl hkind hpre
  · push Not at hpre
    obtain ⟨q, hq, hbinds⟩ := hpre
    obtain ⟨b, hb, rfl⟩ := h.expects_iff.1 hexp
    exact (hclean.evidence hkind).effect b ((firstBinding_pre hq hbinds).trans hb)

/-- In an accepted trace every operation record carries the one fingerprint exactly if the
evidence before the first approval or effect does. -/
theorem accepted_bindsOneEffect_iff (trace : Mapping) (h : validateTraceText trace = .ok []) :
    ∃ ids rs, Reads trace ids rs ∧ (BindsOneEffect ids rs ↔ EarlyEvidenceBound ids rs) := by
  obtain ⟨ids, rs, hreads, hacc, -⟩ := validateTraceText_eq_nil.1 h
  refine ⟨ids, rs, hreads, fun hall fingerprint hexp pre r post hrs hkind _ => ?_,
    fun hearly fingerprint hexp r hr hop => ?_⟩
  · exact hall fingerprint hexp r (by simp [hrs]) (Or.inr (Or.inl hkind))
  · rcases hop with hbinds | hkind | hkind
    · obtain ⟨b, hb, rfl⟩ := hacc.expects_iff.1 hexp
      obtain ⟨_, _, -, hclean⟩ := hacc.clean_of_mem hr
      obtain rfl := Option.some.inj (hb.symm.trans (hacc.firstBinding_eq hr hbinds))
      exact (hclean.binding hbinds).effect
    · exact hacc.evidence_effect hearly hexp (mem_evidenceOf.2 ⟨hr, hkind⟩)
    -- a completion carries the fingerprint of the evidence it names
    · obtain ⟨pre, post, rfl, -⟩ := hacc.clean_of_mem hr
      obtain ⟨e, he⟩ := hacc.justified hkind
      have heffect := hacc.evidence_effect hearly hexp (evidenceOf_subset he.mem)
      have hsame := he.effect.symm
      rwa [heffect, pyEq_str] at hsame

end accepted

/-! ## Sample traces -/

/-- The effect of the baseline trace is approved. -/
theorem accepted_authorizes_sample :
    letI := traceHashlib
    ∃ ids rs, Reads (sampleTrace retryThenReconcile) ids rs ∧
      (∀ pre e post, rs = pre ++ e :: post → HasKind "effect" e →
        InScope ids e ∧ Fingerprinted ids e ∧
          (∃ a ∈ pre, Approves a e ∧ InScope ids a) ∧ ∀ d ∈ pre, ¬Decides "denied" d) ∧
      ∀ q ∈ rs, ∀ r ∈ rs, Binds q → Binds r →
        q.get "tool" = r.get "tool" ∧ q.get "payload_sha256" = r.get "payload_sha256" :=
  letI := traceHashlib
  accepted_authorizes (sampleTrace retryThenReconcile) retryThenReconcile_accepted

/-- The completion of the baseline trace rests on its evidence. -/
theorem accepted_evidence_sample :
    letI := traceHashlib
    ∃ ids rs, Reads (sampleTrace retryThenReconcile) ids rs ∧
      (∀ r ∈ evidenceOf rs, r.get "revision" = .int (revisionOf r) ∧ 0 ≤ revisionOf r) ∧
      (evidenceOf rs).Pairwise Agrees ∧
      ((evidenceOf rs).map fun r => r.get "evidence_id").Nodup ∧
      (completionsOf rs).length ≤ 1 ∧
      ∀ pre c post, rs = pre ++ c :: post → HasKind "reconciliation_completion" c →
        ∃ e, Justifies (evidenceOf pre) c e :=
  letI := traceHashlib
  accepted_evidence (sampleTrace retryThenReconcile) retryThenReconcile_accepted

/-- Every operation record of the baseline trace carries the one fingerprint exactly if
its early evidence does. -/
theorem accepted_bindsOneEffect_iff_sample :
    letI := traceHashlib
    ∃ ids rs, Reads (sampleTrace retryThenReconcile) ids rs ∧
      (BindsOneEffect ids rs ↔ EarlyEvidenceBound ids rs) :=
  letI := traceHashlib
  accepted_bindsOneEffect_iff (sampleTrace retryThenReconcile) retryThenReconcile_accepted

/-- Evidence of another effect, and the approval after it. -/
def earlyEvidence : List Mapping :=
  [[("effect_sha256", .str samplePlan), ("evidence_id", .str "ev-3-absent"),
      ("kind", .str "provider_evidence"), ("operation_id", .str "op-17"),
      ("provider", .str "local-provider"), ("readback", .str "absent"),
      ("record_id", .str "r1"), ("revision", .int 3), ("sequence", .int 1)],
    [("decision", .str "approved"), ("effect_sha256", .str sampleEffect),
      ("kind", .str "approval"), ("operation_id", .str "op-17"),
      ("payload_sha256", .str samplePayload), ("provider", .str "local-provider"),
      ("record_id", .str "r2"), ("sequence", .int 2), ("tool", .str "record_note")]]

/-- The identifiers of the scope of `sampleTrace`. -/
def sampleIds : ScopeIds :=
  ⟨"run-42", "turn-parent", "local-provider", "op-17", by decide, by decide, by decide, by decide⟩

/-- Acceptance alone does not bind the evidence before the first approval. -/
theorem earlyEvidence_unbound :
    letI := traceHashlib
    ¬∀ trace, validateTraceText trace = .ok [] → ∀ ids rs, Reads trace ids rs →
      BindsOneEffect ids rs := by
  let := traceHashlib
  intro h
  have hbinds := h (sampleTrace earlyEvidence) (by decide +kernel) sampleIds earlyEvidence
    ⟨⟨_, rfl, rfl⟩, rfl⟩ sampleEffect
    ⟨_, List.mem_of_getElem? (i := 1) rfl, by decide, _, _, rfl, rfl, rfl⟩
    _ (List.mem_of_getElem? (i := 0) rfl) (Or.inr (Or.inl (by decide)))
  exact absurd hbinds (by decide)

end TraceIntegrity

end ReliabilityLab
