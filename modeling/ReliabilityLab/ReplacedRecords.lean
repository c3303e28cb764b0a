import ReliabilityLab.TraceMutations

/-!
# Replaced records

A record of an accepted trace may be replaced by one that differs from it in its
idempotency key and effect digest only (`Accepted.replace`), if the new record is clean in
its place, the next evidence continues it where it continued the old one, and a completion
that named the old one names it. What the other records are compared with is then the same :
the records before each of them have the same event ids, first binding, last decisions,
evidence ids and revisions (`SameFacts`).
-/

set_option linter.unusedSectionVars false

open Serial

namespace ReliabilityLab

namespace TraceIntegrity

open Json

/-- `r'` differs from `r` in its idempotency key and effect digest only. -/
def Alike (r r' : Mapping) : Prop :=
  ∀ k, k ≠ "idempotency_key" → k ≠ "effect_sha256" → r'.get k = r.get k

theorem Alike.refl (r : Mapping) : Alike r r := fun _ _ _ => rfl

theorem Alike.get {r r' : Mapping} (h : Alike r r') (k : String)
    (hk : k ≠ "idempotency_key" ∧ k ≠ "effect_sha256") : r'.get k = r.get k :=
  h k hk.1 hk.2

theorem Alike.hasKind {r r' : Mapping} (h : Alike r r') {kind : String} :
    HasKind kind r' ↔ HasKind kind r := by
  unfold HasKind
  rw [h.get "kind" (by decide)]

theorem Alike.binds {r r' : Mapping} (h : Alike r r') : Binds r' ↔ Binds r := by
  rw [Binds, Binds, h.hasKind, h.hasKind]

theorem Alike.decides {r r' : Mapping} (h : Alike r r') {d : String} :
    Decides d r' ↔ Decides d r := by
  rw [Decides, Decides, h.hasKind, h.get "decision" (by decide)]

theorem Alike.bindingOf {r r' : Mapping} (h : Alike r r') : bindingOf r' = bindingOf r := by
  unfold TraceIntegrity.bindingOf
  rw [h.get "tool" (by decide), h.get "payload_sha256" (by decide)]

theorem Alike.sequenceOf {r r' : Mapping} (h : Alike r r') : sequenceOf r' = sequenceOf r := by
  unfold TraceIntegrity.sequenceOf
  rw [h.get "sequence" (by decide)]

theorem Alike.evidenceIdOf {r r' : Mapping} (h : Alike r r') :
    evidenceIdOf r' = evidenceIdOf r := by
  unfold TraceIntegrity.evidenceIdOf
  rw [h.get "evidence_id" (by decide)]

/-- What the validator remembers of the records before another one, their evidence apart. -/
structure SameFacts (done done' : List Mapping) : Prop where
  eventIds : eventIds done' = eventIds done
  binding : firstBinding done' = firstBinding done
  decision : ∀ d, lastDecision d done' = lastDecision d done
  evidenceIds : (evidenceOf done').map evidenceIdOf = (evidenceOf done).map evidenceIdOf
  revisions : revisionsOf (evidenceOf done') = revisionsOf (evidenceOf done)
  completions : (completionsOf done').length = (completionsOf done).length

section replace

variable [Hashlib] {ids : ScopeIds} {pre mid post : List Mapping} {r r' t : Mapping}

theorem map_filter_replace {α β : Type} (p : α → Prop) [DecidablePred p] (f : α → β)
    (xs ys : List α) {a a' : α} (hp : p a' ↔ p a) (hf : f a' = f a) :
    ((xs ++ a' :: ys).filter p).map f = ((xs ++ a :: ys).filter p).map f := by
  by_cases h : p a
  · simp [h, hp, hf]
  · simp [h, hp]

theorem Alike.sameFacts (h : Alike r r') : SameFacts (pre ++ r :: mid) (pre ++ r' :: mid) := by
  refine ⟨?_, ?_, fun d => ?_, ?_, ?_, ?_⟩
  · refine map_filter_replace _ _ _ _ h.hasKind ?_
    unfold eventIdOf
    rw [h.get "event_id" (by decide)]
  · unfold firstBinding
    rw [← List.head?_filter, ← List.head?_filter, ← List.head?_map, ← List.head?_map,
      map_filter_replace Binds _ _ _ h.binds h.bindingOf]
  · unfold lastDecision
    rw [← List.getLast?_map, ← List.getLast?_map,
      map_filter_replace (Decides d) _ _ _ h.decides h.sequenceOf]
  · exact map_filter_replace _ _ _ _ h.hasKind h.evidenceIdOf
  · have hrevision : (r'.get "revision").intValue? = (r.get "revision").intValue? := by
      rw [h.get "revision" (by decide)]
    have hmap := map_filter_replace (HasKind "provider_evidence")
      (fun q => (q.get "revision").intValue?) pre mid h.hasKind hrevision
    simpa [revisionsOf, evidenceOf, List.filterMap_map, Function.comp_def] using
      congrArg (List.filterMap id) hmap
  · have hmap := map_filter_replace (HasKind "reconciliation_completion") (fun _ => ()) pre mid
      h.hasKind rfl
    simpa [completionsOf] using congrArg List.length hmap

/-- A clean record is clean after records with the same facts, if their evidence allows it. -/
theorem CleanRecord.of_sameFacts {done done' : List Mapping} (h : CleanRecord ids done t)
    (hfacts : SameFacts done done')
    (hhistory : HasKind "provider_evidence" t →
      ∀ p ∈ (evidenceOf done').getLast?, Continues p t)
    (hnamed : HasKind "reconciliation_completion" t →
      ∃ e, (evidenceOf done').find? (fun q => evidenceIdOf q = evidenceIdOf t) = some e ∧
        Names t e) : CleanRecord ids done' t where
  common := h.common
  kind := h.kind
  event := by
    rw [hfacts.eventIds]
    exact h.event
  checkpoint := h.checkpoint
  operation := h.operation
  binding := by
    rw [hfacts.binding]
    exact h.binding
  approval := h.approval
  effect := by
    rw [hfacts.decision, hfacts.decision]
    exact h.effect
  evidence := by
    intro hkind
    have hclean := h.evidence hkind
    have hfresh : ∀ q ∈ evidenceOf done', evidenceIdOf q ≠ evidenceIdOf t := by
      intro q hq heq
      have hmem := List.mem_map_of_mem (f := evidenceIdOf) hq
      rw [hfacts.evidenceIds] at hmem
      obtain ⟨p, hp, hpq⟩ := List.mem_map.1 hmem
      exact hclean.fresh p hp (hpq.trans heq)
    rw [hfacts.binding]
    exact ⟨hclean.evidenceId, hfresh, hclean.revision, hclean.readback, hclean.effect,
      hhistory hkind⟩
  completion := by
    intro hkind
    have hclean := h.completion hkind
    rw [hfacts.binding, hfacts.completions]
    exact ⟨hclean.first, hclean.effect, hnamed hkind, by rw [hfacts.revisions]; exact hclean.latest⟩

theorem evidenceOf_append (xs ys : List Mapping) :
    evidenceOf (xs ++ ys) = evidenceOf xs ++ evidenceOf ys :=
  List.filter_append ..

theorem evidenceOf_cons_of_pos (hkind : HasKind "provider_evidence" r) (xs : List Mapping) :
    evidenceOf (r :: xs) = r :: evidenceOf xs :=
  List.filter_cons_of_pos (by simpa using hkind)

theorem evidenceOf_split (hkind : HasKind "provider_evidence" r) (xs ys : List Mapping) :
    evidenceOf (xs ++ r :: ys) = evidenceOf xs ++ r :: evidenceOf ys := by
  rw [evidenceOf_append, evidenceOf_cons_of_pos hkind]

theorem evidenceOf_cons_of_neg (hkind : ¬HasKind "provider_evidence" r) (xs : List Mapping) :
    evidenceOf (r :: xs) = evidenceOf xs :=
  List.filter_cons_of_neg (by simpa using hkind)

/-- The evidence before a record after the replaced one. -/
theorem evidenceOf_replace (pre mid : List Mapping) (halike : Alike r r') :
    (¬HasKind "provider_evidence" r ∧
      evidenceOf (pre ++ r' :: mid) = evidenceOf (pre ++ r :: mid)) ∨
    HasKind "provider_evidence" r ∧
      evidenceOf (pre ++ r :: mid) = evidenceOf pre ++ r :: evidenceOf mid ∧
      evidenceOf (pre ++ r' :: mid) = evidenceOf pre ++ r' :: evidenceOf mid := by
  by_cases hkind : HasKind "provider_evidence" r
  · exact Or.inr ⟨hkind, evidenceOf_split hkind _ _, evidenceOf_split (halike.hasKind.2 hkind) _ _⟩
  · refine Or.inl ⟨hkind, ?_⟩
    rw [evidenceOf_append, evidenceOf_append, evidenceOf_cons_of_neg hkind,
      evidenceOf_cons_of_neg (mt halike.hasKind.1 hkind)]

/-- What is found is what was found, or the new element in the place of the old one. -/
theorem find?_replace {α : Type} {p : α → Bool} {xs ys : List α} {a e : α}
    (a' : α) (hp : p a' = p a) (h : (xs ++ a :: ys).find? p = some e) :
    (xs ++ a' :: ys).find? p = some e ∨ e = a ∧ (xs ++ a' :: ys).find? p = some a' := by
  rw [List.find?_append] at h ⊢
  rcases hxs : xs.find? p with _ | x
  · rw [hxs, Option.none_or] at h
    rw [Option.none_or]
    rcases ha : p a with _ | _
    · rw [List.find?_cons_of_neg (by simp [ha])] at h
      rw [List.find?_cons_of_neg (by simp [hp, ha])]
      exact Or.inl h
    · rw [List.find?_cons_of_pos ha] at h
      rw [List.find?_cons_of_pos (hp.trans ha)]
      exact Or.inr ⟨(Option.some.inj h).symm, rfl⟩
  · rw [hxs, Option.some_or] at h
    exact Or.inl h

/-- What stands after the replaced record stays clean. -/
theorem CleanRecord.replace (h : CleanRecord ids (pre ++ r :: mid) t) (halike : Alike r r')
    (hnext : HasKind "provider_evidence" r → HasKind "provider_evidence" t →
      evidenceOf mid = [] → Continues r t → Continues r' t)
    (hnames : HasKind "provider_evidence" r → HasKind "reconciliation_completion" t →
      Names t r → Names t r') : CleanRecord ids (pre ++ r' :: mid) t := by
  refine h.of_sameFacts halike.sameFacts (fun hkind p hp => ?_) fun hkind => ?_
  · have hhistory := (h.evidence hkind).history
    rcases evidenceOf_replace pre mid halike with ⟨-, heq⟩ | ⟨hr, hold, hnew⟩
    · rw [heq] at hp
      exact hhistory p hp
    · rw [hold] at hhistory
      rw [hnew] at hp
      rcases hmid : evidenceOf mid with _ | ⟨q, qs⟩
      · rw [hmid] at hhistory hp
        obtain rfl : r' = p := by simpa using hp
        exact hnext hr hkind hmid (hhistory r (by simp))
      · rw [hmid] at hhistory hp
        exact hhistory p (by simpa using hp)
  · obtain ⟨e, hfind, he⟩ := (h.completion hkind).named
    rcases evidenceOf_replace pre mid halike with ⟨-, heq⟩ | ⟨hr, hold, hnew⟩
    · rw [heq]
      exact ⟨e, hfind, he⟩
    · rw [hold] at hfind
      rw [hnew]
      have hid : evidenceIdOf r' = evidenceIdOf r := halike.evidenceIdOf
      rcases find?_replace r' (by rw [hid]) hfind with hfind' | ⟨rfl, hfind'⟩
      · exact ⟨e, hfind', he⟩
      · exact ⟨r', hfind', hnames hr hkind he⟩

/-! ## Checkpoints -/

theorem CleanCheckpoint.replace (h : CleanCheckpoint r) (halike : Alike r r') :
    CleanCheckpoint r' where
  checkpointId := by
    rw [halike.get "checkpoint_id" (by decide)]
    exact h.checkpointId
  sequence := by
    rw [halike.get "checkpoint_sequence" (by decide)]
    exact h.sequence
  completed := by
    rw [halike.get "completed_count" (by decide)]
    exact h.completed
  plan := by
    rw [halike.get "plan_sha256" (by decide)]
    exact h.plan

theorem IsRoot.replace (h : IsRoot r) (halike : Alike r r') : IsRoot r' where
  parent := by
    rw [halike.get "parent_checkpoint_id" (by decide)]
    exact h.parent
  sequence := by
    rw [halike.get "checkpoint_sequence" (by decide)]
    exact h.sequence

theorem Follows.replace {p p' : Mapping} (h : Follows p r) (hp : Alike p p')
    (halike : Alike r r') : Follows p' r' where
  parent := by
    rw [halike.get "parent_checkpoint_id" (by decide),
      hp.get "checkpoint_id" (by decide)]
    exact h.parent
  sequence := by
    rw [halike.get "checkpoint_sequence" (by decide),
      hp.get "checkpoint_sequence" (by decide)]
    exact h.sequence
  plan := by
    rw [halike.get "plan_sha256" (by decide), hp.get "plan_sha256" (by decide)]
    exact h.plan
  progress := by
    rw [halike.get "completed_count" (by decide),
      hp.get "completed_count" (by decide)]
    exact h.progress

/-- Like records form a chain like theirs. -/
theorem CheckpointChain.replace {cs cs' : List Mapping} {p p' : Option Mapping}
    (hcs : List.Forall₂ Alike cs cs') (hp : Option.Rel Alike p p') (h : CheckpointChain p cs) :
    CheckpointChain p' cs' := by
  induction hcs generalizing p p' with
  | nil => trivial
  | cons halike _ ih =>
    obtain ⟨hclean, hlink, hrest⟩ := h
    refine ⟨hclean.replace halike, ?_, ih (.some halike) hrest⟩
    rcases hp with hp | _
    · exact Follows.replace hlink hp halike
    · exact IsRoot.replace hlink halike

theorem checkpointsOf_replace (halike : Alike r r') :
    List.Forall₂ Alike (checkpointsOf (pre ++ r :: post)) (checkpointsOf (pre ++ r' :: post)) := by
  have hsame : ∀ cs : List Mapping, List.Forall₂ Alike cs cs := fun cs =>
    List.forall₂_same.2 fun c _ => Alike.refl c
  unfold checkpointsOf
  rw [List.filter_append, List.filter_append]
  refine List.rel_append (hsame _) ?_
  by_cases hkind : HasKind "checkpoint" r
  · rw [List.filter_cons_of_pos (by simpa using hkind),
      List.filter_cons_of_pos (by simpa using halike.hasKind.2 hkind)]
    exact .cons halike (hsame _)
  · rw [List.filter_cons_of_neg (by simpa using hkind),
      List.filter_cons_of_neg (by simpa using mt halike.hasKind.1 hkind)]
    exact hsame _

/-! ## The replaced record -/

/-- Evidence like the next continues evidence like the previous, if its effect does. -/
theorem Continues.replace {p p' : Mapping} (h : Continues p r) (hp : Alike p p')
    (halike : Alike r r') (heffect : PyEq (p.get "revision") (r.get "revision") →
      PyEq (p.get "effect_sha256") (r.get "effect_sha256") →
      PyEq (p'.get "effect_sha256") (r'.get "effect_sha256")) : Continues p' r' := by
  intro a b ha hb
  rw [hp.get "revision" (by decide)] at ha
  rw [halike.get "revision" (by decide)] at hb
  obtain ⟨hle, hsame⟩ := h a b ha hb
  refine ⟨hle, fun hab => ?_⟩
  obtain ⟨hreadback, hsha⟩ := hsame hab
  rw [hp.get "readback" (by decide), halike.get "readback" (by decide)]
  exact ⟨hreadback, heffect ((pyEq_of_intValue? ha hb).2 hab) hsha⟩

theorem Names.replace {c : Mapping} (h : Names c r) (halike : Alike r r')
    (heffect : PyEq (r'.get "effect_sha256") (c.get "effect_sha256")) : Names c r' where
  evidenceId := by
    rw [halike.evidenceIdOf]
    exact h.evidenceId
  present := by
    rw [halike.get "readback" (by decide)]
    exact h.present
  revision := by
    rw [halike.get "revision" (by decide)]
    exact h.revision
  effect := heffect

theorem CleanBinding.alike {bound : Option (String × String)} (h : CleanBinding ids bound r)
    (halike : Alike r r') (hsha : r'.get "effect_sha256" = r.get "effect_sha256") :
    CleanBinding ids bound r' where
  tool := by
    rw [halike.get "tool" (by decide)]
    exact h.tool
  payload := by
    rw [halike.get "payload_sha256" (by decide)]
    exact h.payload
  bound := by
    rw [halike.bindingOf]
    exact h.bound
  effect := by
    rw [halike.bindingOf, hsha]
    exact h.effect

theorem CleanEvidence.alike {bound : Option (String × String)} {history : List Mapping}
    (h : CleanEvidence ids bound history r) (halike : Alike r r')
    (heffect : ∀ b ∈ bound, r'.get "effect_sha256" = .str (ids.fingerprint b))
    (hhistory : ∀ previous ∈ history.getLast?, Continues previous r') :
    CleanEvidence ids bound history r' where
  evidenceId := by
    rw [halike.get "evidence_id" (by decide)]
    exact h.evidenceId
  fresh := by
    rw [halike.evidenceIdOf]
    exact h.fresh
  revision := by
    rw [halike.get "revision" (by decide)]
    exact h.revision
  readback := by
    rw [halike.get "readback" (by decide)]
    exact h.readback
  effect := heffect
  history := hhistory

theorem CleanCompletion.alike {bound : Option (String × String)} {history : List Mapping}
    {completions : Nat} (h : CleanCompletion ids bound history completions r)
    (halike : Alike r r') (hsha : r'.get "effect_sha256" = r.get "effect_sha256") :
    CleanCompletion ids bound history completions r' where
  first := h.first
  effect := by
    rw [hsha]
    exact h.effect
  named := by
    obtain ⟨e, hfind, hnames⟩ := h.named
    rw [halike.evidenceIdOf]
    refine ⟨e, hfind, ?_, hnames.present, ?_, ?_⟩
    · rw [halike.get "evidence_id" (by decide)]
      exact hnames.evidenceId
    · rw [halike.get "revision" (by decide)]
      exact hnames.revision
    · rw [hsha]
      exact hnames.effect
  latest := by
    rw [halike.get "revision" (by decide)]
    exact h.latest

/-- A record like a clean one is clean, if its effect digest is the same or is that of
evidence that may do without. -/
theorem CleanRecord.alike (h : CleanRecord ids pre r) (halike : Alike r r')
    (hsha : ¬HasKind "provider_evidence" r → r'.get "effect_sha256" = r.get "effect_sha256")
    (hevidence : HasKind "provider_evidence" r →
      CleanEvidence ids (firstBinding pre) (evidenceOf pre) r') : CleanRecord ids pre r' where
  common := by
    obtain ⟨hid, hseq, hpos⟩ := h.common
    refine ⟨?_, ?_, ?_⟩
    · rwa [halike.get "record_id" (by decide)]
    · rwa [halike.get "sequence" (by decide), halike.sequenceOf]
    · rwa [halike.sequenceOf]
  kind := by simpa only [halike.hasKind] using h.kind
  event := by
    rw [halike.hasKind]
    intro hkind
    obtain ⟨hrun, hturn, hid, hfresh, hevent, hpayload⟩ := h.event hkind
    have heventId : r'.get "event_id" = r.get "event_id" := halike.get _ (by decide)
    refine ⟨?_, ?_, ?_, ?_, ?_, ?_⟩
    · rwa [halike.get "run_id" (by decide)]
    · rwa [halike.get "turn_id" (by decide)]
    · rwa [heventId]
    · rwa [eventIdOf, heventId]
    · rwa [halike.get "event_kind" (by decide)]
    · rwa [halike.get "payload_sha256" (by decide)]
  checkpoint := by
    rw [halike.hasKind, halike.get "run_id" (by decide)]
    exact h.checkpoint
  operation := by
    rw [halike.hasKind, halike.hasKind, halike.get "operation_id" (by decide),
      halike.get "provider" (by decide)]
    exact h.operation
  binding := by
    rw [halike.binds]
    intro hbinds
    refine (h.binding hbinds).alike halike (hsha ?_)
    rcases hbinds with hkind | hkind <;> simp [hkind.iff]
  approval := by
    rw [halike.hasKind, halike.get "decision" (by decide)]
    exact h.approval
  effect := by
    rw [halike.hasKind, halike.sequenceOf]
    exact h.effect
  evidence := by
    rw [halike.hasKind]
    exact hevidence
  completion := by
    rw [halike.hasKind]
    intro hkind
    exact (h.completion hkind).alike halike (hsha (by simp [hkind.iff]))

/-! ## Accepted traces -/

/-- A record of an accepted trace may be replaced by a like one that is clean in its place
and that the evidence and completions after it accept. -/
theorem Accepted.replace (h : Accepted ids (pre ++ r :: post)) (halike : Alike r r')
    (hclean : CleanRecord ids pre r')
    (hnext : HasKind "provider_evidence" r → ∀ n ∈ (evidenceOf post).head?,
      Continues r n → Continues r' n)
    (hnames : HasKind "provider_evidence" r → ∀ c ∈ completionsOf post, Names c r → Names c r') :
    Accepted ids (pre ++ r' :: post) where
  records := by
    have hrecords := h.records
    rw [eachAfter_append, eachAfter_cons] at hrecords ⊢
    obtain ⟨hpre, -, hpost⟩ := hrecords
    refine ⟨hpre, hclean, fun mid t after hsplit => ?_⟩
    have ht := hpost mid t after hsplit
    simp only [List.nil_append, List.append_assoc, List.singleton_append] at ht ⊢
    subst hsplit
    refine ht.replace halike (fun hr hkind hmid => hnext hr t ?_) fun hr hkind =>
      hnames hr t (by simp [completionsOf, hkind])
    rw [evidenceOf_split hkind, hmid]
    rfl
  increasing := by
    have hincreasing := h.increasing
    rw [List.map_append, List.map_cons] at hincreasing ⊢
    rwa [halike.sequenceOf]
  recordIds := by
    have hids := h.recordIds
    have hsame : recordIdOf r' = recordIdOf r := by
      unfold recordIdOf
      rw [halike.get "record_id" (by decide)]
    rw [List.map_append, List.map_cons] at hids ⊢
    rwa [hsame]
  checkpoints := CheckpointChain.replace (checkpointsOf_replace halike) .none h.checkpoints

/-- A record may be replaced by one that differs in its idempotency key only. -/
theorem Accepted.replace_same (h : Accepted ids (pre ++ r :: post)) (halike : Alike r r')
    (hsha : r'.get "effect_sha256" = r.get "effect_sha256") : Accepted ids (pre ++ r' :: post) := by
  refine h.replace halike (h.clean.alike halike (fun _ => hsha) fun hkind => ?_)
    (fun _ n _ hn => ?_) fun _ c _ hc => ?_
  · have hclean := h.clean.evidence hkind
    refine hclean.alike halike (by rw [hsha]; exact hclean.effect) fun p hp => ?_
    exact (hclean.history p hp).replace (Alike.refl p) halike fun _ heq => by rwa [hsha]
  · exact hn.replace halike (Alike.refl n) fun _ heq => by rwa [hsha]
  · exact hc.replace halike (by rw [hsha]; exact hc.effect)

end replace

end TraceIntegrity

end ReliabilityLab
