import ReliabilityLab.ReplacedRecords

/-!
# Required fields

The trace schema lists the fields that every record has and those of each kind. The
validator never asks whether a field is there : it reads a missing one as `None` and
compares. `Enforced` says of a required field of a record when some comparison is left
that `None` fails. There is none for the idempotency key of an effect and for the parent
of the first checkpoint. The effect digest of evidence or of a completion before the first
approval or effect is compared with that of other evidence only.

`requiredFields_enforced` : a record that lacks an enforced field is always detected, and
removing a required field from an accepted trace is detected exactly if it is enforced.
The second half needs that a record of an accepted trace may be replaced where nothing
looks at the difference (`Accepted.replace`).
-/

set_option linter.unusedSectionVars false

open Serial

namespace ReliabilityLab

namespace TraceIntegrity

open Json PyJson

/-! ## The schema -/

/-- `common_record_required`. -/
def commonRequired : List String :=
  ["record_id", "sequence", "kind"]

/-- The required fields of a kind of record. -/
def kindRequired : String → List String
  | "approval" =>
    ["provider", "operation_id", "tool", "payload_sha256", "effect_sha256", "decision"]
  | "checkpoint" =>
    ["run_id", "checkpoint_id", "parent_checkpoint_id", "checkpoint_sequence", "plan_sha256",
      "completed_count"]
  | "effect" =>
    ["provider", "operation_id", "tool", "payload_sha256", "effect_sha256", "idempotency_key"]
  | "provider_evidence" =>
    ["provider", "operation_id", "evidence_id", "revision", "readback", "effect_sha256"]
  | "reconciliation_completion" =>
    ["provider", "operation_id", "evidence_id", "revision", "effect_sha256"]
  | "runtime_event" => ["event_id", "run_id", "turn_id", "event_kind", "payload_sha256"]
  | _ => []

/-- The schema requires the field of records of the kind. -/
def Required (kind field : String) : Prop :=
  field ∈ commonRequired ∨ field ∈ kindRequired kind

instance (kind field : String) : Decidable (Required kind field) :=
  inferInstanceAs (Decidable (_ ∨ _))

/-- Another record than the evidence `r` says what its effect is. -/
def EvidenceFixed (pre : List Mapping) (r : Mapping) (post : List Mapping) : Prop :=
  (∃ q ∈ pre, Binds q) ∨
    (∃ p ∈ (evidenceOf pre).getLast?, PyEq (p.get "revision") (r.get "revision") ∧
      p.get "effect_sha256" ≠ .null) ∨
    (∃ n ∈ (evidenceOf post).head?, PyEq (r.get "revision") (n.get "revision") ∧
      n.get "effect_sha256" ≠ .null) ∨
    ∃ c ∈ completionsOf post, c.get "evidence_id" = r.get "evidence_id" ∧
      c.get "effect_sha256" ≠ .null

/-- Another record than the completion `r` says what its effect is. -/
def CompletionFixed (pre : List Mapping) (r : Mapping) : Prop :=
  (∃ q ∈ pre, Binds q) ∨ ∃ e ∈ evidenceOf pre, e.get "evidence_id" = r.get "evidence_id" ∧
    e.get "effect_sha256" ≠ .null

/-- The validator has a comparison that fails if the record `r`, between `pre` and `post`,
lacks the field. -/
def Enforced (pre : List Mapping) (r : Mapping) (post : List Mapping) : String → String → Prop
  | "effect", "idempotency_key" => False
  | "checkpoint", "parent_checkpoint_id" => checkpointsOf pre ≠ []
  | "provider_evidence", "effect_sha256" => EvidenceFixed pre r post
  | "reconciliation_completion", "effect_sha256" => CompletionFixed pre r
  | _, _ => True

/-- The required fields of a kind whose check depends on other records, or is missing. -/
def conditionalFields : String → List String
  | "effect" => ["idempotency_key"]
  | "checkpoint" => ["parent_checkpoint_id"]
  | "provider_evidence" => ["effect_sha256"]
  | "reconciliation_completion" => ["effect_sha256"]
  | _ => []

theorem enforced_of_unconditional {pre post : List Mapping} {r : Mapping} {kind field : String}
    (h : field ∉ conditionalFields kind) : Enforced pre r post kind field := by
  unfold Enforced
  split
  · exact absurd (by decide) h
  · exact absurd (by decide) h
  · exact absurd (by decide) h
  · exact absurd (by decide) h
  · trivial

section required

variable [Hashlib] {ids : ScopeIds} {pre mid post : List Mapping} {r r' : Mapping}

/-! ## Missing fields -/

/-- After a record that binds the effect there is a first binding. -/
theorem exists_firstBinding {rs : List Mapping} (h : ∃ q ∈ rs, Binds q) :
    ∃ b, firstBinding rs = some b := by
  obtain ⟨q, hq, hbinds⟩ := h
  exact Option.ne_none_iff_exists'.1 fun hnone => firstBinding_eq_none.1 hnone q hq hbinds

/-- Two evidence records of one id are one record. -/
theorem Accepted.evidence_inj {rs : List Mapping} (h : Accepted ids rs) {p q : Mapping}
    (hp : p ∈ evidenceOf rs) (hq : q ∈ evidenceOf rs)
    (heq : p.get "evidence_id" = q.get "evidence_id") : p = q :=
  List.inj_on_of_nodup_map h.evidenceIds_nodup hp hq heq

/-- Evidence of the same revision as earlier evidence has its effect. -/
theorem Agrees.effect_of_revision {rs : List Mapping} (h : Accepted ids rs) {p q : Mapping}
    (hp : p ∈ evidenceOf rs) (hq : q ∈ evidenceOf rs) (hagrees : Agrees p q)
    (hrev : PyEq (p.get "revision") (q.get "revision")) :
    PyEq (p.get "effect_sha256") (q.get "effect_sha256") := by
  rw [pyEq_of_intValue? (h.revision_value hp) (h.revision_value hq)] at hrev
  exact hagrees.effect hrev

/-- Evidence without an effect is fixed by no other record. -/
theorem Accepted.not_evidenceFixed (h : Accepted ids (pre ++ r :: post))
    (hkind : HasKind "provider_evidence" r) (hnull : r.get "effect_sha256" = .null) :
    ¬EvidenceFixed pre r post := by
  have hr : r ∈ evidenceOf (pre ++ r :: post) := mem_evidenceOf.2 ⟨by simp, hkind⟩
  have hpairs := h.evidence_pairwise
  rw [evidenceOf_split hkind, List.pairwise_append, List.pairwise_cons] at hpairs
  obtain ⟨-, ⟨hafter, -⟩, hbefore⟩ := hpairs
  rintro (hbinds | ⟨p, hp, hrev, hne⟩ | ⟨n, hn, hrev, hne⟩ | ⟨c, hc, hid, hne⟩)
  · obtain ⟨b, hb⟩ := exists_firstBinding hbinds
    have heffect := (h.clean.evidence hkind).effect b hb
    simp [hnull] at heffect
  · have hp' := List.mem_of_getLast? hp
    have heffect := Agrees.effect_of_revision h (evidenceOf_subset hp') hr
      (hbefore p hp' r List.mem_cons_self) hrev
    rw [hnull, pyEq_null] at heffect
    exact hne heffect
  · have hn' := List.mem_of_mem_head? hn
    have hmem : n ∈ evidenceOf (pre ++ r :: post) := by
      rw [evidenceOf_split hkind]
      simp [hn']
    have heffect := (Agrees.effect_of_revision h hr hmem (hafter n hn') hrev).symm
    rw [hnull, pyEq_null] at heffect
    exact hne heffect
  · obtain ⟨hmem, hkind'⟩ := List.mem_filter.1 hc
    obtain ⟨before, after, rfl⟩ := List.append_of_mem hmem
    have hsplit : pre ++ r :: (before ++ c :: after) = (pre ++ r :: before) ++ c :: after := by
      simp
    rw [hsplit] at h hr
    obtain ⟨e, he⟩ := h.justified (by simpa using hkind')
    have hsame : e = r :=
      h.evidence_inj (evidenceOf_subset he.mem) hr (he.evidenceId.symm.trans hid)
    have heffect := he.effect.symm
    rw [hsame, hnull, pyEq_null] at heffect
    exact hne heffect

/-- A completion without an effect is fixed by no other record. -/
theorem Accepted.not_completionFixed (h : Accepted ids (pre ++ r :: post))
    (hkind : HasKind "reconciliation_completion" r) (hnull : r.get "effect_sha256" = .null) :
    ¬CompletionFixed pre r := by
  rintro (hbinds | ⟨e, he, hid, hne⟩)
  · obtain ⟨b, hb⟩ := exists_firstBinding hbinds
    have heffect := (h.clean.completion hkind).effect b hb
    simp [hnull] at heffect
  · obtain ⟨e', he'⟩ := h.justified hkind
    have hsame : e' = e := h.evidence_inj (evidenceOf_subset he'.mem) (evidenceOf_subset he)
      (he'.evidenceId.symm.trans hid.symm)
    have heffect := he'.effect
    rw [hsame, hnull, pyEq_null] at heffect
    exact hne heffect

theorem ne_null_of_isText {value : Json} (h : value.IsText) : value ≠ .null := by
  rintro rfl
  simp [IsText] at h

theorem ne_null_of_isSha256 {value : Json} (h : isSha256 value = true) : value ≠ .null := by
  rintro rfl
  simp [isSha256] at h

theorem ne_null_of_str {value : Json} {s : String} (h : value = .str s) : value ≠ .null := by
  simp [h]

theorem ne_null_of_mem {value : Json} {members : List String}
    (h : ∃ s ∈ members, value = .str s) : value ≠ .null := by
  obtain ⟨s, -, rfl⟩ := h
  simp

theorem ne_null_of_intValue? {value : Json} {n : Int} (h : value.intValue? = some n) :
    value ≠ .null := by
  rintro rfl
  simp [intValue?] at h

/-- The required fields of a clean approval or effect are there. -/
theorem CleanBinding.get_ne_null {bound : Option (String × String)}
    (h : CleanBinding ids bound r) :
    r.get "tool" ≠ .null ∧ r.get "payload_sha256" ≠ .null ∧ r.get "effect_sha256" ≠ .null :=
  ⟨ne_null_of_isText h.tool, ne_null_of_isSha256 h.payload, ne_null_of_str h.effect⟩

theorem CleanCommon.get_ne_null (h : CleanCommon r) :
    r.get "record_id" ≠ .null ∧ r.get "sequence" ≠ .null :=
  ⟨ne_null_of_isText h.recordId, by simp [h.sequence]⟩

/-- A record of an accepted trace has its required fields, those apart whose check depends
on other records. -/
theorem Accepted.get_ne_null (h : Accepted ids (pre ++ r :: post)) {kind field : String}
    (hkind : HasKind kind r) (hrequired : Required kind field)
    (hfield : field ∉ conditionalFields kind) : r.get field ≠ .null := by
  obtain ⟨known, hmem, hknown⟩ := h.clean.kind
  obtain rfl := hkind.iff.1 hknown
  rcases hrequired with hcommon | hrequired
  · obtain ⟨hid, hseq⟩ := h.clean.common.get_ne_null
    simp only [commonRequired, List.mem_cons, List.not_mem_nil, or_false] at hcommon
    obtain rfl | rfl | rfl := hcommon
    · exact hid
    · exact hseq
    · exact ne_null_of_str hkind
  simp only [recordKinds, List.mem_cons, List.not_mem_nil, or_false] at hmem
  obtain rfl | rfl | rfl | rfl | rfl | rfl := hmem <;>
    simp only [kindRequired, conditionalFields, List.mem_cons, List.not_mem_nil, or_false]
      at hrequired hfield
  · have hevent := h.clean.event hkind
    obtain rfl | rfl | rfl | rfl | rfl := hrequired
    · exact ne_null_of_isText hevent.eventId
    · exact ne_null_of_str hevent.runId
    · exact ne_null_of_str hevent.turnId
    · exact ne_null_of_mem hevent.eventKind
    · exact ne_null_of_isSha256 hevent.payload
  · obtain ⟨htool, hpayload, heffect⟩ := (h.clean.binding (Or.inl hkind)).get_ne_null
    obtain rfl | rfl | rfl | rfl | rfl | rfl := hrequired
    · exact ne_null_of_str (h.clean.scope hkind).2
    · exact ne_null_of_str (h.clean.scope hkind).1
    · exact htool
    · exact hpayload
    · exact heffect
    · exact ne_null_of_mem (h.clean.approval hkind)
  · obtain ⟨htool, hpayload, heffect⟩ := (h.clean.binding (Or.inr hkind)).get_ne_null
    obtain rfl | rfl | rfl | rfl | rfl | rfl := hrequired
    · exact ne_null_of_str (h.clean.scope hkind).2
    · exact ne_null_of_str (h.clean.scope hkind).1
    · exact htool
    · exact hpayload
    · exact heffect
    · exact absurd rfl hfield
  · have hclean := (checkpointChain_none.1 h.checkpoints).1 r (by simp [checkpointsOf, hkind])
    obtain ⟨n, hn, -⟩ := hclean.sequence
    obtain ⟨m, hm, -⟩ := hclean.completed
    obtain rfl | rfl | rfl | rfl | rfl | rfl := hrequired
    · exact ne_null_of_str (h.clean.checkpoint hkind)
    · exact ne_null_of_isText hclean.checkpointId
    · exact absurd rfl hfield
    · exact ne_null_of_intValue? hn
    · exact ne_null_of_isSha256 hclean.plan
    · exact ne_null_of_intValue? hm
  · have hclean := h.clean.evidence hkind
    obtain ⟨n, hn, -⟩ := hclean.revision
    obtain rfl | rfl | rfl | rfl | rfl | rfl := hrequired
    · exact ne_null_of_str (h.clean.scope hkind).2
    · exact ne_null_of_str (h.clean.scope hkind).1
    · exact ne_null_of_isText hclean.evidenceId
    · simp [hn]
    · exact ne_null_of_mem hclean.readback
    · exact absurd rfl hfield
  · obtain ⟨e, he⟩ := h.justified hkind
    obtain rfl | rfl | rfl | rfl | rfl := hrequired
    · exact ne_null_of_str (h.clean.scope hkind).2
    · exact ne_null_of_str (h.clean.scope hkind).1
    · obtain ⟨_, _, -, hclean⟩ :=
        h.clean_of_mem (List.mem_append_left _ (mem_evidenceOf.1 he.mem).1)
      rw [he.evidenceId]
      exact ne_null_of_isText (hclean.evidence (mem_evidenceOf.1 he.mem).2).evidenceId
    · intro hnull
      have hrev := he.revision
      rw [hnull, pyEq_null, (h.revision_eq (evidenceOf_subset he.mem)).1] at hrev
      cases hrev
    · exact absurd rfl hfield

/-- No field of a record of an accepted trace is both missing and enforced. -/
theorem Accepted.not_enforced (h : Accepted ids (pre ++ r :: post)) {kind field : String}
    (hkind : HasKind kind r) (hrequired : Required kind field) (hnull : r.get field = .null) :
    ¬Enforced pre r post kind field := by
  by_cases hfield : field ∈ conditionalFields kind
  · unfold conditionalFields at hfield
    split at hfield <;> simp only [List.mem_cons, List.not_mem_nil, or_false] at hfield <;>
      subst hfield
    · exact id
    · intro hne
      obtain ⟨p, hp⟩ := Option.ne_none_iff_exists'.1 fun hnone =>
        hne (List.getLast?_eq_none_iff.1 hnone)
      obtain ⟨hclean, hfollows⟩ := (h.checkpoint_link hkind).2 p hp
      have hparent := hfollows.parent.symm
      rw [hnull, pyEq_null] at hparent
      exact ne_null_of_isText hclean.checkpointId hparent
    · exact h.not_evidenceFixed hkind hnull
    · exact h.not_completionFixed hkind hnull
  · exact absurd hnull (h.get_ne_null hkind hrequired hfield)

/-! ## Removed fields -/

/-- Evidence that no other record fixes may do without its effect digest. -/
theorem Accepted.replace_evidence (h : Accepted ids (pre ++ r :: post)) (halike : Alike r r')
    (hkind : HasKind "provider_evidence" r) (hnull : r'.get "effect_sha256" = .null)
    (hfree : ¬EvidenceFixed pre r post) : Accepted ids (pre ++ r' :: post) := by
  simp only [EvidenceFixed, not_or, not_exists, not_and, not_not] at hfree
  obtain ⟨hbinding, hprevious, hnext, hnamed⟩ := hfree
  have hclean := h.clean.evidence hkind
  refine h.replace halike (h.clean.alike halike (fun hnot => absurd hkind hnot) fun _ => ?_)
    (fun _ n hn hcontinues => ?_) fun _ c hc hnames => ?_
  · refine hclean.alike halike (fun b hb => ?_) fun p hp => ?_
    · have hnone : firstBinding pre = none := firstBinding_eq_none.2 hbinding
      rw [hnone] at hb
      cases hb
    · refine (hclean.history p hp).replace (Alike.refl p) halike fun hrev _ => ?_
      rw [hnull, pyEq_null]
      exact hprevious p hp hrev
  · refine hcontinues.replace halike (Alike.refl n) fun hrev _ => ?_
    rw [hnull, hnext n hn hrev, pyEq_null]
  · obtain ⟨hmem, hc'⟩ := List.mem_filter.1 hc
    have hid : c.get "evidence_id" = r.get "evidence_id" := by
      rw [hnames.evidenceId, evidenceIdOf, ← hclean.evidenceId.1]
    refine hnames.replace halike ?_
    rw [hnull, hnamed c hc hid, pyEq_null]

theorem alike_del {field : String} (h : field = "idempotency_key" ∨ field = "effect_sha256") :
    Alike r (r.del field) := by
  intro k hid hsha
  rw [Mapping.get_del, if_neg]
  rintro rfl
  rcases h with h | h
  · exact hid h
  · exact hsha h

/-- A record with the same fields may take the place of another. -/
theorem Accepted.replace_get (h : Accepted ids (pre ++ r :: post))
    (hget : ∀ k, r'.get k = r.get k) : Accepted ids (pre ++ r' :: post) :=
  h.replace_same (fun k _ _ => hget k) (hget _)

theorem get_del_of_null {field : String} (h : r.get field = .null) (k : String) :
    (r.del field).get k = r.get k := by
  rw [Mapping.get_del]
  split_ifs with hk
  · rw [hk, h]
  · rfl

/-- A completion that no other record fixes has no effect digest. -/
theorem Accepted.completion_null (h : Accepted ids (pre ++ r :: post))
    (hkind : HasKind "reconciliation_completion" r) (hfree : ¬CompletionFixed pre r) :
    r.get "effect_sha256" = .null := by
  simp only [CompletionFixed, not_or, not_exists, not_and, not_not] at hfree
  obtain ⟨e, he⟩ := h.justified hkind
  have heffect := he.effect.symm
  rw [hfree.2 e he.mem he.evidenceId.symm, pyEq_null] at heffect
  exact heffect

/-- Whether a field is enforced does not depend on its value. -/
theorem enforced_del {kind field : String} :
    Enforced pre (r.del field) post kind field ↔ Enforced pre r post kind field := by
  unfold Enforced
  split
  · rfl
  · rfl
  · simp only [EvidenceFixed, Mapping.get_del]
    simp
  · simp only [CompletionFixed, Mapping.get_del]
    simp
  · rfl

/-- A required field of a record of an accepted trace may be removed exactly if it is not
enforced. -/
theorem Accepted.del_iff (h : Accepted ids (pre ++ r :: post)) {kind field : String}
    (hkind : HasKind kind r) (hrequired : Required kind field) :
    Accepted ids (pre ++ r.del field :: post) ↔ ¬Enforced pre r post kind field := by
  have hnull : (r.del field).get field = .null := by simp [Mapping.get_del]
  refine ⟨fun h' => ?_, fun hfree => ?_⟩
  · have hne : field ≠ "kind" := by
      rintro rfl
      obtain ⟨known, -, hknown⟩ := h'.clean.kind
      exact ne_null_of_str hknown hnull
    have hkind' : HasKind kind (r.del field) := by
      rw [HasKind, Mapping.get_del, if_neg hne.symm]
      exact hkind
    rw [← enforced_del]
    exact h'.not_enforced hkind' hrequired hnull
  · have hfield : field ∈ conditionalFields kind := by
      by_contra hnot
      exact hfree (enforced_of_unconditional hnot)
    unfold conditionalFields at hfield
    split at hfield <;> simp only [List.mem_cons, List.not_mem_nil, or_false] at hfield <;>
      subst hfield
    · exact h.replace_same (alike_del (Or.inl rfl)) (by rw [Mapping.get_del, if_neg (by decide)])
    · have hroot := (h.checkpoint_link hkind).1 (not_not.1 hfree)
      exact h.replace_get (get_del_of_null hroot.parent)
    · exact h.replace_evidence (alike_del (Or.inr rfl)) hkind hnull hfree
    · exact h.replace_get (get_del_of_null (h.completion_null hkind hfree))

/-! ## Detection -/

/-- The tags of a record without one of its fields have hashes as they have with it. -/
theorem TagsHashable.del (h : TagsHashable r) (field : String) : TagsHashable (r.del field) := by
  have hvalue : ∀ {k : String}, (r.get k).Hashable → ((r.del field).get k).Hashable := by
    intro k hk
    rw [Mapping.get_del]
    split_ifs
    · trivial
    · exact hk
  have hkind : ∀ {kind : String}, HasKind kind (r.del field) → HasKind kind r := by
    intro kind hk
    rw [HasKind, Mapping.get_del] at hk
    split_ifs at hk
    exact hk
  exact ⟨hvalue h.kind, fun hk => hvalue (h.eventKind (hkind hk)),
    fun hk => hvalue (h.decision (hkind hk)), fun hk => hvalue (h.readback (hkind hk))⟩

/-- A record that lacks an enforced field is detected, or the validator raises. -/
theorem missing_detected (trace : Mapping) (before after : List Json) (r : Mapping)
    (kind field : String) (hrecords : trace.get "records" = .list (before ++ .dict r :: after))
    (hkind : HasKind kind r) (hrequired : Required kind field) (hmissing : r.get? field = none)
    (henforced : Enforced (dictsOf before) r (dictsOf after) kind field) :
    validateTraceText trace ≠ .ok [] := by
  intro hvalidate
  obtain ⟨ids, rs, hreads, hacc, -⟩ := validateTraceText_eq_nil.1 hvalidate
  have hsplit := Json.list.inj (hrecords.symm.trans hreads.records)
  obtain ⟨pre, rest, rfl, rfl, hrest⟩ := List.map_eq_append_iff.1 hsplit.symm
  obtain ⟨r', post, rfl, hr, rfl⟩ := List.map_eq_cons_iff.1 hrest
  obtain rfl := Json.dict.inj hr
  rw [dictsOf_map, dictsOf_map] at henforced
  exact hacc.not_enforced hkind hrequired (Mapping.get_eq_null_of_get? hmissing) henforced

/-- A record without one of its fields brings no other binding than it brings with it. -/
theorem boundBy_del {field : String} {binding : String × String}
    (h : boundBy (.dict (r.del field)) = some binding) : boundBy (.dict r) = some binding := by
  have hkeep : ∀ {k text : String}, (r.del field).get k = .str text → r.get k = .str text := by
    intro k text hk
    rw [Mapping.get_del] at hk
    split_ifs at hk
    exact hk
  obtain ⟨hbinds, htool, hpayload, hsha⟩ := boundBy_eq_some.1 h
  exact boundBy_eq_some.2 ⟨hbinds.imp hkeep hkeep, hkeep htool, hkeep hpayload, hsha⟩

/-- Where the first fingerprint of an accepted trace can be encoded, it can without a field of a
record : every record with a binding has the same. -/
theorem Accepted.firstEncodes_del (h : Accepted ids (pre ++ r :: post)) (field : String)
    (hfirst : FirstEncodes ids.scope ((pre ++ r :: post).map .dict)) :
    FirstEncodes ids.scope ((pre ++ r.del field :: post).map .dict) := by
  intro binding hbinding
  have hmem : ∃ q ∈ pre ++ r :: post, boundBy (.dict q) = some binding := by
    obtain ⟨item, hitem, hbound⟩ := List.exists_of_findSome?_eq_some hbinding
    obtain ⟨q, hq, rfl⟩ := List.mem_map.1 hitem
    rcases List.mem_append.1 hq with hq | hq
    · exact ⟨q, by simp [hq], hbound⟩
    · rcases List.mem_cons.1 hq with rfl | hq
      · exact ⟨r, by simp, boundBy_del hbound⟩
      · exact ⟨q, by simp [hq], hbound⟩
  obtain ⟨q, hq, hbound⟩ := hmem
  refine hfirst binding ?_
  rcases hfirst' : firstBound ((pre ++ r :: post).map .dict) with _ | b
  · have hall := List.findSome?_eq_none_iff.1 hfirst' _ (List.mem_map_of_mem hq)
    cases hbound.symm.trans hall
  · obtain ⟨item, hitem, hb⟩ := List.exists_of_findSome?_eq_some hfirst'
    obtain ⟨q', hq', rfl⟩ := List.mem_map.1 hitem
    rw [h.boundBy_eq hq, Option.ite_none_right_eq_some] at hbound
    rw [h.boundBy_eq hq', Option.ite_none_right_eq_some] at hb
    exact hb.2.symm.trans hbound.2

variable [PyRepr]

/-- A record that lacks an enforced field is detected exactly if the validator returns, and removing
a required field from an accepted trace is detected exactly if the field is enforced. -/
theorem requiredFields_enforced :
    (∀ (trace : PyMapping) (before after : List Json) (r : Mapping) (kind field : String),
      (codeMembers trace).get "records" = .list (before ++ .dict r :: after) →
      HasKind kind r → Required kind field → r.get? field = none →
      Enforced (dictsOf before) r (dictsOf after) kind field →
      ((∃ violations, validateTraceText (codeMembers trace) = .ok violations ∧ violations ≠ []) ↔
        CheckableTrace (codeMembers trace))) ∧
    ∀ (trace mutation mutated : Mapping) (pre post : List Mapping) (r : Mapping)
      (kind field : String), validateTraceText trace = .ok [] →
      trace.get "records" = .list ((pre ++ r :: post).map .dict) → HasKind kind r →
      Required kind field → mutation.get "operator" = .str "remove" →
      PointsAt mutation (pre ++ r :: post).length pre.length field →
      applyMutation trace mutation = .ok mutated →
      ∃ violations, validateTraceText mutated = .ok violations ∧
        (violations ≠ [] ↔ Enforced pre r post kind field) := by
  refine ⟨fun trace before after r kind field hrecords hkind hrequired hmissing henforced => ?_, ?_⟩
  · have hne := missing_detected _ before after r kind field hrecords hkind hrequired hmissing
      henforced
    rw [← validateTraceText_of_coded (coded_codeMembers trace)]
    refine exists_congr fun violations => and_iff_left_of_imp ?_
    rintro hvalidate rfl
    exact hne hvalidate
  intro trace mutation mutated pre post r kind field hacc hrecords hkind hrequired hoperator
    hpoints happly
  obtain ⟨ids, rs, hreads, haccepted, hfirst⟩ := validateTraceText_eq_nil.1 hacc
  obtain rfl := map_dict_injective (Json.list.inj (hrecords.symm.trans hreads.records))
  have hitem : ((pre ++ r :: post).map Json.dict)[pre.length]? = some (.dict r) := by simp
  rw [applyMutation_record hrecords (by simpa using hpoints) hitem] at happly
  obtain ⟨changed, hchanged, rfl⟩ := map_eq_ok.1 happly
  obtain rfl : changed = .dict (r.del field) := by
    have hne : Json.str "remove" ≠ .str "replace" := by simp
    simp only [operate, hoperator, if_neg hne, if_true, removeIn, raiseIf_bind_eq_ok,
      Except.ok.injEq] at hchanged
    exact hchanged.2.symm
  have hset : ((pre ++ r :: post).map Json.dict).set pre.length (.dict (r.del field)) =
      (pre ++ r.del field :: post).map Json.dict := by simp
  rw [hset]
  have hreads' := hreads.set_records (pre ++ r.del field :: post)
  have hfirst' := haccepted.firstEncodes_del field hfirst
  have htags : ∀ q ∈ pre ++ r.del field :: post, TagsHashable q := by
    intro q hq
    rw [List.mem_append, List.mem_cons] at hq
    by_cases hchange : q = r.del field
    · rw [hchange]
      exact haccepted.clean.tagsHashable.del field
    · have hmem : q ∈ pre ++ r :: post := by
        rcases hq with hq | hq | hq
        · simp [hq]
        · exact absurd hq hchange
        · simp [hq]
      obtain ⟨_, _, -, hclean⟩ := haccepted.clean_of_mem hmem
      exact hclean.tagsHashable
  by_cases henforced : Enforced pre r post kind field
  · have hnot : ¬Accepted ids (pre ++ r.del field :: post) := fun h =>
      (haccepted.del_iff hkind hrequired).1 h henforced
    obtain ⟨violations, hvalidate, hne⟩ := violations_of_not_accepted hreads' htags hnot
    exact ⟨violations, (validateTraceText_of_reads hreads').2 ⟨hvalidate, hfirst'⟩,
      iff_of_true hne henforced⟩
  · have haccepted' := (haccepted.del_iff hkind hrequired).2 henforced
    exact ⟨[], validateTraceText_eq_nil.2 ⟨ids, _, hreads', haccepted', hfirst'⟩,
      iff_of_false (fun h => h rfl) henforced⟩

end required

/-- Removing the idempotency key of the effect. -/
def idempotencyKeyRemoved : Mapping :=
  [("operator", .str "remove"), ("path", .str "/records/4/idempotency_key")]

theorem requiredFields_enforced_sample :
    letI := traceHashlib
    letI := plainRepr
    ∃ mutated, applyMutation (sampleTrace retryThenReconcile) idempotencyKeyRemoved =
      .ok mutated ∧ validateTraceText mutated = .ok [] := by
  let := traceHashlib
  let := plainRepr
  obtain ⟨mutated, hmutated⟩ : ∃ mutated,
      applyMutation (sampleTrace retryThenReconcile) idempotencyKeyRemoved = .ok mutated :=
    ⟨_, rfl⟩
  have hpoints : PointsAt idempotencyKeyRemoved retryThenReconcile.length 4 "idempotency_key" :=
    pointsAt_path (by decide) (by decide) (by unfold Plain; decide) (by decide)
  obtain ⟨violations, hvalidate, hiff⟩ := requiredFields_enforced.2
    (sampleTrace retryThenReconcile) idempotencyKeyRemoved mutated (retryThenReconcile.take 4)
    (retryThenReconcile.drop 5) _ "effect" "idempotency_key" retryThenReconcile_accepted rfl
    rfl (by decide) rfl hpoints hmutated
  have hnil : violations = [] := not_not.1 fun hne => by simpa [Enforced] using hiff.1 hne
  exact ⟨mutated, hmutated, hnil ▸ hvalidate⟩

/-- The records of `retryThenReconcile` with an effect that has no idempotency key. -/
def withoutIdempotencyKey : List Mapping :=
  retryThenReconcile.modify 4 fun r => r.del "idempotency_key"

/-- A trace whose effect has no idempotency key is accepted, and so is the one that removing
the key from the sample trace makes. -/
theorem withoutIdempotencyKey_accepted :
    letI := traceHashlib
    letI := plainRepr
    (∃ r ∈ withoutIdempotencyKey, HasKind "effect" r ∧ Required "effect" "idempotency_key" ∧
      r.get? "idempotency_key" = none) ∧
    validateTraceText (sampleTrace withoutIdempotencyKey) = .ok [] ∧
    applyMutation (sampleTrace retryThenReconcile) idempotencyKeyRemoved =
      .ok (sampleTrace withoutIdempotencyKey) := by
  refine ⟨?_, ?_, ?_⟩
  · decide +kernel
  · decide +kernel
  · decide +kernel

end TraceIntegrity

end ReliabilityLab
