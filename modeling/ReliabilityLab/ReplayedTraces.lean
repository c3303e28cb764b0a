import ReliabilityLab.ApprovalLanguage
import ReliabilityLab.TraceGuarantees

/-!
# Accepted traces replayed

The approvals and effects of a trace as the events of an approval replay : the request of the
bound effect, and then one event for each of these records, in order (`approvalEvents`).

The validator looks at decisions only when an effect comes, and then at the last of each
kind. The replay keeps the first decision. On an accepted trace the two differ in just this :
the replay passes exactly if no record denies what another approves
(`replayApproval_accepted_iff`). The validator accepts a denial after the effect
(`contradictedEffect`), which the replay refuses.
-/

open Serial

namespace ReliabilityLab

namespace TraceIntegrity

open Json

/-! ## The events of a trace -/

/-- What an approval or an effect does in a replay. -/
def approvalAction? (r : Mapping) : Option ApprovalAction :=
  if Decides "approved" r then some .approved
  else if Decides "denied" r then some .denied
  else if HasKind "effect" r then some .execute
  else none

/-- The event of an approval or an effect. -/
def approvalEvent? (r : Mapping) : Option ApprovalEvent :=
  (approvalAction? r).map fun action =>
    ⟨sequenceOf r, action, (r.get "operation_id").text, (bindingOf r).1, (bindingOf r).2⟩

/-- The events of the records `rs`, with the request of the bound effect at `first`. -/
def approvalEvents (first : Int) (ids : ScopeIds) (rs : List Mapping) : List ApprovalEvent :=
  (firstBinding rs).toList.map (fun b => ⟨first, .requested, ids.operationId, b.1, b.2⟩) ++
    rs.filterMap approvalEvent?

/-- No record denies the operation that another approves. -/
def OneDecision (rs : List Mapping) : Prop :=
  ∀ a ∈ rs, ∀ d ∈ rs, Decides "approved" a → ¬Decides "denied" d

/-- An event of a record is of its sequence, its operation and its binding, and says what the
record does. -/
theorem approvalEvent?_eq_some {r : Mapping} {e : ApprovalEvent} :
    approvalEvent? r = some e ↔
      approvalAction? r = some e.action ∧ e.sequence = sequenceOf r ∧
        e.operationId = (r.get "operation_id").text ∧ e.identity = bindingOf r := by
  obtain ⟨sequence, action, operationId, tool, payload⟩ := e
  simp only [approvalEvent?, Option.map_eq_some_iff, ApprovalEvent.mk.injEq,
    ApprovalEvent.identity, Prod.ext_iff]
  constructor
  · rintro ⟨_, haction, rfl, rfl, rfl, rfl, rfl⟩
    exact ⟨haction, rfl, rfl, rfl, rfl⟩
  · rintro ⟨haction, rfl, rfl, rfl, rfl⟩
    exact ⟨action, haction, rfl, rfl, rfl, rfl, rfl⟩

theorem approvalAction?_eq_approved {r : Mapping} :
    approvalAction? r = some .approved ↔ Decides "approved" r := by
  unfold approvalAction?
  split_ifs <;> simp_all

theorem approvalAction?_eq_denied {r : Mapping} :
    approvalAction? r = some .denied ↔ Decides "denied" r := by
  have hother : Decides "approved" r → ¬Decides "denied" r := by
    rintro ⟨-, h⟩ ⟨-, h'⟩
    rw [h] at h'
    simp at h'
  unfold approvalAction?
  split_ifs <;> simp_all

theorem approvalAction?_eq_execute {r : Mapping} :
    approvalAction? r = some .execute ↔ HasKind "effect" r := by
  have hother : ∀ d, Decides d r → ¬HasKind "effect" r := by
    rintro d ⟨h, -⟩ h'
    rw [h.iff] at h'
    simp at h'
  unfold approvalAction?
  split_ifs with happroved hdenied
  · simpa using hother _ happroved
  · simpa using hother _ hdenied
  all_goals simp_all

theorem approvalAction?_ne_requested {r : Mapping} : approvalAction? r ≠ some .requested := by
  unfold approvalAction?
  split_ifs <;> simp

theorem binds_of_approvalAction? {r : Mapping} {action : ApprovalAction}
    (h : approvalAction? r = some action) : Binds r := by
  rcases action with _ | _ | _ | _
  · exact absurd h approvalAction?_ne_requested
  · exact Or.inl (approvalAction?_eq_approved.1 h).1
  · exact Or.inl (approvalAction?_eq_denied.1 h).1
  · exact Or.inr (approvalAction?_eq_execute.1 h)

/-! ## The replay of an accepted trace -/

section replayed

variable [Hashlib] {ids : ScopeIds} {rs : List Mapping} {first : Int}

/-- Every event of an accepted trace is of the operation of its scope and of its binding. -/
theorem Accepted.approvalEvent (h : Accepted ids rs) {r : Mapping} {e : ApprovalEvent}
    (hr : r ∈ rs) (he : approvalEvent? r = some e) :
    e.operationId = ids.operationId ∧ firstBinding rs = some e.identity := by
  obtain ⟨haction, -, hop, hidentity⟩ := approvalEvent?_eq_some.1 he
  have hbinds := binds_of_approvalAction? haction
  obtain ⟨_, _, -, hclean⟩ := h.clean_of_mem hr
  rw [hop, (hbinds.inScope hclean).2, hidentity]
  exact ⟨rfl, h.firstBinding_eq hr hbinds⟩

omit [Hashlib] in
theorem mem_approvalEvents {e : ApprovalEvent} :
    e ∈ approvalEvents first ids rs ↔
      (∃ b, firstBinding rs = some b ∧ e = ⟨first, .requested, ids.operationId, b.1, b.2⟩) ∨
        ∃ r ∈ rs, approvalEvent? r = some e := by
  simp only [approvalEvents, List.mem_append, List.mem_map, Option.mem_toList,
    List.mem_filterMap, eq_comm (a := e)]

/-- The events of an accepted trace are in order. -/
theorem Accepted.approvalEvents_pairwise (h : Accepted ids rs)
    (hfirst : ∀ r ∈ rs, first < sequenceOf r) :
    (approvalEvents first ids rs).Pairwise fun a b => a.sequence < b.sequence := by
  unfold approvalEvents
  refine List.pairwise_append.2 ⟨?_, ?_, fun a ha b hb => ?_⟩
  · rcases firstBinding rs with _ | b <;> simp
  · refine List.Pairwise.filterMap approvalEvent? ?_ (List.pairwise_map.1 h.increasing)
    intro r r' hlt e he e' he'
    rw [(approvalEvent?_eq_some.1 he).2.1, (approvalEvent?_eq_some.1 he').2.1]
    exact hlt
  · obtain ⟨b', -, rfl⟩ := List.mem_map.1 ha
    obtain ⟨r, hr, he⟩ := List.mem_filterMap.1 hb
    rw [(approvalEvent?_eq_some.1 he).2.1]
    exact hfirst r hr

/-- An execution in the events has an approval before it. -/
theorem Accepted.approvalEvents_execute (h : Accepted ids rs) {pre post : List ApprovalEvent}
    {e : ApprovalEvent} (hsplit : approvalEvents first ids rs = pre ++ e :: post)
    (hexecute : e.action = .execute) :
    ∃ a ∈ pre, a.operationId = e.operationId ∧ a.action = .approved := by
  -- the request is before `e`, so `e` is the event of a record
  obtain ⟨pre', hpre, hevents⟩ : ∃ pre', (∀ a ∈ pre', a ∈ pre) ∧
      rs.filterMap approvalEvent? = pre' ++ e :: post := by
    unfold approvalEvents at hsplit
    rcases hbound : firstBinding rs with _ | b
    · rw [hbound] at hsplit
      exact ⟨pre, fun _ ha => ha, hsplit⟩
    · rw [hbound] at hsplit
      rcases pre with _ | ⟨a, pre⟩
      · obtain ⟨rfl, -⟩ := List.cons.inj hsplit
        cases hexecute
      · exact ⟨pre, fun _ => List.mem_cons_of_mem a, (List.cons.inj hsplit).2⟩
  obtain ⟨xs, ys, rfl, rfl, hys⟩ := List.filterMap_eq_append_iff.1 hevents
  obtain ⟨skipped, r, zs, rfl, hskipped, hr, -⟩ := List.filterMap_eq_cons_iff.1 hys
  have hkind : HasKind "effect" r := by
    rw [← approvalAction?_eq_execute, (approvalEvent?_eq_some.1 hr).1, hexecute]
  have hacc : Accepted ids ((xs ++ skipped) ++ r :: zs) := by simpa using h
  obtain ⟨q, hq, happroves, hscope⟩ := hacc.exists_approval hkind
  obtain ⟨a, ha⟩ : ∃ a, approvalEvent? q = some a := by
    simp [approvalEvent?, approvalAction?_eq_approved.2 happroves.decision]
  have hmem : q ∈ (xs ++ skipped) ++ r :: zs := List.mem_append_left _ hq
  have haction : a.action = .approved :=
    Option.some.inj ((approvalEvent?_eq_some.1 ha).1.symm.trans
      (approvalAction?_eq_approved.2 happroves.decision))
  rcases List.mem_append.1 hq with hq | hq
  · refine ⟨a, hpre a (List.mem_filterMap.2 ⟨q, hq, ha⟩), ?_, haction⟩
    rw [(hacc.approvalEvent hmem ha).1, (hacc.approvalEvent (by simp) hr).1]
  · rw [hskipped q hq] at ha
    cases ha

/-- Where no record denies what another approves, each operation's events are as the replay
wants them. -/
theorem Accepted.perOperation (h : Accepted ids rs) (hone : OneDecision rs) :
    PerOperation (approvalEvents first ids rs) := by
  have hbound : ∀ e ∈ approvalEvents first ids rs, firstBinding rs = some e.identity := by
    intro e he
    rcases mem_approvalEvents.1 he with ⟨b, hb, rfl⟩ | ⟨r, hr, he⟩
    · exact hb
    · exact (h.approvalEvent hr he).2
  have hdecides : ∀ e ∈ approvalEvents first ids rs, e.action ≠ .requested →
      ∃ r ∈ rs, approvalAction? r = some e.action := by
    intro e he hne
    rcases mem_approvalEvents.1 he with ⟨b, -, rfl⟩ | ⟨r, hr, he⟩
    · exact absurd rfl hne
    · exact ⟨r, hr, (approvalEvent?_eq_some.1 he).1⟩
  have hcontradict : ∀ a ∈ approvalEvents first ids rs, ∀ d ∈ approvalEvents first ids rs,
      a.action = .approved → d.action ≠ .denied := by
    intro a ha d hd happroved hdenied
    obtain ⟨r, hr, hraction⟩ := hdecides a ha (by simp [happroved])
    obtain ⟨q, hq, hqaction⟩ := hdecides d hd (by simp [hdenied])
    rw [happroved, approvalAction?_eq_approved] at hraction
    rw [hdenied, approvalAction?_eq_denied] at hqaction
    exact hone r hr q hq hraction hqaction
  refine ⟨fun i e he => ?_, fun a ha b hb _ => ?_, fun a ha b hb _ hda hdb => ?_,
    fun pre e post hsplit => h.approvalEvents_execute hsplit⟩
  · -- the first event is the request, and all are of one operation
    have hmem := List.mem_of_find?_eq_some he
    have hop : ∀ e ∈ approvalEvents first ids rs, e.operationId = ids.operationId := by
      intro e he
      rcases mem_approvalEvents.1 he with ⟨b, -, rfl⟩ | ⟨r, hr, he⟩
      · rfl
      · exact (h.approvalEvent hr he).1
    have hi : ids.operationId = i :=
      (hop e hmem).symm.trans (by simpa using List.find?_some he)
    unfold approvalEvents at he
    rw [hbound e hmem, Option.toList_some, List.map_singleton, List.singleton_append,
      List.find?_cons_of_pos (by simpa using hi)] at he
    rw [← Option.some.inj he]
  · exact Option.some.inj ((hbound a ha).symm.trans (hbound b hb))
  · rcases hda with ha' | ha' <;> rcases hdb with hb' | hb'
    · rw [ha', hb']
    · exact absurd hb' (hcontradict a ha b hb ha')
    · exact absurd ha' (hcontradict b hb a ha hb')
    · rw [ha', hb']

/-- Where the replay wants each operation's events as they are, no record denies what another
approves. -/
theorem Accepted.oneDecision (h : Accepted ids rs)
    (hper : PerOperation (approvalEvents first ids rs)) : OneDecision rs := by
  intro a ha d hd happroves hdenies
  have hevent : ∀ {r : Mapping} {action : ApprovalAction}, r ∈ rs →
      approvalAction? r = some action → ∃ e ∈ approvalEvents first ids rs,
        e.operationId = ids.operationId ∧ e.action = action := by
    intro r action hr haction
    obtain ⟨e, he⟩ : ∃ e, approvalEvent? r = some e := by simp [approvalEvent?, haction]
    refine ⟨e, mem_approvalEvents.2 (Or.inr ⟨r, hr, he⟩), (h.approvalEvent hr he).1, ?_⟩
    exact Option.some.inj ((approvalEvent?_eq_some.1 he).1.symm.trans haction)
  obtain ⟨x, hx, hxop, hxaction⟩ := hevent ha (approvalAction?_eq_approved.2 happroves)
  obtain ⟨y, hy, hyop, hyaction⟩ := hevent hd (approvalAction?_eq_denied.2 hdenies)
  have hsame := hper.decision x hx y hy (hxop.trans hyop.symm) (Or.inl hxaction) (Or.inr hyaction)
  rw [hxaction, hyaction] at hsame
  cases hsame

/-- The replay of the events of an accepted trace, the request before them all, returns
exactly if no record denies what another approves. -/
theorem replayApproval_accepted_iff (trace : Mapping) (h : validateTraceText trace = .ok []) :
    ∃ ids rs, Reads trace ids rs ∧ ∀ first : Int, (∀ r ∈ rs, first < sequenceOf r) →
      ((∃ result, replayApproval (approvalEvents first ids rs) = .ok result) ↔
        OneDecision rs) := by
  obtain ⟨ids, rs, hreads, hacc, -⟩ := validateTraceText_eq_nil.1 h
  refine ⟨ids, rs, hreads, fun first hfirst => ?_⟩
  rw [replayApproval_returns_iff, and_iff_right (hacc.approvalEvents_pairwise hfirst)]
  exact ⟨hacc.oneDecision, hacc.perOperation⟩

end replayed

/-! ## A contradicted effect -/

/-- An approval, its effect, and a denial after it. -/
def contradictedEffect : List Mapping :=
  [[("decision", .str "approved"), ("effect_sha256", .str sampleEffect),
      ("kind", .str "approval"), ("operation_id", .str "op-17"),
      ("payload_sha256", .str samplePayload), ("provider", .str "local-provider"),
      ("record_id", .str "r1"), ("sequence", .int 1), ("tool", .str "record_note")],
    [("effect_sha256", .str sampleEffect), ("idempotency_key", .str "idem-op-17"),
      ("kind", .str "effect"), ("operation_id", .str "op-17"),
      ("payload_sha256", .str samplePayload), ("provider", .str "local-provider"),
      ("record_id", .str "r2"), ("sequence", .int 2), ("tool", .str "record_note")],
    [("decision", .str "denied"), ("effect_sha256", .str sampleEffect),
      ("kind", .str "approval"), ("operation_id", .str "op-17"),
      ("payload_sha256", .str samplePayload), ("provider", .str "local-provider"),
      ("record_id", .str "r3"), ("sequence", .int 3), ("tool", .str "record_note")]]

/-- The validator accepts the contradicted effect, and the replay raises. -/
theorem contradictedEffect_conflict :
    letI := traceHashlib
    ¬∀ trace, validateTraceText trace = .ok [] → ∀ ids rs, Reads trace ids rs →
      ∃ result, replayApproval (approvalEvents 0 ids rs) = .ok result := by
  let := traceHashlib
  intro h
  obtain ⟨result, hresult⟩ := h (sampleTrace contradictedEffect) (by decide +kernel) sampleIds
    contradictedEffect ⟨⟨_, rfl, rfl⟩, rfl⟩
  have hraises : replayApproval (approvalEvents 0 sampleIds contradictedEffect) =
      .error ⟨.approvalConflict, "approval decision changed for operation: op-17"⟩ := by
    decide +kernel
  rw [hraises] at hresult
  cases hresult

/-- The decisions of the baseline trace do not contradict each other. -/
theorem replayApproval_accepted_iff_sample :
    letI := traceHashlib
    ∃ ids rs, Reads (sampleTrace retryThenReconcile) ids rs ∧
      ∀ first : Int, (∀ r ∈ rs, first < sequenceOf r) →
        ((∃ result, replayApproval (approvalEvents first ids rs) = .ok result) ↔
          OneDecision rs) :=
  letI := traceHashlib
  replayApproval_accepted_iff (sampleTrace retryThenReconcile) retryThenReconcile_accepted

end TraceIntegrity

end ReliabilityLab
