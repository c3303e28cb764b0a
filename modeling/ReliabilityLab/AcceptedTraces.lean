import ReliabilityLab.CleanRecords
import ReliabilityLab.Fold

/-!
# Accepted traces

What the validator accepts. `scan_clean_iff` is the whole loop and `validateTrace_eq_nil`
the validator : a trace is accepted exactly if it is well formed (`Accepted`), every record
clean at its position, sequences strictly increasing, record ids distinct and the
checkpoints a chain.
-/

set_option linter.unusedSectionVars false

open Serial

namespace ReliabilityLab

namespace TraceIntegrity

open Json

section acceptance

variable [Hashlib]

/-! ## The whole loop -/

/-- The loop finds nothing exactly if the records are objects, each clean after those
before it. -/
theorem scan_clean_iff {ids : ScopeIds} {done : List Mapping} {index : Nat} {records : List Json}
    {last : LoopState} :
    scan ids.scope index (stateAfter ids done) records = .ok ([], last) ↔
      ∃ rs : List Mapping, records = rs.map .dict ∧ EachAfter (CleanRecord ids) done rs ∧
        last = stateAfter ids (done ++ rs) := by
  induction records generalizing done index with
  | nil =>
    simp only [scan, Except.ok.injEq, Prod.mk.injEq, true_and]
    refine ⟨?_, ?_⟩
    · rintro rfl
      exact ⟨[], rfl, eachAfter_nil _ _, by rw [List.append_nil]⟩
    · rintro ⟨rs, hrs, -, rfl⟩
      obtain rfl : rs = [] := by simpa using hrs.symm
      rw [List.append_nil]
  | cons record records ih =>
    by_cases hrecord : ∃ r, record = .dict r
    · obtain ⟨r, rfl⟩ := hrecord
      have hturn : scan ids.scope index (stateAfter ids done) (.dict r :: records) =
          .ok ([], last) ↔ ∃ next, step ids.scope (stateAfter ids done) r = .ok ([], next) ∧
            scan ids.scope (index + 1) next records = .ok ([], last) := by
        rw [scan]
        rcases step ids.scope (stateAfter ids done) r with e | ⟨found, next⟩
        · simp
        · simp only [ok_bind, append_found_eq_ok, Except.ok.injEq, Prod.mk.injEq]
          refine ⟨fun ⟨hfound, h⟩ => ⟨next, ⟨hfound, rfl⟩, h⟩, ?_⟩
          rintro ⟨next', ⟨hfound, rfl⟩, h⟩
          exact ⟨hfound, h⟩
      rw [hturn]
      refine ⟨?_, ?_⟩
      · rintro ⟨next, hstep, hscan⟩
        obtain ⟨hclean, rfl⟩ := step_clean_iff.1 hstep
        obtain ⟨rs, rfl, hrs, rfl⟩ := ih.1 hscan
        exact ⟨r :: rs, rfl, eachAfter_cons.2 ⟨hclean, hrs⟩, by simp⟩
      · rintro ⟨rs, hrs, heach, rfl⟩
        obtain ⟨r', rs, rfl⟩ := List.exists_cons_of_ne_nil (l := rs) fun h => by simp [h] at hrs
        obtain ⟨hr, htail⟩ := List.cons.inj hrs
        obtain rfl := Json.dict.inj hr
        obtain ⟨hclean, heach⟩ := eachAfter_cons.1 heach
        exact ⟨_, step_clean_iff.2 ⟨hclean, rfl⟩, ih.2 ⟨rs, htail, heach, by simp⟩⟩
    · refine ⟨fun h => ?_, ?_⟩
      · rcases record with _ | _ | _ | _ | _ | _ | r
        case dict => exact absurd ⟨r, rfl⟩ hrecord
        all_goals
          obtain ⟨⟨more, last'⟩, -, h⟩ := bind_eq_ok.1 h
          simp at h
      · rintro ⟨rs, hrs, -, -⟩
        obtain ⟨r, rs, rfl⟩ := List.exists_cons_of_ne_nil (l := rs) fun h => by simp [h] at hrs
        exact absurd ⟨r, (List.cons.inj hrs).1⟩ hrecord

/-! ## Checkpoints -/

/-- The fields of a checkpoint have no violation. -/
structure CleanCheckpoint (r : Mapping) : Prop where
  checkpointId : (r.get "checkpoint_id").IsText
  sequence : ∃ n, (r.get "checkpoint_sequence").intValue? = some n ∧ 0 ≤ n
  completed : ∃ n, (r.get "completed_count").intValue? = some n ∧ 0 ≤ n
  plan : isSha256 (r.get "plan_sha256") = true

/-- The checkpoint is a root. -/
structure IsRoot (r : Mapping) : Prop where
  parent : r.get "parent_checkpoint_id" = .null
  sequence : PyEq (r.get "checkpoint_sequence") (.int 0)

/-- The checkpoint `r` continues the lineage after `previous`. -/
structure Follows (previous r : Mapping) : Prop where
  parent : PyEq (r.get "parent_checkpoint_id") (previous.get "checkpoint_id")
  sequence : ∀ n ∈ (previous.get "checkpoint_sequence").intValue?,
    PyEq (r.get "checkpoint_sequence") (.int (n + 1))
  plan : PyEq (r.get "plan_sha256") (previous.get "plan_sha256")
  progress : ∀ m ∈ (previous.get "completed_count").intValue?,
    ∀ n ∈ (r.get "completed_count").intValue?, m ≤ n

/-- Each checkpoint continues the one before it, and the first is a root. -/
def CheckpointChain : Option Mapping → List Mapping → Prop
  | _, [] => True
  | previous, r :: rs =>
    CleanCheckpoint r ∧ previous.elim (IsRoot r) (Follows · r) ∧ CheckpointChain (some r) rs

theorem checkpointFlags_eq_nil {r : Mapping} : checkpointFlags r = [] ↔ CleanCheckpoint r := by
  have hnat : ∀ value : Json, (¬∀ n ∈ value.intValue?, n < 0) ↔
      ∃ n, value.intValue? = some n ∧ 0 ≤ n := by
    intro value
    simp
  simp only [checkpointFlags, List.append_eq_nil_iff, flag_eq_nil, nonemptyStr?_eq_none, not_not,
    hnat, Bool.not_eq_false]
  exact ⟨fun ⟨⟨⟨hid, hseq⟩, hdone⟩, hplan⟩ => ⟨hid, hseq, hdone, hplan⟩,
    fun h => ⟨⟨⟨h.checkpointId, h.sequence⟩, h.completed⟩, h.plan⟩⟩

theorem rootFlags_eq_nil {r : Mapping} : rootFlags r = [] ↔ IsRoot r := by
  simp only [rootFlags, List.append_eq_nil_iff, flag_eq_nil, not_not]
  exact ⟨fun ⟨hparent, hseq⟩ => ⟨hparent, hseq⟩, fun h => ⟨h.parent, h.sequence⟩⟩

theorem lineageFlags_eq_nil {previous r : Mapping} :
    lineageFlags previous r = [] ↔ Follows previous r := by
  simp only [lineageFlags, List.append_eq_nil_iff, flag_eq_nil, not_not, not_exists, not_and,
    not_lt]
  exact ⟨fun ⟨⟨⟨hparent, hseq⟩, hplan⟩, hprogress⟩ => ⟨hparent, hseq, hplan, hprogress⟩,
    fun h => ⟨⟨⟨h.parent, h.sequence⟩, h.plan⟩, h.progress⟩⟩

theorem checkpointsFlags_eq_nil {previous : Option Mapping} {rs : List Mapping} :
    checkpointsFlags previous rs = [] ↔ CheckpointChain previous rs := by
  induction rs generalizing previous with
  | nil => simp [checkpointsFlags, CheckpointChain]
  | cons r rs ih =>
    rw [checkpointsFlags, CheckpointChain, List.append_eq_nil_iff, List.append_eq_nil_iff, ih,
      checkpointFlags_eq_nil, and_assoc]
    rcases previous with _ | previous
    · simp only [Option.elim_none, rootFlags_eq_nil]
    · simp only [Option.elim_some, lineageFlags_eq_nil]

/-! ## Acceptance -/

/-- The records of a well-formed trace. -/
structure Accepted (ids : ScopeIds) (rs : List Mapping) : Prop where
  records : EachAfter (CleanRecord ids) [] rs
  increasing : (rs.map sequenceOf).Pairwise (· < ·)
  recordIds : (rs.map recordIdOf).Nodup
  checkpoints : CheckpointChain none (checkpointsOf rs)

/-- The scope and records of a trace. -/
structure Reads (trace : Mapping) (ids : ScopeIds) (rs : List Mapping) : Prop where
  scope : ∃ scope, trace.get "scope" = .dict scope ∧ scopeOf scope = ids.scope
  records : trace.get "records" = .list (rs.map .dict)

theorem scopeFlags_eq_nil {scope : Scope} :
    scopeFlags scope = [] ↔ ∃ ids : ScopeIds, scope = ids.scope := by
  simp only [scopeFlags, List.append_eq_nil_iff, flag_eq_nil, nonemptyStr?_eq_none, not_not]
  refine ⟨fun ⟨⟨⟨hrun, hturn⟩, hprovider⟩, hoperation⟩ => ?_, ?_⟩
  · refine ⟨⟨_, _, _, _, hrun.2, hturn.2, hprovider.2, hoperation.2⟩, ?_⟩
    obtain ⟨run, turn, provider, operation⟩ := scope
    simp only [ScopeIds.scope, Scope.mk.injEq]
    exact ⟨hrun.1, hturn.1, hprovider.1, hoperation.1⟩
  · rintro ⟨ids, rfl⟩
    exact ⟨⟨⟨⟨rfl, ids.runId_ne⟩, rfl, ids.turnId_ne⟩, rfl, ids.provider_ne⟩, rfl,
      ids.operationId_ne⟩

theorem orderFlags_eq_nil {st : LoopState} :
    orderFlags st = [] ↔ st.sequences.Pairwise (· < ·) ∧ st.recordIds.Nodup := by
  simp only [orderFlags, List.append_eq_nil_iff, flag_eq_nil, not_outOfOrder, not_hasDuplicates]

/-- A trace is accepted exactly if it is well formed. -/
theorem validateTrace_eq_nil {trace : Mapping} :
    validateTrace trace = .ok [] ↔ ∃ ids rs, Reads trace ids rs ∧ Accepted ids rs := by
  refine ⟨fun h => ?_, ?_⟩
  · unfold validateTrace at h
    split at h
    · next scope records hscope hrecords =>
      obtain ⟨⟨found, last⟩, hscan, h⟩ := bind_eq_ok.1 h
      have hnil := sortedSet_eq_nil.1 (Except.ok.inj h)
      simp only [List.append_eq_nil_iff, scopeFlags_eq_nil, orderFlags_eq_nil,
        checkpointsFlags_eq_nil] at hnil
      obtain ⟨⟨⟨⟨ids, hids⟩, rfl⟩, hseq, hrecordIds⟩, hcheckpoints⟩ := hnil
      rw [hids] at hscan
      obtain ⟨rs, rfl, heach, rfl⟩ := scan_clean_iff.1 (show
        scan ids.scope 0 (stateAfter ids []) records = .ok ([], last) from hscan)
      exact ⟨ids, rs, ⟨⟨scope, hscope, hids⟩, hrecords⟩, heach, hseq, hrecordIds, hcheckpoints⟩
    · simp at h
    · simp at h
  · rintro ⟨ids, rs, ⟨⟨scope, hscope, hids⟩, hrecords⟩, heach, hseq, hrecordIds, hcheckpoints⟩
    have hscan : scan ids.scope 0 {} (rs.map .dict) = .ok ([], stateAfter ids rs) :=
      scan_clean_iff.2 ⟨rs, rfl, heach, rfl⟩
    have hnil : scopeFlags ids.scope ++ [] ++ orderFlags (stateAfter ids rs) ++
        checkpointsFlags none (stateAfter ids rs).checkpoints = [] := by
      simp only [List.append_eq_nil_iff, scopeFlags_eq_nil, orderFlags_eq_nil,
        checkpointsFlags_eq_nil]
      exact ⟨⟨⟨⟨ids, rfl⟩, trivial⟩, hseq, hrecordIds⟩, hcheckpoints⟩
    unfold validateTrace
    rw [hscope, hrecords]
    simp only [hids, hscan, ok_bind, hnil]
    rfl

/-! ## Exceptions -/

/-- The tags of a record that the validator looks up in a set have hashes. -/
structure TagsHashable (r : Mapping) : Prop where
  kind : (r.get "kind").Hashable
  eventKind : HasKind "runtime_event" r → (r.get "event_kind").Hashable
  decision : HasKind "approval" r → (r.get "decision").Hashable
  readback : HasKind "provider_evidence" r → (r.get "readback").Hashable

theorem CleanRecord.tagsHashable {ids : ScopeIds} {done : List Mapping} {r : Mapping}
    (h : CleanRecord ids done r) : TagsHashable r := by
  have htext : ∀ {value : Json} {members : List String}, (∃ s ∈ members, value = .str s) →
      value.Hashable := by
    rintro value members ⟨s, -, rfl⟩
    trivial
  exact ⟨htext h.kind, fun hkind => htext (h.event hkind).eventKind,
    fun hkind => htext (h.approval hkind), fun hkind => htext (h.evidence hkind).readback⟩

theorem operation_returns (scope : Scope) (st : LoopState) {r : Mapping} (h : TagsHashable r) :
    ∃ found, operation scope st r = .ok found := by
  dsimp only [operation]
  split_ifs with happroval heffect hevidence
  · obtain ⟨known, hknown⟩ := inSet_of_hashable (h.decision happroval) decisions
    exact ⟨_, by rw [approval, hknown, ok_bind]⟩
  · exact ⟨_, rfl⟩
  · obtain ⟨known, hknown⟩ := inSet_of_hashable (h.readback hevidence) readbackStates
    exact ⟨_, by rw [providerEvidence, hknown, ok_bind]⟩
  · exact ⟨_, rfl⟩

theorem step_returns (scope : Scope) (st : LoopState) {r : Mapping} (h : TagsHashable r) :
    ∃ found, step scope st r = .ok found := by
  obtain ⟨known, hknown⟩ := inSet_of_hashable h.kind recordKinds
  dsimp only [step]
  rw [hknown, ok_bind]
  split_ifs with _ hevent
  · exact ⟨_, rfl⟩
  · obtain ⟨known, hknown⟩ := inSet_of_hashable (h.eventKind hevent) eventKinds
    exact ⟨_, by rw [runtimeEvent, hknown, ok_bind, ok_bind]⟩
  · exact ⟨_, rfl⟩
  · obtain ⟨found, hfound⟩ := operation_returns scope (noteCommon st r) h
    exact ⟨_, by rw [hfound, ok_bind]⟩

/-- The loop over one more record. -/
theorem scan_cons_eq_ok {scope : Scope} {index : Nat} {st st' : LoopState} {item : Json}
    {items : List Json} {found : List String} :
    scan scope index st (item :: items) = .ok (found, st') ↔
      (∃ record first next more, item = .dict record ∧ step scope st record = .ok (first, next) ∧
          scan scope (index + 1) next items = .ok (more, st') ∧ found = first ++ more) ∨
        (∀ record, item ≠ .dict record) ∧ ∃ more,
          scan scope (index + 1) st items = .ok (more, st') ∧
            found = ("record_" ++ toString index ++ "_invalid") :: more := by
  rcases item with _ | _ | _ | _ | _ | _ | record
  case dict =>
    rw [scan]
    simp only [bind_eq_ok, Except.ok.injEq, Prod.mk.injEq, Prod.exists, Json.dict.injEq]
    constructor
    · rintro ⟨first, next, hstep, more, last, hscan, rfl, rfl⟩
      exact Or.inl ⟨record, first, next, more, rfl, hstep, hscan, rfl⟩
    · rintro (⟨_, first, next, more, rfl, hstep, hscan, rfl⟩ | ⟨hnot, -⟩)
      · exact ⟨first, next, hstep, more, st', hscan, rfl, rfl⟩
      · exact absurd rfl (hnot record)
  all_goals
    rw [scan]
    · simp only [bind_eq_ok, Except.ok.injEq, Prod.mk.injEq, Prod.exists, reduceCtorEq, ne_eq,
        not_false_eq_true, implies_true, true_and, false_and, exists_false, false_or]
      constructor
      · rintro ⟨more, _, hscan, hfound, hlast⟩
        exact ⟨more, hlast ▸ hscan, hfound.symm⟩
      · rintro ⟨more, hscan, hfound⟩
        exact ⟨more, st', hscan, hfound.symm, rfl⟩
    · simp

theorem scan_returns (scope : Scope) (index : Nat) (st : LoopState) {items : List Json}
    (h : ∀ r, .dict r ∈ items → TagsHashable r) :
    ∃ found, scan scope index st items = .ok found := by
  induction items generalizing index st with
  | nil => exact ⟨_, rfl⟩
  | cons item items ih =>
    have htail : ∀ r, .dict r ∈ items → TagsHashable r := fun r hr =>
      h r (List.mem_cons_of_mem _ hr)
    rcases item with _ | _ | _ | _ | _ | _ | r
    case dict =>
      obtain ⟨⟨found, next⟩, hstep⟩ := step_returns scope st (h r List.mem_cons_self)
      obtain ⟨more, hscan⟩ := ih (index + 1) next htail
      refine ⟨(found ++ more.1, more.2), ?_⟩
      rw [scan, hstep, ok_bind]
      simp only [hscan, ok_bind]
    all_goals
      obtain ⟨more, hscan⟩ := ih (index + 1) st htail
      refine ⟨(("record_" ++ toString index ++ "_invalid") :: more.1, more.2), ?_⟩
      rw [scan]
      · rw [hscan, ok_bind]
      · simp

/-- The validator raises nothing if every tag has a hash. -/
theorem validateTrace_returns {trace : Mapping}
    (h : ∀ items r, trace.get "records" = .list items → .dict r ∈ items → TagsHashable r) :
    ∃ violations, validateTrace trace = .ok violations := by
  unfold validateTrace
  split
  · next scope items hscope hitems =>
    obtain ⟨found, hscan⟩ := scan_returns (scopeOf scope) 0 {} fun r hr => h items r hitems hr
    exact ⟨_, by rw [hscan, ok_bind]⟩
  · exact ⟨_, rfl⟩
  · exact ⟨_, rfl⟩

omit [Hashlib] in
theorem map_dict_injective {rs rs' : List Mapping} (h : rs.map Json.dict = rs'.map Json.dict) :
    rs = rs' :=
  List.map_injective_iff.2 (fun _ _ heq => Json.dict.inj heq) h

/-- A trace has one scope and one list of records. -/
theorem Reads.unique {trace : Mapping} {ids ids' : ScopeIds} {rs rs' : List Mapping}
    (h : Reads trace ids rs) (h' : Reads trace ids' rs') : ids = ids' ∧ rs = rs' := by
  obtain ⟨⟨scope, hscope, hids⟩, hrecords⟩ := h
  obtain ⟨⟨scope', hscope', hids'⟩, hrecords'⟩ := h'
  refine ⟨?_, map_dict_injective (Json.list.inj (hrecords.symm.trans hrecords'))⟩
  obtain rfl := Json.dict.inj (hscope.symm.trans hscope')
  obtain ⟨run, turn, provider, operation⟩ := ids
  obtain ⟨run', turn', provider', operation'⟩ := ids'
  have hsame := hids.symm.trans hids'
  simp only [ScopeIds.scope, Scope.mk.injEq, Json.str.injEq] at hsame
  obtain ⟨rfl, rfl, rfl, rfl⟩ := hsame
  rfl

/-- Other records under the same scope. -/
theorem Reads.set_records {trace : Mapping} {ids : ScopeIds} {rs : List Mapping}
    (h : Reads trace ids rs) (rs' : List Mapping) :
    Reads (trace.set "records" (.list (rs'.map .dict))) ids rs' := by
  obtain ⟨⟨scope, hscope, hids⟩, hrecords⟩ := h
  have hne : trace.get? "records" ≠ none := Mapping.get?_ne_none_of_get (by simp [hrecords])
  refine ⟨⟨scope, ?_, hids⟩, ?_⟩
  · rw [Mapping.get_set hne, if_neg (by decide), hscope]
  · rw [Mapping.get_set hne, if_pos rfl]

/-- A trace that is not well formed, and whose tags have hashes, has violations. -/
theorem violations_of_not_accepted {trace : Mapping} {ids : ScopeIds} {rs : List Mapping}
    (hreads : Reads trace ids rs) (htags : ∀ r ∈ rs, TagsHashable r) (hnot : ¬Accepted ids rs) :
    ∃ violations, validateTrace trace = .ok violations ∧ violations ≠ [] := by
  have hhashable : ∀ items r, trace.get "records" = .list items → .dict r ∈ items →
      TagsHashable r := by
    intro items r hitems hr
    obtain rfl := Json.list.inj (hreads.records.symm.trans hitems)
    obtain ⟨r', hr', heq⟩ := List.mem_map.1 hr
    obtain rfl := Json.dict.inj heq
    exact htags r' hr'
  obtain ⟨violations, hvalidate⟩ := validateTrace_returns hhashable
  refine ⟨violations, hvalidate, ?_⟩
  rintro rfl
  obtain ⟨ids', rs', hreads', hacc⟩ := validateTrace_eq_nil.1 hvalidate
  obtain ⟨rfl, rfl⟩ := hreads.unique hreads'
  exact hnot hacc

end acceptance

/-! ## A sample trace -/

/-- The digest of the effect of `retryThenReconcile`. -/
def sampleEffect : String :=
  "542ac8fcb37fc7a1db16ecfbc828e09a9406098ca1bbc6809be9fab1d7e0750b"

/-- The digest of the payload of `retryThenReconcile`. -/
def samplePayload : String :=
  "da14ec0f97a1e27cf44749922542bf2f8eebcada6344559da98b2e670fc9588d"

/-- The digest of the plan of `retryThenReconcile`. -/
def samplePlan : String :=
  "bfead2da28a43e84e167682b3b4fb7d484f89c694c2c3e944af992e646ccfeed"

/-- A digest that is right on the effect of `retryThenReconcile`. -/
@[reducible] def traceHashlib : Hashlib where
  sha256Hexdigest _ := sampleEffect

/-- The records of the first baseline trace, `retry_then_reconcile`. -/
def retryThenReconcile : List Mapping :=
  [[("event_id", .str "evt-1"), ("event_kind", .str "output"), ("kind", .str "runtime_event"),
      ("payload_sha256", .str "905339de841bb714ad2ef2f43461fd873ea03314fbf0a4c66dacb83ad5474695"),
      ("record_id", .str "r1"), ("run_id", .str "run-42"), ("sequence", .int 1),
      ("turn_id", .str "turn-parent")],
    [("decision", .str "approved"), ("effect_sha256", .str sampleEffect),
      ("kind", .str "approval"), ("operation_id", .str "op-17"),
      ("payload_sha256", .str samplePayload), ("provider", .str "local-provider"),
      ("record_id", .str "r2"), ("sequence", .int 2), ("tool", .str "record_note")],
    [("checkpoint_id", .str "cp-0"), ("checkpoint_sequence", .int 0),
      ("completed_count", .int 0), ("kind", .str "checkpoint"), ("parent_checkpoint_id", .null),
      ("plan_sha256", .str samplePlan), ("record_id", .str "r3"), ("run_id", .str "run-42"),
      ("sequence", .int 3)],
    [("effect_sha256", .str sampleEffect), ("evidence_id", .str "ev-3-absent"),
      ("kind", .str "provider_evidence"), ("operation_id", .str "op-17"),
      ("provider", .str "local-provider"), ("readback", .str "absent"),
      ("record_id", .str "r4"), ("revision", .int 3), ("sequence", .int 4)],
    [("effect_sha256", .str sampleEffect), ("idempotency_key", .str "idem-op-17"),
      ("kind", .str "effect"), ("operation_id", .str "op-17"),
      ("payload_sha256", .str samplePayload), ("provider", .str "local-provider"),
      ("record_id", .str "r5"), ("sequence", .int 5), ("tool", .str "record_note")],
    [("checkpoint_id", .str "cp-1"), ("checkpoint_sequence", .int 1),
      ("completed_count", .int 1), ("kind", .str "checkpoint"),
      ("parent_checkpoint_id", .str "cp-0"), ("plan_sha256", .str samplePlan),
      ("record_id", .str "r6"), ("run_id", .str "run-42"), ("sequence", .int 6)],
    [("effect_sha256", .str sampleEffect), ("evidence_id", .str "ev-4-present"),
      ("kind", .str "provider_evidence"), ("operation_id", .str "op-17"),
      ("provider", .str "local-provider"), ("readback", .str "present"),
      ("record_id", .str "r7"), ("revision", .int 4), ("sequence", .int 7)],
    [("effect_sha256", .str sampleEffect), ("evidence_id", .str "ev-4-present"),
      ("kind", .str "reconciliation_completion"), ("operation_id", .str "op-17"),
      ("provider", .str "local-provider"), ("record_id", .str "r8"), ("revision", .int 4),
      ("sequence", .int 8)]]

/-- A trace of the scope of `retryThenReconcile`. -/
def sampleTrace (rs : List Mapping) : Mapping :=
  [("scope", .dict [("operation_id", .str "op-17"), ("provider", .str "local-provider"),
      ("run_id", .str "run-42"), ("turn_id", .str "turn-parent")]),
    ("records", .list (rs.map .dict))]

end TraceIntegrity

end ReliabilityLab
