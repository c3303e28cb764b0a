import ReliabilityLab.ResumedPlans
import ReliabilityLab.TraceLineage

/-!
# Persisted lineages pass the validator

The validator and the checkpoint store have their own notions of a lineage. `WritesLineage`
are the records of a trace that writes stored checkpoints, in order and possibly between
events. `CheckpointStore.Lineage` gives a root and children that follow each other in the
validator's sense (`checkpointChain_of_lineage`), and each record is clean at its position, so
the trace of every run that a store can hold is accepted (`persistedLineage_clean`).

What the validator asks beyond the lineage comes from the checks of `start` and `advance` :
checkpoint ids are not blank (`NamedCheckpoints`), and the plan is a digest.
-/

set_option linter.unusedSectionVars false

open Serial Keyed

namespace ReliabilityLab

/-- 64 lowercase hexadecimal digits. -/
def IsHexDigest (text : String) : Prop :=
  text.toList.length = 64 ∧ ∀ c ∈ text.toList, c ∈ hexDigits

theorem IsHexDigest.isSha256 {text : String} (h : IsHexDigest text) :
    TraceIntegrity.isSha256Text text = true := by
  obtain ⟨hlen, hdigits⟩ := h
  have hne : text.toList ≠ [] := fun hnil => by simp [hnil] at hlen
  have hlower : text.toList.map Char.toLower = text.toList :=
    (List.map_congr_left fun c hc => (hexDigit_reads c (hdigits c hc)).2.2.2).trans (List.map_id _)
  exact decide_eq_true ⟨hlen, parseInt_of_hexDigits hne hdigits, hlower⟩

theorem ne_empty_of_nonblank {text : String} (h : isBlank text = false) : text ≠ "" := by
  rintro rfl
  cases h

namespace CheckpointStore

variable [Hashlib]

/-! ## Checkpoint ids -/

/-- The id of every stored checkpoint has passed the check of `start` or `advance`. -/
def NamedCheckpoints (db : RecoveryDb) : Prop :=
  ∀ c ∈ db.checkpoints.rows, isBlank c.checkpointId = false

theorem nonblank_of_checkStart {runId checkpointId : String} {plan : List RecoveryOperation}
    (h : checkStart runId plan checkpointId = .ok ()) : isBlank checkpointId = false := by
  obtain ⟨-, h⟩ := raiseIf_bind_eq_ok.1 h
  simpa using (raiseIf_bind_eq_ok.1 h).1

theorem NamedCheckpoints.append {db db' : RecoveryDb} {row : RecoveryCheckpoint}
    (h : NamedCheckpoints db) (hrows : db'.checkpoints.rows = db.checkpoints.rows ++ [row])
    (hrow : isBlank row.checkpointId = false) : NamedCheckpoints db' := by
  intro c hc
  rw [hrows, List.mem_append, List.mem_singleton] at hc
  rcases hc with hc | rfl
  · exact h c hc
  · exact hrow

theorem namedCheckpoints_preserved : recoveryMachine.Preserves NamedCheckpoints := by
  intro c db h
  rcases perform_cases c db with hs | ⟨runId, plan, id, hcheck, hstart⟩ |
    ⟨parent, id, run, n, hid, hadv⟩
  · intro c hc
    exact h c (hs.checkpoints ▸ hc)
  · exact h.append hstart.checkpoints (nonblank_of_checkStart hcheck)
  · exact h.append hadv.checkpoints hid

end CheckpointStore

namespace TraceIntegrity

open Json

/-! ## The trace of a lineage -/

/-- The record writes the checkpoint `c`. -/
structure WritesCheckpoint (c : RecoveryCheckpoint) (r : Mapping) : Prop where
  kind : HasKind "checkpoint" r
  runId : r.get "run_id" = .str c.runId
  checkpointId : r.get "checkpoint_id" = .str c.checkpointId
  parent : r.get "parent_checkpoint_id" = c.parentCheckpointId.elim .null .str
  sequence : r.get "checkpoint_sequence" = .int c.sequence
  plan : r.get "plan_sha256" = .str c.planSha256
  completed : r.get "completed_count" = .int c.completedCount

/-- The records write the checkpoints `cs`, in order and possibly between events of the
scope. No two records have one id, no two events have one event id, and the sequences are
positive and increase. -/
structure WritesLineage (ids : ScopeIds) (cs : List RecoveryCheckpoint) (rs : List Mapping) :
    Prop where
  checkpoints : List.Forall₂ WritesCheckpoint cs (checkpointsOf rs)
  others : ∀ r ∈ rs, HasKind "checkpoint" r ∨ HasKind "runtime_event" r ∧ CleanEvent ids [] r
  common : ∀ r ∈ rs, CleanCommon r
  eventIds : (eventIds rs).Nodup
  recordIds : (rs.map recordIdOf).Nodup
  increasing : (rs.map sequenceOf).Pairwise (· < ·)

theorem WritesCheckpoint.clean {c : RecoveryCheckpoint} {r : Mapping} (h : WritesCheckpoint c r)
    (hid : c.checkpointId ≠ "") (hsequence : 0 ≤ c.sequence) (hcompleted : 0 ≤ c.completedCount)
    (hplan : isSha256Text c.planSha256 = true) : CleanCheckpoint r := by
  refine ⟨?_, ⟨c.sequence, ?_, hsequence⟩, ⟨c.completedCount, ?_, hcompleted⟩, ?_⟩
  · rw [h.checkpointId]
    exact ⟨rfl, hid⟩
  · rw [h.sequence]
    rfl
  · rw [h.completed]
    rfl
  · rw [h.plan]
    exact hplan

/-- A child of `c` in the store follows it in the trace. -/
theorem WritesCheckpoint.follows {c d : RecoveryCheckpoint} {r q : Mapping}
    (hc : WritesCheckpoint c r) (hd : WritesCheckpoint d q)
    (hparent : d.parentCheckpointId = some c.checkpointId) (hsequence : d.sequence = c.sequence + 1)
    (hplan : d.planSha256 = c.planSha256) (hcompleted : c.completedCount < d.completedCount) :
    Follows r q := by
  refine ⟨?_, fun n hn => ?_, ?_, fun m hm n hn => ?_⟩
  · rw [hd.parent, hc.checkpointId, hparent, pyEq_str]
    rfl
  · rw [hc.sequence] at hn
    obtain rfl := Option.some.inj hn
    rw [hd.sequence, hsequence, pyEq_of_intValue? rfl rfl]
  · rw [hd.plan, hc.plan, hplan, pyEq_str]
  · rw [hc.completed] at hm
    rw [hd.completed] at hn
    obtain rfl := Option.some.inj hm
    obtain rfl := Option.some.inj hn
    exact hcompleted.le

/-- What the store calls a lineage is a chain of the validator. -/
theorem checkpointChain_of_lineage {runId planSha256 : String} {operationCount : Int}
    {cs : List RecoveryCheckpoint} {head : RecoveryCheckpoint} {rs : List Mapping}
    (h : CheckpointStore.Lineage runId planSha256 operationCount cs head)
    (hids : ∀ c ∈ cs, c.checkpointId ≠ "") (hplan : isSha256Text planSha256 = true)
    (hrs : List.Forall₂ WritesCheckpoint cs rs) : CheckpointChain none rs := by
  rw [checkpointChain_none]
  refine ⟨fun r hr => ?_, fun r hr => ?_, List.isChain_iff_getElem.2 fun k hk => ?_⟩
  · obtain ⟨k, hk⟩ := List.mem_iff_getElem?.1 hr
    obtain ⟨c, hc, hwrites⟩ := exists_of_forall₂_getElem? hrs hk
    have hmem := List.mem_of_getElem? hc
    obtain ⟨-, hcplan, hcompleted, -⟩ := h.bound c hmem
    have hsequence : 0 ≤ c.sequence := by
      have := h.sequence.2 k c hc
      omega
    exact hwrites.clean (hids c hmem) hsequence hcompleted (hcplan ▸ hplan)
  · rw [List.head?_eq_getElem?] at hr
    obtain ⟨c, hc, hwrites⟩ := exists_of_forall₂_getElem? hrs hr
    refine ⟨?_, ?_⟩
    · rw [hwrites.parent, (h.first c hc).1]
      rfl
    · rw [hwrites.sequence, h.sequence.2 0 c hc, pyEq_of_intValue? rfl rfl]
      rfl
  · obtain ⟨c, hc, hr⟩ := exists_of_forall₂_getElem? hrs
      (List.getElem?_eq_getElem (Nat.lt_of_succ_lt hk))
    obtain ⟨d, hd, hq⟩ := exists_of_forall₂_getElem? hrs (List.getElem?_eq_getElem hk)
    obtain ⟨hparent, hcompleted⟩ := h.link k c d hc hd
    have hcplan := (h.bound c (List.mem_of_getElem? hc)).2.1
    have hdplan := (h.bound d (List.mem_of_getElem? hd)).2.1
    have hsequence : d.sequence = c.sequence + 1 := by
      have hcseq := h.sequence.2 k c hc
      have hdseq := h.sequence.2 (k + 1) d hd
      omega
    exact hr.follows hq hparent hsequence (hdplan.trans hcplan.symm) hcompleted

section Validated

variable [Hashlib]

/-- Each record of such a trace is clean after those before it. -/
theorem WritesLineage.records {ids : ScopeIds} {cs : List RecoveryCheckpoint} {rs : List Mapping}
    (h : WritesLineage ids cs rs) (hrun : ∀ c ∈ cs, c.runId = ids.runId) :
    EachAfter (CleanRecord ids) [] rs := by
  rintro pre r post rfl
  have hr : r ∈ pre ++ r :: post := List.mem_append_right _ List.mem_cons_self
  rcases h.others r hr with hkind | ⟨hkind, hevent⟩
  · have hmem : r ∈ checkpointsOf (pre ++ r :: post) :=
      List.mem_filter.2 ⟨hr, decide_eq_true hkind⟩
    obtain ⟨k, hk⟩ := List.mem_iff_getElem?.1 hmem
    obtain ⟨c, hc, hwrites⟩ := exists_of_forall₂_getElem? h.checkpoints hk
    rw [cleanRecord_checkpoint hkind (h.common r hr), hwrites.runId,
      hrun c (List.mem_of_getElem? hc)]
  · rw [cleanRecord_event hkind (h.common r hr)]
    refine { hevent with fresh := fun hseen => ?_ }
    have hnodup := h.eventIds
    rw [TraceIntegrity.eventIds, List.filter_append, List.filter_cons,
      if_pos (decide_eq_true hkind), List.map_append, List.map_cons] at hnodup
    exact List.disjoint_of_nodup_append hnodup hseen List.mem_cons_self

/-- Such a trace binds no effect. -/
theorem WritesLineage.firstEncodes {ids : ScopeIds} {cs : List RecoveryCheckpoint}
    {rs : List Mapping} (h : WritesLineage ids cs rs) :
    FirstEncodes ids.scope (rs.map .dict) := by
  intro binding hbinding
  obtain ⟨item, hitem, hbound⟩ := List.exists_of_findSome?_eq_some hbinding
  obtain ⟨r, hr, rfl⟩ := List.mem_map.1 hitem
  have hnone : boundBy (.dict r) = none := by
    rcases h.others r hr with hkind | ⟨hkind, -⟩ <;> exact boundBy_of_kind hkind (by decide)
  cases hnone.symm.trans hbound

/-- If digests are hexadecimal, every trace that writes the lineage of a run of a reachable
store is accepted. -/
theorem persistedLineage_clean (hdigest : ∀ text, IsHexDigest (Hashlib.sha256Hexdigest text))
    (cs : List (CheckpointStore.RecoveryCall × Machine.Fate)) :
    let db := CheckpointStore.recoveryMachine.crashing.after .empty cs
    ∀ runId run, db.runs.find? runId = some run →
      ∀ (trace : Mapping) (ids : ScopeIds) (rs : List Mapping), ids.runId = runId →
        Reads trace ids rs → WritesLineage ids (db.lineage runId) rs →
        validateTraceText trace = .ok [] := by
  intro db runId run hrun trace ids rs hids hreads hwrites
  have hdb : CheckpointStore.WellFormed db :=
    CheckpointStore.wellFormed_preserved.crashing.after CheckpointStore.wellFormed_empty cs
  have hnamed : CheckpointStore.NamedCheckpoints db :=
    CheckpointStore.namedCheckpoints_preserved.crashing.after (fun c hc => by cases hc) cs
  obtain ⟨plan, -, hbinds⟩ := (CheckpointStore.startedPlans_after cs).exists_plan hrun
  obtain ⟨head, hlineage, -⟩ := hdb.lineage runId run hrun
  rw [hlineage.ordered] at hwrites
  have hplan : isSha256Text run.planSha256 = true := by
    rw [(Prod.mk.inj (Prod.mk.inj hbinds.bound).2).1]
    exact (hdigest _).isSha256
  have hnames : ∀ c ∈ db.checkpointsOf runId, c.checkpointId ≠ "" := fun c hc =>
    ne_empty_of_nonblank (hnamed c (RecoveryDb.mem_checkpointsOf.1 hc).1)
  have hrunIds : ∀ c ∈ db.checkpointsOf runId, c.runId = ids.runId := fun c hc =>
    (RecoveryDb.mem_checkpointsOf.1 hc).2.trans hids.symm
  have haccepted : Accepted ids rs := ⟨hwrites.records hrunIds, hwrites.increasing,
    hwrites.recordIds, checkpointChain_of_lineage hlineage hnames hplan hwrites.checkpoints⟩
  exact validateTraceText_eq_nil.2 ⟨ids, rs, hreads, haccepted, hwrites.firstEncodes⟩

end Validated

/-! ## A sample lineage -/

/-- A run that starts the plan of the tests, loses the reply, and completes one operation. -/
def restartedRun : List (CheckpointStore.RecoveryCall × Machine.Fate) :=
  [(.start "run-42" testPlan "start", .unacknowledged),
    (.advance ⟨"run-42", "start", 0, none, testDigest, 0⟩ "after-op-1" 1, .returned)]

/-- The lineage of `restartedRun`, with an event between its checkpoints. -/
def restartedRecords : List Mapping :=
  [[("kind", .str "checkpoint"), ("record_id", .str "r1"), ("sequence", .int 1),
      ("run_id", .str "run-42"), ("checkpoint_id", .str "start"), ("parent_checkpoint_id", .null),
      ("checkpoint_sequence", .int 0), ("plan_sha256", .str testDigest),
      ("completed_count", .int 0)],
    [("kind", .str "runtime_event"), ("record_id", .str "r2"), ("sequence", .int 2),
      ("run_id", .str "run-42"), ("turn_id", .str "turn-parent"), ("event_id", .str "evt-1"),
      ("event_kind", .str "output"), ("payload_sha256", .str testDigest)],
    [("kind", .str "checkpoint"), ("record_id", .str "r3"), ("sequence", .int 3),
      ("run_id", .str "run-42"), ("checkpoint_id", .str "after-op-1"),
      ("parent_checkpoint_id", .str "start"), ("checkpoint_sequence", .int 1),
      ("plan_sha256", .str testDigest), ("completed_count", .int 1)]]

theorem persistedLineage_clean_sample :
    letI := testHashlib
    validateTraceText (sampleTrace restartedRecords) = .ok [] := by
  let := testHashlib
  have hdigits : testDigest.toList.all (· ∈ hexDigits) = true := by decide +kernel
  have hdigest : IsHexDigest testDigest :=
    ⟨by decide +kernel, fun c hc => of_decide_eq_true (List.all_eq_true.1 hdigits c hc)⟩
  have hlineage : (CheckpointStore.recoveryMachine.crashing.after .empty restartedRun).lineage
      "run-42" = [⟨"run-42", "start", 0, none, testDigest, 0⟩,
        ⟨"run-42", "after-op-1", 1, some "start", testDigest, 1⟩] := by decide +kernel
  have hcheckpoints : checkpointsOf restartedRecords =
      [restartedRecords[0], restartedRecords[2]] := by decide +kernel
  refine persistedLineage_clean (fun _ => hdigest) restartedRun "run-42"
    ⟨"run-42", CheckpointStore.planJson testPlan, testDigest, 3, "after-op-1"⟩
    (by decide +kernel) _ sampleIds restartedRecords rfl ⟨⟨_, rfl, rfl⟩, rfl⟩
    ⟨?_, ?_, ?_, ?_, ?_, ?_⟩
  · rw [hlineage, hcheckpoints]
    exact .cons ⟨rfl, rfl, rfl, rfl, rfl, rfl, rfl⟩
      (.cons ⟨rfl, rfl, rfl, rfl, rfl, rfl, rfl⟩ .nil)
  · refine List.forall_mem_cons.2 ⟨.inl rfl, List.forall_mem_cons.2 ⟨.inr ⟨rfl, ?_⟩,
      List.forall_mem_singleton.2 (.inl rfl)⟩⟩
    exact ⟨rfl, rfl, ⟨rfl, by decide⟩, by decide, ⟨"output", by decide, rfl⟩, by decide +kernel⟩
  · exact List.forall_mem_cons.2 ⟨⟨⟨rfl, by decide⟩, rfl, by decide⟩, List.forall_mem_cons.2
      ⟨⟨⟨rfl, by decide⟩, rfl, by decide⟩, List.forall_mem_singleton.2
        ⟨⟨rfl, by decide⟩, rfl, by decide⟩⟩⟩
  · decide +kernel
  · decide +kernel
  · decide +kernel

end TraceIntegrity

end ReliabilityLab
