import ReliabilityLab.CanonicalText
import ReliabilityLab.RecoveryLineage
import ReliabilityLab.Segments

/-!
# Resumed plans

What `resume` returns, against the plan a run was started with. The history determines that
plan (`startedPlan`), and `StartedPlans` is the invariant that the rows of the runs are bound
to these plans. A row is bound by the text of its plan, which determines the plan
(`planJson_injective`), so no other list of operations passes (`resume_eq_ok`,
`StartedPlans.resume_iff`).

The counts of a lineage increase from `0` within the plan, so they cut it into segments, the
operations that each checkpoint completed; what `resume` returns is the rest.
-/

set_option linter.unusedSectionVars false

open Serial Keyed

namespace ReliabilityLab

namespace CheckpointStore

/-! ## The counts of a lineage -/

theorem Lineage.counts_increase {runId planSha256 : String} {operationCount : Int}
    {L : List RecoveryCheckpoint} {head : RecoveryCheckpoint}
    (h : Lineage runId planSha256 operationCount L head) :
    (L.map RecoveryCheckpoint.completedCount).Pairwise (· < ·) ∧
      ∀ c ∈ L, c.completedCount ≤ head.completedCount := by
  induction h with
  | root checkpointId hcount => simp
  | @child L head checkpointId completedCount hL hfresh hlt hle ih =>
    obtain ⟨hincrease, hmax⟩ := ih
    rw [List.map_append, List.pairwise_append]
    refine ⟨⟨hincrease, by simp, fun n hn m hm => ?_⟩, fun c hc => ?_⟩
    · obtain ⟨c, hc, rfl⟩ := List.mem_map.1 hn
      obtain rfl := List.mem_singleton.1 hm
      exact (hmax c hc).trans_lt hlt
    · rcases List.mem_append.1 hc with hc | hc
      · exact (hmax c hc).trans hlt.le
      · obtain rfl := List.mem_singleton.1 hc
        exact le_rfl

/-- The completed counts of checkpoints, as positions in their plan. -/
def cutsOf (L : List RecoveryCheckpoint) : List Nat :=
  L.map fun c => c.completedCount.toNat

theorem Lineage.cuts_increase {runId planSha256 : String} {operationCount : Int}
    {L : List RecoveryCheckpoint} {head : RecoveryCheckpoint}
    (h : Lineage runId planSha256 operationCount L head) :
    (0 :: cutsOf L).Pairwise (· ≤ ·) := by
  refine List.pairwise_cons.2 ⟨fun n _ => Nat.zero_le n, ?_⟩
  refine List.pairwise_map.2 ((List.pairwise_map.1 h.counts_increase.1).imp fun hlt => ?_)
  exact Int.toNat_le_toNat hlt.le

theorem Lineage.getLastD_cuts {runId planSha256 : String} {operationCount : Int}
    {L : List RecoveryCheckpoint} {head : RecoveryCheckpoint}
    (h : Lineage runId planSha256 operationCount L head) :
    (cutsOf L).getLastD 0 = head.completedCount.toNat := by
  rw [List.getLastD_eq_getLast?, cutsOf, List.getLast?_map, h.getLast?]
  rfl

section Resumed

variable [Hashlib]

/-! ## The plan of a run -/

/-- A step of a run, with its reply. -/
abbrev RecoveryEvent := (RecoveryCall × Machine.Fate) × Option (Except Raised RecoveryReply)

/-- The plan of a call that started `runId`, or replayed its start. -/
def planOf (runId : String) : RecoveryEvent → Option (List RecoveryOperation)
  | ((.start id plan _, _), some (.ok _)) => if id = runId then some plan else none
  | _ => none

/-- The plan a run was started with. -/
def startedPlan (h : List RecoveryEvent) (runId : String) : Option (List RecoveryOperation) :=
  h.findSome? (planOf runId)

theorem startedPlan_concat (h : List RecoveryEvent) (e : RecoveryEvent) (runId : String) :
    startedPlan (h ++ [e]) runId = (startedPlan h runId).or (planOf runId e) := by
  rw [startedPlan, List.findSome?_append, List.findSome?_singleton]
  rfl

/-- The row of a run is bound to a plan that passes the checks. -/
structure BindsPlan (run : RunRow) (plan : List RecoveryOperation) : Prop where
  bound : BoundTo run plan
  checked : materializePlan plan = .ok ()

/-- The stored runs are those with a started plan, and are bound to it. -/
def StartedPlans (h : List RecoveryEvent) (db : RecoveryDb) : Prop :=
  ∀ runId, Option.Rel BindsPlan (db.runs.find? runId) (startedPlan h runId)

theorem startedPlans_empty : StartedPlans [] .empty :=
  fun _ => Option.Rel.none

theorem StartedPlans.exists_plan {h : List RecoveryEvent} {db : RecoveryDb}
    (hplans : StartedPlans h db) {runId : String} {run : RunRow}
    (hrun : db.runs.find? runId = some run) :
    ∃ plan, startedPlan h runId = some plan ∧ BindsPlan run plan := by
  have hrel := hplans runId
  rw [hrun] at hrel
  rcases hplan : startedPlan h runId with _ | plan <;> rw [hplan] at hrel <;> cases hrel
  case some.some hbinds => exact ⟨plan, rfl, hbinds⟩

theorem StartedPlans.eq_none {h : List RecoveryEvent} {db : RecoveryDb}
    (hplans : StartedPlans h db) {runId : String} (hrun : db.runs.find? runId = none) :
    startedPlan h runId = none := by
  have hrel := hplans runId
  rw [hrun] at hrel
  rcases hplan : startedPlan h runId with _ | plan
  · rfl
  · rw [hplan] at hrel
    cases hrel

theorem materializePlan_of_checkStart {runId checkpointId : String}
    {plan : List RecoveryOperation} (h : checkStart runId plan checkpointId = .ok ()) :
    materializePlan plan = .ok () := by
  obtain ⟨-, h⟩ := raiseIf_bind_eq_ok.1 h
  exact (raiseIf_bind_eq_ok.1 h).2

/-- A call that is no start, and leaves the bindings of the runs alone. -/
theorem StartedPlans.keep {h : List RecoveryEvent} {db db' : RecoveryDb} {e : RecoveryEvent}
    (hplans : StartedPlans h db) (hruns : db'.runs = db.runs)
    (he : ∀ runId, planOf runId e = none) : StartedPlans (h ++ [e]) db' := by
  intro runId
  rw [hruns, startedPlan_concat, he, Option.or_none]
  exact hplans runId

theorem StartedPlans.replays {h : List RecoveryEvent} {db : RecoveryDb} {e : RecoveryEvent}
    {runId : String} {run : RunRow} (hplans : StartedPlans h db)
    (hrun : db.runs.find? runId = some run) (he : ∀ i, i ≠ runId → planOf i e = none) :
    StartedPlans (h ++ [e]) db := by
  intro i
  rw [startedPlan_concat]
  by_cases hi : i = runId
  · subst hi
    obtain ⟨plan, hplan, hbinds⟩ := hplans.exists_plan hrun
    rw [hrun, hplan, Option.some_or]
    exact .some hbinds
  · rw [he i hi, Option.or_none]
    exact hplans i

theorem StartedPlans.starts {h : List RecoveryEvent} {db db' : RecoveryDb} {e : RecoveryEvent}
    {runId checkpointId : String} {plan : List RecoveryOperation} (hplans : StartedPlans h db)
    (hstart : Starts db db' runId plan checkpointId) (hchecked : materializePlan plan = .ok ())
    (he : ∀ i, planOf i e = if runId = i then some plan else none) :
    StartedPlans (h ++ [e]) db' := by
  intro i
  rw [startedPlan_concat, hstart.runs, he]
  by_cases hi : i = runId
  · subst hi
    rw [hplans.eq_none hstart.absent, if_pos rfl, if_pos rfl, Option.none_or]
    exact .some ⟨rfl, hchecked⟩
  · rw [if_neg hi, if_neg (Ne.symm hi), Option.or_none]
    exact hplans i

theorem StartedPlans.advances {h : List RecoveryEvent} {db db' : RecoveryDb} {e : RecoveryEvent}
    {parent : RecoveryCheckpoint} {checkpointId : String} {run : RunRow} {completedCount : Int}
    (hplans : StartedPlans h db) (hadv : Advances db db' parent checkpointId run completedCount)
    (he : ∀ i, planOf i e = none) : StartedPlans (h ++ [e]) db' := by
  intro i
  rw [startedPlan_concat, hadv.runs, he, Option.or_none]
  by_cases hi : i = parent.runId
  · subst hi
    obtain ⟨plan, hplan, hbinds⟩ := hplans.exists_plan (findParent_eq_ok.1 hadv.found).1
    rw [hplan, if_pos rfl]
    -- an advance changes only the head of the row
    exact .some ⟨hbinds.bound, hbinds.checked⟩
  · rw [if_neg hi]
    exact hplans i

theorem startedPlans_after (cs : List (RecoveryCall × Machine.Fate)) :
    StartedPlans (recoveryMachine.crashing.history .empty cs)
      (recoveryMachine.crashing.after .empty cs) := by
  refine recoveryMachine.crashing.history_induction startedPlans_empty (fun h db c hplans => ?_) cs
  obtain ⟨call, fate⟩ := c
  rcases recoveryMachine.crashing_cases (call, fate) db with ⟨hc, -⟩ | ⟨hc, -⟩ <;> rw [hc]
  · exact hplans.keep rfl fun _ => by cases call <;> rfl
  rcases call with _ | ⟨runId, plan, checkpointId⟩ | runId |
    ⟨parent, checkpointId, completedCount⟩ | ⟨checkpoint, plan⟩
  · exact hplans.keep (openStore_sameTables db).runs fun _ => rfl
  · rcases start_cases runId plan checkpointId db with
      ⟨e, hs, -⟩ | ⟨run, hrun, -, -, hs⟩ | ⟨db', hstart, hs⟩ <;> simp only [recoveryMachine, hs]
    · exact hplans.keep rfl fun _ => rfl
    · exact hplans.replays hrun fun i hi => if_neg (Ne.symm hi)
    · have hchecked := materializePlan_of_checkStart (checkStart_of_ok (congrArg Prod.snd hs))
      exact hplans.starts hstart hchecked fun _ => rfl
  · exact hplans.keep rfl fun _ => rfl
  · rcases advance_cases parent checkpointId completedCount db with
      ⟨e, hs, -⟩ | ⟨run, -, -, -, hs⟩ | ⟨db', run, hadv, hs⟩ <;> simp only [recoveryMachine, hs]
    · exact hplans.keep rfl fun _ => rfl
    · exact hplans.keep rfl fun _ => rfl
    · exact hplans.advances hadv fun _ => rfl
  · exact hplans.keep rfl fun _ => rfl

/-! ## What `resume` returns -/

theorem BindsPlan.eq {run : RunRow} {plan ops : List RecoveryOperation} (h : BindsPlan run plan)
    (hops : BoundTo run ops) : ops = plan := by
  have htext : run.planJson = planJson ops := (Prod.mk.inj hops).1
  exact planJson_injective (htext.symm.trans (Prod.mk.inj h.bound).1)

theorem BindsPlan.nodup {run : RunRow} {plan : List RecoveryOperation} (h : BindsPlan run plan) :
    plan.Nodup := by
  have hids := raiseIf_eq_ok.1 (raiseIf_bind_eq_ok.1 h.checked).2
  exact (not_hasDuplicates.1 hids).of_map _

theorem resume_eq_ok {c : RecoveryCheckpoint} {ops remaining : List RecoveryOperation}
    {db : RecoveryDb} :
    resume c ops db = .ok remaining ↔ materializePlan ops = .ok () ∧
      ∃ run, db.runs.find? c.runId = some run ∧ BoundTo run ops ∧
        loadCheckpoint db c.runId run.headCheckpointId = some c ∧
        remaining = sliceFrom ops c.completedCount := by
  rw [resume, bind_eq_ok]
  simp only [orRaise_bind_eq_ok, raiseIf_bind_eq_ok, not_not, Except.ok.injEq]
  constructor
  · rintro ⟨⟨⟩, hchecked, run, hrun, hbound, p, hload, rfl, hhead, hrest⟩
    exact ⟨hchecked, run, hrun, hbound, hhead ▸ hload, hrest.symm⟩
  · rintro ⟨hchecked, run, hrun, hbound, hload, hrest⟩
    have hhead : c.checkpointId = run.headCheckpointId :=
      (Prod.mk.inj (Table.find?_eq_some_iff.1 hload).2).2
    exact ⟨(), hchecked, run, hrun, hbound, c, hhead ▸ hload, rfl, hhead.symm, hrest.symm⟩

/-- The head of a run resumes the plan it was started with, and nothing else does. -/
theorem StartedPlans.resume_iff {h : List RecoveryEvent} {db : RecoveryDb}
    (hplans : StartedPlans h db) (hdb : WellFormed db) {c : RecoveryCheckpoint}
    {ops remaining : List RecoveryOperation} :
    resume c ops db = .ok remaining ↔
      (∃ run, db.runs.find? c.runId = some run ∧
        loadCheckpoint db c.runId run.headCheckpointId = some c) ∧
        startedPlan h c.runId = some ops ∧ remaining = ops.drop c.completedCount.toNat := by
  have hslice : ∀ run, db.runs.find? c.runId = some run →
      loadCheckpoint db c.runId run.headCheckpointId = some c →
      sliceFrom ops c.completedCount = ops.drop c.completedCount.toNat := by
    intro run hrun hload
    obtain ⟨head, hlineage, -⟩ := hdb.lineage _ run hrun
    have hmem := RecoveryDb.mem_checkpointsOf.2 ⟨Table.mem_of_find? hload, rfl⟩
    rw [sliceFrom, if_neg (not_lt.2 (hlineage.bound c hmem).2.2.1)]
  rw [resume_eq_ok]
  constructor
  · rintro ⟨-, run, hrun, hbound, hload, rfl⟩
    obtain ⟨plan, hplan, hbinds⟩ := hplans.exists_plan hrun
    exact ⟨⟨run, hrun, hload⟩, hbinds.eq hbound ▸ hplan, hslice run hrun hload⟩
  · rintro ⟨⟨run, hrun, hload⟩, hplan, rfl⟩
    obtain ⟨plan, hplan', hbinds⟩ := hplans.exists_plan hrun
    obtain rfl := Option.some.inj (hplan'.symm.trans hplan)
    exact ⟨hbinds.checked, run, hrun, hbinds.bound, hload, (hslice run hrun hload).symm⟩

/-- In every reachable state, `resume` returns just when the run exists, the checkpoint is
the one its head names and the operations are the plan the run was started with; it then
returns the plan from the count of the checkpoint on. For every stored run, the counts of its
checkpoints, by sequence, cut the plan into segments that with the resumed rest are the plan,
and an operation of the plan is in a segment or in the rest, not in both. -/
theorem resume_exact (cs : List (RecoveryCall × Machine.Fate)) :
    let db := recoveryMachine.crashing.after .empty cs
    let history := recoveryMachine.crashing.history .empty cs
    (∀ c ops remaining, resume c ops db = .ok remaining ↔
        (∃ run, db.runs.find? c.runId = some run ∧
          loadCheckpoint db c.runId run.headCheckpointId = some c) ∧
        startedPlan history c.runId = some ops ∧ remaining = ops.drop c.completedCount.toNat) ∧
      ∀ runId run, db.runs.find? runId = some run → ∃ plan head,
        startedPlan history runId = some plan ∧ (db.lineage runId).getLast? = some head ∧
          (∀ c ∈ db.lineage runId, 0 ≤ c.completedCount ∧ c.completedCount ≤ plan.length) ∧
          resume head plan db = .ok (plan.drop head.completedCount.toNat) ∧
          (segments plan 0 (cutsOf (db.lineage runId))).flatten ++
            plan.drop head.completedCount.toNat = plan ∧
          ∀ op ∈ plan, op ∈ (segments plan 0 (cutsOf (db.lineage runId))).flatten ↔
            op ∉ plan.drop head.completedCount.toNat := by
  intro db history
  have hdb : WellFormed db := wellFormed_preserved.crashing.after wellFormed_empty cs
  have hplans : StartedPlans history db := startedPlans_after cs
  refine ⟨fun c ops remaining => hplans.resume_iff hdb, fun runId run hrun => ?_⟩
  obtain ⟨plan, hplan, hbinds⟩ := hplans.exists_plan hrun
  obtain ⟨head, hload, hown, hlineage⟩ := hdb.load_head hrun
  have hcount : run.operationCount = plan.length := (Prod.mk.inj (Prod.mk.inj hbinds.bound).2).2
  have hlast := hlineage.getLastD_cuts
  rw [hlineage.ordered]
  refine ⟨plan, head, hplan, hlineage.getLast?, fun c hc => ?_, ?_, ?_, fun op hop => ?_⟩
  · obtain ⟨-, -, hnonneg, hle⟩ := hlineage.bound c hc
    exact ⟨hnonneg, hcount ▸ hle⟩
  · exact (hplans.resume_iff hdb).2 ⟨⟨run, hown ▸ hrun, hown ▸ hload⟩, hown ▸ hplan, rfl⟩
  · rw [← hlast]
    exact flatten_segments_append_drop hlineage.cuts_increase
  · rw [← hlast]
    exact mem_flatten_segments_iff hlineage.cuts_increase hbinds.nodup hop

end Resumed

end CheckpointStore

end ReliabilityLab
