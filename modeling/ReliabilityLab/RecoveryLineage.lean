import ReliabilityLab.Recovery

/-!
# Checkpoint lineages

What holds along every run of the checkpoint store, whatever plans, ids, counts and
parents its callers use.

`Lineage` is what a run is for : a root, and children that each continue the newest
checkpoint. The invariant `WellFormed` says that the stored checkpoints of every run
form one, in insertion order, whose last element is the head the run names, and that no
checkpoint is without a run. A parent that passes the checks of `advance` is then the
head itself, so the child extends the lineage, and no insert can be blocked.
`checkpointLineage` spells the lineage out.
-/

set_option linter.unusedSectionVars false

open Serial Keyed

namespace ReliabilityLab

namespace CheckpointStore

/-! ## Lineages -/

/-- A root and its successive children; the last one is the head. -/
inductive Lineage (runId planSha256 : String) (operationCount : Int) :
    List RecoveryCheckpoint → RecoveryCheckpoint → Prop
  | root (checkpointId : String) : 0 < operationCount →
      Lineage runId planSha256 operationCount [⟨runId, checkpointId, 0, none, planSha256, 0⟩]
        ⟨runId, checkpointId, 0, none, planSha256, 0⟩
  | child {L : List RecoveryCheckpoint} {head : RecoveryCheckpoint} (checkpointId : String)
      (completedCount : Int) : Lineage runId planSha256 operationCount L head →
      (∀ c ∈ L, c.checkpointId ≠ checkpointId) → head.completedCount < completedCount →
      completedCount ≤ operationCount →
      Lineage runId planSha256 operationCount
        (L ++ [⟨runId, checkpointId, head.sequence + 1, some head.checkpointId, planSha256,
          completedCount⟩])
        ⟨runId, checkpointId, head.sequence + 1, some head.checkpointId, planSha256,
          completedCount⟩

namespace Lineage

variable {runId planSha256 : String} {operationCount : Int} {L : List RecoveryCheckpoint}
  {head : RecoveryCheckpoint}

theorem getLast? (h : Lineage runId planSha256 operationCount L head) :
    L.getLast? = some head := by
  cases h <;> simp

theorem head_mem (h : Lineage runId planSha256 operationCount L head) : head ∈ L :=
  List.mem_of_getLast? h.getLast?

/-- The sequence of a checkpoint is its position. -/
theorem sequence (h : Lineage runId planSha256 operationCount L head) :
    head.sequence + 1 = L.length ∧ ∀ (k : Nat) c, L[k]? = some c → c.sequence = k := by
  induction h with
  | root checkpointId hcount =>
    refine ⟨rfl, fun k c hc => ?_⟩
    rcases k with _ | k
    · obtain rfl : _ = c := by simpa using hc
      rfl
    · simp at hc
  | child checkpointId completedCount hL hfresh hlt hle ih =>
    obtain ⟨hlen, hseq⟩ := ih
    refine ⟨by simp [hlen], fun k c hc => ?_⟩
    rcases getElem?_concat_eq_some.1 hc with hc | ⟨rfl, rfl⟩
    · exact hseq k c hc
    · exact hlen

/-- Every checkpoint is bound to the run and its plan, and counts operations of it. -/
theorem bound (h : Lineage runId planSha256 operationCount L head) :
    ∀ c ∈ L, c.runId = runId ∧ c.planSha256 = planSha256 ∧ 0 ≤ c.completedCount ∧
      c.completedCount ≤ operationCount := by
  induction h with
  | root checkpointId hcount =>
    intro c hc
    obtain rfl := List.mem_singleton.1 hc
    exact ⟨rfl, rfl, le_rfl, hcount.le⟩
  | child checkpointId completedCount hL hfresh hlt hle ih =>
    intro c hc
    rcases List.mem_append.1 hc with hc | hc
    · exact ih c hc
    · obtain rfl := List.mem_singleton.1 hc
      have hhead := (ih _ hL.head_mem).2.2.1
      exact ⟨rfl, rfl, by simp only; omega, hle⟩

theorem nodup (h : Lineage runId planSha256 operationCount L head) :
    (L.map RecoveryCheckpoint.checkpointId).Nodup := by
  induction h with
  | root checkpointId hcount => simp
  | child checkpointId completedCount hL hfresh hlt hle ih =>
    rw [List.map_append, List.nodup_append]
    refine ⟨ih, by simp, ?_⟩
    rintro a ha b hb rfl
    obtain ⟨c, hc, rfl⟩ := List.mem_map.1 ha
    exact hfresh c hc (List.mem_singleton.1 hb)

/-- The first checkpoint has no parent. -/
theorem first (h : Lineage runId planSha256 operationCount L head) :
    ∀ c, L[0]? = some c → c.parentCheckpointId = none ∧ c.completedCount = 0 := by
  induction h with
  | root checkpointId hcount =>
    intro c hc
    obtain rfl : _ = c := by simpa using hc
    exact ⟨rfl, rfl⟩
  | child checkpointId completedCount hL hfresh hlt hle ih =>
    intro c hc
    rcases getElem?_concat_eq_some.1 hc with hc | ⟨hlen, -⟩
    · exact ih c hc
    · have := List.length_pos_of_mem hL.head_mem
      omega

/-- Each other checkpoint names the one before it as its parent, and counts on from it. -/
theorem link (h : Lineage runId planSha256 operationCount L head) :
    ∀ (k : Nat) c d, L[k]? = some c → L[k + 1]? = some d →
      d.parentCheckpointId = some c.checkpointId ∧ c.completedCount < d.completedCount := by
  induction h with
  | root checkpointId hcount =>
    intro k c d hc hd
    simp at hd
  | @child L head checkpointId completedCount hL hfresh hlt hle ih =>
    intro k c d hc hd
    rcases getElem?_concat_eq_some.1 hd with hd | ⟨hlen, rfl⟩
    · have hk : k + 1 < L.length := (List.getElem?_eq_some_iff.1 hd).1
      rw [List.getElem?_append_left (by omega)] at hc
      exact ih k c d hc hd
    -- the new child comes right after the head
    · have hlast : L[k]? = some head := by
        rw [← hL.getLast?, List.getLast?_eq_getElem?]
        congr 1
        omega
      rw [List.getElem?_append_left (by omega), hlast] at hc
      obtain rfl := Option.some.inj hc
      exact ⟨rfl, hlt⟩

theorem eq_of_checkpointId (h : Lineage runId planSha256 operationCount L head)
    {c d : RecoveryCheckpoint} (hc : c ∈ L) (hd : d ∈ L) (hid : c.checkpointId = d.checkpointId) :
    c = d :=
  List.inj_on_of_nodup_map h.nodup hc hd hid

/-- No checkpoint has two children, and there is one root. -/
theorem eq_of_parent (h : Lineage runId planSha256 operationCount L head)
    {c d : RecoveryCheckpoint} (hc : c ∈ L) (hd : d ∈ L)
    (hparent : c.parentCheckpointId = d.parentCheckpointId) : c = d := by
  obtain ⟨i, hi⟩ := List.mem_iff_getElem?.1 hc
  obtain ⟨j, hj⟩ := List.mem_iff_getElem?.1 hd
  have hbefore : ∀ {k : Nat} {e : RecoveryCheckpoint}, L[k + 1]? = some e →
      ∃ p, L[k]? = some p ∧ e.parentCheckpointId = some p.checkpointId := by
    intro k e he
    have hk : k < L.length := by
      have := (List.getElem?_eq_some_iff.1 he).1
      omega
    exact ⟨L[k], List.getElem?_eq_getElem hk, (h.link k _ e (List.getElem?_eq_getElem hk) he).1⟩
  rcases i with _ | i <;> rcases j with _ | j
  · exact Option.some.inj (hi.symm.trans hj)
  · obtain ⟨p, -, hp⟩ := hbefore hj
    rw [(h.first c hi).1, hp] at hparent
    cases hparent
  · obtain ⟨p, -, hp⟩ := hbefore hi
    rw [(h.first d hj).1, hp] at hparent
    cases hparent
  · obtain ⟨p, hip, hp⟩ := hbefore hi
    obtain ⟨q, hjq, hq⟩ := hbefore hj
    rw [hp, hq, Option.some.injEq] at hparent
    obtain rfl := h.eq_of_checkpointId (List.mem_of_getElem? hip) (List.mem_of_getElem? hjq)
      hparent
    have hij : (i : Int) = j :=
      ((h.sequence.2 i p hip).symm.trans (h.sequence.2 j p hjq))
    obtain rfl : i = j := by omega
    exact Option.some.inj (hi.symm.trans hj)

theorem sequence_le (h : Lineage runId planSha256 operationCount L head) :
    ∀ c ∈ L, c.sequence ≤ head.sequence := by
  intro c hc
  obtain ⟨k, hk⟩ := List.mem_iff_getElem?.1 hc
  have hlt := (List.getElem?_eq_some_iff.1 hk).1
  have hseq := h.sequence.2 k c hk
  have hlen := h.sequence.1
  omega

/-- A lineage is in the order of its sequences. -/
theorem sorted (h : Lineage runId planSha256 operationCount L head) :
    L.Pairwise fun a b => a.sequence ≤ b.sequence := by
  induction h with
  | root checkpointId hcount => simp
  | child checkpointId completedCount hL hfresh hlt hle ih =>
    rw [List.pairwise_append]
    refine ⟨ih, by simp, fun a ha b hb => ?_⟩
    obtain rfl := List.mem_singleton.1 hb
    have := hL.sequence_le a ha
    simp only
    omega

/-- The stored checkpoints of a run are in the order of their sequences. -/
theorem ordered {db : RecoveryDb}
    (h : Lineage runId planSha256 operationCount (db.checkpointsOf runId) head) :
    db.lineage runId = db.checkpointsOf runId :=
  List.Pairwise.insertionSort_eq h.sorted

end Lineage

/-! ## The invariant -/

/-- The stored checkpoints of every run form a lineage whose head the run names. -/
structure WellFormed (db : RecoveryDb) : Prop where
  lineage : ∀ runId run, db.runs.find? runId = some run → ∃ head,
    Lineage runId run.planSha256 run.operationCount (db.checkpointsOf runId) head ∧
      head.checkpointId = run.headCheckpointId
  owned : ∀ c ∈ db.checkpoints.rows, ∃ run, db.runs.find? c.runId = some run

theorem wellFormed_empty : WellFormed .empty :=
  ⟨fun i run h => by simp [RecoveryDb.empty] at h, fun c hc => by simp [RecoveryDb.empty] at hc⟩

theorem checkpointsOf_append {db db' : RecoveryDb} {row : RecoveryCheckpoint}
    (h : db'.checkpoints.rows = db.checkpoints.rows ++ [row]) (runId : String) :
    db'.checkpointsOf runId =
      if runId = row.runId then db.checkpointsOf runId ++ [row] else db.checkpointsOf runId := by
  unfold RecoveryDb.checkpointsOf Table.select
  rw [h, List.filter_append]
  split_ifs with hr
  · simp [hr]
  · simp [Ne.symm hr]

variable [Hashlib]

/-- A run that is not stored has no checkpoint. -/
theorem WellFormed.checkpointsOf_absent {db : RecoveryDb} (h : WellFormed db) {runId : String}
    (habsent : db.runs.find? runId = none) : db.checkpointsOf runId = [] := by
  rw [List.eq_nil_iff_forall_not_mem]
  intro c hc
  obtain ⟨hrow, rfl⟩ := RecoveryDb.mem_checkpointsOf.1 hc
  obtain ⟨run, hrun⟩ := h.owned c hrow
  rw [habsent] at hrun
  cases hrun

/-- A stored parent that the run names is the head of the lineage. -/
theorem WellFormed.head_of_parent {db : RecoveryDb} (h : WellFormed db)
    {parent : RecoveryCheckpoint} {run : RunRow} (hfound : findParent parent db = .ok run)
    (hhead : run.headCheckpointId = parent.checkpointId) :
    Lineage parent.runId run.planSha256 run.operationCount (db.checkpointsOf parent.runId)
      parent := by
  obtain ⟨hrun, hload⟩ := findParent_eq_ok.1 hfound
  obtain ⟨head, hlineage, hid⟩ := h.lineage _ run hrun
  have hmem : parent ∈ db.checkpointsOf parent.runId :=
    RecoveryDb.mem_checkpointsOf.2 ⟨Table.mem_of_find? hload, rfl⟩
  obtain rfl := hlineage.eq_of_checkpointId hlineage.head_mem hmem (hid.trans hhead)
  exact hlineage

theorem WellFormed.starts {db db' : RecoveryDb} {runId : String}
    {plan : List RecoveryOperation} {checkpointId : String} (h : WellFormed db)
    (hstart : Starts db db' runId plan checkpointId) : WellFormed db' := by
  have hown : (initialCheckpoint runId checkpointId plan).runId = runId := rfl
  refine ⟨fun i run hrun => ?_, fun c hc => ?_⟩
  · rw [hstart.runs] at hrun
    rw [checkpointsOf_append hstart.checkpoints, hown]
    split_ifs at hrun ⊢ with hi
    · obtain rfl := Option.some.inj hrun
      have hcount : 0 < (plan.length : Int) := by
        have := List.length_pos_of_ne_nil hstart.nonempty
        omega
      rw [hi, h.checkpointsOf_absent hstart.absent]
      exact ⟨_, .root checkpointId hcount, rfl⟩
    · exact h.lineage i run hrun
  · rw [hstart.checkpoints, List.mem_append, List.mem_singleton] at hc
    rw [hstart.runs]
    split_ifs with hi
    · exact ⟨_, rfl⟩
    · rcases hc with hc | rfl
      · exact h.owned c hc
      · exact absurd rfl hi

theorem WellFormed.advances {db db' : RecoveryDb} {parent : RecoveryCheckpoint}
    {checkpointId : String} {run : RunRow} {completedCount : Int} (h : WellFormed db)
    (hadv : Advances db db' parent checkpointId run completedCount) : WellFormed db' := by
  have hown : (candidateCheckpoint parent checkpointId run completedCount).runId =
    parent.runId := rfl
  have hlineage := h.head_of_parent hadv.found hadv.may.head
  refine ⟨fun i r hr => ?_, fun c hc => ?_⟩
  · rw [hadv.runs] at hr
    rw [checkpointsOf_append hadv.checkpoints, hown]
    split_ifs at hr ⊢ with hi
    · obtain rfl := Option.some.inj hr
      have hfresh : ∀ c ∈ db.checkpointsOf parent.runId, c.checkpointId ≠ checkpointId := by
        rintro c hc rfl
        obtain ⟨hrow, hrun⟩ := RecoveryDb.mem_checkpointsOf.1 hc
        exact Table.find?_eq_none_iff.1 hadv.fresh c hrow (Prod.ext hrun rfl)
      rw [hi]
      exact ⟨_, .child checkpointId completedCount hlineage hfresh hadv.may.progress
        hadv.may.bound, rfl⟩
    · exact h.lineage i r hr
  · rw [hadv.checkpoints, List.mem_append, List.mem_singleton] at hc
    rw [hadv.runs]
    split_ifs with hi
    · exact ⟨_, rfl⟩
    · rcases hc with hc | rfl
      · exact h.owned c hc
      · exact absurd rfl hi

/-- Both tables are unchanged. -/
structure SameTables (db db' : RecoveryDb) : Prop where
  runs : db'.runs = db.runs
  checkpoints : db'.checkpoints = db.checkpoints

theorem SameTables.refl (db : RecoveryDb) : SameTables db db :=
  ⟨rfl, rfl⟩

theorem openStore_sameTables (db : RecoveryDb) : SameTables db (openStore db).1 := by
  refine transaction_rel (.refl db) fun a db' h => ?_
  obtain ⟨-, h⟩ := raiseIf_bind_eq_ok.1 h
  cases h
  exact ⟨rfl, rfl⟩

/-- A call leaves the tables alone, starts a run or advances a head. -/
theorem perform_cases (c : RecoveryCall) (db : RecoveryDb) :
    SameTables db (recoveryMachine.perform c db).1 ∨
      (∃ runId plan checkpointId, checkStart runId plan checkpointId = .ok () ∧
        Starts db (recoveryMachine.perform c db).1 runId plan checkpointId) ∨
      ∃ parent checkpointId run completedCount, isBlank checkpointId = false ∧
        Advances db (recoveryMachine.perform c db).1 parent checkpointId run completedCount := by
  rcases c with _ | ⟨runId, plan, checkpointId⟩ | _ | ⟨parent, checkpointId, completedCount⟩ | _
  · exact Or.inl (openStore_sameTables db)
  · rcases start_cases runId plan checkpointId db with
      ⟨e, h, -⟩ | ⟨run, -, -, -, h⟩ | ⟨db', hs, h⟩ <;> simp only [recoveryMachine, h]
    · exact Or.inl (.refl db)
    · exact Or.inl (.refl db)
    · exact Or.inr (Or.inl ⟨runId, plan, checkpointId, checkStart_of_ok (congrArg Prod.snd h), hs⟩)
  · exact Or.inl (.refl db)
  · rcases advance_cases parent checkpointId completedCount db with
      ⟨e, h, -⟩ | ⟨run, -, -, -, h⟩ | ⟨db', run, hadv, h⟩ <;> simp only [recoveryMachine, h]
    · exact Or.inl (.refl db)
    · exact Or.inl (.refl db)
    · have hid := nonblank_of_advance (congrArg Prod.snd h)
      exact Or.inr (Or.inr ⟨parent, checkpointId, run, completedCount, hid, hadv⟩)
  · exact Or.inl (.refl db)

theorem wellFormed_preserved : recoveryMachine.Preserves WellFormed := by
  intro c db h
  rcases perform_cases c db with hs | ⟨runId, plan, id, -, hstart⟩ | ⟨parent, id, run, n, -, hadv⟩
  · refine ⟨fun i run => ?_, fun c hc => ?_⟩
    · rw [hs.runs, RecoveryDb.checkpointsOf, hs.checkpoints]
      exact h.lineage i run
    · rw [hs.runs]
      exact h.owned c (hs.checkpoints ▸ hc)
  · exact h.starts hstart
  · exact h.advances hadv

/-! ## Constraints -/

theorem WellFormed.root_not_blocked {db : RecoveryDb} (h : WellFormed db) {runId : String}
    (habsent : db.runs.find? runId = none) (checkpointId : String)
    (plan : List RecoveryOperation) :
    ¬Blocked (initialCheckpoint runId checkpointId plan) db := by
  rintro ⟨c, hc, hblock⟩
  have hrun : c.runId = runId := by
    rcases hblock with hkey | ⟨hrun, -⟩
    · exact (Prod.mk.inj hkey).1
    · exact hrun
  have hmem := RecoveryDb.mem_checkpointsOf.2 ⟨hc, hrun⟩
  rw [h.checkpointsOf_absent habsent] at hmem
  cases hmem

theorem WellFormed.child_not_blocked {db : RecoveryDb} (h : WellFormed db)
    {parent : RecoveryCheckpoint} {checkpointId : String} {run : RunRow} {completedCount : Int}
    (hfound : findParent parent db = .ok run)
    (hfresh : loadCheckpoint db parent.runId checkpointId = none)
    (hmay : MayAdvance parent run completedCount) :
    ¬Blocked (candidateCheckpoint parent checkpointId run completedCount) db := by
  rintro ⟨c, hc, hkey | ⟨hrun, hseq⟩⟩
  · exact Table.find?_eq_none_iff.1 hfresh c hc hkey
  · have hle := (h.head_of_parent hfound hmay.head).sequence_le c
      (RecoveryDb.mem_checkpointsOf.2 ⟨hc, hrun⟩)
    simp only [candidateCheckpoint] at hseq
    omega

theorem current_error {runId : String} {db : RecoveryDb} {e : Raised}
    (h : current runId db = .error e) : e.error = .checkpointConflict := by
  simp only [current, orRaise_bind_eq_error, orRaise_eq_error] at h
  obtain ⟨-, rfl⟩ | ⟨run, -, -, rfl⟩ := h <;> rfl

theorem resume_error {checkpoint : RecoveryCheckpoint} {plan : List RecoveryOperation}
    {db : RecoveryDb} {e : Raised} (h : resume checkpoint plan db = .error e) :
    e.error ≠ .integrityError := by
  obtain h | ⟨⟨⟩, -, h⟩ := bind_eq_error.1 h
  · simp [materializePlan_error h]
  simp only [raiseIf_bind_eq_error, orRaise_bind_eq_error, reduceCtorEq, and_false, or_false] at h
  obtain ⟨-, rfl⟩ | ⟨run, -, ⟨-, rfl⟩ | ⟨-, ⟨-, rfl⟩ | ⟨p, -, ⟨-, rfl⟩ | ⟨-, -, rfl⟩⟩⟩⟩ := h <;>
    simp [unknownRun]

/-- No call violates a constraint of the database. -/
theorem perform_no_integrityError {c : RecoveryCall} {db : RecoveryDb} (hdb : WellFormed db)
    {e : Raised} (h : (recoveryMachine.perform c db).2 = .error e) :
    e.error ≠ .integrityError := by
  rcases c with _ | ⟨runId, plan, checkpointId⟩ | runId |
    ⟨parent, checkpointId, completedCount⟩ | ⟨checkpoint, plan⟩ <;> have h := map_eq_error.1 h
  · obtain ⟨-, rfl⟩ | ⟨-, h⟩ := raiseIf_bind_eq_error.1 (transaction_eq_error.1 h)
    · simp
    · cases h
  · rcases start_cases runId plan checkpointId db with
      ⟨e', hs, hcause⟩ | ⟨run, -, -, -, hs⟩ | ⟨db', -, hs⟩ <;> rw [hs] at h
    · obtain rfl := Except.error.inj h
      rcases hcause with hne | ⟨habsent, hblocked⟩
      · exact hne
      · exact absurd hblocked (hdb.root_not_blocked habsent checkpointId plan)
    · cases h
    · cases h
  · simp [current_error h]
  · rcases advance_cases parent checkpointId completedCount db with
      ⟨e', hs, hcause⟩ | ⟨run, -, -, -, hs⟩ | ⟨db', run, -, hs⟩ <;> rw [hs] at h
    · obtain rfl := Except.error.inj h
      rcases hcause with hne | ⟨run, hfound, hfresh, hmay, hblocked⟩
      · exact hne
      · exact absurd hblocked (hdb.child_not_blocked hfound hfresh hmay)
    · cases h
    · cases h
  · exact resume_error h

/-- The head of a stored run is stored. -/
theorem WellFormed.load_head {db : RecoveryDb} (h : WellFormed db) {runId : String} {run : RunRow}
    (hrun : db.runs.find? runId = some run) :
    ∃ head, loadCheckpoint db runId run.headCheckpointId = some head ∧ head.runId = runId ∧
      Lineage runId run.planSha256 run.operationCount (db.checkpointsOf runId) head := by
  obtain ⟨head, hlineage, hid⟩ := h.lineage runId run hrun
  obtain ⟨hrow, hown⟩ := RecoveryDb.mem_checkpointsOf.1 hlineage.head_mem
  refine ⟨head, ?_, hown, hlineage⟩
  rw [loadCheckpoint, ← hid, ← hown]
  exact Table.find?_of_mem hrow

theorem WellFormed.current {db : RecoveryDb} (h : WellFormed db) {runId : String} {run : RunRow}
    (hrun : db.runs.find? runId = some run) :
    ∃ head, current runId db = .ok head ∧
      Lineage runId run.planSha256 run.operationCount (db.checkpointsOf runId) head := by
  obtain ⟨head, hload, -, hlineage⟩ := h.load_head hrun
  refine ⟨head, ?_, hlineage⟩
  rw [CheckpointStore.current, hrun, orRaise_some, ok_bind, hload, orRaise_some]

theorem unknownRun_ne_missingHead (runId : String) : unknownRun runId ≠ missingHead := by
  intro h
  have hchars := congrArg (fun e => e.message.toList.head?) h
  simp [unknownRun, missingHead] at hchars

/-- In every reachable state, the checkpoints of every stored run, by sequence, have the
sequences `0, 1, 2, …`, different ids, and the run's plan; the first has no parent and
count `0`, each other names the one before it and counts on from it, within the plan;
and the run's head is the last. No two stored checkpoints of a run have the same parent,
every stored checkpoint belongs to a stored run, no call violates a constraint, and
`current` gives the head of every stored run and never finds it missing. -/
theorem checkpointLineage (cs : List (RecoveryCall × Machine.Fate)) :
    let db := recoveryMachine.crashing.after .empty cs
    (∀ runId run, db.runs.find? runId = some run →
        (∀ (k : Nat) c, (db.lineage runId)[k]? = some c → c.sequence = k ∧
          c.planSha256 = run.planSha256 ∧ c.completedCount ≤ run.operationCount) ∧
        ((db.lineage runId).map RecoveryCheckpoint.checkpointId).Nodup ∧
        (∀ c, (db.lineage runId)[0]? = some c →
          c.parentCheckpointId = none ∧ c.completedCount = 0) ∧
        (∀ (k : Nat) c d, (db.lineage runId)[k]? = some c →
          (db.lineage runId)[k + 1]? = some d →
          d.parentCheckpointId = some c.checkpointId ∧ c.completedCount < d.completedCount) ∧
        ∃ head, (db.lineage runId).getLast? = some head ∧
          head.checkpointId = run.headCheckpointId) ∧
      (∀ c ∈ db.checkpoints.rows, ∃ run, db.runs.find? c.runId = some run) ∧
      (∀ c ∈ db.checkpoints.rows, ∀ d ∈ db.checkpoints.rows, c.runId = d.runId →
        c.parentCheckpointId = d.parentCheckpointId → c = d) ∧
      (∀ c e, (recoveryMachine.perform c db).2 = .error e → e.error ≠ .integrityError) ∧
      (∀ runId run, db.runs.find? runId = some run →
        ∃ head, current runId db = .ok head ∧ head.checkpointId = run.headCheckpointId) ∧
      ∀ runId, current runId db ≠ .error missingHead := by
  intro db
  have hdb : WellFormed db := wellFormed_preserved.crashing.after wellFormed_empty cs
  refine ⟨fun runId run hrun => ?_, hdb.owned, fun c hc d hd hrun hparent => ?_,
    fun c e h => perform_no_integrityError hdb h, fun runId run hrun => ?_, fun runId h => ?_⟩
  · obtain ⟨head, hlineage, hid⟩ := hdb.lineage runId run hrun
    rw [hlineage.ordered]
    refine ⟨fun k c hc => ?_, hlineage.nodup, hlineage.first, hlineage.link, head,
      hlineage.getLast?, hid⟩
    obtain ⟨-, hplan, -, hle⟩ := hlineage.bound c (List.mem_of_getElem? hc)
    exact ⟨hlineage.sequence.2 k c hc, hplan, hle⟩
  · obtain ⟨run, hfind⟩ := hdb.owned c hc
    obtain ⟨head, hlineage, -⟩ := hdb.lineage _ run hfind
    exact hlineage.eq_of_parent (RecoveryDb.mem_checkpointsOf.2 ⟨hc, rfl⟩)
      (RecoveryDb.mem_checkpointsOf.2 ⟨hd, hrun.symm⟩) hparent
  · obtain ⟨head, hcurrent, hlineage⟩ := hdb.current hrun
    obtain ⟨head', hlineage', hid⟩ := hdb.lineage runId run hrun
    obtain rfl := Option.some.inj (hlineage.getLast?.symm.trans hlineage'.getLast?)
    exact ⟨head, hcurrent, hid⟩
  · rcases hrun : db.runs.find? runId with _ | run
    · rw [current, hrun, orRaise_none, error_bind] at h
      exact unknownRun_ne_missingHead runId (Except.error.inj h)
    · obtain ⟨head, hcurrent, -⟩ := hdb.current hrun
      rw [hcurrent] at h
      cases h

end CheckpointStore

end ReliabilityLab
