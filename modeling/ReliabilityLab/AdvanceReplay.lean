import ReliabilityLab.RecoveryLineage

/-!
# Replayed advances

What `advance` gives when a call that committed before is made again. Everything the call
compares is still there (`Committed`), since a run keeps its plan and its checkpoints; but
`advance` also asks that the checkpoint is the run's head. So the replay returns the
checkpoint just as long as the run has not gone on from it (`advance_replay_iff`), and raises
after that (`advancedTwice_conflict`).
-/

set_option linter.unusedSectionVars false

open Serial Keyed

namespace ReliabilityLab

namespace CheckpointStore

section Replayed

variable [Hashlib]

/-- The checkpoint `c` of an advance from `parent` is stored, with its parent and its run. -/
structure Committed (parent : RecoveryCheckpoint) (checkpointId : String) (completedCount : Int)
    (c : RecoveryCheckpoint) (db : RecoveryDb) : Prop where
  nonblank : isBlank checkpointId = false
  loaded : loadCheckpoint db parent.runId parent.checkpointId = some parent
  stored : loadCheckpoint db parent.runId checkpointId = some c
  run : ∃ run, db.runs.find? parent.runId = some run ∧
    c = candidateCheckpoint parent checkpointId run completedCount

/-- The run is at the checkpoint. -/
def AtHead (runId checkpointId : String) (db : RecoveryDb) : Prop :=
  ∃ run, db.runs.find? runId = some run ∧ run.headCheckpointId = checkpointId

variable {parent c : RecoveryCheckpoint} {checkpointId : String} {completedCount : Int}
  {db db' : RecoveryDb}

/-! ## What stays stored -/

/-- A stored checkpoint is found after an insert. -/
theorem loadCheckpoint_append {row : RecoveryCheckpoint}
    (h : db'.checkpoints.rows = db.checkpoints.rows ++ [row]) {runId id : String}
    (hload : loadCheckpoint db runId id = some c) : loadCheckpoint db' runId id = some c := by
  unfold loadCheckpoint at hload ⊢
  rw [Table.find?_eq_some_iff] at hload ⊢
  exact ⟨h ▸ List.mem_append_left _ hload.1, hload.2⟩

/-- What advances a run is an advance from its head, and other calls leave its head. -/
theorem Committed.step (h : Committed parent checkpointId completedCount c db)
    (call : RecoveryCall) :
    Committed parent checkpointId completedCount c (recoveryMachine.perform call db).1 ∧
      (AtHead parent.runId checkpointId db → (∀ m n, call ≠ .advance c m n) →
        AtHead parent.runId checkpointId (recoveryMachine.perform call db).1) := by
  obtain ⟨run, hrun, hc⟩ := h.run
  rcases call with _ | ⟨runId, plan, id⟩ | runId | ⟨p, m, n⟩ | ⟨q, plan⟩
  · have hsame := openStore_sameTables db
    refine ⟨⟨h.nonblank, ?_, ?_, run, ?_, hc⟩, fun hhead _ => ?_⟩
    · exact (congrArg (fun t => Table.find? t _) hsame.checkpoints).trans h.loaded
    · exact (congrArg (fun t => Table.find? t _) hsame.checkpoints).trans h.stored
    · exact (congrArg (fun t => Table.find? t _) hsame.runs).trans hrun
    · obtain ⟨r, hr, hid⟩ := hhead
      exact ⟨r, (congrArg (fun t => Table.find? t _) hsame.runs).trans hr, hid⟩
  · rcases start_cases runId plan id db with
      ⟨e, hs, -⟩ | ⟨run, -, -, -, hs⟩ | ⟨db', hstart, hs⟩ <;> simp only [recoveryMachine, hs]
    · exact ⟨h, fun hhead _ => hhead⟩
    · exact ⟨h, fun hhead _ => hhead⟩
    · -- a run that starts is another one
      have hkeep : db'.runs.find? parent.runId = db.runs.find? parent.runId := by
        rw [hstart.runs, if_neg]
        intro heq
        rw [heq, hstart.absent] at hrun
        cases hrun
      refine ⟨⟨h.nonblank, loadCheckpoint_append hstart.checkpoints h.loaded,
        loadCheckpoint_append hstart.checkpoints h.stored, run, hkeep.trans hrun, hc⟩, ?_⟩
      rintro ⟨r, hr, hid⟩ -
      exact ⟨r, hkeep.trans hr, hid⟩
  · exact ⟨h, fun hhead _ => hhead⟩
  · rcases advance_cases p m n db with
      ⟨e, hs, -⟩ | ⟨run, -, -, -, hs⟩ | ⟨db', r, hadv, hs⟩ <;> simp only [recoveryMachine, hs]
    · exact ⟨h, fun hhead _ => hhead⟩
    · exact ⟨h, fun hhead _ => hhead⟩
    · have hruns := hadv.runs parent.runId
      obtain ⟨hr, hp⟩ := findParent_eq_ok.1 hadv.found
      refine ⟨⟨h.nonblank, loadCheckpoint_append hadv.checkpoints h.loaded,
        loadCheckpoint_append hadv.checkpoints h.stored, ?_⟩, ?_⟩
      · split_ifs at hruns with hi
        · -- the row of the run keeps its plan
          rw [← hi] at hr
          obtain rfl := Option.some.inj (hr.symm.trans hrun)
          exact ⟨_, hruns, hc⟩
        · exact ⟨run, hruns.trans hrun, hc⟩
      · rintro ⟨r', hr', hid⟩ hne
        split_ifs at hruns with hi
        · -- the head that is advanced is the parent of the call
          rw [← hi] at hr
          obtain rfl := Option.some.inj (hr.symm.trans hr')
          have hpid : p.checkpointId = checkpointId := hadv.may.head.symm.trans hid
          rw [← hi, hpid, h.stored] at hp
          exact absurd rfl (Option.some.inj hp ▸ hne m n)
        · exact ⟨r', hruns.trans hr', hid⟩
  · exact ⟨h, fun hhead _ => hhead⟩

/-- A committed advance stays stored, and stays the head until an advance from it commits. -/
theorem Committed.after (h : Committed parent checkpointId completedCount c db)
    (cs : List (RecoveryCall × Machine.Fate)) :
    Committed parent checkpointId completedCount c (recoveryMachine.crashing.after db cs) ∧
      (AtHead parent.runId checkpointId db →
        (∀ m n fate, fate ≠ .rolledBack → (.advance c m n, fate) ∉ cs) →
        AtHead parent.runId checkpointId (recoveryMachine.crashing.after db cs)) := by
  induction cs generalizing db with
  | nil => exact ⟨h, fun hhead _ => hhead⟩
  | cons call cs ih =>
    rw [Machine.after_cons]
    rcases recoveryMachine.crashing_cases call db with ⟨hcall, -⟩ | ⟨hcall, hfate⟩ <;> rw [hcall]
    · obtain ⟨hkeep, hhead⟩ := ih h
      exact ⟨hkeep, fun hat hnot =>
        hhead hat fun m n fate hfate hmem => hnot m n fate hfate (List.mem_cons_of_mem _ hmem)⟩
    · obtain ⟨hstep, hstephead⟩ := h.step call.1
      obtain ⟨hkeep, hhead⟩ := ih hstep
      refine ⟨hkeep, fun hat hnot => hhead (hstephead hat fun m n hcall => ?_)
        fun m n fate hfate hmem => hnot m n fate hfate (List.mem_cons_of_mem _ hmem)⟩
      exact hnot m n call.2 hfate (by rw [← hcall]; exact List.mem_cons_self)

/-! ## The replay -/

/-- The replay of a committed advance returns its checkpoint just when the run is at it. -/
theorem Committed.replay_iff (h : Committed parent checkpointId completedCount c db) :
    advance parent checkpointId completedCount db = (db, .ok c) ↔
      AtHead parent.runId checkpointId db := by
  obtain ⟨run, hrun, hc⟩ := h.run
  have hfound : findParent parent db = .ok run := findParent_eq_ok.2 ⟨hrun, h.loaded⟩
  have hbody : advanceInTransaction parent checkpointId completedCount db = (do
      raiseIf (¬(c = candidateCheckpoint parent checkpointId run completedCount ∧
          run.headCheckpointId = checkpointId))
        ⟨.checkpointConflict, "checkpoint_id is already bound to different progress"⟩
      .ok (c, db)) := by
    simp only [advanceInTransaction, hfound, ok_bind, h.stored]
  rw [advance, if_neg (by simp [h.nonblank])]
  constructor
  · intro hreplay
    refine ⟨run, hrun, ?_⟩
    by_contra hne
    have hother : ¬(c = candidateCheckpoint parent checkpointId run completedCount ∧
        run.headCheckpointId = checkpointId) := fun hsame => hne hsame.2
    rw [raiseIf_pos hother, error_bind] at hbody
    rw [transaction_of_error hbody] at hreplay
    exact absurd (Prod.mk.inj hreplay).2 (by simp)
  · rintro ⟨run', hrun', hhead⟩
    obtain rfl := Option.some.inj (hrun.symm.trans hrun')
    rw [raiseIf_neg (not_not.2 ⟨hc, hhead⟩), ok_bind] at hbody
    exact transaction_of_ok hbody

/-- What an advance returns is stored, and is the head of its run. -/
theorem committed_of_advance (h : (advance parent checkpointId completedCount db).2 = .ok c) :
    Committed parent checkpointId completedCount c
        (advance parent checkpointId completedCount db).1 ∧
      AtHead parent.runId checkpointId (advance parent checkpointId completedCount db).1 := by
  have hnonblank := nonblank_of_advance h
  rcases advance_cases parent checkpointId completedCount db with
    ⟨e, hs, -⟩ | ⟨run, hfound, hhead, hload, hs⟩ | ⟨db', run, hadv, hs⟩ <;> rw [hs] at h ⊢
  · cases h
  · obtain ⟨hrun, hparent⟩ := findParent_eq_ok.1 hfound
    obtain rfl := Except.ok.inj h
    exact ⟨⟨hnonblank, hparent, hload, run, hrun, rfl⟩, run, hrun, hhead⟩
  · obtain ⟨-, hparent⟩ := findParent_eq_ok.1 hadv.found
    obtain rfl := Except.ok.inj h
    have hrun := hadv.runs parent.runId
    rw [if_pos rfl] at hrun
    refine ⟨⟨hnonblank, loadCheckpoint_append hadv.checkpoints hparent, ?_, _, hrun, rfl⟩, _, hrun,
      rfl⟩
    exact Table.find?_eq_some_iff.2 ⟨by rw [hadv.checkpoints]; simp, rfl⟩

/-- An advance that committed, made again after any calls, returns the checkpoint it returned
and leaves the store unchanged just when the run is still at that checkpoint; which it is if
no advance from the checkpoint was made in between, or all were rolled back. -/
theorem advance_replay_iff (cs₁ cs₂ : List (RecoveryCall × Machine.Fate))
    (parent : RecoveryCheckpoint) (checkpointId : String) (completedCount : Int)
    (fate : Machine.Fate) (hfate : fate ≠ .rolledBack) (c : RecoveryCheckpoint)
    (hc : (advance parent checkpointId completedCount
      (recoveryMachine.crashing.after .empty cs₁)).2 = .ok c) :
    let db := recoveryMachine.crashing.after .empty
      (cs₁ ++ (.advance parent checkpointId completedCount, fate) :: cs₂)
    (advance parent checkpointId completedCount db = (db, .ok c) ↔
        ∃ run, db.runs.find? parent.runId = some run ∧ run.headCheckpointId = checkpointId) ∧
      ((∀ m n fate, fate ≠ .rolledBack → (.advance c m n, fate) ∉ cs₂) →
        advance parent checkpointId completedCount db = (db, .ok c)) := by
  intro db
  obtain ⟨hcommitted, hhead⟩ := committed_of_advance hc
  have hdb : db = recoveryMachine.crashing.after
      (advance parent checkpointId completedCount
        (recoveryMachine.crashing.after .empty cs₁)).1 cs₂ := by
    show recoveryMachine.crashing.after .empty _ = _
    rw [Machine.after_append, Machine.after_cons]
    rcases recoveryMachine.crashing_cases (.advance parent checkpointId completedCount, fate)
      (recoveryMachine.crashing.after .empty cs₁) with ⟨-, hlost⟩ | ⟨hcall, -⟩
    · exact absurd hlost hfate
    · rw [hcall]
      rfl
  obtain ⟨hkept, hstill⟩ := hcommitted.after cs₂
  rw [← hdb] at hkept hstill
  exact ⟨hkept.replay_iff, fun hnot => hkept.replay_iff.2 (hstill hhead hnot)⟩

end Replayed

/-! ## A run that went on -/

/-- The root of a run of `testPlan`. -/
def advancedRoot : RecoveryCheckpoint :=
  ⟨"run-1", "start", 0, none, testDigest, 0⟩

/-- The first advance of that run. -/
def advancedOnce : RecoveryCheckpoint :=
  ⟨"run-1", "after-op-1", 1, some "start", testDigest, 1⟩

/-- After a second advance, the replay of the first raises. -/
theorem advancedTwice_conflict :
    letI := testHashlib
    ¬∀ (cs₁ cs₂ : List (RecoveryCall × Machine.Fate)) (parent : RecoveryCheckpoint)
      (checkpointId : String) (completedCount : Int) (fate : Machine.Fate),
      fate ≠ .rolledBack → ∀ c, (advance parent checkpointId completedCount
        (recoveryMachine.crashing.after .empty cs₁)).2 = .ok c →
      let db := recoveryMachine.crashing.after .empty
        (cs₁ ++ (.advance parent checkpointId completedCount, fate) :: cs₂)
      advance parent checkpointId completedCount db = (db, .ok c) := by
  let := testHashlib
  intro h
  have hreplay := h [(.start "run-1" testPlan "start", .returned)]
    [(.advance advancedOnce "after-op-2" 2, .returned)] advancedRoot "after-op-1" 1 .returned
    (by simp) advancedOnce (by decide +kernel)
  have hraises : (advance advancedRoot "after-op-1" 1 (recoveryMachine.crashing.after .empty
      [(.start "run-1" testPlan "start", .returned),
        (.advance advancedRoot "after-op-1" 1, .returned),
        (.advance advancedOnce "after-op-2" 2, .returned)])).2 =
      .error ⟨.checkpointConflict, "checkpoint_id is already bound to different progress"⟩ := by
    decide +kernel
  have hreply := (congrArg Prod.snd hreplay).symm.trans hraises
  cases hreply

/-- After a restart, the replay of the only advance returns it. -/
theorem advance_replay_iff_sample :
    letI := testHashlib
    let db := recoveryMachine.crashing.after .empty
      ([(.start "run-1" testPlan "start", .returned)] ++
        (.advance advancedRoot "after-op-1" 1, .unacknowledged) :: [(.reopen, .returned)])
    advance advancedRoot "after-op-1" 1 db = (db, .ok advancedOnce) :=
  letI := testHashlib
  (advance_replay_iff [(.start "run-1" testPlan "start", .returned)] [(.reopen, .returned)]
    advancedRoot "after-op-1" 1 .unacknowledged (by simp) advancedOnce (by decide +kernel)).2
    (by simp)

end CheckpointStore

end ReliabilityLab
