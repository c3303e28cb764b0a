import ReliabilityLab.Redelivery
import ReliabilityLab.DurableEffects
import ReliabilityLab.AdvanceReplay
import ReliabilityLab.Reconciler

/-!
# Redelivered calls

Workers that lose a reply call again. In each of the stores a call that returned leaves
something behind that no later call removes and that makes the same call do nothing : a
stored request, decision or note, a started run or a stored checkpoint, a newer head or a
completion, a provider revision past the one a retry was allowed at. So redeliveries of
calls that have returned, at any time and by any worker, change neither a database nor a
reply to another call (`sandbox_redelivery`, `recovery_redelivery`,
`reconciler_redelivery`). The fencing store is not one of them : an `acquire` delivered
again gives a new authority.
-/

set_option linter.unusedSectionVars false

open Serial Keyed

namespace ReliabilityLab

/-- The call gave a result. -/
def Returns {α : Type} (reply : Except Raised α) : Prop :=
  ∃ a, reply = .ok a

namespace DurableSandbox

/-! ## The sandbox -/

/-- What a call that returned leaves behind. -/
def Done (c : SandboxCall) (db : SandboxDb) : Prop :=
  match c with
  | .reopen => db.userVersion = 1
  | .request operation => ∃ row, existing operation db = .ok row
  | .decide operation text => ∃ row d, existing operation db = .ok row ∧
      Decision.ofText? text = some d ∧ row.decision = some d
  | .execute operation _ => ∃ row, approvedRow operation db = .ok row ∧
      db.notes.find? operation.operationId ≠ none
  | .notes => True

theorem Later.existing {db db' : SandboxDb} (h : Later db db') {operation : LocalOperation}
    {row : OperationRow} (hrow : existing operation db = .ok row) :
    ∃ row', existing operation db' = .ok row' ∧ RowLater row row' := by
  obtain ⟨hfind, hs⟩ := existing_eq_ok.1 hrow
  obtain ⟨row', hfind', hlater⟩ := h.operations _ row hfind
  have hs' : Stores row' operation :=
    ⟨hlater.tool.trans hs.tool, hlater.payload.trans hs.payload⟩
  exact ⟨row', existing_eq_ok.2 ⟨hfind', hs'⟩, hlater⟩

theorem userVersion_applyEffect {operation : LocalOperation}
    {checkpoint : Stage → Except Raised Unit} {db db' : SandboxDb}
    (h : applyEffect operation checkpoint db = .ok db') : db'.userVersion = db.userVersion := by
  unfold applyEffect insertNote at h
  obtain ⟨-, h⟩ := check_bind_eq_ok.1 h
  obtain ⟨noted, hnoted, h⟩ := bind_eq_ok.1 h
  obtain ⟨notes, -, hnoted⟩ := orRaise_bind_eq_ok.1 hnoted
  obtain ⟨-, hnoted⟩ := raiseIf_bind_eq_ok.1 hnoted
  obtain ⟨-, h⟩ := check_bind_eq_ok.1 h
  obtain ⟨-, h⟩ := check_bind_eq_ok.1 h
  cases hnoted
  cases h
  rfl

/-- Only opening the sandbox sets its schema version. -/
theorem userVersion_perform (c : SandboxCall) (db : SandboxDb) :
    c = .reopen ∨ (sandboxMachine.perform c db).1.userVersion = db.userVersion := by
  have hrel : ∀ {α : Type} {body : SandboxDb → Except Raised (α × SandboxDb)},
      (∀ a db', body db = .ok (a, db') → db'.userVersion = db.userVersion) →
        (transaction body db).1.userVersion = db.userVersion :=
    fun hbody =>
      transaction_rel (R := fun db db' : SandboxDb => db'.userVersion = db.userVersion) rfl hbody
  cases c with
  | reopen => exact Or.inl rfl
  | request operation =>
    refine Or.inr (hrel fun _ db' h => ?_)
    obtain ⟨row, -, h⟩ := bind_eq_ok.1 h
    cases h
    rfl
  | decide operation text =>
    refine Or.inr ?_
    simp only [sandboxMachine, decide]
    cases Decision.ofText? text with
    | none => rfl
    | some d =>
      refine hrel fun _ db' h => ?_
      obtain ⟨row, -, h⟩ := bind_eq_ok.1 h
      obtain ⟨-, h⟩ := raiseIf_bind_eq_ok.1 h
      cases h
      rfl
  | execute operation checkpoint =>
    refine Or.inr (hrel fun _ db' h => ?_)
    obtain ⟨row, -, h⟩ := bind_eq_ok.1 h
    split_ifs at h
    · cases h
      rfl
    · obtain ⟨applied, happlied, h⟩ := bind_eq_ok.1 h
      cases h
      exact userVersion_applyEffect happlied
  | notes => exact Or.inr rfl

/-- What a call leaves behind is there for good. -/
theorem Done.later {c : SandboxCall} {db db' : SandboxDb} (h : Later db db')
    (hversion : db.userVersion = 1 → db'.userVersion = 1) (hdone : Done c db) : Done c db' := by
  cases c with
  | reopen => exact hversion hdone
  | request operation =>
    obtain ⟨row, hrow⟩ := hdone
    obtain ⟨row', hrow', -⟩ := h.existing hrow
    exact ⟨row', hrow'⟩
  | decide operation text =>
    obtain ⟨row, d, hrow, htext, hd⟩ := hdone
    obtain ⟨row', hrow', hlater⟩ := h.existing hrow
    exact ⟨row', d, hrow', htext, hlater.decision d hd⟩
  | execute operation checkpoint =>
    obtain ⟨row, hrow, hnote⟩ := hdone
    obtain ⟨hrow, hd⟩ := approvedRow_eq_ok.1 hrow
    obtain ⟨row', hrow', hlater⟩ := h.existing hrow
    obtain ⟨note, hnote⟩ := Option.ne_none_iff_exists'.1 hnote
    refine ⟨row', approvedRow_eq_ok.2 ⟨hrow', hlater.decision _ hd⟩, ?_⟩
    rw [h.notes _ note hnote]
    simp
  | notes => trivial

/-- A call that returns has left it behind. -/
theorem done_of_returned {c : SandboxCall} {db : SandboxDb} {reply : SandboxReply}
    (h : WellFormed db) (hreply : (sandboxMachine.perform c db).2 = .ok reply) :
    Done c (sandboxMachine.perform c db).1 := by
  cases c with
  | reopen =>
    obtain ⟨u, hopen, -⟩ := map_eq_ok.1 hreply
    obtain ⟨-, hdb⟩ := raiseIf_bind_eq_ok.1 (transaction_eq_ok.1 hopen)
    have hstate := congrArg Prod.snd (Except.ok.inj hdb)
    exact (congrArg SandboxDb.userVersion hstate).symm
  | request operation =>
    rcases request_cases operation db with
      ⟨db', hreq, hp⟩ | ⟨row, hrow, hp⟩ | ⟨row, e, -, -, hp⟩ <;>
      simp only [sandboxMachine, hp] at hreply ⊢
    · exact ⟨requestRow operation, existing_eq_ok.2
        ⟨by rw [hreq.operations, if_pos rfl], rfl, rfl⟩⟩
    · exact ⟨row, hrow⟩
    · cases hreply
  | decide operation text =>
    rcases decide_cases operation text db with ⟨row, d, htext, hdec, hp⟩ | ⟨e, hp, -⟩ <;>
      simp only [sandboxMachine, hp] at hreply ⊢
    · have hs := (existing_eq_ok.1 hdec.existing).2
      exact ⟨{ row with decision := some d }, d, existing_eq_ok.2
        ⟨by rw [hdec.operations, if_pos rfl], hs.tool, hs.payload⟩, htext, rfl⟩
    · cases hreply
  | execute operation checkpoint =>
    rcases execute_cases operation checkpoint db with
      ⟨e, hp, -⟩ | ⟨row, hrow, hcompleted, hp⟩ | ⟨row, db', hexec, hp⟩ <;>
      simp only [sandboxMachine, hp] at hreply ⊢
    · cases hreply
    · have hfind := (existing_eq_ok.1 (approvedRow_eq_ok.1 hrow).1).1
      exact ⟨row, hrow, by simp [(h.completed _ row hfind hcompleted).2]⟩
    · obtain ⟨hrow, hd⟩ := approvedRow_eq_ok.1 hexec.approved
      have hs := (existing_eq_ok.1 hrow).2
      refine ⟨{ row with completed := true }, approvedRow_eq_ok.2 ⟨existing_eq_ok.2
        ⟨by rw [hexec.operations, if_pos rfl], hs.tool, hs.payload⟩, hd⟩, ?_⟩
      simp [hexec.notes]
  | notes => trivial

/-- A call that finds its work done changes nothing. -/
theorem perform_of_done {c : SandboxCall} {db : SandboxDb} (hdone : Done c db) :
    (sandboxMachine.perform c db).1 = db := by
  cases c with
  | reopen =>
    have hversion : db.userVersion = 1 := hdone
    have hopen : openStore db = (db, .ok ()) := by
      refine transaction_of_ok ?_
      rw [raiseIf_neg (by simp [hversion]), ok_bind, ← hversion]
    exact congrArg Prod.fst hopen
  | request operation =>
    obtain ⟨row, hrow⟩ := hdone
    obtain ⟨hfind, hs⟩ := existing_eq_ok.1 hrow
    rcases request_cases operation db with
      ⟨db', hreq, -⟩ | ⟨row', -, hp⟩ | ⟨row', e, hfind', hnot, -⟩
    · rw [hreq.absent] at hfind
      cases hfind
    · simp only [sandboxMachine, hp]
    · obtain rfl := Option.some.inj (hfind.symm.trans hfind')
      exact absurd hs hnot
  | decide operation text =>
    obtain ⟨row, d, hrow, htext, hd⟩ := hdone
    have hfind := (existing_eq_ok.1 hrow).1
    rcases decide_cases operation text db with ⟨row', d', htext', hdec, hp⟩ | ⟨e, hp, -⟩ <;>
      simp only [sandboxMachine, hp]
    obtain rfl := Option.some.inj (htext.symm.trans htext')
    have hsame : ∀ r, db.operations.find? operation.operationId = some r →
        { r with decision := some d } = r := by
      intro r hr
      obtain rfl := Option.some.inj (hfind.symm.trans hr)
      rw [← hd]
    rw [setDecision, Table.update_eq_self hsame]
  | execute operation checkpoint =>
    obtain ⟨row, hrow, hnote⟩ := hdone
    rcases execute_cases operation checkpoint db with
      ⟨e, hp, -⟩ | ⟨row', -, -, hp⟩ | ⟨row', db', hexec, -⟩
    · simp only [sandboxMachine, hp]
    · simp only [sandboxMachine, hp]
    · exact absurd hexec.fresh hnote
  | notes => rfl

/-- The calls that return are absorbed when they are delivered again. -/
theorem absorbs : sandboxMachine.Absorbs WellFormed Returns Done where
  keeps := wellFormed_preserved
  finishes := by
    rintro c db h ⟨reply, hreply⟩
    exact done_of_returned h hreply
  stays := by
    intro c db h hdone d
    refine hdone.later (later_perform d db) fun hversion => ?_
    rcases userVersion_perform d db with rfl | hd
    · rw [perform_of_done (show Done .reopen db from hversion), hversion]
    · rw [hd, hversion]
  skips _ := perform_of_done

end DurableSandbox

namespace CheckpointStore

/-! ## The checkpoint store -/

section Recovery

variable [Hashlib]

/-- What a call that returned leaves behind. -/
def Done (c : RecoveryCall) (db : RecoveryDb) : Prop :=
  match c with
  | .reopen => db.userVersion = 1
  | .start runId _ _ => ∃ run, db.runs.find? runId = some run
  | .advance parent checkpointId _ => ∃ c, loadCheckpoint db parent.runId checkpointId = some c
  | .current _ | .resume _ _ => True

theorem userVersion_insertCheckpoint {row : RecoveryCheckpoint} {db db' : RecoveryDb}
    (h : insertCheckpoint row db = .ok db') : db'.userVersion = db.userVersion := by
  obtain ⟨checkpoints, -, h⟩ := orRaise_bind_eq_ok.1 h
  obtain ⟨-, h⟩ := raiseIf_bind_eq_ok.1 h
  cases h
  rfl

/-- Only opening the store sets its schema version. -/
theorem userVersion_perform (c : RecoveryCall) (db : RecoveryDb) :
    c = .reopen ∨ (recoveryMachine.perform c db).1.userVersion = db.userVersion := by
  have hrel : ∀ {body : RecoveryDb → Except Raised (RecoveryCheckpoint × RecoveryDb)},
      (∀ a db', body db = .ok (a, db') → db'.userVersion = db.userVersion) →
        (transaction body db).1.userVersion = db.userVersion := fun hbody =>
    transaction_rel (R := fun db db' : RecoveryDb => db'.userVersion = db.userVersion) rfl hbody
  cases c with
  | reopen => exact Or.inl rfl
  | start runId plan checkpointId =>
    refine Or.inr ?_
    simp only [recoveryMachine, start]
    cases checkStart runId plan checkpointId with
    | error e => rfl
    | ok u =>
      refine hrel fun _ db' h => ?_
      unfold startInTransaction at h
      cases hrun : db.runs.find? runId with
      | none =>
        rw [hrun] at h
        obtain ⟨started, hstarted, h⟩ := bind_eq_ok.1 h
        obtain ⟨rooted, hrooted, h⟩ := bind_eq_ok.1 h
        obtain ⟨runs, -, hruns⟩ := orRaise_bind_eq_ok.1 hstarted
        cases h
        cases hruns
        have hkeep := userVersion_insertCheckpoint hrooted
        exact hkeep
      | some run =>
        rw [hrun] at h
        obtain ⟨-, h⟩ := raiseIf_bind_eq_ok.1 h
        obtain ⟨existing, -, h⟩ := orRaise_bind_eq_ok.1 h
        obtain ⟨-, h⟩ := raiseIf_bind_eq_ok.1 h
        cases h
        rfl
  | current runId => exact Or.inr rfl
  | advance parent checkpointId completedCount =>
    refine Or.inr ?_
    simp only [recoveryMachine, advance]
    split_ifs
    · rfl
    refine hrel fun _ db' h => ?_
    obtain ⟨run, -, h⟩ := bind_eq_ok.1 h
    cases hload : loadCheckpoint db parent.runId checkpointId with
    | none =>
      rw [hload] at h
      obtain ⟨-, h⟩ := check_bind_eq_ok.1 h
      obtain ⟨added, hadded, h⟩ := bind_eq_ok.1 h
      cases h
      have hkeep := userVersion_insertCheckpoint hadded
      exact hkeep
    | some existing =>
      rw [hload] at h
      obtain ⟨-, h⟩ := raiseIf_bind_eq_ok.1 h
      cases h
      rfl
  | resume checkpoint plan => exact Or.inr rfl

/-- Runs and checkpoints are never removed. -/
structure Later (db db' : RecoveryDb) : Prop where
  runs : ∀ i run, db.runs.find? i = some run → ∃ run', db'.runs.find? i = some run'
  checkpoints : ∀ i id c, loadCheckpoint db i id = some c → loadCheckpoint db' i id = some c

theorem later_perform (c : RecoveryCall) (db : RecoveryDb) :
    Later db (recoveryMachine.perform c db).1 := by
  rcases perform_cases c db with hs | ⟨runId, plan, id, -, hstart⟩ | ⟨parent, id, run, n, -, hadv⟩
  · refine ⟨fun i run hrun => ⟨run, hs.runs ▸ hrun⟩, fun i id c hc => ?_⟩
    unfold loadCheckpoint at hc ⊢
    rw [hs.checkpoints, hc]
  · refine ⟨fun i run hrun => ?_, fun i id c => loadCheckpoint_append hstart.checkpoints⟩
    rw [hstart.runs]
    split_ifs
    · exact ⟨_, rfl⟩
    · exact ⟨run, hrun⟩
  · refine ⟨fun i run hrun => ?_, fun i id c => loadCheckpoint_append hadv.checkpoints⟩
    rw [hadv.runs]
    split_ifs
    · exact ⟨_, rfl⟩
    · exact ⟨run, hrun⟩

/-- A call that returns has left it behind. -/
theorem done_of_returned {c : RecoveryCall} {db : RecoveryDb} {reply : RecoveryReply}
    (hreply : (recoveryMachine.perform c db).2 = .ok reply) :
    Done c (recoveryMachine.perform c db).1 := by
  cases c with
  | reopen =>
    obtain ⟨u, hopen, -⟩ := map_eq_ok.1 hreply
    obtain ⟨-, hdb⟩ := raiseIf_bind_eq_ok.1 (transaction_eq_ok.1 hopen)
    have hstate := congrArg Prod.snd (Except.ok.inj hdb)
    exact (congrArg RecoveryDb.userVersion hstate).symm
  | start runId plan checkpointId =>
    rcases start_cases runId plan checkpointId db with
      ⟨e, hp, -⟩ | ⟨run, hrun, -, -, hp⟩ | ⟨db', hstart, hp⟩ <;>
      simp only [recoveryMachine, hp] at hreply ⊢
    · cases hreply
    · exact ⟨run, hrun⟩
    · exact ⟨_, (hstart.runs runId).trans (if_pos rfl)⟩
  | current runId => trivial
  | advance parent checkpointId completedCount =>
    rcases advance_cases parent checkpointId completedCount db with
      ⟨e, hp, -⟩ | ⟨run, -, -, hload, hp⟩ | ⟨db', run, hadv, hp⟩ <;>
      simp only [recoveryMachine, hp] at hreply ⊢
    · cases hreply
    · exact ⟨_, hload⟩
    · refine ⟨candidateCheckpoint parent checkpointId run completedCount,
        Table.find?_eq_some_iff.2 ⟨?_, rfl⟩⟩
      rw [hadv.checkpoints]
      exact List.mem_append_right _ (List.mem_singleton_self _)
  | resume checkpoint plan => trivial

/-- A call that finds its work done changes nothing. -/
theorem perform_of_done {c : RecoveryCall} {db : RecoveryDb} (hdone : Done c db) :
    (recoveryMachine.perform c db).1 = db := by
  cases c with
  | reopen =>
    have hversion : db.userVersion = 1 := hdone
    have hopen : openStore db = (db, .ok ()) := by
      refine transaction_of_ok ?_
      rw [raiseIf_neg (by simp [hversion]), ok_bind, ← hversion]
    exact congrArg Prod.fst hopen
  | start runId plan checkpointId =>
    obtain ⟨run, hrun⟩ := hdone
    rcases start_cases runId plan checkpointId db with
      ⟨e, hp, -⟩ | ⟨run', -, -, -, hp⟩ | ⟨db', hstart, -⟩
    · simp only [recoveryMachine, hp]
    · simp only [recoveryMachine, hp]
    · rw [hstart.absent] at hrun
      cases hrun
  | current runId => rfl
  | advance parent checkpointId completedCount =>
    obtain ⟨c, hload⟩ := hdone
    rcases advance_cases parent checkpointId completedCount db with
      ⟨e, hp, -⟩ | ⟨run, -, -, -, hp⟩ | ⟨db', run, hadv, -⟩
    · simp only [recoveryMachine, hp]
    · simp only [recoveryMachine, hp]
    · rw [hadv.fresh] at hload
      cases hload
  | resume checkpoint plan => rfl

theorem absorbs :
    recoveryMachine.Absorbs (fun _ => True) Returns Done where
  keeps _ _ _ := trivial
  finishes := by
    rintro c db - ⟨reply, hreply⟩
    exact done_of_returned hreply
  stays := by
    intro c db _ hdone d
    have hlater := later_perform d db
    cases c with
    | reopen =>
      rcases userVersion_perform d db with rfl | hd
      · exact (perform_of_done hdone).symm ▸ hdone
      · exact hd.trans hdone
    | start runId plan checkpointId =>
      obtain ⟨run, hrun⟩ := hdone
      exact hlater.runs runId run hrun
    | current runId => trivial
    | advance parent checkpointId completedCount =>
      obtain ⟨c, hload⟩ := hdone
      exact ⟨c, hlater.checkpoints _ _ c hload⟩
    | resume checkpoint plan => trivial
  skips _ := perform_of_done

end Recovery

end CheckpointStore

namespace VersionedProviderStore

/-! ## The provider store -/

section Provider

variable [Hashlib]

/-- What a call that returned leaves behind. -/
def Done (c : ProviderCall) (db : ProviderDb) : Prop :=
  match c with
  | .reopen => True
  | .snapshot provider => ∃ row, db.revisions.find? provider = some row
  | .read operation => ∃ row, db.revisions.find? operation.provider = some row
  | .conditionalApply operation decision => ∃ r,
      decision.retryPreconditionRevision = some r ∧ r < db.revision operation.provider

theorem touch_of_row {db : ProviderDb} {provider : String} {row : RevisionRow}
    (h : db.revisions.find? provider = some row) : db.touch provider = db := by
  have hrow : db.revisions.find? (RevisionRow.provider ⟨provider, 0, le_rfl⟩) = some row := h
  rw [ProviderDb.touch, Table.insertOrIgnore_of_some hrow]

theorem row_touch {db : ProviderDb} {p : String} (provider : String)
    (h : p = provider ∨ ∃ row, db.revisions.find? p = some row) :
    ∃ row, (db.touch provider).revisions.find? p = some row := by
  simp only [ProviderDb.touch, Table.find?_insertOrIgnore]
  split_ifs with hp
  · exact ⟨_, rfl⟩
  · exact h.resolve_left hp

/-- A revision row is never removed. -/
theorem row_perform (c : ProviderCall) {db : ProviderDb} {p : String}
    (h : ∃ row, db.revisions.find? p = some row) :
    ∃ row, (providerMachine.perform c db).1.revisions.find? p = some row := by
  cases c with
  | reopen => exact h
  | snapshot provider =>
    rcases snapshot_cases provider db with ⟨hp, -⟩ | ⟨hp, -⟩ <;> simp only [providerMachine, hp]
    · exact h
    · exact row_touch provider (Or.inr h)
  | read operation =>
    simp only [providerMachine, read_eq]
    exact row_touch operation.provider (Or.inr h)
  | conditionalApply operation decision =>
    refine transaction_rel (R := fun _ db' : ProviderDb => ∃ row, db'.revisions.find? p = some row)
      h fun updated db' hbody => ?_
    rw [snapshotInTransaction_eq, ok_bind] at hbody
    obtain ⟨u, -, hbody⟩ := bind_eq_ok.1 hbody
    obtain ⟨effects, -, hbody⟩ := orRaise_bind_eq_ok.1 hbody
    cases hbody
    obtain ⟨row, hrow⟩ := row_touch operation.provider (Or.inr h)
    simp only [Table.find?_update]
    split_ifs with hp
    · subst hp
      rw [hrow]
      exact ⟨_, rfl⟩
    · exact ⟨row, hrow⟩

theorem absorbs : providerMachine.Absorbs (fun _ => True) Returns Done where
  keeps _ _ _ := trivial
  finishes := by
    rintro c db - ⟨reply, hreply⟩
    cases c with
    | reopen => trivial
    | snapshot provider =>
      rcases snapshot_cases provider db with ⟨hp, -⟩ | ⟨hp, -⟩ <;>
        simp only [providerMachine, hp] at hreply ⊢
      · cases hreply
      · exact row_touch provider (Or.inl rfl)
    | read operation =>
      simp only [providerMachine, read_eq]
      exact row_touch operation.provider (Or.inl rfl)
    | conditionalApply operation decision =>
      rcases conditionalApply_cases operation decision db with ⟨e, -, hp⟩ | ⟨u, db', hp, hcom⟩ <;>
        simp only [providerMachine, hp] at hreply ⊢
      · cases hreply
      · refine ⟨db.revision operation.provider, hcom.authorizes.precondition, ?_⟩
        rw [hcom.revision, if_pos rfl]
        omega
  stays := by
    intro c db _ hdone d
    cases c with
    | reopen => trivial
    | snapshot provider => exact row_perform d hdone
    | read operation => exact row_perform d hdone
    | conditionalApply operation decision =>
      obtain ⟨r, hr, hlt⟩ := hdone
      exact ⟨r, hr, hlt.trans_le ((grows_perform d db).revision operation.provider)⟩
  skips := by
    intro c db _ hdone
    cases c with
    | reopen => rfl
    | snapshot provider =>
      obtain ⟨row, hrow⟩ := hdone
      rcases snapshot_cases provider db with ⟨hp, -⟩ | ⟨hp, -⟩ <;> simp only [providerMachine, hp]
      exact touch_of_row hrow
    | read operation =>
      obtain ⟨row, hrow⟩ := hdone
      simp only [providerMachine, read_eq]
      exact touch_of_row hrow
    | conditionalApply operation decision =>
      obtain ⟨r, hr, hlt⟩ := hdone
      rcases conditionalApply_cases operation decision db with ⟨e, -, hp⟩ | ⟨u, db', hp, -⟩
      · simp only [providerMachine, hp]
      · exact absurd (by rw [hp]) ((conditionalApply_behind hr hlt).1 u)

end Provider

end VersionedProviderStore

namespace ReconciliationEvidenceStore

/-! ## The evidence store -/

section Evidence

variable [Hashlib]

/-- What a call that returned leaves behind. -/
def Done (c : EvidenceCall) (db : EvidenceDb) : Prop :=
  match c with
  | .record operation _ evidence => ∃ h r, db.head operation.identity = some h ∧
      evidence.readbackRevision = some r ∧ r ≤ h.revision
  | .markReconciled operation _ _ => ∃ c, db.completionOf operation.identity = some c
  | .reopen | .current _ | .completion _ | .assertCurrent _ _ _ | .applyRetry _ _ _ _ => True

/-- A call that returns has left it behind. -/
theorem done_of_returned {c : EvidenceCall} {db : EvidenceDb} {reply : EvidenceReply}
    (hreply : (evidenceMachine.perform c db).2 = .ok reply) :
    Done c (evidenceMachine.perform c db).1 := by
  cases c with
  | record operation evidenceId evidence =>
    rcases record_cases operation evidenceId evidence db with
      ⟨e, hp⟩ | ⟨candidate, found, hcand, -, hhead, hp⟩ <;>
      simp only [evidenceMachine, hp] at hreply ⊢
    · cases hreply
    obtain ⟨hid, -, -, hrev, -⟩ := candidate_fields hcand
    cases found with
    | none =>
      refine ⟨candidate, candidate.revision, ?_, hrev, le_rfl⟩
      rw [Option.elim_none, EvidenceDb.head_putHead, if_pos hid.symm]
    | some h =>
      obtain ⟨hh, -, heq, -, -⟩ := checkHead_eq_some.1 hhead
      exact ⟨h, candidate.revision, hh, hrev, heq.le⟩
  | markReconciled operation evidenceId decision =>
    rcases markReconciled_cases operation evidenceId decision db with
      ⟨e, hp⟩ | ⟨h, -, -, -, -, -, ⟨c, hc, hp⟩ | ⟨db', hdone, hp⟩⟩ <;>
      simp only [evidenceMachine, hp] at hreply ⊢
    · cases hreply
    · exact ⟨c, hc⟩
    · exact ⟨_, (hdone.completionOf _).trans (if_pos rfl)⟩
  | reopen | current _ | completion _ | assertCurrent _ _ _ | applyRetry _ _ _ _ => trivial

/-- A call that finds its work done changes nothing. -/
theorem perform_of_done {c : EvidenceCall} {db : EvidenceDb} (hdone : Done c db) :
    (evidenceMachine.perform c db).1 = db := by
  rcases perform_cases c db with h | ⟨op, id, ev, cand, rfl, hcand, -, hhead, -⟩ |
    ⟨op, id, d, h, rfl, -, -, -, hcompletes⟩
  · exact h
  · obtain ⟨h, r, hh, hr, hle⟩ := hdone
    have hrev := (candidate_fields hcand).2.2.2.1
    obtain rfl := Option.some.inj (hr.symm.trans hrev)
    exact absurd (checkHead_eq_none.1 hhead h hh).2 (not_lt.2 hle)
  · obtain ⟨c, hc⟩ := hdone
    rw [hcompletes.absent] at hc
    cases hc

theorem absorbs : evidenceMachine.Absorbs (fun _ => True) Returns Done := by
  refine .of_rel (fun _ _ _ => trivial) (fun c db _ => later_perform c db) ?_ ?_
    fun _ hdone => perform_of_done hdone
  · intro c db db' hlater hdone
    cases c with
    | record operation evidenceId evidence =>
      obtain ⟨h, r, hh, hr, hle⟩ := hdone
      obtain ⟨h', hh', -, hle', -⟩ := hlater.head _ h hh
      exact ⟨h', r, hh', hr, hle.trans hle'⟩
    | markReconciled operation evidenceId decision =>
      obtain ⟨c, hc⟩ := hdone
      exact ⟨c, hlater.completed _ c hc⟩
    | reopen | current _ | completion _ | assertCurrent _ _ _ | applyRetry _ _ _ _ => trivial
  · rintro c db - ⟨reply, hreply⟩
    exact done_of_returned hreply

end Evidence

end ReconciliationEvidenceStore

/-! ## Runs with redeliveries -/

/-- Redelivering calls of the sandbox that have returned changes neither its database nor the
reply to another call. -/
theorem sandbox_redelivery {cs ds : List (DurableSandbox.SandboxCall × Machine.Fate)}
    (h : Machine.Redelivers DurableSandbox.sandboxMachine Returns .empty cs ds) :
    DurableSandbox.sandboxMachine.crashing.after .empty ds =
        DurableSandbox.sandboxMachine.crashing.after .empty cs ∧
      (DurableSandbox.sandboxMachine.crashing.history .empty cs).Sublist
        (DurableSandbox.sandboxMachine.crashing.history .empty ds) :=
  ⟨h.after_eq DurableSandbox.absorbs DurableSandbox.wellFormed_empty,
    h.history_sublist DurableSandbox.absorbs DurableSandbox.wellFormed_empty⟩

/-- A note whose execution lost its reply, and was called for again. -/
theorem sandbox_redelivery_sample :
    let note : LocalOperation := ⟨"op-1", "record_note", "note", by decide, rfl⟩
    let cs : List (DurableSandbox.SandboxCall × Machine.Fate) :=
      [(.request note, .returned), (.decide note "approved", .returned),
        (.execute note DurableSandbox.noCheckpoint, .unacknowledged)]
    let ds := cs ++ [(.execute note DurableSandbox.noCheckpoint, .returned)]
    DurableSandbox.sandboxMachine.crashing.after .empty ds =
        DurableSandbox.sandboxMachine.crashing.after .empty cs ∧
      (DurableSandbox.sandboxMachine.crashing.history .empty cs).Sublist
        (DurableSandbox.sandboxMachine.crashing.history .empty ds) :=
  sandbox_redelivery
    (.insert .returned .refl (List.mem_of_getElem? (i := 2) rfl) ⟨.executed true, rfl⟩)

/-- Redelivering calls of the checkpoint store that have returned changes neither its database
nor the reply to another call. -/
theorem recovery_redelivery [Hashlib] {cs ds : List (CheckpointStore.RecoveryCall × Machine.Fate)}
    (h : Machine.Redelivers CheckpointStore.recoveryMachine Returns .empty cs ds) :
    CheckpointStore.recoveryMachine.crashing.after .empty ds =
        CheckpointStore.recoveryMachine.crashing.after .empty cs ∧
      (CheckpointStore.recoveryMachine.crashing.history .empty cs).Sublist
        (CheckpointStore.recoveryMachine.crashing.history .empty ds) :=
  ⟨h.after_eq CheckpointStore.absorbs trivial, h.history_sublist CheckpointStore.absorbs trivial⟩

/-- A root whose reply was lost, and called for again after the run went on. -/
theorem recovery_redelivery_sample :
    letI := testHashlib
    let cs : List (CheckpointStore.RecoveryCall × Machine.Fate) :=
      [(.start "run-1" testPlan "start", .unacknowledged),
        (.advance CheckpointStore.advancedRoot "after-one" 1, .returned)]
    let ds := cs ++ [(.start "run-1" testPlan "start", .returned)]
    CheckpointStore.recoveryMachine.crashing.after .empty ds =
        CheckpointStore.recoveryMachine.crashing.after .empty cs ∧
      (CheckpointStore.recoveryMachine.crashing.history .empty cs).Sublist
        (CheckpointStore.recoveryMachine.crashing.history .empty ds) :=
  letI := testHashlib
  recovery_redelivery (.insert .returned .refl (List.mem_of_getElem? (i := 0) rfl)
    ⟨.checkpoint CheckpointStore.advancedRoot, rfl⟩)

/-- Redelivering calls of the provider and of the evidence store that have returned changes
neither database, nor the reply to another call. -/
theorem reconciler_redelivery [Hashlib] {cs ds : List (Reconciler.Call × Machine.Fate)}
    (h : Machine.Redelivers Reconciler.reconcilerMachine (Sum.elim Returns Returns)
      (.empty, .empty) cs ds) :
    Reconciler.reconcilerMachine.crashing.after (.empty, .empty) ds =
        Reconciler.reconcilerMachine.crashing.after (.empty, .empty) cs ∧
      (Reconciler.reconcilerMachine.crashing.history (.empty, .empty) cs).Sublist
        (Reconciler.reconcilerMachine.crashing.history (.empty, .empty) ds) :=
  have habs := VersionedProviderStore.absorbs.beside ReconciliationEvidenceStore.absorbs
  ⟨h.after_eq habs ⟨trivial, trivial⟩, h.history_sublist habs ⟨trivial, trivial⟩⟩

/-- A retry whose reply was lost, and was called for again. -/
theorem reconciler_redelivery_sample :
    letI := sampleHashlib
    let again : Reconciler.Call :=
      .inl (.conditionalApply sampleOperation (retryExactOperation sampleOperation 0))
    Reconciler.reconcilerMachine.crashing.after (.empty, .empty)
        (Reconciler.lostAckRun ++ [(again, .returned)]) =
        Reconciler.reconcilerMachine.crashing.after (.empty, .empty) Reconciler.lostAckRun ∧
      (Reconciler.reconcilerMachine.crashing.history (.empty, .empty) Reconciler.lostAckRun).Sublist
        (Reconciler.reconcilerMachine.crashing.history (.empty, .empty)
          (Reconciler.lostAckRun ++ [(again, .returned)])) :=
  letI := sampleHashlib
  reconciler_redelivery (.insert .returned .refl (List.mem_of_getElem? (i := 2) rfl)
    ⟨.state ⟨1, [sampleOperation], by decide⟩, rfl⟩)

end ReliabilityLab
