import ReliabilityLab.Approvals
import ReliabilityLab.Durable
import ReliabilityLab.Effects
import ReliabilityLab.EvaluationMetrics
import ReliabilityLab.EvidenceStore
import ReliabilityLab.ProviderStore
import ReliabilityLab.Recovery
import ReliabilityLab.Simulator

/-!
# The scenarios of the reliability evaluation

`evaluation.py` : eleven runners that drive the other modules through one scenario each and
report what they saw. A runner with a store is a `Script` on a new database, where each
statement is one call and an exception leaves the database as the call did.

`scenarioRunners_succeed` : every runner returns, under its own name, and its result passes,
whatever the digests are.
-/

set_option linter.unusedSectionVars false

open Serial Keyed

namespace ReliabilityLab

namespace Evaluation

/-! ## Scripts -/

/-- A sequence of calls on a state that is kept when one of them raises. -/
abbrev Script (σ : Type) := ExceptT Raised (StateM σ)

namespace Script

variable {σ α β : Type}

/-- A call that may change the state. -/
def call (f : σ → σ × Except Raised α) : Script σ α :=
  ExceptT.mk fun s => ((f s).2, (f s).1)

/-- A call that only reads it. -/
def ask (f : σ → Except Raised α) : Script σ α :=
  call fun s => (s, f s)

/-- The result and the state of a script. -/
def outcome (script : Script σ α) (s : σ) : Except Raised α × σ :=
  (ExceptT.run script).run s

/-- The value of `blocked` after `try: ...; except error: blocked = True`. -/
def blocked (error : ErrorClass) : Except Raised α → Except Raised Bool
  | .ok _ => .ok false
  | .error e => if e.error = error then .ok true else .error e

/-- A script that is expected to raise `error`. -/
def expect (error : ErrorClass) (script : Script σ α) : Script σ Bool :=
  ExceptT.mk fun s => (blocked error (script.outcome s).1, (script.outcome s).2)

theorem outcome_bind_of_ok {script : Script σ α} {f : α → Script σ β} {s t : σ} {a : α}
    (h : script.outcome s = (.ok a, t)) : outcome (script >>= f) s = (f a).outcome t := by
  unfold outcome at h ⊢
  rw [ExceptT.run_bind, StateT.run_bind, h]
  rfl

@[simp] theorem outcome_call (f : σ → σ × Except Raised α) (s : σ) :
    (call f).outcome s = ((f s).2, (f s).1) := rfl

@[simp] theorem outcome_pure (a : α) (s : σ) : outcome (pure a : Script σ α) s = (.ok a, s) := rfl

theorem outcome_call_of_ok {f : σ → σ × Except Raised α} {s t : σ} {a : α}
    (h : f s = (t, .ok a)) : (call f).outcome s = (.ok a, t) := by
  rw [outcome_call, h]

theorem outcome_ask {f : σ → Except Raised α} {s : σ} {reply : Except Raised α}
    (h : f s = reply) : (ask f).outcome s = (reply, s) := by
  rw [ask, outcome_call, h]

theorem outcome_expect_of_error {error : ErrorClass} {script : Script σ α} {s t : σ} {e : Raised}
    (h : script.outcome s = (.error e, t)) (he : e.error = error) :
    (script.expect error).outcome s = (.ok true, t) := by
  have hblocked : (blocked error (script.outcome s).1, (script.outcome s).2) = (.ok true, t) := by
    rw [h, blocked, if_pos he]
  exact hblocked

end Script

open Script

/-! ## The runners -/

/-- `_result`. -/
def result (scenarioId : String) (passed : Bool) (safety convergence failClosed : Option Bool)
    (duplicateEffectViolations : Int) (detail : String) : ScenarioResult where
  scenarioId := scenarioId
  passed := passed
  safetyApplicable := safety.isSome
  safetyPassed := safety
  convergenceApplicable := convergence.isSome
  convergencePassed := convergence
  failClosedApplicable := failClosed.isSome
  failClosedPassed := failClosed
  duplicateEffectViolations := duplicateEffectViolations
  detail := detail

/-- `max(0, count - 1)`. -/
def surplus (count : ℕ) : Int :=
  max 0 ((count : Int) - 1)

/-- `_stale_child_completion_scoped`. -/
def staleChildCompletionScoped : Except Raised ScenarioResult := do
  let initial : Simulator.RunState := { activeRunId := "parent", activeTurnId := "parent-turn" }
  let events : List Simulator.Event :=
    [⟨1, "parent", "parent-turn", .output, "partial"⟩,
      ⟨2, "child", "child-turn", .completed, "child-final"⟩,
      ⟨3, "parent", "parent-turn", .completed, "parent-final"⟩]
  let state := (← Simulator.replay events initial .scoped).state
  let ok := state.terminal && !state.failed && state.output = "parent-final" &&
    state.acceptedEvents = [1, 3] && state.ignoredEvents = [2]
  return result "stale_child_completion_scoped" ok (some ok) (some ok) none 0
    "foreign child completion is ignored and the parent reaches its own terminal state"

/-- `_lost_ack_retry_idempotency`. -/
def lostAckRetryIdempotency : Except Raised ScenarioResult := do
  let requests : List Effects.EffectRequest :=
    [⟨1, "write:plan", "write_file", "plan-v1"⟩, ⟨2, "write:plan", "write_file", "plan-v1"⟩]
  let replayed ← Effects.replayEffects requests .idempotent
  let ok := replayed.applied.length = 1 && replayed.duplicates.length = 1
  return result "lost_ack_retry_idempotency" ok (some ok) (some ok) none
    (if ok then 0 else surplus replayed.applied.length)
    "exact replay is suppressed by the stable operation identity"

/-- `_terminal_conflict_fails_closed`. -/
def terminalConflictFailsClosed : Except Raised ScenarioResult := do
  let initial : Simulator.RunState := { activeRunId := "parent", activeTurnId := "turn" }
  let events : List Simulator.Event :=
    [⟨1, "parent", "turn", .completed, "answer"⟩, ⟨2, "parent", "turn", .failed, "late-failure"⟩]
  let blocked ← blocked .terminalStateConflict (Simulator.replay events initial .scoped)
  return result "terminal_conflict_fails_closed" blocked (some blocked) none (some blocked) 0
    "incompatible same-turn terminal outcomes are rejected instead of last-write-wins"

/-- `_approval_mutation_fails_closed`. -/
def approvalMutationFailsClosed : Except Raised ScenarioResult := do
  let events : List ApprovalEvent :=
    [⟨1, .requested, "write:plan", "write_file", "plan-v1"⟩,
      ⟨2, .approved, "write:plan", "write_file", "plan-v1"⟩,
      ⟨3, .execute, "write:plan", "write_file", "plan-v2"⟩]
  let blocked ← blocked .approvalConflict (replayApproval events)
  return result "approval_mutation_fails_closed" blocked (some blocked) none (some blocked) 0
    "approval is bound to the exact operation, tool, and payload"

section durable

open DurableSandbox

/-- `_durable_restart_exact_replay`. -/
def durableRestartExactReplay : Except Raised ScenarioResult := do
  let operation ← LocalOperation.create "op-1" "record_note" "safe-local-note"
  let script : Script SandboxDb (Bool × Bool × List (String × String)) := do
    call openStore
    call (request operation)
    call (decide operation "approved")
    let firstApply ← call (execute operation noCheckpoint)
    call openStore
    let secondApply ← call (execute operation noCheckpoint)
    let notes ← ask fun db => .ok (notes db)
    return (firstApply, secondApply, notes)
  let (firstApply, secondApply, notes) ← (script.outcome .empty).1
  let ok := firstApply && !secondApply && notes = [("op-1", "safe-local-note")]
  return result "durable_restart_exact_replay" ok (some ok) (some ok) none
    (if ok then 0 else surplus notes.length)
    ("file-backed completion survives restart and exact replay does not repeat the local " ++
      "effect")

end durable

variable [Hashlib]

section checkpoints

open CheckpointStore

/-- The calls of the next scenario. -/
def checkpointScript (operations : List RecoveryOperation) :
    Script RecoveryDb (Bool × List RecoveryOperation) := do
  call openStore
  let root ← call (start "run-1" operations "start")
  let afterOne ← call (advance root "after-one" 1)
  let afterTwo ← call (advance afterOne "after-two" 2)
  let blocked ← expect .staleCheckpoint (ask (resume afterOne operations))
  let remaining ← ask (resume afterTwo operations)
  return (blocked, remaining)

/-- `_stale_checkpoint_lineage_fails_closed`. -/
def staleCheckpointLineageFailsClosed : Except Raised ScenarioResult := do
  let operations := [← RecoveryOperation.create "op-1" "edit" "one",
    ← RecoveryOperation.create "op-2" "test" "two",
    ← RecoveryOperation.create "op-3" "publish" "three"]
  let (blocked, remaining) ← ((checkpointScript operations).outcome .empty).1
  let converged : Bool := remaining.map RecoveryOperation.operationId = ["op-3"]
  let ok := blocked && converged
  return result "stale_checkpoint_lineage_fails_closed" ok (some blocked) (some converged)
    (some blocked) 0
    "stale checkpoint replay is rejected and recovery resumes only from the current lineage"

end checkpoints

/-! Evidence on an operation, as the scenarios write it. -/

/-- Evidence that the effect of an operation is stored. -/
def presentEvidence (operation : ExternalOperation) (revision : ℕ) : ProviderEvidence where
  provider := operation.provider
  operationId := operation.operationId
  readback := .present
  observedTool := some operation.tool
  observedPayload := some operation.payload
  readbackRevision := some (revision : Int)
  readbackRevision_nonneg _ hr := Option.some.inj hr ▸ Int.natCast_nonneg revision

/-- Evidence that it is not, which allows a retry. -/
def absentEvidence (operation : ExternalOperation) (revision : ℕ) : ProviderEvidence where
  provider := operation.provider
  operationId := operation.operationId
  readback := .absent
  readbackRevision := some (revision : Int)
  idempotencyKey := some operation.operationId
  idempotencyEffectSha256 := some operation.effectSha256
  readbackRevision_nonneg _ hr := Option.some.inj hr ▸ Int.natCast_nonneg revision

/-- `VersionedProviderState(revision, effects)`. -/
def providerState (revision : ℕ) (effects : List ExternalOperation) : VersionedProviderState :=
  ⟨revision, effects, Int.natCast_nonneg revision⟩

/-- `_provider_present_suppresses_retry`. -/
def providerPresentSuppressesRetry : Except Raised ScenarioResult := do
  let operation ← ExternalOperation.create "provider-a" "op-1" "create_record" "payload-v1"
  let decision ← reconcileLostAck operation (presentEvidence operation 5)
  let ok := decision.action = .acceptRemoteCommit && !decision.shouldRetry
  return result "provider_present_suppresses_retry" ok (some ok) (some ok) none 0
    "authoritative PRESENT readback accepts the committed effect instead of replaying it"

/-- `_stale_readback_revision_fails_closed`. -/
def staleReadbackRevisionFailsClosed : Except Raised ScenarioResult := do
  let operation ← ExternalOperation.create "provider-a" "op-1" "create_record" "payload-v1"
  let decision ← reconcileLostAck operation (absentEvidence operation 4)
  let blocked ← blocked .staleProviderReadback
    (applyConditionalRetry operation decision (providerState 5 [operation]))
  return result "stale_readback_revision_fails_closed" blocked (some blocked) none (some blocked) 0
    "revision drift invalidates old absence evidence before a retry can commit"

section evidence

open ReconciliationEvidenceStore

/-- The calls of the next scenario. Opening the store again changes nothing. -/
def restartScript (operation : ExternalOperation) :
    Script EvidenceDb (Bool × ReconciliationEvidenceRecord) := do
  let old ← call (record operation "absent-4" (absentEvidence operation 4))
  let current ← call (record operation "present-5" (presentEvidence operation 5))
  let blocked ← expect .supersededReconciliationDecision
    (ask (applyRetry operation old.evidenceId old.decision (providerState 4 [])))
  return (blocked, current)

/-- `_restart_evidence_supersedes_retry`. -/
def restartEvidenceSupersedesRetry : Except Raised ScenarioResult := do
  let operation ← ExternalOperation.create "provider-a" "op-1" "create_record" "payload-v1"
  let (blocked, current) ← ((restartScript operation).outcome .empty).1
  let converged := current.revision = 5 && !current.decision.shouldRetry
  let ok := blocked && converged
  return result "restart_evidence_supersedes_retry" ok (some blocked) (some converged)
    (some blocked) 0
    "newer provider evidence durably supersedes pre-restart retry authority"

/-- The calls of the next scenario. -/
def repeatedScript (operation : ExternalOperation) :
    Script EvidenceDb (Bool × VersionedProviderState × ReconciliationCompletionRecord) := do
  let retry ← call (record operation "absent-4" (absentEvidence operation 4))
  let provider ← ask (applyRetry operation retry.evidenceId retry.decision (providerState 4 []))
  let current ← call (record operation "present-5" (presentEvidence operation 5))
  let completion ← call (markReconciled operation current.evidenceId current.decision)
  let blocked ← expect .supersededReconciliationDecision
    (ask (applyRetry operation retry.evidenceId retry.decision provider))
  return (blocked, provider, completion)

/-- `_repeated_lost_ack_converges`. -/
def repeatedLostAckConverges : Except Raised ScenarioResult := do
  let operation ← ExternalOperation.create "provider-a" "op-loop" "create_record" "payload-v1"
  let (blocked, provider, completion) ← ((repeatedScript operation).outcome .empty).1
  let effectCount := provider.effects.length
  let converged := completion.revision = 5 && effectCount = 1
  let ok := blocked && converged
  return result "repeated_lost_ack_converges" ok (some (blocked && effectCount = 1))
    (some converged) (some blocked) (surplus effectCount)
    "fresh PRESENT evidence closes a lost-ack loop and supersedes stale retry authority"

/-- A call of the provider, beside the evidence store. -/
def callProvider {α : Type} (f : ProviderDb → ProviderDb × Except Raised α) :
    Script (ProviderDb × EvidenceDb) α :=
  call fun s => (((f s.1).1, s.2), (f s.1).2)

/-- A call of the evidence store, beside the provider. -/
def callEvidence {α : Type} (f : EvidenceDb → EvidenceDb × Except Raised α) :
    Script (ProviderDb × EvidenceDb) α :=
  call fun s => ((s.1, (f s.2).1), (f s.2).2)

open VersionedProviderStore in
/-- The calls of the next scenario. -/
def competingScript (operation : ExternalOperation) :
    Script (ProviderDb × EvidenceDb) (VersionedProviderState × Bool ×
      ReconciliationEvidenceRecord × ReconciliationCompletionRecord ×
      VersionedProviderState) := do
  let readback ← callProvider (read operation)
  let retry ← callEvidence (record operation "absent-0" readback)
  let first ← callProvider (conditionalApply operation retry.decision)
  let staleBlocked ← expect .staleProviderReadback
    (callProvider (conditionalApply operation retry.decision))
  let present ← callProvider (read operation)
  let current ← callEvidence (record operation "present-1" present)
  let completion ← callEvidence (markReconciled operation current.evidenceId current.decision)
  let final ← callProvider (snapshot operation.provider)
  return (first, staleBlocked, current, completion, final)

/-- `_competing_retry_authorities_converge`. -/
def competingRetryAuthoritiesConverge : Except Raised ScenarioResult := do
  let operation ← ExternalOperation.create "provider-a" "op-race" "create_record" "payload-v1"
  let (first, staleBlocked, current, completion, final) ←
    ((competingScript operation).outcome (.empty, .empty)).1
  let effectCount := final.effects.length
  let converged := first.revision = 1 && final.revision = 1 && completion.revision = 1 &&
    !current.decision.shouldRetry && effectCount = 1
  let ok := staleBlocked && converged
  return result "competing_retry_authorities_converge" ok (some (staleBlocked && effectCount = 1))
    (some converged) (some staleBlocked) (surplus effectCount)
    ("one revision-bound retry commits and stale competing authority is rejected before " ++
      "convergence")

end evidence

/-! ## What the runners report -/

/-- A scenario of the evaluation, with the outcomes it is to have. -/
structure Scenario where
  id : String
  safetyRequired : Bool
  convergenceRequired : Bool
  failClosedRequired : Bool

/-- An outcome that holds, where it is required. -/
def holding (required : Bool) : Option Bool :=
  if required then some true else none

/-- The result of a scenario with the outcomes it is to have. -/
def Scenario.passing (scenario : Scenario) (detail : String) : ScenarioResult :=
  result scenario.id true (holding scenario.safetyRequired) (holding scenario.convergenceRequired)
    (holding scenario.failClosedRequired) 0 detail

/-- The runner returns a result with the outcomes that the scenario is to have. -/
def Succeeds (scenario : Scenario) (runner : Except Raised ScenarioResult) : Prop :=
  ∃ detail, runner = .ok (scenario.passing detail)

@[simp] theorem isSome_holding (required : Bool) : (holding required).isSome = required := by
  cases required <;> rfl

theorem Scenario.passing_passes (scenario : Scenario) (detail : String) :
    (scenario.passing detail).Passes := by
  have hholding : ∀ {required : Bool}, (holding required).isSome = true →
      holding required = some true := by
    intro required h
    rw [isSome_holding] at h
    rw [h, holding, if_pos rfl]
  exact ⟨rfl, hholding, hholding, hholding, rfl⟩

theorem reconcileLostAck_absentEvidence (operation : ExternalOperation) (revision : ℕ) :
    reconcileLostAck operation (absentEvidence operation revision) =
      .ok (retryExactOperation operation revision) :=
  reconcileLostAck_eq_ok.2 ⟨rfl, rfl, Or.inr ⟨revision, ⟨rfl, rfl, rfl, rfl, rfl, rfl⟩, rfl⟩⟩

theorem reconcileLostAck_presentEvidence (operation : ExternalOperation) (revision : ℕ) :
    reconcileLostAck operation (presentEvidence operation revision) = .ok acceptRemoteCommit :=
  reconcileLostAck_eq_ok.2 ⟨rfl, rfl, Or.inl ⟨⟨rfl, rfl, rfl⟩, rfl⟩⟩

theorem staleReadbackRevisionFailsClosed_succeeds :
    Succeeds ⟨"stale_readback_revision_fails_closed", true, false, true⟩
      staleReadbackRevisionFailsClosed := by
  have hcreate : ExternalOperation.create "provider-a" "op-1" "create_record" "payload-v1" =
      .ok sampleOperation := rfl
  have hstale : applyConditionalRetry sampleOperation
      (retryExactOperation sampleOperation (4 : ℕ)) (providerState 5 [sampleOperation]) =
      .error staleReadback :=
    applyConditionalRetry_stale (retryExactOperation_authorizes _ _) (by decide)
  unfold staleReadbackRevisionFailsClosed
  rw [hcreate, ok_bind, reconcileLostAck_absentEvidence, ok_bind, hstale]
  exact ⟨_, rfl⟩

section checkpoints

open CheckpointStore

/-- The run `run-1` of `plan`, with its checkpoints and the id of its head. -/
structure Stored (db : RecoveryDb) (plan : List RecoveryOperation)
    (checkpoints : List RecoveryCheckpoint) (head : String) : Prop where
  run : db.runs.find? "run-1" = some (runRow "run-1" head plan)
  checkpoints : db.checkpoints.rows = checkpoints

variable {db : RecoveryDb} {plan : List RecoveryOperation}
  {checkpoints : List RecoveryCheckpoint} {head : String}

theorem Stored.load (h : Stored db plan checkpoints head) {c : RecoveryCheckpoint}
    (hc : c ∈ checkpoints) : loadCheckpoint db c.runId c.checkpointId = some c :=
  Table.find?_eq_some_iff.2 ⟨h.checkpoints ▸ hc, rfl⟩

/-- A checkpoint of the run that is not the head is stale, the head gives the rest. -/
theorem Stored.resume (h : Stored db plan checkpoints head)
    (hplan : materializePlan plan = .ok ()) {c : RecoveryCheckpoint} (hc : c ∈ checkpoints)
    (hrun : c.runId = "run-1") :
    resume c plan db =
      if head ≠ c.checkpointId then .error ⟨.staleCheckpoint, "checkpoint " ++ c.checkpointId ++
        " is stale; current head is " ++ head⟩
      else .ok (sliceFrom plan c.completedCount) := by
  have hbound : BoundTo (runRow "run-1" head plan) plan := rfl
  unfold CheckpointStore.resume
  rw [hplan, ok_bind, hrun, h.run, orRaise_some, ok_bind, raiseIf_neg (not_not.2 hbound), ok_bind,
    ← hrun, h.load hc, orRaise_some, ok_bind, raiseIf_neg (not_not.2 rfl), ok_bind]
  unfold raiseIf runRow
  split_ifs <;> rfl

theorem start_stored (hplan : materializePlan plan = .ok ()) :
    ∃ db, start "run-1" plan "start" (openStore .empty).1 =
        (db, .ok (initialCheckpoint "run-1" "start" plan)) ∧
      Stored db plan [initialCheckpoint "run-1" "start" plan] "start" := by
  have hcheck : checkStart "run-1" plan "start" = .ok () := hplan
  unfold start
  rw [hcheck]
  exact ⟨_, rfl, rfl, rfl⟩

/-- The head is advanced under a new id. -/
theorem Stored.advance {parent : RecoveryCheckpoint}
    (h : Stored db plan checkpoints parent.checkpointId) (hparent : parent ∈ checkpoints)
    (hrun : parent.runId = "run-1") (hsha : parent.planSha256 = planSha256 plan)
    {checkpointId : String} {completedCount : Int} (hblank : isBlank checkpointId = false)
    (hprogress : parent.completedCount < completedCount) (hbound : completedCount ≤ plan.length)
    (hfresh : ∀ c ∈ checkpoints, c.checkpointId ≠ checkpointId ∧
      c.sequence ≠ parent.sequence + 1) :
    let child := candidateCheckpoint parent checkpointId
      (runRow "run-1" parent.checkpointId plan) completedCount
    ∃ db', advance parent checkpointId completedCount db = (db', .ok child) ∧
      Stored db' plan (checkpoints ++ [child]) checkpointId := by
  intro child
  have hfound : findParent parent db = .ok (runRow "run-1" parent.checkpointId plan) :=
    findParent_eq_ok.2 ⟨hrun ▸ h.run, h.load hparent⟩
  have hload : loadCheckpoint db parent.runId checkpointId = none := by
    refine Table.find?_eq_none_iff.2 fun c hc hkey => (hfresh c (h.checkpoints ▸ hc)).1 ?_
    exact congrArg Prod.snd hkey
  have hmay := checkAdvance_eq_ok.2 (MayAdvance.mk rfl hsha hprogress hbound :
    MayAdvance parent (runRow "run-1" parent.checkpointId plan) completedCount)
  rcases insertCheckpoint_cases child db with ⟨e, -, c, hc, hkey | ⟨-, hseq⟩⟩ |
    ⟨db', hinsert, hruns, hrows⟩
  · exact absurd (congrArg Prod.snd hkey) (hfresh c (h.checkpoints ▸ hc)).1
  · exact absurd hseq (hfresh c (h.checkpoints ▸ hc)).2
  · refine ⟨setHead parent.runId checkpointId db', ?_, ?_, ?_⟩
    · rw [CheckpointStore.advance, if_neg (by simp [hblank])]
      refine transaction_of_ok ?_
      simp only [advanceInTransaction, hfound, ok_bind, hload, hmay]
      rw [hinsert]
      rfl
    · have hold : db'.runs.find? parent.runId = some (runRow "run-1" parent.checkpointId plan) := by
        rw [hruns, hrun, h.run]
      rw [find?_setHead hold, if_pos hrun.symm]
      rfl
    · rw [← h.checkpoints]
      exact hrows

theorem checkpointScript_outcome (hplan : materializePlan plan = .ok ())
    (hlen : 2 ≤ (plan.length : Int)) : ∃ db, (checkpointScript plan).outcome .empty =
      (.ok (true, sliceFrom plan 2), db) := by
  let root := initialCheckpoint "run-1" "start" plan
  let one := candidateCheckpoint root "after-one" (runRow "run-1" "start" plan) 1
  let two := candidateCheckpoint one "after-two" (runRow "run-1" "after-one" plan) 2
  have hne : "after-two" ≠ "after-one" := by decide
  have hopen : openStore .empty = ((openStore .empty).1, .ok ()) := rfl
  have hroot : root ∈ [root] := List.mem_singleton_self _
  have hone : one ∈ [root, one] := by simp
  obtain ⟨db₁, hstart, h₁⟩ := start_stored hplan
  obtain ⟨db₂, hadvance₁, h₂⟩ : ∃ db₂, advance root "after-one" 1 db₁ = (db₂, .ok one) ∧
      Stored db₂ plan [root, one] "after-one" :=
    h₁.advance hroot rfl rfl rfl Int.one_pos (by omega)
      (by simp [root, initialCheckpoint])
  obtain ⟨db₃, hadvance₂, h₃⟩ : ∃ db₃, advance one "after-two" 2 db₂ = (db₃, .ok two) ∧
      Stored db₃ plan [root, one, two] "after-two" :=
    h₂.advance hone rfl rfl rfl (by decide : (1 : Int) < 2) hlen
      (by simp [root, one, initialCheckpoint, candidateCheckpoint])
  have hstale : resume one plan db₃ = .error _ :=
    (h₃.resume hplan (by simp) rfl).trans (if_pos hne)
  have hrest : resume two plan db₃ = .ok (sliceFrom plan 2) :=
    (h₃.resume hplan (by simp) rfl).trans (if_neg (not_not.2 rfl))
  refine ⟨db₃, (outcome_bind_of_ok (outcome_call_of_ok hopen)).trans ?_⟩
  refine (outcome_bind_of_ok (outcome_call_of_ok hstart)).trans ?_
  refine (outcome_bind_of_ok (outcome_call_of_ok hadvance₁)).trans ?_
  refine (outcome_bind_of_ok (outcome_call_of_ok hadvance₂)).trans ?_
  refine (outcome_bind_of_ok (outcome_expect_of_error (outcome_ask hstale) rfl)).trans ?_
  exact outcome_bind_of_ok (outcome_ask hrest)

/-- The plan of the scenario. -/
def threeOperations : List RecoveryOperation :=
  [⟨"op-1", "edit", "one", .refl false, .refl false⟩,
    ⟨"op-2", "test", "two", .refl false, .refl false⟩,
    ⟨"op-3", "publish", "three", .refl false, .refl false⟩]

theorem staleCheckpointLineageFailsClosed_succeeds :
    Succeeds ⟨"stale_checkpoint_lineage_fails_closed", true, true, true⟩
      staleCheckpointLineageFailsClosed := by
  have hplan : materializePlan threeOperations = .ok () := rfl
  have hlen : 2 ≤ (threeOperations.length : Int) := by decide
  obtain ⟨db, houtcome⟩ := checkpointScript_outcome hplan hlen
  have hrunner : staleCheckpointLineageFailsClosed =
      (((checkpointScript threeOperations).outcome .empty).1 >>= fun reply =>
        let converged : Bool := reply.2.map RecoveryOperation.operationId = ["op-3"]
        .ok (result "stale_checkpoint_lineage_fails_closed" (reply.1 && converged) (some reply.1)
          (some converged) (some reply.1) 0 <| "stale checkpoint replay is rejected " ++
            "and recovery resumes only from the current lineage")) := rfl
  rw [hrunner, houtcome]
  exact ⟨_, rfl⟩

end checkpoints

section evidence

open ReconciliationEvidenceStore

/-- The record of evidence with this decision. -/
def evidenceRecord (operation : ExternalOperation) (evidenceId : String) (revision : ℕ)
    (decision : ReconciliationDecision) : ReconciliationEvidenceRecord :=
  ⟨operation.provider, operation.operationId, evidenceId, revision, operation.effectSha256,
    decision⟩

/-- Evidence that is newer than the head of an operation without completion is recorded. -/
theorem record_newer {operation : ExternalOperation} {evidenceId : String}
    {evidence : ProviderEvidence} {revision : ℕ} {decision : ReconciliationDecision}
    {db : EvidenceDb} (hid : isBlank evidenceId = false)
    (hrevision : evidence.readbackRevision = some (revision : Int))
    (hdecision : reconcileLostAck operation evidence = .ok decision)
    (hcompletion : db.completionOf operation.identity = none)
    (hhead : ∀ h, db.head operation.identity = some h →
      h.effectSha256 = operation.effectSha256 ∧ h.revision < revision) :
    record operation evidenceId evidence db =
      (db.putHead (evidenceRecord operation evidenceId revision decision),
        .ok (evidenceRecord operation evidenceId revision decision)) := by
  have hcandidate : candidateRecord operation evidenceId evidence =
      .ok (evidenceRecord operation evidenceId revision decision) :=
    candidateRecord_eq_ok.2 ⟨hid, revision, decision, hrevision, hdecision, rfl⟩
  have hcheck : checkCompletion operation
      (evidenceRecord operation evidenceId revision decision)
      (db.completionOf operation.identity) = .ok () := by
    rw [hcompletion]
    rfl
  exact record_of_checks hcandidate hcheck (checkHead_eq_none.2 hhead)

theorem current_putHead (operation : ExternalOperation) (evidenceId : String) (revision : ℕ)
    (decision : ReconciliationDecision) (db : EvidenceDb) :
    current operation (db.putHead (evidenceRecord operation evidenceId revision decision)) =
      .ok (evidenceRecord operation evidenceId revision decision) :=
  current_eq_ok.2 ⟨(db.head_putHead _ _).trans (if_pos rfl), rfl⟩

/-- Evidence that allows a retry, then newer evidence of the commit, on a new store. -/
theorem record_absent_present (operation : ExternalOperation) {absent present : ProviderEvidence}
    {m n : ℕ} (hlt : m < n) {absentId presentId : String} (habsent : isBlank absentId = false)
    (hpresent : isBlank presentId = false) (hm : absent.readbackRevision = some (m : Int))
    (hn : present.readbackRevision = some (n : Int))
    (hretry : reconcileLostAck operation absent = .ok (retryExactOperation operation m))
    (haccept : reconcileLostAck operation present = .ok acceptRemoteCommit) :
    let retry := evidenceRecord operation absentId m (retryExactOperation operation m)
    let accept := evidenceRecord operation presentId n acceptRemoteCommit
    ∃ db db', record operation absentId absent .empty = (db, .ok retry) ∧
      current operation db = .ok retry ∧
      record operation presentId present db = (db', .ok accept) ∧
      current operation db' = .ok accept ∧ db'.completionOf operation.identity = none := by
  refine ⟨_, _, record_newer habsent hm hretry rfl (by simp), current_putHead _ _ _ _ _,
    record_newer hpresent hn haccept rfl fun h hh => ?_, current_putHead _ _ _ _ _, rfl⟩
  obtain rfl := Option.some.inj
    (((EvidenceDb.empty.head_putHead _ _).trans (if_pos rfl)).symm.trans hh)
  exact ⟨rfl, Int.ofNat_lt.2 hlt⟩

/-- A retry whose evidence id is not the head's is superseded. -/
theorem applyRetry_superseded {operation : ExternalOperation} (evidenceId : String)
    (decision : ReconciliationDecision) (state : VersionedProviderState) {db : EvidenceDb}
    {h : ReconciliationEvidenceRecord} (hcur : current operation db = .ok h)
    (hne : h.evidenceId ≠ evidenceId) :
    applyRetry operation evidenceId decision state db = .error supersededDecision := by
  rw [applyRetry, assertCurrent, hcur, ok_bind, raiseIf_pos (Or.inl hne), error_bind]

theorem restartScript_outcome (operation : ExternalOperation) :
    ∃ db, (restartScript operation).outcome .empty =
      (.ok (true, evidenceRecord operation "present-5" 5 acceptRemoteCommit), db) := by
  have habsent : isBlank "absent-4" = false := rfl
  have hpresent : isBlank "present-5" = false := rfl
  have hne : "present-5" ≠ "absent-4" := by decide
  have hlt : 4 < 5 := by decide
  obtain ⟨db, db', hold, -, hnew, hcur, -⟩ :=
    record_absent_present operation hlt habsent hpresent rfl rfl
      (reconcileLostAck_absentEvidence _ _) (reconcileLostAck_presentEvidence _ _)
  have hblocked := applyRetry_superseded "absent-4" (retryExactOperation operation (4 : ℕ))
    (providerState 4 []) hcur hne
  refine ⟨db', (outcome_bind_of_ok (outcome_call_of_ok hold)).trans ?_⟩
  refine (outcome_bind_of_ok (outcome_call_of_ok hnew)).trans ?_
  exact outcome_bind_of_ok (outcome_expect_of_error (outcome_ask hblocked) rfl)

theorem restartEvidenceSupersedesRetry_succeeds :
    Succeeds ⟨"restart_evidence_supersedes_retry", true, true, true⟩
      restartEvidenceSupersedesRetry := by
  obtain ⟨operation, hcreate⟩ : ∃ operation, ExternalOperation.create "provider-a" "op-1"
      "create_record" "payload-v1" = .ok operation := ⟨_, rfl⟩
  obtain ⟨db, houtcome⟩ := restartScript_outcome operation
  unfold restartEvidenceSupersedesRetry
  rw [hcreate, ok_bind, houtcome]
  exact ⟨_, rfl⟩

theorem repeatedScript_outcome (operation : ExternalOperation) :
    ∃ db, (repeatedScript operation).outcome .empty = (.ok (true, providerState 5 [operation],
      completionRow operation (evidenceRecord operation "present-5" 5 acceptRemoteCommit)),
      db) := by
  have habsent : isBlank "absent-4" = false := rfl
  have hpresent : isBlank "present-5" = false := rfl
  have hne : "present-5" ≠ "absent-4" := by decide
  have hlt : 4 < 5 := by decide
  obtain ⟨db, db', hold, hretry, hnew, hcur, hopen⟩ :=
    record_absent_present operation hlt habsent hpresent rfl rfl
      (reconcileLostAck_absentEvidence _ _) (reconcileLostAck_presentEvidence _ _)
  have happly : applyRetry operation "absent-4" (retryExactOperation operation (4 : ℕ))
      (providerState 4 []) db = .ok (providerState 5 [operation]) := by
    rw [applyRetry, assertCurrent, hretry, ok_bind, raiseIf_neg (by simp [evidenceRecord]),
      ok_bind]
    exact applyConditionalRetry_eq_ok.2
      ⟨retryExactOperation_authorizes _ _, by simp [providerState], rfl⟩
  obtain ⟨db₃, hdone, hmark⟩ := (markReconciled_current hcur rfl rfl).2 hopen
  have hcur' : current operation db₃ = .ok _ :=
    current_eq_ok.2 ((current_eq_ok.1 hcur).imp_left (hdone.head _).trans)
  have hblocked := applyRetry_superseded "absent-4" (retryExactOperation operation (4 : ℕ))
    (providerState 5 [operation]) hcur' hne
  refine ⟨db₃, (outcome_bind_of_ok (outcome_call_of_ok hold)).trans ?_⟩
  refine (outcome_bind_of_ok (outcome_ask happly)).trans ?_
  refine (outcome_bind_of_ok (outcome_call_of_ok hnew)).trans ?_
  refine (outcome_bind_of_ok (outcome_call_of_ok hmark)).trans ?_
  exact outcome_bind_of_ok (outcome_expect_of_error (outcome_ask hblocked) rfl)

theorem repeatedLostAckConverges_succeeds :
    Succeeds ⟨"repeated_lost_ack_converges", true, true, true⟩ repeatedLostAckConverges := by
  obtain ⟨operation, hcreate⟩ : ∃ operation, ExternalOperation.create "provider-a" "op-loop"
      "create_record" "payload-v1" = .ok operation := ⟨_, rfl⟩
  obtain ⟨db, houtcome⟩ := repeatedScript_outcome operation
  unfold repeatedLostAckConverges
  rw [hcreate, ok_bind, houtcome]
  exact ⟨_, rfl⟩

theorem outcome_callProvider {α : Type} {f : ProviderDb → ProviderDb × Except Raised α}
    {s : ProviderDb × EvidenceDb} {P : ProviderDb} {reply : Except Raised α}
    (h : f s.1 = (P, reply)) : (callProvider f).outcome s = (reply, (P, s.2)) := by
  rw [callProvider, outcome_call, h]

theorem outcome_callEvidence {α : Type} {f : EvidenceDb → EvidenceDb × Except Raised α}
    {s : ProviderDb × EvidenceDb} {E : EvidenceDb} {reply : Except Raised α}
    (h : f s.2 = (E, reply)) : (callEvidence f).outcome s = (reply, (s.1, E)) := by
  rw [callEvidence, outcome_call, h]

open VersionedProviderStore

/-- The retry of an operation that a new provider lacks commits, and again is stale. -/
theorem conditionalApply_twice (operation : ExternalOperation) {db : ProviderDb}
    (hrevision : db.revision operation.provider = 0) (hempty : db.effects.rows = []) :
    let retry := retryExactOperation operation (0 : ℕ)
    ∃ first db', conditionalApply operation retry db = (db', .ok first) ∧ first.revision = 1 ∧
      conditionalApply operation retry db' = (db', .error staleReadback) ∧
      db'.revision operation.provider = 1 ∧ db'.effects.rows = [operation] := by
  intro retry
  have hstate : (db.state operation.provider).revision = (0 : ℕ) := hrevision
  have hauth : Authorizes retry operation (0 : ℕ) := retryExactOperation_authorizes _ _
  rcases conditionalApply_cases operation retry db with ⟨e, happ, -⟩ | ⟨first, db', h, hcom⟩
  · have hnone : ∀ x ∈ (db.state operation.provider).effects, x.identity ≠ operation.identity := by
      intro x hx
      have hrows := (ProviderDb.mem_orderedEffects.1 hx).1
      rw [hempty] at hrows
      cases hrows
    rw [applyConditionalRetry_eq_ok.2 ⟨hstate ▸ hauth, hnone, rfl⟩] at happ
    cases happ
  · have hrevision' : db'.revision operation.provider = 1 := by
      rw [hcom.revision, if_pos rfl, hrevision]
      rfl
    have hlt : ((0 : ℕ) : Int) < db'.revision operation.provider := by
      rw [hrevision']
      decide
    have hstale := (conditionalApply_behind (retryExactOperation_precondition _ _) hlt).2 hauth
    refine ⟨first, db', h, ?_, Prod.ext (transaction_rollback hstale) hstale, hrevision', ?_⟩
    · rw [hcom.updated]
      exact congrArg (· + 1) hstate
    · rw [hcom.effects, hempty]
      rfl

/-- A snapshot of the provider of an operation is not refused. -/
theorem snapshot_provider (operation : ExternalOperation) (db : ProviderDb) :
    snapshot operation.provider db =
      (db.touch operation.provider, .ok (db.state operation.provider)) := by
  rcases snapshot_cases operation.provider db with ⟨-, hblank⟩ | ⟨h, -⟩
  · rw [operation.provider_nonblank] at hblank
    cases hblank
  · exact h

theorem competingScript_outcome (operation : ExternalOperation) :
    ∃ first final dbs, (competingScript operation).outcome (.empty, .empty) = (.ok (first, true,
        evidenceRecord operation "present-1" 1 acceptRemoteCommit,
        completionRow operation (evidenceRecord operation "present-1" 1 acceptRemoteCommit),
        final), dbs) ∧
      first.revision = 1 ∧ final.revision = 1 ∧ final.effects.length = 1 := by
  let P := ProviderDb.empty.touch operation.provider
  have hread : read operation .empty =
      (P, .ok (absentReadback operation (ProviderDb.empty.state operation.provider))) :=
    read_eq operation .empty
  have hzero : P.revision operation.provider = 0 :=
    ProviderDb.revision_touch .empty operation.provider operation.provider
  have hnone : P.effects.rows = [] := rfl
  obtain ⟨first, P', hcommit, hfirst, hstale, hrevision, hrows⟩ :=
    conditionalApply_twice operation hzero hnone
  -- the provider now stores the operation
  have hfind : P'.effects.find? operation.identity = some operation :=
    Table.find?_eq_some_iff.2 ⟨hrows ▸ List.mem_singleton_self _, rfl⟩
  have hread' : read operation P' = (P'.touch operation.provider,
      .ok (presentReadback operation operation (P'.state operation.provider))) := by
    rw [read_eq, hfind, readback, raiseIf_neg (not_not.2 rfl), ok_bind]
  have habsent : isBlank "absent-0" = false := rfl
  have hpresent : isBlank "present-1" = false := rfl
  have hretry : reconcileLostAck operation
      (absentReadback operation (ProviderDb.empty.state operation.provider)) =
      .ok (retryExactOperation operation (0 : ℕ)) := reconcileLostAck_absentReadback _ _
  have hobserved : (presentReadback operation operation
      (P'.state operation.provider)).readbackRevision = some ((1 : ℕ) : Int) :=
    congrArg some hrevision
  obtain ⟨E, E', hrecord, -, hrecord', hcur, hopen⟩ :=
    record_absent_present operation Nat.zero_lt_one habsent hpresent rfl hobserved hretry
      (reconcileLostAck_presentReadback _ _)
  obtain ⟨E'', -, hmark⟩ := (markReconciled_current hcur rfl rfl).2 hopen
  refine ⟨first, (P'.touch operation.provider).state operation.provider,
    ((P'.touch operation.provider).touch operation.provider, E''), ?_, hfirst, ?_, ?_⟩
  · refine (outcome_bind_of_ok (outcome_callProvider hread)).trans ?_
    refine (outcome_bind_of_ok (outcome_callEvidence hrecord)).trans ?_
    refine (outcome_bind_of_ok (outcome_callProvider hcommit)).trans ?_
    refine (outcome_bind_of_ok
      (outcome_expect_of_error (outcome_callProvider (s := (P', E)) hstale) rfl)).trans ?_
    refine (outcome_bind_of_ok (outcome_callProvider hread')).trans ?_
    refine (outcome_bind_of_ok (outcome_callEvidence hrecord')).trans ?_
    refine (outcome_bind_of_ok (outcome_callEvidence hmark)).trans ?_
    exact outcome_bind_of_ok (outcome_callProvider (snapshot_provider operation _))
  · exact (P'.revision_touch _ _).trans hrevision
  · rw [ProviderDb.state, ProviderDb.orderedEffects, List.length_insertionSort,
      ProviderDb.effectsOf_touch, ProviderDb.effectsOf, Table.select, hrows]
    simp

theorem competingRetryAuthoritiesConverge_succeeds :
    Succeeds ⟨"competing_retry_authorities_converge", true, true, true⟩
      competingRetryAuthoritiesConverge := by
  obtain ⟨operation, hcreate⟩ : ∃ operation, ExternalOperation.create "provider-a" "op-race"
      "create_record" "payload-v1" = .ok operation := ⟨_, rfl⟩
  obtain ⟨first, final, dbs, houtcome, hfirst, hfinal, hlength⟩ :=
    competingScript_outcome operation
  unfold competingRetryAuthoritiesConverge
  rw [hcreate, ok_bind, houtcome]
  simp only [ok_bind, hfirst, hfinal, hlength]
  exact ⟨_, rfl⟩

end evidence

/-- `SCENARIO_RUNNERS`. -/
def scenarioRunners : List (String × Except Raised ScenarioResult) :=
  [("stale_child_completion_scoped", staleChildCompletionScoped),
    ("lost_ack_retry_idempotency", lostAckRetryIdempotency),
    ("terminal_conflict_fails_closed", terminalConflictFailsClosed),
    ("approval_mutation_fails_closed", approvalMutationFailsClosed),
    ("durable_restart_exact_replay", durableRestartExactReplay),
    ("stale_checkpoint_lineage_fails_closed", staleCheckpointLineageFailsClosed),
    ("provider_present_suppresses_retry", providerPresentSuppressesRetry),
    ("stale_readback_revision_fails_closed", staleReadbackRevisionFailsClosed),
    ("restart_evidence_supersedes_retry", restartEvidenceSupersedesRetry),
    ("repeated_lost_ack_converges", repeatedLostAckConverges),
    ("competing_retry_authorities_converge", competingRetryAuthoritiesConverge)]

/-- The scenarios of the runners, in the same order. -/
def scenarios : List Scenario :=
  [⟨"stale_child_completion_scoped", true, true, false⟩,
    ⟨"lost_ack_retry_idempotency", true, true, false⟩,
    ⟨"terminal_conflict_fails_closed", true, false, true⟩,
    ⟨"approval_mutation_fails_closed", true, false, true⟩,
    ⟨"durable_restart_exact_replay", true, true, false⟩,
    ⟨"stale_checkpoint_lineage_fails_closed", true, true, true⟩,
    ⟨"provider_present_suppresses_retry", true, true, false⟩,
    ⟨"stale_readback_revision_fails_closed", true, false, true⟩,
    ⟨"restart_evidence_supersedes_retry", true, true, true⟩,
    ⟨"repeated_lost_ack_converges", true, true, true⟩,
    ⟨"competing_retry_authorities_converge", true, true, true⟩]

/-- Every runner reports under its name that its scenario passes. -/
theorem scenarioRunners_succeed :
    List.Forall₂ (fun runner scenario => runner.1 = scenario.id ∧ Succeeds scenario runner.2)
      scenarioRunners scenarios := by
  refine .cons ⟨rfl, _, rfl⟩ <| .cons ⟨rfl, _, rfl⟩ <| .cons ⟨rfl, _, rfl⟩ <|
    .cons ⟨rfl, _, rfl⟩ <| .cons ⟨rfl, _, rfl⟩ <|
    .cons ⟨rfl, staleCheckpointLineageFailsClosed_succeeds⟩ <| .cons ⟨rfl, _, rfl⟩ <|
    .cons ⟨rfl, staleReadbackRevisionFailsClosed_succeeds⟩ <|
    .cons ⟨rfl, restartEvidenceSupersedesRetry_succeeds⟩ <|
    .cons ⟨rfl, repeatedLostAckConverges_succeeds⟩ <|
    .cons ⟨rfl, competingRetryAuthoritiesConverge_succeeds⟩ .nil

end Evaluation

end ReliabilityLab
