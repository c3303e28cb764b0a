import ReliabilityLab.Fold
import ReliabilityLab.Python

/-!
# Approval replay

`approvals.py` : an approval lifecycle replayed from a list of events, in memory.
`replayStep` is the body of its loop over the requests, the decisions and the ids
executed so far, and `replayApproval` the whole function.

The `replayStep_..._eq_ok` lemmas say when each action passes and what it adds.
`firstRequest` and `Executed` are what a list of events says of one operation.
-/

open Serial Keyed

namespace ReliabilityLab

/-- What an approval event does. -/
inductive ApprovalAction where
  | requested
  | approved
  | denied
  | execute
  deriving DecidableEq, Repr

/-- One deterministic approval-lifecycle event for a tool side effect. -/
structure ApprovalEvent where
  sequence : Int
  action : ApprovalAction
  operationId : String
  tool : String
  payload : String
  deriving DecidableEq, Repr

/-- The exact effect an event is about. -/
def ApprovalEvent.identity (event : ApprovalEvent) : String × String :=
  (event.tool, event.payload)

/-- Strict projection of an approval interruption and later replay. -/
structure ApprovalReplayResult where
  executed : List String
  approved : List String
  denied : List String
  deriving DecidableEq, Repr

/-! ## The replay -/

/-- The sequence numbers of the events increase. -/
def validateOrder (events : List ApprovalEvent) : Except Raised Unit :=
  raiseIf (OutOfOrder (events.map ApprovalEvent.sequence))
    ⟨.valueError, "approval events must have unique monotonically increasing sequence numbers"⟩

/-- The variables of the loop. -/
structure ReplayState where
  requests : Dict String (String × String)
  decisions : Dict String ApprovalAction
  executed : List String

namespace ReplayState

/-- The state before the first event. -/
def start : ReplayState :=
  ⟨.empty, .empty, []⟩

/-- The checks of an event that is not a request against the request of its id. -/
def checkBinding (state : ReplayState) (event : ApprovalEvent) : Except Raised Unit := do
  let requested ← orRaise (state.requests.get? event.operationId)
    ⟨.approvalConflict, "approval event has no matching request: " ++ event.operationId⟩
  raiseIf (requested ≠ event.identity)
    ⟨.approvalConflict,
      "approval binding does not match requested effect: " ++ event.operationId⟩

/-- The result of the events so far. -/
def result (state : ReplayState) : ApprovalReplayResult where
  executed := state.executed
  approved := (state.decisions.rows.filter fun item => item.2 = .approved).map Prod.fst
  denied := (state.decisions.rows.filter fun item => item.2 = .denied).map Prod.fst

end ReplayState

/-- One event. -/
def replayStep (state : ReplayState) (event : ApprovalEvent) : Except Raised ReplayState :=
  match event.action with
  | .requested =>
    match state.requests.get? event.operationId with
    | none =>
      .ok { state with requests := state.requests.set event.operationId event.identity }
    | some requested => do
      raiseIf (requested ≠ event.identity)
        ⟨.approvalConflict, "operation changed after approval request: " ++ event.operationId⟩
      .ok state
  | .approved | .denied => do
    state.checkBinding event
    raiseIf (∃ previous ∈ state.decisions.get? event.operationId, previous ≠ event.action)
      ⟨.approvalConflict, "approval decision changed for operation: " ++ event.operationId⟩
    .ok { state with decisions := state.decisions.set event.operationId event.action }
  | .execute => do
    state.checkBinding event
    let decision ← orRaise (state.decisions.get? event.operationId)
      ⟨.approvalRequired, "operation cannot execute before approval: " ++ event.operationId⟩
    raiseIf (decision = .denied)
      ⟨.approvalDenied, "operation was denied: " ++ event.operationId⟩
    .ok { state with
      executed :=
        if event.operationId ∈ state.executed then state.executed
        else state.executed ++ [event.operationId] }

/-- Replay an approval lifecycle with exact operation binding. -/
def replayApproval (events : List ApprovalEvent) : Except Raised ApprovalReplayResult := do
  validateOrder events
  let state ← events.foldlM replayStep .start
  .ok state.result

theorem validateOrder_eq_ok {events : List ApprovalEvent} :
    validateOrder events = .ok () ↔ events.Pairwise fun a b => a.sequence < b.sequence := by
  unfold validateOrder
  rw [raiseIf_eq_ok, not_outOfOrder, List.pairwise_map]

/-! ## What a step adds -/

namespace ReplayState

theorem checkBinding_eq_ok {state : ReplayState} {event : ApprovalEvent} :
    state.checkBinding event = .ok () ↔
      state.requests.get? event.operationId = some event.identity := by
  simp [checkBinding, raiseIf_eq_ok]

end ReplayState

/-- A request is new, or the same as the first one of its id. -/
theorem replayStep_requested_eq_ok {s t : ReplayState} {event : ApprovalEvent}
    (h : event.action = .requested) :
    replayStep s event = .ok t ↔
      s.requests.get? event.operationId = none ∧
          t = { s with requests := s.requests.set event.operationId event.identity } ∨
        s.requests.get? event.operationId = some event.identity ∧ t = s := by
  unfold replayStep
  rw [h]
  rcases s.requests.get? event.operationId with _ | r
  · simp [eq_comm (b := t)]
  · simp [eq_comm (b := t)]

/-- A decision is about the requested effect and agrees with the decision before it. -/
theorem replayStep_decision_eq_ok {s t : ReplayState} {event : ApprovalEvent}
    (h : event.action = .approved ∨ event.action = .denied) :
    replayStep s event = .ok t ↔
      s.requests.get? event.operationId = some event.identity ∧
        (∀ d, s.decisions.get? event.operationId = some d → d = event.action) ∧
        t = { s with decisions := s.decisions.set event.operationId event.action } := by
  have hstep : replayStep s event = (do
      s.checkBinding event
      raiseIf (∃ previous ∈ s.decisions.get? event.operationId, previous ≠ event.action)
        ⟨.approvalConflict, "approval decision changed for operation: " ++ event.operationId⟩
      .ok { s with decisions := s.decisions.set event.operationId event.action }) := by
    unfold replayStep
    rcases h with h | h <;> simp only [h]
  rw [hstep, check_bind_eq_ok, ReplayState.checkBinding_eq_ok, raiseIf_bind_eq_ok,
    Except.ok.injEq, eq_comm (b := t)]
  simp only [not_exists, not_and, not_not, Option.mem_def]

/-- An execution is of the requested effect, and approved. -/
theorem replayStep_execute_eq_ok {s t : ReplayState} {event : ApprovalEvent}
    (h : event.action = .execute) :
    replayStep s event = .ok t ↔
      s.requests.get? event.operationId = some event.identity ∧
        (∃ d, s.decisions.get? event.operationId = some d ∧ d ≠ .denied) ∧
        t = { s with
          executed :=
            if event.operationId ∈ s.executed then s.executed
            else s.executed ++ [event.operationId] } := by
  unfold replayStep
  rw [h]
  rw [check_bind_eq_ok, ReplayState.checkBinding_eq_ok, orRaise_bind_eq_ok]
  refine and_congr_right fun _ => ⟨?_, ?_⟩
  · rintro ⟨d, hd, hpass⟩
    obtain ⟨hne, ht⟩ := raiseIf_bind_eq_ok.1 hpass
    exact ⟨⟨d, hd, hne⟩, (Except.ok.inj ht).symm⟩
  · rintro ⟨⟨d, hd, hne⟩, rfl⟩
    exact ⟨d, hd, raiseIf_bind_eq_ok.2 ⟨hne, rfl⟩⟩

/-! ## What the events say -/

/-- The first request of the operation `i` among the events. -/
def firstRequest (events : List ApprovalEvent) (i : String) : Option ApprovalEvent :=
  events.find? fun e => e.operationId = i ∧ e.action = .requested

/-- The operation `i` is executed by one of the events. -/
def Executed (events : List ApprovalEvent) (i : String) : Prop :=
  ∃ e ∈ events, e.operationId = i ∧ e.action = .execute

/-! ## The whole replay -/

theorem replayApproval_eq_ok {events : List ApprovalEvent} {result : ApprovalReplayResult} :
    replayApproval events = .ok result ↔
      (events.Pairwise fun a b => a.sequence < b.sequence) ∧
        ∃ state, events.foldlM replayStep .start = .ok state ∧ result = state.result := by
  rw [replayApproval, check_bind_eq_ok, validateOrder_eq_ok, bind_eq_ok]
  simp only [Except.ok.injEq, eq_comm]

/-- On ordered events the replay raises while it processes event `k` exactly if it
accepts the events before it and not that event. -/
theorem replayApproval_stopsAt {events : List ApprovalEvent}
    (hseq : events.Pairwise fun a b => a.sequence < b.sequence) {k : Nat} :
    stopsAt replayStep .start events = some k ↔
      (∃ result, replayApproval (events.take k) = .ok result) ∧
        ∃ e, replayApproval (events.take (k + 1)) = .error e := by
  have horder : ∀ n, validateOrder (events.take n) = .ok () :=
    fun n => validateOrder_eq_ok.2 (hseq.sublist (List.take_sublist n events))
  rw [stopsAt_eq_some_iff_take]
  simp only [replayApproval, horder, ok_bind]
  refine and_congr ⟨?_, ?_⟩ ⟨?_, ?_⟩
  · rintro ⟨t, ht⟩
    exact ⟨t.result, by rw [ht, ok_bind]⟩
  · rintro ⟨result, hr⟩
    obtain ⟨t, ht, -⟩ := bind_eq_ok.1 hr
    exact ⟨t, ht⟩
  · rintro ⟨e, he⟩
    exact ⟨e, by rw [he, error_bind]⟩
  · rintro ⟨e, he⟩
    obtain h | ⟨t, -, h⟩ := bind_eq_error.1 he
    · exact ⟨e, h⟩
    · cases h

theorem ReplayState.mem_approved {state : ReplayState} {i : String} :
    i ∈ state.result.approved ↔ state.decisions.get? i = some .approved := by
  simp [ReplayState.result, ← Dict.mem_rows]

theorem ReplayState.mem_denied {state : ReplayState} {i : String} :
    i ∈ state.result.denied ↔ state.decisions.get? i = some .denied := by
  simp [ReplayState.result, ← Dict.mem_rows]

end ReliabilityLab
