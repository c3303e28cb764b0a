import ReliabilityLab.Fold
import ReliabilityLab.Python

/-!
# Turn replay

`simulator.py` : a runtime's events replayed into the state of one turn. In the `scoped`
mode an event of another run or turn is ignored, and after the turn has ended only an
exact copy of the event that ended it is; in the `naive` mode every event is applied.

`apply_foreign`, `apply_output`, `apply_terminal` and `apply_ended` are what a scoped step
does, by the event and by whether the turn has ended.
-/

open Serial

namespace ReliabilityLab

namespace Simulator

/-- What an event says of its turn. -/
inductive EventKind where
  | output
  | completed
  | failed
  deriving DecidableEq, Repr

/-- The text of an event kind. -/
def EventKind.value : EventKind → String
  | .output => "output"
  | .completed => "completed"
  | .failed => "failed"

/-- One immutable runtime event emitted by an agent turn. -/
structure Event where
  sequence : Int
  runId : String
  turnId : String
  kind : EventKind
  payload : String := ""
  deriving DecidableEq, Repr

/-- Whether the reducer takes every event, or those of the active turn. -/
inductive ReducerMode where
  | naive
  | scoped
  deriving DecidableEq, Repr

/-- What the reducer keeps of a run. -/
structure RunState where
  activeRunId : String
  activeTurnId : String
  output : String := ""
  terminal : Bool := false
  failed : Bool := false
  acceptedEvents : List Int := []
  ignoredEvents : List Int := []
  terminalKind : Option EventKind := none
  terminalPayload : String := ""
  deriving DecidableEq, Repr

/-- What a replay gives. -/
structure SimulationResult where
  mode : ReducerMode
  state : RunState
  deriving DecidableEq, Repr

/-! ## The replay -/

/-- Whether the event is of the active run and turn. -/
def belongsToActiveTurn (state : RunState) (event : Event) : Bool :=
  event.runId = state.activeRunId && event.turnId = state.activeTurnId

/-- An event of the active turn after its end : a repeat of the end is ignored. -/
def handleEventAfterTerminal (state : RunState) (event : Event) : Except Raised RunState :=
  if state.terminalKind = some event.kind ∧ event.payload = state.terminalPayload then
    .ok { state with ignoredEvents := state.ignoredEvents ++ [event.sequence] }
  else
    .error ⟨.terminalStateConflict,
      "active turn emitted an incompatible event after termination: existing='" ++
        state.terminalKind.elim "unknown" EventKind.value ++ "' incoming='" ++
        event.kind.value ++ "'"⟩

/-- Apply one event to a run. -/
def applyEvent (state : RunState) (event : Event) (mode : ReducerMode) : Except Raised RunState :=
  if mode = .scoped ∧ ¬belongsToActiveTurn state event then
    .ok { state with ignoredEvents := state.ignoredEvents ++ [event.sequence] }
  else if mode = .scoped ∧ state.terminal then
    handleEventAfterTerminal state event
  else
    let nextState := { state with acceptedEvents := state.acceptedEvents ++ [event.sequence] }
    match event.kind with
    | .output => .ok { nextState with output := event.payload }
    | .completed =>
      .ok { nextState with
        terminal := true
        terminalKind := some event.kind
        terminalPayload := event.payload
        output := if event.payload = "" then nextState.output else event.payload }
    | .failed =>
      .ok { nextState with
        terminal := true
        failed := true
        terminalKind := some event.kind
        terminalPayload := event.payload
        output := event.payload }

/-- Replay events deterministically in sequence order. -/
def replay (events : List Event) (initial : RunState) (mode : ReducerMode := .scoped) :
    Except Raised SimulationResult := do
  raiseIf (OutOfOrder (events.map Event.sequence))
    ⟨.valueError, "events must have unique monotonically increasing sequence numbers"⟩
  let state ← events.foldlM (fun state event => applyEvent state event mode) initial
  .ok ⟨mode, state⟩

/-- One step in the `scoped` mode. -/
abbrev scopedStep (state : RunState) (event : Event) : Except Raised RunState :=
  applyEvent state event .scoped

/-- On ordered events the replay is the fold. -/
theorem replay_of_ordered {events : List Event}
    (hseq : (events.map Event.sequence).Pairwise (· < ·)) (initial : RunState)
    (mode : ReducerMode) :
    replay events initial mode =
      SimulationResult.mk mode <$> events.foldlM (fun s e => applyEvent s e mode) initial := by
  unfold replay
  rw [raiseIf_neg (not_outOfOrder.2 hseq), ok_bind]
  rcases events.foldlM (fun s e => applyEvent s e mode) initial with e | s <;> rfl

/-! ## What a scoped step does -/

theorem apply_foreign {s : RunState} {e : Event} (h : belongsToActiveTurn s e = false) :
    scopedStep s e = .ok { s with ignoredEvents := s.ignoredEvents ++ [e.sequence] } := by
  simp [applyEvent, h]

/-- After the turn has ended, an event of the turn is a copy or a conflict. -/
theorem apply_ended {s : RunState} {e : Event} (h : belongsToActiveTurn s e = true)
    (ht : s.terminal = true) : scopedStep s e = handleEventAfterTerminal s e := by
  simp [applyEvent, h, ht]

theorem apply_output {s : RunState} {e : Event} (h : belongsToActiveTurn s e = true)
    (ht : s.terminal = false) (hk : e.kind = .output) :
    scopedStep s e = .ok { s with
      acceptedEvents := s.acceptedEvents ++ [e.sequence]
      output := e.payload } := by
  simp [applyEvent, h, ht, hk]

/-- The event that ends the turn. -/
theorem apply_terminal {s : RunState} {e : Event} (h : belongsToActiveTurn s e = true)
    (ht : s.terminal = false) (hk : e.kind ≠ .output) :
    scopedStep s e = .ok { s with
      acceptedEvents := s.acceptedEvents ++ [e.sequence]
      terminal := true
      failed := if e.kind = .failed then true else s.failed
      terminalKind := some e.kind
      terminalPayload := e.payload
      output := if e.kind = .completed ∧ e.payload = "" then s.output else e.payload } := by
  unfold scopedStep applyEvent
  rw [if_neg (by simp [h]), if_neg (by simp [ht])]
  rcases hkind : e.kind with _ | _ | _
  · exact absurd hkind hk
  · simp
  · simp

theorem handle_eq_ok {s t : RunState} {e : Event} :
    handleEventAfterTerminal s e = .ok t ↔
      s.terminalKind = some e.kind ∧ e.payload = s.terminalPayload ∧
        t = { s with ignoredEvents := s.ignoredEvents ++ [e.sequence] } := by
  unfold handleEventAfterTerminal
  split_ifs with h
  · simp [h, eq_comm (b := t)]
  · refine iff_of_false (by simp) ?_
    rintro ⟨hk, hp, -⟩
    exact h ⟨hk, hp⟩

/-- A scoped step that does not raise keeps the active turn and adds the event's sequence
either to the accepted or to the ignored events. -/
theorem scopedStep_cases {s t : RunState} {e : Event} (h : scopedStep s e = .ok t) :
    t.activeRunId = s.activeRunId ∧ t.activeTurnId = s.activeTurnId ∧
      (t.acceptedEvents = s.acceptedEvents ++ [e.sequence] ∧ t.ignoredEvents = s.ignoredEvents ∨
        t.acceptedEvents = s.acceptedEvents ∧
          t.ignoredEvents = s.ignoredEvents ++ [e.sequence]) := by
  rcases hown : belongsToActiveTurn s e with _ | _
  · rw [apply_foreign hown] at h
    cases h
    exact ⟨rfl, rfl, Or.inr ⟨rfl, rfl⟩⟩
  rcases hended : s.terminal with _ | _
  · by_cases hk : e.kind = .output
    · rw [apply_output hown hended hk] at h
      cases h
      exact ⟨rfl, rfl, Or.inl ⟨rfl, rfl⟩⟩
    · rw [apply_terminal hown hended hk] at h
      cases h
      exact ⟨rfl, rfl, Or.inl ⟨rfl, rfl⟩⟩
  · rw [apply_ended hown hended, handle_eq_ok] at h
    obtain ⟨-, -, rfl⟩ := h
    exact ⟨rfl, rfl, Or.inr ⟨rfl, rfl⟩⟩

end Simulator

end ReliabilityLab
