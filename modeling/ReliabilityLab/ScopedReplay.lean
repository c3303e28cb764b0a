import ReliabilityLab.Simulator

/-!
# Scoped replay

What the scoped replay of a list of events depends on, and which lists it accepts.

It depends on the events of the active turn. `seen` is a state without its ignored events,
and from states with the same `seen` a step gives states with the same `seen`
(`seen_scopedStep`); a foreign event leaves it as it is. `foldlM_filter` carries this over
the whole list (`scopedReplay_isolated`).

The lists of events of the active turn it accepts are those of `FinalOnce` : outputs, then
at most one event that ends the turn, then copies of that event (`scopedReplay_finalOnce`).
-/

open Serial

namespace ReliabilityLab

namespace Simulator

/-! ## Foreign events -/

/-- A state without its ignored events. -/
def RunState.seen (s : RunState) : RunState :=
  { s with ignoredEvents := [] }

/-- The events of the active turn. -/
def ownEvents (initial : RunState) (events : List Event) : List Event :=
  events.filter (belongsToActiveTurn initial)

theorem seen_eq_iff {s t : RunState} :
    s.seen = t.seen ↔ t = { s with ignoredEvents := t.ignoredEvents } := by
  obtain ⟨r, u, o, te, f, a, i, k, p⟩ := s
  obtain ⟨r', u', o', te', f', a', i', k', p'⟩ := t
  simp only [RunState.seen, RunState.mk.injEq]
  constructor
  · rintro ⟨rfl, rfl, rfl, rfl, rfl, rfl, -, rfl, rfl⟩
    simp
  · rintro ⟨rfl, rfl, rfl, rfl, rfl, rfl, -, rfl, rfl⟩
    simp

/-- The ignored events do not matter to a step. -/
theorem seen_scopedStep {s t : RunState} (h : s.seen = t.seen) (e : Event) :
    RunState.seen <$> scopedStep s e = RunState.seen <$> scopedStep t e := by
  rw [seen_eq_iff] at h
  generalize t.ignoredEvents = ignored at h
  have hbelongs : belongsToActiveTurn t e = belongsToActiveTurn s e := by rw [h]; rfl
  have hterminal : t.terminal = s.terminal := by rw [h]
  rcases hown : belongsToActiveTurn s e with _ | _
  · rw [apply_foreign hown, apply_foreign (hbelongs.trans hown), h]
    rfl
  rcases hended : s.terminal with _ | _
  · by_cases hk : e.kind = .output
    · rw [apply_output hown hended hk,
        apply_output (hbelongs.trans hown) (hterminal.trans hended) hk, h]
      rfl
    · rw [apply_terminal hown hended hk,
        apply_terminal (hbelongs.trans hown) (hterminal.trans hended) hk, h]
      rfl
  · rw [apply_ended hown hended, apply_ended (hbelongs.trans hown) (hterminal.trans hended), h]
    unfold handleEventAfterTerminal
    split_ifs <;> rfl

/-- The fold over all events and over those of the active turn. -/
theorem seen_foldlM (initial : RunState) (events : List Event) :
    RunState.seen <$> events.foldlM scopedStep initial =
      RunState.seen <$> (ownEvents initial events).foldlM scopedStep initial := by
  refine foldlM_filter (I := fun s => s.activeRunId = initial.activeRunId ∧
    s.activeTurnId = initial.activeTurnId) ?_ ?_ ?_ ⟨rfl, rfl⟩ ⟨rfl, rfl⟩ rfl events
  · rintro s s' e ⟨hrun, hturn⟩ hs'
    obtain ⟨hrun', hturn', -⟩ := scopedStep_cases hs'
    exact ⟨hrun'.trans hrun, hturn'.trans hturn⟩
  · rintro s e ⟨hrun, hturn⟩ hown
    have hforeign : belongsToActiveTurn s e = false := by
      rw [← hown, belongsToActiveTurn, hrun, hturn]
      rfl
    exact ⟨_, apply_foreign hforeign, rfl⟩
  · intro s t e _ _ h _
    exact seen_scopedStep h e

/-- The order of the events of the active turn. -/
theorem ownEvents_ordered {initial : RunState} {events : List Event}
    (hseq : (events.map Event.sequence).Pairwise (· < ·)) :
    ((ownEvents initial events).map Event.sequence).Pairwise (· < ·) :=
  hseq.sublist (List.filter_sublist.map _)

theorem seen_replay {initial : RunState} {events : List Event}
    (hseq : (events.map Event.sequence).Pairwise (· < ·)) :
    (fun r => r.state.seen) <$> replay events initial =
      RunState.seen <$> (ownEvents initial events).foldlM scopedStep initial := by
  rw [← seen_foldlM, replay_of_ordered hseq]
  rcases List.foldlM (fun s e => applyEvent s e .scoped) initial events with e | s <;> rfl

/-- The replay of all events and of those of the active turn. -/
theorem seen_replay_own (initial : RunState) {events : List Event}
    (hseq : (events.map Event.sequence).Pairwise (· < ·)) :
    (fun r => r.state.seen) <$> replay events initial =
      (fun r => r.state.seen) <$> replay (ownEvents initial events) initial := by
  have hown : ownEvents initial (ownEvents initial events) = ownEvents initial events :=
    List.filter_filter.trans (by simp [ownEvents])
  rw [seen_replay hseq, seen_replay (ownEvents_ordered hseq), hown]

/-- The accepted and the ignored events of the fold, together, are its events. -/
theorem sequences_foldlM {initial s : RunState} {events : List Event}
    (h : events.foldlM scopedStep initial = .ok s) :
    ∃ accepted ignored, s.acceptedEvents = initial.acceptedEvents ++ accepted ∧
      s.ignoredEvents = initial.ignoredEvents ++ ignored ∧
      (accepted ++ ignored).Perm (events.map Event.sequence) := by
  refine foldlM_invariant (J := fun events s => ∃ accepted ignored,
    s.acceptedEvents = initial.acceptedEvents ++ accepted ∧
      s.ignoredEvents = initial.ignoredEvents ++ ignored ∧
      (accepted ++ ignored).Perm (events.map Event.sequence)) ⟨[], [], by simp⟩ ?_ h
  rintro events e s t ⟨accepted, ignored, ha, hi, hperm⟩ ht
  rw [List.map_append, List.map_singleton]
  obtain ⟨-, -, ⟨ha', hi'⟩ | ⟨ha', hi'⟩⟩ := scopedStep_cases ht
  · refine ⟨accepted ++ [e.sequence], ignored, by rw [ha', ha, List.append_assoc],
      hi'.trans hi, ?_⟩
    rw [List.append_assoc, List.singleton_append]
    exact List.perm_middle.trans
      ((hperm.cons e.sequence).trans (List.perm_append_singleton _ _).symm)
  · refine ⟨accepted, ignored ++ [e.sequence], ha'.trans ha,
      by rw [hi', hi, List.append_assoc], ?_⟩
    rw [← List.append_assoc]
    exact hperm.append_right [e.sequence]

/-- For any initial state and any ordered events : the scoped replay raises just when the
replay of the active turn's own events raises, and the same error; the states they end in
differ in the ignored events only. So two lists of events with the same own events give
the same output, ending, failure and accepted events, whatever foreign events they have.
And the accepted and ignored events that the replay adds are together the sequences of its
events, each of them once. -/
theorem scopedReplay_isolated (initial : RunState) (events : List Event)
    (hseq : (events.map Event.sequence).Pairwise (· < ·)) :
    (∀ e, replay events initial = .error e ↔
        replay (ownEvents initial events) initial = .error e) ∧
      (∀ r r', replay events initial = .ok r →
        replay (ownEvents initial events) initial = .ok r' →
        r'.state = { r.state with ignoredEvents := r'.state.ignoredEvents }) ∧
      (∀ others : List Event, (others.map Event.sequence).Pairwise (· < ·) →
        ownEvents initial others = ownEvents initial events →
        (∀ e, replay others initial = .error e ↔ replay events initial = .error e) ∧
          ∀ r r', replay events initial = .ok r → replay others initial = .ok r' →
            r'.state.output = r.state.output ∧ r'.state.terminal = r.state.terminal ∧
              r'.state.failed = r.state.failed ∧ r'.state.terminalKind = r.state.terminalKind ∧
              r'.state.terminalPayload = r.state.terminalPayload ∧
              r'.state.acceptedEvents = r.state.acceptedEvents) ∧
      ∀ r, replay events initial = .ok r → ∃ accepted ignored,
        r.state.acceptedEvents = initial.acceptedEvents ++ accepted ∧
          r.state.ignoredEvents = initial.ignoredEvents ++ ignored ∧
          (accepted ++ ignored).Perm (events.map Event.sequence) ∧
          (accepted ++ ignored).Nodup := by
  have hown := of_map_eq_map (seen_replay_own initial hseq)
  refine ⟨hown.1, fun r r' hr hr' => seen_eq_iff.1 (hown.2 r r' hr hr'), ?_, ?_⟩
  · intro others hothers hsame
    have hothers' := of_map_eq_map (seen_replay_own initial hothers)
    rw [hsame] at hothers'
    refine ⟨fun e => (hothers'.1 e).trans (hown.1 e).symm, fun r r' hr hr' => ?_⟩
    have hseen : r.state.seen = r'.state.seen := by
      refine of_map_eq_map (f := fun r : SimulationResult => r.state.seen) ?_ |>.2 r r' hr hr'
      rw [seen_replay_own initial hseq, seen_replay_own initial hothers, hsame]
    rw [seen_eq_iff.1 hseen]
    exact ⟨rfl, rfl, rfl, rfl, rfl, rfl⟩
  · intro r hr
    rw [replay_of_ordered hseq, map_eq_ok] at hr
    obtain ⟨s, hs, rfl⟩ := hr
    obtain ⟨accepted, ignored, ha, hi, hperm⟩ := sequences_foldlM hs
    exact ⟨accepted, ignored, ha, hi, hperm, hperm.nodup_iff.2 (hseq.imp ne_of_lt)⟩

/-- A turn whose child ends first, beside the turn without the child. -/
theorem scopedReplay_isolated_sample :
    let initial : RunState := ⟨"parent", "turn-parent", "", false, false, [], [], none, ""⟩
    let events : List Event :=
      [⟨1, "parent", "turn-parent", .output, "thinking"⟩, ⟨2, "child", "turn-child", .failed, "no"⟩,
        ⟨3, "parent", "turn-parent", .completed, "final answer"⟩,
        ⟨4, "child", "turn-child", .output, "late"⟩]
    (∀ e, replay events initial = .error e ↔
        replay (ownEvents initial events) initial = .error e) ∧
      (∀ r r', replay events initial = .ok r →
        replay (ownEvents initial events) initial = .ok r' →
        r'.state = { r.state with ignoredEvents := r'.state.ignoredEvents }) ∧
      (∀ others : List Event, (others.map Event.sequence).Pairwise (· < ·) →
        ownEvents initial others = ownEvents initial events →
        (∀ e, replay others initial = .error e ↔ replay events initial = .error e) ∧
          ∀ r r', replay events initial = .ok r → replay others initial = .ok r' →
            r'.state.output = r.state.output ∧ r'.state.terminal = r.state.terminal ∧
              r'.state.failed = r.state.failed ∧ r'.state.terminalKind = r.state.terminalKind ∧
              r'.state.terminalPayload = r.state.terminalPayload ∧
              r'.state.acceptedEvents = r.state.acceptedEvents) ∧
      ∀ r, replay events initial = .ok r → ∃ accepted ignored,
        r.state.acceptedEvents = initial.acceptedEvents ++ accepted ∧
          r.state.ignoredEvents = initial.ignoredEvents ++ ignored ∧
          (accepted ++ ignored).Perm (events.map Event.sequence) ∧
          (accepted ++ ignored).Nodup :=
  scopedReplay_isolated _ _ (by decide)

/-! ## The accepted lists -/

/-- Only `OUTPUT` events. -/
def Outputs (events : List Event) : Prop :=
  ∀ e ∈ events, e.kind = .output

/-- Only events with the kind and the payload of `last`. -/
def CopiesOf (last : Event) (events : List Event) : Prop :=
  ∀ e ∈ events, e.kind = last.kind ∧ e.payload = last.payload

/-- Outputs, then at most one event that ends the turn, then copies of that event. -/
def FinalOnce (events : List Event) : Prop :=
  Outputs events ∨ ∃ outputs last copies, events = outputs ++ last :: copies ∧ Outputs outputs ∧
    last.kind ≠ .output ∧ CopiesOf last copies

/-- The output after the outputs `events`, from the output `before`. -/
def lastOutput (before : String) (events : List Event) : String :=
  (events.getLast?.map Event.payload).getD before

theorem lastOutput_cons (before : String) (e : Event) (events : List Event) :
    lastOutput before (e :: events) = lastOutput e.payload events := by
  unfold lastOutput
  rw [List.getLast?_cons]
  cases events.getLast? <;> rfl

/-- The state after the outputs `outputs`. -/
def RunState.afterOutputs (s : RunState) (outputs : List Event) : RunState :=
  { s with
    acceptedEvents := s.acceptedEvents ++ outputs.map Event.sequence
    output := lastOutput s.output outputs }

/-- The state after `last` ended the turn. -/
def RunState.endedBy (s : RunState) (last : Event) : RunState :=
  { s with
    acceptedEvents := s.acceptedEvents ++ [last.sequence]
    terminal := true
    failed := if last.kind = .failed then true else s.failed
    terminalKind := some last.kind
    terminalPayload := last.payload
    output := if last.kind = .completed ∧ last.payload = "" then s.output else last.payload }

/-- The state after the copies `copies`. -/
def RunState.afterCopies (s : RunState) (copies : List Event) : RunState :=
  { s with ignoredEvents := s.ignoredEvents ++ copies.map Event.sequence }

theorem foldlM_outputs {s : RunState} (ht : s.terminal = false) {outputs : List Event}
    (hown : ∀ e ∈ outputs, belongsToActiveTurn s e = true) (hout : Outputs outputs) :
    outputs.foldlM scopedStep s = .ok (s.afterOutputs outputs) := by
  induction outputs generalizing s with
  | nil => simp [RunState.afterOutputs, lastOutput]; rfl
  | cons e outputs ih =>
    obtain ⟨hown, howns⟩ := List.forall_mem_cons.1 hown
    obtain ⟨hkind, hout⟩ := List.forall_mem_cons.1 hout
    rw [List.foldlM_cons, apply_output hown ht hkind, ok_bind, ih (s := { s with
      acceptedEvents := s.acceptedEvents ++ [e.sequence]
      output := e.payload }) ht howns hout]
    simp [RunState.afterOutputs, lastOutput_cons]

/-- After the turn has ended, exactly the copies of the event that ended it pass. -/
theorem foldlM_copies {s t : RunState} (ht : s.terminal = true) {last : Event}
    (hkind : s.terminalKind = some last.kind) (hpayload : s.terminalPayload = last.payload)
    {events : List Event} (hown : ∀ e ∈ events, belongsToActiveTurn s e = true) :
    events.foldlM scopedStep s = .ok t ↔ CopiesOf last events ∧ t = s.afterCopies events := by
  induction events generalizing s with
  | nil => simp [RunState.afterCopies, CopiesOf, pure, Except.pure, eq_comm]
  | cons e events ih =>
    obtain ⟨hown, howns⟩ := List.forall_mem_cons.1 hown
    have hrest := ih (s := { s with ignoredEvents := s.ignoredEvents ++ [e.sequence] }) ht hkind
      hpayload howns
    rw [List.foldlM_cons, apply_ended hown ht, bind_eq_ok]
    constructor
    · rintro ⟨s', hs', h⟩
      obtain ⟨hk, hp, rfl⟩ := handle_eq_ok.1 hs'
      obtain ⟨hcopies, rfl⟩ := hrest.1 h
      refine ⟨List.forall_mem_cons.2 ⟨⟨?_, hp.trans hpayload⟩, hcopies⟩,
        by simp [RunState.afterCopies]⟩
      exact Option.some.inj (hk.symm.trans hkind)
    · rintro ⟨hcopies, rfl⟩
      obtain ⟨⟨hk, hp⟩, hcopies⟩ := List.forall_mem_cons.1 hcopies
      exact ⟨_, handle_eq_ok.2 ⟨by rw [hkind, hk], hp.trans hpayload.symm, rfl⟩,
        hrest.2 ⟨hcopies, by simp [RunState.afterCopies]⟩⟩

/-- The event that ends the turn, and what follows. -/
theorem foldlM_last {s t : RunState} (ht : s.terminal = false) {last : Event}
    (hlast : belongsToActiveTurn s last = true) (hkind : last.kind ≠ .output)
    {events : List Event} (hown : ∀ e ∈ events, belongsToActiveTurn s e = true) :
    (last :: events).foldlM scopedStep s = .ok t ↔
      CopiesOf last events ∧ t = (s.endedBy last).afterCopies events := by
  rw [List.foldlM_cons, apply_terminal hlast ht hkind, ok_bind]
  exact foldlM_copies rfl rfl rfl hown

theorem finalOnce_cons_output {e : Event} {events : List Event} (hk : e.kind = .output) :
    FinalOnce (e :: events) ↔ FinalOnce events := by
  unfold FinalOnce Outputs
  rw [List.forall_mem_cons]
  refine or_congr (and_iff_right hk) ⟨?_, ?_⟩
  · rintro ⟨outputs, last, copies, heq, hout, hlast, hcopies⟩
    rcases outputs with _ | ⟨o, outputs⟩
    · obtain ⟨rfl, rfl⟩ := List.cons.inj heq
      exact absurd hk hlast
    · obtain ⟨rfl, rfl⟩ := List.cons.inj heq
      exact ⟨outputs, last, copies, rfl, (List.forall_mem_cons.1 hout).2, hlast, hcopies⟩
  · rintro ⟨outputs, last, copies, rfl, hout, hlast, hcopies⟩
    exact ⟨e :: outputs, last, copies, rfl, List.forall_mem_cons.2 ⟨hk, hout⟩, hlast, hcopies⟩

theorem finalOnce_cons_last {e : Event} {events : List Event} (hk : e.kind ≠ .output) :
    FinalOnce (e :: events) ↔ CopiesOf e events := by
  constructor
  · rintro (hout | ⟨outputs, last, copies, heq, hout, -, hcopies⟩)
    · exact absurd (hout e List.mem_cons_self) hk
    · rcases outputs with _ | ⟨o, outputs⟩
      · obtain ⟨rfl, rfl⟩ := List.cons.inj heq
        exact hcopies
      · obtain ⟨rfl, -⟩ := List.cons.inj heq
        exact absurd (hout e List.mem_cons_self) hk
  · intro hcopies
    exact Or.inr ⟨[], e, events, rfl, fun _ h => by simp at h, hk, hcopies⟩

/-- The recogniser : the fold from a state whose turn has not ended passes exactly the
lists of `FinalOnce`. -/
theorem foldlM_eq_ok_iff {s : RunState} (ht : s.terminal = false) {events : List Event}
    (hown : ∀ e ∈ events, belongsToActiveTurn s e = true) :
    (∃ t, events.foldlM scopedStep s = .ok t) ↔ FinalOnce events := by
  induction events generalizing s with
  | nil => exact iff_of_true ⟨s, rfl⟩ (Or.inl fun _ h => by simp at h)
  | cons e events ih =>
    obtain ⟨he, howns⟩ := List.forall_mem_cons.1 hown
    by_cases hk : e.kind = .output
    · rw [finalOnce_cons_output hk, List.foldlM_cons, apply_output he ht hk, ok_bind]
      exact ih ht howns
    · simp only [finalOnce_cons_last hk, foldlM_last ht he hk howns, exists_and_left,
        exists_eq, and_true]

/-- For any initial state whose turn has not ended and any ordered events of the active
turn, the scoped replay returns just when they are outputs, then at most one event that
ends the turn, then copies of that event. The outputs and the ending event are accepted
and the copies ignored; the turn has ended if there is an ending event, has failed if that
is `FAILED`, and its output is the payload of that event, or of the last output if there
is none or if it is `COMPLETED` without a payload. -/
theorem scopedReplay_finalOnce (initial : RunState) (hinitial : initial.terminal = false)
    (events : List Event) (hown : ∀ e ∈ events, belongsToActiveTurn initial e = true)
    (hseq : (events.map Event.sequence).Pairwise (· < ·)) :
    ((∃ r, replay events initial = .ok r) ↔ FinalOnce events) ∧
      (Outputs events → replay events initial = .ok ⟨.scoped, { initial with
        acceptedEvents := initial.acceptedEvents ++ events.map Event.sequence
        output := lastOutput initial.output events }⟩) ∧
      ∀ outputs last copies, events = outputs ++ last :: copies → Outputs outputs →
        last.kind ≠ .output → CopiesOf last copies →
        replay events initial = .ok ⟨.scoped, { initial with
          acceptedEvents :=
            initial.acceptedEvents ++ (outputs.map Event.sequence ++ [last.sequence])
          ignoredEvents := initial.ignoredEvents ++ copies.map Event.sequence
          terminal := true
          failed := if last.kind = .failed then true else initial.failed
          terminalKind := some last.kind
          terminalPayload := last.payload
          output :=
            if last.kind = .completed ∧ last.payload = "" then lastOutput initial.output outputs
            else last.payload }⟩ := by
  rw [replay_of_ordered hseq]
  refine ⟨?_, fun hout => ?_, ?_⟩
  · rw [← foldlM_eq_ok_iff hinitial hown]
    simp only [map_eq_ok]
    refine ⟨fun ⟨_, s, hs, _⟩ => ⟨s, hs⟩, fun ⟨s, hs⟩ => ⟨_, s, hs, rfl⟩⟩
  · rw [foldlM_outputs hinitial hown hout]
    rfl
  · rintro outputs last copies rfl hout hlast hcopies
    obtain ⟨houtputs, hrest⟩ := List.forall_mem_append.1 hown
    obtain ⟨hl, hcs⟩ := List.forall_mem_cons.1 hrest
    have hend := (foldlM_last (s := initial.afterOutputs outputs) hinitial hl hlast hcs).2
      ⟨hcopies, rfl⟩
    rw [List.foldlM_append, foldlM_outputs hinitial houtputs hout, ok_bind, hend]
    simp [RunState.afterOutputs, RunState.endedBy, RunState.afterCopies, Functor.map, Except.map]

/-- An output, a completion without a payload and a copy of it. -/
theorem scopedReplay_finalOnce_sample :
    let initial : RunState := ⟨"parent", "turn-parent", "", false, false, [], [], none, ""⟩
    let events : List Event :=
      [⟨1, "parent", "turn-parent", .output, "answer"⟩,
        ⟨2, "parent", "turn-parent", .completed, ""⟩, ⟨3, "parent", "turn-parent", .completed, ""⟩]
    ((∃ r, replay events initial = .ok r) ↔ FinalOnce events) ∧
      (Outputs events → replay events initial = .ok ⟨.scoped, { initial with
        acceptedEvents := initial.acceptedEvents ++ events.map Event.sequence
        output := lastOutput initial.output events }⟩) ∧
      ∀ outputs last copies, events = outputs ++ last :: copies → Outputs outputs →
        last.kind ≠ .output → CopiesOf last copies →
        replay events initial = .ok ⟨.scoped, { initial with
          acceptedEvents :=
            initial.acceptedEvents ++ (outputs.map Event.sequence ++ [last.sequence])
          ignoredEvents := initial.ignoredEvents ++ copies.map Event.sequence
          terminal := true
          failed := if last.kind = .failed then true else initial.failed
          terminalKind := some last.kind
          terminalPayload := last.payload
          output :=
            if last.kind = .completed ∧ last.payload = "" then lastOutput initial.output outputs
            else last.payload }⟩ :=
  scopedReplay_finalOnce _ rfl _ (by decide) (by decide)

end Simulator

end ReliabilityLab
