import ReliabilityLab.ApprovalLanguage
import ReliabilityLab.DurableEffects

/-!
# The sandbox refines the approval replay

Two implementations of one approval law : `replayApproval` folds a list of events over
two dictionaries and a list, the durable sandbox keeps a table with a nullable decision
and a completion mark. `feed` gives one event to the sandbox, and `Simulates` is the
relation between the two states : the row of an id holds its request, its decision and
whether it was executed.

From related states an event is refused by both or keeps the relation
(`Simulates.step`), and what the sandbox holds at the end is what the replay says
(`Simulates.mem_notes`, `Simulates.decision_iff`).
-/

set_option linter.unusedSectionVars false

open Serial Keyed

namespace ReliabilityLab

/-- The action that takes a decision. -/
def Decision.action : Decision → ApprovalAction
  | .approved => .approved
  | .denied => .denied

theorem Decision.action_inj {a b : Decision} (h : a.action = b.action) : a = b := by
  cases a <;> cases b <;> first | rfl | cases h

namespace DurableSandbox

/-! ## Feeding events -/

/-- The call of the sandbox for an event about `operation`. -/
def callOf (event : ApprovalEvent) (operation : LocalOperation) : SandboxCall :=
  match event.action with
  | .requested => .request operation
  | .approved => .decide operation "approved"
  | .denied => .decide operation "denied"
  | .execute => .execute operation noCheckpoint

/-- Give one event to a sandbox. The state is the database with the replies so far; an
exception of the call is raised. -/
def feed (sandbox : Machine SandboxDb SandboxCall (Except Raised SandboxReply))
    (state : SandboxDb × List SandboxReply) (event : ApprovalEvent) :
    Except Raised (SandboxDb × List SandboxReply) := do
  let operation ← LocalOperation.create event.operationId event.tool event.payload
  let (db, reply) := sandbox.perform (callOf event operation) state.1
  let reply ← reply
  .ok (db, state.2 ++ [reply])

/-- The event is about a valid local operation. -/
def ValidLocal (event : ApprovalEvent) : Prop :=
  ∃ operation, LocalOperation.create event.operationId event.tool event.payload = .ok operation

/-- The operation an event is about. -/
structure About (event : ApprovalEvent) (operation : LocalOperation) : Prop where
  operationId : operation.operationId = event.operationId
  identity : (operation.tool, operation.payload) = event.identity

theorem about_of_create {event : ApprovalEvent} {operation : LocalOperation}
    (h : LocalOperation.create event.operationId event.tool event.payload = .ok operation) :
    About event operation := by
  unfold LocalOperation.create at h
  split_ifs at h
  obtain rfl := Except.ok.inj h
  exact ⟨rfl, rfl⟩

theorem feed_of_ok
    {sandbox : Machine SandboxDb SandboxCall (Except Raised SandboxReply)} {event : ApprovalEvent}
    {operation : LocalOperation}
    (hop : LocalOperation.create event.operationId event.tool event.payload = .ok operation)
    {state : SandboxDb × List SandboxReply} {db : SandboxDb} {reply : SandboxReply}
    (h : sandbox.perform (callOf event operation) state.1 = (db, .ok reply)) :
    feed sandbox state event = .ok (db, state.2 ++ [reply]) := by
  rw [feed, hop, ok_bind, h]
  rfl

theorem feed_of_error
    {sandbox : Machine SandboxDb SandboxCall (Except Raised SandboxReply)} {event : ApprovalEvent}
    {operation : LocalOperation}
    (hop : LocalOperation.create event.operationId event.tool event.payload = .ok operation)
    {state : SandboxDb × List SandboxReply} {e : Raised}
    (h : (sandbox.perform (callOf event operation) state.1).2 = .error e) :
    feed sandbox state event = .error e := by
  rw [feed, hop, ok_bind]
  simp only [h, error_bind]

/-! ## The relation -/

/-- An execution is replied to with `True` exactly if it is the first of its id. -/
structure Replies (events : List ApprovalEvent) (replies : List SandboxReply) : Prop where
  length : replies.length = events.length
  first : ∀ k event, events[k]? = some event → event.action = .execute →
    (replies[k]? = some (.executed true) ↔ ¬Executed (events.take k) event.operationId)

/-- The row of an id holds what the replay knows of it. -/
structure Simulates (events : List ApprovalEvent) (state : SandboxDb × List SandboxReply)
    (replay : ReplayState) : Prop where
  wellFormed : WellFormed state.1
  replayed : events.foldlM replayStep .start = .ok replay
  requests : ∀ i, replay.requests.get? i =
    (state.1.operations.find? i).map fun row => (row.tool, row.payload)
  decisions : ∀ i, replay.decisions.get? i =
    (state.1.operations.find? i).bind fun row => row.decision.map Decision.action
  executed : ∀ i, i ∈ replay.executed ↔
    ∃ row, state.1.operations.find? i = some row ∧ row.completed = true
  replies : Replies events state.2

theorem simulates_start : Simulates [] (.empty, []) .start :=
  ⟨wellFormed_empty, rfl, fun _ => rfl, fun _ => rfl,
    fun i => by simp [ReplayState.start, SandboxDb.empty], rfl, fun k e h => by simp at h⟩

theorem Replies.concat {events : List ApprovalEvent} {replies : List SandboxReply}
    {event : ApprovalEvent} {reply : SandboxReply} (h : Replies events replies)
    (hreply : event.action = .execute →
      (reply = .executed true ↔ ¬Executed events event.operationId)) :
    Replies (events ++ [event]) (replies ++ [reply]) := by
  refine ⟨by simp [h.length], fun k e he haction => ?_⟩
  rcases getElem?_concat_eq_some.1 he with hk | ⟨rfl, rfl⟩
  · have hlt : k < events.length := (List.getElem?_eq_some_iff.1 hk).1
    rw [List.getElem?_append_left (h.length ▸ hlt), List.take_append_of_le_length hlt.le]
    exact h.first k e hk haction
  · rw [← h.length, List.getElem?_concat_length, h.length, List.take_left, Option.some.injEq]
    exact hreply haction

theorem Simulates.replayed_step {events : List ApprovalEvent}
    {state : SandboxDb × List SandboxReply} {replay replay' : ReplayState}
    (h : Simulates events state replay) {event : ApprovalEvent}
    (ht : replayStep replay event = .ok replay') :
    (events ++ [event]).foldlM replayStep .start = .ok replay' := by
  rw [foldlM_concat, h.replayed, ok_bind, ht]

theorem Simulates.executed_iff {events : List ApprovalEvent}
    {state : SandboxDb × List SandboxReply} {replay : ReplayState}
    (h : Simulates events state replay) {i : String} :
    i ∈ replay.executed ↔ Executed events i := by
  rw [(remembers_foldlM h.replayed).executed, mem_executedIds]

/-- The requested effect is the event's exactly if the sandbox finds the operation. -/
theorem Simulates.existing_iff {events : List ApprovalEvent}
    {state : SandboxDb × List SandboxReply} {replay : ReplayState}
    (h : Simulates events state replay) {event : ApprovalEvent} {operation : LocalOperation}
    (hop : About event operation) :
    replay.requests.get? event.operationId = some event.identity ↔
      ∃ row, existing operation state.1 = .ok row := by
  rw [h.requests, ← hop.operationId, ← hop.identity, Option.map_eq_some_iff]
  simp only [existing_eq_ok, Prod.mk.injEq]
  constructor
  · rintro ⟨row, hrow, ht, hp⟩
    exact ⟨row, hrow, ht, hp⟩
  · rintro ⟨row, hrow, hs⟩
    exact ⟨row, hrow, hs.tool, hs.payload⟩

/-- The decision of a row. -/
theorem Simulates.decision_of_row {events : List ApprovalEvent}
    {state : SandboxDb × List SandboxReply} {replay : ReplayState}
    (h : Simulates events state replay) {event : ApprovalEvent} {operation : LocalOperation}
    (hop : About event operation) {row : OperationRow}
    (hrow : state.1.operations.find? operation.operationId = some row) :
    replay.decisions.get? event.operationId = row.decision.map Decision.action := by
  rw [h.decisions, ← hop.operationId, hrow, Option.bind_some]

/-! ## One event -/

/-- Both raise, or both go on and are related again. -/
def Agree (events : List ApprovalEvent) (state : SandboxDb × List SandboxReply)
    (replay : ReplayState) (event : ApprovalEvent) : Prop :=
  (∃ e d, feed sandboxMachine state event = .error e ∧ replayStep replay event = .error d) ∨
    ∃ state' replay', feed sandboxMachine state event = .ok state' ∧
      replayStep replay event = .ok replay' ∧ Simulates (events ++ [event]) state' replay'

section step

variable {events : List ApprovalEvent} {state : SandboxDb × List SandboxReply}
  {replay : ReplayState} {event : ApprovalEvent} {operation : LocalOperation}

theorem Simulates.step_requested (h : Simulates events state replay)
    (hop : LocalOperation.create event.operationId event.tool event.payload = .ok operation)
    (haction : event.action = .requested) : Agree events state replay event := by
  have habout := about_of_create hop
  have hreplies : Replies (events ++ [event]) (state.2 ++ [.done]) :=
    h.replies.concat fun hx => by simp [haction] at hx
  have hcall : callOf event operation = .request operation := by simp [callOf, haction]
  rcases request_cases operation state.1 with ⟨db', hreq, hdb⟩ | ⟨row, hrow, hdb⟩ |
    ⟨row, e, hrow, hne, hdb⟩
  · have hnone : replay.requests.get? event.operationId = none := by
      rw [h.requests, ← habout.operationId, hreq.absent, Option.map_none]
    have ht := (replayStep_requested_eq_ok haction).2 (Or.inl ⟨hnone, rfl⟩)
    have hfeed : feed sandboxMachine state event = .ok (db', state.2 ++ [.done]) :=
      feed_of_ok hop (by rw [hcall]; simp only [sandboxMachine, hdb]; rfl)
    refine Or.inr ⟨_, _, hfeed, ht, h.wellFormed.requests hreq, h.replayed_step ht, fun i => ?_,
      fun i => ?_, fun i => ?_, hreplies⟩
    · rw [Dict.get?_set, hreq.operations, ← habout.operationId]
      split_ifs with hi
      · rw [← habout.identity]
        rfl
      · exact h.requests i
    · rw [hreq.operations]
      split_ifs with hi
      · rw [h.decisions, hi, hreq.absent]
        rfl
      · exact h.decisions i
    · rw [hreq.operations, h.executed]
      split_ifs with hi
      · simp [hi, hreq.absent, requestRow]
      · rfl
  · have ht := (replayStep_requested_eq_ok haction).2
      (Or.inr ⟨(h.existing_iff habout).2 ⟨row, hrow⟩, rfl⟩)
    have hfeed : feed sandboxMachine state event = .ok (state.1, state.2 ++ [.done]) :=
      feed_of_ok hop (by rw [hcall]; simp only [sandboxMachine, hdb]; rfl)
    exact Or.inr ⟨_, _, hfeed, ht, h.wellFormed, h.replayed_step ht, h.requests, h.decisions,
      h.executed, hreplies⟩
  · obtain ⟨d, hd⟩ := exists_error_of_ne_ok (x := replayStep replay event) fun t ht => by
      rcases (replayStep_requested_eq_ok haction).1 ht with ⟨hnone, -⟩ | ⟨hsome, -⟩
      · rw [h.requests, ← habout.operationId, hrow] at hnone
        cases hnone
      · obtain ⟨r, hr⟩ := (h.existing_iff habout).1 hsome
        obtain ⟨hr, hs⟩ := existing_eq_ok.1 hr
        exact hne (Option.some.inj (hrow.symm.trans hr) ▸ hs)
    exact Or.inl ⟨e, d, feed_of_error hop (by rw [hcall]; simp only [sandboxMachine, hdb]; rfl), hd⟩

theorem Simulates.step_decided (h : Simulates events state replay)
    (hop : LocalOperation.create event.operationId event.tool event.payload = .ok operation)
    (text : String) (d : Decision) (htext : Decision.ofText? text = some d)
    (hcall : callOf event operation = .decide operation text)
    (haction : event.action = d.action) : Agree events state replay event := by
  have habout := about_of_create hop
  have hdecision : event.action = .approved ∨ event.action = .denied := by
    rcases d with _ | _
    · exact Or.inl haction
    · exact Or.inr haction
  have hreplies : Replies (events ++ [event]) (state.2 ++ [.done]) :=
    h.replies.concat fun hx => by
      rcases hdecision with ha | ha <;> simp [ha] at hx
  rcases decide_cases operation text state.1 with ⟨row, d', hd', hdec, hdb⟩ | ⟨e, hdb, hcause⟩
  · obtain rfl := Option.some.inj (htext.symm.trans hd')
    obtain ⟨hrow, -⟩ := existing_eq_ok.1 hdec.existing
    have hagrees : ∀ a, replay.decisions.get? event.operationId = some a → a = event.action := by
      intro a ha
      rw [h.decision_of_row habout hrow] at ha
      obtain ⟨d', hd', rfl⟩ := Option.map_eq_some_iff.1 ha
      rw [hdec.agrees d' hd', haction]
    have ht := (replayStep_decision_eq_ok hdecision).2
      ⟨(h.existing_iff habout).2 ⟨row, hdec.existing⟩, hagrees, rfl⟩
    have hfeed : feed sandboxMachine state event =
        .ok (setDecision operation.operationId d state.1, state.2 ++ [.done]) :=
      feed_of_ok hop (by rw [hcall]; simp only [sandboxMachine, hdb]; rfl)
    refine Or.inr ⟨_, _, hfeed, ht, h.wellFormed.decides hdec, h.replayed_step ht, fun i => ?_,
      fun i => ?_, fun i => ?_, hreplies⟩
    · rw [hdec.operations, h.requests]
      split_ifs with hi
      · rw [hi, hrow]
        rfl
      · rfl
    · rw [Dict.get?_set, hdec.operations, ← habout.operationId]
      split_ifs with hi
      · rw [haction]
        rfl
      · exact h.decisions i
    · rw [hdec.operations, h.executed]
      split_ifs with hi
      · simp [hi, hrow]
      · rfl
  · obtain ⟨e', he'⟩ := exists_error_of_ne_ok (x := replayStep replay event) fun t ht => by
      obtain ⟨hreq, hagrees, -⟩ := (replayStep_decision_eq_ok hdecision).1 ht
      obtain ⟨row, hex⟩ := (h.existing_iff habout).1 hreq
      obtain ⟨d', hd', hne⟩ := hcause row d htext hex
      have ha := hagrees d'.action (by
        rw [h.decision_of_row habout (existing_eq_ok.1 hex).1, hd', Option.map_some])
      exact hne (Decision.action_inj (ha.trans haction))
    exact Or.inl
      ⟨e, e', feed_of_error hop (by rw [hcall]; simp only [sandboxMachine, hdb]; rfl), he'⟩

/-- The replay lets an execution pass exactly if the sandbox finds its row approved. -/
theorem Simulates.approved_iff (h : Simulates events state replay)
    (habout : About event operation) :
    (replay.requests.get? event.operationId = some event.identity ∧
        ∃ a, replay.decisions.get? event.operationId = some a ∧ a ≠ .denied) ↔
      ∃ row, approvedRow operation state.1 = .ok row := by
  rw [h.existing_iff habout]
  simp only [approvedRow_eq_ok]
  refine ⟨?_, ?_⟩
  · rintro ⟨⟨row, hex⟩, a, ha, hne⟩
    rw [h.decision_of_row habout (existing_eq_ok.1 hex).1] at ha
    obtain ⟨d, hd, rfl⟩ := Option.map_eq_some_iff.1 ha
    rcases d with _ | _
    · exact ⟨row, hex, hd⟩
    · exact absurd rfl hne
  · rintro ⟨row, hex, hd⟩
    refine ⟨⟨row, hex⟩, .approved, ?_, by decide⟩
    rw [h.decision_of_row habout (existing_eq_ok.1 hex).1, hd]
    rfl

theorem Simulates.step_executed (h : Simulates events state replay)
    (hop : LocalOperation.create event.operationId event.tool event.payload = .ok operation)
    (haction : event.action = .execute) : Agree events state replay event := by
  have habout := about_of_create hop
  have hcall : callOf event operation = .execute operation noCheckpoint := by
    simp [callOf, haction]
  have hpass := h.approved_iff habout
  have hold : ∀ row, approvedRow operation state.1 = .ok row →
      (event.operationId ∈ replay.executed ↔ row.completed = true) := by
    intro row happ
    have hrow := (existing_eq_ok.1 (approvedRow_eq_ok.1 happ).1).1
    rw [h.executed, ← habout.operationId, hrow]
    simp
  rcases execute_cases operation noCheckpoint state.1 with
    ⟨e, hdb, hcause⟩ | ⟨row, happ, hc, hdb⟩ | ⟨row, db', hexec, hdb⟩
  · have happ : ∀ row, approvedRow operation state.1 ≠ .ok row := by
      rintro row happ
      rcases hcause with herr | ⟨row', happ', hpending, ⟨stage, hstage⟩ | hnote⟩
      · rw [happ] at herr
        cases herr
      · cases hstage
      · exact hnote (h.wellFormed.fresh_of_pending happ' hpending)
    obtain ⟨d, hd⟩ := exists_error_of_ne_ok (x := replayStep replay event) fun t ht => by
      obtain ⟨hreq, hdec, -⟩ := (replayStep_execute_eq_ok haction).1 ht
      obtain ⟨row, hrow⟩ := hpass.1 ⟨hreq, hdec⟩
      exact happ row hrow
    exact Or.inl ⟨e, d, feed_of_error hop (by rw [hcall]; simp only [sandboxMachine, hdb]; rfl), hd⟩
  · have hmem := (hold row happ).2 hc
    obtain ⟨hreq, hdec⟩ := hpass.2 ⟨row, happ⟩
    have ht := (replayStep_execute_eq_ok haction).2 ⟨hreq, hdec, rfl⟩
    rw [if_pos hmem] at ht
    have hfeed : feed sandboxMachine state event = .ok (state.1, state.2 ++ [.executed false]) :=
      feed_of_ok hop (by rw [hcall]; simp only [sandboxMachine, hdb]; rfl)
    refine Or.inr ⟨_, _, hfeed, ht, h.wellFormed, h.replayed_step ht, h.requests, h.decisions,
      h.executed, h.replies.concat fun _ => ?_⟩
    simp [← h.executed_iff, hmem]
  · have hrow := (existing_eq_ok.1 (approvedRow_eq_ok.1 hexec.approved).1).1
    have hmem : event.operationId ∉ replay.executed := by
      rw [hold row hexec.approved, hexec.pending]
      simp
    obtain ⟨hreq, hdec⟩ := hpass.2 ⟨row, hexec.approved⟩
    have ht := (replayStep_execute_eq_ok haction).2 ⟨hreq, hdec, rfl⟩
    rw [if_neg hmem] at ht
    have hfeed : feed sandboxMachine state event = .ok (db', state.2 ++ [.executed true]) :=
      feed_of_ok hop (by rw [hcall]; simp only [sandboxMachine, hdb]; rfl)
    refine Or.inr ⟨_, _, hfeed, ht, h.wellFormed.executes hexec, h.replayed_step ht, fun i => ?_,
      fun i => ?_, fun i => ?_, h.replies.concat fun _ => ?_⟩
    · rw [hexec.operations, h.requests]
      split_ifs with hi
      · rw [hi, hrow]
        rfl
      · rfl
    · rw [hexec.operations, h.decisions]
      split_ifs with hi
      · rw [hi, hrow]
        rfl
      · rfl
    · rw [hexec.operations, List.mem_append, List.mem_singleton, h.executed, habout.operationId]
      split_ifs with hi
      · simp [hi]
      · simp [hi]
    · simp [← h.executed_iff, hmem]

/-- From related states an event is refused by both or keeps the relation. -/
theorem Simulates.step (h : Simulates events state replay) (hevent : ValidLocal event) :
    Agree events state replay event := by
  obtain ⟨operation, hop⟩ := hevent
  rcases haction : event.action with _ | _ | _ | _
  · exact h.step_requested hop haction
  · exact h.step_decided hop "approved" .approved (by decide)
      (by simp [callOf, haction]) haction
  · exact h.step_decided hop "denied" .denied (by decide)
      (by simp [callOf, haction]) haction
  · exact h.step_executed hop haction

end step

/-! ## All events -/

theorem mem_notes {db : SandboxDb} {i payload : String} :
    (i, payload) ∈ notes db ↔ db.notes.find? i = some ⟨i, payload⟩ := by
  rw [Table.find?_eq_some_iff]
  simp only [notes, List.mem_map, List.mem_insertionSort, Prod.mk.injEq]
  refine ⟨?_, fun h => ⟨_, h.1, rfl, rfl⟩⟩
  rintro ⟨⟨i', payload'⟩, h, rfl, rfl⟩
  exact ⟨h, trivial⟩

/-- The notes are the executed ids with the payloads first requested for them. -/
theorem Simulates.mem_notes {events : List ApprovalEvent}
    {state : SandboxDb × List SandboxReply} {replay : ReplayState}
    (h : Simulates events state replay) {i payload : String} :
    (i, payload) ∈ notes state.1 ↔
      i ∈ replay.executed ∧ ∃ e, firstRequest events i = some e ∧ e.payload = payload := by
  have hfirst := requests_of_foldlM h.replayed i
  rw [DurableSandbox.mem_notes, h.executed]
  refine ⟨fun hnote => ?_, ?_⟩
  · obtain ⟨row, hrow, hc⟩ := h.wellFormed.noted i _ hnote
    have hpayload := (h.wellFormed.completed i row hrow hc).2
    rw [hnote, Option.some.injEq, NoteRow.mk.injEq] at hpayload
    rw [h.requests, hrow, Option.map_some, eq_comm, Option.map_eq_some_iff] at hfirst
    obtain ⟨e, he, hid⟩ := hfirst
    exact ⟨⟨row, hrow, hc⟩, e, he, (Prod.mk.inj hid).2.trans hpayload.2.symm⟩
  · rintro ⟨⟨row, hrow, hc⟩, e, he, rfl⟩
    rw [h.requests, hrow, he, Option.map_some, Option.map_some, Option.some.injEq] at hfirst
    rw [(h.wellFormed.completed i row hrow hc).2, (Prod.mk.inj hfirst).2]

/-- A decision of the replay is that of the row. -/
theorem Simulates.decision_iff {events : List ApprovalEvent}
    {state : SandboxDb × List SandboxReply} {replay : ReplayState}
    (h : Simulates events state replay) {i : String} {d : Decision} :
    replay.decisions.get? i = some d.action ↔
      ∃ row, state.1.operations.find? i = some row ∧ row.decision = some d := by
  rw [h.decisions, Option.bind_eq_some_iff]
  simp only [Option.map_eq_some_iff]
  constructor
  · rintro ⟨row, hrow, d', hd', heq⟩
    exact ⟨row, hrow, Decision.action_inj heq ▸ hd'⟩
  · rintro ⟨row, hrow, hd⟩
    exact ⟨row, hrow, d, hd, rfl⟩

end DurableSandbox

end ReliabilityLab
