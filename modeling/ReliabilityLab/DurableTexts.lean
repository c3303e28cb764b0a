import ReliabilityLab.DurableRefinement
import ReliabilityLab.PythonText

/-!
# The sandbox with any text

The calls of the durable sandbox, and the approval replay, on events whose texts may hold
surrogates. The replay compares texts, so it does on codes what it does on texts. The sandbox
binds the texts of an operation to SQL statements, and raises where one has a surrogate.

On texts without surrogates the calls are those of `Durable` (`perform_of_encodes`). A request
with a surrogate is refused, and so is every later call about its effect
(`feedText_eq_ok`), which the replay admits as any other. So both stop at the same event, and
agree where neither stops, just as long as the events up to which the approval law holds have no
surrogates : `sandbox_refines_iff`.
-/

set_option linter.unusedSectionVars false

open Serial Keyed

namespace ReliabilityLab

open PyText

/-! ## Events -/

/-- An event whose texts may hold surrogates. -/
structure TextEvent where
  sequence : Int
  action : ApprovalAction
  operationId : PyText
  tool : PyText
  payload : PyText

namespace TextEvent

/-- The event with the codes of its texts. -/
def code (event : TextEvent) : ApprovalEvent where
  sequence := event.sequence
  action := event.action
  operationId := event.operationId.code
  tool := event.tool.code
  payload := event.payload.code

/-- The texts of the event can be encoded. -/
def Encodes (event : TextEvent) : Prop :=
  ∀ text ∈ [event.operationId, event.tool, event.payload], text.Encodes

instance (event : TextEvent) : Decidable event.Encodes :=
  inferInstanceAs (Decidable (∀ text ∈ _, _))

theorem encodes_iff {event : TextEvent} :
    event.Encodes ↔
      event.operationId.Encodes ∧ event.tool.Encodes ∧ event.payload.Encodes := by
  simp [Encodes]

/-- Events about one effect have the same texts. -/
theorem Encodes.of_identity {a b : TextEvent} (h : a.Encodes)
    (hop : a.code.operationId = b.code.operationId) (hid : a.code.identity = b.code.identity) :
    b.Encodes := by
  obtain ⟨ho, ht, hp⟩ := encodes_iff.1 h
  obtain ⟨htool, hpayload⟩ := Prod.mk.inj hid
  exact encodes_iff.2 ⟨code_injective hop ▸ ho, code_injective htool ▸ ht,
    code_injective hpayload ▸ hp⟩

end TextEvent

namespace DurableSandbox

/-! ## The calls -/

/-- The row of an operation, which must be the same exact effect. -/
def existingText (operation : LocalOperation) (db : SandboxDb) : Except Raised OperationRow := do
  bindTexts [operation.operationId]
  existing operation db

/-- `request`, where each statement binds its texts. -/
def requestText (operation : LocalOperation) (db : SandboxDb) : SandboxDb × Except Raised Unit :=
  transaction (fun db => do
    bindTexts [operation.operationId, operation.tool, operation.payload]
    let db := insertRequest operation db
    let _ ← existingText operation db
    .ok ((), db)) db

/-- `decide`, where each statement binds its texts. -/
def decideText (operation : LocalOperation) (decision : String) (db : SandboxDb) :
    SandboxDb × Except Raised Unit :=
  match Decision.ofText? decision with
  | none => (db, .error ⟨.valueError, "decision must be approved or denied"⟩)
  | some value =>
    transaction (fun db => do
      let row ← existingText operation db
      raiseIf (∃ previous ∈ row.decision, previous ≠ value)
        ⟨.approvalConflict, "an existing decision cannot be reversed by replay"⟩
      bindTexts [decision, operation.operationId]
      .ok ((), setDecision operation.operationId value db)) db

/-- `INSERT INTO notes`. -/
def insertNoteText (row : NoteRow) (db : SandboxDb) : Except Raised SandboxDb := do
  bindTexts [row.operationId, row.payload]
  insertNote row db

/-- The row of an operation that may execute. -/
def approvedRowText (operation : LocalOperation) (db : SandboxDb) :
    Except Raised OperationRow := do
  let row ← existingText operation db
  let decision ← orRaise row.decision ⟨.approvalRequired, "an exact approval is required"⟩
  raiseIf (decision = .denied) ⟨.approvalDenied, "the exact operation was denied"⟩
  .ok row

/-- The effect and its completion mark, between the callbacks. -/
def applyEffectText (operation : LocalOperation) (checkpoint : Stage → Except Raised Unit)
    (db : SandboxDb) : Except Raised SandboxDb := do
  checkpoint .beforeEffect
  let db ← insertNoteText ⟨operation.operationId, operation.payload⟩ db
  checkpoint .afterEffect
  bindTexts [operation.operationId]
  let db := setCompleted operation.operationId db
  checkpoint .beforeCommit
  .ok db

/-- `True` for a new effect, `False` for an exact completed replay. -/
def executeText (operation : LocalOperation) (checkpoint : Stage → Except Raised Unit)
    (db : SandboxDb) : SandboxDb × Except Raised Bool :=
  let result := transaction (fun db => do
    let row ← approvedRowText operation db
    if row.completed then
      .ok (false, db)
    else do
      let db ← applyEffectText operation checkpoint db
      .ok (true, db)) db
  (result.1, do
    let fresh ← result.2
    if fresh then checkpoint .afterCommit
    .ok fresh)

/-- The sandbox as a serialised machine, its texts given by their codes. -/
def textMachine : Machine SandboxDb SandboxCall (Except Raised SandboxReply) where
  perform
    | .request operation, db =>
      ((requestText operation db).1, (fun _ => .done) <$> (requestText operation db).2)
    | .decide operation decision, db =>
      ((decideText operation decision db).1,
        (fun _ => .done) <$> (decideText operation decision db).2)
    | .execute operation checkpoint, db =>
      ((executeText operation checkpoint db).1,
        .executed <$> (executeText operation checkpoint db).2)
    | call, db => sandboxMachine.perform call db

/-- Give one event to the sandbox. -/
def feedText (state : SandboxDb × List SandboxReply) (event : TextEvent) :
    Except Raised (SandboxDb × List SandboxReply) :=
  feed textMachine state event.code

/-! ## Texts with and without surrogates -/

/-- The texts of the operation can be encoded. -/
def OperationEncodes (operation : LocalOperation) : Prop :=
  ∀ text ∈ [operation.operationId, operation.tool, operation.payload], TextEncodes text

section texts

variable {operation : LocalOperation}

theorem existingText_of_encodes (h : OperationEncodes operation) (db : SandboxDb) :
    existingText operation db = existing operation db := by
  rw [existingText, bindTexts_of_encodes (by simpa using h _ List.mem_cons_self), ok_bind]

theorem existingText_eq_ok {db : SandboxDb} {row : OperationRow} :
    existingText operation db = .ok row ↔
      TextEncodes operation.operationId ∧ existing operation db = .ok row := by
  rw [existingText, check_bind_eq_ok, bindTexts_eq_ok, List.forall_mem_singleton]

/-- A call about an operation without surrogates is the call of the sandbox on characters. -/
theorem perform_of_encodes (h : OperationEncodes operation) (event : ApprovalEvent)
    (db : SandboxDb) :
    textMachine.perform (callOf event operation) db =
      sandboxMachine.perform (callOf event operation) db := by
  have hid : bindTexts [operation.operationId] = .ok () :=
    bindTexts_of_encodes (by simpa using h _ List.mem_cons_self)
  have hrequest : requestText operation db = request operation db := by
    unfold requestText request
    simp only [existingText_of_encodes h, bindTexts_of_encodes h, ok_bind]
  have hdecide : ∀ text, TextEncodes text →
      decideText operation text db = decide operation text db := by
    intro text htext
    have hbind : bindTexts [text, operation.operationId] = .ok () := by
      refine bindTexts_of_encodes (List.forall_mem_cons.2 ⟨htext, ?_⟩)
      simpa using h _ List.mem_cons_self
    unfold decideText decide
    rcases Decision.ofText? text with _ | d
    · rfl
    · simp only [existingText_of_encodes h, hbind, ok_bind]
  have hexecute : executeText operation noCheckpoint db = execute operation noCheckpoint db := by
    have hnote : bindTexts [operation.operationId, operation.payload] = .ok () := by
      refine bindTexts_of_encodes fun text htext => h text ?_
      rcases List.mem_pair.1 htext with rfl | rfl <;> simp
    have hrow : approvedRowText operation db = approvedRow operation db := by
      rw [approvedRowText, approvedRow, existingText_of_encodes h]
    have heffect : applyEffectText operation noCheckpoint db =
        applyEffect operation noCheckpoint db := by
      simp only [applyEffectText, applyEffect, insertNoteText, hnote, hid, ok_bind]
    simp only [executeText, execute, executeInTransaction, transaction, hrow, heffect]
  rcases haction : event.action with _ | _ | _ | _ <;>
    simp only [callOf, haction, textMachine, sandboxMachine, hrequest, hexecute,
      hdecide "approved" (by decide), hdecide "denied" (by decide)]

end texts

/-! ## Feeding events -/

theorem create_fields {event : TextEvent} {operation : LocalOperation}
    (h : LocalOperation.create event.code.operationId event.code.tool event.code.payload =
      .ok operation) :
    operation.operationId = event.operationId.code ∧ operation.tool = event.tool.code ∧
      operation.payload = event.payload.code := by
  have habout : About event.code operation := about_of_create h
  obtain ⟨ht, hp⟩ := Prod.mk.inj habout.identity
  exact ⟨habout.operationId, ht, hp⟩

/-- An event without surrogates is fed as its code is to the sandbox on characters. -/
theorem feedText_of_encodes {event : TextEvent} (h : event.Encodes)
    (state : SandboxDb × List SandboxReply) :
    feedText state event = feed sandboxMachine state event.code := by
  unfold feedText feed
  rcases hop : LocalOperation.create event.code.operationId event.code.tool event.code.payload with
    e | operation
  · rfl
  · obtain ⟨ho, ht, hp⟩ := create_fields hop
    have hencodes : OperationEncodes operation := by
      simpa [OperationEncodes, ho, ht, hp, TextEvent.encodes_iff] using h
    rw [ok_bind, ok_bind, perform_of_encodes hencodes]

/-- What the sandbox takes : a request without surrogates, or a call about an effect that it has
stored. -/
theorem feedText_eq_ok {event : TextEvent} {state state' : SandboxDb × List SandboxReply}
    (h : feedText state event = .ok state') :
    (event.action = .requested → event.Encodes) ∧
      (event.action ≠ .requested → ∃ operation row, About event.code operation ∧
        existing operation state.1 = .ok row) := by
  obtain ⟨operation, hop, h⟩ := bind_eq_ok.1 h
  obtain ⟨ho, ht, hp⟩ := create_fields hop
  have habout : About event.code operation := about_of_create hop
  obtain ⟨reply, hreply, -⟩ := bind_eq_ok.1 h
  have hdecided : ∀ text, callOf event.code operation = .decide operation text →
      ∃ row, existing operation state.1 = .ok row := by
    intro text hcall
    rw [hcall] at hreply
    obtain ⟨u, hu, -⟩ := map_eq_ok.1 hreply
    unfold decideText at hu
    rcases hd : Decision.ofText? text with _ | d <;> rw [hd] at hu
    · cases hu
    · obtain ⟨row, hrow, -⟩ := bind_eq_ok.1 (transaction_eq_ok.1 hu)
      exact ⟨row, (existingText_eq_ok.1 hrow).2⟩
  refine ⟨fun haction => ?_, fun hne => ?_⟩
  · have hcall : callOf event.code operation = .request operation := by
      simp [callOf, TextEvent.code, haction]
    rw [hcall] at hreply
    obtain ⟨u, hu, -⟩ := map_eq_ok.1 hreply
    have hbind := bindTexts_eq_ok.1 (check_bind_eq_ok.1 (transaction_eq_ok.1 hu)).1
    simpa [ho, ht, hp, TextEvent.encodes_iff] using hbind
  · rcases haction : event.action with _ | _ | _ | _
    · exact absurd haction hne
    · obtain ⟨row, hrow⟩ := hdecided "approved" (by simp [callOf, TextEvent.code, haction])
      exact ⟨operation, row, habout, hrow⟩
    · obtain ⟨row, hrow⟩ := hdecided "denied" (by simp [callOf, TextEvent.code, haction])
      exact ⟨operation, row, habout, hrow⟩
    · have hcall : callOf event.code operation = .execute operation noCheckpoint := by
        simp [callOf, TextEvent.code, haction]
      rw [hcall] at hreply
      obtain ⟨fresh, hfresh, -⟩ := map_eq_ok.1 hreply
      obtain ⟨fresh, hfresh, -⟩ := bind_eq_ok.1 hfresh
      obtain ⟨row, hrow, -⟩ := bind_eq_ok.1 (transaction_eq_ok.1 hfresh)
      obtain ⟨row, hrow, -⟩ := bind_eq_ok.1 hrow
      exact ⟨operation, row, habout, (existingText_eq_ok.1 hrow).2⟩

/-! ## The refinement -/

/-- The sandbox and the replay after the same events, all without surrogates. -/
structure Follows (events : List TextEvent) (state : SandboxDb × List SandboxReply)
    (replay : ReplayState) : Prop where
  simulates : Simulates (events.map TextEvent.code) state replay
  encodes : ∀ e ∈ events, e.Encodes

/-- What the approval law asks of the texts of an event after the events `before` : an event that
it admits has no surrogates. -/
def AdmitsEncodable (before : List TextEvent) (event : TextEvent) : Prop :=
  PerOperation ((before ++ [event]).map TextEvent.code) → event.Encodes

/-- From related states an event is refused by both, or keeps the relation. -/
theorem Follows.step {events : List TextEvent} {state : SandboxDb × List SandboxReply}
    {replay : ReplayState} (h : Follows events state replay) {event : TextEvent}
    (hvalid : ValidLocal event.code) (hevent : AdmitsEncodable events event) :
    (∃ e d, replayStep replay event.code = .error e ∧ feedText state event = .error d) ∨
      ∃ replay' state', replayStep replay event.code = .ok replay' ∧
        feedText state event = .ok state' ∧ Follows (events ++ [event]) state' replay' := by
  by_cases hencodes : event.Encodes
  · rw [feedText_of_encodes hencodes]
    rcases h.simulates.step hvalid with ⟨e, d, hfeed, hstep⟩ | ⟨state', replay', hfeed, hstep, hs⟩
    · exact Or.inl ⟨d, e, hstep, hfeed⟩
    · refine Or.inr ⟨replay', state', hstep, hfeed, by rwa [List.map_append], ?_⟩
      rw [List.forall_mem_append, List.forall_mem_singleton]
      exact ⟨h.encodes, hencodes⟩
  · obtain ⟨e, he⟩ := exists_error_of_ne_ok (x := replayStep replay event.code) fun t ht => by
      refine hencodes (hevent (foldlM_replayStep_iff.1 ⟨t, ?_⟩))
      rw [List.map_append, List.map_singleton]
      exact h.simulates.replayed_step ht
    obtain ⟨d, hd⟩ := exists_error_of_ne_ok (x := feedText state event) fun state' hstate' => by
      obtain ⟨hrequest, hother⟩ := feedText_eq_ok hstate'
      by_cases haction : event.action = .requested
      · exact hencodes (hrequest haction)
      -- the effect was requested before, in an event without surrogates
      · obtain ⟨operation, row, habout, hrow⟩ := hother haction
        have hget := (h.simulates.existing_iff habout).2 ⟨row, hrow⟩
        have hrequests := (remembers_foldlM h.simulates.replayed).requests
        obtain ⟨⟨b, hb, hop⟩, hidentity⟩ := hrequests.get?_eq.1 hget
        obtain ⟨a, ha, rfl⟩ := List.mem_map.1 hb
        exact hencodes ((h.encodes a ha).of_identity hop (hidentity _ hb hop))
    exact Or.inl ⟨e, d, he, hd⟩

/-- The sandbox stops at event `k` exactly if the replay raises while it processes event `k`. If
the replay gives a result, the sandbox does not stop; its notes are the executed ids, each with
the payload first requested for it, its decisions are those of the result, and an execution was
replied to with `True` exactly if it is the first of its id. -/
structure Refines (events : List TextEvent) : Prop where
  stops : ∀ k, stopsAt feedText (.empty, []) events = some k ↔
    (∃ result, replayApproval ((events.take k).map TextEvent.code) = .ok result) ∧
      ∃ e, replayApproval ((events.take (k + 1)).map TextEvent.code) = .error e
  result : ∀ result, replayApproval (events.map TextEvent.code) = .ok result →
    ∃ db replies, events.foldlM feedText (.empty, []) = .ok (db, replies) ∧
      (∀ i, (∃ payload, (i, payload) ∈ notes db) ↔ i ∈ result.executed) ∧
      (∀ i payload, (i, payload) ∈ notes db →
        ∃ e, firstRequest (events.map TextEvent.code) i = some e ∧ e.payload = payload) ∧
      (∀ i, (∃ row, db.operations.find? i = some row ∧ row.decision = some .approved) ↔
        i ∈ result.approved) ∧
      (∀ i, (∃ row, db.operations.find? i = some row ∧ row.decision = some .denied) ↔
        i ∈ result.denied) ∧
      ∀ k event, events[k]? = some event → event.action = .execute →
        (replies[k]? = some (.executed true) ↔
          ¬Executed ((events.take k).map TextEvent.code) event.operationId.code)

section refines

variable {events : List TextEvent}

theorem refines_of_encodes (hseq : events.Pairwise fun a b => a.sequence < b.sequence)
    (hvalid : ∀ event ∈ events, ValidLocal event.code)
    (hencodes : EachAfter AdmitsEncodable [] events) : Refines events := by
  have hseq' : (events.map TextEvent.code).Pairwise fun a b => a.sequence < b.sequence :=
    List.pairwise_map.2 hseq
  obtain ⟨hstop, hrun⟩ := foldlM_lockstep
    (J := fun es replay state => Follows es state replay)
    (f := fun replay event => replayStep replay event.code) (g := feedText)
    (p := fun before event => ValidLocal event.code ∧ AdmitsEncodable before event)
    (fun _ _ _ _ h hevent => h.step hevent.1 hevent.2)
    ⟨simulates_start, by simp⟩
    (fun pre event post hsplit => ⟨hvalid event (by simp [hsplit]), hencodes pre event post hsplit⟩)
  refine ⟨fun k => ?_, fun result hresult => ?_⟩
  · rw [← hstop, ← stopsAt_map, replayApproval_stopsAt hseq', List.map_take, List.map_take]
  · obtain ⟨-, replay, hreplay, rfl⟩ := replayApproval_eq_ok.1 hresult
    rw [List.foldlM_map] at hreplay
    obtain ⟨⟨db, replies⟩, hfeed, h, -⟩ := hrun replay hreplay
    refine ⟨db, replies, hfeed, fun i => ?_, fun i payload hi => (h.mem_notes.1 hi).2, fun i => ?_,
      fun i => ?_, fun k event hk haction => ?_⟩
    · refine ⟨fun ⟨payload, hi⟩ => (h.mem_notes.1 hi).1, fun hi => ?_⟩
      obtain ⟨row, hrow, hc⟩ := (h.executed i).1 hi
      exact ⟨row.payload, DurableSandbox.mem_notes.2 (h.wellFormed.completed i row hrow hc).2⟩
    · rw [ReplayState.mem_approved, ← h.decision_iff]
      rfl
    · rw [ReplayState.mem_denied, ← h.decision_iff]
      rfl
    · rw [List.map_take]
      exact h.replies.first k event.code (by rw [List.getElem?_map, hk]; rfl) haction

/-- The requests that the sandbox took have no surrogates. -/
theorem requests_encode {state : SandboxDb × List SandboxReply}
    (h : events.foldlM feedText (.empty, []) = .ok state) :
    ∀ e ∈ events, e.action = .requested → e.Encodes := by
  refine foldlM_invariant (J := fun es _ => ∀ e ∈ es, e.action = .requested → e.Encodes)
    (by simp) (fun es event s s' hes hs => ?_) h
  rw [List.forall_mem_append, List.forall_mem_singleton]
  exact ⟨hes, (feedText_eq_ok hs).1⟩

/-- A list that the approval law admits is taken by the sandbox, if the sandbox stops only where
the replay raises. -/
theorem Refines.passes (h : Refines events)
    (hseq : events.Pairwise fun a b => a.sequence < b.sequence) {pre post : List TextEvent}
    (hsplit : events = pre ++ post) (hpre : PerOperation (pre.map TextEvent.code)) :
    ∃ state, pre.foldlM feedText (.empty, []) = .ok state := by
  induction pre using List.reverseRecOn generalizing post with
  | nil => exact ⟨_, rfl⟩
  | append_singleton pre event ih =>
    have htake : events.take pre.length = pre := by simp [hsplit]
    have htake' : events.take (pre.length + 1) = pre ++ [event] := by
      have hlength : pre.length + 1 = (pre ++ [event]).length := by simp
      rw [hsplit, hlength, List.take_left']
      rfl
    by_contra hnone
    push Not at hnone
    obtain ⟨e, he⟩ := exists_error_of_ne_ok hnone
    have hstop : stopsAt feedText (.empty, []) events = some pre.length := by
      refine stopsAt_eq_some_iff_take.2 ⟨?_, e, by rw [htake', he]⟩
      rw [htake]
      have hsplit' : events = pre ++ event :: post := by
        rw [hsplit, List.append_assoc]
        rfl
      refine ih hsplit' ?_
      rw [List.map_append] at hpre
      exact hpre.of_concat
    obtain ⟨-, d, hd⟩ := (h.stops pre.length).1 hstop
    obtain ⟨result, hresult⟩ := replayApproval_returns_iff.2
      ⟨List.pairwise_map.2 (hseq.sublist (List.take_sublist (pre.length + 1) events)),
        by rw [htake']; exact hpre⟩
    rw [hresult] at hd
    cases hd

theorem Refines.encodes (h : Refines events)
    (hseq : events.Pairwise fun a b => a.sequence < b.sequence) :
    EachAfter AdmitsEncodable [] events := by
  intro pre event post hsplit hlaw
  have hlaw' : PerOperation (pre.map TextEvent.code ++ [event.code]) := by
    rwa [List.nil_append, List.map_append] at hlaw
  have hsplit' : events = (pre ++ [event]) ++ post := by
    rw [hsplit, List.append_assoc]
    rfl
  obtain ⟨state, hstate⟩ := h.passes hseq hsplit' hlaw
  have hrequests := requests_encode hstate
  by_cases haction : event.action = .requested
  · exact hrequests event (by simp) haction
  -- the request of the operation comes before, and is about the same effect
  · obtain ⟨i, r, hi, hr, hop, hrequested⟩ := hlaw'.exists_request (k := pre.length)
      (a := event.code) (by simp) haction
    have hrpre : r ∈ pre.map TextEvent.code := by
      rw [List.getElem?_append_left (by simpa using hi)] at hr
      exact List.mem_of_getElem? hr
    obtain ⟨a, ha, rfl⟩ := List.mem_map.1 hrpre
    exact (hrequests a (by simp [ha]) hrequested).of_identity hop
      (hlaw'.identity _ (List.mem_append_left _ hrpre) _ (by simp) hop)

end refines

/-- On every ordered list of events about valid local operations, the sandbox refines the replay
if and only if no event has a surrogate up to which the list keeps the approval law. -/
theorem sandbox_refines_iff (events : List TextEvent)
    (hseq : events.Pairwise fun a b => a.sequence < b.sequence)
    (hvalid : ∀ event ∈ events, ValidLocal event.code) :
    Refines events ↔ EachAfter AdmitsEncodable [] events :=
  ⟨fun h => h.encodes hseq, refines_of_encodes hseq hvalid⟩

/-- An event about a note without surrogates. -/
def noteEvent (sequence : Int) (action : ApprovalAction) (payload : PyText) : TextEvent :=
  ⟨sequence, action, scalars "op-1", scalars "record_note", payload⟩

theorem validLocal_noteEvent (sequence : Int) (action : ApprovalAction) (payload : PyText) :
    ValidLocal (noteEvent sequence action payload).code := by
  have hop : (scalars "op-1").code = "op-1" := by decide
  have htool : (scalars "record_note").code = "record_note" := by decide
  refine ⟨⟨"op-1", "record_note", payload.code, by decide, rfl⟩, ?_⟩
  rw [noteEvent, TextEvent.code, hop, htool]
  show LocalOperation.create "op-1" "record_note" payload.code = _
  rw [LocalOperation.create, dif_neg (by decide), dif_neg (by decide)]

/-- A request, its approval and two executions, then a request of the same id for a surrogate,
which both refuse. -/
theorem sandbox_refines_iff_sample :
    Refines [noteEvent 1 .requested (scalars "a note"), noteEvent 2 .approved (scalars "a note"),
      noteEvent 3 .execute (scalars "a note"), noteEvent 4 .execute (scalars "a note"),
      noteEvent 5 .requested [.surrogate 0]] := by
  refine (sandbox_refines_iff _ (by decide) fun event hevent => ?_).2 ?_
  · simp only [List.mem_cons, List.not_mem_nil, or_false] at hevent
    rcases hevent with rfl | rfl | rfl | rfl | rfl <;> exact validLocal_noteEvent _ _ _
  · have htexts : ∀ text ∈ [scalars "op-1", scalars "record_note", scalars "a note"],
        text.Encodes := by decide
    have hencodes : ∀ sequence action, (noteEvent sequence action (scalars "a note")).Encodes :=
      fun _ _ => htexts
    simp only [eachAfter_cons, eachAfter_nil, and_true]
    refine ⟨fun _ => hencodes 1 _, fun _ => hencodes 2 _, fun _ => hencodes 3 _,
      fun _ => hencodes 4 _, fun hlaw => ?_⟩
    have hidentity := hlaw.identity (noteEvent 1 .requested (scalars "a note")).code (by simp)
      (noteEvent 5 .requested [.surrogate 0]).code (by simp) rfl
    exact absurd hidentity (by decide)

/-- The replay takes the request of a note that is a lone surrogate, and the sandbox raises. -/
theorem surrogateNote_raises :
    (∃ result, replayApproval [(noteEvent 1 .requested [.surrogate 0]).code] = .ok result) ∧
      feedText (.empty, []) (noteEvent 1 .requested [.surrogate 0]) =
        .error surrogatesNotAllowed ∧
      ¬∀ events : List TextEvent, (events.Pairwise fun a b => a.sequence < b.sequence) →
        (∀ event ∈ events, ValidLocal event.code) → Refines events := by
  have hreplay : ∃ result,
      replayApproval [(noteEvent 1 .requested [.surrogate 0]).code] = .ok result :=
    ⟨⟨[], [], []⟩, by decide⟩
  have hfeed : feedText (.empty, []) (noteEvent 1 .requested [.surrogate 0]) =
      .error surrogatesNotAllowed := by
    obtain ⟨operation, hop⟩ := validLocal_noteEvent 1 .requested [.surrogate 0]
    have hpayload : ¬TextEncodes operation.payload := by
      rw [(create_fields hop).2.2]
      decide
    refine feed_of_error hop (map_eq_error.2 (congrArg Prod.snd (transaction_of_error ?_)))
    rw [bindTexts_of_not (by simp) hpayload, error_bind]
  refine ⟨hreplay, hfeed, fun h => ?_⟩
  have hrefines := h [noteEvent 1 .requested [.surrogate 0]] (by decide)
    (List.forall_mem_singleton.2 (validLocal_noteEvent _ _ _))
  obtain ⟨-, e, he⟩ := (hrefines.stops 0).1 (stopsAt_cons_of_error hfeed [])
  obtain ⟨result, hresult⟩ := hreplay
  cases hresult.symm.trans he

end DurableSandbox

end ReliabilityLab
