import ReliabilityLab.ApprovalLanguage
import ReliabilityLab.Interleavings

/-!
# Interleaved approvals

The outcome of an operation in a replay is that of its own events, whatever the events of
other operations between them. What an event asks of those before it is about the events of
its own operation (`asksOwn_admits`) and about all they say but their sequence numbers
(`asksImages_admits`), so a replay passes just when it passes on every operation's history,
and what it collects of an operation is read off that history (`mem_of_replayApproval`).
-/

open Serial Keyed

namespace ReliabilityLab

/-- What an event says apart from its place. -/
def ApprovalEvent.content (event : ApprovalEvent) :
    ApprovalAction × String × String × String :=
  (event.action, event.operationId, event.tool, event.payload)

/-- The events of one operation. -/
abbrev operationHistory (operationId : String) (events : List ApprovalEvent) :
    List ApprovalEvent :=
  historyOf ApprovalEvent.operationId operationId events

/-- The operation `i` has an event of the action `action`. -/
def HasAction (action : ApprovalAction) (i : String) (events : List ApprovalEvent) : Prop :=
  ∃ e ∈ events, e.operationId = i ∧ e.action = action

theorem hasAction_history {action : ApprovalAction} {i : String} {events : List ApprovalEvent} :
    HasAction action i (operationHistory i events) ↔ HasAction action i events := by
  unfold HasAction
  refine exists_congr fun e => ?_
  rw [mem_historyOf]
  tauto

theorem HasAction.of_map_eq {action : ApprovalAction} {i : String}
    {events events' : List ApprovalEvent}
    (hsame : events.map ApprovalEvent.content = events'.map ApprovalEvent.content)
    (h : HasAction action i events) : HasAction action i events' := by
  obtain ⟨e, he, hop, haction⟩ := h
  have hmem : e.content ∈ events'.map ApprovalEvent.content :=
    hsame ▸ List.mem_map_of_mem he
  obtain ⟨e', he', hcontent⟩ := List.mem_map.1 hmem
  simp only [ApprovalEvent.content, Prod.mk.injEq] at hcontent
  exact ⟨e', he', hcontent.2.1.trans hop, hcontent.1.trans haction⟩

theorem hasAction_iff_of_histories {action : ApprovalAction} {i : String}
    {events events' : List ApprovalEvent}
    (hsame : (operationHistory i events).map ApprovalEvent.content =
      (operationHistory i events').map ApprovalEvent.content) :
    HasAction action i events ↔ HasAction action i events' := by
  have hown : HasAction action i (operationHistory i events') ↔ HasAction action i events' :=
    hasAction_history
  rw [← hasAction_history, ← hown]
  exact ⟨HasAction.of_map_eq hsame, HasAction.of_map_eq hsame.symm⟩

/-! ## What an event asks -/

theorem asksOwn_admits : AsksOwn ApprovalEvent.operationId Admits := by
  intro before event
  have hmem : ∀ d, d ∈ operationHistory event.operationId before ↔
      d ∈ before ∧ d.operationId = event.operationId := fun d => mem_historyOf
  constructor
  · intro h
    refine ⟨fun hnew => h.first fun d hd hop => hnew d ((hmem d).2 ⟨hd, hop⟩) hop,
      fun d hd => h.identity d ((hmem d).1 hd).1, fun d hd => h.decision d ((hmem d).1 hd).1,
      fun hexecute => ?_⟩
    obtain ⟨⟨a, ha, hop, happroved⟩, hdenied⟩ := h.execute hexecute
    exact ⟨⟨a, (hmem a).2 ⟨ha, hop⟩, hop, happroved⟩, fun d hd => hdenied d ((hmem d).1 hd).1⟩
  · intro h
    refine ⟨fun hnew => h.first fun d hd => hnew d ((hmem d).1 hd).1,
      fun d hd hop => h.identity d ((hmem d).2 ⟨hd, hop⟩) hop,
      fun d hd hop => h.decision d ((hmem d).2 ⟨hd, hop⟩) hop, fun hexecute => ?_⟩
    obtain ⟨⟨a, ha, hop, happroved⟩, hdenied⟩ := h.execute hexecute
    exact ⟨⟨a, ((hmem a).1 ha).1, hop, happroved⟩,
      fun d hd hop' => hdenied d ((hmem d).2 ⟨hd, hop'⟩) hop'⟩

theorem asksImages_admits : AsksImages ApprovalEvent.content Admits := by
  intro before before' event event' hbefore hevent h
  simp only [ApprovalEvent.content, Prod.mk.injEq] at hevent
  obtain ⟨haction, hop, htool, hpayload⟩ := hevent
  have hidentity : event'.identity = event.identity := by
    simp [ApprovalEvent.identity, htool, hpayload]
  -- every event before `event'` says what one before `event` says, and back
  have hback : ∀ d' ∈ before', ∃ d ∈ before, d.content = d'.content := by
    intro d' hd'
    have : d'.content ∈ before.map ApprovalEvent.content := hbefore ▸ List.mem_map_of_mem hd'
    exact List.mem_map.1 this
  simp only [ApprovalEvent.content, Prod.mk.injEq] at hback
  refine ⟨fun hnew => ?_, fun d' hd' hop' => ?_, fun d' hd' hop' hdecision => ?_,
    fun hexecute => ⟨?_, fun d' hd' hop' => ?_⟩⟩
  · rw [← haction]
    refine h.first fun d hd hsame => ?_
    obtain ⟨d', hd', hsame'⟩ : ∃ d' ∈ before', d'.content = d.content :=
      List.mem_map.1 (hbefore ▸ List.mem_map_of_mem hd)
    simp only [ApprovalEvent.content, Prod.mk.injEq] at hsame'
    exact hnew d' hd' (hsame'.2.1.trans (hsame.trans hop))
  · obtain ⟨d, hd, -, hopd, htoold, hpayloadd⟩ := hback d' hd'
    have := h.identity d hd (hopd.trans (hop'.trans hop.symm))
    rw [hidentity, ← this]
    simp [ApprovalEvent.identity, htoold, hpayloadd]
  · obtain ⟨d, hd, hactiond, hopd, -⟩ := hback d' hd'
    rw [← hactiond] at hdecision
    rw [← hactiond, ← haction]
    exact h.decision d hd (hopd.trans (hop'.trans hop.symm)) hdecision
  · obtain ⟨a, ha, hopa, happroved⟩ := (h.execute (haction.trans hexecute)).1
    exact HasAction.of_map_eq hbefore ⟨a, ha, hopa.trans hop, happroved⟩
  · obtain ⟨d, hd, hactiond, hopd, -⟩ := hback d' hd'
    rw [← hactiond]
    exact (h.execute (haction.trans hexecute)).2 d hd (hopd.trans (hop'.trans hop.symm))

/-! ## The replay of an interleaving -/

/-- The replay of events in order passes just when every event is admitted by those before
it. -/
theorem replayApproval_passes {events : List ApprovalEvent}
    (hseq : events.Pairwise fun a b => a.sequence < b.sequence) :
    (∃ result, replayApproval events = .ok result) ↔ EachAfter Admits [] events := by
  rw [replayApproval_returns_iff, ← perOperation_iff]
  exact and_iff_right hseq

/-- What the replay says of an operation is which events it has. -/
theorem mem_of_replayApproval {events : List ApprovalEvent} {result : ApprovalReplayResult}
    (h : replayApproval events = .ok result) (i : String) :
    (i ∈ result.executed ↔ HasAction .execute i events) ∧
      (i ∈ result.approved ↔ HasAction .approved i events) ∧
      (i ∈ result.denied ↔ HasAction .denied i events) := by
  obtain ⟨-, s, hs, rfl⟩ := replayApproval_eq_ok.1 h
  have hr := remembers_foldlM hs
  refine ⟨?_, ?_, ?_⟩
  · show i ∈ s.executed ↔ _
    rw [hr.executed, mem_executedIds, HasAction, Executed]
  · rw [ReplayState.mem_approved, hr.decided]
    exact and_iff_right (Or.inl rfl)
  · rw [ReplayState.mem_denied, hr.decided]
    exact and_iff_right (Or.inr rfl)

/-- The replay of events in order returns just when the replay of the events of every
operation returns, with each operation executed, approved and denied just as in the replay of
its own events. So lists in order that interleave the same histories of operations, up to
sequence numbers, all raise, or all return the same ids executed, approved and denied. -/
theorem replayApproval_histories (events : List ApprovalEvent)
    (hseq : events.Pairwise fun a b => a.sequence < b.sequence) :
    ((∃ result, replayApproval events = .ok result) ↔
        ∀ i ∈ events.map ApprovalEvent.operationId,
          ∃ result, replayApproval (operationHistory i events) = .ok result) ∧
      (∀ result, replayApproval events = .ok result → ∀ i result',
        replayApproval (operationHistory i events) = .ok result' →
        (i ∈ result.executed ↔ i ∈ result'.executed) ∧
          (i ∈ result.approved ↔ i ∈ result'.approved) ∧
          (i ∈ result.denied ↔ i ∈ result'.denied)) ∧
      ∀ events' : List ApprovalEvent, (events'.Pairwise fun a b => a.sequence < b.sequence) →
        (∀ i, (operationHistory i events).map ApprovalEvent.content =
          (operationHistory i events').map ApprovalEvent.content) →
        ((∃ e, replayApproval events = .error e) ∧ ∃ e, replayApproval events' = .error e) ∨
          ∃ result result', replayApproval events = .ok result ∧
            replayApproval events' = .ok result' ∧
            ∀ i, (i ∈ result.executed ↔ i ∈ result'.executed) ∧
              (i ∈ result.approved ↔ i ∈ result'.approved) ∧
              (i ∈ result.denied ↔ i ∈ result'.denied) := by
  have hhistory : ∀ i,
      (∃ result, replayApproval (operationHistory i events) = .ok result) ↔
        EachAfter Admits [] (operationHistory i events) :=
    fun i => replayApproval_passes (hseq.sublist List.filter_sublist)
  refine ⟨?_, fun result hresult i result' hresult' => ?_, fun events' hseq' hsame => ?_⟩
  · rw [replayApproval_passes hseq, eachAfter_iff_histories asksOwn_admits]
    simp only [hhistory]
    refine ⟨fun h i _ => h i, fun h i => ?_⟩
    by_cases hi : i ∈ events.map ApprovalEvent.operationId
    · exact h i hi
    · rw [historyOf_eq_nil hi]
      exact eachAfter_nil _ _
  · obtain ⟨hexecuted, happroved, hdenied⟩ := mem_of_replayApproval hresult i
    obtain ⟨hexecuted', happroved', hdenied'⟩ := mem_of_replayApproval hresult' i
    rw [hexecuted, hexecuted', happroved, happroved', hdenied, hdenied', hasAction_history,
      hasAction_history, hasAction_history]
    exact ⟨Iff.rfl, Iff.rfl, Iff.rfl⟩
  · have hiff : (∃ result, replayApproval events = .ok result) ↔
        ∃ result, replayApproval events' = .ok result := by
      rw [replayApproval_passes hseq, replayApproval_passes hseq']
      exact eachAfter_iff_of_histories asksOwn_admits asksImages_admits hsame
    rcases h : replayApproval events with e | result
    · rcases h' : replayApproval events' with e' | result'
      · exact Or.inl ⟨⟨e, rfl⟩, e', rfl⟩
      · obtain ⟨result, hresult⟩ := hiff.2 ⟨result', h'⟩
        rw [h] at hresult
        cases hresult
    · obtain ⟨result', h'⟩ := hiff.1 ⟨result, h⟩
      refine Or.inr ⟨result, result', rfl, h', fun i => ?_⟩
      obtain ⟨hexecuted, happroved, hdenied⟩ := mem_of_replayApproval h i
      obtain ⟨hexecuted', happroved', hdenied'⟩ := mem_of_replayApproval h' i
      rw [hexecuted, hexecuted', happroved, happroved', hdenied, hdenied']
      exact ⟨hasAction_iff_of_histories (hsame i), hasAction_iff_of_histories (hsame i),
        hasAction_iff_of_histories (hsame i)⟩

/-- Two operations interleaved, one of them refused. -/
theorem replayApproval_histories_sample :
    ((∃ result, replayApproval
          [⟨1, .requested, "a", "t", "p"⟩, ⟨2, .requested, "b", "t", "q"⟩,
            ⟨3, .denied, "b", "t", "q"⟩, ⟨4, .approved, "a", "t", "p"⟩] = .ok result) ↔
        ∀ i ∈ ["a", "b", "b", "a"], ∃ result, replayApproval (operationHistory i
          [⟨1, .requested, "a", "t", "p"⟩, ⟨2, .requested, "b", "t", "q"⟩,
            ⟨3, .denied, "b", "t", "q"⟩, ⟨4, .approved, "a", "t", "p"⟩]) = .ok result) :=
  (replayApproval_histories
    [⟨1, .requested, "a", "t", "p"⟩, ⟨2, .requested, "b", "t", "q"⟩,
      ⟨3, .denied, "b", "t", "q"⟩, ⟨4, .approved, "a", "t", "p"⟩] (by decide)).1

end ReliabilityLab
