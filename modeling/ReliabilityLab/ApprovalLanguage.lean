import ReliabilityLab.Approvals
import ReliabilityLab.Occurrences

/-!
# The accepted approval lists

Which lists of events `replay_approval` accepts, and what it returns for them.

`Admits` is what an event asks of the events before it, and `Remembers` what the state of
the loop says of them. A step passes just when the event is admitted (`replayStep_passes`),
so the fold passes just the lists all of whose events are (`foldlM_replayStep_iff`).
`PerOperation` says the same of each operation's events in the whole list
(`perOperation_iff`) : it is about the order of two events only where it has to be.
-/

open Serial Keyed

namespace ReliabilityLab

/-- A decision event. -/
def ApprovalAction.IsDecision (action : ApprovalAction) : Prop :=
  action = .approved ∨ action = .denied

/-! ## What an event asks -/

/-- What `event` asks of the events before it. -/
structure Admits (before : List ApprovalEvent) (event : ApprovalEvent) : Prop where
  first : (∀ d ∈ before, d.operationId ≠ event.operationId) → event.action = .requested
  identity : ∀ d ∈ before, d.operationId = event.operationId → d.identity = event.identity
  decision : ∀ d ∈ before, d.operationId = event.operationId → d.action.IsDecision →
    event.action.IsDecision → d.action = event.action
  execute : event.action = .execute →
    (∃ a ∈ before, a.operationId = event.operationId ∧ a.action = .approved) ∧
      ∀ d ∈ before, d.operationId = event.operationId → d.action ≠ .denied

/-- The properties of each operation's events in a whole list. -/
structure PerOperation (events : List ApprovalEvent) : Prop where
  first : ∀ i e, (events.find? fun e => e.operationId = i) = some e → e.action = .requested
  identity : ∀ a ∈ events, ∀ b ∈ events, a.operationId = b.operationId → a.identity = b.identity
  decision : ∀ a ∈ events, ∀ b ∈ events, a.operationId = b.operationId → a.action.IsDecision →
    b.action.IsDecision → a.action = b.action
  execute : ∀ pre e post, events = pre ++ e :: post → e.action = .execute →
    ∃ a ∈ pre, a.operationId = e.operationId ∧ a.action = .approved

/-- The properties of a list with one more event. -/
theorem PerOperation.of_concat {events : List ApprovalEvent} {event : ApprovalEvent}
    (h : PerOperation (events ++ [event])) : PerOperation events := by
  have hmem : ∀ {e}, e ∈ events → e ∈ events ++ [event] := List.mem_append_left _
  refine ⟨fun i e he => h.first i e ?_, fun a ha b hb => h.identity a (hmem ha) b (hmem hb),
    fun a ha b hb => h.decision a (hmem ha) b (hmem hb), ?_⟩
  · rw [List.find?_append, he, Option.some_or]
  · rintro pre e post rfl
    exact h.execute pre e (post ++ [event]) (by simp)

theorem PerOperation.admits {events : List ApprovalEvent} {event : ApprovalEvent}
    (h : PerOperation (events ++ [event])) : Admits events event := by
  have hmem : ∀ {e}, e ∈ events → e ∈ events ++ [event] := List.mem_append_left _
  have hlast : event ∈ events ++ [event] := by simp
  refine ⟨fun hnew => h.first event.operationId event ?_,
    fun d hd => h.identity d (hmem hd) event hlast,
    fun d hd => h.decision d (hmem hd) event hlast, fun hexecute => ?_⟩
  · have hnone : (events.find? fun e => e.operationId = event.operationId) = none := by
      rw [List.find?_eq_none]
      simpa using hnew
    rw [List.find?_append, hnone, Option.none_or]
    simp
  · obtain ⟨a, ha, hop, happroved⟩ := h.execute events event [] rfl hexecute
    refine ⟨⟨a, ha, hop, happroved⟩, fun d hd hop' hdenied => ?_⟩
    have hsame := h.decision a (hmem ha) d (hmem hd) (hop.trans hop'.symm) (Or.inl happroved)
      (Or.inr hdenied)
    rw [happroved, hdenied] at hsame
    cases hsame

theorem PerOperation.concat {events : List ApprovalEvent} {event : ApprovalEvent}
    (h : PerOperation events) (hadmits : Admits events event) :
    PerOperation (events ++ [event]) := by
  refine ⟨fun i e he => ?_, ?_, ?_, ?_⟩
  · rw [List.find?_append, Option.or_eq_some_iff] at he
    rcases he with he | ⟨hnone, he⟩
    · exact h.first i e he
    · obtain ⟨hi, rfl⟩ : event.operationId = i ∧ event = e := by
        simpa [List.find?_singleton] using he
      rw [List.find?_eq_none] at hnone
      exact hadmits.first fun d hd => by simpa [hi] using hnone d hd
  · exact forall_mem_concat₂ (R := fun a b : ApprovalEvent => a.operationId = b.operationId →
      a.identity = b.identity) h.identity (fun a b hab hop => (hab hop.symm).symm)
      hadmits.identity fun _ => rfl
  · exact forall_mem_concat₂ (R := fun a b : ApprovalEvent => a.operationId = b.operationId →
      a.action.IsDecision → b.action.IsDecision → a.action = b.action) h.decision
      (fun a b hab hop ha hb => (hab hop.symm hb ha).symm) hadmits.decision fun _ _ _ => rfl
  · intro pre e post hsplit hexecute
    rcases List.eq_nil_or_concat post with rfl | ⟨post, d, rfl⟩
    · obtain ⟨rfl, he⟩ := List.append_inj' hsplit rfl
      obtain rfl := List.singleton_inj.1 he
      exact (hadmits.execute hexecute).1
    · have hsplit' : events ++ [event] = (pre ++ e :: post) ++ [d] := by simpa using hsplit
      exact h.execute pre e post (List.append_inj' hsplit' rfl).1 hexecute

/-- Each operation's events have the properties just when every event is admitted by the
events before it. -/
theorem perOperation_iff {events : List ApprovalEvent} :
    PerOperation events ↔ EachAfter Admits [] events := by
  induction events using List.reverseRecOn with
  | nil =>
    refine iff_of_true ⟨by simp, by simp, by simp, fun _ _ _ h => ?_⟩ (eachAfter_nil _ _)
    simp at h
  | append_singleton events event ih =>
    rw [eachAfter_concat, ← ih]
    exact ⟨fun h => ⟨h.of_concat, h.admits⟩, fun h => h.1.concat h.2⟩

/-! ## What the state remembers -/

/-- The ids of the `EXECUTE` events, each once, in the order of its first. -/
def executedIds (events : List ApprovalEvent) : List String :=
  firstOccurrences id ((events.filter fun e => e.action = .execute).map ApprovalEvent.operationId)

/-- What the state of the loop says of the events so far. -/
structure Remembers (events : List ApprovalEvent) (state : ReplayState) : Prop where
  requests : state.requests.Binds ApprovalEvent.operationId ApprovalEvent.identity events
  decided : ∀ i d, state.decisions.get? i = some d ↔
    d.IsDecision ∧ ∃ e ∈ events, e.operationId = i ∧ e.action = d
  executed : state.executed = executedIds events

theorem remembers_start : Remembers [] .start :=
  ⟨Dict.binds_empty, fun i d => by simp [ReplayState.start], rfl⟩

theorem mem_executedIds {events : List ApprovalEvent} {i : String} :
    i ∈ executedIds events ↔ Executed events i := by
  unfold executedIds Executed
  simp only [mem_firstOccurrences_id, List.mem_map, List.mem_filter, decide_eq_true_eq]
  exact exists_congr fun e => by rw [and_assoc, and_comm (a := e.action = .execute)]

theorem executedIds_of_ne {events : List ApprovalEvent} {event : ApprovalEvent}
    (h : event.action ≠ .execute) : executedIds (events ++ [event]) = executedIds events := by
  simp [executedIds, h]

theorem executedIds_of_execute {events : List ApprovalEvent} {event : ApprovalEvent}
    (h : event.action = .execute) :
    executedIds (events ++ [event]) =
      if event.operationId ∈ executedIds events then executedIds events
      else executedIds events ++ [event.operationId] := by
  unfold executedIds
  rw [List.filter_append, List.map_append]
  simp only [List.filter_singleton, h, decide_true, cond_true, List.map_singleton,
    firstOccurrences_concat, List.map_id, id_eq, mem_firstOccurrences_id]

/-- The decisions say as much of one more event that is none. -/
theorem Remembers.decided_concat {events : List ApprovalEvent} {s : ReplayState}
    {event : ApprovalEvent} (h : Remembers events s) (hevent : ¬event.action.IsDecision)
    (i : String) (d : ApprovalAction) :
    s.decisions.get? i = some d ↔
      d.IsDecision ∧ ∃ e ∈ events ++ [event], e.operationId = i ∧ e.action = d := by
  rw [h.decided]
  refine and_congr_right fun hd => ⟨?_, ?_⟩
  · rintro ⟨e, he, hop, haction⟩
    exact ⟨e, List.mem_append_left _ he, hop, haction⟩
  · rintro ⟨e, he, hop, haction⟩
    rcases List.mem_append.1 he with he | he
    · exact ⟨e, he, hop, haction⟩
    · rw [List.mem_singleton.1 he] at haction
      exact absurd (haction ▸ hd) hevent

/-- A step keeps what the state says of the events. -/
theorem Remembers.step {events : List ApprovalEvent} {s t : ReplayState} {event : ApprovalEvent}
    (h : Remembers events s) (ht : replayStep s event = .ok t) :
    Remembers (events ++ [event]) t := by
  have hdecision : event.action.IsDecision → Remembers (events ++ [event]) t := by
    intro hd
    obtain ⟨hevent, hsame, rfl⟩ := (replayStep_decision_eq_ok hd).1 ht
    have hne : event.action ≠ .execute := by rcases hd with hd | hd <;> simp [hd]
    refine ⟨h.requests.concat hevent, fun i d => ?_,
      by rw [executedIds_of_ne hne]; exact h.executed⟩
    show (s.decisions.set event.operationId event.action).get? i = some d ↔ _
    rw [Dict.get?_set]
    split_ifs with hi
    · subst hi
      refine ⟨fun heq => ?_, ?_⟩
      · rw [← Option.some.inj heq]
        exact ⟨hd, event, by simp, rfl, rfl⟩
      · rintro ⟨hd', e, he, hop, haction⟩
        rcases List.mem_append.1 he with he | he
        · rw [hsame d ((h.decided _ d).2 ⟨hd', e, he, hop, haction⟩)]
        · rw [← haction, List.mem_singleton.1 he]
    · rw [h.decided]
      simp [or_and_right, exists_or, Ne.symm hi]
  rcases haction : event.action with _ | _ | _ | _
  · have hnot : ¬event.action.IsDecision := by simp [ApprovalAction.IsDecision, haction]
    have hexecuted : executedIds (events ++ [event]) = executedIds events :=
      executedIds_of_ne (by simp [haction])
    rcases (replayStep_requested_eq_ok haction).1 ht with ⟨hnone, rfl⟩ | ⟨hevent, rfl⟩
    · exact ⟨h.requests.set hnone, h.decided_concat hnot, h.executed.trans hexecuted.symm⟩
    · exact ⟨h.requests.concat hevent, h.decided_concat hnot,
        h.executed.trans hexecuted.symm⟩
  · exact hdecision (Or.inl haction)
  · exact hdecision (Or.inr haction)
  · have hnot : ¬event.action.IsDecision := by simp [ApprovalAction.IsDecision, haction]
    obtain ⟨hevent, -, rfl⟩ := (replayStep_execute_eq_ok haction).1 ht
    refine ⟨h.requests.concat hevent, h.decided_concat hnot, ?_⟩
    rw [executedIds_of_execute haction, ← h.executed]

/-- A step passes just when the event is admitted by the events before it. -/
theorem replayStep_passes {events : List ApprovalEvent} {s : ReplayState} {event : ApprovalEvent}
    (h : Remembers events s) :
    (∃ t, replayStep s event = .ok t) ↔ Admits events event := by
  have hfirst : (∃ d ∈ events, d.operationId = event.operationId) →
      (∀ d ∈ events, d.operationId ≠ event.operationId) → event.action = .requested :=
    fun ⟨d, hd, hop⟩ hnew => absurd hop (hnew d hd)
  have hrequest : Admits events event → event.action ≠ .requested →
      s.requests.get? event.operationId = some event.identity := by
    intro hadmits hne
    refine h.requests.get?_eq.2 ⟨?_, hadmits.identity⟩
    by_contra hnone
    push Not at hnone
    exact hne (hadmits.first hnone)
  have hdecision : event.action.IsDecision →
      ((∃ t, replayStep s event = .ok t) ↔ Admits events event) := by
    intro hd
    have hne : event.action ≠ .execute := by rcases hd with hd | hd <;> simp [hd]
    simp only [replayStep_decision_eq_ok hd]
    constructor
    · rintro ⟨t, hevent, hsame, -⟩
      obtain ⟨hold, hidentity⟩ := h.requests.get?_eq.1 hevent
      exact ⟨hfirst hold, hidentity, fun d hmem hop hd' _ =>
        hsame _ ((h.decided _ _).2 ⟨hd', d, hmem, hop, rfl⟩), fun he => absurd he hne⟩
    · intro hadmits
      refine ⟨_, hrequest hadmits (by rcases hd with hd | hd <;> simp [hd]), fun d hget => ?_, rfl⟩
      obtain ⟨hd', e, hmem, hop, rfl⟩ := (h.decided _ d).1 hget
      exact hadmits.decision e hmem hop hd' hd
  rcases haction : event.action with _ | _ | _ | _
  · have hnot : ¬event.action.IsDecision := by simp [ApprovalAction.IsDecision, haction]
    have hne : event.action ≠ .execute := by simp [haction]
    simp only [replayStep_requested_eq_ok haction]
    constructor
    · rintro ⟨t, ⟨hnone, -⟩ | ⟨hevent, -⟩⟩
      · have hnew := (h.requests.absent _).1 hnone
        exact ⟨fun _ => haction, fun d hd hop => absurd hop (hnew d hd),
          fun _ _ _ _ hd => absurd hd hnot, fun he => absurd he hne⟩
      · exact ⟨fun _ => haction, (h.requests.get?_eq.1 hevent).2, fun _ _ _ _ hd => absurd hd hnot,
          fun he => absurd he hne⟩
    · intro hadmits
      by_cases hnew : ∀ d ∈ events, d.operationId ≠ event.operationId
      · exact ⟨_, Or.inl ⟨(h.requests.absent _).2 hnew, rfl⟩⟩
      · push Not at hnew
        exact ⟨s, Or.inr ⟨h.requests.get?_eq.2 ⟨hnew, hadmits.identity⟩, rfl⟩⟩
  · exact hdecision (Or.inl haction)
  · exact hdecision (Or.inr haction)
  · have hnot : ¬event.action.IsDecision := by simp [ApprovalAction.IsDecision, haction]
    simp only [replayStep_execute_eq_ok haction]
    constructor
    · rintro ⟨t, hevent, ⟨d, hget, hne⟩, -⟩
      obtain ⟨hold, hidentity⟩ := h.requests.get?_eq.1 hevent
      refine ⟨hfirst hold, hidentity, fun _ _ _ _ hd => absurd hd hnot, fun _ => ⟨?_, ?_⟩⟩
      · obtain ⟨hd, e, hmem, hop, he⟩ := (h.decided _ d).1 hget
        exact ⟨e, hmem, hop, he.trans (hd.resolve_right hne)⟩
      · intro e hmem hop hdenied
        have hget' := (h.decided _ .denied).2 ⟨Or.inr rfl, e, hmem, hop, hdenied⟩
        exact hne (Option.some.inj (hget.symm.trans hget'))
    · intro hadmits
      obtain ⟨⟨a, hmem, hop, happroved⟩, -⟩ := hadmits.execute haction
      exact ⟨_, hrequest hadmits (by simp [haction]),
        ⟨.approved, (h.decided _ _).2 ⟨Or.inl rfl, a, hmem, hop, happroved⟩, by simp⟩, rfl⟩

/-! ## The accepted lists -/

theorem remembers_foldlM {events : List ApprovalEvent} {state : ReplayState}
    (h : events.foldlM replayStep .start = .ok state) : Remembers events state :=
  foldlM_invariant remembers_start (fun _ _ _ _ hs ht => hs.step ht) h

/-- The loop passes exactly the lists whose operations have the properties. -/
theorem foldlM_replayStep_iff {events : List ApprovalEvent} :
    (∃ s, events.foldlM replayStep .start = .ok s) ↔ PerOperation events := by
  rw [perOperation_iff]
  induction events using List.reverseRecOn with
  | nil => exact iff_of_true ⟨_, rfl⟩ (eachAfter_nil _ _)
  | append_singleton events event ih =>
    rw [eachAfter_concat, ← ih, foldlM_concat]
    simp only [bind_eq_ok]
    constructor
    · rintro ⟨t, s, hs, ht⟩
      exact ⟨⟨s, hs⟩, (replayStep_passes (remembers_foldlM hs)).1 ⟨t, ht⟩⟩
    · rintro ⟨⟨s, hs⟩, hadmits⟩
      obtain ⟨t, ht⟩ := (replayStep_passes (remembers_foldlM hs)).2 hadmits
      exact ⟨t, s, hs, ht⟩

/-- The replay returns just for the lists of events in order whose operations have the
properties. -/
theorem replayApproval_returns_iff {events : List ApprovalEvent} :
    (∃ result, replayApproval events = .ok result) ↔
      (events.Pairwise fun a b => a.sequence < b.sequence) ∧ PerOperation events := by
  simp only [replayApproval_eq_ok, ← foldlM_replayStep_iff]
  constructor
  · rintro ⟨_, hseq, s, hs, -⟩
    exact ⟨hseq, s, hs⟩
  · rintro ⟨hseq, s, hs⟩
    exact ⟨_, hseq, s, hs, rfl⟩

/-- The request of an id that the replay has after its events is the first of them. -/
theorem requests_of_foldlM {events : List ApprovalEvent} {s : ReplayState}
    (h : events.foldlM replayStep .start = .ok s) (i : String) :
    s.requests.get? i = (firstRequest events i).map ApprovalEvent.identity := by
  have hr := remembers_foldlM h
  rcases hfind : events.find? (fun e => e.operationId = i) with _ | e
  · have hnone : ∀ e ∈ events, e.operationId ≠ i := by simpa using hfind
    have hfirst : firstRequest events i = none :=
      List.find?_eq_none.2 fun e he => by simp [hnone e he]
    rw [hfirst, (hr.requests.absent i).2 hnone, Option.map_none]
  · obtain ⟨hi, pre, post, rfl, hpre⟩ := List.find?_eq_some_iff_append.1 hfind
    obtain rfl : e.operationId = i := by simpa using hi
    have hrequested := (foldlM_replayStep_iff.1 ⟨s, h⟩).first _ e hfind
    have hfirst : firstRequest (pre ++ e :: post) e.operationId = some e := by
      refine List.find?_eq_some_iff_append.2 ⟨by simp [hrequested], pre, post, rfl, fun d hd => ?_⟩
      have hne : d.operationId ≠ e.operationId := by simpa using hpre d hd
      simp [hne]
    rw [hfirst, Option.map_some]
    refine hr.requests.get?_eq.2 ⟨⟨e, by simp, rfl⟩, fun d hd hop => ?_⟩
    exact (foldlM_replayStep_iff.1 ⟨s, h⟩).identity d hd e (by simp) hop

/-- An event that is not a request comes after a request of its operation. -/
theorem PerOperation.exists_request {events : List ApprovalEvent} (h : PerOperation events)
    {k : Nat} {a : ApprovalEvent} (ha : events[k]? = some a) (hne : a.action ≠ .requested) :
    ∃ i r, i < k ∧ events[i]? = some r ∧ r.operationId = a.operationId ∧
      r.action = .requested := by
  obtain ⟨hk, hget⟩ := List.getElem?_eq_some_iff.1 ha
  obtain ⟨r, hr⟩ : ∃ r, (events.find? fun e => e.operationId = a.operationId) = some r :=
    Option.isSome_iff_exists.1 (List.find?_isSome.2 ⟨a, List.mem_of_getElem? ha, by simp⟩)
  have hrequested := h.first _ r hr
  obtain ⟨hop, i, hi, hri, hbefore⟩ := List.find?_eq_some_iff_getElem.1 hr
  have hik : i ≤ k := by
    by_contra hlt
    have := hbefore k (not_le.1 hlt)
    simp [hget] at this
  rcases hik.lt_or_eq with hlt | rfl
  · exact ⟨i, r, hlt, List.getElem?_eq_some_iff.2 ⟨hi, hri⟩, by simpa using hop, hrequested⟩
  · exact absurd (by rw [← hget, hri, hrequested]) hne

/-- An execution comes after an approval of its operation. -/
theorem PerOperation.exists_approval {events : List ApprovalEvent} (h : PerOperation events)
    {j : Nat} {e : ApprovalEvent} (he : events[j]? = some e) (hexecute : e.action = .execute) :
    ∃ k a, k < j ∧ events[k]? = some a ∧ a.operationId = e.operationId ∧
      a.action = .approved := by
  obtain ⟨hj, rfl⟩ := List.getElem?_eq_some_iff.1 he
  obtain ⟨a, ha, hop, happroved⟩ := h.execute (events.take j) events[j] (events.drop (j + 1))
    (by rw [← List.drop_eq_getElem_cons, List.take_append_drop]) hexecute
  obtain ⟨k, hk⟩ := List.mem_iff_getElem?.1 ha
  rw [List.getElem?_take] at hk
  split_ifs at hk with hlt
  exact ⟨k, a, hlt, hk, hop, happroved⟩

/-- The replay returns just for the lists of events in order whose operations have the
properties. For such a list, every execution has a request and, after it, an approval of
its operation before it, all events of the operation are about the executed effect, and
none of them, before or after, is a denial; the result's executed ids are those of the
executions, each once, in the order of the first; they are approved; and the approved and
the denied ids are disjoint, and together those with a decision. -/
theorem replayApproval_language (events : List ApprovalEvent) :
    ((∃ result, replayApproval events = .ok result) ↔
        (events.Pairwise fun a b => a.sequence < b.sequence) ∧ PerOperation events) ∧
      ∀ result, replayApproval events = .ok result →
        (∀ (j : Nat) e, events[j]? = some e → e.action = .execute →
          (∃ (i k : Nat) (r a : ApprovalEvent), i < k ∧ k < j ∧
            events[i]? = some r ∧ r.operationId = e.operationId ∧ r.action = .requested ∧
            events[k]? = some a ∧ a.operationId = e.operationId ∧ a.action = .approved) ∧
          (∀ d ∈ events, d.operationId = e.operationId →
            d.tool = e.tool ∧ d.payload = e.payload) ∧
          ∀ d ∈ events, d.operationId = e.operationId → d.action ≠ .denied) ∧
        result.executed = executedIds events ∧ result.executed.Nodup ∧
        (∀ i ∈ result.executed, i ∈ result.approved) ∧
        (∀ i ∈ result.approved, i ∉ result.denied) ∧
        ∀ i, i ∈ result.approved ∨ i ∈ result.denied ↔
          ∃ d ∈ events, d.operationId = i ∧ (d.action = .approved ∨ d.action = .denied) := by
  refine ⟨replayApproval_returns_iff, fun result hresult => ?_⟩
  obtain ⟨-, s, hs, rfl⟩ := replayApproval_eq_ok.1 hresult
  have h := foldlM_replayStep_iff.1 ⟨s, hs⟩
  have hr := remembers_foldlM hs
  refine ⟨fun j e he hexecute => ?_, hr.executed, ?_, fun i hi => ?_, fun i hi hi' => ?_,
    fun i => ?_⟩
  · obtain ⟨k, a, hkj, ha, hop, happroved⟩ := h.exists_approval he hexecute
    obtain ⟨i, r, hik, hr, hop', hrequested⟩ := h.exists_request ha (by simp [happroved])
    refine ⟨⟨i, k, r, a, hik, hkj, hr, hop'.trans hop, hrequested, ha, hop, happroved⟩,
      fun d hd hop => ?_, fun d hd hop' hdenied => ?_⟩
    · exact Prod.mk.inj (h.identity d hd e (List.mem_of_getElem? he) hop)
    · have hsame := h.decision a (List.mem_of_getElem? ha) d hd (hop.trans hop'.symm)
        (Or.inl happroved) (Or.inr hdenied)
      rw [happroved, hdenied] at hsame
      cases hsame
  · show s.executed.Nodup
    rw [hr.executed]
    exact nodup_firstOccurrences_id _
  · change i ∈ s.executed at hi
    rw [hr.executed, mem_executedIds] at hi
    obtain ⟨e, he, rfl, hexecute⟩ := hi
    obtain ⟨j, hj⟩ := List.mem_iff_getElem?.1 he
    obtain ⟨k, a, -, ha, hop, happroved⟩ := h.exists_approval hj hexecute
    rw [ReplayState.mem_approved, hr.decided]
    exact ⟨Or.inl rfl, a, List.mem_of_getElem? ha, hop, happroved⟩
  · rw [ReplayState.mem_approved] at hi
    rw [ReplayState.mem_denied, hi] at hi'
    cases hi'
  · rw [ReplayState.mem_approved, ReplayState.mem_denied, hr.decided, hr.decided]
    simp [ApprovalAction.IsDecision, ← exists_or, and_or_left]

end ReliabilityLab
