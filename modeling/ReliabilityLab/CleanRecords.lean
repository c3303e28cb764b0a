import ReliabilityLab.TraceIntegrity

/-!
# Clean records

`CleanRecord` says of one record what the validator asks of it, given the records before
it. `stateAfter` is the state of the loop after records that are all clean, so each of the
local variables is said in terms of the records : the binding is that of the first
approval or effect, `approvedSequence` is the sequence of the last approval that approves.

Each branch of the loop has a lemma that says when it finds nothing and what state it
leaves. `step_clean_iff` puts them together : from the state after clean records, one turn
of the loop finds nothing exactly if the record is clean, and then leaves the state after
it as well.
-/

set_option linter.unusedSectionVars false

open Serial

namespace ReliabilityLab

/-- The text of a value that is one. -/
def Json.text : Json → String
  | .str s => s
  | _ => ""

/-- A nonempty text. -/
def Json.IsText (value : Json) : Prop :=
  value = .str value.text ∧ value.text ≠ ""

theorem Json.nonemptyStr?_isText {value : Json} (h : value.IsText) :
    value.nonemptyStr? = some value.text :=
  nonemptyStr?_eq_some.2 h

theorem Json.nonemptyStr?_eq_none {value : Json} : value.nonemptyStr? = none ↔ ¬value.IsText := by
  rcases value with _ | _ | _ | _ | s | _ | _ <;> simp [nonemptyStr?, IsText, text]

/-- Membership in a set of texts holds of its texts only. -/
theorem Json.inSet_eq_ok_true {value : Json} {members : List String} :
    value.inSet members = .ok true ↔ ∃ s ∈ members, value = .str s := by
  rcases value with _ | _ | _ | _ | s | _ | _ <;> simp [inSet]

namespace TraceIntegrity

open Json

theorem intFrom?_eq_some {least n : Int} {value : Json} :
    intFrom? least value = some n ↔ value = .int n ∧ least ≤ n := by
  rcases value with _ | _ | m | _ | _ | _ | _ <;> simp [intFrom?]
  exact ⟨fun h => ⟨h.2, h.2 ▸ h.1⟩, fun h => ⟨h.1 ▸ h.2, h.1⟩⟩

theorem isSha256_eq {value : Json} (h : isSha256 value = true) : value = .str value.text := by
  rcases value with _ | _ | _ | _ | s | _ | _ <;> simp [isSha256] at h
  rfl

/-! ## Records -/

/-- The identifiers of an accepted scope. -/
structure ScopeIds where
  runId : String
  turnId : String
  provider : String
  operationId : String
  runId_ne : runId ≠ ""
  turnId_ne : turnId ≠ ""
  provider_ne : provider ≠ ""
  operationId_ne : operationId ≠ ""

/-- The scope of these ids. -/
def ScopeIds.scope (ids : ScopeIds) : Scope :=
  ⟨.str ids.runId, .str ids.turnId, .str ids.provider, .str ids.operationId⟩

/-- The record is of this kind. -/
def HasKind (kind : String) (r : Mapping) : Prop :=
  r.get "kind" = .str kind

instance (kind : String) (r : Mapping) : Decidable (HasKind kind r) :=
  inferInstanceAs (Decidable (_ = _))

/-- An approval or an effect. -/
def Binds (r : Mapping) : Prop :=
  HasKind "approval" r ∨ HasKind "effect" r

instance (r : Mapping) : Decidable (Binds r) :=
  inferInstanceAs (Decidable (_ ∨ _))

/-- An approval with the decision `d`. -/
def Decides (d : String) (r : Mapping) : Prop :=
  HasKind "approval" r ∧ r.get "decision" = .str d

instance (d : String) (r : Mapping) : Decidable (Decides d r) :=
  inferInstanceAs (Decidable (_ ∧ _))

theorem HasKind.iff {kind other : String} {r : Mapping} (h : HasKind kind r) :
    HasKind other r ↔ kind = other := by
  unfold HasKind at h ⊢
  rw [h]
  simp

/-- The id of a record, if it is a text. -/
def recordIdOf (r : Mapping) : String :=
  (r.get "record_id").text

/-- The sequence number of a record, if it is a positive integer. -/
def sequenceOf (r : Mapping) : Int :=
  (intFrom? 1 (r.get "sequence")).getD 0

/-- The id of the event of a record. -/
def eventIdOf (r : Mapping) : String :=
  (r.get "event_id").text

/-- The tool and the payload digest of a record. -/
def bindingOf (r : Mapping) : String × String :=
  ((r.get "tool").text, (r.get "payload_sha256").text)

/-- The id of the evidence of a record. -/
def evidenceIdOf (r : Mapping) : String :=
  (r.get "evidence_id").text

/-! ## What the records so far say -/

/-- The ids of the events among the records. -/
def eventIds (done : List Mapping) : List String :=
  (done.filter fun r => HasKind "runtime_event" r).map eventIdOf

/-- The binding of the first approval or effect. -/
def firstBinding (done : List Mapping) : Option (String × String) :=
  (done.find? fun r => Binds r).map bindingOf

/-- The sequence of the last approval with the decision `d`. -/
def lastDecision (d : String) (done : List Mapping) : Option Int :=
  (done.filter fun r => Decides d r).getLast?.map sequenceOf

/-- The checkpoints among the records. -/
def checkpointsOf (done : List Mapping) : List Mapping :=
  done.filter fun r => HasKind "checkpoint" r

/-- The provider evidence among the records. -/
def evidenceOf (done : List Mapping) : List Mapping :=
  done.filter fun r => HasKind "provider_evidence" r

/-- The completions among the records. -/
def completionsOf (done : List Mapping) : List Mapping :=
  done.filter fun r => HasKind "reconciliation_completion" r

section clean

variable [Hashlib]

/-- The fingerprint of a binding in the scope of these ids. -/
def ScopeIds.fingerprint (ids : ScopeIds) (binding : String × String) : String :=
  effectFingerprint ids.provider ids.operationId binding.1 binding.2

/-! ## Clean records -/

/-- The event has no violation after the events `seen`. -/
structure CleanEvent (ids : ScopeIds) (seen : List String) (r : Mapping) : Prop where
  runId : r.get "run_id" = .str ids.runId
  turnId : r.get "turn_id" = .str ids.turnId
  eventId : (r.get "event_id").IsText
  fresh : eventIdOf r ∉ seen
  eventKind : ∃ kind ∈ eventKinds, r.get "event_kind" = .str kind
  payload : isSha256 (r.get "payload_sha256") = true

/-- The record binds the effect of the trace, which is `bound` if there is one yet. -/
structure CleanBinding (ids : ScopeIds) (bound : Option (String × String)) (r : Mapping) :
    Prop where
  tool : (r.get "tool").IsText
  payload : isSha256 (r.get "payload_sha256") = true
  bound : ∀ b ∈ bound, b = bindingOf r
  effect : r.get "effect_sha256" = .str (ids.fingerprint (bindingOf r))

/-- The last approval that approves is earlier than `n`, and no denial is. -/
def Permitted (approved denied : Option Int) (n : Int) : Prop :=
  (∃ a ∈ approved, a < n) ∧ ∀ d ∈ denied, n ≤ d

/-- `previous` does not contradict the evidence `r` that follows it. -/
def Continues (previous r : Mapping) : Prop :=
  ∀ m n, (previous.get "revision").intValue? = some m → (r.get "revision").intValue? = some n →
    m ≤ n ∧ (m = n → PyEq (previous.get "readback") (r.get "readback") ∧
      PyEq (previous.get "effect_sha256") (r.get "effect_sha256"))

/-- The evidence has no violation after the evidence of `history`. -/
structure CleanEvidence (ids : ScopeIds) (bound : Option (String × String))
    (history : List Mapping) (r : Mapping) : Prop where
  evidenceId : (r.get "evidence_id").IsText
  fresh : ∀ q ∈ history, evidenceIdOf q ≠ evidenceIdOf r
  revision : ∃ n, r.get "revision" = .int n ∧ 0 ≤ n
  readback : ∃ s ∈ readbackStates, r.get "readback" = .str s
  effect : ∀ b ∈ bound, r.get "effect_sha256" = .str (ids.fingerprint b)
  history : ∀ previous ∈ history.getLast?, Continues previous r

/-- The completion `r` names the present evidence `e`. -/
structure Names (r e : Mapping) : Prop where
  evidenceId : r.get "evidence_id" = .str (evidenceIdOf e)
  present : e.get "readback" = .str "present"
  revision : PyEq (e.get "revision") (r.get "revision")
  effect : PyEq (e.get "effect_sha256") (r.get "effect_sha256")

/-- The completion has no violation after the evidence of `history`. -/
structure CleanCompletion (ids : ScopeIds) (bound : Option (String × String))
    (history : List Mapping) (completions : Nat) (r : Mapping) : Prop where
  first : completions = 0
  effect : ∀ b ∈ bound, r.get "effect_sha256" = .str (ids.fingerprint b)
  named : ∃ e, history.find? (fun q => evidenceIdOf q = evidenceIdOf r) = some e ∧ Names r e
  latest : ∀ m ∈ (revisionsOf history).max?, PyEq (r.get "revision") (.int m)

/-- The checks of every record. -/
structure CleanCommon (r : Mapping) : Prop where
  recordId : (r.get "record_id").IsText
  sequence : r.get "sequence" = .int (sequenceOf r)
  sequence_pos : 0 < sequenceOf r

/-- What the validator asks of the record `r` after the records `done`. -/
@[mk_iff]
structure CleanRecord (ids : ScopeIds) (done : List Mapping) (r : Mapping) : Prop where
  common : CleanCommon r
  kind : ∃ kind ∈ recordKinds, HasKind kind r
  event : HasKind "runtime_event" r → CleanEvent ids (eventIds done) r
  checkpoint : HasKind "checkpoint" r → r.get "run_id" = .str ids.runId
  operation : ¬HasKind "runtime_event" r → ¬HasKind "checkpoint" r →
    r.get "operation_id" = .str ids.operationId ∧ r.get "provider" = .str ids.provider
  binding : Binds r → CleanBinding ids (firstBinding done) r
  approval : HasKind "approval" r → ∃ d ∈ decisions, r.get "decision" = .str d
  effect : HasKind "effect" r →
    Permitted (lastDecision "approved" done) (lastDecision "denied" done) (sequenceOf r)
  evidence : HasKind "provider_evidence" r →
    CleanEvidence ids (firstBinding done) (evidenceOf done) r
  completion : HasKind "reconciliation_completion" r →
    CleanCompletion ids (firstBinding done) (evidenceOf done) (completionsOf done).length r

/-- A clean record of one of the kinds about the operation names it and its provider. -/
theorem CleanRecord.scope {ids : ScopeIds} {done : List Mapping} {r : Mapping} {kind : String}
    (h : CleanRecord ids done r) (hkind : HasKind kind r)
    (hne : kind ≠ "runtime_event" ∧ kind ≠ "checkpoint" := by decide) :
    r.get "operation_id" = .str ids.operationId ∧ r.get "provider" = .str ids.provider := by
  refine h.operation ?_ ?_
  · rw [hkind.iff]
    exact hne.1
  · rw [hkind.iff]
    exact hne.2

/-! ## The state of the loop -/

/-- The state of the loop after clean records. -/
def stateAfter (ids : ScopeIds) (done : List Mapping) : LoopState where
  sequences := done.map sequenceOf
  recordIds := done.map recordIdOf
  eventIds := eventIds done
  binding := firstBinding done
  approvedSequence := lastDecision "approved" done
  deniedSequence := lastDecision "denied" done
  expectedEffect := (firstBinding done).map ids.fingerprint
  checkpoints := checkpointsOf done
  evidenceById := (evidenceOf done).map fun r => (evidenceIdOf r, r)
  evidenceHistory := evidenceOf done
  completionCount := (completionsOf done).length

/-- The state after the common checks of `r`. -/
def notedAfter (ids : ScopeIds) (done : List Mapping) (r : Mapping) : LoopState :=
  { stateAfter ids done with
    sequences := done.map sequenceOf ++ [sequenceOf r]
    recordIds := done.map recordIdOf ++ [recordIdOf r] }

/-! ## The branches of the loop -/

theorem runtimeEvent_clean {ids : ScopeIds} {st st' : LoopState} {r : Mapping} :
    runtimeEvent ids.scope st r = .ok ([], st') ↔ CleanEvent ids st.eventIds r ∧
      st' = { st with eventIds := st.eventIds ++ [eventIdOf r] } := by
  simp only [runtimeEvent, bind_eq_ok, Except.ok.injEq, Prod.mk.injEq, List.append_eq_nil_iff,
    flag_eq_nil, not_not, Bool.not_eq_false, ScopeIds.scope, pyEq_str, nonemptyStr?_eq_none]
  refine ⟨?_, ?_⟩
  · rintro ⟨known, hknown, ⟨⟨⟨⟨⟨hrun, hturn⟩, hid⟩, hfresh⟩, rfl⟩, hpayload⟩, rfl⟩
    have hsome := nonemptyStr?_isText hid
    have hfresh' : eventIdOf r ∉ st.eventIds := fun h => hfresh ⟨_, h, hsome⟩
    refine ⟨⟨hrun, hturn, hid, hfresh', inSet_eq_ok_true.1 hknown, hpayload⟩, ?_⟩
    rw [if_neg hfresh, hsome]
    rfl
  · rintro ⟨h, rfl⟩
    have hsome := nonemptyStr?_isText h.eventId
    have hfresh : ¬∃ id ∈ st.eventIds, (r.get "event_id").nonemptyStr? = some id := by
      rintro ⟨id, hmem, hid⟩
      obtain rfl := Option.some.inj (hsome.symm.trans hid)
      exact h.fresh hmem
    refine ⟨true, inSet_eq_ok_true.2 h.eventKind,
      ⟨⟨⟨⟨⟨h.runId, h.turnId⟩, h.eventId⟩, hfresh⟩, rfl⟩, h.payload⟩, ?_⟩
    rw [if_neg hfresh, hsome]
    rfl

theorem checkpoint_clean {ids : ScopeIds} {st st' : LoopState} {r : Mapping} :
    checkpoint ids.scope st r = ([], st') ↔ r.get "run_id" = .str ids.runId ∧
      st' = { st with checkpoints := st.checkpoints ++ [r] } := by
  simp only [checkpoint, Prod.mk.injEq, flag_eq_nil, not_not, ScopeIds.scope, pyEq_str]
  exact and_congr_right fun _ => eq_comm

theorem operationFlags_eq_nil {ids : ScopeIds} {r : Mapping} :
    operationFlags ids.scope r = [] ↔
      r.get "operation_id" = .str ids.operationId ∧ r.get "provider" = .str ids.provider := by
  simp [operationFlags, ScopeIds.scope]

theorem candidateBinding?_of_clean {r : Mapping} (htool : (r.get "tool").IsText)
    (hpayload : isSha256 (r.get "payload_sha256") = true) :
    candidateBinding? r = some (bindingOf r) := by
  rcases hp : r.get "payload_sha256" with _ | _ | _ | _ | payload | _ | _ <;>
    rw [hp] at hpayload <;> simp only [isSha256, Bool.false_eq_true] at hpayload
  unfold candidateBinding? bindingOf
  rw [htool.1, hp]
  simp [hpayload, text]

theorem bindingFlags_eq_nil {st : LoopState} {r : Mapping} :
    bindingFlags st r = [] ↔ (r.get "tool").IsText ∧
      isSha256 (r.get "payload_sha256") = true ∧ ∀ b ∈ st.binding, b = bindingOf r := by
  simp only [bindingFlags, List.append_eq_nil_iff, flag_eq_nil, nonemptyStr?_eq_none, not_not,
    Bool.not_eq_false, and_assoc]
  refine and_congr_right fun htool => and_congr_right fun hpayload => ?_
  simp [candidateBinding?_of_clean htool hpayload]

/-- The state after the binding of a clean approval or effect. -/
theorem noteBinding_clean {ids : ScopeIds} {st : LoopState} {r : Mapping}
    (hexpected : st.expectedEffect = st.binding.map ids.fingerprint)
    (htool : (r.get "tool").IsText) (hpayload : isSha256 (r.get "payload_sha256") = true)
    (hbound : ∀ b ∈ st.binding, b = bindingOf r) :
    noteBinding ids.scope st r = { st with
      binding := some (bindingOf r)
      expectedEffect := some (ids.fingerprint (bindingOf r)) } := by
  unfold noteBinding
  rw [candidateBinding?_of_clean htool hpayload]
  rcases hb : st.binding with _ | b
  · rfl
  · obtain rfl : b = bindingOf r := hbound b hb
    rcases st with ⟨⟩
    simp_all

theorem effectFlags_eq_nil {st : LoopState} {r : Mapping} {name : String} :
    effectFlags st r name = [] ↔
      ∀ e ∈ st.expectedEffect, r.get "effect_sha256" = .str e := by
  simp [effectFlags]

theorem approval_clean {ids : ScopeIds} {st st' : LoopState} {r : Mapping}
    (hexpected : st.expectedEffect = st.binding.map ids.fingerprint)
    (hseq : r.get "sequence" = .int (sequenceOf r)) :
    approval ids.scope st r = .ok ([], st') ↔
      (CleanBinding ids st.binding r ∧ ∃ d ∈ decisions, r.get "decision" = .str d) ∧
      st' = { st with
        binding := some (bindingOf r)
        expectedEffect := some (ids.fingerprint (bindingOf r))
        approvedSequence :=
          if r.get "decision" = .str "approved" then some (sequenceOf r)
          else st.approvedSequence
        deniedSequence :=
          if r.get "decision" = .str "approved" then st.deniedSequence
          else some (sequenceOf r) } := by
  have hn : (r.get "sequence").intValue? = some (sequenceOf r) := by
    rw [hseq]
    rfl
  simp only [approval, bind_eq_ok, Except.ok.injEq, Prod.mk.injEq, List.append_eq_nil_iff,
    flag_eq_nil, Bool.not_eq_false, bindingFlags_eq_nil]
  refine ⟨?_, ?_⟩
  · rintro ⟨known, hknown, ⟨⟨⟨htool, hpayload, hbound⟩, rfl⟩, heffect⟩, rfl⟩
    rw [noteBinding_clean hexpected htool hpayload hbound] at heffect ⊢
    refine ⟨⟨⟨htool, hpayload, hbound, ?_⟩, inSet_eq_ok_true.1 hknown⟩, ?_⟩
    · exact effectFlags_eq_nil.1 heffect _ rfl
    · simp only [if_true, noteDecision, hn]
      split_ifs <;> rfl
  · rintro ⟨⟨h, hdecision⟩, rfl⟩
    refine ⟨true, inSet_eq_ok_true.2 hdecision,
      ⟨⟨⟨h.tool, h.payload, h.bound⟩, rfl⟩, ?_⟩, ?_⟩
    · rw [noteBinding_clean hexpected h.tool h.payload h.bound, effectFlags_eq_nil]
      rintro e ⟨⟩
      exact h.effect
    · rw [noteBinding_clean hexpected h.tool h.payload h.bound]
      simp only [if_true, noteDecision, hn]
      split_ifs <;> rfl

theorem permissionFlags_eq_nil {st : LoopState} {r : Mapping}
    (hseq : r.get "sequence" = .int (sequenceOf r)) :
    permissionFlags st r = [] ↔
      Permitted st.approvedSequence st.deniedSequence (sequenceOf r) := by
  have hn : (r.get "sequence").intValue? = some (sequenceOf r) := by
    rw [hseq]
    rfl
  simp [permissionFlags, hn, Permitted]

theorem effect_clean {ids : ScopeIds} {st st' : LoopState} {r : Mapping}
    (hexpected : st.expectedEffect = st.binding.map ids.fingerprint)
    (hseq : r.get "sequence" = .int (sequenceOf r)) :
    effect ids.scope st r = ([], st') ↔
      (CleanBinding ids st.binding r ∧
        Permitted st.approvedSequence st.deniedSequence (sequenceOf r)) ∧
      st' = { st with
        binding := some (bindingOf r)
        expectedEffect := some (ids.fingerprint (bindingOf r)) } := by
  simp only [effect, Prod.mk.injEq, List.append_eq_nil_iff, bindingFlags_eq_nil]
  refine ⟨?_, ?_⟩
  · rintro ⟨⟨⟨⟨htool, hpayload, hbound⟩, heffect⟩, hpermitted⟩, rfl⟩
    rw [noteBinding_clean hexpected htool hpayload hbound] at heffect hpermitted ⊢
    rw [permissionFlags_eq_nil hseq] at hpermitted
    exact ⟨⟨⟨htool, hpayload, hbound, effectFlags_eq_nil.1 heffect _ rfl⟩, hpermitted⟩, rfl⟩
  · rintro ⟨⟨h, hpermitted⟩, rfl⟩
    rw [noteBinding_clean hexpected h.tool h.payload h.bound, effectFlags_eq_nil,
      permissionFlags_eq_nil hseq]
    refine ⟨⟨⟨⟨h.tool, h.payload, h.bound⟩, ?_⟩, hpermitted⟩, rfl⟩
    rintro e ⟨⟩
    exact h.effect

theorem lookup_evidence (history : List Mapping) (id : String) :
    (history.map fun r => (evidenceIdOf r, r)).lookup id =
      history.find? fun q => evidenceIdOf q = id := by
  induction history with
  | nil => rfl
  | cons q history ih =>
    rw [List.map_cons, List.lookup_cons, List.find?_cons, ih]
    by_cases h : evidenceIdOf q = id
    · simp [h]
    · have h' : (id == evidenceIdOf q) = false := beq_eq_false_iff_ne.2 (Ne.symm h)
      simp [h, h']

theorem historyFlags_eq_nil {st : LoopState} {r : Mapping} :
    historyFlags st r = [] ↔ ∀ previous ∈ st.evidenceHistory.getLast?, Continues previous r := by
  unfold historyFlags
  rcases st.evidenceHistory.getLast? with _ | previous
  · simp
  rcases hm : (previous.get "revision").intValue? with _ | m
  · simp [Continues, hm]
  rcases hn : (r.get "revision").intValue? with _ | n
  · simp [Continues, hn]
  simp only [Option.mem_some_iff, forall_eq', Continues, hm, hn, Option.some.injEq]
  by_cases hlt : n < m
  · rw [if_pos hlt]
    refine ⟨fun h => by simp at h, fun h => ?_⟩
    have := (h m n rfl rfl).1
    omega
  · rw [if_neg hlt, flag_eq_nil]
    refine ⟨?_, fun h hne => ?_⟩
    · rintro h m' n' rfl rfl
      refine ⟨by omega, fun heq => ?_⟩
      simpa [heq] using h
    · obtain ⟨-, hsame⟩ := h m n rfl rfl
      obtain ⟨hread, heff⟩ := hsame hne.1.symm
      rcases hne.2 with h | h
      · exact h hread
      · exact h heff

theorem providerEvidence_clean {ids : ScopeIds} {st st' : LoopState} {r : Mapping}
    (hexpected : st.expectedEffect = st.binding.map ids.fingerprint)
    (hby : st.evidenceById = st.evidenceHistory.map fun r => (evidenceIdOf r, r)) :
    providerEvidence st r = .ok ([], st') ↔
      CleanEvidence ids st.binding st.evidenceHistory r ∧
      st' = { st with
        evidenceById := (st.evidenceHistory ++ [r]).map fun r => (evidenceIdOf r, r)
        evidenceHistory := st.evidenceHistory ++ [r] } := by
  have hfresh : ∀ {id : String}, (st.evidenceById.lookup id).isSome = true ↔
      ∃ q ∈ st.evidenceHistory, evidenceIdOf q = id := by
    intro id
    rw [hby, lookup_evidence, List.find?_isSome]
    simp
  simp only [providerEvidence, bind_eq_ok, Except.ok.injEq, Prod.mk.injEq,
    List.append_eq_nil_iff, flag_eq_nil, nonemptyStr?_eq_none, not_not, Bool.not_eq_false,
    effectFlags_eq_nil, historyFlags_eq_nil, hexpected]
  refine ⟨?_, ?_⟩
  · rintro ⟨known, hknown, ⟨⟨⟨⟨⟨hid, hrepeated⟩, hrev⟩, rfl⟩, heffect⟩, hhistory⟩, rfl⟩
    have hsome := nonemptyStr?_isText hid
    obtain ⟨n, hn⟩ := Option.ne_none_iff_exists'.1 hrev
    refine ⟨⟨hid, fun q hq heq => hrepeated ⟨_, hsome, hfresh.2 ⟨q, hq, heq⟩⟩,
      ⟨n, intFrom?_eq_some.1 hn⟩, inSet_eq_ok_true.1 hknown, fun b hb => ?_, hhistory⟩, ?_⟩
    · exact heffect _ (Option.mem_map_of_mem _ hb)
    · rw [if_neg hrepeated, hsome, hby]
      simp [evidenceIdOf]
  · rintro ⟨h, rfl⟩
    have hsome := nonemptyStr?_isText h.evidenceId
    have hrepeated : ¬∃ id ∈ (r.get "evidence_id").nonemptyStr?,
        (st.evidenceById.lookup id).isSome = true := by
      rintro ⟨id, hid, hmem⟩
      obtain rfl := Option.some.inj (hsome.symm.trans hid)
      obtain ⟨q, hq, heq⟩ := hfresh.1 hmem
      exact h.fresh q hq heq
    obtain ⟨n, hn⟩ := h.revision
    have hrev : intFrom? 0 (r.get "revision") ≠ none := by
      rw [intFrom?_eq_some.2 hn]
      simp
    refine ⟨true, inSet_eq_ok_true.2 h.readback,
      ⟨⟨⟨⟨⟨h.evidenceId, hrepeated⟩, hrev⟩, rfl⟩, fun e he => ?_⟩, h.history⟩, ?_⟩
    · obtain ⟨b, hb, rfl⟩ := Option.mem_map.1 he
      exact h.effect b hb
    · rw [if_neg hrepeated, hsome, hby]
      simp [evidenceIdOf]

theorem namedFlags_eq_nil {st : LoopState} {r : Mapping}
    (hby : st.evidenceById = st.evidenceHistory.map fun r => (evidenceIdOf r, r)) :
    namedFlags st r = [] ↔
      ∃ e, st.evidenceHistory.find? (fun q => evidenceIdOf q = evidenceIdOf r) = some e ∧
        Names r e := by
  unfold namedFlags
  rcases hnamed : namedEvidence? st r with _ | e
  · simp only [List.cons_ne_nil, false_iff]
    rintro ⟨e, he, hnames⟩
    have hid : evidenceIdOf e = evidenceIdOf r := by simpa using List.find?_some he
    unfold namedEvidence? at hnamed
    rw [hnames.evidenceId, hid, hby] at hnamed
    simp only [lookup_evidence] at hnamed
    rw [hnamed] at he
    cases he
  · rcases hid : r.get "evidence_id" with _ | _ | _ | _ | id | _ | _ <;>
      simp only [namedEvidence?, hid] at hnamed <;> try cases hnamed
    rw [hby, lookup_evidence] at hnamed
    have hrid : evidenceIdOf r = id := by rw [evidenceIdOf, hid, text]
    have heid : evidenceIdOf e = id := by simpa using List.find?_some hnamed
    simp only [List.append_eq_nil_iff, flag_eq_nil, not_not, hrid, hnamed, and_assoc]
    constructor
    · rintro ⟨hp, hr, he⟩
      exact ⟨e, rfl, ⟨by rw [hid, heid], hp, hr, he⟩⟩
    · rintro ⟨e', he', h⟩
      obtain rfl := Option.some.inj he'
      exact ⟨h.present, h.revision, h.effect⟩

theorem latestFlags_eq_nil {st : LoopState} {r : Mapping} :
    latestFlags st r = [] ↔
      ∀ m ∈ (revisionsOf st.evidenceHistory).max?, PyEq (r.get "revision") (.int m) := by
  simp [latestFlags]

theorem reconciliationCompletion_clean {ids : ScopeIds} {st st' : LoopState} {r : Mapping}
    (hexpected : st.expectedEffect = st.binding.map ids.fingerprint)
    (hby : st.evidenceById = st.evidenceHistory.map fun r => (evidenceIdOf r, r)) :
    reconciliationCompletion st r = ([], st') ↔
      CleanCompletion ids st.binding st.evidenceHistory st.completionCount r ∧
      st' = { st with completionCount := st.completionCount + 1 } := by
  simp only [reconciliationCompletion, Prod.mk.injEq, List.append_eq_nil_iff, flag_eq_nil,
    effectFlags_eq_nil, namedFlags_eq_nil hby, latestFlags_eq_nil, hexpected]
  refine ⟨?_, ?_⟩
  · rintro ⟨⟨⟨⟨hfirst, heffect⟩, hnamed⟩, hlatest⟩, rfl⟩
    exact ⟨⟨by omega, fun b hb => heffect _ (Option.mem_map_of_mem _ hb), hnamed, hlatest⟩, rfl⟩
  · rintro ⟨h, rfl⟩
    have hfirst := h.first
    refine ⟨⟨⟨⟨by omega, fun e he => ?_⟩, h.named⟩, h.latest⟩, rfl⟩
    obtain ⟨b, hb, rfl⟩ := Option.mem_map.1 he
    exact h.effect b hb

/-! ## One turn of the loop -/

theorem sequenceOf_eq {r : Mapping} {n : Int} (h : intFrom? 1 (r.get "sequence") = some n) :
    sequenceOf r = n := by
  rw [sequenceOf, h, Option.getD_some]

theorem CleanCommon.intFrom?_sequence {r : Mapping} (h : CleanCommon r) :
    intFrom? 1 (r.get "sequence") = some (sequenceOf r) := by
  have hpos := h.sequence_pos
  exact intFrom?_eq_some.2 ⟨h.sequence, by omega⟩

theorem commonFlags_eq_nil {r : Mapping} : commonFlags r = [] ↔ CleanCommon r := by
  simp only [commonFlags, List.append_eq_nil_iff, flag_eq_nil, nonemptyStr?_eq_none, not_not]
  refine ⟨?_, fun h => ⟨h.recordId, ?_⟩⟩
  · rintro ⟨hid, hseq⟩
    obtain ⟨n, hn⟩ := Option.ne_none_iff_exists'.1 hseq
    obtain rfl := sequenceOf_eq hn
    obtain ⟨heq, hpos⟩ := intFrom?_eq_some.1 hn
    exact ⟨hid, heq, by omega⟩
  · rw [h.intFrom?_sequence]
    simp

theorem noteCommon_clean {ids : ScopeIds} {done : List Mapping} {r : Mapping}
    (h : CleanCommon r) : noteCommon (stateAfter ids done) r = notedAfter ids done r := by
  unfold noteCommon notedAfter
  rw [nonemptyStr?_isText h.recordId, h.intFrom?_sequence]
  rfl

/-- The loop refuses a record of no known kind. -/
theorem kind_of_step {scope : Scope} {st st' : LoopState} {r : Mapping}
    (h : step scope st r = .ok ([], st')) : ∃ kind ∈ recordKinds, HasKind kind r := by
  obtain ⟨known, hknown, h⟩ := bind_eq_ok.1 h
  rcases known with _ | _
  · rw [if_pos rfl] at h
    have hnil := (Prod.mk.inj (Except.ok.inj h)).1
    simp at hnil
  · exact inSet_eq_ok_true.1 hknown

/-- The state after a record, by its kind. -/
theorem stateAfter_concat {ids : ScopeIds} {done : List Mapping} {r : Mapping} :
    stateAfter ids (done ++ [r]) = { notedAfter ids done r with
      eventIds := eventIds done ++ if HasKind "runtime_event" r then [eventIdOf r] else []
      binding := firstBinding done <|> if Binds r then some (bindingOf r) else none
      expectedEffect := (firstBinding done <|> if Binds r then some (bindingOf r) else none).map
        ids.fingerprint
      approvedSequence := if Decides "approved" r then some (sequenceOf r)
        else lastDecision "approved" done
      deniedSequence := if Decides "denied" r then some (sequenceOf r)
        else lastDecision "denied" done
      checkpoints := checkpointsOf done ++ if HasKind "checkpoint" r then [r] else []
      evidenceById := (evidenceOf done ++ if HasKind "provider_evidence" r then [r] else []).map
        fun r => (evidenceIdOf r, r)
      evidenceHistory := evidenceOf done ++ if HasKind "provider_evidence" r then [r] else []
      completionCount := (completionsOf done).length +
        if HasKind "reconciliation_completion" r then 1 else 0 } := by
  have hlast : ∀ d, lastDecision d (done ++ [r]) =
      if Decides d r then some (sequenceOf r) else lastDecision d done := by
    intro d
    unfold lastDecision
    rw [List.filter_append]
    split_ifs with h <;> simp [h]
  have hfirst : firstBinding (done ++ [r]) =
      (firstBinding done <|> if Binds r then some (bindingOf r) else none) := by
    unfold firstBinding
    rw [List.find?_append]
    rcases done.find? fun r => Binds r with _ | b
    · by_cases h : Binds r <;> simp [h]
    · rfl
  simp only [stateAfter, notedAfter, hlast, hfirst, eventIds, checkpointsOf, evidenceOf,
    completionsOf, List.filter_append, List.map_append, List.map_cons, List.map_nil,
    List.length_append, List.filter_singleton, Bool.cond_decide]
  congr 1 <;> split_ifs <;> rfl

/-- A branch finds nothing, and nothing was found before it. -/
theorem append_found_eq_ok {found : Except Raised (List String × LoopState)}
    {before : List String} {st' : LoopState} :
    (do let (more, next) ← found; .ok (before ++ more, next) :
      Except Raised (List String × LoopState)) = .ok ([], st') ↔
      before = [] ∧ found = .ok ([], st') := by
  rcases found with e | ⟨more, next⟩
  · simp
  · simp [and_assoc]

/-- One turn of the loop, by the kind of the record. -/
theorem step_eq_nil {scope : Scope} {st st' : LoopState} {r : Mapping} {kind : String}
    (hmem : kind ∈ recordKinds) (hkind : HasKind kind r) :
    step scope st r = .ok ([], st') ↔ commonFlags r = [] ∧
      if kind = "runtime_event" then runtimeEvent scope (noteCommon st r) r = .ok ([], st')
      else if kind = "checkpoint" then checkpoint scope (noteCommon st r) r = ([], st')
      else operationFlags scope r = [] ∧ operation scope (noteCommon st r) r = .ok ([], st') := by
  have hknown : inSet (.str kind) recordKinds = .ok true := by simp [inSet, hmem]
  unfold HasKind at hkind
  simp only [step, hkind, hknown, ok_bind, Bool.true_eq_false, if_false, Json.str.injEq]
  split_ifs
  · rw [append_found_eq_ok]
  · simp [and_assoc, Prod.ext_iff]
  · rw [append_found_eq_ok, List.append_eq_nil_iff, and_assoc]

/-! ## One turn of the loop, kind by kind -/

section kinds

variable {ids : ScopeIds} {done : List Mapping} {r : Mapping} {st' : LoopState}

theorem CleanBinding.getD {bound : Option (String × String)} (h : CleanBinding ids bound r) :
    bound.getD (bindingOf r) = bindingOf r := by
  rcases bound with _ | b
  · rfl
  · exact h.bound b rfl

/-- An approval that does not deny approves. -/
theorem denied_iff (h : ∃ d ∈ decisions, r.get "decision" = .str d) :
    r.get "decision" = .str "denied" ↔ ¬r.get "decision" = .str "approved" := by
  obtain ⟨d, hd, heq⟩ := h
  simp only [decisions, List.mem_cons, List.not_mem_nil, or_false] at hd
  rcases hd with rfl | rfl <;> simp [heq]

theorem cleanRecord_event (h : HasKind "runtime_event" r) (hcommon : CleanCommon r) :
    CleanRecord ids done r ↔ CleanEvent ids (eventIds done) r := by
  simp [cleanRecord_iff, hcommon, h.iff, Binds, recordKinds]

theorem cleanRecord_checkpoint (h : HasKind "checkpoint" r) (hcommon : CleanCommon r) :
    CleanRecord ids done r ↔ r.get "run_id" = .str ids.runId := by
  simp [cleanRecord_iff, hcommon, h.iff, Binds, recordKinds]

theorem step_event (h : HasKind "runtime_event" r) (hcommon : CleanCommon r) :
    step ids.scope (stateAfter ids done) r = .ok ([], st') ↔
      CleanRecord ids done r ∧ st' = stateAfter ids (done ++ [r]) := by
  have hstate : stateAfter ids (done ++ [r]) =
      { notedAfter ids done r with eventIds := eventIds done ++ [eventIdOf r] } := by
    rw [stateAfter_concat]
    simp [h.iff, Binds, Decides, notedAfter, stateAfter]
  rw [step_eq_nil (by decide) h, if_pos rfl, commonFlags_eq_nil, noteCommon_clean hcommon,
    runtimeEvent_clean, cleanRecord_event h hcommon, hstate, and_iff_right hcommon]
  exact Iff.rfl

theorem step_checkpoint (h : HasKind "checkpoint" r) (hcommon : CleanCommon r) :
    step ids.scope (stateAfter ids done) r = .ok ([], st') ↔
      CleanRecord ids done r ∧ st' = stateAfter ids (done ++ [r]) := by
  have hstate : stateAfter ids (done ++ [r]) =
      { notedAfter ids done r with checkpoints := checkpointsOf done ++ [r] } := by
    rw [stateAfter_concat]
    simp [h.iff, Binds, Decides, notedAfter, stateAfter]
  rw [step_eq_nil (by decide) h, if_neg (by decide), if_pos rfl, commonFlags_eq_nil,
    noteCommon_clean hcommon, checkpoint_clean, cleanRecord_checkpoint h hcommon, hstate,
    and_iff_right hcommon]
  exact Iff.rfl

theorem step_approval (h : HasKind "approval" r) (hcommon : CleanCommon r) :
    step ids.scope (stateAfter ids done) r = .ok ([], st') ↔
      CleanRecord ids done r ∧ st' = stateAfter ids (done ++ [r]) := by
  have hclean : CleanRecord ids done r ↔
      (r.get "operation_id" = .str ids.operationId ∧ r.get "provider" = .str ids.provider) ∧
        CleanBinding ids (firstBinding done) r ∧
        ∃ d ∈ decisions, r.get "decision" = .str d := by
    simp [cleanRecord_iff, hcommon, h.iff, Binds, recordKinds]
  have hop : operation ids.scope (notedAfter ids done r) r =
      approval ids.scope (notedAfter ids done r) r := if_pos h
  rw [step_eq_nil (by decide) h, if_neg (by decide), if_neg (by decide), commonFlags_eq_nil,
    noteCommon_clean hcommon, hop, operationFlags_eq_nil,
    approval_clean rfl hcommon.sequence, hclean, and_iff_right hcommon, and_assoc (a := _ ∧ _)]
  refine and_congr_right fun _ => and_congr_right fun hdecided => ?_
  have hbound : (firstBinding done).getD (bindingOf r) = bindingOf r := hdecided.1.getD
  have hstate : stateAfter ids (done ++ [r]) = { notedAfter ids done r with
      binding := some (bindingOf r)
      expectedEffect := some (ids.fingerprint (bindingOf r))
      approvedSequence := if r.get "decision" = .str "approved" then some (sequenceOf r)
        else lastDecision "approved" done
      deniedSequence := if r.get "decision" = .str "approved" then lastDecision "denied" done
        else some (sequenceOf r) } := by
    rw [stateAfter_concat]
    simp [h.iff, Binds, Decides, hbound, denied_iff hdecided.2, notedAfter, stateAfter]
  rw [hstate]
  exact Iff.rfl

theorem step_effect (h : HasKind "effect" r) (hcommon : CleanCommon r) :
    step ids.scope (stateAfter ids done) r = .ok ([], st') ↔
      CleanRecord ids done r ∧ st' = stateAfter ids (done ++ [r]) := by
  have hclean : CleanRecord ids done r ↔
      (r.get "operation_id" = .str ids.operationId ∧ r.get "provider" = .str ids.provider) ∧
        CleanBinding ids (firstBinding done) r ∧
        Permitted (lastDecision "approved" done) (lastDecision "denied" done) (sequenceOf r) := by
    simp [cleanRecord_iff, hcommon, h.iff, Binds, recordKinds]
  have hop : operation ids.scope (notedAfter ids done r) r =
      .ok (effect ids.scope (notedAfter ids done r) r) := by
    simp [operation, show r.get "kind" = _ from h]
  rw [step_eq_nil (by decide) h, if_neg (by decide), if_neg (by decide), commonFlags_eq_nil,
    noteCommon_clean hcommon, hop, operationFlags_eq_nil, Except.ok.injEq,
    effect_clean rfl hcommon.sequence, hclean, and_iff_right hcommon, and_assoc (a := _ ∧ _)]
  refine and_congr_right fun _ => and_congr_right fun hb => ?_
  have hbound : (firstBinding done).getD (bindingOf r) = bindingOf r := hb.1.getD
  have hstate : stateAfter ids (done ++ [r]) = { notedAfter ids done r with
      binding := some (bindingOf r)
      expectedEffect := some (ids.fingerprint (bindingOf r)) } := by
    rw [stateAfter_concat]
    simp [h.iff, Binds, Decides, hbound, notedAfter, stateAfter]
  rw [hstate]

theorem step_evidence (h : HasKind "provider_evidence" r) (hcommon : CleanCommon r) :
    step ids.scope (stateAfter ids done) r = .ok ([], st') ↔
      CleanRecord ids done r ∧ st' = stateAfter ids (done ++ [r]) := by
  have hclean : CleanRecord ids done r ↔
      (r.get "operation_id" = .str ids.operationId ∧ r.get "provider" = .str ids.provider) ∧
        CleanEvidence ids (firstBinding done) (evidenceOf done) r := by
    simp [cleanRecord_iff, hcommon, h.iff, Binds, recordKinds]
  have hstate : stateAfter ids (done ++ [r]) = { notedAfter ids done r with
      evidenceById := (evidenceOf done ++ [r]).map fun r => (evidenceIdOf r, r)
      evidenceHistory := evidenceOf done ++ [r] } := by
    rw [stateAfter_concat]
    simp [h.iff, Binds, Decides, notedAfter, stateAfter]
  have hop : operation ids.scope (notedAfter ids done r) r =
      providerEvidence (notedAfter ids done r) r := by
    simp [operation, show r.get "kind" = _ from h]
  rw [step_eq_nil (by decide) h, if_neg (by decide), if_neg (by decide), commonFlags_eq_nil,
    noteCommon_clean hcommon, hop, operationFlags_eq_nil, providerEvidence_clean rfl rfl,
    hclean, hstate, and_iff_right hcommon, and_assoc (a := _ ∧ _)]
  exact Iff.rfl

theorem step_completion (h : HasKind "reconciliation_completion" r) (hcommon : CleanCommon r) :
    step ids.scope (stateAfter ids done) r = .ok ([], st') ↔
      CleanRecord ids done r ∧ st' = stateAfter ids (done ++ [r]) := by
  have hclean : CleanRecord ids done r ↔
      (r.get "operation_id" = .str ids.operationId ∧ r.get "provider" = .str ids.provider) ∧
        CleanCompletion ids (firstBinding done) (evidenceOf done) (completionsOf done).length
          r := by
    simp [cleanRecord_iff, hcommon, h.iff, Binds, recordKinds]
  have hstate : stateAfter ids (done ++ [r]) = { notedAfter ids done r with
      completionCount := (completionsOf done).length + 1 } := by
    rw [stateAfter_concat]
    simp [h.iff, Binds, Decides, notedAfter, stateAfter]
  have hop : operation ids.scope (notedAfter ids done r) r =
      .ok (reconciliationCompletion (notedAfter ids done r) r) := by
    simp [operation, show r.get "kind" = _ from h]
  rw [step_eq_nil (by decide) h, if_neg (by decide), if_neg (by decide), commonFlags_eq_nil,
    noteCommon_clean hcommon, hop, operationFlags_eq_nil, Except.ok.injEq,
    reconciliationCompletion_clean rfl rfl, hclean, hstate, and_iff_right hcommon,
    and_assoc (a := _ ∧ _)]
  exact Iff.rfl

end kinds

/-- One turn of the loop after clean records. -/
theorem step_clean_iff {ids : ScopeIds} {done : List Mapping} {r : Mapping} {st' : LoopState} :
    step ids.scope (stateAfter ids done) r = .ok ([], st') ↔
      CleanRecord ids done r ∧ st' = stateAfter ids (done ++ [r]) := by
  by_cases hkinds : ∃ kind ∈ recordKinds, HasKind kind r
  swap
  · exact ⟨fun h => absurd (kind_of_step h) hkinds, fun h => absurd h.1.kind hkinds⟩
  obtain ⟨kind, hmem, hkind⟩ := hkinds
  by_cases hcommon : CleanCommon r
  swap
  · refine ⟨fun h => absurd ?_ hcommon, fun h => absurd h.1.common hcommon⟩
    exact commonFlags_eq_nil.1 ((step_eq_nil hmem hkind).1 h).1
  simp only [recordKinds, List.mem_cons, List.not_mem_nil, or_false] at hmem
  obtain rfl | rfl | rfl | rfl | rfl | rfl := hmem
  · exact step_event hkind hcommon
  · exact step_approval hkind hcommon
  · exact step_effect hkind hcommon
  · exact step_checkpoint hkind hcommon
  · exact step_evidence hkind hcommon
  · exact step_completion hkind hcommon

end clean

end TraceIntegrity

end ReliabilityLab
