import ReliabilityLab.TraceLineage

/-!
# Mutations of traces

`applyMutation` : replace or remove the value at a JSON pointer. A mutation that points at
a field of a record changes that record only (`applyMutation_record`).

`tampering_detected` is the law behind the frozen mutation corpus. A trace and a mutation
of it that were both accepted would agree on every fact that acceptance forces : a record
of the scope names its identifiers, an effect has an earlier approval of its binding, a
completion has the revision and effect of the evidence it names, a checkpoint follows its
predecessor. So replacing a guarded field by another value is always detected, and so is a
sequence or event id that another record has.
-/

set_option linter.unusedSectionVars false

open Serial

namespace ReliabilityLab

namespace TraceIntegrity

open Json

/-! ## JSON pointers -/

/-- `text.replace(a + b, c)`. -/
def replacePair (a b c : Char) : List Char → List Char
  | [] => []
  | [x] => [x]
  | x :: y :: cs =>
    if x = a ∧ y = b then c :: replacePair a b c cs else x :: replacePair a b c (y :: cs)

theorem replacePair_cons_of_ne {a b c x : Char} (hx : x ≠ a) (cs : List Char) :
    replacePair a b c (x :: cs) = x :: replacePair a b c cs := by
  rcases cs with _ | ⟨y, cs⟩
  · rfl
  · rw [replacePair, if_neg fun h => hx h.1]

theorem replacePair_of_not_mem {a b c : Char} {cs : List Char} (h : a ∉ cs) :
    replacePair a b c cs = cs := by
  induction cs with
  | nil => rfl
  | cons x cs ih =>
    rw [List.mem_cons, not_or] at h
    obtain ⟨hx, hcs⟩ := h
    rw [replacePair_cons_of_ne (Ne.symm hx), ih hcs]

/-- The tokens of a pointer. -/
def pointerTokens (pointer : String) : Except Raised (List String) :=
  match pointer.toList with
  | '/' :: rest =>
    let tokens := (rest.splitOn '/').map fun token =>
      String.ofList (replacePair '~' '0' '~' (replacePair '~' '1' '/' token))
    if tokens = [""] then .error ⟨.valueError, "mutation path must target a child value"⟩
    else .ok tokens
  | _ => .error ⟨.valueError, "mutation path must be an absolute JSON pointer"⟩

/-- The position in a list of `length` items that an index stands for. -/
def position? (length : Nat) (index : Int) : Option Nat :=
  let k := if index < 0 then index + length else index
  if 0 ≤ k ∧ k < length then some k.toNat else none

/-- An index in range, as a numeral that `int` reads, stands for its position. -/
theorem parseInt_position {n i : Nat} (hi : i < n) (hlen : (Nat.toDigits 10 i).length ≤ 4300) :
    (parseInt 10 (toString i)).bind (position? n) = some i := by
  rw [parseInt_toString hlen, Option.bind_some]
  have hposition : ¬(i : Int) < 0 := by omega
  simp [position?, hposition, hi]

section mutations

variable [PyRepr]

/-- The position that `int(token)` stands for. -/
def listPosition (length : Nat) (token : String) (message : String) : Except Raised Nat := do
  let index ← orRaise (parseInt 10 token)
    ⟨.valueError, "invalid literal for int() with base 10: " ++ PyRepr.repr (.str token)⟩
  orRaise (position? length index) ⟨.indexError, message⟩

/-- The document with the parent of the pointer's target changed by `target`. -/
def descend (target : Json → String → Except Raised Json) :
    Json → List String → Except Raised Json
  | document, [] => .ok document
  | parent, [token] => target parent token
  | .list items, token :: tokens => do
    let k ← listPosition items.length token "list index out of range"
    let item ← descend target (items[k]?.getD .null) tokens
    .ok (.list (items.set k item))
  | .dict members, token :: tokens => do
    let item ← orRaise (members.lookup token) ⟨.keyError, token⟩
    let changed ← descend target item tokens
    .ok (.dict (Mapping.set members token changed))
  | _, token :: _ =>
    .error ⟨.typeError, "mutation path crosses a scalar at " ++ PyRepr.repr (.str token)⟩

/-- Replace the value under a token of the parent. -/
def replaceIn (mutation : Mapping) (parent : Json) (token : String) : Except Raised Json := do
  let value ← orRaise (mutation.get? "value") ⟨.valueError, "replace mutation requires value"⟩
  match parent with
  | .list items => do
    let k ← listPosition items.length token "list assignment index out of range"
    .ok (.list (items.set k value))
  | .dict members => do
    raiseIf (Mapping.get? members token = none) ⟨.keyError, token⟩
    .ok (.dict (Mapping.set members token value))
  | _ => .error ⟨.valueError, "replace target parent must be a list or object"⟩

/-- Remove the value under a token of the parent. -/
def removeIn (parent : Json) (token : String) : Except Raised Json :=
  match parent with
  | .list items => do
    let k ← listPosition items.length token "list assignment index out of range"
    .ok (.list (items.eraseIdx k))
  | .dict members => do
    raiseIf (Mapping.get? members token = none) ⟨.keyError, token⟩
    .ok (.dict (Mapping.del members token))
  | _ => .error ⟨.valueError, "remove target parent must be a list or object"⟩

/-- The operator of a mutation. -/
def operate (mutation : Mapping) (parent : Json) (token : String) : Except Raised Json :=
  let operator := mutation.get "operator"
  if operator = .str "replace" then replaceIn mutation parent token
  else if operator = .str "remove" then removeIn parent token
  else .error ⟨.valueError, "unsupported mutation operator: " ++ PyRepr.repr operator⟩

/-- Apply one deterministic replace/remove mutation to a copy of a trace. -/
def applyMutation (trace mutation : Mapping) : Except Raised Mapping :=
  match mutation.get "path" with
  | .str path => do
    let tokens ← pointerTokens path
    let mutated ← descend (operate mutation) (.dict trace) tokens
    .ok mutated.members
  | _ => .error ⟨.typeError, "mutation path must be a string"⟩

/-! ## Mutations of one field of a record -/

/-- The mutation points at the field `field` of the record at position `i` of `n`. -/
def PointsAt (mutation : Mapping) (n i : Nat) (field : String) : Prop :=
  ∃ path token, mutation.get "path" = .str path ∧
    pointerTokens path = .ok ["records", token, field] ∧
    (parseInt 10 token).bind (position? n) = some i

/-- A token without `/` and `~` stands for itself. -/
def Plain (token : String) : Prop :=
  '/' ∉ token.toList ∧ '~' ∉ token.toList

theorem plain_toString (i : Nat) : Plain (toString i) := by
  have hdigit : ∀ c ∈ (toString i).toList, c.isDigit = true := by
    intro c hc
    rw [Nat.toString_eq_ofList_toDigits, String.toList_ofList] at hc
    exact Nat.isDigit_of_mem_toDigits (by decide) (by decide) hc
  exact ⟨fun h => absurd (hdigit _ h) (by decide), fun h => absurd (hdigit _ h) (by decide)⟩

/-- The tokens of the pointer of a field of a record. -/
theorem pointerTokens_record {token field : String} (htoken : Plain token) (hfield : Plain field) :
    pointerTokens ("/records/" ++ token ++ "/" ++ field) = .ok ["records", token, field] := by
  have hpath : ("/records/" ++ token ++ "/" ++ field).toList =
      '/' :: ("records".toList ++ '/' :: (token.toList ++ '/' :: field.toList)) := by
    simp
  have hsplit : ("records".toList ++ '/' :: (token.toList ++ '/' :: field.toList)).splitOn '/' =
      ["records".toList, token.toList, field.toList] := by
    have hplain : ∀ {cs : List Char}, '/' ∉ cs → ∀ c ∈ cs, (c == '/') = false := by
      intro cs hcs c hc
      exact beq_eq_false_iff_ne.2 fun heq => hcs (heq ▸ hc)
    rw [List.splitOn_eq_splitOnP,
      List.splitOnP_append_cons_of_forall_mem (hplain (by decide)) _ rfl,
      List.splitOnP_append_cons_of_forall_mem (hplain htoken.1) _ rfl,
      List.splitOnP_eq_singleton (hplain hfield.1)]
  have hself : ∀ {text : String}, '~' ∉ text.toList →
      String.ofList (replacePair '~' '0' '~' (replacePair '~' '1' '/' text.toList)) = text := by
    intro text htext
    rw [replacePair_of_not_mem htext, replacePair_of_not_mem htext, String.ofList_toList]
  unfold pointerTokens
  rw [hpath]
  simp only [hsplit, List.map_cons, List.map_nil, hself htoken.2, hself hfield.2]
  rw [hself (by decide), if_neg (by simp)]

/-- The path `/records/i/field` points at the field of the record at `i`. -/
theorem pointsAt_path {mutation : Mapping} {n i : Nat} {field : String} (hi : i < n)
    (hlen : (Nat.toDigits 10 i).length ≤ 4300) (hfield : Plain field)
    (hpath : mutation.get "path" = .str ("/records/" ++ toString i ++ "/" ++ field)) :
    PointsAt mutation n i field :=
  ⟨_, toString i, hpath, pointerTokens_record (plain_toString i) hfield,
    parseInt_position hi hlen⟩

theorem listPosition_eq_ok {n i : Nat} {token message : String} :
    listPosition n token message = .ok i ↔ (parseInt 10 token).bind (position? n) = some i := by
  unfold listPosition
  rw [orRaise_bind_eq_ok, Option.bind_eq_some_iff]
  simp only [orRaise_eq_ok]

/-- A mutation that points at a field of a record changes that record. -/
theorem applyMutation_record {trace mutation : Mapping} {items : List Json} {i : Nat}
    {field : String} {item : Json} (hrecords : trace.get "records" = .list items)
    (hpoints : PointsAt mutation items.length i field) (hitem : items[i]? = some item) :
    applyMutation trace mutation = (operate mutation item field).map fun changed =>
      trace.set "records" (.list (items.set i changed)) := by
  obtain ⟨path, token, hpath, htokens, hindex⟩ := hpoints
  have hlookup : trace.lookup "records" = some (.list items) := by
    rcases hget : trace.get? "records" with _ | records
    · simp [Mapping.get_eq_null_of_get? hget] at hrecords
    · simp only [Mapping.get, hget, Option.getD_some] at hrecords
      rw [← hrecords]
      exact hget
  unfold applyMutation
  rw [hpath]
  simp only [htokens, ok_bind, descend, hlookup, orRaise, listPosition_eq_ok.2 hindex, hitem,
    Option.getD_some]
  rcases operate mutation item field with e | changed <;> rfl

end mutations

/-! ## Tampering -/

/-- The fields of a kind of record whose value acceptance determines. -/
def guardedFields : String → List String
  | "runtime_event" => ["run_id", "turn_id"]
  | "checkpoint" => ["run_id", "parent_checkpoint_id", "checkpoint_sequence"]
  | "approval" => ["provider", "operation_id", "effect_sha256"]
  | "effect" => ["provider", "operation_id", "tool", "payload_sha256", "effect_sha256"]
  | "provider_evidence" => ["provider", "operation_id"]
  | "reconciliation_completion" => ["provider", "operation_id", "revision", "effect_sha256"]
  | _ => []

/-- Writing `value` into `field` of the record at `i` changes a guarded field, or repeats
the sequence or event id of another record. -/
inductive Tampers (rs : List Mapping) (i : Nat) (r : Mapping) : String → Json → Prop
  | guarded {kind field : String} {value : Json} : HasKind kind r → field ∈ guardedFields kind →
      ¬PyEq value (r.get field) → Tampers rs i r field value
  | sequence {j : Nat} {q : Mapping} {value : Json} : j ≠ i → rs[j]? = some q →
      PyEq value (q.get "sequence") → Tampers rs i r "sequence" value
  | eventId {j : Nat} {q : Mapping} {value : Json} : HasKind "runtime_event" r → j ≠ i →
      rs[j]? = some q → HasKind "runtime_event" q → PyEq value (q.get "event_id") →
      Tampers rs i r "event_id" value

section tampering

variable [Hashlib] {ids : ScopeIds} {pre post : List Mapping} {r r' : Mapping}

/-- Both of two values are one text. -/
theorem pyEq_of_str {a b : Json} {s : String} (ha : a = .str s) (hb : b = .str s) : PyEq a b := by
  rw [ha, hb, pyEq_str]

theorem Accepted.eventIds_pairwise {rs : List Mapping} (h : Accepted ids rs) :
    (rs.filter fun r => HasKind "runtime_event" r).Pairwise fun q r =>
      eventIdOf q ≠ eventIdOf r := by
  refine EachAfter.pairwise_filter_of_all fun pre r post hrs hkind q hq heq => ?_
  subst hrs
  refine (h.clean.event (by simpa using hkind)).fresh ?_
  rw [← heq]
  exact List.mem_map_of_mem hq

/-- A checkpoint without predecessor is a root, and another follows its predecessor. -/
theorem Accepted.checkpoint_link (h : Accepted ids (pre ++ r :: post))
    (hkind : HasKind "checkpoint" r) :
    (checkpointsOf pre = [] → IsRoot r) ∧
      ∀ p ∈ (checkpointsOf pre).getLast?, CleanCheckpoint p ∧ Follows p r := by
  obtain ⟨hclean, hroot, hchain⟩ := checkpointChain_none.1 h.checkpoints
  have hsplit : checkpointsOf (pre ++ r :: post) =
      checkpointsOf pre ++ r :: checkpointsOf post := by
    simp [checkpointsOf, hkind]
  rw [hsplit] at hclean hroot hchain
  refine ⟨fun hnil => hroot r (by simp [hnil]), fun p hp => ⟨?_, ?_⟩⟩
  · exact hclean p (List.mem_append_left _ (List.mem_of_getLast? hp))
  · exact (List.isChain_append.1 hchain).2.2 p hp r rfl

/-! What two accepted traces that differ at one position say of the records there. -/

theorem parent_agree (h : Accepted ids (pre ++ r :: post)) (h' : Accepted ids (pre ++ r' :: post))
    (hkind : HasKind "checkpoint" r) (hkind' : HasKind "checkpoint" r') :
    PyEq (r'.get "parent_checkpoint_id") (r.get "parent_checkpoint_id") := by
  obtain ⟨hroot, hlink⟩ := h.checkpoint_link hkind
  obtain ⟨hroot', hlink'⟩ := h'.checkpoint_link hkind'
  rcases hlast : (checkpointsOf pre).getLast? with _ | p
  · have hnil := List.getLast?_eq_none_iff.1 hlast
    rw [(hroot hnil).parent, (hroot' hnil).parent, pyEq_null]
  · exact (hlink' p hlast).2.parent.trans (hlink p hlast).2.parent.symm

theorem sequence_agree (h : Accepted ids (pre ++ r :: post))
    (h' : Accepted ids (pre ++ r' :: post)) (hkind : HasKind "checkpoint" r)
    (hkind' : HasKind "checkpoint" r') :
    PyEq (r'.get "checkpoint_sequence") (r.get "checkpoint_sequence") := by
  obtain ⟨hroot, hlink⟩ := h.checkpoint_link hkind
  obtain ⟨hroot', hlink'⟩ := h'.checkpoint_link hkind'
  rcases hlast : (checkpointsOf pre).getLast? with _ | p
  · have hnil := List.getLast?_eq_none_iff.1 hlast
    exact (hroot' hnil).sequence.trans (hroot hnil).sequence.symm
  · obtain ⟨hclean, hfollows⟩ := hlink p hlast
    obtain ⟨n, hn, -⟩ := hclean.sequence
    exact ((hlink' p hlast).2.sequence n hn).trans (hfollows.sequence n hn).symm

/-- Records of one tool and payload carry one fingerprint. -/
theorem fingerprint_agree (h : Accepted ids (pre ++ r :: post))
    (h' : Accepted ids (pre ++ r' :: post)) (hbinds : Binds r) (hbinds' : Binds r')
    (htool : r'.get "tool" = r.get "tool")
    (hpayload : r'.get "payload_sha256" = r.get "payload_sha256") :
    PyEq (r'.get "effect_sha256") (r.get "effect_sha256") := by
  have hsame : bindingOf r' = bindingOf r := by rw [bindingOf, bindingOf, htool, hpayload]
  exact pyEq_of_str (hsame ▸ (h'.clean.binding hbinds').effect) (h.clean.binding hbinds).effect

/-- An effect has the tool and payload of an earlier approval. -/
theorem binding_agree (h : Accepted ids (pre ++ r :: post))
    (h' : Accepted ids (pre ++ r' :: post)) (hkind : HasKind "effect" r)
    (hkind' : HasKind "effect" r') : PyEq (r'.get "tool") (r.get "tool") ∧
      PyEq (r'.get "payload_sha256") (r.get "payload_sha256") := by
  obtain ⟨a, ha, hdec, -⟩ := h.exists_approval hkind
  have hbinds : Binds a := Or.inl hdec.decision.1
  obtain ⟨htool, hpayload, -⟩ := h.same_binding (List.mem_append_left _ ha) (by simp) hbinds
    (Or.inr hkind)
  obtain ⟨htool', hpayload', -⟩ := h'.same_binding (List.mem_append_left _ ha) (by simp) hbinds
    (Or.inr hkind')
  have hbinding := h.clean.binding (Or.inr hkind)
  exact ⟨pyEq_of_str (htool'.symm.trans (htool.trans hbinding.tool_eq)) hbinding.tool_eq,
    pyEq_of_str (hpayload'.symm.trans (hpayload.trans hbinding.payload_eq)) hbinding.payload_eq⟩

/-- A completion has the revision and effect of the evidence it names. -/
theorem completion_agree (h : Accepted ids (pre ++ r :: post))
    (h' : Accepted ids (pre ++ r' :: post)) (hkind : HasKind "reconciliation_completion" r)
    (hkind' : HasKind "reconciliation_completion" r')
    (hid : r'.get "evidence_id" = r.get "evidence_id") :
    PyEq (r'.get "revision") (r.get "revision") ∧
      PyEq (r'.get "effect_sha256") (r.get "effect_sha256") := by
  obtain ⟨e, hfind, hnames⟩ := (h.clean.completion hkind).named
  obtain ⟨e', hfind', hnames'⟩ := (h'.clean.completion hkind').named
  rw [evidenceIdOf, hid] at hfind'
  obtain rfl := Option.some.inj (hfind.symm.trans hfind')
  exact ⟨hnames'.revision.symm.trans hnames.revision, hnames'.effect.symm.trans hnames.effect⟩

theorem scope_agree (h : Accepted ids (pre ++ r :: post))
    (h' : Accepted ids (pre ++ r' :: post)) {kind : String} (hkind : HasKind kind r)
    (hkind' : HasKind kind r')
    (hne : kind ≠ "runtime_event" ∧ kind ≠ "checkpoint" := by decide) :
    PyEq (r'.get "provider") (r.get "provider") ∧
      PyEq (r'.get "operation_id") (r.get "operation_id") := by
  obtain ⟨hoperation, hprovider⟩ := h.clean.scope hkind hne
  obtain ⟨hoperation', hprovider'⟩ := h'.clean.scope hkind' hne
  exact ⟨pyEq_of_str hprovider' hprovider, pyEq_of_str hoperation' hoperation⟩

/-- The records of two accepted traces that differ in one guarded field of one record only
agree on it. -/
theorem guarded_agree (h : Accepted ids (pre ++ r :: post)) (h' : Accepted ids (pre ++ r' :: post))
    {kind field : String} (hkind : HasKind kind r) (hguarded : field ∈ guardedFields kind)
    (hsame : ∀ k, k ≠ field → r'.get k = r.get k) : PyEq (r'.get field) (r.get field) := by
  have hfield : "kind" ≠ field := by
    rintro rfl
    unfold guardedFields at hguarded
    split at hguarded <;> exact absurd hguarded (by decide)
  have hkind' : HasKind kind r' := (hsame "kind" hfield).trans hkind
  obtain ⟨known, hmem, hknown⟩ := h.clean.kind
  obtain rfl := hkind.iff.1 hknown
  simp only [recordKinds, List.mem_cons, List.not_mem_nil, or_false] at hmem
  obtain rfl | rfl | rfl | rfl | rfl | rfl := hmem <;>
    simp only [guardedFields, List.mem_cons, List.not_mem_nil, or_false] at hguarded
  · have hevent := h.clean.event hkind
    have hevent' := h'.clean.event hkind'
    obtain rfl | rfl := hguarded
    · exact pyEq_of_str hevent'.runId hevent.runId
    · exact pyEq_of_str hevent'.turnId hevent.turnId
  · obtain rfl | rfl | rfl := hguarded
    · exact (scope_agree h h' hkind hkind').1
    · exact (scope_agree h h' hkind hkind').2
    · exact fingerprint_agree h h' (Or.inl hkind) (Or.inl hkind') (hsame _ (by decide))
        (hsame _ (by decide))
  · obtain rfl | rfl | rfl | rfl | rfl := hguarded
    · exact (scope_agree h h' hkind hkind').1
    · exact (scope_agree h h' hkind hkind').2
    · exact (binding_agree h h' hkind hkind').1
    · exact (binding_agree h h' hkind hkind').2
    · exact fingerprint_agree h h' (Or.inr hkind) (Or.inr hkind') (hsame _ (by decide))
        (hsame _ (by decide))
  · obtain rfl | rfl | rfl := hguarded
    · exact pyEq_of_str (h'.clean.checkpoint hkind') (h.clean.checkpoint hkind)
    · exact parent_agree h h' hkind hkind'
    · exact sequence_agree h h' hkind hkind'
  · obtain rfl | rfl := hguarded
    · exact (scope_agree h h' hkind hkind').1
    · exact (scope_agree h h' hkind hkind').2
  · obtain rfl | rfl | rfl | rfl := hguarded
    · exact (scope_agree h h' hkind hkind').1
    · exact (scope_agree h h' hkind hkind').2
    · exact (completion_agree h h' hkind hkind' (hsame _ (by decide))).1
    · exact (completion_agree h h' hkind hkind' (hsame _ (by decide))).2

/-- Another record of an accepted trace has another sequence. -/
theorem Accepted.sequence_ne (h : Accepted ids (pre ++ r :: post)) {q : Mapping}
    (hq : q ∈ pre ∨ q ∈ post) : ¬PyEq (r.get "sequence") (q.get "sequence") := by
  intro heq
  have hmem : q ∈ pre ++ r :: post := by
    rcases hq with hq | hq <;> simp [hq]
  obtain ⟨_, _, -, hclean⟩ := h.clean_of_mem hmem
  rw [h.clean.common.sequence, hclean.common.sequence, pyEq_of_intValue? rfl rfl] at heq
  have hinc := h.increasing
  rw [List.pairwise_map, List.pairwise_append, List.pairwise_cons] at hinc
  obtain ⟨-, ⟨hpost, -⟩, hpre⟩ := hinc
  rcases hq with hq | hq
  · have := hpre q hq r List.mem_cons_self
    omega
  · have := hpost q hq
    omega

/-- Another event of an accepted trace has another id. -/
theorem Accepted.eventId_ne (h : Accepted ids (pre ++ r :: post)) {q : Mapping}
    (hkind : HasKind "runtime_event" r) (hkind' : HasKind "runtime_event" q)
    (hq : q ∈ pre ∨ q ∈ post) : ¬PyEq (r.get "event_id") (q.get "event_id") := by
  intro heq
  have hid := (h.clean.event hkind).eventId.1
  rw [hid, pyEq_comm, pyEq_str] at heq
  have hsame : eventIdOf q = eventIdOf r := by rw [eventIdOf, heq, text]; rfl
  have hpairs := h.eventIds_pairwise
  rw [List.filter_append, List.filter_cons_of_pos (by simpa using hkind), List.pairwise_append,
    List.pairwise_cons] at hpairs
  obtain ⟨-, ⟨hpost, -⟩, hpre⟩ := hpairs
  rcases hq with hq | hq
  · exact hpre q (by simp [hq, hkind']) r List.mem_cons_self hsame
  · exact hpost q (by simp [hq, hkind']) hsame.symm

/-- The record at another position stands before or after. -/
theorem mem_of_getElem?_ne {j : Nat} {q : Mapping} (hj : j ≠ pre.length)
    (hq : (pre ++ r :: post)[j]? = some q) : q ∈ pre ∨ q ∈ post := by
  rcases Nat.lt_or_gt_of_ne hj with hlt | hgt
  · rw [List.getElem?_append_left hlt] at hq
    exact Or.inl (List.mem_of_getElem? hq)
  · rw [List.getElem?_append_right (by omega)] at hq
    obtain ⟨k, hk⟩ : ∃ k, j - pre.length = k + 1 := ⟨j - pre.length - 1, by omega⟩
    rw [hk, List.getElem?_cons_succ] at hq
    exact Or.inr (List.mem_of_getElem? hq)

/-- A tampered record is not accepted in its place. -/
theorem not_accepted_of_tampers (h : Accepted ids (pre ++ r :: post)) {field : String}
    {value : Json} (htamper : Tampers (pre ++ r :: post) pre.length r field value)
    (hsame : ∀ k, k ≠ field → r'.get k = r.get k) (hvalue : r'.get field = value) :
    ¬Accepted ids (pre ++ r' :: post) := by
  intro h'
  rcases htamper with ⟨hkind, hguarded, hne⟩ | ⟨hj, hq, heq⟩ | ⟨hkind, hj, hq, hkind', heq⟩
  · exact hne (hvalue ▸ guarded_agree h h' hkind hguarded hsame)
  · exact h'.sequence_ne (mem_of_getElem?_ne hj hq) (hvalue ▸ heq)
  · have hr' : HasKind "runtime_event" r' := (hsame "kind" (by decide)).trans hkind
    exact h'.eventId_ne hr' hkind' (mem_of_getElem?_ne hj hq) (hvalue ▸ heq)

/-- A tampered record does not change the first binding : only an effect is tampered with in its
tool or payload digest, and an approval with the binding comes before it. -/
theorem Accepted.firstBound_tampered (h : Accepted ids (pre ++ r :: post)) {field : String}
    {value : Json} (htamper : Tampers (pre ++ r :: post) pre.length r field value)
    (hsame : ∀ k, k ≠ field → r'.get k = r.get k) :
    firstBound ((pre ++ r' :: post).map .dict) = firstBound ((pre ++ r :: post).map .dict) := by
  have hother : field ∉ ["kind", "tool", "payload_sha256"] →
      boundBy (.dict r') = boundBy (.dict r) := fun hfield =>
    boundBy_congr fun k hk => hsame k fun heq => hfield (heq ▸ hk)
  rw [List.map_append, List.map_append, List.map_cons, List.map_cons, firstBound_append,
    firstBound_append, firstBound_cons, firstBound_cons]
  rcases htamper with @⟨kind, _, _, hkind, hguarded, -⟩ | - | -
  · by_cases heffect : kind = "effect"
    · subst heffect
      obtain ⟨a, ha, happroves, -⟩ := h.exists_approval hkind
      have hbinds : Binds a := Or.inl happroves.decision.1
      have hbound := h.boundBy_eq (List.mem_append_left _ ha)
      rw [if_pos hbinds,
        h.firstBinding_eq (List.mem_append_right _ List.mem_cons_self) (Or.inr hkind)] at hbound
      have hsome : firstBound (pre.map .dict) ≠ none := by
        intro hnone
        have hall := List.findSome?_eq_none_iff.1 hnone _ (List.mem_map_of_mem ha)
        cases hbound.symm.trans hall
      obtain ⟨b, hb⟩ := Option.ne_none_iff_exists'.1 hsome
      rw [hb]
      rfl
    · rw [hother fun hfield => ?_]
      unfold guardedFields at hguarded
      simp only [List.mem_cons, List.not_mem_nil, or_false] at hfield
      rcases hfield with rfl | rfl | rfl <;> split at hguarded <;> simp at hguarded heffect
  · rw [hother (by decide)]
  · rw [hother (by decide)]

/-- The fields of a record whose values the validator looks up in a set. -/
def tagFields : List String :=
  ["kind", "event_kind", "decision", "readback"]

theorem Tampers.not_tag {rs : List Mapping} {i : Nat} {field : String} {value : Json}
    (h : Tampers rs i r field value) : field ∉ tagFields := by
  rcases h with ⟨-, hguarded, -⟩ | - | -
  · unfold guardedFields at hguarded
    intro htag
    simp only [tagFields, List.mem_cons, List.not_mem_nil, or_false] at htag
    rcases htag with rfl | rfl | rfl | rfl <;> split at hguarded <;>
      exact absurd hguarded (by decide)
  · decide
  · decide

/-- A record with the tags of a clean record has tags with hashes. -/
theorem tagsHashable_of_same {done : List Mapping} (h : CleanRecord ids done r)
    (hsame : ∀ k ∈ tagFields, r'.get k = r.get k) : TagsHashable r' := by
  have hkind : ∀ {kind : String}, HasKind kind r' → HasKind kind r := fun hk =>
    (hsame "kind" (by decide)).symm.trans hk
  obtain ⟨hk, hevent, hdecision, hreadback⟩ := h.tagsHashable
  exact ⟨by rwa [hsame "kind" (by decide)],
    fun hr => by rw [hsame "event_kind" (by decide)]; exact hevent (hkind hr),
    fun hr => by rw [hsame "decision" (by decide)]; exact hdecision (hkind hr),
    fun hr => by rw [hsame "readback" (by decide)]; exact hreadback (hkind hr)⟩

variable [PyRepr]

/-- Every replace mutation of an accepted trace that tampers with a record is detected. -/
theorem tampering_detected (trace mutation mutated : Mapping) (rs : List Mapping) (i : Nat)
    (r : Mapping) (field : String) (value : Json) (hacc : validateTraceText trace = .ok [])
    (hrecords : trace.get "records" = .list (rs.map .dict))
    (hoperator : mutation.get "operator" = .str "replace")
    (hvalue : mutation.get? "value" = some value) (hpoints : PointsAt mutation rs.length i field)
    (hr : rs[i]? = some r) (htamper : Tampers rs i r field value)
    (happly : applyMutation trace mutation = .ok mutated) :
    ∃ violations, validateTraceText mutated = .ok violations ∧ violations ≠ [] := by
  obtain ⟨ids, rs', hreads, haccepted, hfirst⟩ := validateTraceText_eq_nil.1 hacc
  obtain rfl := map_dict_injective (Json.list.inj (hrecords.symm.trans hreads.records))
  obtain ⟨pre, post, rfl, rfl⟩ : ∃ pre post, rs = pre ++ r :: post ∧ pre.length = i := by
    obtain ⟨hi, rfl⟩ := List.getElem?_eq_some_iff.1 hr
    exact ⟨rs.take i, rs.drop (i + 1), by simp, by simp; omega⟩
  have hitem : ((pre ++ r :: post).map Json.dict)[pre.length]? = some (.dict r) := by simp
  rw [applyMutation_record hrecords (by simpa using hpoints) hitem] at happly
  obtain ⟨changed, hchanged, rfl⟩ := map_eq_ok.1 happly
  have hfield : r.get? field ≠ none ∧ changed = .dict (r.set field value) := by
    simp only [operate, hoperator, if_true, replaceIn, hvalue, orRaise, ok_bind,
      raiseIf_bind_eq_ok, Except.ok.injEq] at hchanged
    exact ⟨hchanged.1, hchanged.2.symm⟩
  obtain ⟨hfield, rfl⟩ := hfield
  have hget := Mapping.get_set hfield value
  have hset : ((pre ++ r :: post).map Json.dict).set pre.length (.dict (r.set field value)) =
      (pre ++ r.set field value :: post).map Json.dict := by simp
  rw [hset]
  have hsame : ∀ k, k ≠ field → (r.set field value).get k = r.get k := fun k hk => by
    rw [hget, if_neg hk]
  have hreads' := hreads.set_records (pre ++ r.set field value :: post)
  have htags : ∀ q ∈ pre ++ r.set field value :: post, TagsHashable q := by
    intro q hq
    rw [List.mem_append, List.mem_cons] at hq
    by_cases hchange : q = r.set field value
    · subst hchange
      exact tagsHashable_of_same haccepted.clean fun k hk => hsame k fun h =>
        htamper.not_tag (h ▸ hk)
    · have hmem : q ∈ pre ++ r :: post := by
        rcases hq with hq | hq | hq
        · simp [hq]
        · exact absurd hq hchange
        · simp [hq]
      obtain ⟨_, _, -, hclean⟩ := haccepted.clean_of_mem hmem
      exact hclean.tagsHashable
  obtain ⟨violations, hvalidate, hne⟩ := violations_of_not_accepted hreads' htags
    (not_accepted_of_tampers haccepted htamper hsame (by rw [hget, if_pos rfl]))
  refine ⟨violations, (validateTraceText_of_reads hreads').2 ⟨hvalidate, ?_⟩, hne⟩
  unfold FirstEncodes
  rw [haccepted.firstBound_tampered htamper hsame]
  exact hfirst

end tampering

/-- The frozen mutation `effect_payload_hash_drift`. -/
def effectPayloadHashDrift : Mapping :=
  [("operator", .str "replace"), ("path", .str "/records/4/payload_sha256"),
    ("value", .str "7ba2bf965b72bbb3448c386c6eab9ff21f2b28ce61b27ba77d39fb7baddce032")]

theorem tampering_detected_sample :
    letI := traceHashlib
    letI := plainRepr
    ∃ mutated violations,
      applyMutation (sampleTrace retryThenReconcile) effectPayloadHashDrift = .ok mutated ∧
        validateTraceText mutated = .ok violations ∧ violations ≠ [] := by
  let := traceHashlib
  let := plainRepr
  obtain ⟨mutated, hmutated⟩ : ∃ mutated,
      applyMutation (sampleTrace retryThenReconcile) effectPayloadHashDrift = .ok mutated :=
    ⟨_, rfl⟩
  have hpoints : PointsAt effectPayloadHashDrift retryThenReconcile.length 4 "payload_sha256" :=
    pointsAt_path (by decide) (by decide) (by unfold Plain; decide) (by decide)
  obtain ⟨violations, h⟩ := tampering_detected (sampleTrace retryThenReconcile)
    effectPayloadHashDrift mutated retryThenReconcile 4 _ "payload_sha256" _
    retryThenReconcile_accepted rfl rfl rfl hpoints rfl
    (.guarded (show HasKind "effect" _ by decide) (by decide) (by decide)) hmutated
  exact ⟨mutated, violations, hmutated, h⟩

end TraceIntegrity

end ReliabilityLab
