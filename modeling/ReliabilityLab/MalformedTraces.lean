import ReliabilityLab.AcceptedTraces
import ReliabilityLab.PythonText

/-!
# Malformed traces

The validator on every trace that JSON can denote. `validateTrace` leaves out one thing that the
source does : `effect_fingerprint` encodes the canonical text that it hashes, which raises when the
text has a surrogate. `validateTraceText` has it, and is the validator that everything below is
about; where it returns, `validateTrace` returns the same (`validateTraceText_eq_ok`). So a trace
is accepted exactly if it is well formed and its first fingerprint can be encoded
(`validateTraceText_eq_nil`).

The validator returns exactly if every tag that it looks up in a set has a hash and the
first fingerprint can be encoded (`validateTraceText_returns_iff`). So a record whose kind
is a list, and a tool with a lone surrogate, are not reported but raised.
-/

set_option linter.unusedSectionVars false

open Serial

namespace ReliabilityLab

namespace TraceIntegrity

open Json PyText PyJson

/-! ## The encoding of fingerprints -/

/-- The text whose digest is the fingerprint of an effect. -/
def canonicalEffect (provider operationId tool payloadSha256 : String) : List Char :=
  jsonArray [jsonString provider, jsonString operationId, jsonString tool,
    jsonString payloadSha256]

/-- The binding that an item of the records brings. -/
def boundBy : Json → Option (String × String)
  | .dict record => if Binds record then candidateBinding? record else none
  | _ => none

/-- The encoding in the fingerprint of a trace's first binding. -/
def encodeFingerprint (scope : Scope) (st : LoopState) (record : Mapping) : Except Raised Unit :=
  match boundBy (.dict record), st.binding, scope.provider, scope.operationId with
  | some (tool, payload), none, .str provider, .str operationId =>
    encodeText (canonicalEffect provider operationId tool payload)
  | _, _, _, _ => .ok ()

section validator

variable [Hashlib]

/-- The loop, from the record at `index` on. -/
def scanText (scope : Scope) :
    Nat → LoopState → List Json → Except Raised (List String × LoopState)
  | _, st, [] => .ok ([], st)
  | index, st, .dict record :: records => do
    encodeFingerprint scope st record
    let (found, next) ← step scope st record
    let (more, last) ← scanText scope (index + 1) next records
    .ok (found ++ more, last)
  | index, st, _ :: records => do
    let (more, last) ← scanText scope (index + 1) st records
    .ok (("record_" ++ toString index ++ "_invalid") :: more, last)

/-- The deterministic integrity violations of one canonical trace. -/
def validateTraceText (trace : Mapping) : Except Raised (List String) :=
  match trace.get "scope", trace.get "records" with
  | .dict scope, .list records => do
    let (found, last) ← scanText (scopeOf scope) 0 {} records
    .ok (sortedSet (scopeFlags (scopeOf scope) ++ found ++ orderFlags last ++
      checkpointsFlags none last.checkpoints))
  | .dict _, _ => .ok ["records_missing_or_invalid"]
  | _, _ => .ok ["scope_missing_or_invalid"]

/-! ## What a turn of the loop raises -/

theorem inSet_returns_iff {value : Json} {members : List String} :
    (∃ known, value.inSet members = .ok known) ↔ value.Hashable := by
  refine ⟨?_, fun h => inSet_of_hashable h members⟩
  rintro ⟨known, h⟩
  rcases value with _ | _ | _ | _ | _ | _ | _
  case list => cases h
  case dict => cases h
  all_goals trivial

/-- A turn of the loop returns exactly if the tags of its record have hashes. -/
theorem step_returns_iff {scope : Scope} {st : LoopState} {record : Mapping} :
    (∃ out, step scope st record = .ok out) ↔ TagsHashable record := by
  refine ⟨?_, step_returns scope st⟩
  rintro ⟨out, h⟩
  obtain ⟨known, hknown, h⟩ := bind_eq_ok.1 h
  refine ⟨inSet_returns_iff.1 ⟨known, hknown⟩, fun hkind => ?_, fun hkind => ?_, fun hkind => ?_⟩
  all_goals
    unfold HasKind at hkind
    rw [hkind] at hknown
    cases hknown
    simp only [hkind] at h
    rw [if_neg (by decide)] at h
  · rw [if_pos trivial] at h
    obtain ⟨_, hevent, -⟩ := bind_eq_ok.1 h
    obtain ⟨known, hknown, -⟩ := bind_eq_ok.1 hevent
    exact inSet_returns_iff.1 ⟨known, hknown⟩
  · rw [if_neg (by decide), if_neg (by decide)] at h
    obtain ⟨_, hoperation, -⟩ := bind_eq_ok.1 h
    simp only [operation, hkind, if_true] at hoperation
    obtain ⟨known, hknown, -⟩ := bind_eq_ok.1 hoperation
    exact inSet_returns_iff.1 ⟨known, hknown⟩
  · rw [if_neg (by decide), if_neg (by decide)] at h
    obtain ⟨_, hoperation, -⟩ := bind_eq_ok.1 h
    dsimp only [operation] at hoperation
    rw [hkind, if_neg (by decide), if_neg (by decide), if_pos rfl] at hoperation
    obtain ⟨known, hknown, -⟩ := bind_eq_ok.1 hoperation
    exact inSet_returns_iff.1 ⟨known, hknown⟩

/-- The loop returns exactly if the tags of all records have hashes. -/
theorem scan_returns_iff {scope : Scope} {index : Nat} {st : LoopState} {items : List Json} :
    (∃ out, scan scope index st items = .ok out) ↔
      ∀ record, .dict record ∈ items → TagsHashable record := by
  refine ⟨?_, scan_returns scope index st⟩
  rintro ⟨⟨found, last⟩, h⟩
  induction items generalizing index st found with
  | nil => simp
  | cons item items ih =>
    intro record hrecord
    obtain ⟨r, first, next, more, rfl, hstep, hscan, -⟩ | ⟨hitem, more, hscan, -⟩ :=
      scan_cons_eq_ok.1 h
    · rcases List.mem_cons.1 hrecord with heq | hrecord
      · obtain rfl := Json.dict.inj heq
        exact step_returns_iff.1 ⟨_, hstep⟩
      · exact ih _ hscan record hrecord
    · rcases List.mem_cons.1 hrecord with heq | hrecord
      · exact absurd heq.symm (hitem record)
      · exact ih _ hscan record hrecord

/-! ## The first binding -/

theorem noteBinding_binding (scope : Scope) (st : LoopState) (record : Mapping) :
    (noteBinding scope st record).binding = st.binding.or (candidateBinding? record) := by
  unfold noteBinding
  rcases hcandidate : candidateBinding? record with _ | candidate <;>
    rcases hbinding : st.binding with _ | bound <;> simp [hbinding]

theorem noteDecision_binding (st : LoopState) (record : Mapping) :
    (noteDecision st record).binding = st.binding := by
  unfold noteDecision
  split
  · rfl
  · split_ifs <;> rfl

/-- A record of a kind other than approval and effect brings no binding. -/
theorem boundBy_of_kind {kind : String} {record : Mapping} (h : HasKind kind record)
    (hkind : kind ∉ ["approval", "effect"]) : boundBy (.dict record) = none := by
  refine if_neg fun hbinds => hkind ?_
  rcases hbinds with hbinds | hbinds <;> rw [h.iff] at hbinds <;> simp [hbinds]

/-- The binding after a turn of the loop. -/
theorem step_binding {scope : Scope} {st st' : LoopState} {record : Mapping}
    {found : List String} (h : step scope st record = .ok (found, st')) :
    st'.binding = st.binding.or (boundBy (.dict record)) := by
  have hkeeps : boundBy (.dict record) = none →
      (noteCommon st record).binding = st.binding.or (boundBy (.dict record)) := by
    intro hnone
    rw [hnone, Option.or_none]
    rfl
  have hnotes : Binds record → (noteBinding scope (noteCommon st record) record).binding =
      st.binding.or (boundBy (.dict record)) := by
    intro hbinds
    rw [noteBinding_binding, boundBy, if_pos hbinds]
    rfl
  obtain ⟨known, hknown, h⟩ := bind_eq_ok.1 h
  split_ifs at h with hunknown hevent hcheckpoint
  · cases h
    refine hkeeps (if_neg ?_)
    rintro (hkind | hkind) <;>
    · unfold HasKind at hkind
      rw [hkind] at hknown
      cases hknown
      exact absurd hunknown (by decide)
  · obtain ⟨⟨more, next⟩, hrun, h⟩ := bind_eq_ok.1 h
    obtain ⟨known, -, hrun⟩ := bind_eq_ok.1 hrun
    cases h
    cases hrun
    exact hkeeps (boundBy_of_kind hevent (by decide))
  · cases h
    exact hkeeps (boundBy_of_kind hcheckpoint (by decide))
  · obtain ⟨⟨more, next⟩, hrun, h⟩ := bind_eq_ok.1 h
    cases h
    dsimp only [operation] at hrun
    split_ifs at hrun with happroval heffect hevidence
    · obtain ⟨known, -, hrun⟩ := bind_eq_ok.1 hrun
      cases hrun
      rw [← hnotes (Or.inl happroval)]
      split_ifs
      · exact noteDecision_binding _ record
      · rfl
    · cases hrun
      exact hnotes (Or.inr heffect)
    · obtain ⟨known, -, hrun⟩ := bind_eq_ok.1 hrun
      cases hrun
      exact hkeeps (boundBy_of_kind hevidence (by decide))
    · cases hrun
      exact hkeeps (if_neg (not_or.2 ⟨happroval, heffect⟩))

/-! ## The fingerprint -/

/-- The canonical text of a binding can be encoded, if the scope has one. -/
def FingerprintEncodes (scope : Scope) (binding : String × String) : Prop :=
  ∀ provider operationId, scope.provider = .str provider → scope.operationId = .str operationId →
    Encodes (read (canonicalEffect provider operationId binding.1 binding.2))

/-- The binding of the first record that has one. -/
def firstBound (items : List Json) : Option (String × String) :=
  items.findSome? boundBy

theorem encodeFingerprint_eq_ok {scope : Scope} {st : LoopState} {record : Mapping} :
    encodeFingerprint scope st record = .ok () ↔
      (st.binding = none →
        ∀ binding ∈ boundBy (.dict record), FingerprintEncodes scope binding) := by
  unfold encodeFingerprint FingerprintEncodes
  rcases boundBy (.dict record) with _ | ⟨tool, payload⟩
  · simp
  rcases st.binding with _ | bound
  · rcases scope.provider with _ | _ | _ | _ | provider | _ | _
    case str =>
      rcases scope.operationId with _ | _ | _ | _ | operationId | _ | _ <;> simp [encodeText]
    all_goals simp
  · simp

theorem firstBound_cons (item : Json) (items : List Json) :
    firstBound (item :: items) = (boundBy item).or (firstBound items) := by
  unfold firstBound
  rw [List.findSome?_cons]
  rcases boundBy item with _ | binding <;> rfl

theorem firstBound_append (items rest : List Json) :
    firstBound (items ++ rest) = (firstBound items).or (firstBound rest) := by
  unfold firstBound
  exact List.findSome?_append

theorem boundBy_eq_some {record : Mapping} {binding : String × String} :
    boundBy (.dict record) = some binding ↔ Binds record ∧ record.get "tool" = .str binding.1 ∧
      record.get "payload_sha256" = .str binding.2 ∧ isSha256Text binding.2 = true := by
  obtain ⟨tool, payload⟩ := binding
  rw [boundBy, Option.ite_none_right_eq_some]
  refine and_congr_right fun _ => ?_
  unfold candidateBinding?
  split
  · next tool' payload' htool hpayload =>
    rw [htool, hpayload, Option.ite_none_right_eq_some]
    simp only [Option.some.injEq, Prod.mk.injEq, Json.str.injEq]
    constructor
    · rintro ⟨hsha, rfl, rfl⟩
      exact ⟨rfl, rfl, hsha⟩
    · rintro ⟨rfl, rfl, hsha⟩
      exact ⟨hsha, rfl, rfl⟩
  · next hnot =>
    exact iff_of_false (by simp) fun ⟨htool, hpayload, _⟩ => hnot _ _ htool hpayload

/-- A record brings the binding of another with the same kind, tool and payload digest. -/
theorem boundBy_congr {record record' : Mapping}
    (h : ∀ k ∈ ["kind", "tool", "payload_sha256"], record'.get k = record.get k) :
    boundBy (.dict record') = boundBy (.dict record) := by
  have hbinds : Binds record' ↔ Binds record := by
    unfold Binds HasKind
    rw [h "kind" (by simp)]
  have hcandidate : candidateBinding? record' = candidateBinding? record := by
    unfold candidateBinding?
    rw [h "tool" (by simp), h "payload_sha256" (by simp)]
  exact if_congr hbinds hcandidate rfl

/-- The first binding is the record's, or that of the records after it. -/
theorem fingerprintEncodes_cons {scope : Scope} {st st' : LoopState} {record : Mapping}
    {found : List String} {items : List Json} (h : step scope st record = .ok (found, st')) :
    ((st.binding = none → ∀ binding ∈ boundBy (.dict record), FingerprintEncodes scope binding) ∧
        (st'.binding = none → ∀ binding ∈ firstBound items, FingerprintEncodes scope binding)) ↔
      (st.binding = none →
        ∀ binding ∈ firstBound (.dict record :: items), FingerprintEncodes scope binding) := by
  rw [step_binding h, firstBound_cons]
  rcases st.binding with _ | bound
  · rcases boundBy (.dict record) with _ | binding <;> simp
  · simp

/-- The loop with the encoding returns what the loop returns, if the first binding's
fingerprint can be encoded. -/
theorem scanText_eq_ok {scope : Scope} {index : Nat} {st : LoopState} {items : List Json}
    {out : List String × LoopState} :
    scanText scope index st items = .ok out ↔ scan scope index st items = .ok out ∧
      (st.binding = none → ∀ binding ∈ firstBound items, FingerprintEncodes scope binding) := by
  induction items generalizing index st out with
  | nil => simp [scanText, scan, firstBound]
  | cons item items ih =>
    rcases item with _ | _ | _ | _ | _ | _ | record
    case dict =>
      rw [scanText, scan, check_bind_eq_ok, encodeFingerprint_eq_ok]
      simp only [bind_eq_ok, ih, Prod.exists]
      constructor
      · rintro ⟨hfirst, found, next, hstep, more, last, ⟨hscan, hrest⟩, hout⟩
        exact ⟨⟨found, next, hstep, more, last, hscan, hout⟩,
          (fingerprintEncodes_cons hstep).1 ⟨hfirst, hrest⟩⟩
      · rintro ⟨⟨found, next, hstep, more, last, hscan, hout⟩, hall⟩
        obtain ⟨hfirst, hrest⟩ := (fingerprintEncodes_cons hstep).2 hall
        exact ⟨hfirst, found, next, hstep, more, last, ⟨hscan, hrest⟩, hout⟩
    all_goals
      rw [scanText, scan]
      · simp only [bind_eq_ok, ih, Prod.exists, firstBound_cons, boundBy, Option.none_or]
        constructor
        · rintro ⟨more, last, ⟨hscan, hall⟩, hout⟩
          exact ⟨⟨more, last, hscan, hout⟩, hall⟩
        · rintro ⟨⟨more, last, hscan, hout⟩, hall⟩
          exact ⟨more, last, ⟨hscan, hall⟩, hout⟩
      all_goals simp

/-- The fingerprint of the first binding can be encoded. -/
def FirstEncodes (scope : Scope) (records : List Json) : Prop :=
  ∀ binding ∈ firstBound records, FingerprintEncodes scope binding

/-- The validator with the encoding returns what the validator returns, if the first binding's
fingerprint can be encoded. -/
theorem validateTraceText_eq_ok {trace : Mapping} {violations : List String} :
    validateTraceText trace = .ok violations ↔ validateTrace trace = .ok violations ∧
      ∀ scope records, trace.get "scope" = .dict scope → trace.get "records" = .list records →
        FirstEncodes (scopeOf scope) records := by
  rcases hscope : trace.get "scope" with _ | _ | _ | _ | _ | _ | scope
  case dict =>
    rcases hrecords : trace.get "records" with _ | _ | _ | _ | _ | records | _
    case list =>
      simp only [validateTraceText, validateTrace, hscope, hrecords]
      constructor
      · intro h
        obtain ⟨out, hscan, hout⟩ := bind_eq_ok.1 h
        obtain ⟨hscan, hfirst⟩ := scanText_eq_ok.1 hscan
        refine ⟨bind_eq_ok.2 ⟨out, hscan, hout⟩, fun scope' records' hscope' hrecords' => ?_⟩
        obtain rfl := Json.dict.inj hscope'
        obtain rfl := Json.list.inj hrecords'
        exact hfirst rfl
      · rintro ⟨h, hfirst⟩
        obtain ⟨out, hscan, hout⟩ := bind_eq_ok.1 h
        exact bind_eq_ok.2 ⟨out,
          scanText_eq_ok.2 ⟨hscan, fun _ => hfirst scope records rfl rfl⟩, hout⟩
    all_goals simp [validateTraceText, validateTrace, hscope, hrecords]
  all_goals simp [validateTraceText, validateTrace, hscope]

theorem validateTraceText_of_reads {trace : Mapping} {ids : ScopeIds} {rs : List Mapping}
    (h : Reads trace ids rs) {violations : List String} :
    validateTraceText trace = .ok violations ↔
      validateTrace trace = .ok violations ∧ FirstEncodes ids.scope (rs.map .dict) := by
  obtain ⟨⟨scope, hscope, hids⟩, hrecords⟩ := h
  rw [validateTraceText_eq_ok]
  refine and_congr_right fun _ => ⟨fun hall => hids ▸ hall scope _ hscope hrecords, ?_⟩
  intro hfirst scope' records' hscope' hrecords'
  obtain rfl := Json.dict.inj (hscope.symm.trans hscope')
  obtain rfl := Json.list.inj (hrecords.symm.trans hrecords')
  exact hids.symm ▸ hfirst

/-- A trace is accepted exactly if it is well formed and its first fingerprint can be encoded. -/
theorem validateTraceText_eq_nil {trace : Mapping} :
    validateTraceText trace = .ok [] ↔ ∃ ids rs, Reads trace ids rs ∧ Accepted ids rs ∧
      FirstEncodes ids.scope (rs.map .dict) := by
  constructor
  · intro h
    obtain ⟨ids, rs, hreads, hacc⟩ := validateTrace_eq_nil.1 (validateTraceText_eq_ok.1 h).1
    exact ⟨ids, rs, hreads, hacc, ((validateTraceText_of_reads hreads).1 h).2⟩
  · rintro ⟨ids, rs, hreads, hacc, hfirst⟩
    exact (validateTraceText_of_reads hreads).2
      ⟨validateTrace_eq_nil.2 ⟨ids, rs, hreads, hacc⟩, hfirst⟩

/-! ## The traces that are validated -/

/-- What the validator takes for granted of the records under a scope : tags with hashes, and
a fingerprint of texts without surrogates. -/
structure Checkable (scope : Scope) (records : List Json) : Prop where
  hashable : ∀ record, .dict record ∈ records → TagsHashable record
  encodes : ∀ binding ∈ firstBound records, ∀ provider operationId,
    scope.provider = .str provider → scope.operationId = .str operationId →
      ∀ text ∈ [provider, operationId, binding.1, binding.2], TextEncodes text

/-- A canonical text can be encoded if its four texts can. -/
theorem encodes_canonicalEffect {provider operationId tool payload : String}
    (hprovider : Coded (.str provider)) (hoperationId : Coded (.str operationId))
    (htool : Coded (.str tool)) (hpayload : Coded (.str payload)) :
    Encodes (read (canonicalEffect provider operationId tool payload)) ↔
      ∀ text ∈ [provider, operationId, tool, payload], TextEncodes text := by
  obtain ⟨p, rfl⟩ := hprovider.str
  obtain ⟨o, rfl⟩ := hoperationId.str
  obtain ⟨t, rfl⟩ := htool.str
  obtain ⟨b, rfl⟩ := hpayload.str
  simpa [canonicalEffect] using encodes_jsonArray [p, o, t, b]

theorem coded_of_boundBy {item : Json} (h : Coded item) {binding : String × String}
    (hbinding : boundBy item = some binding) :
    Coded (.str binding.1) ∧ Coded (.str binding.2) := by
  rcases item with _ | _ | _ | _ | _ | _ | record
  case dict =>
    obtain ⟨-, htool, hpayload, -⟩ := boundBy_eq_some.1 hbinding
    exact ⟨htool ▸ h.get "tool", hpayload ▸ h.get "payload_sha256"⟩
  all_goals cases hbinding

/-- The trace has no scope and records that can be read, or checkable ones. -/
def CheckableTrace (trace : Mapping) : Prop :=
  ∀ scope records, trace.get "scope" = .dict scope → trace.get "records" = .list records →
    Checkable (scopeOf scope) records

theorem checkable_iff {scope : Mapping} {records : List Json} (hscope : Coded (.dict scope))
    (hrecords : Coded (.list records)) :
    (∃ out, scanText (scopeOf scope) 0 {} records = .ok out) ↔
      Checkable (scopeOf scope) records := by
  have hencodes : (∀ binding ∈ firstBound records, FingerprintEncodes (scopeOf scope) binding) ↔
      ∀ binding ∈ firstBound records, ∀ provider operationId,
        (scopeOf scope).provider = .str provider →
          (scopeOf scope).operationId = .str operationId →
            ∀ text ∈ [provider, operationId, binding.1, binding.2], TextEncodes text := by
    refine forall₂_congr fun binding hbinding => forall₄_congr fun provider operationId hp ho => ?_
    obtain ⟨item, hitem, hbound⟩ := List.exists_of_findSome?_eq_some hbinding
    obtain ⟨htool, hpayload⟩ := coded_of_boundBy (coded_list.1 hrecords item hitem) hbound
    have hprovider : Coded (scopeOf scope).provider := hscope.get "provider"
    have hoperationId : Coded (scopeOf scope).operationId := hscope.get "operation_id"
    exact encodes_canonicalEffect (hp ▸ hprovider) (ho ▸ hoperationId) htool hpayload
  constructor
  · rintro ⟨out, h⟩
    obtain ⟨hscan, hall⟩ := scanText_eq_ok.1 h
    exact ⟨scan_returns_iff.1 ⟨out, hscan⟩, hencodes.1 (hall rfl)⟩
  · rintro ⟨hhashable, hall⟩
    obtain ⟨out, hscan⟩ := scan_returns_iff.2 hhashable
    exact ⟨out, scanText_eq_ok.2 ⟨hscan, fun _ => hencodes.2 hall⟩⟩

theorem validateTraceText_of_coded {trace : Mapping} (h : Coded (.dict trace)) :
    (∃ violations, validateTraceText trace = .ok violations) ↔ CheckableTrace trace := by
  unfold validateTraceText
  split
  · next scope records hscope hrecords =>
    have hiff := checkable_iff (hscope ▸ h.get "scope") (hrecords ▸ h.get "records")
    constructor
    · rintro ⟨violations, hreturns⟩ scope' records' hscope' hrecords'
      obtain ⟨out, hscan, -⟩ := bind_eq_ok.1 hreturns
      rw [hscope] at hscope'
      rw [hrecords] at hrecords'
      obtain rfl := Json.dict.inj hscope'
      obtain rfl := Json.list.inj hrecords'
      exact hiff.1 ⟨out, hscan⟩
    · intro hall
      obtain ⟨⟨found, last⟩, hscan⟩ := hiff.2 (hall scope records hscope hrecords)
      exact ⟨_, bind_eq_ok.2 ⟨(found, last), hscan, rfl⟩⟩
  · next scope hscope hnot =>
    exact ⟨fun _ _ records _ hrecords => absurd hrecords (hnot records), fun _ => ⟨_, rfl⟩⟩
  · next hnot =>
    exact ⟨fun _ scope records hscope hrecords => (hnot scope records hscope hrecords).elim,
      fun _ => ⟨_, rfl⟩⟩

/-- The validator returns its violations exactly if, under a scope that is an object, the
records that are a list are checkable. -/
theorem validateTraceText_returns_iff (trace : PyMapping) :
    (∃ violations, validateTraceText (codeMembers trace) = .ok violations) ↔
      ∀ scope records, (codeMembers trace).get "scope" = .dict scope →
        (codeMembers trace).get "records" = .list records →
          Checkable (scopeOf scope) records :=
  validateTraceText_of_coded (coded_codeMembers trace)

end validator

theorem retryThenReconcile_accepted :
    letI := traceHashlib
    validateTraceText (sampleTrace retryThenReconcile) = .ok [] := by
  decide +kernel

/-- A trace with a record whose kind is a list. -/
def listKind : PyMapping :=
  [(scalars "scope", .dict []),
    (scalars "records", .list [.dict [(scalars "kind", .list [])]])]

/-- A trace with an approval whose tool is a lone surrogate. -/
def surrogateTool : PyMapping :=
  [(scalars "scope", .dict [(scalars "provider", .str (scalars "provider-a")),
      (scalars "operation_id", .str (scalars "op-1"))]),
    (scalars "records", .list [.dict [(scalars "kind", .str (scalars "approval")),
      (scalars "tool", .str [.surrogate ⟨0, by decide⟩]),
      (scalars "payload_sha256", .str (scalars samplePayload))]])]

theorem malformed_raises :
    letI := traceHashlib
    validateTraceText (codeMembers listKind) = .error (unhashable "list") ∧
      validateTraceText (codeMembers surrogateTool) =
        .error ⟨.unicodeEncodeError, "surrogates not allowed"⟩ ∧
      ¬∀ trace, ∃ violations, validateTraceText (codeMembers trace) = .ok violations := by
  let := traceHashlib
  have hkind : validateTraceText (codeMembers listKind) = .error (unhashable "list") := by
    decide +kernel
  refine ⟨hkind, by decide +kernel, fun h => ?_⟩
  obtain ⟨violations, hreturns⟩ := h listKind
  rw [hkind] at hreturns
  cases hreturns

end TraceIntegrity

end ReliabilityLab
