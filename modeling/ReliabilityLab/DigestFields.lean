import ReliabilityLab.CleanLineages
import ReliabilityLab.HexNumerals
import ReliabilityLab.PythonText

/-!
# Digest fields

`_is_sha256` asks of a text that it have 64 characters, that `int(_, 16)` take it and that
`lower` leave it as it is. The digests pass (`IsHexDigest.isSha256`), and so do the numerals of
that length that have more to them than digits, or digits of another script (`LooseDigest`).
`isSha256_iff` : these are all, so the check is exact off the second kind.

`digests_exact_iff` says it of the whole validator too. The digest fields of an accepted trace
are digests exactly if none of them is loose. `markedZero_accepted` is a trace with a loose one.
-/

set_option linter.unusedSectionVars false

open Serial

namespace ReliabilityLab

/-! ## Digests among numerals -/

/-- A text with surrogates is no digest, and neither is its code. -/
theorem isHexDigest_code {text : PyText} : IsHexDigest text.code ↔
    ∃ cs : List Char, text = cs.map .scalar ∧ cs.length = 64 ∧ ∀ c ∈ cs, c ∈ hexDigits := by
  have hne : ∀ cs : List Char, (∀ c ∈ cs, c ∈ hexDigits) → ∀ c ∈ cs, c ≠ PyText.escape := by
    rintro cs hcs c hc rfl
    exact absurd (hcs _ hc) (by decide)
  constructor
  · rintro ⟨hlen, hdigits⟩
    have hread := PyText.read_append_of_forall_ne (hne _ hdigits) []
    rw [List.append_nil, PyText.read_code, PyText.read, List.append_nil] at hread
    exact ⟨text.code.toList, hread, hlen, hdigits⟩
  · rintro ⟨cs, rfl, hlen, hdigits⟩
    rw [IsHexDigest, PyText.code_scalars (hne _ hdigits), String.toList_ofList]
    exact ⟨hlen, hdigits⟩

/-- There is more to the numeral than digits. -/
def HexNumeral.Decorated (n : HexNumeral) : Prop :=
  n.before ≠ [] ∨ n.sign ≠ [] ∨ n.marker ≠ [] ∨ '_' ∈ n.digits ∨ n.after ≠ []

/-- A text of 64 characters, none of them a capital letter, that is a decorated numeral or
a numeral with characters outside ASCII. -/
structure LooseDigest (text : String) : Prop where
  length : text.toList.length = 64
  lower : text.toList.map Char.toLower = text.toList
  numeral : ∃ n : HexNumeral, n.text = asciiText text ∧
    (n.Decorated ∨ ∃ c ∈ text.toList, 128 ≤ c.toNat)

theorem asciiText_of_ascii {text : String} (h : ∀ c ∈ text.toList, c.toNat < 128) :
    asciiText text = text.toList := by
  unfold asciiText
  rw [if_pos (List.all_eq_true.2 fun c hc => decide_eq_true (h c hc))]

theorem mem_hexDigits {c : Char} (h : IsDigit 16 c) (hlower : c.toLower = c) : c ∈ hexDigits := by
  have hascii : ∀ n < 128, IsDigit 16 (Char.ofNat n) →
      (Char.ofNat n).toLower = Char.ofNat n → Char.ofNat n ∈ hexDigits := by
    decide +kernel
  have hlt : c.toNat < 128 := by
    have hrange := h.toNat
    omega
  exact forall_char_lt (fun c => IsDigit 16 c → c.toLower = c → c ∈ hexDigits) hascii hlt h hlower

/-- What decorates a numeral is no digit of a digest. -/
theorem HexNumeral.Decorated.exists_not_mem {n : HexNumeral} (h : n.Decorated) :
    ∃ c ∈ n.text, c ∉ hexDigits := by
  have hspace : ∀ c, isAsciiSpace c = true → c ∉ hexDigits := by
    intro c hc hmem
    rw [(hexDigit_reads c hmem).2.1] at hc
    cases hc
  have hplus : '+' ∉ hexDigits := by decide
  have hminus : '-' ∉ hexDigits := by decide
  have hlower : 'x' ∉ hexDigits := by decide
  have hupper : 'X' ∉ hexDigits := by decide
  have hsigns : ∀ sign ∈ signs, sign ≠ [] → ∃ c ∈ sign, c ∉ hexDigits := by
    simp [signs, hplus, hminus]
  have hmarkers : ∀ marker ∈ markers, marker ≠ [] → ∃ c ∈ marker, c ∉ hexDigits := by
    simp [markers, hlower, hupper]
  simp only [text, body, List.mem_append]
  rcases h with hbefore | hsign | hmarker | hunderscore | hafter
  · obtain ⟨c, hc⟩ := List.exists_mem_of_ne_nil _ hbefore
    exact ⟨c, Or.inl hc, hspace c (n.before_space c hc)⟩
  · obtain ⟨c, hc, hnot⟩ := hsigns _ n.sign_mem hsign
    exact ⟨c, Or.inr (Or.inl (Or.inl hc)), hnot⟩
  · obtain ⟨c, hc, hnot⟩ := hmarkers _ n.marker_mem hmarker
    exact ⟨c, Or.inr (Or.inl (Or.inr (Or.inl hc))), hnot⟩
  · exact ⟨'_', Or.inr (Or.inl (Or.inr (Or.inr hunderscore))), by decide⟩
  · obtain ⟨c, hc⟩ := List.exists_mem_of_ne_nil _ hafter
    exact ⟨c, Or.inr (Or.inr hc), hspace c (n.after_space c hc)⟩

theorem LooseDigest.not_isHexDigest {text : String} (h : LooseDigest text) :
    ¬IsHexDigest text := by
  rintro ⟨-, hdigits⟩
  have hascii : ∀ c ∈ text.toList, c.toNat < 128 := fun c hc => (hexDigit_reads c (hdigits c hc)).1
  obtain ⟨n, hn, hdecorated | ⟨c, hc, hhigh⟩⟩ := h.numeral
  · obtain ⟨c, hc, hnot⟩ := hdecorated.exists_not_mem
    rw [hn, asciiText_of_ascii hascii] at hc
    exact hnot (hdigits c hc)
  · exact absurd (hascii c hc) (by omega)

namespace TraceIntegrity

theorem isSha256Text_eq_true {text : String} : isSha256Text text = true ↔
    text.toList.length = 64 ∧ (∃ n : HexNumeral, n.text = asciiText text) ∧
      text.toList.map Char.toLower = text.toList := by
  rw [isSha256Text, decide_eq_true_iff, parseInt_isSome_iff]

/-- What the check takes is a digest or loose. -/
theorem isSha256Text_iff {text : String} :
    isSha256Text text = true ↔ IsHexDigest text ∨ LooseDigest text := by
  constructor
  · intro h
    obtain ⟨hlen, ⟨n, hn⟩, hlower⟩ := isSha256Text_eq_true.1 h
    by_cases hloose : n.Decorated ∨ ∃ c ∈ text.toList, 128 ≤ c.toNat
    · exact Or.inr ⟨hlen, hlower, n, hn, hloose⟩
    · simp only [HexNumeral.Decorated, not_or, not_not, not_exists, not_and, not_le] at hloose
      obtain ⟨⟨hbefore, hsign, hmarker, hunderscore, hafter⟩, hascii⟩ := hloose
      have htext : n.digits = text.toList := by
        rw [← asciiText_of_ascii hascii, ← hn, HexNumeral.text, HexNumeral.body, hbefore, hsign,
          hmarker, hafter]
        simp
      refine Or.inl ⟨hlen, fun c hc => ?_⟩
      have hlower' : c.toLower = c :=
        List.map_inj_left.1 (hlower.trans (List.map_id _).symm) c hc
      rw [← htext] at hc
      rcases n.digits_hex.mem c hc with hdigit | rfl
      · exact mem_hexDigits hdigit hlower'
      · exact absurd hc hunderscore
  · rintro (h | ⟨hlen, hlower, n, hn, -⟩)
    · exact h.isSha256
    · exact isSha256Text_eq_true.2 ⟨hlen, ⟨n, hn⟩, hlower⟩

/-- The check is exact on the texts that are not loose. -/
theorem isSha256_iff (text : String) :
    (isSha256 (.str text) = true ↔ IsHexDigest text) ↔ ¬LooseDigest text := by
  rw [isSha256, isSha256Text_iff]
  constructor
  · intro h hloose
    exact hloose.not_isHexDigest (h.1 (Or.inr hloose))
  · intro h
    exact ⟨fun hor => hor.resolve_right h, Or.inl⟩

/-! ## The digest fields of a trace -/

/-- The fields of a record that are digests. -/
def digestFields (r : Mapping) : List Json :=
  if HasKind "runtime_event" r ∨ Binds r then [r.get "payload_sha256"]
  else if HasKind "checkpoint" r then [r.get "plan_sha256"]
  else []

/-- Every digest field of the records is a digest. -/
def DigestsExact (rs : List Mapping) : Prop :=
  ∀ r ∈ rs, ∀ value ∈ digestFields r, ∃ text, value = .str text ∧ IsHexDigest text

/-- No digest field of the records is a loose digest. -/
def NoneLoose (rs : List Mapping) : Prop :=
  ∀ r ∈ rs, ∀ value ∈ digestFields r, ∀ text, value = .str text → ¬LooseDigest text

section accepted

variable [Hashlib] {ids : ScopeIds} {rs : List Mapping}

/-- The validator checks every digest field. -/
theorem Accepted.isSha256 (h : Accepted ids rs) {r : Mapping} (hr : r ∈ rs) :
    ∀ value ∈ digestFields r, TraceIntegrity.isSha256 value = true := by
  obtain ⟨pre, post, -, hclean⟩ := h.clean_of_mem hr
  intro value hvalue
  unfold digestFields at hvalue
  split_ifs at hvalue with hpayload hplan
  · rw [List.mem_singleton.1 hvalue]
    rcases hpayload with hevent | hbinds
    · exact (hclean.event hevent).payload
    · exact (hclean.binding hbinds).payload
  · rw [List.mem_singleton.1 hvalue]
    have hmem : r ∈ checkpointsOf rs := List.mem_filter.2 ⟨hr, decide_eq_true hplan⟩
    exact ((checkpointChain_none.1 h.checkpoints).1 r hmem).plan
  · simp at hvalue

theorem Accepted.digestsExact_iff (h : Accepted ids rs) : DigestsExact rs ↔ NoneLoose rs := by
  constructor
  · intro hexact r hr value hvalue text htext hloose
    obtain ⟨text', htext', hdigest⟩ := hexact r hr value hvalue
    obtain rfl := Json.str.inj (htext.symm.trans htext')
    exact hloose.not_isHexDigest hdigest
  · intro hnone r hr value hvalue
    have hsha := h.isSha256 hr value hvalue
    have hstr := isSha256_eq hsha
    refine ⟨value.text, hstr, ?_⟩
    rw [hstr] at hsha
    exact ((isSha256_iff value.text).2 (hnone r hr value hvalue _ hstr)).1 hsha

/-- `_is_sha256` is exact on the texts that are not loose digests, and the digest fields of an
accepted trace are digests exactly if none of them is loose. -/
theorem digests_exact_iff :
    (∀ text, (TraceIntegrity.isSha256 (.str text) = true ↔ IsHexDigest text) ↔
      ¬LooseDigest text) ∧
    ∀ trace, validateTraceText trace = .ok [] →
      ∃ ids rs, Reads trace ids rs ∧ (DigestsExact rs ↔ NoneLoose rs) := by
  refine ⟨isSha256_iff, fun trace h => ?_⟩
  obtain ⟨ids, rs, hreads, hacc, -⟩ := validateTraceText_eq_nil.1 h
  exact ⟨ids, rs, hreads, hacc.digestsExact_iff⟩

end accepted

/-! ## Sample traces -/

/-- The checks of the baseline trace. -/
theorem digests_exact_iff_sample :
    letI := traceHashlib
    ((isSha256 (.str samplePayload) = true ↔ IsHexDigest samplePayload) ↔
      ¬LooseDigest samplePayload) ∧
    ∃ ids rs, Reads (sampleTrace retryThenReconcile) ids rs ∧ (DigestsExact rs ↔ NoneLoose rs) :=
  letI := traceHashlib
  ⟨digests_exact_iff.1 samplePayload,
    digests_exact_iff.2 (sampleTrace retryThenReconcile) retryThenReconcile_accepted⟩

/-- Zero, with its marker and 62 digits. -/
def markedZero : String :=
  "0x00000000000000000000000000000000000000000000000000000000000000"

/-- The fingerprint of the effect with the payload `markedZero`. -/
def markedEffect : String :=
  "6ca7d144ab3f82423e0723624a71cd64e58a5e20f8a95032883263eb78b876df"

/-- A digest that is right on the effect with the payload `markedZero`. -/
@[reducible] def markedHashlib : Hashlib where
  sha256Hexdigest _ := markedEffect

/-- An event, an approval and a checkpoint with the digest `markedZero`. -/
def markedDigests : List Mapping :=
  [[("event_id", .str "evt-1"), ("event_kind", .str "output"), ("kind", .str "runtime_event"),
      ("payload_sha256", .str markedZero), ("record_id", .str "r1"), ("run_id", .str "run-42"),
      ("sequence", .int 1), ("turn_id", .str "turn-parent")],
    [("decision", .str "approved"), ("effect_sha256", .str markedEffect),
      ("kind", .str "approval"), ("operation_id", .str "op-17"),
      ("payload_sha256", .str markedZero), ("provider", .str "local-provider"),
      ("record_id", .str "r2"), ("sequence", .int 2), ("tool", .str "record_note")],
    [("checkpoint_id", .str "cp-0"), ("checkpoint_sequence", .int 0),
      ("completed_count", .int 0), ("kind", .str "checkpoint"), ("parent_checkpoint_id", .null),
      ("plan_sha256", .str markedZero), ("record_id", .str "r3"), ("run_id", .str "run-42"),
      ("sequence", .int 3)]]

/-- The check takes a numeral that is no digest, and so does the validator. -/
theorem markedZero_accepted :
    letI := markedHashlib
    (¬∀ text, isSha256 (.str text) = true ↔ IsHexDigest text) ∧
      ¬∀ trace, validateTraceText trace = .ok [] → ∀ ids rs, Reads trace ids rs →
        DigestsExact rs := by
  let := markedHashlib
  have hnot : ¬IsHexDigest markedZero := fun h =>
    absurd (h.2 'x' (by decide +kernel)) (by decide)
  refine ⟨fun h => ?_, fun h => ?_⟩
  · exact hnot ((h markedZero).1 (by decide +kernel))
  · have hexact := h (sampleTrace markedDigests) (by decide +kernel) sampleIds markedDigests
      ⟨⟨_, rfl, rfl⟩, rfl⟩
    obtain ⟨text, htext, hdigest⟩ := hexact _ (List.mem_of_getElem? (i := 0) rfl)
      (.str markedZero) (by decide +kernel)
    obtain rfl := Json.str.inj htext
    exact hnot hdigest

end TraceIntegrity

end ReliabilityLab
