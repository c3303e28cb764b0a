import ReliabilityLab.MalformedTraces

/-!
# Growing traces

The violations of a trace stay when records are added to it. What the loop finds in the first
records it finds whatever comes after them (`scan_append`); what it has noted for the checks
of the whole sequence and of the checkpoints only grows (`Extends`), and these checks fail on
a list when they fail on its beginning.
-/

set_option linter.unusedSectionVars false

open Serial

namespace ReliabilityLab

namespace TraceIntegrity

open Json

/-- The trace with only its first `k` records. -/
def truncate (k : Nat) (trace : Mapping) : Mapping :=
  match trace.get "records" with
  | .list records => trace.set "records" (.list (records.take k))
  | _ => trace

/-! ## What the loop notes -/

/-- What `st` notes for the checks after the loop is the beginning of what `st'` notes. -/
structure Extends (st st' : LoopState) : Prop where
  sequences : st.sequences <+: st'.sequences
  recordIds : st.recordIds <+: st'.recordIds
  checkpoints : st.checkpoints <+: st'.checkpoints

theorem Extends.refl (st : LoopState) : Extends st st :=
  ⟨List.prefix_rfl, List.prefix_rfl, List.prefix_rfl⟩

theorem Extends.trans {st st' st'' : LoopState} (h : Extends st st') (h' : Extends st' st'') :
    Extends st st'' :=
  ⟨h.sequences.trans h'.sequences, h.recordIds.trans h'.recordIds,
    h.checkpoints.trans h'.checkpoints⟩

theorem noteCommon_extends (st : LoopState) (record : Mapping) :
    Extends st (noteCommon st record) :=
  ⟨List.prefix_append _ _, List.prefix_append _ _, List.prefix_rfl⟩

theorem noteDecision_extends (st : LoopState) (record : Mapping) :
    Extends st (noteDecision st record) := by
  unfold noteDecision
  split
  · exact .refl st
  · split_ifs <;> exact ⟨List.prefix_rfl, List.prefix_rfl, List.prefix_rfl⟩

section growing

variable [Hashlib] {scope : Scope} {st st' : LoopState} {record : Mapping} {found : List String}

theorem noteBinding_extends (scope : Scope) (st : LoopState) (record : Mapping) :
    Extends st (noteBinding scope st record) := by
  unfold noteBinding
  split
  · exact ⟨List.prefix_rfl, List.prefix_rfl, List.prefix_rfl⟩
  · exact .refl st

theorem runtimeEvent_extends (h : runtimeEvent scope st record = .ok (found, st')) :
    Extends st st' := by
  obtain ⟨known, -, h⟩ := bind_eq_ok.1 h
  cases h
  exact ⟨List.prefix_rfl, List.prefix_rfl, List.prefix_rfl⟩

theorem approval_extends (h : approval scope st record = .ok (found, st')) : Extends st st' := by
  have hbound := noteBinding_extends scope st record
  obtain ⟨known, -, h⟩ := bind_eq_ok.1 h
  cases h
  split_ifs
  · exact hbound.trans (noteDecision_extends _ record)
  · exact hbound

theorem providerEvidence_extends (h : providerEvidence st record = .ok (found, st')) :
    Extends st st' := by
  obtain ⟨known, -, h⟩ := bind_eq_ok.1 h
  cases h
  exact ⟨List.prefix_rfl, List.prefix_rfl, List.prefix_rfl⟩

theorem operation_extends (h : operation scope st record = .ok (found, st')) : Extends st st' := by
  dsimp only [operation] at h
  split_ifs at h
  · exact approval_extends h
  · cases h
    exact noteBinding_extends scope st record
  · exact providerEvidence_extends h
  · cases h
    exact ⟨List.prefix_rfl, List.prefix_rfl, List.prefix_rfl⟩

/-- A turn of the loop only adds to what is noted. -/
theorem step_extends (h : step scope st record = .ok (found, st')) : Extends st st' := by
  have hnoted := noteCommon_extends st record
  obtain ⟨known, -, h⟩ := bind_eq_ok.1 h
  split_ifs at h
  · cases h
    exact hnoted
  · obtain ⟨⟨more, next⟩, hevent, h⟩ := bind_eq_ok.1 h
    cases h
    exact hnoted.trans (runtimeEvent_extends hevent)
  · cases h
    exact hnoted.trans ⟨List.prefix_rfl, List.prefix_rfl, List.prefix_append _ _⟩
  · obtain ⟨⟨more, next⟩, hoperation, h⟩ := bind_eq_ok.1 h
    cases h
    exact hnoted.trans (operation_extends hoperation)

/-- The loop only adds to what is noted. -/
theorem scan_extends {index : Nat} {items : List Json}
    (h : scan scope index st items = .ok (found, st')) : Extends st st' := by
  induction items generalizing index st found with
  | nil =>
    cases h
    exact .refl _
  | cons item items ih =>
    rcases scan_cons_eq_ok.1 h with ⟨_, _, _, _, -, hstep, hscan, -⟩ | ⟨-, _, hscan, -⟩
    · exact (step_extends hstep).trans (ih hscan)
    · exact ih hscan

/-- The loop over the first records finds a part of what the whole loop finds, and ends in a
state that the whole loop extends. -/
theorem scan_append {index : Nat} {items rest : List Json}
    (h : scan scope index st (items ++ rest) = .ok (found, st')) :
    ∃ first mid, scan scope index st items = .ok (first, mid) ∧ first <+: found ∧
      Extends mid st' := by
  induction items generalizing index st found with
  | nil => exact ⟨[], st, rfl, List.nil_prefix, scan_extends h⟩
  | cons item items ih =>
    rw [List.cons_append] at h
    rcases scan_cons_eq_ok.1 h with
      ⟨record, first, next, more, rfl, hstep, hscan, rfl⟩ | ⟨hnot, more, hscan, rfl⟩
    · obtain ⟨first', mid, hfirst, hbegins, hextends⟩ := ih hscan
      exact ⟨first ++ first', mid, scan_cons_eq_ok.2 (Or.inl ⟨record, first, next, first', rfl,
        hstep, hfirst, rfl⟩), (List.prefix_append_right_inj _).2 hbegins, hextends⟩
    · obtain ⟨first', mid, hfirst, hbegins, hextends⟩ := ih hscan
      exact ⟨_, mid, scan_cons_eq_ok.2 (Or.inr ⟨hnot, first', hfirst, rfl⟩),
        (List.prefix_append_right_inj [_]).2 hbegins, hextends⟩

/-! ## The checks after the loop -/

theorem flag_subset {p q : Prop} [Decidable p] [Decidable q] (h : p → q) (name : String) :
    flag p name ⊆ flag q name := by
  unfold flag
  split_ifs with hp hq
  · exact List.Subset.refl _
  · exact absurd (h hp) hq
  · exact List.nil_subset _
  · exact List.nil_subset _

/-- The order and the ids of the records stay wrong. -/
theorem orderFlags_subset (h : Extends st st') : orderFlags st ⊆ orderFlags st' := by
  refine List.append_subset.2 ⟨List.subset_append_of_subset_left _ (flag_subset ?_ _),
    List.subset_append_of_subset_right _ (flag_subset ?_ _)⟩
  · contrapose
    rw [not_outOfOrder, not_outOfOrder]
    exact List.Pairwise.sublist h.sequences.sublist
  · contrapose
    rw [not_hasDuplicates, not_hasDuplicates]
    exact List.Nodup.sublist h.recordIds.sublist

theorem checkpointsFlags_append (previous : Option Mapping) (records rest : List Mapping) :
    checkpointsFlags previous records <+: checkpointsFlags previous (records ++ rest) := by
  induction records generalizing previous with
  | nil => exact List.nil_prefix
  | cons record records ih =>
    rw [List.cons_append, checkpointsFlags, checkpointsFlags]
    exact (List.prefix_append_right_inj _).2 (ih (some record))

/-! ## The violations of a truncated trace -/

theorem validateTrace_truncate {trace : Mapping} (k : Nat) {violations : List String}
    (h : validateTrace trace = .ok violations) :
    ∃ found, validateTrace (truncate k trace) = .ok found ∧ found ⊆ violations := by
  unfold truncate
  rcases hrecords : trace.get "records" with _ | _ | _ | _ | _ | records | _
  case list =>
    have hne : trace.get? "records" ≠ none := Mapping.get?_ne_none_of_get (by simp [hrecords])
    have hget : ∀ key, (trace.set "records" (.list (records.take k))).get key =
        if key = "records" then .list (records.take k) else trace.get key :=
      Mapping.get_set hne _
    unfold validateTrace at h ⊢
    rw [hget, hget, if_neg (by decide), if_pos rfl]
    rw [hrecords] at h
    rcases hscope : trace.get "scope" with _ | _ | _ | _ | _ | _ | scope <;> rw [hscope] at h
    case dict =>
      obtain ⟨⟨found, last⟩, hscan, hviolations⟩ := bind_eq_ok.1 h
      obtain rfl := Except.ok.inj hviolations
      rw [← List.take_append_drop k records] at hscan
      obtain ⟨first, mid, hfirst, hbegins, hextends⟩ := scan_append hscan
      refine ⟨_, bind_eq_ok.2 ⟨(first, mid), hfirst, rfl⟩, fun v hv => ?_⟩
      obtain ⟨rest, hrest⟩ := hextends.checkpoints
      have hcheckpoints := checkpointsFlags_append none mid.checkpoints rest
      rw [hrest] at hcheckpoints
      simp only [mem_sortedSet, List.mem_append] at hv ⊢
      rcases hv with ((hv | hv) | hv) | hv
      · exact Or.inl (Or.inl (Or.inl hv))
      · exact Or.inl (Or.inl (Or.inr (hbegins.subset hv)))
      · exact Or.inl (Or.inr (orderFlags_subset hextends hv))
      · exact Or.inr (hcheckpoints.subset hv)
    all_goals exact ⟨violations, h, List.Subset.refl _⟩
  all_goals exact ⟨violations, h, List.Subset.refl _⟩
/-- The first binding of the first records is the first one of all. -/
theorem FirstEncodes.take {scope : Scope} {records : List Json} (h : FirstEncodes scope records)
    (k : Nat) : FirstEncodes scope (records.take k) := by
  intro binding hbinding
  refine h binding ?_
  rw [← List.take_append_drop k records, firstBound_append]
  exact Option.or_eq_some_iff.2 (Or.inl hbinding)

/-- Where the validator returns on a trace, it returns on the trace with only its first
records, and every violation of that trace is one of the whole. So a truncated trace is
accepted if the trace is. -/
theorem violations_truncate (trace : Mapping) (k : Nat) (violations : List String)
    (h : validateTraceText trace = .ok violations) :
    (∃ found, validateTraceText (truncate k trace) = .ok found ∧ ∀ v ∈ found, v ∈ violations) ∧
      (violations = [] → validateTraceText (truncate k trace) = .ok []) := by
  obtain ⟨hvalidate, hfirst⟩ := validateTraceText_eq_ok.1 h
  have hsubset : ∃ found, validateTraceText (truncate k trace) = .ok found ∧
      found ⊆ violations := by
    obtain ⟨found, hfound, hsubset⟩ := validateTrace_truncate k hvalidate
    refine ⟨found, validateTraceText_eq_ok.2 ⟨hfound, fun scope records hscope hrecords => ?_⟩,
      hsubset⟩
    unfold truncate at hscope hrecords
    split at hrecords
    · next items hitems =>
      have hne : trace.get? "records" ≠ none := Mapping.get?_ne_none_of_get (by simp [hitems])
      rw [hitems] at hscope
      simp only [Mapping.get_set hne, if_true] at hscope hrecords
      rw [if_neg (by decide)] at hscope
      obtain rfl := Json.list.inj hrecords
      exact (hfirst scope items hscope hitems).take k
    · next hnot => exact absurd hrecords (hnot records)
  refine ⟨hsubset, ?_⟩
  rintro rfl
  obtain ⟨found, hfound, hnil⟩ := hsubset
  rw [hfound, List.subset_nil.1 hnil]

end growing

/-- The first records of the baseline trace. -/
theorem violations_truncate_sample :
    letI := traceHashlib
    (∃ found, validateTraceText (truncate 3 (sampleTrace retryThenReconcile)) = .ok found ∧
        ∀ v ∈ found, v ∈ ([] : List String)) ∧
      (([] : List String) = [] →
        validateTraceText (truncate 3 (sampleTrace retryThenReconcile)) = .ok []) :=
  letI := traceHashlib
  violations_truncate (sampleTrace retryThenReconcile) 3 [] retryThenReconcile_accepted

end TraceIntegrity

end ReliabilityLab
