import Mathlib.Data.List.Chain
import ReliabilityLab.TraceGuarantees

/-!
# Checkpoint lineages of accepted traces

The validator compares each checkpoint with the one before it only. `Lineage` is what the
trace schema means by a linear lineage : one sequence of checkpoints of the run, each with
its predecessor as its only parent, so that following parents ends at the root. The
validator has no counterpart of the primary key of the checkpoint store, and
`accepted_lineage_iff` says that this is all that is missing : the checkpoints of an
accepted trace are a lineage exactly if their ids are pairwise distinct.
-/

set_option linter.unusedSectionVars false

open Serial

namespace ReliabilityLab

namespace TraceIntegrity

open Json

/-! ## Lineages -/

/-- Following the parent ids of `c` ends at a record without a parent, whichever record of
a parent id is taken. -/
inductive EndsAtRoot (cs : List Mapping) : Mapping → Prop
  | root {c : Mapping} : c.get "parent_checkpoint_id" = .null → EndsAtRoot cs c
  | parent {c : Mapping} :
      (∃ p ∈ cs, p.get "checkpoint_id" = c.get "parent_checkpoint_id") →
      (∀ p ∈ cs, p.get "checkpoint_id" = c.get "parent_checkpoint_id" → EndsAtRoot cs p) →
      EndsAtRoot cs c

/-- The checkpoints `cs` are one linear lineage of the run. -/
structure Lineage (ids : ScopeIds) (cs : List Mapping) : Prop where
  runId : ∀ c ∈ cs, c.get "run_id" = .str ids.runId
  distinct : (cs.map fun c => c.get "checkpoint_id").Nodup
  sequence : ∀ (k : Nat) c, cs[k]? = some c → PyEq (c.get "checkpoint_sequence") (.int k)
  root : ∀ c, cs[0]? = some c → c.get "parent_checkpoint_id" = .null
  parent : ∀ k p c, cs[k]? = some p → cs[k + 1]? = some c →
    c.get "parent_checkpoint_id" = p.get "checkpoint_id" ∧
      ∀ l q, cs[l]? = some q → q.get "checkpoint_id" = c.get "parent_checkpoint_id" → l = k
  plan : ∀ c ∈ cs, ∀ d ∈ cs, c.get "plan_sha256" = d.get "plan_sha256"
  progress : cs.Pairwise fun c d => ∃ m n, (c.get "completed_count").intValue? = some m ∧
    (d.get "completed_count").intValue? = some n ∧ m ≤ n
  ends : ∀ c ∈ cs, EndsAtRoot cs c

/-! ## Chains -/

theorem checkpointChain_some {p : Mapping} {cs : List Mapping} :
    CheckpointChain (some p) cs ↔ (∀ c ∈ cs, CleanCheckpoint c) ∧ (p :: cs).IsChain Follows := by
  induction cs generalizing p with
  | nil => simp [CheckpointChain]
  | cons c cs ih =>
    rw [CheckpointChain, ih, Option.elim_some, List.isChain_cons_cons, List.forall_mem_cons]
    tauto

theorem checkpointChain_none {cs : List Mapping} :
    CheckpointChain none cs ↔
      (∀ c ∈ cs, CleanCheckpoint c) ∧ (∀ c ∈ cs.head?, IsRoot c) ∧ cs.IsChain Follows := by
  rcases cs with _ | ⟨c, cs⟩
  · simp [CheckpointChain]
  · rw [CheckpointChain, checkpointChain_some, Option.elim_none, List.forall_mem_cons]
    simp only [List.head?_cons, Option.mem_some_iff, forall_eq']
    tauto

section chain

variable {cs : List Mapping}

theorem follows_of_getElem? (h : cs.IsChain Follows) {k : Nat} {p c : Mapping}
    (hp : cs[k]? = some p) (hc : cs[k + 1]? = some c) : Follows p c := by
  obtain ⟨hk, rfl⟩ := List.getElem?_eq_some_iff.1 hc
  obtain ⟨_, rfl⟩ := List.getElem?_eq_some_iff.1 hp
  exact List.isChain_iff_getElem.1 h k hk

/-- The `k`-th checkpoint has the sequence `k`. -/
theorem sequence_of_chain (hclean : ∀ c ∈ cs, CleanCheckpoint c) (hroot : ∀ c ∈ cs.head?, IsRoot c)
    (hchain : cs.IsChain Follows) (k : Nat) {c : Mapping} (hc : cs[k]? = some c) :
    (c.get "checkpoint_sequence").intValue? = some k := by
  obtain ⟨n, hn, -⟩ := (hclean c (List.mem_of_getElem? hc)).sequence
  induction k generalizing c n with
  | zero =>
    have hseq := (hroot c (by rwa [List.head?_eq_getElem?])).sequence
    rw [pyEq_of_intValue? hn rfl] at hseq
    rw [hn, hseq]
    rfl
  | succ k ih =>
    obtain ⟨p, hp⟩ : ∃ p, cs[k]? = some p := by
      obtain ⟨hk, -⟩ := List.getElem?_eq_some_iff.1 hc
      exact ⟨_, List.getElem?_eq_getElem (by omega)⟩
    obtain ⟨m, hm, -⟩ := (hclean p (List.mem_of_getElem? hp)).sequence
    have hpk := ih hp m hm
    have hseq := (follows_of_getElem? hchain hp hc).sequence _ hpk
    rw [pyEq_of_intValue? hn rfl] at hseq
    rw [hn, hseq]
    simp

/-- Two checkpoints of a chain have one plan. -/
theorem plan_of_chain (hclean : ∀ c ∈ cs, CleanCheckpoint c) (hchain : cs.IsChain Follows) :
    ∀ c ∈ cs, ∀ d ∈ cs, c.get "plan_sha256" = d.get "plan_sha256" := by
  let R : Mapping → Mapping → Prop := fun c d => c.get "plan_sha256" = d.get "plan_sha256"
  have : Trans R R R := ⟨Eq.trans⟩
  have hpairs : cs.Pairwise R := by
    refine (List.isChain_iff_getElem.2 fun k hk => ?_).pairwise
    have hplan := (List.isChain_iff_getElem.1 hchain k hk).plan
    have htext := isSha256_eq (hclean cs[k] (List.getElem_mem _)).plan
    rw [htext, pyEq_str] at hplan
    exact htext.trans hplan.symm
  have hflip : cs.Pairwise (flip R) := hpairs.imp Eq.symm
  intro c hc d hd
  exact List.Pairwise.forall_of_forall_of_flip (R := R) (fun _ _ => rfl) hpairs hflip hc hd

/-- The completed counts of a chain do not decrease. -/
theorem progress_of_chain (hclean : ∀ c ∈ cs, CleanCheckpoint c) (hchain : cs.IsChain Follows) :
    cs.Pairwise fun c d => ∃ m n, (c.get "completed_count").intValue? = some m ∧
      (d.get "completed_count").intValue? = some n ∧ m ≤ n := by
  let R : Mapping → Mapping → Prop := fun c d =>
    ∃ m n, (c.get "completed_count").intValue? = some m ∧
      (d.get "completed_count").intValue? = some n ∧ m ≤ n
  have : Trans R R R := by
    refine ⟨?_⟩
    rintro a b c ⟨l, m, hl, hm, hlm⟩ ⟨m', n, hm', hn, hmn⟩
    obtain rfl := Option.some.inj (hm.symm.trans hm')
    exact ⟨l, n, hl, hn, hlm.trans hmn⟩
  refine List.IsChain.pairwise (R := R) (List.isChain_iff_getElem.2 fun k hk => ?_)
  obtain ⟨m, hm, -⟩ := (hclean cs[k] (List.getElem_mem _)).completed
  obtain ⟨n, hn, -⟩ := (hclean cs[k + 1] (List.getElem_mem _)).completed
  exact ⟨m, n, hm, hn, (List.isChain_iff_getElem.1 hchain k hk).progress m hm n hn⟩

/-- The parent id of a later checkpoint is the id of its predecessor. -/
theorem parent_of_chain (hclean : ∀ c ∈ cs, CleanCheckpoint c) (hchain : cs.IsChain Follows)
    {k : Nat} {p c : Mapping} (hp : cs[k]? = some p) (hc : cs[k + 1]? = some c) :
    c.get "parent_checkpoint_id" = p.get "checkpoint_id" := by
  have hparent := (follows_of_getElem? hchain hp hc).parent
  have hid := (hclean p (List.mem_of_getElem? hp)).checkpointId.1
  rwa [hid, pyEq_str, ← hid] at hparent

/-- Distinct ids make positions of ids unique. -/
theorem position_unique {k l : Nat} {p q : Mapping}
    (hnodup : (cs.map fun c => c.get "checkpoint_id").Nodup) (hp : cs[k]? = some p)
    (hq : cs[l]? = some q) (h : q.get "checkpoint_id" = p.get "checkpoint_id") : l = k := by
  obtain ⟨hl, -⟩ := List.getElem?_eq_some_iff.1 hq
  refine (List.getElem?_inj (by simpa using hl) hnodup).1 ?_
  rw [List.getElem?_map, List.getElem?_map, hp, hq]
  simp [h]

/-- With distinct ids, parents lead to the root. -/
theorem ends_of_chain (hclean : ∀ c ∈ cs, CleanCheckpoint c) (hroot : ∀ c ∈ cs.head?, IsRoot c)
    (hchain : cs.IsChain Follows) (hnodup : (cs.map fun c => c.get "checkpoint_id").Nodup)
    (k : Nat) {c : Mapping} (hc : cs[k]? = some c) : EndsAtRoot cs c := by
  induction k generalizing c with
  | zero => exact .root (hroot c (by rwa [List.head?_eq_getElem?])).parent
  | succ k ih =>
    obtain ⟨p, hp⟩ : ∃ p, cs[k]? = some p := by
      obtain ⟨hk, -⟩ := List.getElem?_eq_some_iff.1 hc
      exact ⟨_, List.getElem?_eq_getElem (by omega)⟩
    have hparent := parent_of_chain hclean hchain hp hc
    refine .parent ⟨p, List.mem_of_getElem? hp, hparent.symm⟩ fun q hq hid => ?_
    obtain ⟨l, hl⟩ := List.getElem?_of_mem hq
    obtain rfl := position_unique hnodup hp hl (hid.trans hparent)
    exact ih hl

end chain

/-! ## Accepted traces -/

section accepted

variable [Hashlib] {ids : ScopeIds} {rs : List Mapping}

/-- A chain of checkpoints with distinct ids is a lineage. -/
theorem Accepted.lineage (h : Accepted ids rs)
    (hnodup : ((checkpointsOf rs).map fun c => c.get "checkpoint_id").Nodup) :
    Lineage ids (checkpointsOf rs) := by
  obtain ⟨hclean, hroot, hchain⟩ := checkpointChain_none.1 h.checkpoints
  refine ⟨fun c hc => ?_, hnodup, fun k c hc => ?_, fun c hc => ?_, fun k p c hp hc => ?_,
    plan_of_chain hclean hchain, progress_of_chain hclean hchain, fun c hc => ?_⟩
  · obtain ⟨hmem, hkind⟩ := List.mem_filter.1 hc
    obtain ⟨_, _, -, hrecord⟩ := h.clean_of_mem hmem
    exact hrecord.checkpoint (by simpa using hkind)
  · rw [pyEq_of_intValue? (sequence_of_chain hclean hroot hchain k hc) rfl]
  · exact (hroot c (by rwa [List.head?_eq_getElem?])).parent
  · have hparent := parent_of_chain hclean hchain hp hc
    exact ⟨hparent, fun l q hq hid => position_unique hnodup hp hq (hid.trans hparent)⟩
  · obtain ⟨k, hk⟩ := List.getElem?_of_mem hc
    exact ends_of_chain hclean hroot hchain hnodup k hk

/-- The checkpoints of an accepted trace are one linear lineage exactly if their ids are
pairwise distinct. -/
theorem accepted_lineage_iff (trace : Mapping) (h : validateTraceText trace = .ok []) :
    ∃ ids rs, Reads trace ids rs ∧ (Lineage ids (checkpointsOf rs) ↔
      ((checkpointsOf rs).map fun c => c.get "checkpoint_id").Nodup) := by
  obtain ⟨ids, rs, hreads, hacc, -⟩ := validateTraceText_eq_nil.1 h
  exact ⟨ids, rs, hreads, fun hlineage => hlineage.distinct, hacc.lineage⟩

end accepted

/-! ## Sample traces -/

/-- The checkpoints of the baseline trace. -/
theorem accepted_lineage_iff_sample :
    letI := traceHashlib
    ∃ ids rs, Reads (sampleTrace retryThenReconcile) ids rs ∧
      (Lineage ids (checkpointsOf rs) ↔
        ((checkpointsOf rs).map fun c => c.get "checkpoint_id").Nodup) :=
  letI := traceHashlib
  accepted_lineage_iff (sampleTrace retryThenReconcile) retryThenReconcile_accepted

/-- A root and a checkpoint of the same id, whose parent is that id. -/
def repeatedCheckpoint : List Mapping :=
  [[("checkpoint_id", .str "cp-0"), ("checkpoint_sequence", .int 0),
      ("completed_count", .int 0), ("kind", .str "checkpoint"), ("parent_checkpoint_id", .null),
      ("plan_sha256", .str samplePlan), ("record_id", .str "r1"), ("run_id", .str "run-42"),
      ("sequence", .int 1)],
    [("checkpoint_id", .str "cp-0"), ("checkpoint_sequence", .int 1),
      ("completed_count", .int 1), ("kind", .str "checkpoint"),
      ("parent_checkpoint_id", .str "cp-0"), ("plan_sha256", .str samplePlan),
      ("record_id", .str "r2"), ("run_id", .str "run-42"), ("sequence", .int 2)]]

/-- Acceptance alone does not make the checkpoint ids distinct. -/
theorem repeatedCheckpoint_accepted :
    letI := traceHashlib
    ¬∀ trace, validateTraceText trace = .ok [] → ∀ ids rs, Reads trace ids rs →
      Lineage ids (checkpointsOf rs) := by
  let := traceHashlib
  intro h
  have hlineage := h (sampleTrace repeatedCheckpoint) (by decide +kernel) sampleIds
    repeatedCheckpoint ⟨⟨_, rfl, rfl⟩, rfl⟩
  exact absurd hlineage.distinct (by decide)

end TraceIntegrity

end ReliabilityLab
