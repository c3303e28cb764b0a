import Mathlib.Data.String.Basic
import ReliabilityLab.Fold
import ReliabilityLab.ProviderStore

/-!
# The states that conditional writes return

`conditional_apply` returns what `apply_conditional_retry` makes of the state it read : the
stored effects by operation id, and the new one at the end. A snapshot afterwards reads all
of them by operation id. The two are equal just when the new id comes after the stored ones
(`snapshot_after_commit_iff`).

Over a run, `chained` applies the committed retries of a provider one after another in
memory. It has the effects in commit order, so it agrees with the store just when the
committed ids increase (`returnedStates_iff`).
-/

set_option linter.unusedSectionVars false

open Serial Keyed

namespace ReliabilityLab

/-! ## Sorting with a last element -/

section Sorting

variable {α : Type} {r : α → α → Prop} [DecidableRel r]

theorem orderedInsert_concat {a x : α} (h : r a x) (as : List α) :
    (as ++ [x]).orderedInsert r a = as.orderedInsert r a ++ [x] := by
  induction as with
  | nil => simp [h]
  | cons b as ih =>
    rw [List.cons_append, List.orderedInsert_cons, List.orderedInsert_cons, ih]
    split_ifs <;> rfl

/-- A last element stays last in the sorted list just when the others come before it. -/
theorem insertionSort_concat_iff [Std.Total r] [IsTrans α r] {as : List α} {x : α} :
    (as ++ [x]).insertionSort r = as.insertionSort r ++ [x] ↔ ∀ a ∈ as, r a x := by
  constructor
  · intro h a ha
    have hsorted := List.pairwise_insertionSort r (as ++ [x])
    rw [h, List.pairwise_append] at hsorted
    exact hsorted.2.2 a ((List.mem_insertionSort r).2 ha) x (by simp)
  · intro h
    induction as with
    | nil => rfl
    | cons a as ih =>
      obtain ⟨ha, has⟩ := List.forall_mem_cons.1 h
      rw [List.cons_append, List.insertionSort_cons, ih has, orderedInsert_concat ha,
        List.insertionSort_cons]

end Sorting

namespace VersionedProviderStore

/-! ## One write -/

/-- The order of the stored effects in a snapshot. -/
abbrev byOperationId (a b : ExternalOperation) : Prop :=
  a.operationId ≤ b.operationId

instance : Std.Total byOperationId :=
  ⟨fun a b => le_total a.operationId b.operationId⟩

instance : IsTrans ExternalOperation byOperationId :=
  ⟨fun _ _ _ => le_trans⟩

section Returned

variable [Hashlib]

/-- The stored ids of the provider are not the new one. -/
theorem Commits.operationId_ne {db db' : ProviderDb} {operation : ExternalOperation}
    {decision : ReconciliationDecision} {updated : VersionedProviderState}
    (h : Commits db db' operation decision updated) :
    ∀ e ∈ db.effectsOf operation.provider, e.operationId ≠ operation.operationId := by
  intro e he hid
  obtain ⟨hrow, hprovider⟩ := ProviderDb.mem_effectsOf.1 he
  exact Table.find?_eq_none_iff.1 h.absent e hrow (Prod.ext hprovider hid)

/-- The state after a commit is the returned one just when the new id is the largest. -/
theorem Commits.state_eq_iff {db db' : ProviderDb} {operation : ExternalOperation}
    {decision : ReconciliationDecision} {updated : VersionedProviderState}
    (h : Commits db db' operation decision updated) :
    db'.state operation.provider = updated ↔
      ∀ e ∈ db.effectsOf operation.provider, e.operationId < operation.operationId := by
  have hrevision : db'.revision operation.provider = db.revision operation.provider + 1 := by
    rw [h.revision, if_pos rfl]
  have heffects : db'.effectsOf operation.provider =
      db.effectsOf operation.provider ++ [operation] := by
    rw [h.effectsOf, if_pos rfl]
  have hle : (∀ e ∈ db.effectsOf operation.provider, byOperationId e operation) ↔
      ∀ e ∈ db.effectsOf operation.provider, e.operationId < operation.operationId :=
    forall₂_congr fun e he => ⟨fun hle => lt_of_le_of_ne hle (h.operationId_ne e he), le_of_lt⟩
  rw [← hle, ← insertionSort_concat_iff, ← heffects, h.updated, VersionedProviderState.ext_iff]
  exact and_iff_right hrevision

/-- A snapshot right after a conditional write returned a state gives that state just when
the operation's id comes after those stored for its provider. -/
theorem snapshot_after_commit_iff {operation : ExternalOperation}
    {decision : ReconciliationDecision} {updated : VersionedProviderState} {db : ProviderDb}
    (h : (conditionalApply operation decision db).2 = .ok updated) :
    (snapshot operation.provider (conditionalApply operation decision db).1).2 = .ok updated ↔
      ∀ e ∈ db.effectsOf operation.provider, e.operationId < operation.operationId := by
  rcases conditionalApply_cases operation decision db with ⟨e, -, hc⟩ | ⟨u, db', hc, hcommits⟩
  · rw [hc] at h
    cases h
  · rw [hc] at h ⊢
    obtain rfl := Except.ok.inj h
    rcases snapshot_cases operation.provider db' with ⟨-, hblank⟩ | ⟨hs, -⟩
    · rw [operation.provider_nonblank] at hblank
      cases hblank
    · rw [hs, ← hcommits.state_eq_iff]
      exact ⟨Except.ok.inj, congrArg _⟩

theorem nodup_operationIds (db : ProviderDb) (p : String) :
    ((db.effectsOf p).map ExternalOperation.operationId).Nodup := by
  have hidentities : ((db.effectsOf p).map ExternalOperation.identity).Nodup :=
    db.effects.unique.sublist (List.filter_sublist.map _)
  refine List.Nodup.of_map (fun i => (p, i)) ?_
  rw [List.map_map]
  refine (List.map_congr_left fun e he => ?_) ▸ hidentities
  exact Prod.ext (ProviderDb.mem_effectsOf.1 he).2 rfl

/-- The effects are stored in the order of a snapshot just when their ids increase. -/
theorem ids_increase_iff {db : ProviderDb} {p : String} :
    db.orderedEffects p = db.effectsOf p ↔
      ((db.effectsOf p).map ExternalOperation.operationId).Pairwise (· < ·) := by
  constructor
  · intro h
    have hle : (db.effectsOf p).Pairwise byOperationId := by
      rw [← h]
      exact List.pairwise_insertionSort byOperationId _
    have hsorted : ((db.effectsOf p).map ExternalOperation.operationId).Pairwise (· ≤ ·) :=
      List.pairwise_map.2 hle
    exact (hsorted.and (nodup_operationIds db p)).imp fun h => lt_of_le_of_ne h.1 h.2
  · intro h
    exact List.Pairwise.insertionSort_eq ((List.pairwise_map.1 h).imp le_of_lt)

/-! ## Runs -/

/-- A step of a run, with its reply. -/
abbrev ProviderEvent := (ProviderCall × Machine.Fate) × Option (Except Raised ProviderReply)

/-- The retry of a conditional write that commits. -/
def committedBy : ProviderEvent → Option (ExternalOperation × ReconciliationDecision)
  | ((.conditionalApply operation decision, _), some (.ok (.state _))) =>
    some (operation, decision)
  | _ => none

/-- The committed retries of a provider, in commit order. -/
def committedRetries (h : List ProviderEvent) (provider : String) :
    List (ExternalOperation × ReconciliationDecision) :=
  (h.filterMap committedBy).filter fun c => c.1.provider = provider

/-- The committed retries of a provider applied one after another in memory, each to the
state the one before returned. -/
def chained (h : List ProviderEvent) (provider : String) :
    Except Raised VersionedProviderState :=
  (committedRetries h provider).foldlM (fun s c => applyConditionalRetry c.1 c.2 s)
    ⟨0, [], ProviderDb.empty.revision_nonneg provider⟩

/-- What the chained retries and the history say of the database. -/
structure Chains (h : List ProviderEvent) (db : ProviderDb) : Prop where
  chained : ∀ p, chained h p = .ok ⟨db.revision p, db.effectsOf p, db.revision_nonneg p⟩
  committed : ∀ p, (committedRetries h p).map Prod.fst = db.effectsOf p

theorem chains_empty : Chains [] .empty :=
  ⟨fun _ => rfl, fun _ => rfl⟩

theorem committedRetries_concat (h : List ProviderEvent) (e : ProviderEvent) (p : String) :
    committedRetries (h ++ [e]) p =
      committedRetries h p ++ ((committedBy e).toList.filter fun c => c.1.provider = p) := by
  unfold committedRetries
  rw [List.filterMap_append, List.filter_append]
  rcases he : committedBy e with _ | c <;> simp [he]

theorem Chains.commit {h : List ProviderEvent} {db db' : ProviderDb} {e : ProviderEvent}
    {operation : ExternalOperation} {decision : ReconciliationDecision}
    {updated : VersionedProviderState} (hchains : Chains h db)
    (hcommits : Commits db db' operation decision updated)
    (he : committedBy e = some (operation, decision)) : Chains (h ++ [e]) db' := by
  refine ⟨fun p => ?_, fun p => ?_⟩
  · have hold := hchains.chained p
    unfold VersionedProviderStore.chained at hold ⊢
    rw [committedRetries_concat, he, Option.toList_some, List.filter_singleton]
    by_cases hp : operation.provider = p
    · subst hp
      have habsent : ∀ x ∈ db.effectsOf operation.provider,
          x.identity ≠ operation.identity := fun x hx hid =>
        hcommits.operationId_ne x hx (Prod.mk.inj hid).2
      have happly : applyConditionalRetry operation decision ⟨db.revision operation.provider,
          db.effectsOf operation.provider, db.revision_nonneg operation.provider⟩ = .ok _ :=
        applyConditionalRetry_eq_ok.2 ⟨hcommits.authorizes, habsent, rfl⟩
      rw [decide_eq_true rfl, cond_true, foldlM_concat, hold, ok_bind, happly]
      refine congrArg _ (VersionedProviderState.ext ?_ ?_)
      · exact ((hcommits.revision _).trans (if_pos rfl)).symm
      · exact ((hcommits.effectsOf _).trans (if_pos rfl)).symm
    · rw [decide_eq_false hp, cond_false, List.append_nil, hold]
      refine congrArg _ (VersionedProviderState.ext ?_ ?_)
      · exact ((hcommits.revision p).trans (if_neg (Ne.symm hp))).symm
      · exact ((hcommits.effectsOf p).trans (if_neg (Ne.symm hp))).symm
  · rw [committedRetries_concat, he, Option.toList_some, List.filter_singleton, List.map_append,
      hchains.committed, hcommits.effectsOf]
    by_cases hp : operation.provider = p
    · simp [hp]
    · simp [hp, Ne.symm hp]

theorem Chains.keep {h : List ProviderEvent} {db db' : ProviderDb} {e : ProviderEvent}
    (hchains : Chains h db) (hsame : SameContent db db') (he : committedBy e = none) :
    Chains (h ++ [e]) db' := by
  have hretries : ∀ p, committedRetries (h ++ [e]) p = committedRetries h p := fun p => by
    rw [committedRetries_concat, he, Option.toList_none, List.filter_nil, List.append_nil]
  refine ⟨fun p => ?_, fun p => ?_⟩
  · unfold VersionedProviderStore.chained
    rw [hretries]
    refine (hchains.chained p).trans (congrArg _ (VersionedProviderState.ext ?_ ?_))
    · exact (hsame.revision p).symm
    · exact (hsame.effectsOf p).symm
  · rw [hretries, hchains.committed, hsame.effectsOf]

theorem chains_after (cs : List (ProviderCall × Machine.Fate)) :
    Chains (providerMachine.crashing.history .empty cs)
      (providerMachine.crashing.after .empty cs) := by
  refine providerMachine.crashing.history_induction chains_empty (fun h db c hchains => ?_) cs
  obtain ⟨call, fate⟩ := c
  rcases providerMachine.crashing_cases (call, fate) db with ⟨hc, -⟩ | ⟨hc, -⟩ <;> rw [hc]
  · exact hchains.keep (.refl db) (by cases call <;> rfl)
  rcases perform_cases call db with ⟨operation, decision, updated, rfl, hr, hcommits⟩ | ⟨hs, hn⟩
  · exact hchains.commit hcommits (by rw [hr]; rfl)
  · refine hchains.keep hs ?_
    rcases call with _ | provider | operation | ⟨operation, decision⟩
    · rfl
    · rfl
    · rfl
    · obtain ⟨e, he⟩ := hn operation decision rfl
      simp only [he]
      rfl

/-- In every reachable state : a snapshot taken right after a conditional write returned a
state gives that state just when the new operation id comes after those stored for its
provider; and the committed retries of a provider, chained in memory, give the stored
state just when their operation ids increase. -/
theorem returnedStates_iff (cs : List (ProviderCall × Machine.Fate)) :
    let db := providerMachine.crashing.after .empty cs
    let history := providerMachine.crashing.history .empty cs
    (∀ operation decision updated, (conditionalApply operation decision db).2 = .ok updated →
      ((snapshot operation.provider (conditionalApply operation decision db).1).2 =
          .ok updated ↔
        ∀ e ∈ db.effectsOf operation.provider, e.operationId < operation.operationId)) ∧
      ∀ p, chained history p = .ok (db.state p) ↔
        ((committedRetries history p).map fun c => c.1.operationId).Pairwise (· < ·) := by
  intro db history
  refine ⟨fun operation decision updated => snapshot_after_commit_iff, fun p => ?_⟩
  have hchains : Chains history db := chains_after cs
  have hids : ((committedRetries history p).map fun c => c.1.operationId) =
      (db.effectsOf p).map ExternalOperation.operationId := by
    rw [← hchains.committed, List.map_map]
    rfl
  rw [hchains.chained, hids, ← ids_increase_iff]
  refine ⟨fun h => ?_, fun h => ?_⟩
  · exact (congrArg VersionedProviderState.effects (Except.ok.inj h)).symm
  · exact congrArg _ (VersionedProviderState.ext rfl h.symm)

end Returned

/-! ## Ids in descending order -/

/-- `op-b` is written first, so the write of `op-a` returns it behind `op-b`. -/
theorem returnedStates_descending :
    letI := pairHashlib
    ¬ ∀ (cs : List (ProviderCall × Machine.Fate)) operation decision updated,
      (conditionalApply operation decision (providerMachine.crashing.after .empty cs)).2 =
          .ok updated →
        (snapshot operation.provider (conditionalApply operation decision
          (providerMachine.crashing.after .empty cs)).1).2 = .ok updated := by
  let := pairHashlib
  intro hclaim
  have hstored := hclaim
    [(.conditionalApply operationB (retryExactOperation operationB 0), .returned)]
    operationA (retryExactOperation operationA 1) ⟨2, [operationB, operationA], by decide⟩
    (by decide +kernel)
  revert hstored
  decide +kernel

end VersionedProviderStore

end ReliabilityLab
