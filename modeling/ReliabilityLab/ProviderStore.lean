import Mathlib.Data.List.Sort
import ReliabilityLab.Machine
import ReliabilityLab.Reconciliation
import ReliabilityLab.Table

/-!
# The versioned provider store

`VersionedProviderStore` : two tables, the revision of each provider and the effects
it stores. Every call runs in one `BEGIN IMMEDIATE` transaction, so a call is one step
of `providerMachine`. `snapshotInTransaction` reads a provider and gives it a revision
row on first use; `conditionalApply` is the conditional write.

The two views of a database are `revision` and `effectsOf`, the stored effects of one
provider in commit order. `conditionalApply_cases` is what a conditional write can do
: nothing, or append one operation to its provider and raise that revision by one.
`WellFormed` is the invariant that a revision counts the effects, and
`oneCommitPerRevision` the race it decides : of the conditional writes at one revision
at most one ever commits, and the others are stale.
-/

set_option linter.unusedSectionVars false

open Serial Keyed

namespace ReliabilityLab

/-! ## The database -/

/-- A row of `provider_revisions`. -/
@[ext]
structure RevisionRow where
  provider : String
  revision : Int
  revision_nonneg : 0 ≤ revision

instance : DecidableEq RevisionRow := fun _ _ =>
  decidable_of_iff _ RevisionRow.ext_iff.symm

/-- The tables `provider_revisions` and `provider_effects`. -/
structure ProviderDb where
  revisions : Table RevisionRow RevisionRow.provider
  effects : Table ExternalOperation ExternalOperation.identity

namespace ProviderDb

/-- A new database. -/
def empty : ProviderDb :=
  ⟨.empty, .empty⟩

/-- The revision of a provider; a provider without a row is at `0`. -/
def revision (db : ProviderDb) (provider : String) : Int :=
  (db.revisions.find? provider).elim 0 RevisionRow.revision

/-- The stored effects of a provider, in commit order. -/
def effectsOf (db : ProviderDb) (provider : String) : List ExternalOperation :=
  db.effects.select fun e => e.provider = provider

/-- The stored effects of a provider, `ORDER BY operation_id`. -/
def orderedEffects (db : ProviderDb) (provider : String) : List ExternalOperation :=
  (db.effectsOf provider).insertionSort fun a b => a.operationId ≤ b.operationId

theorem revision_nonneg (db : ProviderDb) (provider : String) : 0 ≤ db.revision provider := by
  unfold revision
  rcases db.revisions.find? provider with _ | row
  · exact le_rfl
  · exact row.revision_nonneg

/-- The state a snapshot gives. -/
def state (db : ProviderDb) (provider : String) : VersionedProviderState :=
  ⟨db.revision provider, db.orderedEffects provider, db.revision_nonneg provider⟩

/-- The database with a revision row for `provider`. -/
def touch (db : ProviderDb) (provider : String) : ProviderDb :=
  { db with revisions := db.revisions.insertOrIgnore ⟨provider, 0, le_rfl⟩ }

@[simp] theorem effects_touch (db : ProviderDb) (provider : String) :
    (db.touch provider).effects = db.effects := rfl

@[simp] theorem effectsOf_touch (db : ProviderDb) (provider p : String) :
    (db.touch provider).effectsOf p = db.effectsOf p := rfl

@[simp] theorem revision_touch (db : ProviderDb) (provider p : String) :
    (db.touch provider).revision p = db.revision p := by
  unfold revision touch
  rw [Table.find?_insertOrIgnore]
  split_ifs with h
  · rw [h]
    rcases db.revisions.find? provider with _ | row <;> rfl
  · rfl

theorem mem_effectsOf {db : ProviderDb} {provider : String} {e : ExternalOperation} :
    e ∈ db.effectsOf provider ↔ e ∈ db.effects.rows ∧ e.provider = provider := by
  simp [effectsOf, Table.mem_select]

theorem mem_orderedEffects {db : ProviderDb} {provider : String} {e : ExternalOperation} :
    e ∈ db.orderedEffects provider ↔ e ∈ db.effects.rows ∧ e.provider = provider := by
  rw [orderedEffects, List.mem_insertionSort, mem_effectsOf]

end ProviderDb

namespace VersionedProviderStore

/-! ## The calls -/

/-- The revision row of a provider, inserted if there is none. -/
def revisionRow (provider : String) (db : ProviderDb) : Except Raised (RevisionRow × ProviderDb) :=
  match db.revisions.find? provider with
  | some row => .ok (row, db)
  | none => do
    let row : RevisionRow := ⟨provider, 0, le_rfl⟩
    let revisions ← orRaise (db.revisions.insert? row) (uniqueFailed "provider_revisions.provider")
    .ok (row, { db with revisions })

/-- The state of a provider, in a transaction. -/
def snapshotInTransaction (provider : String) (db : ProviderDb) :
    Except Raised (VersionedProviderState × ProviderDb) := do
  let (row, db) ← revisionRow provider db
  .ok (⟨row.revision, db.orderedEffects provider, row.revision_nonneg⟩, db)

/-- The state of a provider. -/
def snapshot (provider : String) (db : ProviderDb) :
    ProviderDb × Except Raised VersionedProviderState :=
  if isBlank provider then
    (db, .error ⟨.valueError, "provider must be a nonempty string"⟩)
  else
    transaction (snapshotInTransaction provider) db

section store

variable [Hashlib]

/-- What `read` makes of its transaction's result, after the commit. -/
def readback (operation : ExternalOperation) (state : VersionedProviderState) :
    Option ExternalOperation → Except Raised ProviderEvidence
  | none => .ok (absentReadback operation state)
  | some row => do
    raiseIf ((row.tool, row.payload) ≠ (operation.tool, operation.payload))
      ⟨.reconciliationConflict, "provider stores a conflicting effect for this operation identity"⟩
    .ok (presentReadback operation row state)

/-- A versioned exact readback. -/
def read (operation : ExternalOperation) (db : ProviderDb) :
    ProviderDb × Except Raised ProviderEvidence :=
  let result := transaction (fun db => do
    let (state, db) ← snapshotInTransaction operation.provider db
    .ok ((state, db.effects.find? operation.identity), db)) db
  (result.1, do
    let (state, row) ← result.2
    readback operation state row)

/-- Serialize competing conditional retries at the provider revision boundary. -/
def conditionalApply (operation : ExternalOperation) (decision : ReconciliationDecision)
    (db : ProviderDb) : ProviderDb × Except Raised VersionedProviderState :=
  transaction (fun db => do
    let (current, db) ← snapshotInTransaction operation.provider db
    let updated ← applyConditionalRetry operation decision current
    let effects ← orRaise (db.effects.insert? operation)
      (uniqueFailed "provider_effects.provider, provider_effects.operation_id")
    let revisions := db.revisions.update operation.provider
      (fun row => ⟨row.provider, updated.revision, updated.revision_nonneg⟩) fun _ => rfl
    .ok (updated, { revisions, effects })) db

/-- A call of the store. Opening the store again creates no table that exists. -/
inductive ProviderCall where
  | reopen
  | snapshot (provider : String)
  | read (operation : ExternalOperation)
  | conditionalApply (operation : ExternalOperation) (decision : ReconciliationDecision)
  deriving DecidableEq

/-- What the calls return. -/
inductive ProviderReply where
  | opened
  | state (state : VersionedProviderState)
  | evidence (evidence : ProviderEvidence)
  deriving DecidableEq

/-- The store as a serialised machine. -/
def providerMachine : Machine ProviderDb ProviderCall (Except Raised ProviderReply) where
  perform
    | .reopen, db => (db, .ok .opened)
    | .snapshot provider, db =>
      ((snapshot provider db).1, .state <$> (snapshot provider db).2)
    | .read operation, db => ((read operation db).1, .evidence <$> (read operation db).2)
    | .conditionalApply operation decision, db =>
      ((conditionalApply operation decision db).1,
        .state <$> (conditionalApply operation decision db).2)

/-! ## What each call does -/

theorem revisionRow_eq (provider : String) (db : ProviderDb) :
    ∃ row, row.revision = db.revision provider ∧
      revisionRow provider db = .ok (row, db.touch provider) := by
  unfold revisionRow ProviderDb.revision ProviderDb.touch Table.insertOrIgnore
  rcases hrow : db.revisions.find? provider with _ | row
  · obtain ⟨u, hu, -⟩ := Table.exists_insert? (t := db.revisions) (r := ⟨provider, 0, le_rfl⟩) hrow
    exact ⟨⟨provider, 0, le_rfl⟩, rfl, by simp [hu]⟩
  · have hn : db.revisions.insert? ⟨provider, 0, le_rfl⟩ = none := Table.insert?_of_some hrow
    exact ⟨row, rfl, by simp [hn]⟩

theorem snapshotInTransaction_eq (provider : String) (db : ProviderDb) :
    snapshotInTransaction provider db = .ok (db.state provider, db.touch provider) := by
  obtain ⟨row, hrev, hrow⟩ := revisionRow_eq provider db
  have hstate : (⟨row.revision, db.orderedEffects provider, row.revision_nonneg⟩ :
      VersionedProviderState) = db.state provider :=
    VersionedProviderState.ext hrev rfl
  unfold snapshotInTransaction
  rw [hrow, ← hstate]
  rfl

theorem snapshot_cases (provider : String) (db : ProviderDb) :
    snapshot provider db =
        (db, .error ⟨.valueError, "provider must be a nonempty string"⟩) ∧
          isBlank provider = true ∨
      snapshot provider db = (db.touch provider, .ok (db.state provider)) ∧
        isBlank provider = false := by
  unfold snapshot
  split_ifs with h
  · exact Or.inl ⟨rfl, h⟩
  · exact Or.inr ⟨transaction_of_ok (snapshotInTransaction_eq provider db), by simpa using h⟩

/-- `read` commits the revision row whatever it then answers. -/
theorem read_eq (operation : ExternalOperation) (db : ProviderDb) :
    read operation db = (db.touch operation.provider,
      readback operation (db.state operation.provider) (db.effects.find? operation.identity)) := by
  unfold read transaction
  simp only [snapshotInTransaction_eq, ok_bind]
  rfl

/-- What a committed conditional write does to the database. -/
structure Commits (db db' : ProviderDb) (operation : ExternalOperation)
    (decision : ReconciliationDecision) (updated : VersionedProviderState) : Prop where
  authorizes : Authorizes decision operation (db.revision operation.provider)
  absent : db.effects.find? operation.identity = none
  updated : updated = (db.state operation.provider).commit operation
  effects : db'.effects.rows = db.effects.rows ++ [operation]
  revision : ∀ p, db'.revision p =
    if p = operation.provider then db.revision operation.provider + 1 else db.revision p

/-- A conditional write raises and changes nothing, or commits. -/
theorem conditionalApply_cases (operation : ExternalOperation) (decision : ReconciliationDecision)
    (db : ProviderDb) :
    (∃ e, applyConditionalRetry operation decision (db.state operation.provider) = .error e ∧
        conditionalApply operation decision db = (db, .error e)) ∨
      ∃ updated db', conditionalApply operation decision db = (db', .ok updated) ∧
        Commits db db' operation decision updated := by
  unfold conditionalApply
  rcases happ : applyConditionalRetry operation decision (db.state operation.provider) with
    e | updated
  · refine Or.inl ⟨e, rfl, transaction_of_error ?_⟩
    simp [snapshotInTransaction_eq, happ]
  · obtain ⟨hauth, hscan, hupd⟩ := applyConditionalRetry_eq_ok.1 happ
    have habsent : db.effects.find? operation.identity = none := by
      rw [Table.find?_eq_none_iff]
      intro x hx hid
      exact hscan x (ProviderDb.mem_orderedEffects.2
        ⟨hx, ExternalOperation.provider_eq_of_identity hid⟩) hid
    obtain ⟨effects, hins, hrows⟩ := Table.exists_insert? habsent
    refine Or.inr ⟨updated, ⟨(db.touch operation.provider).revisions.update operation.provider
      (fun row => ⟨row.provider, updated.revision, updated.revision_nonneg⟩) fun _ => rfl,
      effects⟩, transaction_of_ok ?_, hauth, habsent, hupd, hrows, ?_⟩
    · simp [snapshotInTransaction_eq, happ, hins]
    · intro p
      have hrow : ∃ row, (db.touch operation.provider).revisions.find? operation.provider =
          some row := by
        simp [ProviderDb.touch, Table.find?_insertOrIgnore]
      obtain ⟨row, hrow⟩ := hrow
      have htouch := db.revision_touch operation.provider p
      simp only [ProviderDb.revision, Table.find?_update] at htouch ⊢
      split_ifs with hp
      · simp [hrow, hupd, VersionedProviderState.commit, ProviderDb.state, ProviderDb.revision]
      · exact htouch

theorem Commits.effectsOf {db db' : ProviderDb} {operation : ExternalOperation}
    {decision : ReconciliationDecision} {updated : VersionedProviderState}
    (h : Commits db db' operation decision updated) (p : String) :
    db'.effectsOf p = if p = operation.provider then db.effectsOf p ++ [operation]
      else db.effectsOf p := by
  unfold ProviderDb.effectsOf Table.select
  rw [h.effects, List.filter_append]
  split_ifs with hp
  · simp [hp]
  · simp [Ne.symm hp]

/-- Both views of the database are unchanged. -/
structure SameContent (db db' : ProviderDb) : Prop where
  effects : db'.effects = db.effects
  revision : ∀ p, db'.revision p = db.revision p

theorem SameContent.refl (db : ProviderDb) : SameContent db db :=
  ⟨rfl, fun _ => rfl⟩

theorem SameContent.touch (db : ProviderDb) (provider : String) :
    SameContent db (db.touch provider) :=
  ⟨rfl, db.revision_touch provider⟩

/-- A call commits one operation, or leaves the content as it was. -/
theorem perform_cases (c : ProviderCall) (db : ProviderDb) :
    (∃ operation decision updated, c = .conditionalApply operation decision ∧
        (providerMachine.perform c db).2 = .ok (.state updated) ∧
        Commits db (providerMachine.perform c db).1 operation decision updated) ∨
      SameContent db (providerMachine.perform c db).1 ∧
        ∀ operation decision, c = .conditionalApply operation decision →
          ∃ e, (providerMachine.perform c db).2 = .error e := by
  rcases c with _ | provider | operation | ⟨operation, decision⟩
  · exact Or.inr ⟨.refl db, by simp⟩
  · refine Or.inr ⟨?_, by simp⟩
    rcases snapshot_cases provider db with ⟨h, -⟩ | ⟨h, -⟩ <;> simp only [providerMachine, h]
    · exact .refl db
    · exact .touch db provider
  · refine Or.inr ⟨?_, by simp⟩
    simp only [providerMachine, read_eq]
    exact .touch db operation.provider
  · rcases conditionalApply_cases operation decision db with ⟨e, -, h⟩ | ⟨u, db', h, hc⟩
    · refine Or.inr ?_
      simp only [providerMachine, h]
      exact ⟨.refl db, fun _ _ _ => ⟨e, rfl⟩⟩
    · refine Or.inl ⟨operation, decision, u, rfl, ?_⟩
      simp only [providerMachine, h]
      exact ⟨rfl, hc⟩

/-- A conditional write that replies with a state committed it. -/
theorem commits_of_reply {operation : ExternalOperation} {decision : ReconciliationDecision}
    {updated : VersionedProviderState} {db : ProviderDb}
    (h : (providerMachine.perform (.conditionalApply operation decision) db).2 =
      .ok (.state updated)) :
    Commits db (providerMachine.perform (.conditionalApply operation decision) db).1 operation
      decision updated := by
  rcases perform_cases (.conditionalApply operation decision) db with
    ⟨o, d, u, hc, hr, hcom⟩ | ⟨-, hn⟩
  · obtain ⟨rfl, rfl⟩ := ProviderCall.conditionalApply.inj hc
    have hu := ProviderReply.state.inj (Except.ok.inj (hr.symm.trans h))
    exact hu ▸ hcom
  · obtain ⟨e, he⟩ := hn operation decision rfl
    rw [he] at h
    cases h

/-! ## Runs -/

/-- Revisions count the stored effects. -/
def WellFormed (db : ProviderDb) : Prop :=
  ∀ p, db.revision p = (db.effectsOf p).length

theorem wellFormed_empty : WellFormed .empty := fun _ => rfl

theorem SameContent.effectsOf {db db' : ProviderDb} (h : SameContent db db') (p : String) :
    db'.effectsOf p = db.effectsOf p := by
  simp only [ProviderDb.effectsOf, h.effects]

theorem wellFormed_preserved : providerMachine.Preserves WellFormed := by
  intro c db hdb p
  rcases perform_cases c db with ⟨operation, decision, updated, -, -, h⟩ | ⟨h, -⟩
  · rw [h.revision, h.effectsOf]
    split_ifs with hp
    · subst hp
      have := hdb operation.provider
      rw [List.length_append, List.length_singleton]
      omega
    · exact hdb p
  · rw [h.revision, h.effectsOf]
    exact hdb p

/-- Effects are only appended and revisions only rise. -/
structure Grows (db db' : ProviderDb) : Prop where
  effects : db.effects.rows <+: db'.effects.rows
  revision : ∀ p, db.revision p ≤ db'.revision p

theorem Grows.refl (db : ProviderDb) : Grows db db :=
  ⟨List.prefix_refl _, fun _ => le_rfl⟩

theorem Grows.trans {a b c : ProviderDb} (h : Grows a b) (k : Grows b c) : Grows a c :=
  ⟨h.effects.trans k.effects, fun p => (h.revision p).trans (k.revision p)⟩

theorem Commits.grows {db db' : ProviderDb} {operation : ExternalOperation}
    {decision : ReconciliationDecision} {updated : VersionedProviderState}
    (h : Commits db db' operation decision updated) : Grows db db' := by
  refine ⟨h.effects ▸ List.prefix_append _ _, fun p => ?_⟩
  rw [h.revision]
  split_ifs with hp
  · rw [hp]
    omega
  · exact le_rfl

theorem grows_perform (c : ProviderCall) (db : ProviderDb) :
    Grows db (providerMachine.perform c db).1 := by
  rcases perform_cases c db with ⟨operation, decision, updated, -, -, h⟩ | ⟨h, -⟩
  · exact h.grows
  · exact ⟨h.effects ▸ List.prefix_refl _, fun p => (h.revision p).ge⟩

theorem grows_after (db : ProviderDb) (cs : List (ProviderCall × Machine.Fate)) :
    Grows db (providerMachine.crashing.after db cs) := by
  refine Machine.Preserves.rel_after (I := fun _ => True) (fun _ _ _ => trivial) Grows.refl
    Grows.trans (fun c s _ => ?_) trivial cs
  exact Machine.crashing_rel (.refl s) c (grows_perform c.1 s)

/-- No call violates a constraint of the database. -/
theorem perform_no_integrityError (c : ProviderCall) (db : ProviderDb) {e : Raised}
    (h : (providerMachine.perform c db).2 = .error e) : e.error ≠ .integrityError := by
  rcases c with _ | provider | operation | ⟨operation, decision⟩
  · cases h
  · rcases snapshot_cases provider db with ⟨hs, -⟩ | ⟨hs, -⟩ <;>
      simp only [providerMachine, hs] at h
    · cases h
      decide
    · cases h
  · simp only [providerMachine, read_eq] at h
    rcases hf : db.effects.find? operation.identity with _ | row
    · simp only [hf, readback] at h
      cases h
    · simp only [hf, readback, raiseIf] at h
      split_ifs at h
      · cases h
        decide
      · cases h
  · rcases conditionalApply_cases operation decision db with ⟨e', happ, hc⟩ | ⟨u, db', hc, -⟩ <;>
      simp only [providerMachine, hc] at h
    · cases h
      rcases applyConditionalRetry_error happ with he | he | he <;> rw [he] <;> decide
    · cases h

/-! ## One commit per revision -/

/-- The call commits `operation`, whether or not its caller learns it. -/
def CommitReply (c : ProviderCall × Machine.Fate) (reply : Option (Except Raised ProviderReply))
    (operation : ExternalOperation) : Prop :=
  ∃ decision updated, c.1 = .conditionalApply operation decision ∧
    reply = some (.ok (.state updated))

/-- What one step may do : a commit appends to its provider and raises that revision by
one; every other step leaves all providers alone. -/
structure StepLaw (db : ProviderDb) (c : ProviderCall × Machine.Fate) : Prop where
  commit : ∀ operation, CommitReply c (providerMachine.crashing.perform c db).2 operation →
    (providerMachine.crashing.perform c db).1.revision operation.provider =
        db.revision operation.provider + 1 ∧
      (providerMachine.crashing.perform c db).1.effectsOf operation.provider =
        db.effectsOf operation.provider ++ [operation] ∧
      ∀ p, p ≠ operation.provider →
        (providerMachine.crashing.perform c db).1.revision p = db.revision p ∧
          (providerMachine.crashing.perform c db).1.effectsOf p = db.effectsOf p
  keep : (∀ operation, ¬CommitReply c (providerMachine.crashing.perform c db).2 operation) →
    ∀ p, (providerMachine.crashing.perform c db).1.revision p = db.revision p ∧
      (providerMachine.crashing.perform c db).1.effectsOf p = db.effectsOf p

theorem stepLaw (db : ProviderDb) (c : ProviderCall × Machine.Fate) : StepLaw db c := by
  rcases providerMachine.crashing_cases c db with ⟨h, -⟩ | ⟨h, -⟩
  · refine ⟨?_, fun _ p => by simp [h]⟩
    rintro operation ⟨decision, updated, -, hr⟩
    rw [h] at hr
    cases hr
  · rcases perform_cases c.1 db with ⟨op, d, u, hc, hr, hcom⟩ | ⟨hs, hn⟩
    · refine ⟨?_, fun hno => absurd ⟨d, u, hc, by rw [h, hr]⟩ (hno op)⟩
      rintro operation ⟨decision, updated, hc', -⟩
      rw [hc] at hc'
      obtain ⟨rfl, rfl⟩ := ProviderCall.conditionalApply.inj hc'
      rw [h]
      refine ⟨by simp [hcom.revision], by simp [hcom.effectsOf], fun p hp => ?_⟩
      exact ⟨by simp [hcom.revision, hp], by simp [hcom.effectsOf, hp]⟩
    · refine ⟨?_, fun _ p => by rw [h]; exact ⟨hs.revision p, hs.effectsOf p⟩⟩
      rintro operation ⟨decision, updated, hc', hr⟩
      obtain ⟨e, he⟩ := hn operation decision hc'
      rw [h, he] at hr
      cases hr

/-- A committed conditional write leaves its provider one past its precondition. -/
theorem revision_of_commit {operation : ExternalOperation} {decision : ReconciliationDecision}
    {fate : Machine.Fate} {db : ProviderDb} {reply : ProviderReply} {r : Int}
    (h : (providerMachine.crashing.perform (.conditionalApply operation decision, fate) db).2 =
      some (.ok reply)) (hr : decision.retryPreconditionRevision = some r) :
    (providerMachine.crashing.perform (.conditionalApply operation decision, fate) db).1.revision
      operation.provider = r + 1 := by
  obtain ⟨hstate, hreply⟩ := providerMachine.crashing_eq_some h
  rw [hstate]
  rcases perform_cases (.conditionalApply operation decision) db with
    ⟨op, d, u, hc, -, hcom⟩ | ⟨-, hn⟩
  · obtain ⟨rfl, rfl⟩ := ProviderCall.conditionalApply.inj hc
    have hpre := Option.some.inj (hcom.authorizes.precondition.symm.trans hr)
    simp [hcom.revision, hpre]
  · obtain ⟨e, he⟩ := hn operation decision rfl
    rw [← hreply] at he
    cases he

/-- A conditional write whose precondition is behind the provider's revision raises. -/
theorem conditionalApply_behind {operation : ExternalOperation}
    {decision : ReconciliationDecision} {db : ProviderDb} {r : Int}
    (hr : decision.retryPreconditionRevision = some r) (hlt : r < db.revision operation.provider) :
    (∀ updated, (conditionalApply operation decision db).2 ≠ .ok updated) ∧
      (Authorizes decision operation r →
        (conditionalApply operation decision db).2 = .error staleReadback) := by
  rcases conditionalApply_cases operation decision db with ⟨e, happ, h⟩ | ⟨u, db', -, hcom⟩
  · rw [h]
    refine ⟨fun _ => by simp, fun hauth => ?_⟩
    have hstale := applyConditionalRetry_stale (s := db.state operation.provider) hauth
      (by simp only [ProviderDb.state]; omega)
    rw [hstale] at happ
    exact happ.symm
  · have := Option.some.inj (hcom.authorizes.precondition.symm.trans hr)
    omega

/-- In every reachable state each provider's revision counts its stored effects, no two
stored effects share an identity, and a step obeys `StepLaw` and violates no constraint.
After a committed conditional write at revision `r`, no conditional write on that
provider with the same precondition commits, and one that passes the checks of its
decision is stale. -/
theorem oneCommitPerRevision (cs : List (ProviderCall × Machine.Fate)) :
    (∀ p, (providerMachine.crashing.after .empty cs).revision p =
        ((providerMachine.crashing.after .empty cs).effectsOf p).length) ∧
      ((providerMachine.crashing.after .empty cs).effects.rows.map
        ExternalOperation.identity).Nodup ∧
      (∀ c, StepLaw (providerMachine.crashing.after .empty cs) c) ∧
      (∀ c e, (providerMachine.perform c (providerMachine.crashing.after .empty cs)).2 =
        .error e → e.error ≠ .integrityError) ∧
      ∀ pre mid first firstDecision fate reply second secondDecision r,
        cs = pre ++ (.conditionalApply first firstDecision, fate) :: mid →
        (providerMachine.crashing.perform (.conditionalApply first firstDecision, fate)
          (providerMachine.crashing.after .empty pre)).2 = some (.ok reply) →
        first.provider = second.provider →
        firstDecision.retryPreconditionRevision = some r →
        secondDecision.retryPreconditionRevision = some r →
        (∀ updated, (conditionalApply second secondDecision
            (providerMachine.crashing.after .empty cs)).2 ≠ .ok updated) ∧
          (Authorizes secondDecision second r →
            (conditionalApply second secondDecision
              (providerMachine.crashing.after .empty cs)).2 = .error staleReadback) := by
  refine ⟨wellFormed_preserved.crashing.after wellFormed_empty cs, Table.unique _,
    fun c => stepLaw _ c, fun c e h => perform_no_integrityError c _ h, ?_⟩
  rintro pre mid first firstDecision fate reply second secondDecision r rfl hcommit hprov hr₁ hr₂
  refine conditionalApply_behind hr₂ ?_
  have hafter := revision_of_commit hcommit hr₁
  rw [Machine.after_append, Machine.after_cons, ← hprov]
  have hgrows := (grows_after (providerMachine.crashing.perform
    (.conditionalApply first firstDecision, fate)
    (providerMachine.crashing.after .empty pre)).1 mid).revision first.provider
  omega

end store

/-! ## Two operations -/

/-- An effect with the id `op-a`. -/
def operationA : ExternalOperation :=
  ⟨"provider-a", "op-a", "create_record", "payload-v1", .refl false, .refl false, .refl false⟩

/-- The same effect with the id `op-b`. -/
def operationB : ExternalOperation :=
  ⟨"provider-a", "op-b", "create_record", "payload-v1", .refl false, .refl false, .refl false⟩

/-- A digest that is right on `operationA` and `operationB`. -/
@[reducible] def pairHashlib : Hashlib where
  sha256Hexdigest text :=
    if text = "[\"provider-a\",\"op-a\",\"create_record\",\"payload-v1\"]" then
      "b7f868b7861ec0b1fe6629c2ca459d5013932e69ca46b3e90293ea8e5023dc1f"
    else
      "ae636c053b0ae8c882f74b1047226e75600569c80f46fa2bc4883eff7a7832ed"

/-- `op-a` commits at revision 0, and the retry of `op-b` there is stale. -/
theorem oneCommitPerRevision_sample :
    letI := pairHashlib
    (conditionalApply operationB (retryExactOperation operationB 0)
      (providerMachine.crashing.after .empty
        [(.conditionalApply operationA (retryExactOperation operationA 0), .returned)])).2 =
      .error staleReadback := by
  let := pairHashlib
  obtain ⟨-, -, -, -, hrace⟩ := oneCommitPerRevision
    [(.conditionalApply operationA (retryExactOperation operationA 0), .returned)]
  exact (hrace [] [] operationA (retryExactOperation operationA 0) .returned
    (.state ⟨1, [operationA], by decide⟩) operationB (retryExactOperation operationB 0) 0 rfl
    (by decide +kernel) rfl rfl rfl).2 (retryExactOperation_authorizes operationB 0)

end VersionedProviderStore

end ReliabilityLab
