import ReliabilityLab.Durable

/-!
# Effects of a run of the sandbox

What holds along every run of the durable sandbox, whatever operations its callers
use, however they reuse ids, and wherever their executions raise or are killed.

`WellFormed` is an invariant : the notes are the effects of the completed operations,
and these are approved. `Later` orders the databases of a run : an operation keeps its
effect, its decision and its completion mark, and a note stays. `effectAtMostOnce`
assembles the two : the step that adds the note of an id (`NewEffect`) is the only one
that ever does, and no constraint is ever violated.
-/

set_option linter.unusedSectionVars false

open Serial Keyed

namespace ReliabilityLab

namespace DurableSandbox

/-- The tables are unchanged. -/
structure SameTables (db db' : SandboxDb) : Prop where
  operations : db'.operations = db.operations
  notes : db'.notes = db.notes

theorem SameTables.refl (db : SandboxDb) : SameTables db db :=
  ⟨rfl, rfl⟩

theorem openStore_sameTables (db : SandboxDb) : SameTables db (openStore db).1 := by
  refine transaction_rel (.refl db) fun a db' h => ?_
  obtain ⟨-, h⟩ := raiseIf_bind_eq_ok.1 h
  cases h
  exact ⟨rfl, rfl⟩

/-- A call leaves the tables alone, or makes one change. -/
theorem perform_cases (c : SandboxCall) (db : SandboxDb) :
    SameTables db (sandboxMachine.perform c db).1 ∨
      (∃ operation, c = .request operation ∧
        Requests db (sandboxMachine.perform c db).1 operation) ∨
      (∃ operation text row d, c = .decide operation text ∧
        Decides db (sandboxMachine.perform c db).1 operation row d) ∨
      ∃ operation checkpoint row, c = .execute operation checkpoint ∧
        Executes db (sandboxMachine.perform c db).1 operation row := by
  rcases c with _ | operation | ⟨operation, text⟩ | ⟨operation, checkpoint⟩ | _
  · exact Or.inl (openStore_sameTables db)
  · rcases request_cases operation db with ⟨db', hreq, h⟩ | ⟨row, -, h⟩ | ⟨row, e, -, -, h⟩ <;>
      simp only [sandboxMachine, h]
    · exact Or.inr (Or.inl ⟨operation, rfl, hreq⟩)
    · exact Or.inl (.refl db)
    · exact Or.inl (.refl db)
  · rcases decide_cases operation text db with ⟨row, d, -, hdec, h⟩ | ⟨e, h, -⟩ <;>
      simp only [sandboxMachine, h]
    · exact Or.inr (Or.inr (Or.inl ⟨operation, text, row, d, rfl, hdec⟩))
    · exact Or.inl (.refl db)
  · rcases execute_cases operation checkpoint db with
      ⟨e, h, -⟩ | ⟨row, -, -, h⟩ | ⟨row, db', hexec, h⟩ <;> simp only [sandboxMachine, h]
    · exact Or.inl (.refl db)
    · exact Or.inl (.refl db)
    · exact Or.inr (Or.inr (Or.inr ⟨operation, checkpoint, row, rfl, hexec⟩))
  · exact Or.inl (.refl db)

/-! ## The invariant -/

/-- The notes are the effects of the completed operations, and these are approved. -/
structure WellFormed (db : SandboxDb) : Prop where
  completed : ∀ i row, db.operations.find? i = some row → row.completed = true →
    row.decision = some .approved ∧ db.notes.find? i = some ⟨i, row.payload⟩
  noted : ∀ i note, db.notes.find? i = some note →
    ∃ row, db.operations.find? i = some row ∧ row.completed = true

theorem wellFormed_empty : WellFormed .empty :=
  ⟨fun i row h => by simp [SandboxDb.empty] at h, fun i note h => by simp [SandboxDb.empty] at h⟩

theorem WellFormed.requests {db db' : SandboxDb} {operation : LocalOperation} (h : WellFormed db)
    (hreq : Requests db db' operation) : WellFormed db' := by
  refine ⟨fun i row hrow hc => ?_, fun i note hnote => ?_⟩
  · rw [hreq.operations] at hrow
    split_ifs at hrow with hi
    · obtain rfl := Option.some.inj hrow
      simp [requestRow] at hc
    · rw [hreq.notes]
      exact h.completed i row hrow hc
  · rw [hreq.notes] at hnote
    obtain ⟨row, hrow, hc⟩ := h.noted i note hnote
    refine ⟨row, ?_, hc⟩
    rw [hreq.operations, if_neg, hrow]
    rintro rfl
    rw [hreq.absent] at hrow
    cases hrow

theorem WellFormed.decides {db db' : SandboxDb} {operation : LocalOperation} {row : OperationRow}
    {d : Decision} (h : WellFormed db) (hdec : Decides db db' operation row d) :
    WellFormed db' := by
  obtain ⟨hrow, -⟩ := existing_eq_ok.1 hdec.existing
  refine ⟨fun i r hr hc => ?_, fun i note hnote => ?_⟩
  · rw [hdec.operations] at hr
    rw [hdec.notes]
    split_ifs at hr with hi
    · subst hi
      obtain rfl := Option.some.inj hr
      obtain ⟨happ, hnote⟩ := h.completed _ row hrow hc
      obtain rfl := hdec.agrees _ happ
      exact ⟨rfl, hnote⟩
    · exact h.completed i r hr hc
  · rw [hdec.notes] at hnote
    obtain ⟨r, hr, hc⟩ := h.noted i note hnote
    rw [hdec.operations]
    split_ifs with hi
    · subst hi
      obtain rfl := Option.some.inj (hrow.symm.trans hr)
      exact ⟨_, rfl, hc⟩
    · exact ⟨r, hr, hc⟩

theorem WellFormed.executes {db db' : SandboxDb} {operation : LocalOperation}
    {row : OperationRow} (h : WellFormed db) (hexec : Executes db db' operation row) :
    WellFormed db' := by
  obtain ⟨hex, happ⟩ := approvedRow_eq_ok.1 hexec.approved
  obtain ⟨-, hstores⟩ := existing_eq_ok.1 hex
  refine ⟨fun i r hr hc => ?_, fun i note hnote => ?_⟩
  · rw [hexec.operations] at hr
    rw [hexec.notes]
    split_ifs at hr ⊢ with hi
    · obtain rfl := Option.some.inj hr
      exact ⟨happ, by rw [hi, hstores.payload]⟩
    · exact h.completed i r hr hc
  · rw [hexec.notes] at hnote
    rw [hexec.operations]
    split_ifs at hnote ⊢ with hi
    · exact ⟨_, rfl, rfl⟩
    · exact h.noted i note hnote

theorem wellFormed_preserved : sandboxMachine.Preserves WellFormed := by
  intro c db h
  rcases perform_cases c db with hs | ⟨op, -, hreq⟩ | ⟨op, text, row, d, -, hdec⟩ |
    ⟨op, ck, row, -, hexec⟩
  · refine ⟨fun i row => ?_, fun i note => ?_⟩
    · rw [hs.operations, hs.notes]
      exact h.completed i row
    · rw [hs.operations, hs.notes]
      exact h.noted i note
  · exact h.requests hreq
  · exact h.decides hdec
  · exact h.executes hexec

theorem wellFormed_after (cs : List (SandboxCall × Machine.Fate)) :
    WellFormed (sandboxMachine.crashing.after .empty cs) :=
  wellFormed_preserved.crashing.after wellFormed_empty cs

/-! ## The order of a run -/

/-- What a row keeps. -/
structure RowLater (row row' : OperationRow) : Prop where
  tool : row'.tool = row.tool
  payload : row'.payload = row.payload
  decision : ∀ d, row.decision = some d → row'.decision = some d

/-- What a later database keeps of an earlier one. -/
structure Later (db db' : SandboxDb) : Prop where
  operations : ∀ i row, db.operations.find? i = some row →
    ∃ row', db'.operations.find? i = some row' ∧ RowLater row row'
  notes : ∀ i note, db.notes.find? i = some note → db'.notes.find? i = some note

theorem RowLater.refl (row : OperationRow) : RowLater row row :=
  ⟨rfl, rfl, fun _ h => h⟩

theorem Later.refl (db : SandboxDb) : Later db db :=
  ⟨fun _ row h => ⟨row, h, .refl row⟩, fun _ _ h => h⟩

theorem Later.trans {a b c : SandboxDb} (hab : Later a b) (hbc : Later b c) : Later a c := by
  refine ⟨fun i row h => ?_, fun i note h => hbc.notes i note (hab.notes i note h)⟩
  obtain ⟨row', h', hr'⟩ := hab.operations i row h
  obtain ⟨row'', h'', hr''⟩ := hbc.operations i row' h'
  exact ⟨row'', h'', hr''.tool.trans hr'.tool, hr''.payload.trans hr'.payload,
    fun d hd => hr''.decision d (hr'.decision d hd)⟩

/-- A change of one row that keeps what a row keeps, and no note changes. -/
theorem later_of_update {db db' : SandboxDb} {k : String} {new : OperationRow}
    (hnew : ∀ row, db.operations.find? k = some row → RowLater row new)
    (hops : ∀ i, db'.operations.find? i =
      if i = k then some new else db.operations.find? i)
    (hnotes : ∀ i note, db.notes.find? i = some note → db'.notes.find? i = some note) :
    Later db db' := by
  refine ⟨fun i row h => ?_, hnotes⟩
  rw [hops]
  split_ifs with hi
  · exact ⟨new, rfl, hnew row (hi ▸ h)⟩
  · exact ⟨row, h, .refl row⟩

theorem later_perform (c : SandboxCall) (db : SandboxDb) :
    Later db (sandboxMachine.perform c db).1 := by
  rcases perform_cases c db with hs | ⟨op, -, hreq⟩ | ⟨op, text, row, d, -, hdec⟩ |
    ⟨op, ck, row, -, hexec⟩
  · refine ⟨fun i row h => ⟨row, hs.operations ▸ h, .refl row⟩, fun i note h => hs.notes ▸ h⟩
  · refine later_of_update (fun row h => ?_) hreq.operations fun i note h => hreq.notes ▸ h
    rw [hreq.absent] at h
    cases h
  · have hrow := (existing_eq_ok.1 hdec.existing).1
    refine later_of_update (fun r h => ?_) hdec.operations fun i note h => hdec.notes ▸ h
    obtain rfl := Option.some.inj (hrow.symm.trans h)
    exact ⟨rfl, rfl, fun d' hd' => congrArg some (hdec.agrees d' hd').symm⟩
  · have hrow := (existing_eq_ok.1 (approvedRow_eq_ok.1 hexec.approved).1).1
    refine later_of_update (fun r h => ?_) hexec.operations fun i note h => ?_
    · obtain rfl := Option.some.inj (hrow.symm.trans h)
      exact ⟨rfl, rfl, fun _ hd => hd⟩
    · rw [hexec.notes, if_neg, h]
      rintro rfl
      rw [hexec.fresh] at h
      cases h

theorem later_after (db : SandboxDb) (cs : List (SandboxCall × Machine.Fate)) :
    Later db (sandboxMachine.crashing.after db cs) :=
  Machine.Preserves.rel_after (I := fun _ => True) (fun _ _ _ => trivial) Later.refl Later.trans
    (fun c s _ => Machine.crashing_rel (.refl s) c (later_perform c.1 s)) trivial cs

/-! ## Effects -/

/-- The step adds the note of `i`. -/
def NewEffect (db : SandboxDb) (c : SandboxCall × Machine.Fate) (i : String) : Prop :=
  db.notes.find? i = none ∧ (sandboxMachine.crashing.perform c db).1.notes.find? i ≠ none

/-- Only an execution of `i` adds its note. -/
theorem NewEffect.execute {db : SandboxDb} {c : SandboxCall × Machine.Fate} {i : String}
    (h : NewEffect db c i) :
    ∃ operation checkpoint, c.1 = .execute operation checkpoint ∧ operation.operationId = i := by
  obtain ⟨hnone, hsome⟩ := h
  rcases sandboxMachine.crashing_cases c db with ⟨hc, -⟩ | ⟨hc, -⟩ <;> rw [hc] at hsome
  · exact absurd hnone hsome
  rcases perform_cases c.1 db with hs | ⟨op, -, hreq⟩ | ⟨op, text, row, d, -, hdec⟩ |
    ⟨op, ck, row, hcall, hexec⟩
  · exact absurd (hs.notes ▸ hnone) hsome
  · exact absurd (hreq.notes ▸ hnone) hsome
  · exact absurd (hdec.notes ▸ hnone) hsome
  · refine ⟨op, ck, hcall, ?_⟩
    by_contra hi
    rw [hexec.notes, if_neg (Ne.symm hi)] at hsome
    exact hsome hnone

/-- An execution that returns says whether its effect is new. -/
theorem reply_executed {db : SandboxDb} (h : WellFormed db) {operation : LocalOperation}
    {checkpoint : Stage → Except Raised Unit} {fate : Machine.Fate} {fresh : Bool}
    (hreply : (sandboxMachine.crashing.perform (.execute operation checkpoint, fate) db).2 =
      some (.ok (.executed fresh))) :
    fresh = true ↔ NewEffect db (.execute operation checkpoint, fate) operation.operationId := by
  obtain ⟨hstate, hreply⟩ := sandboxMachine.crashing_eq_some hreply
  unfold NewEffect
  rw [hstate]
  rcases execute_cases operation checkpoint db with
    ⟨e, hexec, -⟩ | ⟨row, happ, hc, hexec⟩ | ⟨row, db', hdone, hexec⟩ <;>
    simp only [sandboxMachine, hexec] at hreply ⊢
  · cases hreply
  · obtain rfl := SandboxReply.executed.inj (Except.ok.inj hreply)
    have hrow := (existing_eq_ok.1 (approvedRow_eq_ok.1 happ).1).1
    simp [(h.completed _ row hrow hc).2]
  · rcases hlast : checkpoint .afterCommit with e | ⟨⟩ <;> rw [hlast] at hreply
    · cases hreply
    · obtain rfl := SandboxReply.executed.inj (Except.ok.inj hreply)
      simp [hdone.fresh, hdone.notes]

/-- After a new effect of `i` the note of `i` stays, so no step is a new effect of it. -/
theorem NewEffect.last {db : SandboxDb} {c : SandboxCall × Machine.Fate} {i : String}
    (h : NewEffect db c i) (mid : List (SandboxCall × Machine.Fate))
    (c' : SandboxCall × Machine.Fate) :
    ¬NewEffect (sandboxMachine.crashing.after db (c :: mid)) c' i := by
  rintro ⟨hnone, -⟩
  obtain ⟨note, hnote⟩ := Option.ne_none_iff_exists'.1 h.2
  have hstays := (later_after (sandboxMachine.crashing.perform c db).1 mid).notes i note hnote
  rw [Machine.after_cons, hstays] at hnone
  cases hnone

/-! ## Constraints -/

theorem existing_error {operation : LocalOperation} {db : SandboxDb} {e : Raised}
    (h : existing operation db = .error e) : e.error ≠ .integrityError := by
  simp only [existing, orRaise_bind_eq_error, raiseIf_bind_eq_error, reduceCtorEq, and_false,
    or_false] at h
  obtain ⟨-, rfl⟩ | ⟨row, -, -, rfl⟩ := h <;> simp

theorem approvedRow_error {operation : LocalOperation} {db : SandboxDb} {e : Raised}
    (h : approvedRow operation db = .error e) : e.error ≠ .integrityError := by
  rcases bind_eq_error.1 h with h | ⟨row, -, h⟩
  · exact existing_error h
  simp only [orRaise_bind_eq_error, raiseIf_bind_eq_error, reduceCtorEq, and_false,
    or_false] at h
  obtain ⟨-, rfl⟩ | ⟨d, -, -, rfl⟩ := h <;> simp

/-- A pending operation has no note : a note would mean that its row is completed. -/
theorem WellFormed.fresh_of_pending {db : SandboxDb} (h : WellFormed db)
    {operation : LocalOperation} {row : OperationRow} (happ : approvedRow operation db = .ok row)
    (hpending : row.completed = false) : db.notes.find? operation.operationId = none := by
  have hrow := (existing_eq_ok.1 (approvedRow_eq_ok.1 happ).1).1
  by_contra hsome
  obtain ⟨note, hnote⟩ := Option.ne_none_iff_exists'.1 hsome
  obtain ⟨row', hrow', hc⟩ := h.noted _ note hnote
  obtain rfl := Option.some.inj (hrow.symm.trans hrow')
  rw [hpending] at hc
  cases hc

/-- The insert of an execution violates no constraint. -/
theorem WellFormed.insertNote {db : SandboxDb} (h : WellFormed db) {operation : LocalOperation}
    {row : OperationRow} (happ : approvedRow operation db = .ok row)
    (hpending : row.completed = false) :
    ∃ db', insertNote ⟨operation.operationId, operation.payload⟩ db = .ok db' := by
  have hrow := (existing_eq_ok.1 (approvedRow_eq_ok.1 happ).1).1
  obtain ⟨notes, hins, -⟩ := insertNote_of_fresh ⟨operation.operationId, operation.payload⟩
    (h.fresh_of_pending happ hpending) hrow
  exact ⟨_, hins⟩

/-- A violated constraint that a caller sees is one its callback raised. -/
theorem perform_integrityError {c : SandboxCall} {db : SandboxDb} (hdb : WellFormed db)
    {e : Raised} (h : (sandboxMachine.perform c db).2 = .error e)
    (he : e.error = .integrityError) :
    ∃ operation checkpoint stage, c = .execute operation checkpoint ∧
      checkpoint stage = .error e := by
  rcases c with _ | operation | ⟨operation, text⟩ | ⟨operation, checkpoint⟩ | _
  · obtain ⟨-, rfl⟩ | ⟨-, h⟩ :=
      raiseIf_bind_eq_error.1 (transaction_eq_error.1 (map_eq_error.1 h))
    · simp at he
    · cases h
  · obtain h | ⟨-, -, h⟩ := bind_eq_error.1 (transaction_eq_error.1 (map_eq_error.1 h))
    · exact absurd he (existing_error h)
    · cases h
  · have h : (decide operation text db).2 = .error e := map_eq_error.1 h
    unfold decide at h
    rcases hd : Decision.ofText? text with _ | d <;> rw [hd] at h
    · cases h
      simp at he
    obtain h | ⟨row, -, h⟩ := bind_eq_error.1 (transaction_eq_error.1 h)
    · exact absurd he (existing_error h)
    obtain ⟨-, rfl⟩ | ⟨-, h⟩ := raiseIf_bind_eq_error.1 h
    · simp at he
    · cases h
  · have h := map_eq_error.1 h
    rcases execute_cases operation checkpoint db with
      ⟨e', hexec, hcause⟩ | ⟨row, -, -, hexec⟩ | ⟨row, db', -, hexec⟩ <;> rw [hexec] at h
    · obtain rfl := Except.error.inj h
      rcases hcause with happ | ⟨row, happ, hpending, ⟨stage, hstage⟩ | hnote⟩
      · exact absurd he (approvedRow_error happ)
      · exact ⟨operation, checkpoint, stage, rfl, hstage⟩
      · exact absurd (hdb.fresh_of_pending happ hpending) hnote
    · cases h
    · rcases hlast : checkpoint .afterCommit with e' | ⟨⟩ <;> rw [hlast] at h
      · obtain rfl : e' = e := Except.error.inj h
        exact ⟨operation, checkpoint, .afterCommit, rfl, hlast⟩
      · cases h
  · cases h

/-- In every reachable state of the sandbox : the notes are the effects of the completed
operations, which are approved; an operation never changes its effect, and its decision
never changes once set; after the effect of `i` is applied no step applies it again, and
an execution of `i` that returns gives `False`, as one gives `True` only for a new effect;
and the insert of a note violates no constraint, nor does any other statement : a call
raises such an exception only if its callback does. -/
theorem effectAtMostOnce (cs : List (SandboxCall × Machine.Fate)) :
    let db := sandboxMachine.crashing.after .empty cs
    (∀ i, (∃ note, db.notes.find? i = some note) ↔
        ∃ row, db.operations.find? i = some row ∧ row.completed = true) ∧
      (∀ i row, db.operations.find? i = some row → row.completed = true →
        row.decision = some .approved ∧ db.notes.find? i = some ⟨i, row.payload⟩) ∧
      (∀ ds i row, db.operations.find? i = some row →
        ∃ row', (sandboxMachine.crashing.after .empty (cs ++ ds)).operations.find? i = some row' ∧
          row'.tool = row.tool ∧ row'.payload = row.payload ∧
          ∀ d, row.decision = some d → row'.decision = some d) ∧
      (∀ c i, NewEffect db c i →
        ∃ operation checkpoint, c.1 = .execute operation checkpoint ∧
          operation.operationId = i) ∧
      (∀ operation checkpoint fate fresh,
        (sandboxMachine.crashing.perform (.execute operation checkpoint, fate) db).2 =
            some (.ok (.executed fresh)) →
          (fresh = true ↔
            NewEffect db (.execute operation checkpoint, fate) operation.operationId)) ∧
      (∀ pre c mid i, cs = pre ++ c :: mid →
        NewEffect (sandboxMachine.crashing.after .empty pre) c i →
          (∀ c', ¬NewEffect db c' i) ∧ ∀ operation checkpoint fate fresh,
            operation.operationId = i →
            (sandboxMachine.crashing.perform (.execute operation checkpoint, fate) db).2 =
              some (.ok (.executed fresh)) → fresh = false) ∧
      (∀ operation row, approvedRow operation db = .ok row → row.completed = false →
        ∃ db', insertNote ⟨operation.operationId, operation.payload⟩ db = .ok db') ∧
      ∀ c e, (sandboxMachine.perform c db).2 = .error e → e.error = .integrityError →
        ∃ operation checkpoint stage, c = .execute operation checkpoint ∧
          checkpoint stage = .error e := by
  intro db
  have hdb : WellFormed db := wellFormed_after cs
  refine ⟨fun i => ⟨?_, ?_⟩, hdb.completed, fun ds i row hrow => ?_, fun c i h => h.execute,
    fun _ _ _ _ h => reply_executed hdb h, ?_, fun _ _ happ hp => hdb.insertNote happ hp,
    fun c e h he => perform_integrityError hdb h he⟩
  · rintro ⟨note, hnote⟩
    exact hdb.noted i note hnote
  · rintro ⟨row, hrow, hc⟩
    exact ⟨_, (hdb.completed i row hrow hc).2⟩
  · rw [Machine.after_append]
    obtain ⟨row', hrow', hr⟩ := (later_after db ds).operations i row hrow
    exact ⟨row', hrow', hr.tool, hr.payload, hr.decision⟩
  · rintro pre c mid i rfl hnew
    have hlast := hnew.last mid
    rw [← Machine.after_append] at hlast
    refine ⟨hlast, ?_⟩
    rintro operation checkpoint fate fresh rfl hreply
    rcases fresh with _ | _
    · rfl
    · exact absurd ((reply_executed hdb hreply).1 rfl) (hlast _)

end DurableSandbox

end ReliabilityLab
