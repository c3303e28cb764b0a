import ReliabilityLab.Fencing

/-!
# Safety of the fencing store

What holds along every run on one database, whatever tokens and handles its callers
present, and wherever they crash.

`issued` reads the committed acquisitions of a resource off the history, in commit
order, those whose caller died before it was given the token included. `Ledger` relates
them to the rows : the `k`-th has epoch `k + 1`, and a row has the epoch and the
operation of the last. Every step keeps it. `fencingSafety` follows : a write that
commits presents the last issued token, so none commits with an earlier epoch.
-/

set_option linter.unusedSectionVars false

open Serial Keyed

namespace ReliabilityLab

namespace PersistentFencingStore

/-! ## Issued tokens -/

/-- A step of a run, with its reply. -/
abbrev FencingEvent := (FencingCall × Machine.Fate) × Option (Except Raised FencingReply)

/-- The token of a committed acquisition. -/
def tokenOf : FencingEvent → Option FencingToken
  | (_, some (.ok (.token token))) => some token
  | _ => none

/-- The tokens of `resource`, in commit order. -/
def issued (h : List FencingEvent) (resource : String) : List FencingToken :=
  (h.filterMap tokenOf).filter fun token => token.resource = resource

theorem resource_of_mem_issued {h : List FencingEvent} {resource : String} {token : FencingToken}
    (ht : token ∈ issued h resource) : token.resource = resource := by
  simpa using (List.mem_filter.1 ht).2

theorem issued_concat_of_none {h : List FencingEvent} {e : FencingEvent} (he : tokenOf e = none)
    (resource : String) : issued (h ++ [e]) resource = issued h resource := by
  simp [issued, List.filterMap_append, he]

theorem issued_concat_of_some {h : List FencingEvent} {e : FencingEvent} {token : FencingToken}
    (he : tokenOf e = some token) (resource : String) :
    issued (h ++ [e]) resource =
      if resource = token.resource then issued h resource ++ [token] else issued h resource := by
  unfold issued
  rw [List.filterMap_append, List.filter_append]
  split_ifs with hr
  · simp [he, hr]
  · simp [he, Ne.symm hr]

theorem mem_issued_append {h h' : List FencingEvent} {resource : String} {token : FencingToken}
    (ht : token ∈ issued h resource) : token ∈ issued (h ++ h') resource := by
  unfold issued
  rw [List.filterMap_append, List.filter_append]
  exact List.mem_append_left _ ht

/-! ## The steps -/

/-- The resource a call may change. -/
def FencingCall.resource? : FencingCall → Option String
  | .acquire _ resource _ => some resource
  | .write token _ => some token.resource
  | .openStore _ | .state _ => none

/-- A step of an initialised store changes nothing and issues no token, or is an
acquisition that commits, or a write that commits. -/
theorem step_cases (c : FencingCall × Machine.Fate) {db : FencingDb} {g : Generation}
    (hg : db.generation = some g) :
    ((fencingMachine.crashing.perform c db).1 = db ∧
        tokenOf (c, (fencingMachine.crashing.perform c db).2) = none ∧
        (fencingMachine.crashing.perform c db).2 ≠ some (.ok .written)) ∨
      (∃ handle operationId token, c.1 = .acquire handle token.resource operationId ∧
        Acquires db (fencingMachine.crashing.perform c db).1 handle token ∧
        (fencingMachine.crashing.perform c db).2 = some (.ok (.token token))) ∨
      ∃ token value row, c.1 = .write token value ∧
        Writes db (fencingMachine.crashing.perform c db).1 token value row ∧
        (fencingMachine.crashing.perform c db).2 = some (.ok .written) := by
  rcases fencingMachine.crashing_cases c db with ⟨hc, -⟩ | ⟨hc, -⟩ <;> rw [hc]
  · exact Or.inl ⟨rfl, rfl, by simp⟩
  obtain ⟨fresh | ⟨handle, resource, operationId⟩ | ⟨token, value⟩ | resource, fate⟩ := c
  · exact Or.inl ⟨congrArg Prod.fst (openStore_of_some fresh hg), rfl, by simp [fencingMachine]⟩
  · rcases acquire_cases handle resource operationId db with ⟨e, h⟩ | ⟨db', token, rfl, hacq, h⟩ <;>
      simp only [fencingMachine, h]
    · exact Or.inl ⟨trivial, rfl, by simp [Functor.map, Except.map]⟩
    · exact Or.inr (Or.inl ⟨handle, operationId, token, rfl, hacq, rfl⟩)
  · rcases write_cases token value db with ⟨e, h⟩ | ⟨db', row, hwrite, h⟩ <;>
      simp only [fencingMachine, h]
    · exact Or.inl ⟨trivial, rfl, by simp [Functor.map, Except.map]⟩
    · exact Or.inr (Or.inr ⟨token, value, row, rfl, hwrite, rfl⟩)
  · refine Or.inl ⟨rfl, ?_, ?_⟩ <;>
      rcases hs : state resource db with e | s <;>
      simp [fencingMachine, hs, tokenOf, Functor.map, Except.map]

/-! ## The ledger -/

/-- The tokens issued along a run with generation `g`, and the rows. -/
structure Ledger (g : Generation) (h : List FencingEvent) (db : FencingDb) : Prop where
  generation : db.generation = some g
  epoch : ∀ r (k : Nat) token, (issued h r)[k]? = some token → token.epoch = k + 1
  storeGeneration : ∀ r, ∀ token ∈ issued h r, token.storeGeneration = some g.text
  last : ∀ r, (db.rows.find? r).map (fun row => (row.epoch, row.operationId)) =
    (issued h r).getLast?.map fun token => (token.epoch, some token.operationId)

theorem Ledger.created (g : Generation) : Ledger g [] (.created g) :=
  ⟨rfl, fun r k token h => by simp [issued] at h, fun r token h => by simp [issued] at h,
    fun r => rfl⟩

theorem Ledger.getLast_epoch {g : Generation} {h : List FencingEvent} {db : FencingDb}
    (hl : Ledger g h db) {r : String} {token : FencingToken}
    (ht : (issued h r).getLast? = some token) : token.epoch = (issued h r).length := by
  rw [List.getLast?_eq_getElem?] at ht
  have hepoch := hl.epoch r _ token ht
  have hlt := (List.getElem?_eq_some_iff.1 ht).1
  omega

/-- The stored epoch of a resource is the number of its tokens. -/
theorem Ledger.epochOf {g : Generation} {h : List FencingEvent} {db : FencingDb}
    (hl : Ledger g h db) (r : String) :
    PersistentFencingStore.epochOf r db = (issued h r).length := by
  have hlast := hl.last r
  unfold PersistentFencingStore.epochOf
  rcases hrow : db.rows.find? r with _ | row <;>
    rcases hissued : (issued h r).getLast? with _ | token <;>
    rw [hrow, hissued] at hlast
  · rw [List.getLast?_eq_none_iff.1 hissued]
    rfl
  · cases hlast
  · cases hlast
  · rw [← hl.getLast_epoch hissued]
    exact congrArg Prod.fst (Option.some.inj hlast)

theorem Ledger.epoch_le {g : Generation} {h : List FencingEvent} {db : FencingDb}
    (hl : Ledger g h db) {r : String} {token : FencingToken} (ht : token ∈ issued h r) :
    token.epoch ≤ (issued h r).length := by
  obtain ⟨k, hk, hget⟩ := List.getElem_of_mem ht
  have := hl.epoch r k token (List.getElem?_eq_some_iff.2 ⟨hk, hget⟩)
  omega

theorem Ledger.acquires {g : Generation} {h : List FencingEvent} {db db' : FencingDb}
    {e : FencingEvent} {handle : Generation} {token : FencingToken} (hl : Ledger g h db)
    (hacq : Acquires db db' handle token) (he : tokenOf e = some token) :
    Ledger g (h ++ [e]) db' := by
  have hhandle : handle = g := Option.some.inj (hacq.current.symm.trans hl.generation)
  refine ⟨hacq.generation.trans hl.generation, fun r k t ht => ?_, fun r t ht => ?_, fun r => ?_⟩
  · rw [issued_concat_of_some he] at ht
    split_ifs at ht with hr
    · rcases getElem?_concat_eq_some.1 ht with ht | ⟨rfl, rfl⟩
      · exact hl.epoch r k t ht
      · rw [hacq.epoch, ← hr, hl.epochOf]
    · exact hl.epoch r k t ht
  · rw [issued_concat_of_some he] at ht
    split_ifs at ht with hr
    · rcases List.mem_append.1 ht with ht | ht
      · exact hl.storeGeneration r t ht
      · rw [List.mem_singleton.1 ht, hacq.storeGeneration, hhandle]
    · exact hl.storeGeneration r t ht
  · rw [issued_concat_of_some he]
    split_ifs with hr
    · obtain ⟨row, hrow, hepoch, hoperation⟩ := hacq.held
      rw [hr, hrow, List.getLast?_concat, Option.map_some, Option.map_some, hepoch, hoperation]
    · rw [hacq.others r hr]
      exact hl.last r

theorem Ledger.writes {g : Generation} {h : List FencingEvent} {db db' : FencingDb}
    {e : FencingEvent} {token : FencingToken} {value : String} {row : FencingRow}
    (hl : Ledger g h db) (hwrite : Writes db db' token value row) (he : tokenOf e = none) :
    Ledger g (h ++ [e]) db' := by
  refine ⟨hwrite.generation.trans hl.generation, fun r k t ht => ?_, fun r t ht => ?_,
    fun r => ?_⟩
  · rw [issued_concat_of_none he] at ht
    exact hl.epoch r k t ht
  · rw [issued_concat_of_none he] at ht
    exact hl.storeGeneration r t ht
  · rw [issued_concat_of_none he, ← hl.last r, hwrite.rows]
    split_ifs with hr
    · rw [hr, hwrite.held]
      rfl
    · rfl

/-- Every step keeps the ledger. -/
theorem Ledger.step {g : Generation} {h : List FencingEvent} {db : FencingDb}
    (hl : Ledger g h db) (c : FencingCall × Machine.Fate) :
    Ledger g (h ++ [(c, (fencingMachine.crashing.perform c db).2)])
      (fencingMachine.crashing.perform c db).1 := by
  rcases step_cases c hl.generation with ⟨hs, hnone, -⟩ |
    ⟨handle, operationId, token, -, hacq, ho⟩ | ⟨token, value, row, -, hwrite, ho⟩
  · rw [hs]
    refine ⟨hl.generation, fun r => ?_, fun r => ?_, fun r => ?_⟩ <;>
      rw [issued_concat_of_none hnone]
    · exact hl.epoch r
    · exact hl.storeGeneration r
    · exact hl.last r
  · exact hl.acquires hacq (by rw [ho]; rfl)
  · exact hl.writes hwrite (by rw [ho]; rfl)

/-- The ledger along a run. -/
theorem ledger_after (g : Generation) (cs : List (FencingCall × Machine.Fate)) :
    Ledger g (fencingMachine.crashing.history (.created g) cs)
      (fencingMachine.crashing.after (.created g) cs) :=
  fencingMachine.crashing.history_induction (.created g) (fun _ _ c hl => hl.step c) cs

/-- A write that commits presents the last issued token of its resource. -/
theorem Ledger.getLast_of_writes {g : Generation} {h : List FencingEvent} {db db' : FencingDb}
    {token : FencingToken} {value : String} {row : FencingRow} (hl : Ledger g h db)
    (hwrite : Writes db db' token value row) :
    (issued h token.resource).getLast? = some token := by
  have hlast := hl.last token.resource
  rw [hwrite.held, Option.map_some] at hlast
  obtain ⟨t, ht, heq⟩ := Option.map_eq_some_iff.1 hlast.symm
  obtain ⟨hepoch, hoperation⟩ := Prod.mk.inj heq
  have hmem := List.mem_of_getLast? ht
  have hoperation : t.operationId = token.operationId :=
    Option.some.inj (hoperation.trans hwrite.operationId.symm)
  have hgeneration : t.storeGeneration = token.storeGeneration := by
    rw [hl.storeGeneration _ t hmem, hwrite.current, hl.generation]
    rfl
  rw [ht, FencingToken.ext (resource_of_mem_issued hmem) hoperation
    (hepoch.trans hwrite.epoch.symm) hgeneration]

/-! ## Safety -/

/-- After any run, a write that commits presents the last issued token of its resource,
the one with the largest epoch. -/
theorem getLast_of_written {g : Generation} {cs : List (FencingCall × Machine.Fate)}
    {token : FencingToken} {value : String} {fate : Machine.Fate}
    (hwritten : (fencingMachine.crashing.perform (.write token value, fate)
      (fencingMachine.crashing.after (.created g) cs)).2 = some (.ok .written)) :
    (issued (fencingMachine.crashing.history (.created g) cs) token.resource).getLast? =
        some token ∧
      ∀ other ∈ issued (fencingMachine.crashing.history (.created g) cs) token.resource,
        other.epoch ≤ token.epoch := by
  have hl := ledger_after g cs
  rcases step_cases (.write token value, fate) hl.generation with
    ⟨-, -, hne⟩ | ⟨_, _, _, hc, -, -⟩ | ⟨_, _, row, hc, hwrite, -⟩
  · exact absurd hwritten hne
  · cases hc
  · cases hc
    have hlast := hl.getLast_of_writes hwrite
    exact ⟨hlast, fun other hother => (hl.getLast_epoch hlast).symm ▸ hl.epoch_le hother⟩

/-- A step changes the row of no resource but its own. -/
theorem find?_perform_of_ne {c : FencingCall × Machine.Fate} {db : FencingDb} {g : Generation}
    (hg : db.generation = some g) {r : String} (hr : c.1.resource? ≠ some r) :
    (fencingMachine.crashing.perform c db).1.rows.find? r = db.rows.find? r := by
  rcases step_cases c hg with ⟨hs, -⟩ | ⟨_, _, token, hc, hacq, -⟩ |
    ⟨token, value, row, hc, hwrite, -⟩
  · rw [hs]
  · refine hacq.others r fun hr' => hr ?_
    rw [hc, hr']
    rfl
  · rw [hwrite.rows, if_neg]
    rintro rfl
    exact hr (by rw [hc]; rfl)

/-- A step that does not commit changes nothing. -/
theorem perform_of_no_commit {c : FencingCall × Machine.Fate} {db : FencingDb} {g : Generation}
    (hg : db.generation = some g)
    (hno : ∀ reply, (fencingMachine.crashing.perform c db).2 ≠ some (.ok reply)) :
    (fencingMachine.crashing.perform c db).1 = db := by
  rcases step_cases c hg with ⟨hs, -⟩ | ⟨_, _, _, -, -, ho⟩ | ⟨_, _, _, -, -, ho⟩
  · exact hs
  · exact absurd ho (hno _)
  · exact absurd ho (hno _)

/-- Along every run on one database, for every resource : its committed acquisitions
have the epochs `1, 2, 3, …` in commit order, and its stored epoch is their number; once
a token is issued, no write with an earlier epoch ever commits; a write that commits
presents the last issued token, the one with the largest epoch; and a call changes the
row of no resource but its own, and of none at all unless it commits. -/
theorem fencingSafety (g : Generation) (cs : List (FencingCall × Machine.Fate)) :
    let h := fencingMachine.crashing.history (.created g) cs
    let db := fencingMachine.crashing.after (.created g) cs
    (∀ r (k : Nat) token, (issued h r)[k]? = some token → token.epoch = k + 1) ∧
      (∀ r, epochOf r db = (issued h r).length) ∧
      (∀ r, ∀ newer ∈ issued h r, ∀ ds token value fate, token.resource = r →
        token.epoch < newer.epoch →
        (fencingMachine.crashing.perform (.write token value, fate)
          (fencingMachine.crashing.after (.created g) (cs ++ ds))).2 ≠ some (.ok .written)) ∧
      (∀ token value fate,
        (fencingMachine.crashing.perform (.write token value, fate) db).2 = some (.ok .written) →
        (issued h token.resource).getLast? = some token ∧
          ∀ other ∈ issued h token.resource, other.epoch ≤ token.epoch) ∧
      (∀ c r, c.1.resource? ≠ some r →
        (fencingMachine.crashing.perform c db).1.rows.find? r = db.rows.find? r) ∧
      ∀ c, (∀ reply, (fencingMachine.crashing.perform c db).2 ≠ some (.ok reply)) →
        (fencingMachine.crashing.perform c db).1 = db := by
  intro h db
  have hl : Ledger g h db := ledger_after g cs
  refine ⟨hl.epoch, hl.epochOf, ?_, fun token value fate => getLast_of_written,
    fun c r => find?_perform_of_ne hl.generation, fun c => perform_of_no_commit hl.generation⟩
  rintro r newer hnewer ds token value fate rfl hlt hwritten
  have hmem : newer ∈ issued (fencingMachine.crashing.history (.created g) (cs ++ ds))
      token.resource := by
    rw [Machine.history_append]
    exact mem_issued_append hnewer
  have hle := (getLast_of_written hwritten).2 newer hmem
  omega

end PersistentFencingStore

end ReliabilityLab
