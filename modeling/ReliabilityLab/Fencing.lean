import Mathlib.Data.Int.Order.Basic
import ReliabilityLab.Machine
import ReliabilityLab.Python
import ReliabilityLab.Table

/-!
# The fencing store

`PersistentFencingStore` : one row for each resource with its epoch, the operation that
holds it and the last value written, and the generation of the database. `acquire`
raises the epoch and issues a token for it, `write` commits only for a token of the
current generation, epoch and operation. A handle is the generation that was read when
the store was opened.

`acquire_cases` and `write_cases` are what the two calls can do.
-/

set_option linter.unusedSectionVars false

open Serial Keyed

namespace ReliabilityLab

/-! ## Tokens and states -/

/-- The authority of an operation over a resource, at an epoch. -/
@[ext]
structure FencingToken where
  resource : String
  operationId : String
  epoch : Int
  storeGeneration : Option String := none
  resource_nonblank : isBlank resource = false
  operationId_nonblank : isBlank operationId = false
  epoch_pos : 0 < epoch
  storeGeneration_nonblank : ∀ g, storeGeneration = some g → isBlank g = false

instance : DecidableEq FencingToken := fun _ _ =>
  decidable_of_iff _ FencingToken.ext_iff.symm

/-- The checked constructor. -/
def FencingToken.create (resource operationId : String) (epoch : Int)
    (storeGeneration : Option String := none) : Except Raised FencingToken :=
  if hb : isBlank resource = true ∨ isBlank operationId = true then
    .error ⟨.valueError, "resource and operation_id must be nonempty"⟩
  else if he : epoch ≤ 0 then
    .error ⟨.valueError, "epoch must be positive"⟩
  else if hg : ∃ g ∈ storeGeneration, isBlank g = true then
    .error ⟨.valueError, "store_generation must be nonempty when present"⟩
  else
    .ok ⟨resource, operationId, epoch, storeGeneration, by simpa using (not_or.1 hb).1,
      by simpa using (not_or.1 hb).2, not_le.1 he, fun g h => by
        by_contra hne
        exact hg ⟨g, h, by simpa using hne⟩⟩

/-- A resource with its epoch, and its last operation and value. -/
@[ext]
structure FencedState where
  resource : String
  epoch : Int := 0
  operationId : Option String := none
  value : Option String := none
  resource_nonblank : isBlank resource = false
  epoch_nonneg : 0 ≤ epoch

instance : DecidableEq FencedState := fun _ _ =>
  decidable_of_iff _ FencedState.ext_iff.symm

/-- The checked constructor. -/
def FencedState.create (resource : String) (epoch : Int := 0) (operationId : Option String := none)
    (value : Option String := none) : Except Raised FencedState :=
  if hb : isBlank resource = true then
    .error ⟨.valueError, "resource must be nonempty"⟩
  else if he : epoch < 0 then
    .error ⟨.valueError, "epoch must be nonnegative"⟩
  else
    .ok ⟨resource, epoch, operationId, value, isBlank_eq_false hb, not_lt.1 he⟩

/-! ## The database -/

/-- The generation of a database, `lower(hex(randomblob(16)))`. -/
@[ext]
structure Generation where
  text : String
  nonblank : isBlank text = false

instance : DecidableEq Generation := fun _ _ =>
  decidable_of_iff _ Generation.ext_iff.symm

/-- A row of `fencing_state`. -/
structure FencingRow where
  resource : String
  epoch : Int
  operationId : Option String
  value : Option String
  epoch_nonneg : 0 ≤ epoch
  deriving DecidableEq

/-- The metadata row, if there is one, and the table `fencing_state`. -/
structure FencingDb where
  generation : Option Generation
  rows : Table FencingRow FencingRow.resource

/-- A database initialised with `generation`. -/
def FencingDb.created (generation : Generation) : FencingDb :=
  ⟨some generation, .empty⟩

namespace PersistentFencingStore

/-! ## The calls -/

/-- Open the store, with `fresh` as the generation of a database that has none. The
result is the handle. -/
def openStore (fresh : Generation) (db : FencingDb) : FencingDb × Generation :=
  ({ db with generation := some (db.generation.getD fresh) }, db.generation.getD fresh)

theorem openStore_of_some {db : FencingDb} {g : Generation} (fresh : Generation)
    (h : db.generation = some g) : openStore fresh db = (db, g) := by
  obtain ⟨generation, rows⟩ := db
  obtain rfl : generation = some g := h
  rfl

/-- The epoch of a resource; a resource without a row is at `0`. -/
def epochOf (resource : String) (db : FencingDb) : Int :=
  (db.rows.find? resource).elim 0 FencingRow.epoch

theorem epochOf_nonneg (resource : String) (db : FencingDb) : 0 ≤ epochOf resource db := by
  unfold epochOf
  rcases db.rows.find? resource with _ | row
  · exact le_rfl
  · exact row.epoch_nonneg

/-- `INSERT INTO fencing_state ... ON CONFLICT DO UPDATE`. -/
def putAuthority (resource operationId : String) (db : FencingDb) : FencingDb :=
  have hnonneg : 0 ≤ epochOf resource db + 1 := by
    have := epochOf_nonneg resource db
    omega
  { db with
    rows := db.rows.upsert ⟨resource, epochOf resource db + 1, some operationId, none, hnonneg⟩
      (fun old => { old with
        epoch := epochOf resource db + 1
        operationId := some operationId
        epoch_nonneg := hnonneg }) fun _ => rfl }

/-- `UPDATE fencing_state SET value = ?`. -/
def setValue (resource value : String) (db : FencingDb) : FencingDb :=
  { db with
    rows := db.rows.update resource (fun row => { row with value := some value }) fun _ => rfl }

/-- Issue the next token of a resource. -/
def acquire (handle : Generation) (resource operationId : String) (db : FencingDb) :
    FencingDb × Except Raised FencingToken :=
  if isBlank resource ∨ isBlank operationId then
    (db, .error ⟨.valueError, "resource and operation_id must be nonempty"⟩)
  else
    let result := transaction (fun db => do
      raiseIf (db.generation ≠ some handle)
        ⟨.fencingConflict, "authority store was replaced; reopen it before acquiring authority"⟩
      .ok (epochOf resource db + 1, putAuthority resource operationId db)) db
    (result.1, do
      let epoch ← result.2
      FencingToken.create resource operationId epoch (some handle.text))

/-- Write a value with a token. -/
def write (token : FencingToken) (value : String) (db : FencingDb) :
    FencingDb × Except Raised Unit :=
  transaction (fun db => do
    raiseIf (db.generation = none ∨ token.storeGeneration ≠ db.generation.map Generation.text)
      ⟨.fencingConflict, "fencing token belongs to a different authority-store generation"⟩
    let row ← orRaise (db.rows.find? token.resource)
      ⟨.fencingConflict, "fencing resource has no current authority"⟩
    raiseIf (token.epoch ≠ row.epoch)
      ⟨.staleFencingToken,
        "fencing token was superseded; stale executor must re-acquire authority"⟩
    raiseIf (some token.operationId ≠ row.operationId)
      ⟨.fencingConflict, "fencing token is not bound to the current operation"⟩
    .ok ((), setValue token.resource value db)) db

/-- The state of a resource. -/
def state (resource : String) (db : FencingDb) : Except Raised FencedState :=
  match db.rows.find? resource with
  | none => FencedState.create resource
  | some row => FencedState.create resource row.epoch row.operationId row.value

/-- The calls of the store. -/
inductive FencingCall where
  | openStore (fresh : Generation)
  | acquire (handle : Generation) (resource operationId : String)
  | write (token : FencingToken) (value : String)
  | state (resource : String)
  deriving DecidableEq

/-- What the calls return. -/
inductive FencingReply where
  | handle (generation : Generation)
  | token (token : FencingToken)
  | written
  | state (state : FencedState)
  deriving DecidableEq

/-- The store as a serialised machine. -/
def fencingMachine : Machine FencingDb FencingCall (Except Raised FencingReply) where
  perform
    | .openStore fresh, db => ((openStore fresh db).1, .ok (.handle (openStore fresh db).2))
    | .acquire handle resource operationId, db =>
      ((acquire handle resource operationId db).1,
        .token <$> (acquire handle resource operationId db).2)
    | .write token value, db =>
      ((write token value db).1, (fun _ => .written) <$> (write token value db).2)
    | .state resource, db => (db, .state <$> state resource db)

/-! ## What each call does -/

/-- An acquisition that commits. -/
structure Acquires (db db' : FencingDb) (handle : Generation) (token : FencingToken) : Prop where
  current : db.generation = some handle
  epoch : token.epoch = epochOf token.resource db + 1
  storeGeneration : token.storeGeneration = some handle.text
  generation : db'.generation = db.generation
  held : ∃ row, db'.rows.find? token.resource = some row ∧ row.epoch = token.epoch ∧
    row.operationId = some token.operationId
  others : ∀ r, r ≠ token.resource → db'.rows.find? r = db.rows.find? r

/-- A write that commits. -/
structure Writes (db db' : FencingDb) (token : FencingToken) (value : String) (row : FencingRow) :
    Prop where
  current : token.storeGeneration = db.generation.map Generation.text
  stored : db.generation ≠ none
  held : db.rows.find? token.resource = some row
  epoch : token.epoch = row.epoch
  operationId : some token.operationId = row.operationId
  generation : db'.generation = db.generation
  rows : ∀ r, db'.rows.find? r =
    if r = token.resource then some { row with value := some value } else db.rows.find? r

theorem create_eq_ok {resource operationId : String} {epoch : Int} {g : Generation}
    (hb : ¬(isBlank resource = true ∨ isBlank operationId = true)) (he : 0 < epoch) :
    ∃ token, FencingToken.create resource operationId epoch (some g.text) = .ok token ∧
      token.resource = resource ∧ token.operationId = operationId ∧ token.epoch = epoch ∧
      token.storeGeneration = some g.text := by
  unfold FencingToken.create
  rw [dif_neg hb, dif_neg (not_le.2 he), dif_neg (by simp [g.nonblank])]
  exact ⟨_, rfl, rfl, rfl, rfl, rfl⟩

theorem find?_putAuthority (resource operationId : String) (db : FencingDb) :
    (∃ row, (putAuthority resource operationId db).rows.find? resource = some row ∧
        row.epoch = epochOf resource db + 1 ∧ row.operationId = some operationId) ∧
      ∀ r, r ≠ resource →
        (putAuthority resource operationId db).rows.find? r = db.rows.find? r := by
  unfold putAuthority
  refine ⟨?_, fun r hr => ?_⟩
  · rw [Table.find?_upsert, if_pos rfl]
    rcases db.rows.find? resource with _ | old <;> exact ⟨_, rfl, rfl, rfl⟩
  · rw [Table.find?_upsert, if_neg hr]

/-- An acquisition raises and changes nothing, or commits and issues a token. -/
theorem acquire_cases (handle : Generation) (resource operationId : String) (db : FencingDb) :
    (∃ e, acquire handle resource operationId db = (db, .error e)) ∨
      ∃ db' token, token.resource = resource ∧ Acquires db db' handle token ∧
        acquire handle resource operationId db = (db', .ok token) := by
  unfold acquire
  split_ifs with hb
  · exact Or.inl ⟨_, rfl⟩
  by_cases hg : db.generation = some handle
  · have hpos : 0 < epochOf resource db + 1 := by
      have := epochOf_nonneg resource db
      omega
    obtain ⟨token, htoken, rfl, rfl, hepoch, hgen⟩ := create_eq_ok (g := handle) hb hpos
    obtain ⟨⟨row, hrow, hre, hro⟩, hothers⟩ :=
      find?_putAuthority token.resource token.operationId db
    refine Or.inr ⟨putAuthority token.resource token.operationId db, token, rfl,
      ⟨hg, hepoch, hgen, rfl, ⟨row, hrow, hre.trans hepoch.symm, hro⟩, hothers⟩, ?_⟩
    rw [transaction_of_ok (by rw [raiseIf_neg (not_not.2 hg), ok_bind])]
    exact Prod.ext rfl htoken
  · refine Or.inl ⟨⟨.fencingConflict,
      "authority store was replaced; reopen it before acquiring authority"⟩, ?_⟩
    rw [transaction_of_error (by rw [raiseIf_pos hg, error_bind])]
    rfl

/-- A write raises and changes nothing, or commits. -/
theorem write_cases (token : FencingToken) (value : String) (db : FencingDb) :
    (∃ e, write token value db = (db, .error e)) ∨
      ∃ db' row, Writes db db' token value row ∧ write token value db = (db', .ok ()) := by
  rcases hw : (write token value db).2 with e | ⟨⟩
  · exact Or.inl ⟨e, Prod.ext (transaction_rollback hw) hw⟩
  · have hbody := transaction_eq_ok.1 hw
    simp only [raiseIf_bind_eq_ok, orRaise_bind_eq_ok, not_or, not_not, Except.ok.injEq,
      Prod.mk.injEq] at hbody
    obtain ⟨⟨hstored, hcurrent⟩, row, hrow, hepoch, hoperation, -, hdb'⟩ := hbody
    refine Or.inr ⟨setValue token.resource value db, row,
      ⟨hcurrent, hstored, hrow, hepoch, hoperation, rfl, fun r => ?_⟩, Prod.ext hdb'.symm hw⟩
    rw [setValue, Table.find?_update, hrow, Option.map_some]

end PersistentFencingStore

end ReliabilityLab
