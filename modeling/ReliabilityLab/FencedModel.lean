import ReliabilityLab.Fencing

/-!
# The in-memory fencing model

`acquire_authority` and `fenced_write` on a `FencedState`, and the store as their
refinement. The model of a database is a `FencedState` for each resource, `states`,
updated by these two functions at the resource of the call. A blank resource has no
state : `FencedState` raises.

`Represents` relates a database to the model. Both calls keep it, and succeed in the
store just when they succeed in the model (`store_simulates`), though the store checks
in another order and knows a resource without a row, which the model has at epoch `0`.
-/

set_option linter.unusedSectionVars false

open Serial Keyed

namespace ReliabilityLab

/-! ## The functions -/

/-- Issue a monotonically newer authority token for one exact operation. -/
def acquireAuthority (state : FencedState) (operationId : String) :
    Except Raised (FencedState × FencingToken) := do
  raiseIf (isBlank operationId) ⟨.valueError, "operation_id must be nonempty"⟩
  let token ← FencingToken.create state.resource operationId (state.epoch + 1)
  let state' ← FencedState.create state.resource (state.epoch + 1) (some operationId) state.value
  .ok (state', token)

/-- Commit only for the exact current resource, operation, and authority epoch. -/
def fencedWrite (state : FencedState) (token : FencingToken) (value : String) :
    Except Raised FencedState := do
  raiseIf (token.resource ≠ state.resource)
    ⟨.fencingConflict, "fencing token belongs to a different resource"⟩
  raiseIf (token.epoch ≠ state.epoch)
    ⟨.staleFencingToken,
      "fencing token was superseded; stale executor must re-acquire authority"⟩
  raiseIf (some token.operationId ≠ state.operationId)
    ⟨.fencingConflict, "fencing token is not bound to the current operation"⟩
  FencedState.create state.resource state.epoch state.operationId (some value)

theorem FencingToken.create_eq_ok {resource operationId : String} {epoch : Int}
    {g : Option String} {token : FencingToken} :
    FencingToken.create resource operationId epoch g = .ok token ↔
      token.resource = resource ∧ token.operationId = operationId ∧ token.epoch = epoch ∧
        token.storeGeneration = g := by
  unfold FencingToken.create
  split_ifs with hb he hg
  · refine iff_of_false (by simp) ?_
    rintro ⟨rfl, rfl, -, -⟩
    simp [token.resource_nonblank, token.operationId_nonblank] at hb
  · refine iff_of_false (by simp) ?_
    rintro ⟨-, -, rfl, -⟩
    exact absurd token.epoch_pos (not_lt.2 he)
  · refine iff_of_false (by simp) ?_
    rintro ⟨-, -, -, rfl⟩
    obtain ⟨g, hg, hblank⟩ := hg
    exact absurd (token.storeGeneration_nonblank g hg) (by simp [hblank])
  · rw [Except.ok.injEq, FencingToken.ext_iff, eq_comm, eq_comm (b := token.operationId),
      eq_comm (b := token.epoch), eq_comm (b := token.storeGeneration)]

theorem FencedState.create_eq_ok {resource : String} {epoch : Int}
    {operationId value : Option String} {s : FencedState} :
    FencedState.create resource epoch operationId value = .ok s ↔
      s.resource = resource ∧ s.epoch = epoch ∧ s.operationId = operationId ∧ s.value = value := by
  unfold FencedState.create
  split_ifs with hb he
  · refine iff_of_false (by simp) ?_
    rintro ⟨rfl, -⟩
    simp [s.resource_nonblank] at hb
  · refine iff_of_false (by simp) ?_
    rintro ⟨-, rfl, -⟩
    exact absurd s.epoch_nonneg (not_le.2 he)
  · obtain ⟨r, e, o, v, hr, he'⟩ := s
    rw [Except.ok.injEq, FencedState.mk.injEq, eq_comm, eq_comm (b := e), eq_comm (b := o),
      eq_comm (b := v)]

theorem acquireAuthority_eq_ok {state state' : FencedState} {operationId : String}
    {token : FencingToken} :
    acquireAuthority state operationId = .ok (state', token) ↔
      isBlank operationId = false ∧
        FencingToken.create state.resource operationId (state.epoch + 1) = .ok token ∧
        FencedState.create state.resource (state.epoch + 1) (some operationId) state.value =
          .ok state' := by
  unfold acquireAuthority
  rw [raiseIf_bind_eq_ok, Bool.not_eq_true]
  simp only [bind_eq_ok, Except.ok.injEq, Prod.mk.injEq]
  refine and_congr_right fun _ => ?_
  refine ⟨?_, fun ⟨htoken, hstate⟩ => ⟨token, htoken, state', hstate, rfl, rfl⟩⟩
  rintro ⟨_, htoken, _, hstate, rfl, rfl⟩
  exact ⟨htoken, hstate⟩

theorem fencedWrite_eq_ok {state state' : FencedState} {token : FencingToken} {value : String} :
    fencedWrite state token value = .ok state' ↔
      token.resource = state.resource ∧ token.epoch = state.epoch ∧
        some token.operationId = state.operationId ∧
        FencedState.create state.resource state.epoch state.operationId (some value) =
          .ok state' := by
  unfold fencedWrite
  simp only [raiseIf_bind_eq_ok, not_not]

/-- An acquisition for an operation that is not blank succeeds. -/
theorem exists_acquireAuthority (state : FencedState) {operationId : String}
    (ho : isBlank operationId = false) :
    ∃ state' token, acquireAuthority state operationId = .ok (state', token) := by
  have hpos : 0 < state.epoch + 1 := by
    have := state.epoch_nonneg
    omega
  refine ⟨⟨state.resource, state.epoch + 1, some operationId, state.value,
    state.resource_nonblank, hpos.le⟩, ⟨state.resource, operationId, state.epoch + 1, none,
    state.resource_nonblank, ho, hpos, by simp⟩, ?_⟩
  rw [acquireAuthority_eq_ok, FencingToken.create_eq_ok, FencedState.create_eq_ok]
  exact ⟨ho, ⟨rfl, rfl, rfl, rfl⟩, rfl, rfl, rfl, rfl⟩

/-- A write with a token of the resource, the epoch and the operation succeeds. -/
theorem exists_fencedWrite {state : FencedState} {token : FencingToken}
    (hr : token.resource = state.resource) (he : token.epoch = state.epoch)
    (ho : some token.operationId = state.operationId) (value : String) :
    ∃ state', fencedWrite state token value = .ok state' := by
  refine ⟨{ state with value := some value }, ?_⟩
  rw [fencedWrite_eq_ok, FencedState.create_eq_ok]
  exact ⟨hr, he, ho, rfl, rfl, rfl, rfl⟩

/-! ## The model -/

/-- The model of a database : the state of each resource. -/
abbrev FencedStates := String → Except Raised FencedState

namespace FencedStates

/-- The states of resources that nobody acquired. -/
def initial : FencedStates :=
  fun resource => FencedState.create resource

/-- Acquire a resource, in its state. -/
def acquire (resource operationId : String) :
    FencedStates → FencedStates × Except Raised FencingToken :=
  transaction fun states => do
    let state ← states resource
    let (state', token) ← acquireAuthority state operationId
    .ok (token, Function.update states resource (.ok state'))

/-- Write to the resource of a token, in its state. -/
def write (token : FencingToken) (value : String) :
    FencedStates → FencedStates × Except Raised Unit :=
  transaction fun states => do
    let state ← states token.resource
    let state' ← fencedWrite state token value
    .ok ((), Function.update states token.resource (.ok state'))

theorem acquire_of_ok {resource operationId : String} {states : FencedStates}
    {state state' : FencedState} {token : FencingToken} (hstate : states resource = .ok state)
    (hacquire : acquireAuthority state operationId = .ok (state', token)) :
    acquire resource operationId states =
      (Function.update states resource (.ok state'), .ok token) :=
  transaction_of_ok (by rw [hstate, ok_bind, hacquire, ok_bind])

theorem write_of_ok {token : FencingToken} {value : String} {states : FencedStates}
    {state state' : FencedState} (hstate : states token.resource = .ok state)
    (hwrite : fencedWrite state token value = .ok state') :
    write token value states = (Function.update states token.resource (.ok state'), .ok ()) :=
  transaction_of_ok (by rw [hstate, ok_bind, hwrite, ok_bind])

end FencedStates

namespace PersistentFencingStore

/-! ## The store's states -/

theorem state_eq (resource : String) (db : FencingDb) :
    state resource db = FencedState.create resource (epochOf resource db)
      ((db.rows.find? resource).bind FencingRow.operationId)
      ((db.rows.find? resource).bind FencingRow.value) := by
  unfold state epochOf
  rcases db.rows.find? resource with _ | row <;> rfl

/-- A resource that is not blank has a state. -/
theorem exists_state {resource : String} (hb : isBlank resource = false) (db : FencingDb) :
    ∃ s, state resource db = .ok s ∧ s.resource = resource ∧ s.epoch = epochOf resource db ∧
      s.operationId = (db.rows.find? resource).bind FencingRow.operationId ∧
      s.value = (db.rows.find? resource).bind FencingRow.value := by
  refine ⟨⟨resource, epochOf resource db, _, _, hb, epochOf_nonneg resource db⟩, ?_, rfl, rfl, rfl,
    rfl⟩
  rw [state_eq, FencedState.create_eq_ok]
  exact ⟨rfl, rfl, rfl, rfl⟩

theorem state_putAuthority (resource operationId : String) (db : FencingDb) (r : String) :
    state r (putAuthority resource operationId db) =
      if r = resource then
        FencedState.create resource (epochOf resource db + 1) (some operationId)
          ((db.rows.find? resource).bind FencingRow.value)
      else state r db := by
  unfold state putAuthority
  rw [Table.find?_upsert]
  split_ifs with hr
  · subst hr
    rcases db.rows.find? r with _ | row <;> rfl
  · rfl

theorem state_setValue {resource : String} {db : FencingDb} {row : FencingRow}
    (hrow : db.rows.find? resource = some row) (value r : String) :
    state r (setValue resource value db) =
      if r = resource then FencedState.create resource row.epoch row.operationId (some value)
      else state r db := by
  unfold state setValue
  rw [Table.find?_update]
  split_ifs with hr
  · rw [hr, hrow]
    rfl
  · rfl

/-! ## The refinement -/

/-- A call at a database or at its model. -/
inductive AuthorityCall where
  | acquire (resource operationId : String)
  | write (token : FencingToken) (value : String)
  deriving DecidableEq

/-- A token of the call carries the generation `g`. -/
def AuthorityCall.Carries (g : Generation) : AuthorityCall → Prop
  | .acquire _ _ => True
  | .write token _ => token.storeGeneration = some g.text

instance (g : Generation) : (c : AuthorityCall) → Decidable (c.Carries g)
  | .acquire _ _ => inferInstanceAs (Decidable True)
  | .write _ _ => inferInstanceAs (Decidable (_ = _))

/-- The calls at a database whose generation is `g`, through the handle `g`. -/
def authorityMachine (g : Generation) :
    Machine FencingDb AuthorityCall (Except Raised FencingReply) where
  perform
    | .acquire resource operationId => fencingMachine.perform (.acquire g resource operationId)
    | .write token value => fencingMachine.perform (.write token value)

/-- The calls at the model. -/
def modelMachine : Machine FencedStates AuthorityCall (Except Raised FencingReply) where
  perform
    | .acquire resource operationId, states =>
      ((states.acquire resource operationId).1, .token <$> (states.acquire resource operationId).2)
    | .write token value, states =>
      ((states.write token value).1, (fun _ => .written) <$> (states.write token value).2)

/-- The model `states` of a database with the generation `g`. -/
structure Represents (g : Generation) (db : FencingDb) (states : FencedStates) : Prop where
  generation : db.generation = some g
  state : ∀ r, state r db = states r

theorem represents_created (g : Generation) : Represents g (.created g) .initial :=
  ⟨rfl, fun _ => rfl⟩

/-- Both calls raise, or both succeed with tokens for the same resource, operation and
epoch. -/
def Agree : Except Raised FencingReply → Except Raised FencingReply → Prop
  | .ok (.token token), .ok (.token token') =>
    token.resource = token'.resource ∧ token.operationId = token'.operationId ∧
      token.epoch = token'.epoch
  | .ok .written, .ok .written => True
  | .error _, .error _ => True
  | _, _ => False

theorem acquire_of_current {g : Generation} {resource operationId : String} {db : FencingDb}
    (hb : isBlank resource = false) (ho : isBlank operationId = false)
    (hg : db.generation = some g) :
    ∃ token, acquire g resource operationId db =
        (putAuthority resource operationId db, .ok token) ∧
      token.resource = resource ∧ token.operationId = operationId ∧
      token.epoch = epochOf resource db + 1 := by
  have hpos : 0 < epochOf resource db + 1 := by
    have := epochOf_nonneg resource db
    omega
  have hblank : ¬(isBlank resource = true ∨ isBlank operationId = true) := by simp [hb, ho]
  obtain ⟨token, htoken, hr, hop, he, -⟩ := create_eq_ok (g := g) hblank hpos
  refine ⟨token, ?_, hr, hop, he⟩
  unfold acquire
  rw [if_neg hblank, transaction_of_ok (by rw [raiseIf_neg (not_not.2 hg), ok_bind])]
  exact Prod.ext rfl htoken

/-- An acquisition in the store and in the model. -/
theorem acquire_simulates {g : Generation} {db : FencingDb} {states : FencedStates}
    (h : Represents g db states) (resource operationId : String) :
    Represents g (acquire g resource operationId db).1 (states.acquire resource operationId).1 ∧
      Agree (.token <$> (acquire g resource operationId db).2)
        (.token <$> (states.acquire resource operationId).2) := by
  by_cases hb : isBlank resource = true ∨ isBlank operationId = true
  · have hstore : ∃ e, acquire g resource operationId db = (db, .error e) := by
      unfold acquire
      rw [if_pos hb]
      exact ⟨_, rfl⟩
    have hmodel : ∃ e, (states.acquire resource operationId).2 = .error e := by
      refine exists_error_of_ne_ok fun token htoken => ?_
      obtain ⟨s, hs, hbody⟩ := bind_eq_ok.1 (transaction_eq_ok.1 htoken)
      obtain ⟨⟨s', token'⟩, hacquire, -⟩ := bind_eq_ok.1 hbody
      rw [← h.state, state_eq, FencedState.create_eq_ok] at hs
      have hr := s.resource_nonblank
      rw [hs.1] at hr
      simp [hr, (acquireAuthority_eq_ok.1 hacquire).1] at hb
    obtain ⟨e, he⟩ := hstore
    obtain ⟨e', he'⟩ := hmodel
    have hsame : (states.acquire resource operationId).1 = states := transaction_rollback he'
    rw [he, he', hsame]
    exact ⟨h, trivial⟩
  · rw [not_or, Bool.not_eq_true, Bool.not_eq_true] at hb
    obtain ⟨token, hstore, hr, ho, he⟩ := acquire_of_current hb.1 hb.2 h.generation
    obtain ⟨s, hs, hsr, hse, hso, hsv⟩ := exists_state hb.1 db
    obtain ⟨s', token', hacquire⟩ := exists_acquireAuthority s hb.2
    obtain ⟨-, htoken', hs'⟩ := acquireAuthority_eq_ok.1 hacquire
    obtain ⟨hr', ho', he', -⟩ := FencingToken.create_eq_ok.1 htoken'
    have hmodel := FencedStates.acquire_of_ok ((h.state resource).symm.trans hs) hacquire
    rw [hstore, hmodel]
    refine ⟨⟨h.generation, fun r => ?_⟩, by rw [hr, hr', hsr], ho.trans ho'.symm,
      by rw [he, he', hse]⟩
    show _ = Function.update states resource (.ok s') r
    rw [state_putAuthority, Function.update_apply, ← hs', hsr, hse, hsv]
    split_ifs
    · rfl
    · exact h.state r

theorem write_of_current {g : Generation} {db : FencingDb} {token : FencingToken} {row : FencingRow}
    (hg : db.generation = some g) (htoken : token.storeGeneration = some g.text)
    (hrow : db.rows.find? token.resource = some row) (he : token.epoch = row.epoch)
    (ho : some token.operationId = row.operationId) (value : String) :
    write token value db = (setValue token.resource value db, .ok ()) := by
  refine transaction_of_ok ?_
  rw [raiseIf_neg (by simp [hg, htoken]), ok_bind, hrow, orRaise_some, ok_bind,
    raiseIf_neg (not_not.2 he), ok_bind, raiseIf_neg (not_not.2 ho), ok_bind]

/-- A write in the store and in the model. A resource without a row is at epoch `0` in
the model, and no token has that epoch. -/
theorem write_simulates {g : Generation} {db : FencingDb} {states : FencedStates}
    (h : Represents g db states) {token : FencingToken}
    (htoken : token.storeGeneration = some g.text) (value : String) :
    Represents g (write token value db).1 (states.write token value).1 ∧
      Agree ((fun _ => .written) <$> (write token value db).2)
        ((fun _ => .written) <$> (states.write token value).2) := by
  obtain ⟨s, hs, hsr, hse, hso, hsv⟩ := exists_state token.resource_nonblank db
  have hstate : states token.resource = .ok s := (h.state _).symm.trans hs
  rcases write_cases token value db with ⟨e, hstore⟩ | ⟨db', row, hwrite, hstore⟩
  · have hmodel : ∃ e, (states.write token value).2 = .error e := by
      refine exists_error_of_ne_ok fun u hu => ?_
      obtain ⟨s₁, hs₁, hbody⟩ := bind_eq_ok.1 (transaction_eq_ok.1 hu)
      obtain rfl := Except.ok.inj (hstate.symm.trans hs₁)
      obtain ⟨s', hs', -⟩ := bind_eq_ok.1 hbody
      obtain ⟨-, hepoch, hoperation, -⟩ := fencedWrite_eq_ok.1 hs'
      rw [hse, epochOf] at hepoch
      rw [hso] at hoperation
      rcases hrow : db.rows.find? token.resource with _ | row <;>
        rw [hrow] at hepoch hoperation
      · exact absurd token.epoch_pos (by rw [hepoch]; exact lt_irrefl 0)
      · rw [write_of_current h.generation htoken hrow hepoch hoperation] at hstore
        cases congrArg Prod.snd hstore
    obtain ⟨e', he'⟩ := hmodel
    have hsame : (states.write token value).1 = states := transaction_rollback he'
    rw [hstore, he', hsame]
    exact ⟨h, trivial⟩
  · have hepoch : token.epoch = s.epoch := by
      rw [hse, epochOf, hwrite.held, hwrite.epoch]
      rfl
    have hoperation : some token.operationId = s.operationId := by
      rw [hso, hwrite.held, hwrite.operationId]
      rfl
    obtain ⟨s', hs'⟩ := exists_fencedWrite hsr.symm hepoch hoperation value
    rw [write_of_current h.generation htoken hwrite.held hwrite.epoch hwrite.operationId,
      FencedStates.write_of_ok hstate hs']
    refine ⟨⟨h.generation, fun r => ?_⟩, trivial⟩
    show _ = Function.update states token.resource (.ok s') r
    rw [state_setValue hwrite.held, Function.update_apply, ← (fencedWrite_eq_ok.1 hs').2.2.2,
      hsr, ← hepoch, hwrite.epoch, ← hoperation, hwrite.operationId]
    split_ifs
    · rfl
    · exact h.state r

theorem store_simulates (g : Generation) :
    (authorityMachine g).Simulates modelMachine (AuthorityCall.Carries g) (Represents g)
      fun _ => Agree := by
  intro c db states hc h
  cases c with
  | acquire resource operationId => exact acquire_simulates h resource operationId
  | write token value => exact write_simulates h hc value

end PersistentFencingStore

end ReliabilityLab
