import ReliabilityLab.FencedModel
import ReliabilityLab.Fold
import ReliabilityLab.PythonText

/-!
# Fencing with any text

The calls of the fencing store, and of its model, on texts that may hold surrogates. The two
functions of the model compare texts, so they do on codes what they do on texts. The store binds
its texts to SQL statements, and raises where one has a surrogate.

On texts without surrogates the calls are those of `Fencing` (`perform_of_encodes`), which the
model simulates. An acquisition or a write with a surrogate raises and changes nothing
(`perform_of_not_encodes`), so the store follows the model just as long as the calls that the
model takes have none. Which calls it takes can be read off the calls before them (`Accepted`) :
`store_refines_model_iff`.
-/

set_option linter.unusedSectionVars false

open Serial Keyed

namespace ReliabilityLab

open PyText

/-- A token whose texts may hold surrogates. -/
structure TextToken where
  resource : PyText
  operationId : PyText
  epoch : Int
  storeGeneration : Option PyText := none
  resource_nonblank : resource.blank = false
  operationId_nonblank : operationId.blank = false
  epoch_pos : 0 < epoch
  storeGeneration_nonblank : ∀ g, storeGeneration = some g → g.blank = false

/-- The token with the codes of its texts. -/
def TextToken.code (token : TextToken) : FencingToken where
  resource := token.resource.code
  operationId := token.operationId.code
  epoch := token.epoch
  storeGeneration := token.storeGeneration.map PyText.code
  resource_nonblank := by rw [isBlank_code, token.resource_nonblank]
  operationId_nonblank := by rw [isBlank_code, token.operationId_nonblank]
  epoch_pos := token.epoch_pos
  storeGeneration_nonblank := by
    intro g hg
    obtain ⟨text, htext, rfl⟩ := Option.map_eq_some_iff.1 hg
    rw [isBlank_code, token.storeGeneration_nonblank text htext]

namespace PersistentFencingStore

/-! ## The calls -/

/-- Issue the next token of a resource. -/
def acquireText (handle : Generation) (resource operationId : PyText) (db : FencingDb) :
    FencingDb × Except Raised FencingToken :=
  if resource.blank ∨ operationId.blank then
    (db, .error ⟨.valueError, "resource and operation_id must be nonempty"⟩)
  else
    let result := transaction (fun db => do
      raiseIf (db.generation ≠ some handle)
        ⟨.fencingConflict, "authority store was replaced; reopen it before acquiring authority"⟩
      bindTexts [resource.code]
      let epoch := epochOf resource.code db + 1
      bindTexts [resource.code, operationId.code]
      .ok (epoch, putAuthority resource.code operationId.code db)) db
    (result.1, do
      let epoch ← result.2
      FencingToken.create resource.code operationId.code epoch (some handle.text))

/-- Write a value with a token. -/
def writeText (token : TextToken) (value : PyText) (db : FencingDb) :
    FencingDb × Except Raised Unit :=
  transaction (fun db => do
    raiseIf (db.generation = none ∨ token.code.storeGeneration ≠ db.generation.map Generation.text)
      ⟨.fencingConflict, "fencing token belongs to a different authority-store generation"⟩
    bindTexts [token.resource.code]
    let row ← orRaise (db.rows.find? token.resource.code)
      ⟨.fencingConflict, "fencing resource has no current authority"⟩
    raiseIf (token.epoch ≠ row.epoch)
      ⟨.staleFencingToken,
        "fencing token was superseded; stale executor must re-acquire authority"⟩
    raiseIf (some token.operationId.code ≠ row.operationId)
      ⟨.fencingConflict, "fencing token is not bound to the current operation"⟩
    bindTexts [value.code, token.resource.code]
    .ok ((), setValue token.resource.code value.code db)) db

/-- The state of a resource. -/
def stateText (resource : PyText) (db : FencingDb) : Except Raised FencedState := do
  bindTexts [resource.code]
  state resource.code db

/-- A call at a database or at its model. -/
inductive TextCall where
  | acquire (resource operationId : PyText)
  | write (token : TextToken) (value : PyText)

namespace TextCall

/-- The call with the codes of its texts. -/
def code : TextCall → AuthorityCall
  | .acquire resource operationId => .acquire resource.code operationId.code
  | .write token value => .write token.code value.code

/-- The texts that the call binds can be encoded. -/
def Encodes : TextCall → Prop
  | .acquire resource operationId => resource.Encodes ∧ operationId.Encodes
  | .write token value => token.resource.Encodes ∧ value.Encodes

instance : (c : TextCall) → Decidable c.Encodes
  | .acquire _ _ => inferInstanceAs (Decidable (_ ∧ _))
  | .write _ _ => inferInstanceAs (Decidable (_ ∧ _))

end TextCall

/-- The calls at a database whose generation is `g`, through the handle `g`. -/
def textMachine (g : Generation) : Machine FencingDb TextCall (Except Raised FencingReply) where
  perform
    | .acquire resource operationId, db =>
      ((acquireText g resource operationId db).1,
        .token <$> (acquireText g resource operationId db).2)
    | .write token value, db =>
      ((writeText token value db).1, (fun _ => .written) <$> (writeText token value db).2)

/-- The calls at the model. -/
def textModel : Machine FencedStates TextCall (Except Raised FencingReply) where
  perform c := modelMachine.perform c.code

/-! ## Texts with and without surrogates -/

theorem acquireText_of_encodes {resource operationId : PyText} (hr : resource.Encodes)
    (ho : operationId.Encodes) (handle : Generation) (db : FencingDb) :
    acquireText handle resource operationId db =
      acquire handle resource.code operationId.code db := by
  unfold acquireText acquire
  rw [isBlank_code, isBlank_code, bindTexts_of_encodes (by simpa using hr),
    bindTexts_of_encodes (by simpa using ⟨hr, ho⟩)]
  rfl

theorem acquireText_of_not_encodes {resource operationId : PyText}
    (h : ¬(resource.Encodes ∧ operationId.Encodes)) (handle : Generation) (db : FencingDb) :
    ∃ e, acquireText handle resource operationId db = (db, .error e) := by
  have hbind : ¬∀ text ∈ [resource.code, operationId.code], TextEncodes text := by simpa using h
  unfold acquireText
  split_ifs with hb
  · exact ⟨_, rfl⟩
  obtain ⟨e, he⟩ : ∃ e, (do
      raiseIf (db.generation ≠ some handle)
        ⟨.fencingConflict, "authority store was replaced; reopen it before acquiring authority"⟩
      bindTexts [resource.code]
      let epoch := epochOf resource.code db + 1
      bindTexts [resource.code, operationId.code]
      .ok (epoch, putAuthority resource.code operationId.code db) :
        Except Raised (Int × FencingDb)) = .error e := by
    refine exists_error_of_ne_ok fun out hout => ?_
    obtain ⟨-, hout⟩ := check_bind_eq_ok.1 hout
    obtain ⟨-, hout⟩ := check_bind_eq_ok.1 hout
    exact hbind (bindTexts_eq_ok.1 (check_bind_eq_ok.1 hout).1)
  exact ⟨e, by rw [transaction_of_error he]; rfl⟩

theorem writeText_of_encodes {token : TextToken} {value : PyText}
    (hr : token.resource.Encodes) (hv : value.Encodes) (db : FencingDb) :
    writeText token value db = write token.code value.code db := by
  unfold writeText write
  rw [bindTexts_of_encodes (by simpa using hr), bindTexts_of_encodes (by simpa using ⟨hv, hr⟩)]
  rfl

theorem writeText_of_not_encodes {token : TextToken} {value : PyText}
    (h : ¬(token.resource.Encodes ∧ value.Encodes)) (db : FencingDb) :
    ∃ e, writeText token value db = (db, .error e) := by
  have hbind : ¬∀ text ∈ [value.code, token.resource.code], TextEncodes text := by
    simpa [and_comm] using h
  obtain ⟨e, he⟩ : ∃ e, (writeText token value db).2 = .error e := by
    refine exists_error_of_ne_ok fun u hu => ?_
    obtain ⟨-, hbody⟩ := check_bind_eq_ok.1 (transaction_eq_ok.1 hu)
    obtain ⟨-, hbody⟩ := check_bind_eq_ok.1 hbody
    obtain ⟨row, -, hbody⟩ := bind_eq_ok.1 hbody
    obtain ⟨-, hbody⟩ := check_bind_eq_ok.1 hbody
    obtain ⟨-, hbody⟩ := check_bind_eq_ok.1 hbody
    exact hbind (bindTexts_eq_ok.1 (check_bind_eq_ok.1 hbody).1)
  exact ⟨e, Prod.ext (transaction_rollback he) he⟩

/-- A call without surrogates is the call of the store on characters. -/
theorem perform_of_encodes {c : TextCall} (h : c.Encodes) (g : Generation) (db : FencingDb) :
    (textMachine g).perform c db = (authorityMachine g).perform c.code db := by
  cases c with
  | acquire resource operationId =>
    simp only [textMachine, acquireText_of_encodes h.1 h.2]
    rfl
  | write token value =>
    simp only [textMachine, writeText_of_encodes h.1 h.2]
    rfl

/-- A call with a surrogate raises and changes nothing. -/
theorem perform_of_not_encodes {c : TextCall} (h : ¬c.Encodes) (g : Generation) (db : FencingDb) :
    ∃ e, (textMachine g).perform c db = (db, .error e) := by
  cases c with
  | acquire resource operationId =>
    obtain ⟨e, he⟩ := acquireText_of_not_encodes h g db
    exact ⟨e, by simp only [textMachine, he]; rfl⟩
  | write token value =>
    obtain ⟨e, he⟩ := writeText_of_not_encodes h db
    exact ⟨e, by simp only [textMachine, he]; rfl⟩

/-- The states of a text are those of its code, if it can be encoded. -/
theorem stateText_of_encodes {resource : PyText} (h : resource.Encodes) (db : FencingDb) :
    stateText resource db = state resource.code db := by
  rw [stateText, bindTexts_of_encodes (by simpa using h), ok_bind]

/-! ## The calls that the model takes -/

/-- The operations that acquired `resource`, in order. -/
def holders (resource : PyText) (cs : List TextCall) : List PyText :=
  cs.filterMap fun
    | .acquire r operationId =>
      if r = resource ∧ r.blank = false ∧ operationId.blank = false then some operationId else none
    | .write _ _ => none

/-- An acquisition with texts that are not blank, or a write with the token of the last
acquisition of its resource. -/
def TextCall.Accepted (before : List TextCall) : TextCall → Prop
  | .acquire resource operationId => resource.blank = false ∧ operationId.blank = false
  | .write token _ =>
    (holders token.resource before).getLast? = some token.operationId ∧
      token.epoch = (holders token.resource before).length

instance (before : List TextCall) : (c : TextCall) → Decidable (c.Accepted before)
  | .acquire _ _ => inferInstanceAs (Decidable (_ ∧ _))
  | .write _ _ => inferInstanceAs (Decidable (_ ∧ _))

theorem holders_concat (resource : PyText) (cs : List TextCall) (c : TextCall) :
    holders resource (cs ++ [c]) = holders resource cs ++ holders resource [c] :=
  List.filterMap_append

theorem holders_of_not_accepted {cs : List TextCall} {r operationId : PyText}
    (h : ¬TextCall.Accepted cs (.acquire r operationId)) (resource : PyText) :
    holders resource [.acquire r operationId] = [] := by
  have hnot : ¬(r = resource ∧ r.blank = false ∧ operationId.blank = false) := fun hc => h hc.2
  simp [holders, hnot]

/-- The model after the calls `cs` : the epoch of a resource counts its acquisitions, and the
last one holds it. A blank resource has no state. -/
structure Holds (cs : List TextCall) (states : FencedStates) : Prop where
  blank : ∀ r : PyText, r.blank = true → ∃ e, states r.code = .error e
  state : ∀ r : PyText, r.blank = false → ∃ s, states r.code = .ok s ∧ s.resource = r.code ∧
    s.epoch = (holders r cs).length ∧ s.operationId = (holders r cs).getLast?.map PyText.code

theorem holds_initial : Holds [] .initial := by
  refine ⟨fun r hr => ?_, fun r hr => ?_⟩
  · refine ⟨⟨.valueError, "resource must be nonempty"⟩, ?_⟩
    rw [FencedStates.initial, FencedState.create, dif_pos (by rw [isBlank_code, hr])]
  · refine ⟨⟨r.code, 0, none, none, by rw [isBlank_code, hr], le_rfl⟩, ?_, rfl, rfl, rfl⟩
    rw [FencedStates.initial, FencedState.create_eq_ok]
    exact ⟨rfl, rfl, rfl, rfl⟩

section model

variable {cs : List TextCall} {states : FencedStates}

/-- The model with the state of one resource replaced. -/
theorem Holds.update (h : Holds cs states) {c : TextCall} {r : PyText} {s : FencedState}
    (hr : r.blank = false) (hs : s.resource = r.code)
    (hepoch : s.epoch = (holders r (cs ++ [c])).length)
    (hoperation : s.operationId = (holders r (cs ++ [c])).getLast?.map PyText.code)
    (hothers : ∀ r', r' ≠ r → holders r' (cs ++ [c]) = holders r' cs) :
    Holds (cs ++ [c]) (Function.update states r.code (.ok s)) := by
  refine ⟨fun r' hr' => ?_, fun r' hr' => ?_⟩
  · have hne : r' ≠ r := by
      rintro rfl
      rw [hr] at hr'
      cases hr'
    rw [Function.update_of_ne (code_injective.ne hne)]
    exact h.blank r' hr'
  · by_cases hne : r' = r
    · subst hne
      exact ⟨s, Function.update_self _ _ _, hs, hepoch, hoperation⟩
    · rw [Function.update_of_ne (code_injective.ne hne), hothers r' hne]
      exact h.state r' hr'

/-- A call that the model does not take leaves it as it was. -/
theorem Holds.refused (h : Holds cs states) {c : TextCall} (hc : ∀ r, holders r [c] = []) :
    Holds (cs ++ [c]) states := by
  refine ⟨h.blank, fun r hr => ?_⟩
  rw [holders_concat, hc, List.append_nil]
  exact h.state r hr

theorem Holds.acquire (h : Holds cs states) (r operationId : PyText) :
    ((∃ reply, (textModel.perform (.acquire r operationId) states).2 = .ok reply) ↔
        TextCall.Accepted cs (.acquire r operationId)) ∧
      Holds (cs ++ [.acquire r operationId])
        (textModel.perform (.acquire r operationId) states).1 := by
  by_cases haccepted : TextCall.Accepted cs (.acquire r operationId)
  · obtain ⟨s, hs, hsr, hse, -⟩ := h.state r haccepted.1
    obtain ⟨s', token, hacquire⟩ :=
      exists_acquireAuthority s ((isBlank_code operationId).trans haccepted.2)
    obtain ⟨-, -, hs'⟩ := acquireAuthority_eq_ok.1 hacquire
    obtain ⟨hr', he', ho', -⟩ := FencedState.create_eq_ok.1 hs'
    have hmodel : textModel.perform (.acquire r operationId) states =
        (Function.update states r.code (.ok s'), .ok (.token token)) := by
      simp only [textModel, modelMachine, TextCall.code,
        FencedStates.acquire_of_ok hs hacquire]
      rfl
    have hheld : holders r (cs ++ [.acquire r operationId]) = holders r cs ++ [operationId] := by
      rw [holders_concat]
      simp [holders, haccepted.1, haccepted.2]
    rw [hmodel]
    refine ⟨iff_of_true ⟨_, rfl⟩ haccepted, h.update haccepted.1 (hr'.trans hsr) ?_ ?_ ?_⟩
    · rw [hheld, he', hse]
      simp
    · rw [hheld, ho']
      simp
    · intro r' hne
      rw [holders_concat]
      simp [holders, Ne.symm hne]
  · have herror : ∃ e, textModel.perform (.acquire r operationId) states = (states, .error e) := by
      obtain ⟨e, he⟩ : ∃ e, (states.acquire r.code operationId.code).2 = .error e := by
        refine exists_error_of_ne_ok fun token htoken => haccepted ?_
        obtain ⟨s, hs, hbody⟩ := bind_eq_ok.1 (transaction_eq_ok.1 htoken)
        obtain ⟨⟨s', token'⟩, hacquire, -⟩ := bind_eq_ok.1 hbody
        refine ⟨?_, by rw [← isBlank_code]; exact (acquireAuthority_eq_ok.1 hacquire).1⟩
        by_contra hblank
        obtain ⟨e, he⟩ := h.blank r (by simpa using hblank)
        rw [he] at hs
        cases hs
      have hsame : (states.acquire r.code operationId.code).1 = states := transaction_rollback he
      exact ⟨e, by simp only [textModel, modelMachine, TextCall.code, he, hsame]; rfl⟩
    obtain ⟨e, he⟩ := herror
    rw [he]
    exact ⟨iff_of_false (by simp) haccepted, h.refused (holders_of_not_accepted haccepted)⟩

theorem Holds.write (h : Holds cs states) (token : TextToken) (value : PyText) :
    ((∃ reply, (textModel.perform (.write token value) states).2 = .ok reply) ↔
        TextCall.Accepted cs (.write token value)) ∧
      Holds (cs ++ [.write token value]) (textModel.perform (.write token value) states).1 := by
  have hnone : ∀ r, holders r [.write token value] = [] := fun r => rfl
  have hconcat : ∀ r, holders r (cs ++ [.write token value]) = holders r cs := fun r => by
    rw [holders_concat, hnone, List.append_nil]
  obtain ⟨s, hs, hsr, hse, hso⟩ := h.state token.resource token.resource_nonblank
  -- the state's operation is the token's exactly if the last acquisition is
  have hholder : some token.operationId.code = s.operationId ↔
      (holders token.resource cs).getLast? = some token.operationId := by
    rw [hso, ← Option.map_some, (Option.map_injective code_injective).eq_iff, eq_comm]
  by_cases haccepted : TextCall.Accepted cs (.write token value)
  · have hresource : token.code.resource = s.resource := hsr.symm
    obtain ⟨s', hs'⟩ := exists_fencedWrite hresource
      (haccepted.2.trans hse.symm) (hholder.2 haccepted.1) value.code
    obtain ⟨hr', he', ho', -⟩ := FencedState.create_eq_ok.1 (fencedWrite_eq_ok.1 hs').2.2.2
    have hmodel : textModel.perform (.write token value) states =
        (Function.update states token.resource.code (.ok s'), .ok .written) := by
      simp only [textModel, modelMachine, TextCall.code,
        FencedStates.write_of_ok hs hs']
      rfl
    rw [hmodel]
    exact ⟨iff_of_true ⟨_, rfl⟩ haccepted, h.update token.resource_nonblank (hr'.trans hsr)
      (by rw [hconcat, he', hse]) (by rw [hconcat, ho', hso]) fun r' _ => hconcat r'⟩
  · obtain ⟨e, he⟩ : ∃ e, (states.write token.code value.code).2 = .error e := by
      refine exists_error_of_ne_ok fun u hu => haccepted ?_
      obtain ⟨s₁, hs₁, hbody⟩ := bind_eq_ok.1 (transaction_eq_ok.1 hu)
      obtain rfl := Except.ok.inj (hs.symm.trans hs₁)
      obtain ⟨s', hs', -⟩ := bind_eq_ok.1 hbody
      obtain ⟨-, hepoch, hoperation, -⟩ := fencedWrite_eq_ok.1 hs'
      exact ⟨hholder.1 hoperation, hepoch.trans hse⟩
    have hsame : (states.write token.code value.code).1 = states := transaction_rollback he
    have hmodel : textModel.perform (.write token value) states = (states, .error e) := by
      simp only [textModel, modelMachine, TextCall.code, he, hsame]
      rfl
    rw [hmodel]
    exact ⟨iff_of_false (by simp) haccepted, h.refused hnone⟩

theorem Holds.step (h : Holds cs states) (c : TextCall) :
    ((∃ reply, (textModel.perform c states).2 = .ok reply) ↔ c.Accepted cs) ∧
      Holds (cs ++ [c]) (textModel.perform c states).1 := by
  cases c with
  | acquire resource operationId => exact h.acquire resource operationId
  | write token value => exact h.write token value

end model

theorem holds_after (cs : List TextCall) : Holds cs (textModel.after .initial cs) := by
  induction cs using List.reverseRecOn with
  | nil => exact holds_initial
  | append_singleton cs c ih =>
    rw [Machine.after_concat]
    exact (ih.step c).2

/-! ## The refinement -/

/-- Every call succeeds in the store just when it succeeds in the model, with tokens for the same
resource, operation and epoch, and after every prefix the two have the same state of `r`. -/
structure Refines (g : Generation) (cs : List TextCall) (r : PyText) : Prop where
  replies : List.Forall₂ (fun x y => x.1 = y.1 ∧ Agree x.2 y.2)
    ((textMachine g).history (.created g) cs) (textModel.history .initial cs)
  states : ∀ pre, pre <+: cs →
    stateText r ((textMachine g).after (.created g) pre) = textModel.after .initial pre r.code

/-- A call without surrogates, or one that the model does not take, keeps the relation. -/
theorem text_simulates {g : Generation} {db : FencingDb} {states : FencedStates} {c : TextCall}
    (h : Represents g db states) (hc : c.code.Carries g)
    (hencodes : (∃ reply, (textModel.perform c states).2 = .ok reply) → c.Encodes) :
    Represents g ((textMachine g).perform c db).1 (textModel.perform c states).1 ∧
      Agree ((textMachine g).perform c db).2 (textModel.perform c states).2 := by
  by_cases hc' : c.Encodes
  · rw [perform_of_encodes hc']
    exact store_simulates g c.code db states hc h
  · obtain ⟨e, he⟩ := perform_of_not_encodes hc' g db
    obtain ⟨d, hd⟩ := exists_error_of_ne_ok (x := (textModel.perform c states).2) fun reply hr =>
      hc' (hencodes ⟨reply, hr⟩)
    have hsame : (textModel.perform c states).1 = states := by
      cases c with
      | acquire resource operationId => exact transaction_rollback (map_eq_error.1 hd)
      | write token value => exact transaction_rollback (map_eq_error.1 hd)
    rw [he, hd, hsame]
    exact ⟨h, trivial⟩

/-- At a database with one generation, over any sequence of calls whose tokens carry that
generation, the store does what the model does, and has its states of `r`, if and only if `r` and
the texts of every call that the model takes are without surrogates. -/
theorem store_refines_model_iff (g : Generation) (cs : List TextCall)
    (hcs : ∀ c ∈ cs, c.code.Carries g) (r : PyText) :
    Refines g cs r ↔
      r.Encodes ∧ EachAfter (fun before c => c.Accepted before → c.Encodes) [] cs := by
  constructor
  · rintro ⟨hreplies, hstates⟩
    refine ⟨?_, fun pre c post hsplit haccepted => ?_⟩
    · by_contra hr
      have hstate := hstates [] List.nil_prefix
      have hbind : bindTexts [r.code] = .error surrogatesNotAllowed :=
        bindTexts_of_not List.mem_cons_self (by simpa using hr)
      rw [stateText, hbind, error_bind, Machine.after_nil, FencedStates.initial,
        FencedState.create] at hstate
      split_ifs at hstate
      · cases hstate
      · cases hstate
    · by_contra hc
      obtain ⟨reply, hreply⟩ := ((holds_after pre).step c).1.2 haccepted
      obtain ⟨e, he⟩ := perform_of_not_encodes hc g ((textMachine g).after (.created g) pre)
      have hagree := (Machine.forall₂_history (Q := fun _ => Agree)).1 hreplies pre c post hsplit
      rw [he, hreply] at hagree
      rcases reply with _ | _ | _ | _ <;> exact hagree
  · rintro ⟨hr, hall⟩
    have hstep : ∀ pre c post, cs = pre ++ c :: post →
        Represents g ((textMachine g).after (.created g) pre) (textModel.after .initial pre) →
        Represents g ((textMachine g).perform c ((textMachine g).after (.created g) pre)).1
            (textModel.perform c (textModel.after .initial pre)).1 ∧
          Agree ((textMachine g).perform c ((textMachine g).after (.created g) pre)).2
            (textModel.perform c (textModel.after .initial pre)).2 := by
      intro pre c post hsplit hrep
      refine text_simulates hrep (hcs c (by simp [hsplit])) fun hreply => ?_
      exact hall pre c post hsplit (((holds_after pre).step c).1.1 hreply)
    have hrep : ∀ pre, pre <+: cs →
        Represents g ((textMachine g).after (.created g) pre) (textModel.after .initial pre) := by
      intro pre
      induction pre using List.reverseRecOn with
      | nil => exact fun _ => represents_created g
      | append_singleton pre c ih =>
        rintro ⟨post, hsplit⟩
        have hsplit' : cs = pre ++ c :: post := by rw [← hsplit, List.append_assoc]; rfl
        rw [Machine.after_concat, Machine.after_concat]
        exact (hstep pre c post hsplit' (ih ⟨c :: post, hsplit'.symm⟩)).1
    refine ⟨Machine.forall₂_history.2 fun pre c post hsplit =>
      (hstep pre c post hsplit (hrep pre ⟨c :: post, hsplit.symm⟩)).2, fun pre hpre => ?_⟩
    rw [stateText_of_encodes hr]
    exact (hrep pre hpre).state r.code

/-- A generation. -/
def sampleGeneration : Generation :=
  ⟨"6e1d", by decide⟩

/-- A token for the first operation at a resource of the sample database. -/
def sampleToken (resource : String) (epoch : Nat) (hr : (scalars resource).blank = false)
    (he : 0 < epoch) : TextToken where
  resource := scalars resource
  operationId := scalars "op-1"
  epoch := epoch
  storeGeneration := some (scalars "6e1d")
  resource_nonblank := hr
  operationId_nonblank := by decide
  epoch_pos := by exact_mod_cast he
  storeGeneration_nonblank := by
    rintro g ⟨⟩
    decide

/-- A run with an acquisition, a write with the token it issues, one of a surrogate with a
token of another epoch, and one with the token of a resource that was never acquired. -/
theorem store_refines_model_iff_sample :
    Refines sampleGeneration
      [.acquire (scalars "repo") (scalars "op-1"),
        .write (sampleToken "repo" 1 (by decide) (by decide)) (scalars "a"),
        .write (sampleToken "repo" 2 (by decide) (by decide)) [.surrogate 0],
        .write (sampleToken "docs" 1 (by decide) (by decide)) (scalars "c")] (scalars "repo") := by
  refine (store_refines_model_iff sampleGeneration _ ?_ _).2 ⟨by decide, ?_⟩
  · simp only [List.forall_mem_cons]
    decide
  · simp only [eachAfter_cons, eachAfter_nil]
    decide

/-- The model issues a token for a resource that is a lone surrogate, and the store raises. -/
theorem surrogateResource_raises :
    (∃ token, (textModel.perform (.acquire [.surrogate 0] (scalars "op-1")) .initial).2 =
        .ok (.token token)) ∧
      ((textMachine sampleGeneration).perform (.acquire [.surrogate 0] (scalars "op-1"))
        (.created sampleGeneration)).2 = .error surrogatesNotAllowed ∧
      ¬∀ g cs, (∀ c ∈ cs, c.code.Carries g) → ∀ r, Refines g cs r := by
  obtain ⟨reply, hreply⟩ := (holds_initial.step (.acquire [.surrogate 0] (scalars "op-1"))).1.2
    (by decide)
  obtain ⟨token, htoken, -⟩ := map_eq_ok.1 hreply
  have hmodel : (textModel.perform (.acquire [.surrogate 0] (scalars "op-1")) .initial).2 =
      .ok (.token token) := map_eq_ok.2 ⟨token, htoken, rfl⟩
  have hstore : ((textMachine sampleGeneration).perform (.acquire [.surrogate 0] (scalars "op-1"))
      (.created sampleGeneration)).2 = .error surrogatesNotAllowed := by decide
  refine ⟨⟨token, hmodel⟩, hstore, fun h => ?_⟩
  have hrefines := h sampleGeneration [.acquire [.surrogate 0] (scalars "op-1")]
    (List.forall_mem_singleton.2 trivial) (scalars "repo")
  have hagree := (Machine.forall₂_history (Q := fun _ => Agree)).1 hrefines.replies [] _ [] rfl
  rw [Machine.after_nil, Machine.after_nil, hstore, hmodel] at hagree
  exact hagree

end PersistentFencingStore

end ReliabilityLab
