import ReliabilityLab.Fold
import ReliabilityLab.Occurrences
import ReliabilityLab.Python

/-!
# Effect replay

`effects.py` : tool side effects replayed in memory, in the `idempotent` mode with a
ledger of the operation ids seen so far. `EffectLoop` is the variables of the loop and
`effectStep` its body.

After the requests `pre` the ledger binds each operation id to the effect of all its
requests, the applied requests are the first of their ids and the duplicates the others
(`Applies`). So the loop raises just when two requests of one id differ
(`foldlM_effectStep_iff`), and a retransmission changes nothing that is applied.
-/

open Serial Keyed

namespace ReliabilityLab

namespace Effects

/-- Whether a replay applies every request, or each operation once. -/
inductive ReplayMode where
  | naive
  | idempotent
  deriving DecidableEq, Repr

/-- One replayable side-effect request emitted by a coding-agent runtime. -/
structure EffectRequest where
  sequence : Int
  operationId : String
  tool : String
  payload : String
  deriving DecidableEq, Repr

/-- The effect a request asks for. -/
def EffectRequest.identity (request : EffectRequest) : String × String :=
  (request.tool, request.payload)

/-- Deterministic projection of side effects applied during replay. -/
structure EffectReplayResult where
  mode : ReplayMode
  applied : List EffectRequest
  duplicates : List EffectRequest
  deriving DecidableEq, Repr

/-! ## The replay -/

/-- The sequence numbers of the requests increase. -/
def validateOrder (requests : List EffectRequest) : Except Raised Unit :=
  raiseIf (OutOfOrder (requests.map EffectRequest.sequence))
    ⟨.valueError, "effect requests must have unique monotonically increasing sequence numbers"⟩

/-- The variables of the loop. -/
structure EffectLoop where
  applied : List EffectRequest
  duplicates : List EffectRequest
  ledger : Dict String (String × String)

/-- The loop before the first request. -/
def EffectLoop.start : EffectLoop :=
  ⟨[], [], .empty⟩

/-- One request. -/
def effectStep (mode : ReplayMode) (loop : EffectLoop) (request : EffectRequest) :
    Except Raised EffectLoop :=
  match mode with
  | .naive => .ok { loop with applied := loop.applied ++ [request] }
  | .idempotent =>
    match loop.ledger.get? request.operationId with
    | none =>
      .ok { loop with
        ledger := loop.ledger.set request.operationId request.identity
        applied := loop.applied ++ [request] }
    | some previous => do
      raiseIf (previous ≠ request.identity)
        ⟨.idempotencyConflict,
          "operation_id was reused for a different tool effect: " ++ request.operationId⟩
      .ok { loop with duplicates := loop.duplicates ++ [request] }

/-- Replay tool side effects with or without an idempotency ledger. -/
def replayEffects (requests : List EffectRequest) (mode : ReplayMode := .idempotent) :
    Except Raised EffectReplayResult := do
  validateOrder requests
  let loop ← requests.foldlM (effectStep mode) .start
  .ok ⟨mode, loop.applied, loop.duplicates⟩

/-- On ordered requests the replay is the fold. -/
theorem replayEffects_of_ordered {requests : List EffectRequest}
    (hseq : (requests.map EffectRequest.sequence).Pairwise (· < ·)) (mode : ReplayMode) :
    replayEffects requests mode = (fun loop => ⟨mode, loop.applied, loop.duplicates⟩) <$>
      requests.foldlM (effectStep mode) .start := by
  unfold replayEffects validateOrder
  rw [raiseIf_neg (not_outOfOrder.2 hseq), ok_bind]
  rcases requests.foldlM (effectStep mode) .start with e | loop <;> rfl

/-! ## The loop -/

/-- The loop after the requests `pre`. -/
structure Applies (pre : List EffectRequest) (loop : EffectLoop) : Prop where
  ledger : loop.ledger.Binds EffectRequest.operationId EffectRequest.identity pre
  applied : loop.applied = firstOccurrences EffectRequest.operationId pre
  duplicates : loop.duplicates = laterOccurrences EffectRequest.operationId pre

theorem applies_start : Applies [] .start :=
  ⟨Dict.binds_empty, rfl, rfl⟩

/-- A request whose id is new is applied. -/
theorem effectStep_of_none {loop : EffectLoop} {request : EffectRequest}
    (h : loop.ledger.get? request.operationId = none) :
    effectStep .idempotent loop request = .ok { loop with
      ledger := loop.ledger.set request.operationId request.identity
      applied := loop.applied ++ [request] } := by
  simp [effectStep, h]

/-- A request whose id is known is a duplicate, or a conflict. -/
theorem effectStep_of_some {loop : EffectLoop} {request : EffectRequest}
    {previous : String × String} (h : loop.ledger.get? request.operationId = some previous) :
    effectStep .idempotent loop request =
      if previous = request.identity then
        .ok { loop with duplicates := loop.duplicates ++ [request] }
      else .error ⟨.idempotencyConflict,
        "operation_id was reused for a different tool effect: " ++ request.operationId⟩ := by
  simp only [effectStep, h]
  split_ifs with heq
  · rw [raiseIf_neg (not_not.2 heq), ok_bind]
  · rw [raiseIf_pos heq, error_bind]

theorem Applies.step {pre : List EffectRequest} {loop loop' : EffectLoop}
    {request : EffectRequest} (h : Applies pre loop)
    (hstep : effectStep .idempotent loop request = .ok loop') :
    Applies (pre ++ [request]) loop' := by
  have hkey : request.operationId ∈ pre.map EffectRequest.operationId ↔
      loop.ledger.get? request.operationId ≠ none := by
    rw [ne_eq, h.ledger.absent]
    simp
  rcases hget : loop.ledger.get? request.operationId with _ | previous
  · rw [effectStep_of_none hget] at hstep
    cases hstep
    rw [hget] at hkey
    refine ⟨h.ledger.set hget, ?_, ?_⟩
    · rw [firstOccurrences_concat, if_neg (by simp [hkey]), h.applied]
    · rw [laterOccurrences_concat, if_neg (by simp [hkey]), h.duplicates]
  · rw [effectStep_of_some hget] at hstep
    rw [hget] at hkey
    split_ifs at hstep with heq
    cases hstep
    refine ⟨h.ledger.concat (by rw [hget, heq]), ?_, ?_⟩
    · rw [firstOccurrences_concat, if_pos (hkey.2 (by simp)), h.applied]
    · rw [laterOccurrences_concat, if_pos (hkey.2 (by simp)), h.duplicates]

theorem applies_foldlM {requests : List EffectRequest} {loop : EffectLoop}
    (h : requests.foldlM (effectStep .idempotent) .start = .ok loop) : Applies requests loop :=
  foldlM_invariant applies_start (fun _ _ _ _ hs ht => hs.step ht) h

/-- A request passes just when the requests of its id ask for the same effect. -/
theorem Applies.passes {pre : List EffectRequest} {loop : EffectLoop} {request : EffectRequest}
    (h : Applies pre loop) :
    (∃ loop', effectStep .idempotent loop request = .ok loop') ↔
      ∀ r ∈ pre, r.operationId = request.operationId → r.identity = request.identity := by
  rcases hget : loop.ledger.get? request.operationId with _ | previous
  · rw [effectStep_of_none hget]
    exact iff_of_true ⟨_, rfl⟩ fun r hr hop => absurd hop ((h.ledger.absent _).1 hget r hr)
  · rw [effectStep_of_some hget]
    split_ifs with heq
    · refine iff_of_true ⟨_, rfl⟩ ?_
      exact (h.ledger.get?_eq.1 (by rw [hget, heq])).2
    · refine iff_of_false (by simp) fun hsame => heq ?_
      have hold : ∃ r ∈ pre, r.operationId = request.operationId := by
        by_contra hnone
        push Not at hnone
        rw [(h.ledger.absent _).2 hnone] at hget
        cases hget
      have := h.ledger.get?_eq.2 ⟨hold, hsame⟩
      rw [hget] at this
      exact Option.some.inj this

/-- No two requests of one id ask for different effects. -/
def ConflictFree (requests : List EffectRequest) : Prop :=
  ∀ a ∈ requests, ∀ b ∈ requests, a.operationId = b.operationId → a.identity = b.identity

theorem conflictFree_concat {requests : List EffectRequest} {request : EffectRequest} :
    ConflictFree (requests ++ [request]) ↔ ConflictFree requests ∧
      ∀ r ∈ requests, r.operationId = request.operationId → r.identity = request.identity := by
  constructor
  · intro h
    exact ⟨fun a ha b hb => h a (List.mem_append_left _ ha) b (List.mem_append_left _ hb),
      fun r hr => h r (List.mem_append_left _ hr) request (by simp)⟩
  · rintro ⟨h, hrequest⟩
    exact forall_mem_concat₂ (R := fun a b : EffectRequest => a.operationId = b.operationId →
      a.identity = b.identity) h (fun a b hab hop => (hab hop.symm).symm) hrequest fun _ => rfl

theorem foldlM_effectStep_iff {requests : List EffectRequest} :
    (∃ loop, requests.foldlM (effectStep .idempotent) .start = .ok loop) ↔
      ConflictFree requests := by
  induction requests using List.reverseRecOn with
  | nil => exact iff_of_true ⟨_, rfl⟩ fun a ha => by simp at ha
  | append_singleton requests request ih =>
    rw [conflictFree_concat, ← ih, foldlM_concat]
    simp only [bind_eq_ok]
    constructor
    · rintro ⟨loop', loop, hloop, hstep⟩
      exact ⟨⟨loop, hloop⟩, (applies_foldlM hloop).passes.1 ⟨loop', hstep⟩⟩
    · rintro ⟨⟨loop, hloop⟩, hsame⟩
      obtain ⟨loop', hstep⟩ := (applies_foldlM hloop).passes.2 hsame
      exact ⟨loop', loop, hloop, hstep⟩

/-- The loop raises nothing but conflicts. -/
theorem error_of_foldlM {requests : List EffectRequest} {loop : EffectLoop} {e : Raised}
    (h : requests.foldlM (effectStep .idempotent) loop = .error e) :
    e.error = .idempotencyConflict := by
  obtain ⟨loop', request, -, hstep⟩ := exists_step_of_foldlM_error h
  rcases hget : loop'.ledger.get? request.operationId with _ | previous
  · rw [effectStep_of_none hget] at hstep
    cases hstep
  · rw [effectStep_of_some hget] at hstep
    split_ifs at hstep
    cases hstep
    rfl

/-! ## The results -/

theorem replayEffects_of_conflictFree {requests : List EffectRequest}
    (hseq : (requests.map EffectRequest.sequence).Pairwise (· < ·)) (h : ConflictFree requests) :
    replayEffects requests = .ok ⟨.idempotent,
      firstOccurrences EffectRequest.operationId requests,
      laterOccurrences EffectRequest.operationId requests⟩ := by
  obtain ⟨loop, hloop⟩ := foldlM_effectStep_iff.2 h
  rw [replayEffects_of_ordered hseq, hloop, ← (applies_foldlM hloop).applied,
    ← (applies_foldlM hloop).duplicates]
  rfl

theorem replayEffects_conflict_iff {requests : List EffectRequest}
    (hseq : (requests.map EffectRequest.sequence).Pairwise (· < ·)) :
    (∃ message, replayEffects requests = .error ⟨.idempotencyConflict, message⟩) ↔
      ¬ConflictFree requests := by
  rw [replayEffects_of_ordered hseq]
  simp only [map_eq_error]
  constructor
  · rintro ⟨message, herror⟩ h
    obtain ⟨loop, hloop⟩ := foldlM_effectStep_iff.2 h
    rw [hloop] at herror
    cases herror
  · intro h
    have hne : ∀ loop, requests.foldlM (effectStep .idempotent) .start ≠ .ok loop :=
      fun loop hloop => h (foldlM_effectStep_iff.1 ⟨loop, hloop⟩)
    obtain ⟨⟨error, message⟩, herror⟩ := exists_error_of_ne_ok hne
    obtain rfl : error = .idempotencyConflict := error_of_foldlM herror
    exact ⟨message, herror⟩

/-- What a request is about, without its sequence number. -/
def EffectRequest.content (request : EffectRequest) : String × String × String :=
  (request.operationId, request.tool, request.payload)

/-- Whether two requests conflict is told by what they are about. -/
theorem conflictFree_iff_content {requests : List EffectRequest} :
    ConflictFree requests ↔ ∀ a ∈ requests.map EffectRequest.content,
      ∀ b ∈ requests.map EffectRequest.content, a.1 = b.1 → a.2 = b.2 := by
  simp only [ConflictFree, List.forall_mem_map]
  rfl

/-- For requests in order : the replay raises an `IdempotencyConflict` just when two of
them share the operation id and differ in tool or payload. Otherwise the first request of
every id is applied and the others are duplicates, both in order, and each request is one
or the other. And for requests in order that are about the same with retransmissions of
requests inserted after them, the applied effects are the same. -/
theorem replayEffects_exact (requests : List EffectRequest)
    (hseq : (requests.map EffectRequest.sequence).Pairwise (· < ·)) :
    ((∃ message, replayEffects requests = .error ⟨.idempotencyConflict, message⟩) ↔
        ∃ a ∈ requests, ∃ b ∈ requests, a.operationId = b.operationId ∧
          (a.tool ≠ b.tool ∨ a.payload ≠ b.payload)) ∧
      ((∀ a ∈ requests, ∀ b ∈ requests, a.operationId = b.operationId →
          a.tool = b.tool ∧ a.payload = b.payload) →
        ∃ applied duplicates, replayEffects requests = .ok ⟨.idempotent, applied, duplicates⟩ ∧
          applied = firstOccurrences EffectRequest.operationId requests ∧
          duplicates = laterOccurrences EffectRequest.operationId requests ∧
          (applied ++ duplicates).Perm requests ∧ (applied ++ duplicates).Nodup ∧
          ∀ retried : List EffectRequest,
            (retried.map EffectRequest.sequence).Pairwise (· < ·) →
            Retransmits (requests.map EffectRequest.content)
              (retried.map EffectRequest.content) →
            ∃ result, replayEffects retried = .ok result ∧
              result.applied.map EffectRequest.content =
                applied.map EffectRequest.content) := by
  refine ⟨?_, fun h => ?_⟩
  · rw [replayEffects_conflict_iff hseq]
    simp only [ConflictFree, EffectRequest.identity, Prod.mk.injEq, not_forall, exists_prop,
      not_and_or, ne_eq]
  · have hfree : ConflictFree requests := fun a ha b hb hop => Prod.ext_iff.2 (h a ha b hb hop)
    have hperm := occurrences_perm EffectRequest.operationId requests
    refine ⟨_, _, replayEffects_of_conflictFree hseq hfree, rfl, rfl, hperm,
      hperm.nodup_iff.2 (List.Nodup.of_map _ (hseq.imp ne_of_lt)), fun retried hretried hr => ?_⟩
    have hfree' : ConflictFree retried := by
      rw [conflictFree_iff_content] at hfree ⊢
      exact fun a ha b hb => hfree a (hr.mem_iff.1 ha) b (hr.mem_iff.1 hb)
    refine ⟨_, replayEffects_of_conflictFree hretried hfree', ?_⟩
    have hmap := fun rs : List EffectRequest =>
      map_firstOccurrences EffectRequest.content Prod.fst rs
    exact (hmap retried).trans ((hr.firstOccurrences_eq Prod.fst).trans (hmap requests).symm)

/-- Two operations, the first of them sent again. -/
theorem replayEffects_exact_sample :
    let requests : List EffectRequest :=
      [⟨1, "op-1", "git", "push"⟩, ⟨2, "op-2", "git", "tag"⟩, ⟨3, "op-1", "git", "push"⟩]
    ((∃ message, replayEffects requests = .error ⟨.idempotencyConflict, message⟩) ↔
        ∃ a ∈ requests, ∃ b ∈ requests, a.operationId = b.operationId ∧
          (a.tool ≠ b.tool ∨ a.payload ≠ b.payload)) ∧
      ((∀ a ∈ requests, ∀ b ∈ requests, a.operationId = b.operationId →
          a.tool = b.tool ∧ a.payload = b.payload) →
        ∃ applied duplicates, replayEffects requests = .ok ⟨.idempotent, applied, duplicates⟩ ∧
          applied = firstOccurrences EffectRequest.operationId requests ∧
          duplicates = laterOccurrences EffectRequest.operationId requests ∧
          (applied ++ duplicates).Perm requests ∧ (applied ++ duplicates).Nodup ∧
          ∀ retried : List EffectRequest,
            (retried.map EffectRequest.sequence).Pairwise (· < ·) →
            Retransmits (requests.map EffectRequest.content)
              (retried.map EffectRequest.content) →
            ∃ result, replayEffects retried = .ok result ∧
              result.applied.map EffectRequest.content =
                applied.map EffectRequest.content) :=
  replayEffects_exact _ (by decide)

end Effects

end ReliabilityLab
