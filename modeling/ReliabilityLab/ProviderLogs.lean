import ReliabilityLab.KeyedMachines
import ReliabilityLab.ProviderStore

/-!
# The provider as append-only logs

`VersionedProviderStore` keeps two tables for all providers. A caller that asks about one
provider sees an append-only log : the operations committed on it, oldest first. Its revision
is the length of the log, a snapshot shows the log by operation id, a readback looks for one
operation id in it, and a conditional write is the compare-and-set of
`apply_conditional_retry` on the snapshot, which appends if it succeeds (`logMachine`).

`provider_logs` : in every run, with crashes, the effects stored for a provider and every
reply to a call about it are those of its log, run on the calls about it alone. Calls about
other providers, and calls that were rolled back, leave no trace in them.
-/

set_option linter.unusedSectionVars false

open Serial Keyed

namespace ReliabilityLab

namespace VersionedProviderStore

variable [Hashlib]

/-! ## One provider -/

/-- What a snapshot shows of a log. -/
def logState (log : List ExternalOperation) : VersionedProviderState :=
  ⟨log.length, log.insertionSort fun a b => a.operationId ≤ b.operationId, Int.natCast_nonneg _⟩

/-- A call about one provider. -/
inductive LogCall where
  | snapshot
  | read (operation : ExternalOperation)
  | conditionalApply (operation : ExternalOperation) (decision : ReconciliationDecision)

/-- The committed operations of `provider`, oldest first. -/
def logMachine (provider : String) :
    Machine (List ExternalOperation) LogCall (Except Raised ProviderReply) where
  perform
    | .snapshot, log =>
      (log, if isBlank provider then .error ⟨.valueError, "provider must be a nonempty string"⟩
        else .ok (.state (logState log)))
    | .read operation, log =>
      (log, .evidence <$> readback operation (logState log)
        (log.find? fun e => e.operationId = operation.operationId))
    | .conditionalApply operation decision, log =>
      match applyConditionalRetry operation decision (logState log) with
      | .ok updated => (log ++ [operation], .ok (.state updated))
      | .error e => (log, .error e)

/-- The provider a call is about. -/
def toProvider : ProviderCall → Option (String × LogCall)
  | .reopen => none
  | .snapshot provider => some (provider, .snapshot)
  | .read operation => some (operation.provider, .read operation)
  | .conditionalApply operation decision =>
    some (operation.provider, .conditionalApply operation decision)

/-! ## The store serves the logs -/

theorem WellFormed.state {db : ProviderDb} (h : WellFormed db) (p : String) :
    db.state p = logState (db.effectsOf p) :=
  VersionedProviderState.ext (h p) rfl

/-- A key of `provider_effects` is an operation id among the effects of its provider. -/
theorem find?_effects (db : ProviderDb) (operation : ExternalOperation) :
    db.effects.find? operation.identity = (db.effectsOf operation.provider).find? fun e =>
      e.operationId = operation.operationId := by
  unfold ProviderDb.effectsOf Table.select Table.find?
  rw [List.find?_filter]
  congr 1
  funext e
  simp [ExternalOperation.identity, Bool.decide_and]

theorem provider_serves :
    providerMachine.Serves logMachine toProvider id WellFormed ProviderDb.effectsOf where
  keeps := wellFormed_preserved
  step {c db p d} hdb hc := by
    cases c with
    | reopen => cases hc
    | snapshot provider =>
      obtain ⟨rfl, rfl⟩ := Prod.mk.inj (Option.some.inj hc)
      rcases snapshot_cases provider db with ⟨h, hp⟩ | ⟨h, hp⟩ <;>
        simp only [providerMachine, logMachine, h, hp]
      · exact ⟨trivial, rfl⟩
      · exact ⟨rfl, by rw [hdb.state]; rfl⟩
    | read operation =>
      obtain ⟨rfl, rfl⟩ := Prod.mk.inj (Option.some.inj hc)
      simp only [providerMachine, logMachine, read_eq]
      exact ⟨rfl, by rw [hdb.state, find?_effects]; rfl⟩
    | conditionalApply operation decision =>
      obtain ⟨rfl, rfl⟩ := Prod.mk.inj (Option.some.inj hc)
      rcases conditionalApply_cases operation decision db with
        ⟨e, happ, h⟩ | ⟨updated, db', h, hcom⟩
      · rw [hdb.state] at happ
        simp only [providerMachine, logMachine, h, happ]
        exact ⟨trivial, rfl⟩
      · have happ := applyConditionalRetry_eq_ok.2 ⟨hcom.authorizes, fun x hx hid =>
          Table.find?_eq_none_iff.1 hcom.absent x (ProviderDb.mem_orderedEffects.1 hx).1 hid,
          hcom.updated⟩
        rw [hdb.state] at happ
        simp only [providerMachine, logMachine, h, happ]
        exact ⟨(hcom.effectsOf _).trans (if_pos rfl), rfl⟩
  frame {c db p} _ hc := by
    rcases perform_cases c db with ⟨operation, decision, updated, rfl, -, hcom⟩ | ⟨hsame, -⟩
    · refine (hcom.effectsOf p).trans (if_neg ?_)
      rintro rfl
      exact hc _ rfl
    · exact hsame.effectsOf p

/-- In every run the effects stored for a provider, and the replies to the calls about it,
are those of its log on the calls about it that were not rolled back. -/
theorem provider_logs (cs : List (ProviderCall × Machine.Fate)) (p : String) :
    (providerMachine.crashing.after .empty cs).effectsOf p =
        (logMachine p).after [] (Machine.callsTo (Machine.Serves.crashKey toProvider) p cs) ∧
      Machine.repliesTo (Machine.Serves.crashKey toProvider) p
          (providerMachine.crashing.history .empty cs) =
        ((logMachine p).history []
          (Machine.callsTo (Machine.Serves.crashKey toProvider) p cs)).map
            fun e => (e.1, some e.2) :=
  ⟨provider_serves.crashing.view_after wellFormed_empty cs p,
    provider_serves.crashing.replies_history wellFormed_empty cs p⟩

end VersionedProviderStore

end ReliabilityLab
