import ReliabilityLab.FencingSafety

/-!
# Replaced fencing stores

The database behind a path may be replaced by a freshly initialised one. Its epochs
start again, so a token of the old database may have the resource, the operation and
the epoch of a row of the new one; what tells them apart is the generation each
initialisation draws.

`drawn` is the generations drawn along a run, and `sinceReplacement` the steps since the
last one was drawn. `Replacements` says that the last one is the database's, that the
steps since keep the ledger of `FencingSafety`, and that every handle and every token of
the run carries a generation drawn by then. Every step keeps it, if no generation is
drawn twice (`Fresh`), and `replacement_fences` follows.
-/

set_option linter.unusedSectionVars false

open Serial Keyed

namespace ReliabilityLab

namespace PersistentFencingStore

/-! ## The machine -/

/-- A call at the store, or its replacement by a database that draws `fresh`. -/
inductive ReplacedCall where
  | call (call : FencingCall)
  | replace (fresh : Generation)
  deriving DecidableEq

/-- The store whose database may be replaced. Whoever replaces it has opened the new one. -/
def replacedMachine : Machine FencingDb ReplacedCall (Except Raised FencingReply) where
  perform
    | .call c, db => fencingMachine.perform c db
    | .replace fresh, _ =>
      ((openStore fresh ⟨none, .empty⟩).1, .ok (.handle (openStore fresh ⟨none, .empty⟩).2))

theorem perform_call (c : FencingCall) (fate : Machine.Fate) (db : FencingDb) :
    replacedMachine.crashing.perform (.call c, fate) db =
      fencingMachine.crashing.perform (c, fate) db := by
  cases fate <;> rfl

theorem perform_replace (fresh : Generation) {fate : Machine.Fate} (hfate : fate ≠ .rolledBack)
    (db : FencingDb) : replacedMachine.crashing.perform (.replace fresh, fate) db =
      (.created fresh, some (.ok (.handle fresh))) := by
  cases fate
  · rfl
  · rfl
  · exact absurd rfl hfate

/-! ## What the history tells -/

/-- A step of a run, with its reply. -/
abbrev ReplacedEvent := (ReplacedCall × Machine.Fate) × Option (Except Raised FencingReply)

/-- The generation of a replacement that was not rolled back. -/
def drawnBy : ReplacedEvent → Option Generation
  | ((.replace fresh, _), some _) => some fresh
  | _ => none

/-- The generations drawn, that of the first database before those of the history. -/
def drawn (g : Generation) (h : List ReplacedEvent) : List Generation :=
  g :: h.filterMap drawnBy

/-- The steps since the last replacement. -/
def sinceReplacement (h : List ReplacedEvent) : List FencingEvent :=
  h.foldl (fun since e =>
    match e with
    | ((.call c, fate), reply) => since ++ [((c, fate), reply)]
    | ((.replace _, _), some _) => []
    | ((.replace _, _), none) => since) []

/-- `handle` was opened along the history, or when the first database was initialised. -/
def Opened (g : Generation) (h : List ReplacedEvent) (handle : Generation) : Prop :=
  handle = g ∨ ∃ c, (c, some (.ok (.handle handle))) ∈ h

/-- `token` was issued along the history. -/
def Issued (h : List ReplacedEvent) (token : FencingToken) : Prop :=
  ∃ c, (c, some (.ok (.token token))) ∈ h

/-- A replacement draws a generation that was not drawn before. -/
def Fresh (g : Generation) (h : List ReplacedEvent) (c : ReplacedCall × Machine.Fate) : Prop :=
  ∀ fresh, c.1 = .replace fresh → fresh ∉ drawn g h

theorem drawn_concat (g : Generation) (h : List ReplacedEvent) (e : ReplacedEvent) :
    drawn g (h ++ [e]) = drawn g h ++ (drawnBy e).toList := by
  unfold drawn
  rw [List.filterMap_append, List.cons_append]
  rcases he : drawnBy e with _ | fresh <;> simp [he]

theorem sinceReplacement_call (h : List ReplacedEvent) (c : FencingCall) (fate : Machine.Fate)
    (reply : Option (Except Raised FencingReply)) :
    sinceReplacement (h ++ [((.call c, fate), reply)]) =
      sinceReplacement h ++ [((c, fate), reply)] := by
  rw [sinceReplacement, List.foldl_append]
  rfl

theorem sinceReplacement_replace (h : List ReplacedEvent) (fresh : Generation)
    (fate : Machine.Fate) (reply : Option (Except Raised FencingReply)) :
    sinceReplacement (h ++ [((.replace fresh, fate), reply)]) =
      if reply.isSome then [] else sinceReplacement h := by
  rw [sinceReplacement, List.foldl_append]
  cases reply <;> rfl

/-- A step since the last replacement is a step of the history. -/
theorem mem_of_mem_sinceReplacement {h : List ReplacedEvent} {c : FencingCall}
    {fate : Machine.Fate} {reply : Option (Except Raised FencingReply)}
    (hmem : ((c, fate), reply) ∈ sinceReplacement h) : ((.call c, fate), reply) ∈ h := by
  induction h using List.reverseRecOn with
  | nil => simp [sinceReplacement] at hmem
  | append_singleton h e ih =>
    obtain ⟨⟨d | fresh, fate'⟩, reply'⟩ := e
    · rw [sinceReplacement_call, List.mem_append, List.mem_singleton] at hmem
      rcases hmem with hmem | heq
      · exact List.mem_append_left _ (ih hmem)
      · cases heq
        simp
    · rw [sinceReplacement_replace] at hmem
      split_ifs at hmem
      · simp at hmem
      · exact List.mem_append_left _ (ih hmem)

theorem opened_concat {g handle : Generation} {h : List ReplacedEvent} {e : ReplacedEvent} :
    Opened g (h ++ [e]) handle ↔ Opened g h handle ∨ e.2 = some (.ok (.handle handle)) := by
  unfold Opened
  simp only [List.mem_append, List.mem_singleton, exists_or, or_assoc]
  refine or_congr_right (or_congr_right ⟨?_, fun he => ⟨e.1, by rw [← he]⟩⟩)
  rintro ⟨c, rfl⟩
  rfl

theorem issued_concat {token : FencingToken} {h : List ReplacedEvent} {e : ReplacedEvent} :
    Issued (h ++ [e]) token ↔ Issued h token ∨ e.2 = some (.ok (.token token)) := by
  unfold Issued
  simp only [List.mem_append, List.mem_singleton, exists_or]
  refine or_congr_right ⟨?_, fun he => ⟨e.1, by rw [← he]⟩⟩
  rintro ⟨c, rfl⟩
  rfl

/-! ## The steps -/

/-- A handle that a step opens carries the database's generation. -/
theorem handle_of_step {c : FencingCall × Machine.Fate} {db : FencingDb} {g handle : Generation}
    (hg : db.generation = some g)
    (ho : (fencingMachine.crashing.perform c db).2 = some (.ok (.handle handle))) : handle = g := by
  have hreply := (fencingMachine.crashing_eq_some ho).2
  obtain ⟨fresh | ⟨x, resource, operationId⟩ | ⟨token, value⟩ | resource, fate⟩ := c
  · have hopen : openStore fresh db = (db, g) := openStore_of_some fresh hg
    simp only [fencingMachine, hopen, Except.ok.injEq, FencingReply.handle.injEq] at hreply
    exact hreply
  all_goals
    obtain ⟨_, -, hne⟩ := map_eq_ok.1 hreply.symm
    cases hne

/-- A token that a step issues carries the database's generation, and the step is an
acquisition through the handle of that generation. -/
theorem token_of_step {c : FencingCall × Machine.Fate} {db : FencingDb} {g : Generation}
    {token : FencingToken} (hg : db.generation = some g)
    (ho : (fencingMachine.crashing.perform c db).2 = some (.ok (.token token))) :
    token.storeGeneration = some g.text ∧
      ∃ operationId, c.1 = .acquire g token.resource operationId := by
  rcases step_cases c hg with ⟨-, hnone, -⟩ | ⟨handle, operationId, t, hc, hacq, ho'⟩ |
    ⟨_, _, _, -, -, ho'⟩ <;> rw [ho] at *
  · cases hnone
  · cases ho'
    obtain rfl : handle = g := Option.some.inj (hacq.current.symm.trans hg)
    exact ⟨hacq.storeGeneration, operationId, hc⟩
  · cases ho'

/-! ## The invariant -/

/-- The generations, handles and tokens of a run that starts at the generation `g`. -/
structure Replacements (g : Generation) (h : List ReplacedEvent) (db : FencingDb) : Prop where
  nodup : (drawn g h).Nodup
  ledger : ∃ current, (drawn g h).getLast? = some current ∧ Ledger current (sinceReplacement h) db
  handles : ∀ handle, Opened g h handle → handle ∈ drawn g h
  tokens : ∀ token, Issued h token → ∃ x ∈ drawn g h, token.storeGeneration = some x.text

theorem replacements_created (g : Generation) : Replacements g [] (.created g) := by
  refine ⟨List.nodup_singleton g, ⟨g, rfl, .created g⟩, fun handle hopened => ?_,
    fun token hissued => ?_⟩
  · rcases hopened with rfl | ⟨c, hc⟩
    · exact List.mem_singleton_self _
    · simp at hc
  · obtain ⟨c, hc⟩ := hissued
    simp at hc

/-- A call keeps it. -/
theorem Replacements.call {g : Generation} {h : List ReplacedEvent} {db : FencingDb}
    (hr : Replacements g h db) (c : FencingCall) (fate : Machine.Fate) :
    Replacements g (h ++ [((.call c, fate), (fencingMachine.crashing.perform (c, fate) db).2)])
      (fencingMachine.crashing.perform (c, fate) db).1 := by
  obtain ⟨current, hcurrent, hl⟩ := hr.ledger
  have hmem : current ∈ drawn g h := List.mem_of_getLast? hcurrent
  have hdrawn : ∀ reply, drawn g (h ++ [((.call c, fate), reply)]) = drawn g h := fun reply => by
    rw [drawn_concat]
    exact List.append_nil _
  refine ⟨by rw [hdrawn]; exact hr.nodup, ⟨current, by rw [hdrawn, hcurrent], ?_⟩,
    fun handle hopened => ?_, fun token hissued => ?_⟩
  · rw [sinceReplacement_call]
    exact hl.step (c, fate)
  · rw [hdrawn]
    rcases opened_concat.1 hopened with hopened | ho
    · exact hr.handles handle hopened
    · exact handle_of_step hl.generation ho ▸ hmem
  · rw [hdrawn]
    rcases issued_concat.1 hissued with hissued | ho
    · exact hr.tokens token hissued
    · exact ⟨current, hmem, (token_of_step hl.generation ho).1⟩

/-- A replacement that draws a new generation keeps it. -/
theorem Replacements.replace {g fresh : Generation} {h : List ReplacedEvent} {db : FencingDb}
    (hr : Replacements g h db) (hfresh : fresh ∉ drawn g h) (fate : Machine.Fate) :
    Replacements g (h ++ [((.replace fresh, fate), some (.ok (.handle fresh)))])
      (.created fresh) := by
  have hdrawn : drawn g (h ++ [((.replace fresh, fate), some (.ok (.handle fresh)))]) =
      drawn g h ++ [fresh] := drawn_concat _ _ _
  refine ⟨?_, ⟨fresh, by rw [hdrawn, List.getLast?_concat], ?_⟩, fun handle hopened => ?_,
    fun token hissued => ?_⟩
  · rw [hdrawn, List.nodup_append']
    exact ⟨hr.nodup, List.nodup_singleton fresh, by simpa using hfresh⟩
  · rw [sinceReplacement_replace]
    exact .created fresh
  · rw [hdrawn]
    rcases opened_concat.1 hopened with hopened | ho
    · exact List.mem_append_left _ (hr.handles handle hopened)
    · cases ho
      simp
  · rw [hdrawn]
    rcases issued_concat.1 hissued with hissued | ho
    · obtain ⟨x, hx, htoken⟩ := hr.tokens token hissued
      exact ⟨x, List.mem_append_left _ hx, htoken⟩
    · cases ho

/-- A step that changes nothing and has no reply keeps it. -/
theorem Replacements.rolledBack {g : Generation} {h : List ReplacedEvent} {db : FencingDb}
    (hr : Replacements g h db) (fresh : Generation) (fate : Machine.Fate) :
    Replacements g (h ++ [((.replace fresh, fate), none)]) db := by
  have hdrawn : drawn g (h ++ [((.replace fresh, fate), none)]) = drawn g h := by
    rw [drawn_concat]
    exact List.append_nil _
  refine ⟨by rw [hdrawn]; exact hr.nodup, ?_, fun handle hopened => ?_, fun token hissued => ?_⟩
  · rw [hdrawn, sinceReplacement_replace]
    exact hr.ledger
  · rw [hdrawn]
    exact hr.handles handle ((opened_concat.1 hopened).resolve_right (by simp))
  · rw [hdrawn]
    exact hr.tokens token ((issued_concat.1 hissued).resolve_right (by simp))

/-- The invariant along a run in which no generation is drawn twice. -/
theorem replacements_after {g : Generation} {cs : List (ReplacedCall × Machine.Fate)}
    (hcs : replacedMachine.crashing.Guarded (Fresh g) (.created g) cs) :
    Replacements g (replacedMachine.crashing.history (.created g) cs)
      (replacedMachine.crashing.after (.created g) cs) := by
  refine hcs.induction (replacements_created g) fun h db c hr hfresh => ?_
  obtain ⟨c | fresh, fate⟩ := c
  · rw [perform_call]
    exact hr.call c fate
  · by_cases hfate : fate = .rolledBack
    · subst hfate
      exact hr.rolledBack fresh .rolledBack
    · rw [perform_replace fresh hfate]
      exact hr.replace (hfresh fresh rfl) fate

/-! ## Fencing -/

theorem generation_ext {g g' : Generation} (h : g.text = g'.text) : g = g' := by
  cases g
  cases g'
  cases h
  rfl

/-- After a replacement the database's generation is none of those drawn before it. -/
theorem Replacements.current_not_mem {g fresh : Generation} {pre post : List ReplacedEvent}
    {e : ReplacedEvent} {db : FencingDb} (hr : Replacements g (pre ++ e :: post) db)
    (he : drawnBy e = some fresh) :
    ∃ current, db.generation = some current ∧ current ∉ drawn g pre := by
  obtain ⟨current, hcurrent, hl⟩ := hr.ledger
  have hdrawn : drawn g (pre ++ e :: post) = drawn g pre ++ fresh :: post.filterMap drawnBy := by
    simp [drawn, he]
  have hnodup := hr.nodup
  rw [hdrawn] at hcurrent hnodup
  rw [List.getLast?_append_of_ne_nil _ (List.cons_ne_nil _ _)] at hcurrent
  exact ⟨current, hl.generation, fun hmem =>
    (List.nodup_append'.1 hnodup).2.2 hmem (List.mem_of_getLast? hcurrent)⟩

/-- An issued token is the reply of an acquisition of the history. -/
theorem exists_of_mem_issued {h : List FencingEvent} {resource : String} {token : FencingToken}
    (ht : token ∈ issued h resource) : ∃ c, (c, some (.ok (.token token))) ∈ h := by
  obtain ⟨⟨c, reply⟩, hmem, htoken⟩ := List.mem_filterMap.1 (List.mem_filter.1 ht).1
  refine ⟨c, ?_⟩
  rcases reply with _ | _ | _ | _ | _ | _ <;> cases htoken
  exact hmem

/-- A write that commits presents a token that was issued while the database had the
generation it has now. -/
theorem issued_of_written {g : Generation} {cs : List (ReplacedCall × Machine.Fate)}
    (hcs : replacedMachine.crashing.Guarded (Fresh g) (.created g) cs) {token : FencingToken}
    {value : String} {fate : Machine.Fate}
    (hwritten : (replacedMachine.crashing.perform (.call (.write token value), fate)
      (replacedMachine.crashing.after (.created g) cs)).2 = some (.ok .written)) :
    ∃ pre c post handle operationId, cs = pre ++ c :: post ∧
      c.1 = .call (.acquire handle token.resource operationId) ∧
      (replacedMachine.crashing.perform c (replacedMachine.crashing.after (.created g) pre)).2 =
        some (.ok (.token token)) ∧
      (replacedMachine.crashing.after (.created g) pre).generation =
        (replacedMachine.crashing.after (.created g) cs).generation := by
  obtain ⟨current, -, hl⟩ := (replacements_after hcs).ledger
  rw [perform_call] at hwritten
  have hmem : token ∈ issued (sinceReplacement (replacedMachine.crashing.history (.created g) cs))
      token.resource := by
    rcases step_cases (.write token value, fate) hl.generation with
      ⟨-, -, hne⟩ | ⟨_, _, _, hc, -, -⟩ | ⟨_, _, row, hc, hwrite, -⟩
    · exact absurd hwritten hne
    · cases hc
    · cases hc
      exact List.mem_of_getLast? (hl.getLast_of_writes hwrite)
  obtain ⟨⟨c, fate'⟩, hevent⟩ := exists_of_mem_issued hmem
  obtain ⟨pre, post, rfl, ho⟩ :=
    (replacedMachine.crashing.mem_history).1 (mem_of_mem_sinceReplacement hevent)
  obtain ⟨current', -, hl'⟩ := (replacements_after hcs.of_append).ledger
  have hstep := ho.symm
  rw [perform_call] at hstep
  obtain ⟨hgeneration, operationId, hc⟩ := token_of_step hl'.generation hstep
  have hsame : current' = current := generation_ext
    (Option.some.inj (hgeneration.symm.trans (hl.storeGeneration _ token hmem)))
  refine ⟨pre, (.call c, fate'), post, current', operationId, rfl, by rw [← hc], ho.symm, ?_⟩
  rw [hl'.generation, hl.generation, hsame]

/-- Along every run in which the database is replaced any number of times, each time with
a generation never drawn before, and after it : a write that commits presents a token
issued by an acquisition under the generation the database has now; and once the database
was replaced, no handle opened before issues a token, and no token issued before commits
a write. -/
theorem replacement_fences (g : Generation) (cs : List (ReplacedCall × Machine.Fate))
    (hcs : replacedMachine.crashing.Guarded (Fresh g) (.created g) cs) :
    let history := replacedMachine.crashing.history (.created g)
    let after := replacedMachine.crashing.after (.created g)
    let reply := fun c => (replacedMachine.crashing.perform c (after cs)).2
    (∀ token value fate, reply (.call (.write token value), fate) = some (.ok .written) →
        ∃ pre c post handle operationId, cs = pre ++ c :: post ∧
          c.1 = .call (.acquire handle token.resource operationId) ∧
          (replacedMachine.crashing.perform c (after pre)).2 = some (.ok (.token token)) ∧
          (after pre).generation = (after cs).generation) ∧
      ∀ pre fresh fate post, cs = pre ++ (.replace fresh, fate) :: post → fate ≠ .rolledBack →
        (∀ handle, Opened g (history pre) handle → ∀ resource operationId fate token,
          reply (.call (.acquire handle resource operationId), fate) ≠
            some (.ok (.token token))) ∧
        ∀ token, Issued (history pre) token → ∀ value fate,
          reply (.call (.write token value), fate) ≠ some (.ok .written) := by
  intro history after reply
  refine ⟨fun token value fate => issued_of_written hcs, ?_⟩
  rintro pre fresh fate post rfl hfate
  have hr := replacements_after hcs
  have hpre := replacements_after hcs.of_append
  rw [Machine.history_append, Machine.history_cons, perform_replace fresh hfate] at hr
  obtain ⟨current, hcurrent, hnotMem⟩ := hr.current_not_mem rfl
  refine ⟨fun handle hopened resource operationId fate' token ho => ?_,
    fun token hissued value fate' ho => ?_⟩ <;>
    simp only [reply, perform_call] at ho
  · obtain ⟨-, _, hc⟩ := token_of_step hcurrent ho
    cases hc
    exact hnotMem (hpre.handles _ hopened)
  · obtain ⟨x, hx, htoken⟩ := hpre.tokens token hissued
    rcases step_cases (.write token value, fate') hcurrent with
      ⟨-, -, hne⟩ | ⟨_, _, _, hc, -, -⟩ | ⟨_, _, _, hc, hwrite, -⟩
    · exact hne ho
    · cases hc
    · cases hc
      have hgeneration := hwrite.current
      rw [htoken, hcurrent] at hgeneration
      exact hnotMem (generation_ext (Option.some.inj hgeneration) ▸ hx)

/-- A run in which the operation that held the resource acquires it again after a
replacement, with the epoch of its old token. -/
theorem replacement_fences_sample :
    let g : Generation := ⟨"6e1d", by decide⟩
    let g' : Generation := ⟨"90c4", by decide⟩
    let cs : List (ReplacedCall × Machine.Fate) :=
      [(.call (.acquire g "repo" "op-1"), .returned), (.replace g', .returned),
        (.call (.acquire g' "repo" "op-1"), .returned)]
    let history := replacedMachine.crashing.history (.created g)
    let after := replacedMachine.crashing.after (.created g)
    let reply := fun c => (replacedMachine.crashing.perform c (after cs)).2
    (∀ token value fate, reply (.call (.write token value), fate) = some (.ok .written) →
        ∃ pre c post handle operationId, cs = pre ++ c :: post ∧
          c.1 = .call (.acquire handle token.resource operationId) ∧
          (replacedMachine.crashing.perform c (after pre)).2 = some (.ok (.token token)) ∧
          (after pre).generation = (after cs).generation) ∧
      ∀ pre fresh fate post, cs = pre ++ (.replace fresh, fate) :: post → fate ≠ .rolledBack →
        (∀ handle, Opened g (history pre) handle → ∀ resource operationId fate token,
          reply (.call (.acquire handle resource operationId), fate) ≠
            some (.ok (.token token))) ∧
        ∀ token, Issued (history pre) token → ∀ value fate,
          reply (.call (.write token value), fate) ≠ some (.ok .written) := by
  intro g g' cs
  refine replacement_fences g cs (((Machine.Guarded.nil.concat ?_).concat ?_).concat ?_)
  · intro fresh hc
    cases hc
  · intro fresh hc
    cases hc
    decide +kernel
  · intro fresh hc
    cases hc

end PersistentFencingStore

end ReliabilityLab
