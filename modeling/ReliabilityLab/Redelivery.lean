import ReliabilityLab.Machine

/-!
# Calls delivered again

A caller that lost its reply calls again, so a call may be delivered several times, late and
between calls of others. A machine absorbs such a redelivery (`Absorbs`) if a call that gave
a reply which is `ok` leaves behind a state where it is `done`, no call undoes that, and a
call that is done changes nothing. Then a run where calls are delivered again, any number
of times after they gave such a reply (`Redelivers`), ends in the state of the run without
these deliveries (`Redelivers.after_eq`), and every other call has the reply it had
(`Redelivers.history_sublist`). A redelivered call may itself crash.
-/

namespace Serial

namespace Machine

variable {σ κ ο τ μ π : Type*}

/-- A call with an `ok` reply is done, stays done and, once done, changes nothing. -/
structure Absorbs (m : Machine σ κ ο) (I : σ → Prop) (ok : ο → Prop) (done : κ → σ → Prop) :
    Prop where
  keeps : m.Preserves I
  finishes : ∀ {c s}, I s → ok (m.perform c s).2 → done c (m.perform c s).1
  stays : ∀ {c s}, I s → done c s → ∀ d, done c (m.perform d s).1
  skips : ∀ {c s}, I s → done c s → (m.perform c s).1 = s

namespace Absorbs

variable {m : Machine σ κ ο} {I : σ → Prop} {ok : ο → Prop} {done : κ → σ → Prop}

/-- What is done stays done under a preorder that every step keeps. -/
theorem of_rel (keeps : m.Preserves I) {R : σ → σ → Prop}
    (hstep : ∀ c s, I s → R s (m.perform c s).1) (hdone : ∀ {c s t}, R s t → done c s → done c t)
    (finishes : ∀ {c s}, I s → ok (m.perform c s).2 → done c (m.perform c s).1)
    (skips : ∀ {c s}, I s → done c s → (m.perform c s).1 = s) : m.Absorbs I ok done where
  keeps := keeps
  finishes := finishes
  stays hs hc d := hdone (hstep d _ hs) hc
  skips := skips

theorem done_after (h : m.Absorbs I ok done) {c : κ} {s : σ} (hs : I s) (hc : done c s)
    (cs : List (κ × Fate)) : done c (m.crashing.after s cs) := by
  have hkeeps : m.crashing.Preserves fun t => I t ∧ done c t := by
    rintro d t ⟨ht, htc⟩
    refine ⟨h.keeps.crashing d t ht, ?_⟩
    rcases m.crashing_cases d t with ⟨hp, -⟩ | ⟨hp, -⟩ <;> rw [hp]
    · exact htc
    · exact h.stays ht htc d.1
  exact (hkeeps.after ⟨hs, hc⟩ cs).2

/-- A call of the history with an `ok` reply is done. -/
theorem done_of_mem_history (h : m.Absorbs I ok done) {s : σ} (hs : I s) {cs : List (κ × Fate)}
    {c : κ} {fate : Fate} {o : ο} (hc : ((c, fate), some o) ∈ m.crashing.history s cs)
    (ho : ok o) : done c (m.crashing.after s cs) := by
  obtain ⟨pre, post, rfl, hreply⟩ := m.crashing.mem_history.1 hc
  obtain ⟨hstate, rfl⟩ := m.crashing_eq_some hreply.symm
  have hpre := h.keeps.crashing.after hs pre
  have hdone := h.finishes hpre ho
  rw [after_append, after_cons, hstate]
  exact h.done_after (h.keeps _ _ hpre) hdone post

theorem crashing_skips (h : m.Absorbs I ok done) {c : κ} {s : σ} (hs : I s) (hc : done c s)
    (fate : Fate) : (m.crashing.perform (c, fate) s).1 = s :=
  m.crashing_rel (R := fun s t => t = s) rfl (c, fate) (h.skips hs hc)

/-- Two machines side by side absorb what each of them absorbs. -/
theorem beside {n : Machine τ μ π} {J : τ → Prop} {ok' : π → Prop} {done' : μ → τ → Prop}
    (h : m.Absorbs I ok done) (h' : n.Absorbs J ok' done') :
    (m.beside n).Absorbs (fun s => I s.1 ∧ J s.2) (Sum.elim ok ok')
      fun c s => c.elim (fun c => done c s.1) fun c => done' c s.2 where
  keeps
    | .inl c, s, hs => ⟨h.keeps c s.1 hs.1, hs.2⟩
    | .inr c, s, hs => ⟨hs.1, h'.keeps c s.2 hs.2⟩
  finishes := by
    rintro (c | c) s hs hok
    · exact h.finishes hs.1 hok
    · exact h'.finishes hs.2 hok
  stays := by
    rintro (c | c) s hs hc (d | d)
    · exact h.stays hs.1 hc d
    · exact hc
    · exact hc
    · exact h'.stays hs.2 hc d
  skips := by
    rintro (c | c) s hs hc
    · exact Prod.ext (h.skips hs.1 hc) rfl
    · exact Prod.ext rfl (h'.skips hs.2 hc)

end Absorbs

/-- The run `ds` is `cs` with calls delivered again after they gave an `ok` reply. -/
inductive Redelivers (m : Machine σ κ ο) (ok : ο → Prop) (s : σ) (cs : List (κ × Fate)) :
    List (κ × Fate) → Prop where
  | refl : Redelivers m ok s cs cs
  | insert {pre post : List (κ × Fate)} {c : κ} {first : Fate} {o : ο} (fate : Fate)
      (h : Redelivers m ok s cs (pre ++ post))
      (hc : ((c, first), some o) ∈ m.crashing.history s pre) (ho : ok o) :
      Redelivers m ok s cs (pre ++ (c, fate) :: post)

namespace Redelivers

variable {m : Machine σ κ ο} {I : σ → Prop} {ok : ο → Prop} {done : κ → σ → Prop} {s : σ}
  {cs ds : List (κ × Fate)}

/-- Redeliveries change no state. -/
theorem after_eq (habs : m.Absorbs I ok done) (hs : I s) (h : Redelivers m ok s cs ds) :
    m.crashing.after s ds = m.crashing.after s cs := by
  induction h with
  | refl => rfl
  | @insert pre post c first o fate _ hc ho ih =>
    have hdone := habs.done_of_mem_history hs hc ho
    have hpre := habs.keeps.crashing.after hs pre
    rw [← ih, after_append, after_append, after_cons, habs.crashing_skips hpre hdone]

/-- Redeliveries change no reply to another call. -/
theorem history_sublist (habs : m.Absorbs I ok done) (hs : I s) (h : Redelivers m ok s cs ds) :
    (m.crashing.history s cs).Sublist (m.crashing.history s ds) := by
  induction h with
  | refl => exact List.Sublist.refl _
  | @insert pre post c first o fate _ hc ho ih =>
    have hdone := habs.done_of_mem_history hs hc ho
    have hpre := habs.keeps.crashing.after hs pre
    refine ih.trans ?_
    rw [history_append, history_append, history_cons, habs.crashing_skips hpre hdone]
    exact (List.sublist_cons_self _ _).append_left _

end Redelivers

end Machine

end Serial
