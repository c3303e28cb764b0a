import Mathlib.Data.List.Induction
import Mathlib.Data.List.Infix
import Mathlib.Order.Defs.Unbundled

/-!
# Serialised machines

A machine answers calls one at a time : `perform c s` is one atomic step from the
state `s`, giving the next state and the reply. Calls of any number of callers reach
it in some order, and that order is all the machine sees, so an interleaving is a
list of calls. `after` is the state it ends in and `history` the calls with their
replies.

`Preserves.after` carries an invariant along a run and `rel_after` a preorder.
`history_induction` is the rule for a predicate of the history and the state
together, and `Guarded.induction` the same under a guard : a condition on each call
that may refer to the replies before it, such as that a caller only presents a value
it was given (`Guarded`). `Simulates` is the rule for two machines that are given the
same calls.

`crashing` adds the death of the calling process : before the commit, when the step
is rolled back, or after it, when the reply is lost. `beside` runs two machines with
separate states side by side; no step changes both. `Restricts` compares a machine with
one that refuses some of its calls (`Restricts.exists_run`).
-/

namespace Serial

/-- A machine whose calls are serialised. -/
structure Machine (σ κ ο : Type*) where
  /-- The next state and the reply of one call. -/
  perform : κ → σ → σ × ο

namespace Machine

variable {σ κ ο τ μ π : Type*} (m : Machine σ κ ο)

/-! ## Runs -/

/-- The state after the calls `cs`. -/
def after (s : σ) : List κ → σ
  | [] => s
  | c :: cs => after (m.perform c s).1 cs

/-- The calls `cs` with their replies. -/
def history (s : σ) : List κ → List (κ × ο)
  | [] => []
  | c :: cs => (c, (m.perform c s).2) :: history (m.perform c s).1 cs

@[simp] theorem after_nil (s : σ) : m.after s [] = s := rfl

@[simp] theorem after_cons (s : σ) (c : κ) (cs : List κ) :
    m.after s (c :: cs) = m.after (m.perform c s).1 cs := rfl

@[simp] theorem history_nil (s : σ) : m.history s [] = [] := rfl

@[simp] theorem history_cons (s : σ) (c : κ) (cs : List κ) :
    m.history s (c :: cs) = (c, (m.perform c s).2) :: m.history (m.perform c s).1 cs := rfl

theorem after_append (s : σ) (cs ds : List κ) :
    m.after s (cs ++ ds) = m.after (m.after s cs) ds := by
  induction cs generalizing s with
  | nil => rfl
  | cons c cs ih => exact ih _

theorem history_append (s : σ) (cs ds : List κ) :
    m.history s (cs ++ ds) = m.history s cs ++ m.history (m.after s cs) ds := by
  induction cs generalizing s with
  | nil => rfl
  | cons c cs ih => simp [ih]

theorem after_concat (s : σ) (cs : List κ) (c : κ) :
    m.after s (cs ++ [c]) = (m.perform c (m.after s cs)).1 := by
  simp [after_append]

theorem history_concat (s : σ) (cs : List κ) (c : κ) :
    m.history s (cs ++ [c]) = m.history s cs ++ [(c, (m.perform c (m.after s cs)).2)] := by
  simp [history_append]

/-- A call of the history with its reply was performed after the calls before it. -/
theorem mem_history {s : σ} {cs : List κ} {c : κ} {o : ο} :
    (c, o) ∈ m.history s cs ↔
      ∃ pre post, cs = pre ++ c :: post ∧ o = (m.perform c (m.after s pre)).2 := by
  induction cs generalizing s with
  | nil => simp
  | cons d cs ih =>
    constructor
    · intro h
      rcases List.mem_cons.1 h with h | h
      · obtain ⟨rfl, rfl⟩ := Prod.mk.inj h
        exact ⟨[], cs, rfl, rfl⟩
      · obtain ⟨pre, post, rfl, ho⟩ := ih.1 h
        exact ⟨d :: pre, post, rfl, ho⟩
    · rintro ⟨pre, post, h, ho⟩
      rcases pre with _ | ⟨e, pre⟩
      · obtain ⟨rfl, rfl⟩ := List.cons.inj h
        simp [ho]
      · obtain ⟨rfl, rfl⟩ := List.cons.inj h
        exact List.mem_cons_of_mem _ (ih.2 ⟨pre, post, rfl, ho⟩)

/-! ## Invariants -/

/-- Every call keeps `I`. -/
def Preserves (I : σ → Prop) : Prop :=
  ∀ c s, I s → I (m.perform c s).1

variable {m}

theorem Preserves.after {I : σ → Prop} (h : m.Preserves I) {s : σ} (hs : I s) (cs : List κ) :
    I (m.after s cs) := by
  induction cs generalizing s with
  | nil => exact hs
  | cons c cs ih => exact ih (h c s hs)

/-- A preorder that relates each state to the next relates each state to every later
one. The step may use an invariant. -/
theorem Preserves.rel_after {I : σ → Prop} (h : m.Preserves I) {R : σ → σ → Prop}
    (hrefl : ∀ s, R s s) (htrans : ∀ {s t u}, R s t → R t u → R s u)
    (hstep : ∀ c s, I s → R s (m.perform c s).1) {s : σ} (hs : I s) (cs : List κ) :
    R s (m.after s cs) := by
  induction cs generalizing s with
  | nil => exact hrefl s
  | cons c cs ih => exact htrans (hstep c s hs) (ih (h c s hs))

variable (m)

/-- A predicate of the history and the state holds along every run if each step keeps
it. -/
theorem history_induction {J : List (κ × ο) → σ → Prop} {s : σ} (h0 : J [] s)
    (hstep : ∀ h t c, J h t → J (h ++ [(c, (m.perform c t).2)]) (m.perform c t).1)
    (cs : List κ) : J (m.history s cs) (m.after s cs) := by
  induction cs using List.reverseRecOn with
  | nil => exact h0
  | append_singleton cs c ih =>
    rw [history_concat, after_concat]
    exact hstep _ _ c ih

/-! ## Simulations -/

/-- From related states, a call that satisfies `p` gives related states and, in the two
machines, replies related by `Q`. -/
def Simulates (m : Machine σ κ ο) (n : Machine τ κ π) (p : κ → Prop) (R : σ → τ → Prop)
    (Q : κ → ο → π → Prop) : Prop :=
  ∀ c s t, p c → R s t →
    R (m.perform c s).1 (n.perform c t).1 ∧ Q c (m.perform c s).2 (n.perform c t).2

variable {m}

theorem Simulates.after {n : Machine τ κ π} {p : κ → Prop} {R : σ → τ → Prop}
    {Q : κ → ο → π → Prop} (h : m.Simulates n p R Q) {s : σ} {t : τ} (hst : R s t)
    {cs : List κ} (hcs : ∀ c ∈ cs, p c) : R (m.after s cs) (n.after t cs) := by
  induction cs generalizing s t with
  | nil => exact hst
  | cons c cs ih =>
    obtain ⟨hc, hcs⟩ := List.forall_mem_cons.1 hcs
    exact ih (h c s t hc hst).1 hcs

theorem Simulates.history {n : Machine τ κ π} {p : κ → Prop} {R : σ → τ → Prop}
    {Q : κ → ο → π → Prop} (h : m.Simulates n p R Q) {s : σ} {t : τ} (hst : R s t)
    {cs : List κ} (hcs : ∀ c ∈ cs, p c) :
    List.Forall₂ (fun x y => x.1 = y.1 ∧ Q x.1 x.2 y.2) (m.history s cs) (n.history t cs) := by
  induction cs generalizing s t with
  | nil => exact List.Forall₂.nil
  | cons c cs ih =>
    obtain ⟨hc, hcs⟩ := List.forall_mem_cons.1 hcs
    obtain ⟨hst', hreply⟩ := h c s t hc hst
    exact List.Forall₂.cons ⟨rfl, hreply⟩ (ih hst' hcs)

/-- Two histories of the same calls have related replies if and only if each call has, after the
calls before it. -/
theorem forall₂_history {n : Machine τ κ π} {Q : κ → ο → π → Prop} {s : σ} {t : τ}
    {cs : List κ} :
    List.Forall₂ (fun x y => x.1 = y.1 ∧ Q x.1 x.2 y.2) (m.history s cs) (n.history t cs) ↔
      ∀ pre c post, cs = pre ++ c :: post →
        Q c (m.perform c (m.after s pre)).2 (n.perform c (n.after t pre)).2 := by
  induction cs generalizing s t with
  | nil => simp
  | cons d cs ih =>
    rw [history_cons, history_cons, List.forall₂_cons, ih]
    constructor
    · rintro ⟨⟨-, hd⟩, hcs⟩ pre c post h
      rcases pre with _ | ⟨e, pre⟩
      · obtain ⟨rfl, rfl⟩ := List.cons.inj h
        exact hd
      · obtain ⟨rfl, rfl⟩ := List.cons.inj h
        exact hcs pre c post rfl
    · intro h
      refine ⟨⟨rfl, h [] d cs rfl⟩, ?_⟩
      rintro pre c post rfl
      exact h (d :: pre) c post rfl

variable (m)

/-! ## Guards -/

/-- Every call of `cs` meets the guard `G` at the history before it. -/
def Guarded (G : List (κ × ο) → κ → Prop) (s : σ) (cs : List κ) : Prop :=
  ∀ pre c post, cs = pre ++ c :: post → G (m.history s pre) c

variable {m}

theorem Guarded.of_append {G : List (κ × ο) → κ → Prop} {s : σ} {cs ds : List κ}
    (h : m.Guarded G s (cs ++ ds)) : m.Guarded G s cs :=
  fun pre c post hcs => h pre c (post ++ ds) (by simp [hcs])

theorem Guarded.last {G : List (κ × ο) → κ → Prop} {s : σ} {cs : List κ} {c : κ}
    (h : m.Guarded G s (cs ++ [c])) : G (m.history s cs) c :=
  h cs c [] rfl

theorem Guarded.nil {G : List (κ × ο) → κ → Prop} {s : σ} : m.Guarded G s [] :=
  fun pre c post h => by simp at h

theorem Guarded.concat {G : List (κ × ο) → κ → Prop} {s : σ} {cs : List κ} {c : κ}
    (h : m.Guarded G s cs) (hc : G (m.history s cs) c) : m.Guarded G s (cs ++ [c]) := by
  intro pre d post hcs
  rcases List.eq_nil_or_concat post with rfl | ⟨post, e, rfl⟩
  · obtain ⟨rfl, hd⟩ := List.append_inj' hcs rfl
    exact (List.singleton_inj.1 hd) ▸ hc
  · have hcs' : cs ++ [c] = (pre ++ d :: post) ++ [e] := by simpa using hcs
    exact h pre d post (List.append_inj' hcs' rfl).1

/-- `history_induction` where each step may use the guard of its call. -/
theorem Guarded.induction {G : List (κ × ο) → κ → Prop} {J : List (κ × ο) → σ → Prop} {s : σ}
    (h0 : J [] s)
    (hstep : ∀ h t c, J h t → G h c → J (h ++ [(c, (m.perform c t).2)]) (m.perform c t).1)
    {cs : List κ} (hcs : m.Guarded G s cs) : J (m.history s cs) (m.after s cs) := by
  induction cs using List.reverseRecOn with
  | nil => exact h0
  | append_singleton cs c ih =>
    rw [history_concat, after_concat]
    exact hstep _ _ c (ih hcs.of_append) hcs.last

variable (m)

/-! ## Crashes -/

/-- What becomes of the calling process : it gets its reply, or dies after the commit,
or dies before the commit. -/
inductive Fate where
  | returned
  | unacknowledged
  | rolledBack
  deriving DecidableEq, Repr

/-- The machine whose callers may die. The reply of a rolled-back call is `none`; that
of an unacknowledged call is in the history, but no caller was given it. -/
def crashing : Machine σ (κ × Fate) (Option ο) where
  perform c s :=
    match c.2 with
    | .rolledBack => (s, none)
    | .returned | .unacknowledged => ((m.perform c.1 s).1, some (m.perform c.1 s).2)

@[simp] theorem crashing_rolledBack (c : κ) (s : σ) :
    m.crashing.perform (c, .rolledBack) s = (s, none) := rfl

@[simp] theorem crashing_returned (c : κ) (s : σ) :
    m.crashing.perform (c, .returned) s = ((m.perform c s).1, some (m.perform c s).2) := rfl

@[simp] theorem crashing_unacknowledged (c : κ) (s : σ) :
    m.crashing.perform (c, .unacknowledged) s =
      ((m.perform c s).1, some (m.perform c s).2) := rfl

/-- A step with crashes is a step of the machine, or none at all. -/
theorem crashing_cases (c : κ × Fate) (s : σ) :
    m.crashing.perform c s = (s, none) ∧ c.2 = .rolledBack ∨
      m.crashing.perform c s = ((m.perform c.1 s).1, some (m.perform c.1 s).2) ∧
        c.2 ≠ .rolledBack := by
  obtain ⟨c, f⟩ := c
  cases f <;> simp

theorem crashing_eq_some {c : κ × Fate} {s : σ} {o : ο} (h : (m.crashing.perform c s).2 = some o) :
    (m.crashing.perform c s).1 = (m.perform c.1 s).1 ∧ o = (m.perform c.1 s).2 := by
  rcases m.crashing_cases c s with ⟨hc, -⟩ | ⟨hc, -⟩ <;> rw [hc] at h ⊢
  · cases h
  · exact ⟨rfl, (Option.some.inj h).symm⟩

variable {m}

theorem Preserves.crashing {I : σ → Prop} (h : m.Preserves I) : m.crashing.Preserves I := by
  intro c s hs
  rcases m.crashing_cases c s with ⟨hc, -⟩ | ⟨hc, -⟩ <;> rw [hc]
  · exact hs
  · exact h c.1 s hs

/-- A relation that every step and no step at all keep is kept by a step with
crashes. -/
theorem crashing_rel {R : σ → σ → Prop} {s : σ} (hrefl : R s s) (c : κ × Fate)
    (hstep : R s (m.perform c.1 s).1) : R s (m.crashing.perform c s).1 := by
  rcases m.crashing_cases c s with ⟨hc, -⟩ | ⟨hc, -⟩ <;> rw [hc]
  · exact hrefl
  · exact hstep

variable (m)

/-! ## Two machines -/

/-- Two machines with separate states. Each call goes to one of them. -/
def beside (n : Machine τ μ π) : Machine (σ × τ) (κ ⊕ μ) (ο ⊕ π) where
  perform
    | .inl c, s => (((m.perform c s.1).1, s.2), .inl (m.perform c s.1).2)
    | .inr c, s => ((s.1, (n.perform c s.2).1), .inr (n.perform c s.2).2)

@[simp] theorem beside_inl (n : Machine τ μ π) (c : κ) (s : σ × τ) :
    (m.beside n).perform (.inl c) s = (((m.perform c s.1).1, s.2), .inl (m.perform c s.1).2) := rfl

@[simp] theorem beside_inr (n : Machine τ μ π) (c : μ) (s : σ × τ) :
    (m.beside n).perform (.inr c) s = ((s.1, (n.perform c s.2).1), .inr (n.perform c s.2).2) := rfl

variable {m}

theorem Preserves.beside {n : Machine τ μ π} {I : σ → Prop} {J : τ → Prop} (h : m.Preserves I)
    (h' : n.Preserves J) : (m.beside n).Preserves fun s => I s.1 ∧ J s.2 := by
  rintro (c | c) s hs
  · exact ⟨h c s.1 hs.1, hs.2⟩
  · exact ⟨hs.1, h' c s.2 hs.2⟩

/-! ## Machines that refuse calls -/

/-- `m` does every call as `n` does it, or refuses it : its reply is not in `ok`, and its state is
the one that `n` has after some `quiet` call. -/
def Restricts (m n : Machine σ κ ο) (ok : ο → Prop) (quiet : κ → Prop) : Prop :=
  ∀ c s, m.perform c s = n.perform c s ∨
    ¬ok (m.perform c s).2 ∧ ∃ d, quiet d ∧ (m.perform c s).1 = (n.perform d s).1

theorem Restricts.beside {n : Machine σ κ ο} {m' n' : Machine τ μ π} {ok : ο → Prop}
    {ok' : π → Prop} {quiet : κ → Prop} {quiet' : μ → Prop} (h : m.Restricts n ok quiet)
    (h' : m'.Restricts n' ok' quiet') :
    (m.beside m').Restricts (n.beside n') (Sum.elim ok ok') (Sum.elim quiet quiet') := by
  rintro (c | c) s
  · rcases h c s.1 with heq | ⟨hreply, d, hd, hstate⟩
    · exact Or.inl (by simp only [beside_inl, heq])
    · exact Or.inr ⟨hreply, .inl d, hd, by simp only [beside_inl, hstate]⟩
  · rcases h' c s.2 with heq | ⟨hreply, d, hd, hstate⟩
    · exact Or.inl (by simp only [beside_inr, heq])
    · exact Or.inr ⟨hreply, .inr d, hd, by simp only [beside_inr, hstate]⟩

theorem Restricts.crashing {n : Machine σ κ ο} {ok : ο → Prop} {quiet : κ → Prop}
    (h : m.Restricts n ok quiet) :
    m.crashing.Restricts n.crashing (fun o => ∃ reply, o = some reply ∧ ok reply)
      fun d => quiet d.1 := by
  rintro ⟨c, fate⟩ s
  rcases m.crashing_cases (c, fate) s with ⟨hm, rfl⟩ | ⟨hm, hfate⟩
  · exact Or.inl (by simp only [crashing_rolledBack])
  · rcases h c s with heq | ⟨hreply, d, hd, hstate⟩
    · rcases n.crashing_cases (c, fate) s with ⟨-, hrolled⟩ | ⟨hn, -⟩
      · exact absurd hrolled hfate
      · exact Or.inl (by rw [hm, hn, heq])
    · refine Or.inr ⟨?_, (d, .returned), hd, by rw [hm, crashing_returned, hstate]⟩
      rw [hm]
      rintro ⟨reply, hr, hok⟩
      exact hreply (Option.some.inj hr ▸ hok)

/-- A guarded run of a machine that refuses calls is, up to the calls that it refuses, a guarded
run of the machine that does not : with the same state at its end, and the replies in `ok` that it
gave. The guard may only ask for replies in `ok`, and lets quiet calls pass. -/
theorem Restricts.exists_run {n : Machine σ κ ο} {ok : ο → Prop} {quiet : κ → Prop}
    (h : m.Restricts n ok quiet) {G : List (κ × ο) → κ → Prop}
    (hmono : ∀ h h' c, (∀ x, ok x.2 → x ∈ h → x ∈ h') → G h c → G h' c)
    (hquiet : ∀ h d, quiet d → G h d) {s : σ} {cs : List κ} (hcs : m.Guarded G s cs) :
    ∃ ds, n.Guarded G s ds ∧ n.after s ds = m.after s cs ∧
      ∀ x, ok x.2 → x ∈ m.history s cs → x ∈ n.history s ds := by
  refine hcs.induction (J := fun h t => ∃ ds, n.Guarded G s ds ∧ n.after s ds = t ∧
    ∀ x, ok x.2 → x ∈ h → x ∈ n.history s ds) ⟨[], .nil, rfl, fun x _ hx => hx⟩ ?_
  rintro hist _ c ⟨ds, hds, rfl, hmem⟩ hc
  rcases h c (n.after s ds) with heq | ⟨hreply, d, hd, hstate⟩
  · refine ⟨ds ++ [c], hds.concat (hmono _ _ c hmem hc), by rw [after_concat, heq],
      fun x hx hxmem => ?_⟩
    rw [history_concat, List.mem_append]
    rcases List.mem_append.1 hxmem with hxmem | hxmem
    · exact Or.inl (hmem x hx hxmem)
    · exact Or.inr (heq ▸ hxmem)
  · refine ⟨ds ++ [d], hds.concat (hquiet _ d hd), by rw [after_concat, hstate],
      fun x hx hxmem => ?_⟩
    rw [history_concat, List.mem_append]
    rcases List.mem_append.1 hxmem with hxmem | hxmem
    · exact Or.inl (hmem x hx hxmem)
    · rw [List.mem_singleton.1 hxmem] at hx
      exact absurd hx hreply

end Machine

end Serial
