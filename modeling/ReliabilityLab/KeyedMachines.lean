import ReliabilityLab.Machine

/-!
# Machines of independent keys

A machine may hold the states of many keys, with each call about one key or about none.
It serves the machines `n k` of the keys (`Serves`) if it answers a call about the key `k`
as `n k` does from what `view` shows of that key, changes nothing that is shown of another
key, and shows the same after a call about no key. Then the calls about a key decide,
among themselves, what is shown of it (`Serves.view_after`) and every reply to them
(`Serves.replies_history`), whatever calls about other keys come in between and wherever
they come : two runs with the same calls about a key agree on it (`Serves.independent`).

Crashes may be added to the machine (`Serves.crashing`) : a call that is rolled back is
about no key.
-/

namespace Serial

namespace Machine

variable {σ κ ο τ μ π ι : Type*}

/-! ## The calls about a key -/

section Selection

variable [DecidableEq ι] (toKey : κ → Option (ι × μ))

/-- What the call asks of the machine of the key `k`, if it is about `k`. -/
def asks (k : ι) (c : κ) : Option μ :=
  (toKey c).bind fun p => if p.1 = k then some p.2 else none

/-- The calls about `k`. -/
def callsTo (k : ι) (cs : List κ) : List μ :=
  cs.filterMap (asks toKey k)

/-- The calls about `k` with their replies. -/
def repliesTo (k : ι) (h : List (κ × ο)) : List (μ × ο) :=
  h.filterMap fun e => (asks toKey k e.1).map fun d => (d, e.2)

variable {toKey}

theorem asks_eq_some {k : ι} {c : κ} {d : μ} : asks toKey k c = some d ↔ toKey c = some (k, d) := by
  unfold asks
  cases h : toKey c with
  | none => simp
  | some p =>
    obtain ⟨l, e⟩ := p
    by_cases hl : l = k <;> simp [hl]

theorem callsTo_cons_some {k : ι} {c : κ} {d : μ} (h : asks toKey k c = some d) (cs : List κ) :
    callsTo toKey k (c :: cs) = d :: callsTo toKey k cs :=
  List.filterMap_cons_some h

theorem callsTo_cons_none {k : ι} {c : κ} (h : asks toKey k c = none) (cs : List κ) :
    callsTo toKey k (c :: cs) = callsTo toKey k cs :=
  List.filterMap_cons_none h

theorem repliesTo_cons_some {k : ι} {c : κ} {d : μ} (h : asks toKey k c = some d) (o : ο)
    (es : List (κ × ο)) : repliesTo toKey k ((c, o) :: es) = (d, o) :: repliesTo toKey k es :=
  List.filterMap_cons_some (by simp [h])

theorem repliesTo_cons_none {k : ι} {c : κ} (h : asks toKey k c = none) (o : ο)
    (es : List (κ × ο)) : repliesTo toKey k ((c, o) :: es) = repliesTo toKey k es :=
  List.filterMap_cons_none (by simp [h])

end Selection

/-! ## Serving the machines of the keys -/

/-- From states that satisfy `I`, calls about a key do what the machine of the key does, with
its replies read by `reply`, and nothing that is shown changes otherwise. -/
structure Serves (m : Machine σ κ ο) (n : ι → Machine τ μ π) (toKey : κ → Option (ι × μ))
    (reply : π → ο) (I : σ → Prop) (view : σ → ι → τ) : Prop where
  keeps : m.Preserves I
  step : ∀ {c s k d}, I s → toKey c = some (k, d) →
    view (m.perform c s).1 k = ((n k).perform d (view s k)).1 ∧
      (m.perform c s).2 = reply ((n k).perform d (view s k)).2
  frame : ∀ {c s k}, I s → (∀ d, toKey c ≠ some (k, d)) → view (m.perform c s).1 k = view s k

namespace Serves

variable {m : Machine σ κ ο} {n : ι → Machine τ μ π} {toKey : κ → Option (ι × μ)} {reply : π → ο}
  {I : σ → Prop} {view : σ → ι → τ}

section Runs

variable [DecidableEq ι]

/-- The calls about a key decide what is shown of it. -/
theorem view_after (h : m.Serves n toKey reply I view) {s : σ} (hs : I s) (cs : List κ) (k : ι) :
    view (m.after s cs) k = (n k).after (view s k) (callsTo toKey k cs) := by
  induction cs generalizing s with
  | nil => rfl
  | cons c cs ih =>
    rw [after_cons, ih (h.keeps c s hs)]
    cases hc : asks toKey k c with
    | none =>
      rw [callsTo_cons_none hc, h.frame hs fun d hd => by simp [asks_eq_some.2 hd] at hc]
    | some d =>
      rw [callsTo_cons_some hc, after_cons, (h.step hs (asks_eq_some.1 hc)).1]

/-- The calls about a key decide the replies to them. -/
theorem replies_history (h : m.Serves n toKey reply I view) {s : σ} (hs : I s) (cs : List κ)
    (k : ι) : repliesTo toKey k (m.history s cs) =
      ((n k).history (view s k) (callsTo toKey k cs)).map fun e => (e.1, reply e.2) := by
  induction cs generalizing s with
  | nil => rfl
  | cons c cs ih =>
    rw [history_cons]
    cases hc : asks toKey k c with
    | none =>
      rw [callsTo_cons_none hc, repliesTo_cons_none hc, ih (h.keeps c s hs),
        h.frame hs fun d hd => by simp [asks_eq_some.2 hd] at hc]
    | some d =>
      obtain ⟨hview, hreply⟩ := h.step hs (asks_eq_some.1 hc)
      rw [callsTo_cons_some hc, repliesTo_cons_some hc, ih (h.keeps c s hs), history_cons,
        List.map_cons, hview, hreply]

/-- Runs with the same calls about a key agree on it. -/
theorem independent (h : m.Serves n toKey reply I view) {s t : σ} (hs : I s) (ht : I t) {k : ι}
    (hview : view s k = view t k) {cs ds : List κ}
    (hcalls : callsTo toKey k cs = callsTo toKey k ds) :
    view (m.after s cs) k = view (m.after t ds) k ∧
      repliesTo toKey k (m.history s cs) = repliesTo toKey k (m.history t ds) := by
  rw [h.view_after hs, h.view_after ht, h.replies_history hs, h.replies_history ht, hview, hcalls]
  exact ⟨rfl, rfl⟩

end Runs

/-! ## Crashes -/

/-- A call that is rolled back is about no key. -/
def crashKey (toKey : κ → Option (ι × μ)) (c : κ × Fate) : Option (ι × μ) :=
  if c.2 = .rolledBack then none else toKey c.1

theorem crashKey_eq_some {c : κ × Fate} {p : ι × μ} :
    crashKey toKey c = some p ↔ c.2 ≠ .rolledBack ∧ toKey c.1 = some p := by
  unfold crashKey
  split_ifs with h <;> simp [h]

theorem crashing (h : m.Serves n toKey reply I view) :
    m.crashing.Serves n (crashKey toKey) (fun r => some (reply r)) I view where
  keeps := h.keeps.crashing
  step {c s k d} hs hc := by
    obtain ⟨hf, hc⟩ := crashKey_eq_some.1 hc
    obtain ⟨hview, hreply⟩ := h.step hs hc
    rcases m.crashing_cases c s with ⟨-, hf'⟩ | ⟨hp, -⟩
    · exact absurd hf' hf
    · rw [hp]
      exact ⟨hview, congrArg some hreply⟩
  frame {c s k} hs hc := by
    rcases m.crashing_cases c s with ⟨hp, -⟩ | ⟨hp, hf⟩ <;> rw [hp]
    exact h.frame hs fun d hd => hc d (crashKey_eq_some.2 ⟨hf, hd⟩)

end Serves

end Machine

end Serial
