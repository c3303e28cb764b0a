import ReliabilityLab.Fold

/-!
# Interleaved histories

A list of events of several keys, and the events of one key in it (`historyOf`). Where what
an event asks of the events before it is about those of its own key (`AsksOwn`), a list has
what it asks just when each key's history has (`eachAfter_iff_histories`). Where moreover it
asks only what `f` shows of the events (`AsksImages`), two lists that interleave the same
histories, as far as `f` shows them, have it together (`eachAfter_iff_of_histories`).
-/

namespace Serial

variable {α β κ : Type}

section Histories

variable [DecidableEq κ] (key : α → κ)

/-- The events of the key `k`, in order. -/
def historyOf (k : κ) (as : List α) : List α :=
  as.filter fun a => key a = k

variable {key}

theorem mem_historyOf {k : κ} {as : List α} {a : α} :
    a ∈ historyOf key k as ↔ a ∈ as ∧ key a = k := by
  simp [historyOf]

theorem historyOf_concat (k : κ) (as : List α) (a : α) :
    historyOf key k (as ++ [a]) =
      if key a = k then historyOf key k as ++ [a] else historyOf key k as := by
  unfold historyOf
  rw [List.filter_append, List.filter_singleton]
  split_ifs with h <;> simp [h]

/-- A key that does not occur has no history. -/
theorem historyOf_eq_nil {k : κ} {as : List α} (h : k ∉ as.map key) : historyOf key k as = [] := by
  unfold historyOf
  rw [List.filter_eq_nil_iff]
  intro a ha hk
  exact h (List.mem_map.2 ⟨a, ha, by simpa using hk⟩)

variable (key) in
/-- What an element asks is about the elements of its own key. -/
def AsksOwn (p : List α → α → Prop) : Prop :=
  ∀ pre a, p pre a ↔ p (historyOf key (key a) pre) a

/-- A list has what its elements ask just when each key's history has. -/
theorem eachAfter_iff_histories {p : List α → α → Prop} (hown : AsksOwn key p) {as : List α} :
    EachAfter p [] as ↔ ∀ k, EachAfter p [] (historyOf key k as) := by
  induction as using List.reverseRecOn with
  | nil => simp [historyOf]
  | append_singleton as a ih =>
    rw [eachAfter_concat, ih, hown as a]
    constructor
    · rintro ⟨has, ha⟩ k
      rw [historyOf_concat]
      split_ifs with hk
      · subst hk
        exact eachAfter_concat.2 ⟨has _, ha⟩
      · exact has k
    · intro h
      have hlast := h (key a)
      rw [historyOf_concat, if_pos rfl] at hlast
      refine ⟨fun k => ?_, hlast.of_concat.2⟩
      have hk := h k
      rw [historyOf_concat] at hk
      split_ifs at hk with heq
      · exact hk.of_concat.1
      · exact hk

end Histories

/-- What an element asks of the elements before it is about their images under `f`. -/
def AsksImages (f : α → β) (p : List α → α → Prop) : Prop :=
  ∀ pre pre' a a', pre.map f = pre'.map f → f a = f a' → p pre a → p pre' a'

theorem EachAfter.of_map_eq {f : α → β} {p : List α → α → Prop} (himages : AsksImages f p)
    {as bs : List α} (hmap : as.map f = bs.map f) (h : EachAfter p [] as) : EachAfter p [] bs := by
  rintro pre' a' post' rfl
  rw [List.map_append, List.map_cons] at hmap
  obtain ⟨pre, rest, rfl, hpre, hrest⟩ := List.map_eq_append_iff.1 hmap
  obtain ⟨a, post, rfl, ha, -⟩ := List.map_eq_cons_iff.1 hrest
  exact himages pre pre' a a' hpre ha (h pre a post rfl)

/-- Lists that interleave the same histories have what their elements ask together. -/
theorem eachAfter_iff_of_histories [DecidableEq κ] {key : α → κ} {f : α → β}
    {p : List α → α → Prop} (hown : AsksOwn key p) (himages : AsksImages f p) {as bs : List α}
    (hsame : ∀ k, (historyOf key k as).map f = (historyOf key k bs).map f) :
    EachAfter p [] as ↔ EachAfter p [] bs := by
  rw [eachAfter_iff_histories hown, eachAfter_iff_histories hown]
  exact forall_congr' fun k =>
    ⟨EachAfter.of_map_eq himages (hsame k), EachAfter.of_map_eq himages (hsame k).symm⟩

end Serial
