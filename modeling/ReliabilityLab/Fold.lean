import Mathlib.Data.List.Chain
import Mathlib.Data.List.Induction
import ReliabilityLab.Transaction

/-!
# Checked folds

A fold over a list whose step may raise : `List.foldlM` in `Except`. `stopsAt` is the
index of the element it raises at. `foldlM_invariant` is the induction rule for a
predicate of the elements consumed and the state, and `foldlM_lockstep` the simulation
rule for two folds over one list : if from related states the two steps raise together
or give related states, the two folds stop at the same element, and end in related
states if they do not stop. `foldlM_filter` is the unwinding rule for one fold over a list
and over its visible elements.

`EachAfter` is a predicate of every element with the elements before it, what a fold over
a list can ask of it.
-/

namespace Serial

variable {σ τ ε δ α : Type}

/-- The fold over one more element. -/
theorem foldlM_concat (f : σ → α → Except ε σ) (s : σ) (as : List α) (a : α) :
    (as ++ [a]).foldlM f s = as.foldlM f s >>= fun t => f t a := by
  rw [List.foldlM_append]
  refine congrArg (as.foldlM f s >>= ·) (funext fun t => ?_)
  rcases h : f t a with e | t' <;> simp [h]

/-- A fold that raises raises the error of one of its steps. -/
theorem exists_step_of_foldlM_error {f : σ → α → Except ε σ} {s : σ} {as : List α} {e : ε}
    (h : as.foldlM f s = .error e) : ∃ t a, a ∈ as ∧ f t a = .error e := by
  induction as generalizing s with
  | nil => cases h
  | cons a as ih =>
    rw [List.foldlM_cons, bind_eq_error] at h
    rcases h with h | ⟨t, -, h⟩
    · exact ⟨s, a, List.mem_cons_self, h⟩
    · obtain ⟨t', b, hb, he⟩ := ih h
      exact ⟨t', b, List.mem_cons_of_mem a hb, he⟩

/-- The index of the element at which the fold raises. -/
def stopsAt (f : σ → α → Except ε σ) : σ → List α → Option Nat
  | _, [] => none
  | s, a :: as =>
    match f s a with
    | .error _ => some 0
    | .ok s' => (stopsAt f s' as).map (· + 1)

@[simp] theorem stopsAt_nil (f : σ → α → Except ε σ) (s : σ) : stopsAt f s [] = none := rfl

theorem stopsAt_cons_of_ok {f : σ → α → Except ε σ} {s s' : σ} {a : α} (h : f s a = .ok s')
    (as : List α) : stopsAt f s (a :: as) = (stopsAt f s' as).map (· + 1) := by
  simp [stopsAt, h]

theorem stopsAt_cons_of_error {f : σ → α → Except ε σ} {s : σ} {a : α} {e : ε}
    (h : f s a = .error e) (as : List α) : stopsAt f s (a :: as) = some 0 := by
  simp [stopsAt, h]

/-- The fold stops at `k` : it passes the first `k` elements and raises at the next. -/
theorem stopsAt_eq_some {f : σ → α → Except ε σ} {s : σ} {as : List α} {k : Nat} :
    stopsAt f s as = some k ↔
      ∃ t a e, (as.take k).foldlM f s = .ok t ∧ as[k]? = some a ∧ f t a = .error e := by
  induction as generalizing s k with
  | nil => simp
  | cons b as ih =>
    rcases h : f s b with e | s'
    · rw [stopsAt_cons_of_error h]
      rcases k with _ | k
      · exact ⟨fun _ => ⟨s, b, e, rfl, rfl, h⟩, fun _ => rfl⟩
      · simp [List.take_succ_cons, List.foldlM_cons, h]
    · rw [stopsAt_cons_of_ok h]
      rcases k with _ | k
      · refine ⟨fun hk => by simp at hk, ?_⟩
        rintro ⟨t, a, e, ht, ha, he⟩
        obtain rfl : s = t := Except.ok.inj ht
        obtain rfl : b = a := by simpa using ha
        rw [h] at he
        cases he
      · simp only [Option.map_eq_some_iff, Nat.add_right_cancel_iff, exists_eq_right, ih,
          List.take_succ_cons, List.foldlM_cons, h, ok_bind, List.getElem?_cons_succ]

/-- The fold stops at `k` : it passes the first `k` elements and not the first `k + 1`. -/
theorem stopsAt_eq_some_iff_take {f : σ → α → Except ε σ} {s : σ} {as : List α} {k : Nat} :
    stopsAt f s as = some k ↔
      (∃ t, (as.take k).foldlM f s = .ok t) ∧ ∃ e, (as.take (k + 1)).foldlM f s = .error e := by
  rw [stopsAt_eq_some]
  rcases ha : as[k]? with _ | a
  · have htake : as.take (k + 1) = as.take k := by
      rw [List.take_add_one, ha, Option.toList_none, List.append_nil]
    rw [htake]
    refine ⟨?_, ?_⟩
    · rintro ⟨t, a, e, -, ha', -⟩
      cases ha'
    rintro ⟨⟨t, ht⟩, e, he⟩
    rw [ht] at he
    cases he
  · have htake : as.take (k + 1) = as.take k ++ [a] := by
      rw [List.take_add_one, ha, Option.toList_some]
    rw [htake, foldlM_concat]
    refine ⟨?_, ?_⟩
    · rintro ⟨t, b, e, ht, hb, he⟩
      obtain rfl := Option.some.inj hb
      exact ⟨⟨t, ht⟩, e, by rw [ht, ok_bind, he]⟩
    · rintro ⟨⟨t, ht⟩, e, he⟩
      rw [ht, ok_bind] at he
      exact ⟨t, a, e, ht, rfl, he⟩

theorem stopsAt_map {β : Type} (g : β → α) (f : σ → α → Except ε σ) (s : σ) (bs : List β) :
    stopsAt f s (bs.map g) = stopsAt (fun s b => f s (g b)) s bs := by
  induction bs generalizing s with
  | nil => rfl
  | cons b bs ih =>
    rw [List.map_cons]
    rcases h : f s (g b) with e | s'
    · rw [stopsAt_cons_of_error h, stopsAt_cons_of_error (f := fun s b => f s (g b)) h]
    · rw [stopsAt_cons_of_ok h, stopsAt_cons_of_ok (f := fun s b => f s (g b)) h, ih]

/-! ## Elements with the elements before them -/

/-- Every element of `as` satisfies `p` with the elements before it, those of `done`
first. -/
def EachAfter (p : List α → α → Prop) (done as : List α) : Prop :=
  ∀ pre a post, as = pre ++ a :: post → p (done ++ pre) a

@[simp] theorem eachAfter_nil (p : List α → α → Prop) (done : List α) : EachAfter p done [] :=
  fun pre a post h => by simp at h

theorem eachAfter_cons {p : List α → α → Prop} {done as : List α} {a : α} :
    EachAfter p done (a :: as) ↔ p done a ∧ EachAfter p (done ++ [a]) as := by
  constructor
  · intro h
    refine ⟨by simpa using h [] a as rfl, fun pre b post has => ?_⟩
    have := h (a :: pre) b post (by rw [has]; rfl)
    simpa using this
  · rintro ⟨ha, h⟩ pre b post hcons
    rcases pre with _ | ⟨c, pre⟩
    · obtain ⟨rfl, rfl⟩ := List.cons.inj hcons
      simpa using ha
    · obtain ⟨rfl, rfl⟩ := List.cons.inj hcons
      simpa using h pre b post rfl

theorem eachAfter_append {p : List α → α → Prop} {done as bs : List α} :
    EachAfter p done (as ++ bs) ↔ EachAfter p done as ∧ EachAfter p (done ++ as) bs := by
  induction as generalizing done with
  | nil => simp
  | cons a as ih =>
    rw [List.cons_append, eachAfter_cons, eachAfter_cons, ih, and_assoc, List.append_assoc,
      List.singleton_append]

theorem eachAfter_concat {p : List α → α → Prop} {as : List α} {a : α} :
    EachAfter p [] (as ++ [a]) ↔ EachAfter p [] as ∧ p as a := by
  rw [eachAfter_append, eachAfter_cons]
  simp

theorem EachAfter.of_concat {p : List α → α → Prop} {as : List α} {a : α}
    (h : EachAfter p [] (as ++ [a])) : EachAfter p [] as ∧ p as a :=
  eachAfter_concat.1 h

/-! ## Invariants and simulations -/

/-- A predicate of the elements consumed and the state holds after the fold if each
step keeps it. -/
theorem foldlM_invariant {f : σ → α → Except ε σ} {J : List α → σ → Prop} {s t : σ}
    (h0 : J [] s) (hstep : ∀ as a s s', J as s → f s a = .ok s' → J (as ++ [a]) s')
    {as : List α} (h : as.foldlM f s = .ok t) : J as t := by
  suffices ∀ bs s, J bs s → as.foldlM f s = .ok t → J (bs ++ as) t from this [] s h0 h
  clear h h0
  induction as with
  | nil =>
    intro bs s hs h
    obtain rfl : s = t := Except.ok.inj h
    simpa using hs
  | cons a as ih =>
    intro bs s hs h
    rw [List.foldlM_cons, bind_eq_ok] at h
    obtain ⟨s', hs', h⟩ := h
    simpa using ih (bs ++ [a]) s' (hstep bs a s s' hs hs') h

/-- Two folds whose steps raise together from related states stop at the same element,
and are related if they do not stop. A step may use what every element satisfies with the
elements before it. -/
theorem foldlM_lockstep {f : σ → α → Except ε σ} {g : τ → α → Except δ τ}
    {p : List α → α → Prop} {J : List α → σ → τ → Prop}
    (hstep : ∀ as a s t, J as s t → p as a →
      (∃ e d, f s a = .error e ∧ g t a = .error d) ∨
        ∃ s' t', f s a = .ok s' ∧ g t a = .ok t' ∧ J (as ++ [a]) s' t')
    {s : σ} {t : τ} (h0 : J [] s t) {as : List α} (has : EachAfter p [] as) :
    stopsAt f s as = stopsAt g t as ∧ ∀ s', as.foldlM f s = .ok s' →
      ∃ t', as.foldlM g t = .ok t' ∧ J as s' t' := by
  suffices ∀ bs s t, EachAfter p bs as → J bs s t → stopsAt f s as = stopsAt g t as ∧
      ∀ s', as.foldlM f s = .ok s' → ∃ t', as.foldlM g t = .ok t' ∧ J (bs ++ as) s' t' from
    this [] s t has h0
  clear h0 has
  induction as with
  | nil =>
    intro bs s t _ hst
    refine ⟨rfl, fun s' hs' => ⟨t, rfl, ?_⟩⟩
    obtain rfl : s = s' := Except.ok.inj hs'
    simpa using hst
  | cons a as ih =>
    intro bs s t has hst
    obtain ⟨ha, has'⟩ := eachAfter_cons.1 has
    rcases hstep bs a s t hst ha with ⟨e, d, hf, hg⟩ | ⟨s', t', hf, hg, hst'⟩
    · rw [stopsAt_cons_of_error hf, stopsAt_cons_of_error hg, List.foldlM_cons, hf]
      exact ⟨rfl, fun s' hs' => by cases hs'⟩
    · obtain ⟨hstop, hok⟩ := ih (bs ++ [a]) s' t' has' hst'
      rw [stopsAt_cons_of_ok hf, stopsAt_cons_of_ok hg, hstop, List.foldlM_cons, List.foldlM_cons,
        hf, hg, ok_bind, ok_bind]
      exact ⟨rfl, fun u hu => by simpa using hok u hu⟩

/-- An element that is not visible is passed and changes nothing that is seen of a state;
a visible one raises the same error, or gives states that look alike, from states that
look alike. Then the fold over the visible elements raises the error that the fold over
all of them raises, and ends in a state that looks like the one that fold ends in. -/
theorem foldlM_filter {f : σ → α → Except ε σ} {view : σ → τ} {q : α → Bool} {I : σ → Prop}
    (hinv : ∀ s s' a, I s → f s a = .ok s' → I s')
    (hskip : ∀ s a, I s → q a = false → ∃ s', f s a = .ok s' ∧ view s' = view s)
    (hview : ∀ s t a, I s → I t → view s = view t → q a = true →
      view <$> f s a = view <$> f t a)
    {s t : σ} (hs : I s) (ht : I t) (hst : view s = view t) (as : List α) :
    view <$> as.foldlM f s = view <$> (as.filter q).foldlM f t := by
  induction as generalizing s t with
  | nil => exact congrArg Except.ok hst
  | cons a as ih =>
    rcases hq : q a with _ | _
    · obtain ⟨s', hs', hsame⟩ := hskip s a hs hq
      rw [List.filter_cons_of_neg (by simp [hq]), List.foldlM_cons, hs', ok_bind]
      exact ih (hinv s s' a hs hs') ht (hsame.trans hst)
    · have hstep := hview s t a hs ht hst hq
      rw [List.filter_cons_of_pos hq, List.foldlM_cons, List.foldlM_cons]
      rcases hf : f s a with e | s' <;> rcases hg : f t a with d | t' <;> rw [hf, hg] at hstep
      · cases hstep
        rfl
      · cases hstep
      · cases hstep
      · exact ih (hinv s s' a hs hf) (hinv t t' a ht hg) (Except.ok.inj hstep)

/-! ## Relations of the elements of a list -/

/-- A symmetric relation of any two elements of a list, with one more element. -/
theorem forall_mem_concat₂ {R : α → α → Prop} {as : List α} {e : α}
    (h : ∀ a ∈ as, ∀ b ∈ as, R a b) (hsymm : ∀ a b, R a b → R b a) (he : ∀ a ∈ as, R a e)
    (hrefl : R e e) : ∀ a ∈ as ++ [e], ∀ b ∈ as ++ [e], R a b := by
  intro a ha b hb
  rw [List.mem_append, List.mem_singleton] at ha hb
  rcases ha with ha | rfl <;> rcases hb with hb | rfl
  · exact h a ha b hb
  · exact he a ha
  · exact hsymm b a (he b hb)
  · exact hrefl

/-- If every element of `as` that satisfies `q` is related to the last such element before
it, and the relation is transitive, any two of them are related. -/
theorem EachAfter.pairwise_filter {R : α → α → Prop} {q : α → Bool} {as : List α}
    (htrans : ∀ {a b c}, R a b → R b c → R a c)
    (h : EachAfter (fun pre a => q a = true → ∀ b ∈ (pre.filter q).getLast?, R b a) [] as) :
    (as.filter q).Pairwise R := by
  have : Trans R R R := ⟨htrans⟩
  rw [← List.isChain_iff_pairwise]
  induction as using List.reverseRecOn with
  | nil => exact List.isChain_nil
  | append_singleton as a ih =>
    obtain ⟨has, ha⟩ := h.of_concat
    rw [List.filter_append, List.filter_singleton]
    rcases hq : q a with _ | _
    · simpa using ih has
    · refine List.isChain_append.2 ⟨ih has, List.isChain_singleton a, fun b hb c hc => ?_⟩
      obtain rfl : a = c := by simpa using hc
      exact ha hq b hb

/-- If every element of `as` that satisfies `q` is related to all such elements before it,
any two of them are related. -/
theorem EachAfter.pairwise_filter_of_all {R : α → α → Prop} {q : α → Bool} {as : List α}
    (h : EachAfter (fun pre a => q a = true → ∀ b ∈ pre.filter q, R b a) [] as) :
    (as.filter q).Pairwise R := by
  induction as using List.reverseRecOn with
  | nil => exact List.Pairwise.nil
  | append_singleton as a ih =>
    obtain ⟨has, ha⟩ := h.of_concat
    rw [List.filter_append, List.filter_singleton, List.pairwise_append]
    rcases hq : q a with _ | _
    · simpa using ih has
    · refine ⟨ih has, List.pairwise_singleton R a, fun b hb c hc => ?_⟩
      obtain rfl : c = a := by simpa using hc
      exact ha hq b hb

/-! ## One step for each element -/

theorem mapM_cons_eq_ok {f : α → Except ε σ} {a : α} {as : List α} {ts : List σ} :
    (a :: as).mapM f = .ok ts ↔
      ∃ t rest, f a = .ok t ∧ as.mapM f = .ok rest ∧ ts = t :: rest := by
  rw [List.mapM_cons, bind_eq_ok]
  simp only [bind_eq_ok]
  constructor
  · rintro ⟨t, ht, rest, hrest, h⟩
    exact ⟨t, rest, ht, hrest, (Except.ok.inj h).symm⟩
  · rintro ⟨t, rest, ht, hrest, rfl⟩
    exact ⟨t, ht, rest, hrest, rfl⟩

/-- A step for each element returns exactly the values that the elements give, in order. -/
theorem mapM_eq_ok_iff {f : α → Except ε σ} {as : List α} {ts : List σ} :
    as.mapM f = .ok ts ↔ List.Forall₂ (fun a t => f a = .ok t) as ts := by
  induction as generalizing ts with
  | nil =>
    rw [List.mapM_nil, List.forall₂_nil_left_iff]
    exact ⟨fun h => (Except.ok.inj h).symm, fun h => h ▸ rfl⟩
  | cons a as ih =>
    rw [mapM_cons_eq_ok, List.forall₂_cons_left_iff]
    simp only [ih]

/-- Some value for each element, in order. -/
theorem mapM_eq_some_iff {f : α → Option σ} {as : List α} {ts : List σ} :
    as.mapM f = some ts ↔ List.Forall₂ (fun a t => f a = some t) as ts := by
  induction as generalizing ts with
  | nil =>
    rw [List.mapM_nil, List.forall₂_nil_left_iff]
    exact ⟨fun h => (Option.some.inj h).symm, fun h => h ▸ rfl⟩
  | cons a as ih =>
    rw [List.mapM_cons, List.forall₂_cons_left_iff]
    simp only [Option.bind_eq_bind, Option.bind_eq_some_iff, Option.pure_def, Option.some.injEq,
      ih, eq_comm (b := ts)]
    refine ⟨?_, ?_⟩
    · rintro ⟨t, ht, rest, hrest, rfl⟩
      exact ⟨t, rest, ht, hrest, rfl⟩
    · rintro ⟨t, rest, ht, hrest, rfl⟩
      exact ⟨t, ht, rest, hrest, rfl⟩

/-- A step for each element returns exactly if each of them does. -/
theorem mapM_returns_iff {f : α → Except ε σ} {as : List α} :
    (∃ ts, as.mapM f = .ok ts) ↔ ∀ a ∈ as, ∃ t, f a = .ok t := by
  induction as with
  | nil => exact ⟨fun _ => by simp, fun _ => ⟨[], rfl⟩⟩
  | cons a as ih =>
    rw [List.forall_mem_cons, ← ih]
    simp only [mapM_cons_eq_ok]
    constructor
    · rintro ⟨_, t, rest, ht, hrest, -⟩
      exact ⟨⟨t, ht⟩, rest, hrest⟩
    · rintro ⟨⟨t, ht⟩, rest, hrest⟩
      exact ⟨_, t, rest, ht, hrest, rfl⟩

theorem length_of_mapM {f : α → Except ε σ} {as : List α} {ts : List σ}
    (h : as.mapM f = .ok ts) : ts.length = as.length := by
  induction as generalizing ts with
  | nil =>
    cases h
    rfl
  | cons a as ih =>
    obtain ⟨t, rest, -, hrest, rfl⟩ := mapM_cons_eq_ok.1 h
    rw [List.length_cons, List.length_cons, ih hrest]

/-- Steps that are checks before a value give the values. -/
theorem mapM_eq_map {f : α → Except ε σ} {g : α → σ} {as : List α} {ts : List σ}
    (hf : ∀ a ∈ as, ∀ t, f a = .ok t → t = g a) (h : as.mapM f = .ok ts) : ts = as.map g := by
  induction as generalizing ts with
  | nil =>
    cases h
    rfl
  | cons a as ih =>
    obtain ⟨t, rest, ht, hrest, rfl⟩ := mapM_cons_eq_ok.1 h
    rw [List.map_cons, hf a List.mem_cons_self t ht,
      ih (fun b hb => hf b (List.mem_cons_of_mem a hb)) hrest]

end Serial
