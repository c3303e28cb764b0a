import Mathlib.Data.List.Nodup
import Mathlib.Data.List.Perm.Basic
import Mathlib.Data.List.Induction

/-!
# First and later occurrences

The elements of a list selected by the elements before them (`filterAfter`), and in
particular those whose key no earlier element has (`firstOccurrences`) and those whose key
an earlier element has (`laterOccurrences`). Both keep the order of the list; together they
are the list. The `_concat` lemmas say what one more element adds, which is what a loop
with a table of the keys it has seen does. `Retransmits` inserts copies of elements after
them, which changes no first occurrence.
-/

namespace Serial

variable {α κ : Type}

/-- The elements of `as` that satisfy `p` with the elements before them, those of `done`
first. -/
def filterAfter (p : List α → α → Prop) [∀ pre a, Decidable (p pre a)] (done : List α) :
    List α → List α
  | [] => []
  | a :: as =>
    if p done a then a :: filterAfter p (done ++ [a]) as else filterAfter p (done ++ [a]) as

section FilterAfter

variable {p : List α → α → Prop} [∀ pre a, Decidable (p pre a)]

theorem filterAfter_append (done as bs : List α) :
    filterAfter p done (as ++ bs) =
      filterAfter p done as ++ filterAfter p (done ++ as) bs := by
  induction as generalizing done with
  | nil => simp [filterAfter]
  | cons a as ih =>
    simp only [List.cons_append, filterAfter, ih, List.append_assoc, List.nil_append]
    split_ifs <;> rfl

theorem filterAfter_concat (as : List α) (a : α) :
    filterAfter p [] (as ++ [a]) =
      if p as a then filterAfter p [] as ++ [a] else filterAfter p [] as := by
  rw [filterAfter_append]
  simp only [filterAfter, List.nil_append]
  split_ifs <;> simp

theorem filterAfter_perm (done as : List α) :
    (filterAfter p done as ++ filterAfter (fun pre a => ¬p pre a) done as).Perm as := by
  induction as generalizing done with
  | nil => exact List.Perm.nil
  | cons a as ih =>
    unfold filterAfter
    by_cases h : p done a
    · rw [if_pos h, if_neg (not_not.2 h)]
      exact (ih _).cons a
    · rw [if_neg h, if_pos h]
      exact List.perm_middle.trans ((ih _).cons a)

/-- What is selected depends on the elements before only through `p`. -/
theorem filterAfter_congr {done done' : List α}
    (h : ∀ pre a, p (done ++ pre) a ↔ p (done' ++ pre) a) (as : List α) :
    filterAfter p done as = filterAfter p done' as := by
  induction as generalizing done done' with
  | nil => rfl
  | cons a as ih =>
    have ha : p done a ↔ p done' a := by simpa using h [] a
    have hrest : filterAfter p (done ++ [a]) as = filterAfter p (done' ++ [a]) as :=
      ih fun pre b => by simpa using h (a :: pre) b
    simp only [filterAfter, ha, hrest]

end FilterAfter

variable [DecidableEq κ] (key : α → κ)

/-- The elements whose key no earlier element has. -/
def firstOccurrences (as : List α) : List α :=
  filterAfter (fun pre a => key a ∉ pre.map key) [] as

/-- The elements whose key an earlier element has. -/
def laterOccurrences (as : List α) : List α :=
  filterAfter (fun pre a => key a ∈ pre.map key) [] as

@[simp] theorem firstOccurrences_nil : firstOccurrences key [] = [] := rfl

@[simp] theorem laterOccurrences_nil : laterOccurrences key [] = [] := rfl

theorem firstOccurrences_concat (as : List α) (a : α) :
    firstOccurrences key (as ++ [a]) =
      if key a ∈ as.map key then firstOccurrences key as else firstOccurrences key as ++ [a] := by
  unfold firstOccurrences
  rw [filterAfter_concat, ite_not]

theorem laterOccurrences_concat (as : List α) (a : α) :
    laterOccurrences key (as ++ [a]) =
      if key a ∈ as.map key then laterOccurrences key as ++ [a] else laterOccurrences key as :=
  filterAfter_concat as a

/-- Every element is a first or a later occurrence, and not both. -/
theorem occurrences_perm (as : List α) :
    (firstOccurrences key as ++ laterOccurrences key as).Perm as := by
  unfold firstOccurrences laterOccurrences
  simpa only [not_not] using filterAfter_perm (p := fun pre a => key a ∉ pre.map key) [] as

/-- The first occurrences have the keys of the list. -/
theorem mem_map_firstOccurrences {as : List α} {k : κ} :
    k ∈ (firstOccurrences key as).map key ↔ k ∈ as.map key := by
  induction as using List.reverseRecOn with
  | nil => simp
  | append_singleton as a ih =>
    rw [firstOccurrences_concat, List.map_append, List.mem_append]
    split_ifs with ha
    · rw [ih]
      refine ⟨Or.inl, fun h => h.elim id fun h => ?_⟩
      rw [List.map_singleton, List.mem_singleton] at h
      exact h ▸ ha
    · rw [List.map_append, List.mem_append, ih]

theorem mem_firstOccurrences_id {ks : List κ} {k : κ} : k ∈ firstOccurrences id ks ↔ k ∈ ks := by
  simpa only [List.map_id] using mem_map_firstOccurrences (id : κ → κ)

theorem nodup_map_firstOccurrences (as : List α) : ((firstOccurrences key as).map key).Nodup := by
  induction as using List.reverseRecOn with
  | nil => simp
  | append_singleton as a ih =>
    rw [firstOccurrences_concat]
    split_ifs with ha
    · exact ih
    · rw [List.map_append, List.nodup_append']
      refine ⟨ih, by simp, ?_⟩
      rwa [List.map_singleton, List.disjoint_singleton, mem_map_firstOccurrences]

theorem nodup_firstOccurrences_id (ks : List κ) : (firstOccurrences id ks).Nodup := by
  simpa only [List.map_id] using nodup_map_firstOccurrences (id : κ → κ) ks

variable {key} in
/-- A copy of an element after it changes no first occurrence. -/
theorem firstOccurrences_insert {pre : List α} {a : α} (ha : key a ∈ pre.map key)
    (post : List α) :
    firstOccurrences key (pre ++ a :: post) = firstOccurrences key (pre ++ post) := by
  unfold firstOccurrences
  rw [filterAfter_append, filterAfter_append, filterAfter, if_neg (by simpa using ha)]
  refine congrArg _ (filterAfter_congr (fun post' b => ?_) post)
  have hkeys : key b = key a → key b ∈ pre.map key := fun h => h ▸ ha
  simp only [List.nil_append, List.append_assoc, List.map_append, List.mem_append,
    List.map_singleton, List.mem_singleton]
  exact not_congr ⟨fun h => h.elim Or.inl fun h => h.elim (Or.inl ∘ hkeys) Or.inr,
    fun h => h.imp_right Or.inr⟩

/-- The first occurrences of the images. -/
theorem map_firstOccurrences {β : Type} (f : α → β) (key : β → κ) (as : List α) :
    (firstOccurrences (fun a => key (f a)) as).map f = firstOccurrences key (as.map f) := by
  induction as using List.reverseRecOn with
  | nil => rfl
  | append_singleton as a ih =>
    rw [firstOccurrences_concat, List.map_append, List.map_singleton, firstOccurrences_concat,
      List.map_map, ← ih]
    exact apply_ite (List.map f) _ _ _ |>.trans (by simp [Function.comp_def])

/-- `bs` is `as` with copies of elements inserted after them, any number of times. -/
inductive Retransmits (as : List α) : List α → Prop where
  | refl : Retransmits as as
  | insert {pre post : List α} {a : α} (h : Retransmits as (pre ++ post)) (ha : a ∈ pre) :
    Retransmits as (pre ++ a :: post)

theorem Retransmits.mem_iff {as bs : List α} (h : Retransmits as bs) {a : α} :
    a ∈ bs ↔ a ∈ as := by
  induction h with
  | refl => rfl
  | @insert pre post b _ hb ih =>
    rw [← ih]
    simp only [List.mem_append, List.mem_cons]
    refine ⟨?_, fun h => h.imp_right Or.inr⟩
    rintro (h | rfl | h)
    · exact Or.inl h
    · exact Or.inl hb
    · exact Or.inr h

theorem Retransmits.firstOccurrences_eq {as bs : List α} (h : Retransmits as bs) :
    firstOccurrences key bs = firstOccurrences key as := by
  induction h with
  | refl => rfl
  | insert _ ha ih => rw [firstOccurrences_insert (List.mem_map_of_mem ha), ih]

end Serial
