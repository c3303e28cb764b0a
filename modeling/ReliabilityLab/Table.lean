import Mathlib.Data.List.Nodup

/-!
# Keyed tables

A table is a list of rows, oldest first, no two of which have the same primary key
(`Table.unique`). The statements are those of SQL on one row : `find?` is a `SELECT`
by key, `insert?` an `INSERT` (it fails on a key that is present), `insertOrIgnore`
an `INSERT ... ON CONFLICT DO NOTHING`, `upsert` an `INSERT ... ON CONFLICT DO UPDATE`
and `update` an `UPDATE` by key. The functions that change a row come with the proof
that they keep its key, so every statement gives a table.

The `find?_` lemmas say what each statement does to the row of each key. A table is
read through them, or through its rows where their order matters.
-/

namespace Keyed

/-- Rows with a primary key. -/
structure Table (ρ : Type*) {κ : Type*} (key : ρ → κ) where
  /-- The rows, in insertion order. -/
  rows : List ρ
  unique : (rows.map key).Nodup

namespace Table

variable {ρ κ : Type*} {key : ρ → κ}

/-- The table with no row. -/
def empty : Table ρ key :=
  ⟨[], List.nodup_nil⟩

@[simp] theorem rows_empty : (empty : Table ρ key).rows = [] := rfl

@[ext] theorem ext {t u : Table ρ key} (h : t.rows = u.rows) : t = u := by
  cases t
  cases u
  congr

variable [DecidableEq κ]

/-- The row with key `k`. -/
def find? (t : Table ρ key) (k : κ) : Option ρ :=
  t.rows.find? fun r => key r = k

@[simp] theorem find?_empty (k : κ) : (empty : Table ρ key).find? k = none := rfl

theorem key_of_find? {t : Table ρ key} {k : κ} {r : ρ} (h : t.find? k = some r) : key r = k := by
  simpa using List.find?_some h

theorem mem_of_find? {t : Table ρ key} {k : κ} {r : ρ} (h : t.find? k = some r) : r ∈ t.rows :=
  List.mem_of_find?_eq_some h

theorem find?_of_mem {t : Table ρ key} {r : ρ} (h : r ∈ t.rows) : t.find? (key r) = some r := by
  cases hf : t.find? (key r) with
  | none =>
    have := List.find?_eq_none.1 hf r h
    simp at this
  | some q =>
    exact congrArg some (List.inj_on_of_nodup_map t.unique (mem_of_find? hf) h (key_of_find? hf))

theorem find?_eq_some_iff {t : Table ρ key} {k : κ} {r : ρ} :
    t.find? k = some r ↔ r ∈ t.rows ∧ key r = k :=
  ⟨fun h => ⟨mem_of_find? h, key_of_find? h⟩, fun ⟨hr, hk⟩ => hk ▸ find?_of_mem hr⟩

theorem find?_eq_none_iff {t : Table ρ key} {k : κ} :
    t.find? k = none ↔ ∀ r ∈ t.rows, key r ≠ k := by
  simp [find?, List.find?_eq_none]

/-! ## Insertion -/

/-- Add the row `r`, unless its key is present. -/
def insert? (t : Table ρ key) (r : ρ) : Option (Table ρ key) :=
  if h : key r ∈ t.rows.map key then none
  else some ⟨t.rows ++ [r], by
    rw [List.map_append, List.nodup_append]
    refine ⟨t.unique, List.nodup_singleton _, ?_⟩
    rintro a ha b hb rfl
    exact h (List.mem_singleton.1 hb ▸ ha)⟩

theorem insert?_eq_some_iff {t u : Table ρ key} {r : ρ} :
    t.insert? r = some u ↔ t.find? (key r) = none ∧ u.rows = t.rows ++ [r] := by
  rw [find?_eq_none_iff]
  unfold insert?
  split_ifs with h
  · obtain ⟨q, hq, hk⟩ := List.mem_map.1 h
    simp only [false_iff, not_and]
    exact fun hn => absurd hk (hn q hq)
  · simp only [Option.some.injEq, Table.ext_iff]
    constructor
    · intro hu
      exact ⟨fun q hq hk => h (List.mem_map.2 ⟨q, hq, hk⟩), hu.symm⟩
    · exact fun hu => hu.2.symm

theorem exists_insert? {t : Table ρ key} {r : ρ} (h : t.find? (key r) = none) :
    ∃ u, t.insert? r = some u ∧ u.rows = t.rows ++ [r] := by
  cases hu : t.insert? r with
  | some u => exact ⟨u, rfl, (insert?_eq_some_iff.1 hu).2⟩
  | none =>
    unfold insert? at hu
    split_ifs at hu with hm
    obtain ⟨q, hq, hk⟩ := List.mem_map.1 hm
    exact absurd hk (find?_eq_none_iff.1 h q hq)

/-- A key that is present cannot be inserted. -/
theorem insert?_of_some {t : Table ρ key} {r q : ρ} (h : t.find? (key r) = some q) :
    t.insert? r = none := by
  rw [Option.eq_none_iff_forall_ne_some]
  intro u hu
  simp [(insert?_eq_some_iff.1 hu).1] at h

theorem find?_of_rows_append {t u : Table ρ key} {r : ρ} (h : u.rows = t.rows ++ [r])
    (hr : t.find? (key r) = none) (k : κ) :
    u.find? k = if k = key r then some r else t.find? k := by
  unfold find? at hr ⊢
  rw [h, List.find?_append]
  split_ifs with hk
  · subst hk
    simp [hr]
  · simp [Ne.symm hk]

theorem find?_insert? {t u : Table ρ key} {r : ρ} (h : t.insert? r = some u) (k : κ) :
    u.find? k = if k = key r then some r else t.find? k :=
  find?_of_rows_append (insert?_eq_some_iff.1 h).2 (insert?_eq_some_iff.1 h).1 k

/-- `INSERT ... ON CONFLICT DO NOTHING`. -/
def insertOrIgnore (t : Table ρ key) (r : ρ) : Table ρ key :=
  (t.insert? r).getD t

theorem insertOrIgnore_of_some {t : Table ρ key} {r q : ρ} (h : t.find? (key r) = some q) :
    t.insertOrIgnore r = t := by
  rw [insertOrIgnore, insert?_of_some h, Option.getD_none]

theorem find?_insertOrIgnore (t : Table ρ key) (r : ρ) (k : κ) :
    (t.insertOrIgnore r).find? k =
      if k = key r then some ((t.find? (key r)).getD r) else t.find? k := by
  cases hr : t.find? (key r) with
  | none =>
    obtain ⟨u, hu, -⟩ := exists_insert? hr
    simp [insertOrIgnore, hu, find?_insert? hu]
  | some q =>
    rw [insertOrIgnore_of_some hr]
    split_ifs with hk
    · simp [hk, hr]
    · rfl

/-! ## Update -/

/-- `f` on the row with key `k`. -/
def update (t : Table ρ key) (k : κ) (f : ρ → ρ) (hf : ∀ r, key (f r) = key r) : Table ρ key where
  rows := t.rows.map fun r => if key r = k then f r else r
  unique := by
    rw [List.map_map]
    convert t.unique using 2
    funext r
    by_cases h : key r = k <;> simp [h, hf]

theorem rows_update (t : Table ρ key) (k : κ) (f : ρ → ρ) (hf : ∀ r, key (f r) = key r) :
    (t.update k f hf).rows = t.rows.map fun r => if key r = k then f r else r := rfl

theorem update_eq_self {t : Table ρ key} {k : κ} {f : ρ → ρ} {hf : ∀ r, key (f r) = key r}
    (h : ∀ r, t.find? k = some r → f r = r) : t.update k f hf = t := by
  ext1
  rw [rows_update]
  refine (List.map_congr_left fun r hr => ?_).trans (List.map_id _)
  split_ifs with hk
  · exact h r (hk ▸ find?_of_mem hr)
  · rfl

theorem find?_update (t : Table ρ key) (k : κ) (f : ρ → ρ) (hf : ∀ r, key (f r) = key r) (l : κ) :
    (t.update k f hf).find? l = if l = k then (t.find? k).map f else t.find? l := by
  have hkey : ∀ r, key (if key r = k then f r else r) = key r := by
    intro r
    by_cases h : key r = k <;> simp [h, hf]
  unfold find?
  rw [rows_update, List.find?_map]
  simp only [Function.comp_def, hkey]
  split_ifs with hl
  · subst hl
    cases h : t.rows.find? fun r => key r = l with
    | none => rfl
    | some r => simp [key_of_find? (t := t) h]
  · cases h : t.rows.find? fun r => key r = l with
    | none => rfl
    | some r => simp [key_of_find? (t := t) h, hl]

/-! ## Upsert -/

/-- Add the row `r`, or `f` on the row that has its key. -/
def upsert (t : Table ρ key) (r : ρ) (f : ρ → ρ) (hf : ∀ r, key (f r) = key r) : Table ρ key :=
  match t.insert? r with
  | some u => u
  | none => t.update (key r) f hf

theorem find?_upsert (t : Table ρ key) (r : ρ) (f : ρ → ρ) (hf : ∀ r, key (f r) = key r) (k : κ) :
    (t.upsert r f hf).find? k =
      if k = key r then some ((t.find? (key r)).elim r f) else t.find? k := by
  unfold upsert
  cases hr : t.find? (key r) with
  | none =>
    obtain ⟨u, hu, -⟩ := exists_insert? hr
    simp [hu, find?_insert? hu]
  | some q => simp [insert?_of_some hr, find?_update, hr]

/-! ## Selection -/

/-- The rows that satisfy `p`, in insertion order. -/
def select (t : Table ρ key) (p : ρ → Bool) : List ρ :=
  t.rows.filter p

omit [DecidableEq κ] in
theorem mem_select {t : Table ρ key} {p : ρ → Bool} {r : ρ} :
    r ∈ t.select p ↔ r ∈ t.rows ∧ p r = true :=
  List.mem_filter

/-- The rows with key `k` are the one row with key `k`. -/
theorem select_key (t : Table ρ key) (k : κ) :
    (t.select fun r => key r = k) = (t.find? k).toList := by
  obtain ⟨rows, hunique⟩ := t
  unfold select find?
  induction rows with
  | nil => rfl
  | cons r rows ih =>
    obtain ⟨hr, hrows⟩ := List.nodup_cons.1 hunique
    by_cases hk : key r = k
    · have hnone : ∀ q ∈ rows, ¬key q = k := fun q hq hqk =>
        hr (List.mem_map.2 ⟨q, hq, hqk.trans hk.symm⟩)
      simpa [hk] using hnone
    · simpa [hk] using ih hrows

end Table

end Keyed
