import Mathlib.Data.Int.Order.Basic
import Mathlib.Data.List.Dedup
import Mathlib.Data.List.Sort
import ReliabilityLab.Table
import ReliabilityLab.Transaction

/-!
# Text, collections, digests and exceptions

What the modules of the package take from Python. Text is a sequence of code points.
`isBlank` is `not value.strip()`, with the white space that `str.strip` removes.
`Dict` is a `dict` with its insertion order.
`jsonArray` is `json.dumps` of a list of strings with `ensure_ascii=False` and the
separators `(",", ":")`. The SHA-256 digest of a text's UTF-8 encoding is a parameter
(`Hashlib`) : no result here looks inside it, and those that need two digests to
differ, or a digest to be hexadecimal, say so.

`Raised` is an exception with its class and message.
-/

namespace ReliabilityLab

/-! ## Text -/

/-- `str.isspace` of one code point. -/
def isSpace (c : Char) : Bool :=
  let n := c.toNat
  (0x9 ≤ n && n ≤ 0xd) || (0x1c ≤ n && n ≤ 0x20) || n == 0x85 || n == 0xa0 || n == 0x1680 ||
    (0x2000 ≤ n && n ≤ 0x200a) || n == 0x2028 || n == 0x2029 || n == 0x202f || n == 0x205f ||
    n == 0x3000

/-- `not value.strip()`. -/
def isBlank (value : String) : Bool :=
  value.toList.all isSpace

theorem isBlank_eq_false {value : String} (h : ¬isBlank value = true) : isBlank value = false :=
  Bool.eq_false_of_not_eq_true h

/-- What holds of the first code points holds of their characters. -/
theorem forall_char_lt {bound : ℕ} (p : Char → Prop) (h : ∀ n < bound, p (Char.ofNat n)) {c : Char}
    (hc : c.toNat < bound) : p c := by
  have hp := h c.toNat hc
  rwa [Char.ofNat_toNat] at hp

/-- The JSON escape of one code point. -/
def jsonEscape (c : Char) : List Char :=
  if c = '"' then ['\\', '"']
  else if c = '\\' then ['\\', '\\']
  else if c = '\n' then ['\\', 'n']
  else if c = '\r' then ['\\', 'r']
  else if c = '\t' then ['\\', 't']
  else if c.toNat = 0x8 then ['\\', 'b']
  else if c.toNat = 0xc then ['\\', 'f']
  else if c.toNat < 0x20 then
    ['\\', 'u', '0', '0', Nat.digitChar (c.toNat / 16), Nat.digitChar (c.toNat % 16)]
  else [c]

/-- `json.dumps` of one string. -/
def jsonString (value : String) : List Char :=
  '"' :: value.toList.flatMap jsonEscape ++ ['"']

/-- `json.dumps` of a list of values already encoded. -/
def jsonArray (items : List (List Char)) : List Char :=
  '[' :: List.intercalate [','] items ++ [']']

/-! ## Lists -/

/-- The element at `k` of a list with one more element at its end. -/
theorem getElem?_concat_eq_some {α : Type} {xs : List α} {x y : α} {k : Nat} :
    (xs ++ [x])[k]? = some y ↔ xs[k]? = some y ∨ k = xs.length ∧ x = y := by
  rcases lt_trichotomy k xs.length with hk | rfl | hk
  · rw [List.getElem?_append_left hk]
    simp [hk.ne]
  · simp
  · rw [List.getElem?_eq_none (by simp; omega), List.getElem?_eq_none hk.le]
    simp [hk.ne']

/-- An element of the second of two related lists is related to the one at its position. -/
theorem exists_of_forall₂_getElem? {α β : Type} {R : α → β → Prop} {as : List α} {bs : List β}
    (h : List.Forall₂ R as bs) {k : Nat} {b : β} (hb : bs[k]? = some b) :
    ∃ a, as[k]? = some a ∧ R a b := by
  induction h generalizing k with
  | nil => simp at hb
  | @cons a b' as bs hr _ ih =>
    rcases k with _ | k
    · obtain rfl : b' = b := by simpa using hb
      exact ⟨a, rfl, hr⟩
    · exact ih (by simpa using hb)

/-- Of two related lists, all elements of one have a property if all of the other have one that
the relation carries over. -/
theorem forall_mem_iff_of_forall₂ {α β : Type} {R : α → β → Prop} {p : α → Prop} {q : β → Prop}
    {as : List α} {bs : List β} (h : List.Forall₂ R as bs) (hpq : ∀ a b, R a b → (p a ↔ q b)) :
    (∀ a ∈ as, p a) ↔ ∀ b ∈ bs, q b := by
  induction h with
  | nil => simp
  | cons hr _ ih => rw [List.forall_mem_cons, List.forall_mem_cons, ih, hpq _ _ hr]

/-- `len(xs) != len(set(xs))`. -/
def HasDuplicates {α : Type} [DecidableEq α] (xs : List α) : Prop :=
  xs.length ≠ xs.dedup.length

instance {α : Type} [DecidableEq α] (xs : List α) : Decidable (HasDuplicates xs) :=
  inferInstanceAs (Decidable (xs.length ≠ xs.dedup.length))

theorem not_hasDuplicates {α : Type} [DecidableEq α] {xs : List α} :
    ¬HasDuplicates xs ↔ xs.Nodup := by
  unfold HasDuplicates
  rw [not_not]
  refine ⟨fun h => ?_, fun h => by rw [h.dedup]⟩
  rw [← List.dedup_eq_self]
  exact (List.dedup_sublist xs).eq_of_length h.symm

/-- `sequences != sorted(sequences) or len(sequences) != len(set(sequences))`. -/
def OutOfOrder (sequences : List Int) : Prop :=
  sequences ≠ sequences.insertionSort (· ≤ ·) ∨ HasDuplicates sequences

instance (sequences : List Int) : Decidable (OutOfOrder sequences) :=
  inferInstanceAs (Decidable (_ ∨ _))

theorem not_outOfOrder {sequences : List Int} :
    ¬OutOfOrder sequences ↔ sequences.Pairwise (· < ·) := by
  unfold OutOfOrder
  rw [not_or, not_not, not_hasDuplicates]
  refine ⟨fun ⟨hsorted, hnodup⟩ => ?_, fun h => ⟨?_, h.imp ne_of_lt⟩⟩
  · have hle : sequences.SortedLE := hsorted ▸ List.sortedLE_insertionSort
    exact (hle.sortedLT_of_nodup hnodup).pairwise
  · exact (List.Pairwise.insertionSort_eq (h.imp le_of_lt)).symm

/-- `xs[n:]`. -/
def sliceFrom {α : Type} (xs : List α) (n : Int) : List α :=
  xs.drop (if n < 0 then (xs.length + n).toNat else n.toNat)

/-! ## Dictionaries -/

/-- A `dict` : its items, in insertion order. -/
abbrev Dict (κ β : Type) := Keyed.Table (κ × β) Prod.fst

namespace Dict

variable {κ β : Type} [DecidableEq κ]

/-- `d.get(k)`. -/
def get? (d : Dict κ β) (k : κ) : Option β :=
  (d.find? k).map Prod.snd

/-- `d[k] = v` : a new item at the end, or a new value in its place. -/
def set (d : Dict κ β) (k : κ) (v : β) : Dict κ β :=
  d.upsert (k, v) (fun item => (item.1, v)) fun _ => rfl

@[simp] theorem get?_empty (k : κ) : get? (.empty : Dict κ β) k = none := rfl

theorem get?_set (d : Dict κ β) (k : κ) (v : β) (l : κ) :
    (d.set k v).get? l = if l = k then some v else d.get? l := by
  unfold get? set
  rw [Keyed.Table.find?_upsert]
  split_ifs with h
  · rcases d.find? k with _ | item <;> rfl
  · rfl

/-- The items are the keys with their values. -/
theorem mem_rows {d : Dict κ β} {k : κ} {v : β} : (k, v) ∈ d.rows ↔ d.get? k = some v := by
  simp only [get?, Option.map_eq_some_iff, Keyed.Table.find?_eq_some_iff]
  refine ⟨fun h => ⟨(k, v), ⟨h, rfl⟩, rfl⟩, ?_⟩
  rintro ⟨⟨k', v'⟩, ⟨h, rfl⟩, rfl⟩
  exact h

/-- The keys of the dictionary are those of the items `as`, each with the value that all
its items have. -/
structure Binds {α : Type} (d : Dict κ β) (key : α → κ) (value : α → β) (as : List α) : Prop where
  absent : ∀ k, d.get? k = none ↔ ∀ a ∈ as, key a ≠ k
  bound : ∀ k v, d.get? k = some v → ∀ a ∈ as, key a = k → value a = v

section Binds

variable {α : Type} {d : Dict κ β} {key : α → κ} {value : α → β} {as : List α} {a : α}

theorem binds_empty : Binds (.empty : Dict κ β) key value [] :=
  ⟨fun k => by simp, fun k v h => by simp at h⟩

/-- The key of an item is there with its value if and only if items before have the key, and
all of them the value. -/
theorem Binds.get?_eq (h : d.Binds key value as) :
    d.get? (key a) = some (value a) ↔
      (∃ b ∈ as, key b = key a) ∧ ∀ b ∈ as, key b = key a → value b = value a := by
  constructor
  · intro ha
    refine ⟨?_, h.bound _ _ ha⟩
    by_contra hnone
    push Not at hnone
    rw [(h.absent _).2 hnone] at ha
    cases ha
  · rintro ⟨⟨b, hb, hkey⟩, hvalue⟩
    rcases hget : d.get? (key a) with _ | v
    · exact absurd hkey ((h.absent _).1 hget b hb)
    · rw [← h.bound _ v hget b hb hkey, hvalue b hb hkey]

/-- One more item with the value its key has. -/
theorem Binds.concat (h : d.Binds key value as) (ha : d.get? (key a) = some (value a)) :
    d.Binds key value (as ++ [a]) := by
  refine ⟨fun k => ?_, fun k v hv b hb hkey => ?_⟩
  · rw [h.absent, List.forall_mem_append, List.forall_mem_singleton]
    refine ⟨fun hnone => ⟨hnone, ?_⟩, And.left⟩
    rintro rfl
    rw [(h.absent _).2 hnone] at ha
    cases ha
  · rcases List.mem_append.1 hb with hb | hb
    · exact h.bound k v hv b hb hkey
    · rw [List.mem_singleton.1 hb] at hkey ⊢
      rw [hkey, hv] at ha
      exact (Option.some.inj ha).symm

/-- One more item, with a new key. -/
theorem Binds.set (h : d.Binds key value as) (ha : d.get? (key a) = none) :
    (Dict.set d (key a) (value a)).Binds key value (as ++ [a]) := by
  refine ⟨fun k => ?_, fun k v hv b hb hkey => ?_⟩
  · rw [get?_set, List.forall_mem_append, List.forall_mem_singleton, ← h.absent]
    split_ifs with hk
    · simp [hk]
    · simp [Ne.symm hk]
  · rw [get?_set] at hv
    split_ifs at hv with hk
    · rcases List.mem_append.1 hb with hb | hb
      · exact absurd (hkey.trans hk) ((h.absent _).1 ha b hb)
      · rw [List.mem_singleton.1 hb]
        exact Option.some.inj hv
    · rcases List.mem_append.1 hb with hb | hb
      · exact h.bound k v hv b hb hkey
      · rw [List.mem_singleton.1 hb] at hkey
        exact absurd hkey.symm hk

end Binds

end Dict

/-! ## Digests -/

/-- `hashlib.sha256(text.encode()).hexdigest()`. -/
class Hashlib where
  sha256Hexdigest : String → String

/-! ## Exceptions -/

/-- The exception classes the package raises or lets through. -/
inductive ErrorClass where
  | valueError
  | integrityError
  | remoteStateAmbiguous
  | reconciliationConflict
  | retrySafetyUnknown
  | staleProviderReadback
  | evidenceLineageConflict
  | supersededReconciliationDecision
  | approvalConflict
  | approvalRequired
  | approvalDenied
  | idempotencyConflict
  | terminalStateConflict
  | checkpointConflict
  | staleCheckpoint
  | fencingConflict
  | staleFencingToken
  | typeError
  | keyError
  | indexError
  | attributeError
  | zeroDivisionError
  | unicodeDecodeError
  | unicodeEncodeError
  deriving DecidableEq, Repr

/-- A raised exception. -/
structure Raised where
  error : ErrorClass
  message : String
  deriving DecidableEq, Repr

/-- The exception of a violated `PRIMARY KEY` or `UNIQUE` constraint. -/
def uniqueFailed (columns : String) : Raised :=
  ⟨.integrityError, "UNIQUE constraint failed: " ++ columns⟩

/-- The exception of a violated `REFERENCES` constraint. -/
def foreignKeyFailed : Raised :=
  ⟨.integrityError, "FOREIGN KEY constraint failed"⟩

end ReliabilityLab
