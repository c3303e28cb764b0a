import Mathlib.Data.Rat.Defs
import Mathlib.Data.String.Basic
import ReliabilityLab.Python

/-!
# JSON values

The values that `json.loads` gives, with the operations the package uses on them. A float
is a rational, an infinity or the not-a-number; it has one zero, since no operation here
tells `-0.0` from `0.0`. The members of an object are a list in which a key stands for its
first member, so a repeated key changes nothing.

`PyEq` is Python's `==` : numbers are compared across their types, booleans are the
numbers 0 and 1, and objects are compared without the order of their members. It is the
equality of canonical forms (`norm`), except that the not-a-number is not equal to itself.
Inside containers it is, since `json.loads` gives one object for it and containers compare
their items by identity first.
-/

namespace ReliabilityLab

/-! ## Values -/

/-- A float, by its exact value. -/
inductive PyFloat where
  | finite (value : ℚ)
  | infinite (negative : Bool)
  | nan
  deriving DecidableEq

/-- A value that `json.loads` gives. -/
inductive Json where
  | null
  | bool (value : Bool)
  | int (value : Int)
  | float (value : PyFloat)
  | str (value : String)
  | list (items : List Json)
  | dict (members : List (String × Json))

/-- The members of an object. -/
abbrev Mapping := List (String × Json)

namespace Json

mutual

/-- Structural equality. -/
def beq : Json → Json → Bool
  | .null, .null => true
  | .bool a, .bool b => a = b
  | .int m, .int n => m = n
  | .float x, .float y => x = y
  | .str s, .str t => s = t
  | .list xs, .list ys => beqList xs ys
  | .dict ms, .dict ns => beqMembers ms ns
  | _, _ => false

/-- `==` of lists. -/
def beqList : List Json → List Json → Bool
  | [], [] => true
  | x :: xs, y :: ys => beq x y && beqList xs ys
  | _, _ => false

/-- Equality of lists of members. -/
def beqMembers : List (String × Json) → List (String × Json) → Bool
  | [], [] => true
  | (k, v) :: ms, (l, w) :: ns => k = l && beq v w && beqMembers ms ns
  | _, _ => false

end

mutual

theorem beq_iff : ∀ a b : Json, beq a b = true ↔ a = b
  | .null, b => by cases b <;> simp [beq]
  | .bool _, b => by cases b <;> simp [beq]
  | .int _, b => by cases b <;> simp [beq]
  | .float _, b => by cases b <;> simp [beq]
  | .str _, b => by cases b <;> simp [beq]
  | .list xs, b => by cases b <;> simp [beq, beqList_iff xs]
  | .dict ms, b => by cases b <;> simp [beq, beqMembers_iff ms]

theorem beqList_iff : ∀ xs ys : List Json, beqList xs ys = true ↔ xs = ys
  | [], ys => by cases ys <;> simp [beqList]
  | x :: xs, ys => by cases ys <;> simp [beqList, beq_iff x, beqList_iff xs]

theorem beqMembers_iff : ∀ ms ns : List (String × Json), beqMembers ms ns = true ↔ ms = ns
  | [], ns => by cases ns <;> simp [beqMembers]
  | (k, v) :: ms, ns => by
    rcases ns with _ | ⟨⟨l, w⟩, ns⟩ <;> simp [beqMembers, beq_iff v, beqMembers_iff ms]

end

instance : DecidableEq Json :=
  fun a b => decidable_of_iff _ (beq_iff a b)

end Json

/-! ## Objects -/

namespace Mapping

/-- The value of `m[key]`. -/
def get? (m : Mapping) (key : String) : Option Json :=
  m.lookup key

/-- `m.get(key)`. -/
def get (m : Mapping) (key : String) : Json :=
  (m.get? key).getD .null

/-- `m[key] = value` for a key that `m` has. -/
def set (m : Mapping) (key : String) (value : Json) : Mapping :=
  m.map fun member => if member.1 = key then (key, value) else member

/-- `del m[key]`. -/
def del (m : Mapping) (key : String) : Mapping :=
  m.filter fun member => member.1 ≠ key

@[simp] theorem get?_nil (key : String) : get? [] key = none := rfl

theorem get?_cons (k : String) (v : Json) (m : Mapping) (key : String) :
    get? ((k, v) :: m) key = if key = k then some v else get? m key := by
  unfold get?
  rw [List.lookup_cons]
  by_cases h : key = k
  · simp [h]
  · simp [h, beq_eq_false_iff_ne.2 h]

theorem get?_set (m : Mapping) (key : String) (value : Json) (k : String) :
    (m.set key value).get? k = if k = key then (m.get? key).map fun _ => value else m.get? k := by
  induction m with
  | nil => simp [set]
  | cons member m ih =>
    obtain ⟨l, w⟩ := member
    have ih' := ih
    unfold set at ih' ⊢
    rw [List.map_cons]
    by_cases hl : l = key
    · subst hl
      by_cases hk : k = l
      · simp [hk, get?_cons]
      · simpa [hk, get?_cons] using ih'
    · by_cases hk : k = l
      · have hkey : ¬l = key := hl
        simp [hk, hkey, get?_cons]
      · by_cases hkk : k = key
        · subst hkk
          simpa [hl, hk, get?_cons] using ih'
        · simpa [hl, hk, hkk, get?_cons] using ih'

theorem get?_del (m : Mapping) (key k : String) :
    (m.del key).get? k = if k = key then none else m.get? k := by
  induction m with
  | nil => simp [del]
  | cons member m ih =>
    obtain ⟨l, w⟩ := member
    have ih' := ih
    unfold del at ih' ⊢
    rw [List.filter_cons]
    by_cases hl : l = key
    · subst hl
      by_cases hk : k = l
      · simpa [hk] using ih'
      · simpa [hk, get?_cons] using ih'
    · by_cases hk : k = l
      · simp [hl, hk, get?_cons]
      · simpa [hl, hk, get?_cons] using ih'

theorem get_set {m : Mapping} {key : String} (h : m.get? key ≠ none) (value : Json) (k : String) :
    (m.set key value).get k = if k = key then value else m.get k := by
  obtain ⟨old, hold⟩ := Option.ne_none_iff_exists'.1 h
  unfold get
  rw [get?_set, hold]
  split_ifs <;> rfl

theorem get_del (m : Mapping) (key k : String) :
    (m.del key).get k = if k = key then .null else m.get k := by
  unfold get
  rw [get?_del]
  split_ifs <;> rfl

theorem get_eq_null_of_get? {m : Mapping} {key : String} (h : m.get? key = none) :
    m.get key = .null := by
  simp [get, h]

theorem get?_ne_none_of_get {m : Mapping} {key : String} (h : m.get key ≠ .null) :
    m.get? key ≠ none :=
  fun hn => h (get_eq_null_of_get? hn)

end Mapping

/-! ## Equality -/

/-- A number with an integral value is that integer. -/
def PyFloat.norm : PyFloat → Json
  | .finite q => if q.den = 1 then .int q.num else .float (.finite q)
  | x => .float x

/-- A member with its key's place in the order of the keys, or in place of the key's
member. -/
def putMember (k : String) (v : Json) : Mapping → Mapping
  | [] => [(k, v)]
  | (l, w) :: ms =>
    if k < l then (k, v) :: (l, w) :: ms
    else if k = l then (k, v) :: ms
    else (l, w) :: putMember k v ms

namespace Json

mutual

/-- The canonical form : what `==` does not tell apart has one form. -/
def norm : Json → Json
  | .null => .null
  | .bool b => .int (if b then 1 else 0)
  | .int n => .int n
  | .float x => x.norm
  | .str s => .str s
  | .list xs => .list (normList xs)
  | .dict ms => .dict (normMembers ms)

/-- The values of a list with their members in order. -/
def normList : List Json → List Json
  | [] => []
  | x :: xs => norm x :: normList xs

/-- The members in order, with their values. -/
def normMembers : List (String × Json) → List (String × Json)
  | [] => []
  | (k, v) :: ms => putMember k (norm v) (normMembers ms)

end

/-- `a == b`. -/
def PyEq (a b : Json) : Prop :=
  a ≠ .float .nan ∧ a.norm = b.norm

instance (a b : Json) : Decidable (PyEq a b) :=
  inferInstanceAs (Decidable (_ ∧ _))

theorem norm_eq_nan {a : Json} : a.norm = .float .nan ↔ a = .float .nan := by
  rcases a with _ | _ | _ | (q | _ | _) | _ | _ | _ <;> simp [norm, PyFloat.norm]
  split_ifs <;> simp

theorem PyEq.symm {a b : Json} (h : PyEq a b) : PyEq b a := by
  refine ⟨fun hb => h.1 ?_, h.2.symm⟩
  rw [← norm_eq_nan, h.2, norm_eq_nan]
  exact hb

theorem PyEq.trans {a b c : Json} (h : PyEq a b) (h' : PyEq b c) : PyEq a c :=
  ⟨h.1, h.2.trans h'.2⟩

theorem pyEq_comm {a b : Json} : PyEq a b ↔ PyEq b a :=
  ⟨PyEq.symm, PyEq.symm⟩

theorem norm_eq_str {a : Json} {s : String} : a.norm = .str s ↔ a = .str s := by
  rcases a with _ | _ | _ | (q | _ | _) | _ | _ | _ <;> simp [norm, PyFloat.norm]
  split_ifs <;> simp

theorem norm_eq_null {a : Json} : a.norm = .null ↔ a = .null := by
  rcases a with _ | _ | _ | (q | _ | _) | _ | _ | _ <;> simp [norm, PyFloat.norm]
  split_ifs <;> simp

/-- A text is equal to itself only. -/
@[simp] theorem pyEq_str {a : Json} {s : String} : PyEq a (.str s) ↔ a = .str s := by
  refine ⟨fun h => norm_eq_str.1 (h.2.trans rfl), ?_⟩
  rintro rfl
  exact ⟨by simp, rfl⟩

/-- `None` is equal to itself only. -/
@[simp] theorem pyEq_null {a : Json} : PyEq a .null ↔ a = .null := by
  refine ⟨fun h => norm_eq_null.1 (h.2.trans rfl), ?_⟩
  rintro rfl
  exact ⟨by simp, rfl⟩

theorem get?_putMember (k : String) (v : Json) (ms : Mapping) (l : String) :
    Mapping.get? (putMember k v ms) l = if l = k then some v else Mapping.get? ms l := by
  induction ms with
  | nil => rw [putMember, Mapping.get?_cons]
  | cons member ms ih =>
    obtain ⟨l', w⟩ := member
    unfold putMember
    by_cases hlt : k < l'
    · rw [if_pos hlt, Mapping.get?_cons]
    by_cases heq : k = l'
    · rw [if_neg hlt, if_pos heq, Mapping.get?_cons, Mapping.get?_cons, heq]
      split_ifs <;> rfl
    · rw [if_neg hlt, if_neg heq, Mapping.get?_cons, Mapping.get?_cons, ih]
      by_cases hl : l = l'
      · rw [if_pos hl, if_pos hl, if_neg fun h => heq (h.symm.trans hl)]
      · rw [if_neg hl, if_neg hl]

theorem get?_normMembers (ms : Mapping) (k : String) :
    Mapping.get? (normMembers ms) k = (ms.get? k).map norm := by
  induction ms with
  | nil => rfl
  | cons member ms ih =>
    obtain ⟨l, w⟩ := member
    rw [normMembers, get?_putMember, ih, Mapping.get?_cons]
    split_ifs <;> rfl

theorem get_normMembers (ms : Mapping) (k : String) :
    Mapping.get (normMembers ms) k = (ms.get k).norm := by
  unfold Mapping.get
  rw [get?_normMembers]
  rcases ms.get? k with _ | v <;> rfl

theorem norm_eq_dict {a : Json} {ns : Mapping} (h : a.norm = .dict ns) :
    ∃ ms, a = .dict ms ∧ normMembers ms = ns := by
  rcases a with _ | _ | _ | (q | _ | _) | _ | _ | ms <;> simp [norm, PyFloat.norm] at h
  · split_ifs at h
  · exact ⟨ms, rfl, h⟩

theorem normList_eq_map (xs : List Json) : normList xs = xs.map norm := by
  induction xs with
  | nil => rfl
  | cons x xs ih => rw [normList, ih, List.map_cons]

theorem norm_eq_list {a : Json} {ys : List Json} (h : a.norm = .list ys) :
    ∃ xs, a = .list xs ∧ xs.map norm = ys := by
  rcases a with _ | _ | _ | (q | _ | _) | _ | xs | _ <;> simp [norm, PyFloat.norm] at h
  · split_ifs at h
  · exact ⟨xs, rfl, by rw [← normList_eq_map, h]⟩

theorem pyEq_of_norm {a b : Json} (h : a.norm = b.norm) (hb : b ≠ .float .nan) : PyEq a b :=
  pyEq_comm.1 ⟨hb, h.symm⟩

/-- An object is equal to objects with equal members only. -/
theorem PyEq.dict {a : Json} {ns : Mapping} (h : PyEq a (.dict ns)) :
    ∃ ms : Mapping, a = .dict ms ∧ ∀ k, (ms.get k).norm = (ns.get k).norm := by
  obtain ⟨ms, rfl, hms⟩ := norm_eq_dict (h.2.trans (by rw [norm]))
  refine ⟨ms, rfl, fun k => ?_⟩
  rw [← get_normMembers, ← get_normMembers, hms]

/-- A list is equal to lists with equal items only. -/
theorem PyEq.list {a : Json} {ys : List Json} (h : PyEq a (.list ys)) :
    ∃ xs, a = .list xs ∧ xs.map norm = ys.map norm := by
  obtain ⟨xs, rfl, hxs⟩ := norm_eq_list (h.2.trans (by rw [norm]))
  exact ⟨xs, rfl, hxs.trans (normList_eq_map ys)⟩

/-! ## Types -/

/-- The value of an `int`. A `bool` is one. -/
def intValue? : Json → Option Int
  | .int n => some n
  | .bool b => some (if b then 1 else 0)
  | _ => none

theorem norm_of_intValue? {a : Json} {n : Int} (h : a.intValue? = some n) : a.norm = .int n := by
  rcases a with _ | _ | _ | _ | _ | _ | _ <;> simp_all [intValue?, norm]

/-- Two integers are equal if their values are. -/
theorem pyEq_of_intValue? {a b : Json} {m n : Int} (ha : a.intValue? = some m)
    (hb : b.intValue? = some n) : PyEq a b ↔ m = n := by
  have hne : a ≠ .float .nan := by
    rintro rfl
    simp [intValue?] at ha
  unfold PyEq
  rw [norm_of_intValue? ha, norm_of_intValue? hb]
  simp [hne]

/-- `isinstance(value, str) and value`. -/
def nonemptyStr? : Json → Option String
  | .str s => if s = "" then none else some s
  | _ => none

theorem nonemptyStr?_eq_some {a : Json} {s : String} :
    a.nonemptyStr? = some s ↔ a = .str s ∧ s ≠ "" := by
  rcases a with _ | _ | _ | _ | t | _ | _ <;> simp [nonemptyStr?]
  exact ⟨fun h => ⟨h.2, h.2 ▸ h.1⟩, fun h => ⟨h.1 ▸ h.2, h.1⟩⟩

/-- The exception of hashing a value that has no hash. -/
def unhashable (type : String) : Raised :=
  ⟨.typeError, "unhashable type: '" ++ type ++ "'"⟩

/-- The members of an object. -/
def members : Json → Mapping
  | .dict members => members
  | _ => []

/-- The value has a hash. -/
def Hashable : Json → Prop
  | .list _ | .dict _ => False
  | _ => True

/-- `value in members`, for a set of texts. -/
def inSet (value : Json) (members : List String) : Except Raised Bool :=
  match value with
  | .list _ => .error (unhashable "list")
  | .dict _ => .error (unhashable "dict")
  | .str s => .ok (s ∈ members)
  | _ => .ok false

theorem inSet_of_hashable {value : Json} (h : value.Hashable) (members : List String) :
    ∃ known, value.inSet members = .ok known := by
  rcases value with _ | _ | _ | _ | _ | _ | _ <;> simp [inSet]
  · exact h
  · exact h

end Json

/-- The name of a value's type. -/
def Json.typeName : Json → String
  | .null => "NoneType"
  | .bool _ => "bool"
  | .int _ => "int"
  | .float _ => "float"
  | .str _ => "str"
  | .list _ => "list"
  | .dict _ => "dict"

/-- The object whose `get` is called. -/
def Json.getter : Json → Except Raised Mapping
  | .dict members => .ok members
  | value =>
    .error ⟨.attributeError, "'" ++ value.typeName ++ "' object has no attribute 'get'"⟩

theorem getter_returns {value : Json} {members : Mapping} :
    value.getter = .ok members ↔ value = .dict members := by
  rcases value with _ | _ | _ | _ | _ | _ | items <;> simp [Json.getter]

/-- `value[key]`, for a text. -/
def Json.subscript (value : Json) (key : String) : Except Raised Json :=
  match value with
  | .dict members =>
    match Mapping.get? members key with
    | some item => .ok item
    | none => .error ⟨.keyError, key⟩
  | .list _ => .error ⟨.typeError, "list indices must be integers or slices, not str"⟩
  | .str _ => .error ⟨.typeError, "string indices must be integers, not 'str'"⟩
  | _ => .error ⟨.typeError, "'" ++ value.typeName ++ "' object is not subscriptable"⟩

theorem subscript_returns {members : Mapping} {key : String} {value : Json} :
    (Json.dict members).subscript key = .ok value ↔ members.get? key = some value := by
  unfold Json.subscript
  rcases hvalue : Mapping.get? members key with _ | other <;> simp [hvalue]

/-- `sorted(members.items())`. -/
def Json.sortedItems (members : Mapping) : Mapping :=
  members.foldr (fun member items => putMember member.1 member.2 items) []

theorem Json.get?_sortedItems (ms : Mapping) (k : String) :
    Mapping.get? (sortedItems ms) k = ms.get? k := by
  induction ms with
  | nil => rfl
  | cons member ms ih =>
    obtain ⟨l, w⟩ := member
    have hcons : sortedItems ((l, w) :: ms) = putMember l w (sortedItems ms) := rfl
    rw [hcons, get?_putMember, Mapping.get?_cons, ih]

theorem Json.mem_map_putMember {k : String} {v : Json} {ms : Mapping} {l : String} :
    l ∈ (putMember k v ms).map Prod.fst ↔ l = k ∨ l ∈ ms.map Prod.fst := by
  induction ms with
  | nil => simp [putMember]
  | cons member ms ih =>
    obtain ⟨l', w⟩ := member
    unfold putMember
    split_ifs with hlt heq
    · simp
    · subst heq
      simp
    · simp only [List.map_cons, List.mem_cons, ih]
      tauto

/-- The items come in the order of their keys. -/
theorem Json.putMember_pairwise {k : String} {v : Json} {ms : Mapping}
    (h : (ms.map Prod.fst).Pairwise (· < ·)) :
    ((putMember k v ms).map Prod.fst).Pairwise (· < ·) := by
  induction ms with
  | nil => simp [putMember]
  | cons member ms ih =>
    obtain ⟨l, w⟩ := member
    obtain ⟨hl, hms⟩ := List.pairwise_cons.1 h
    unfold putMember
    split_ifs with hlt heq
    · refine List.pairwise_cons.2 ⟨fun k' hk' => ?_, h⟩
      rcases List.mem_cons.1 hk' with rfl | hk'
      · exact hlt
      · exact hlt.trans (hl k' hk')
    · subst heq
      exact h
    · refine List.pairwise_cons.2 ⟨fun k' hk' => ?_, ih hms⟩
      rcases mem_map_putMember.1 hk' with rfl | hk'
      · exact lt_of_le_of_ne (not_lt.1 hlt) (Ne.symm heq)
      · exact hl k' hk'

theorem Json.sortedItems_nodup (ms : Mapping) : ((sortedItems ms).map Prod.fst).Nodup := by
  refine List.Pairwise.imp (fun h => ne_of_lt h) ?_
  induction ms with
  | nil => exact List.Pairwise.nil
  | cons member ms ih => exact putMember_pairwise ih

namespace Mapping

theorem mem_of_get? {m : Mapping} {k : String} {v : Json} (h : m.get? k = some v) : (k, v) ∈ m := by
  induction m with
  | nil => simp at h
  | cons member m ih =>
    obtain ⟨l, w⟩ := member
    rw [get?_cons] at h
    split_ifs at h with hk
    · obtain rfl := Option.some.inj h
      simp [hk]
    · exact List.mem_cons_of_mem _ (ih h)

theorem get?_of_mem {m : Mapping} (hkeys : (m.map Prod.fst).Nodup) {k : String} {v : Json}
    (h : (k, v) ∈ m) : m.get? k = some v := by
  induction m with
  | nil => simp at h
  | cons member m ih =>
    obtain ⟨l, w⟩ := member
    rw [List.map_cons, List.nodup_cons] at hkeys
    rw [get?_cons]
    rcases List.mem_cons.1 h with hhead | htail
    · obtain ⟨rfl, rfl⟩ := Prod.mk.inj hhead
      rw [if_pos rfl]
    · have hne : k ≠ l := by
        rintro rfl
        exact hkeys.1 (List.mem_map.2 ⟨_, htail, rfl⟩)
      rw [if_neg hne]
      exact ih hkeys.2 htail

theorem get?_eq_some_of_get {m : Mapping} {k : String} {v : Json} (h : m.get k = v)
    (hv : v ≠ .null) : m.get? k = some v := by
  unfold get at h
  rcases hget : m.get? k with _ | w
  · simp only [hget, Option.getD_none] at h
    exact absurd h.symm hv
  · simpa [hget] using h

end Mapping

/-- The items are the members that the keys stand for. -/
theorem Json.mem_sortedItems {ms : Mapping} {k : String} {v : Json} :
    (k, v) ∈ sortedItems ms ↔ ms.get? k = some v := by
  rw [← get?_sortedItems]
  exact ⟨Mapping.get?_of_mem (sortedItems_nodup ms), Mapping.mem_of_get?⟩

/-- The objects among the items of a list. -/
def Json.dictsOf (items : List Json) : List Mapping :=
  items.filterMap fun
    | .dict members => some members
    | _ => none

@[simp] theorem Json.dictsOf_dict (members : Mapping) (items : List Json) :
    dictsOf (.dict members :: items) = members :: dictsOf items := rfl

theorem Json.dictsOf_map (ms : List Mapping) : dictsOf (ms.map .dict) = ms := by
  simp [dictsOf, List.filterMap_map]

theorem Json.mem_dictsOf {items : List Json} {members : Mapping} :
    members ∈ dictsOf items ↔ .dict members ∈ items := by
  simp only [dictsOf, List.mem_filterMap]
  refine ⟨?_, fun h => ⟨_, h, rfl⟩⟩
  rintro ⟨item, hitem, hsome⟩
  split at hsome
  · next found =>
    obtain rfl := Option.some.inj hsome
    exact hitem
  · simp at hsome

/-- Items with a relation that only objects have are objects. -/
theorem Json.dicts_of_forall₂ {β : Type} {R : Mapping → β → Prop} {items : List Json}
    {results : List β}
    (h : List.Forall₂ (fun item result => ∃ members, item = .dict members ∧ R members result)
      items results) :
    ∃ entries : List Mapping, items = entries.map .dict ∧ List.Forall₂ R entries results := by
  induction h with
  | nil => exact ⟨[], rfl, .nil⟩
  | cons hitem _ ih =>
    obtain ⟨members, rfl, hr⟩ := hitem
    obtain ⟨entries, rfl, hrest⟩ := ih
    exact ⟨members :: entries, rfl, .cons hr hrest⟩

/-- `bool(value)`. -/
def Json.truthy : Json → Bool
  | .null => false
  | .bool b => b
  | .int n => n ≠ 0
  | .float x => x ≠ .finite 0
  | .str s => s ≠ ""
  | .list items => items ≠ []
  | .dict members => members ≠ []

/-- Values that `==` does not tell apart are true or false alike. -/
theorem Json.truthy_norm (value : Json) : value.norm.truthy = value.truthy := by
  rcases value with _ | _ | _ | (q | _ | _) | _ | items | members
  case bool b => rcases b <;> rfl
  case float.finite =>
    rw [norm, PyFloat.norm]
    split_ifs with hden
    · simp [truthy]
    · rfl
  case list =>
    rcases items with _ | ⟨item, items⟩ <;> simp [norm, normList, truthy]
  case dict =>
    rcases members with _ | ⟨⟨k, v⟩, members⟩
    · rfl
    · have hne : putMember k v.norm (normMembers members) ≠ [] := by
        unfold putMember
        split
        · simp
        · split_ifs <;> simp
      simp [norm, normMembers, truthy, hne]
  all_goals rfl

/-! ## Encoding and decoding -/

namespace Json

mutual

/-- The value that `json.loads` gives back for `json.dumps(value, sort_keys=True)`. -/
def sortKeys : Json → Json
  | .list xs => .list (sortKeysList xs)
  | .dict ms => .dict (sortKeysMembers ms)
  | value => value

/-- The values of a list with sorted keys. -/
def sortKeysList : List Json → List Json
  | [] => []
  | x :: xs => sortKeys x :: sortKeysList xs

/-- The members with sorted keys. -/
def sortKeysMembers : List (String × Json) → List (String × Json)
  | [] => []
  | (k, v) :: ms => putMember k (sortKeys v) (sortKeysMembers ms)

end

theorem sortKeysList_eq_map (xs : List Json) : sortKeysList xs = xs.map sortKeys := by
  induction xs with
  | nil => rfl
  | cons x xs ih => rw [sortKeysList, ih, List.map_cons]

theorem get?_sortKeysMembers (ms : Mapping) (k : String) :
    Mapping.get? (sortKeysMembers ms) k = (ms.get? k).map sortKeys := by
  induction ms with
  | nil => rfl
  | cons member ms ih =>
    obtain ⟨l, w⟩ := member
    rw [sortKeysMembers, get?_putMember, ih, Mapping.get?_cons]
    split_ifs <;> rfl

theorem get_sortKeysMembers (ms : Mapping) (k : String) :
    Mapping.get (sortKeysMembers ms) k = (ms.get k).sortKeys := by
  unfold Mapping.get
  rw [get?_sortKeysMembers]
  rcases ms.get? k with _ | v
  · simp [sortKeys]
  · rfl

/-- Members in the order of their keys are determined by what the keys stand for. -/
theorem eq_of_ordered {ms ns : Mapping} (hms : (ms.map Prod.fst).Pairwise (· < ·))
    (hns : (ns.map Prod.fst).Pairwise (· < ·)) (h : ∀ k, ms.get? k = ns.get? k) : ms = ns := by
  have hnodup : ∀ {ls : Mapping}, (ls.map Prod.fst).Pairwise (· < ·) → (ls.map Prod.fst).Nodup :=
    fun hls => hls.imp fun hlt => ne_of_lt hlt
  have hsubset : ∀ {ls ls' : Mapping}, (ls.map Prod.fst).Nodup →
      (∀ k, ls.get? k = ls'.get? k) → ls ⊆ ls' := by
    rintro ls ls' hkeys hsame ⟨k, v⟩ hmem
    refine Mapping.mem_of_get? ?_
    rw [← hsame, Mapping.get?_of_mem hkeys hmem]
  have hperm : ms.Perm ns := (List.perm_ext_iff_of_nodup ((hnodup hms).of_map _)
    ((hnodup hns).of_map _)).2 fun member =>
      ⟨fun hmem => hsubset (hnodup hms) h hmem,
        fun hmem => hsubset (hnodup hns) (fun k => (h k).symm) hmem⟩
  rw [List.pairwise_map] at hms hns
  exact hperm.eq_of_pairwise (fun a b _ _ hab hba => absurd hab hba.not_gt) hms hns

theorem normMembers_ordered (ms : Mapping) : ((normMembers ms).map Prod.fst).Pairwise (· < ·) := by
  induction ms with
  | nil => exact List.Pairwise.nil
  | cons member ms ih =>
    obtain ⟨l, w⟩ := member
    exact putMember_pairwise ih

/-- Objects are equal exactly if their keys stand for equal values. -/
theorem norm_dict_eq_iff {ms ns : Mapping} : (Json.dict ms).norm = (Json.dict ns).norm ↔
    ∀ k, (ms.get? k).map norm = (ns.get? k).map norm := by
  rw [norm, norm, Json.dict.injEq]
  constructor
  · intro h k
    rw [← get?_normMembers, ← get?_normMembers, h]
  · intro h
    refine eq_of_ordered (normMembers_ordered ms) (normMembers_ordered ns) fun k => ?_
    rw [get?_normMembers, get?_normMembers, h]

mutual

/-- Sorting the keys changes nothing that `==` sees. -/
theorem norm_sortKeys : ∀ value : Json, value.sortKeys.norm = value.norm
  | .null | .bool _ | .int _ | .float _ | .str _ => rfl
  | .list xs => by
    rw [sortKeys, norm, norm, normList_sortKeysList]
  | .dict ms => by
    rw [sortKeys, norm_dict_eq_iff]
    intro k
    rw [get?_sortKeysMembers, map_norm_sortKeys ms]

theorem normList_sortKeysList : ∀ xs : List Json, normList (sortKeysList xs) = normList xs
  | [] => rfl
  | x :: xs => by
    rw [sortKeysList, normList, normList, norm_sortKeys x, normList_sortKeysList xs]

theorem map_norm_sortKeys : ∀ (ms : Mapping) (k : String),
    ((ms.get? k).map sortKeys).map norm = (ms.get? k).map norm
  | [], _ => rfl
  | (l, w) :: ms, k => by
    rw [Mapping.get?_cons]
    split_ifs
    · simp only [Option.map_some, norm_sortKeys w]
    · exact map_norm_sortKeys ms k

end

end Json

/-- The bytes of a payload or a file. -/
abbrev Bytes := List UInt8

/-- What decoding may raise : `json.JSONDecodeError`, which the callers catch, or another
exception. -/
inductive LoadsError where
  | jsonDecodeError
  | other (raised : Raised)

/-- `json.loads` of a payload, and of the text of a file. -/
class JsonLoads where
  loads : Bytes → Except LoadsError Json
  loadsText : Bytes → Except LoadsError Json

/-- `hashlib.sha256(payload).hexdigest()`. -/
class PayloadHash where
  sha256Hexdigest : Bytes → String

/-- `repr` of a value. -/
class PyRepr where
  repr : Json → String

/-- A `repr` that is right on `None`, on texts without quotes and on `1.0`. -/
@[reducible] def plainRepr : PyRepr where
  repr
    | .null => "None"
    | .str s => "'" ++ s ++ "'"
    | .float x => if x = .finite 1 then "1.0" else "..."
    | _ => "..."

/-- `str(value)`. -/
def Json.toStr [PyRepr] : Json → String
  | .str s => s
  | value => PyRepr.repr value

end ReliabilityLab
