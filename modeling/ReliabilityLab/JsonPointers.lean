import ReliabilityLab.Encodings
import ReliabilityLab.NestedValues
import ReliabilityLab.TraceMutations

/-!
# Pointers into JSON documents

The children of a list are under its indices, those of an object under its keys (`Step`),
and the pointer of a path names each step with a token : `~` is written `~0`, `/` is written
`~1`, an index in decimal. Reading undoes the two in the other order, so a key that holds
`~1` comes back as it was (`pointerTokens_pointer`), and an index of a list in memory is a
numeral short enough for `int` (`tokenPosition_toString`).

So the descent of `applyMutation` along the tokens of a path puts its result at the path
(`descend_path`).
-/

set_option linter.unusedSectionVars false

open Serial Serial.Nested

namespace ReliabilityLab

namespace Json

/-! ## Documents as nested values -/

/-- A key of an object, or an index of a list. -/
inductive Step where
  | key (name : String)
  | index (position : Nat)
  deriving DecidableEq

/-- The value that a step leads to. -/
def stepChild? : Json → Step → Option Json
  | .list items, .index i => items[i]?
  | .dict members, .key k => Mapping.get? members k
  | _, _ => none

/-- The value with another one where the step leads to. -/
def setStep : Json → Step → Json → Json
  | .list items, .index i, value => .list (items.set i value)
  | .dict members, .key k, value => .dict (Mapping.set members k value)
  | a, _, _ => a

/-- A value without its children : a scalar, the length of a list, the keys of an object. -/
def hollow : Json → Json
  | .list items => .list (items.map fun _ => .null)
  | .dict members => .dict (members.map fun member => (member.1, .null))
  | a => a

theorem stepChild?_eq_some {a x : Json} {s : Step} :
    stepChild? a s = some x ↔
      (∃ items i, a = .list items ∧ s = .index i ∧ items[i]? = some x) ∨
        ∃ members k, a = .dict members ∧ s = .key k ∧ Mapping.get? members k = some x := by
  rcases a with _ | _ | _ | _ | _ | items | members <;> rcases s with k | i <;> simp [stepChild?]

theorem set_set (members : Mapping) (k : String) (y z : Json) :
    (members.set k y).set k z = members.set k z := by
  unfold Mapping.set
  rw [List.map_map]
  refine List.map_congr_left fun member _ => ?_
  by_cases hk : member.1 = k <;> simp [hk]

instance : Nested Json Step Json where
  child? := stepChild?
  setChild := setStep
  node := hollow
  child?_setChild := by
    intro a s x h y
    obtain ⟨items, i, rfl, rfl, hx⟩ | ⟨members, k, rfl, rfl, hx⟩ := stepChild?_eq_some.1 h
    · obtain ⟨hi, -⟩ := List.getElem?_eq_some_iff.1 hx
      exact List.getElem?_set_self hi
    · simp [stepChild?, setStep, Mapping.get?_set, hx]
  child?_setChild_ne := by
    intro s s' hs a y
    rcases a with _ | _ | _ | _ | _ | items | members <;> rcases s with k | i <;>
      try rfl
    · rcases s' with k' | i'
      · rfl
      · exact List.getElem?_set_ne fun h => hs (congrArg Step.index h)
    · rcases s' with k' | i'
      · have hk : k' ≠ k := fun h => hs (congrArg Step.key h.symm)
        simp [stepChild?, setStep, Mapping.get?_set, hk]
      · rfl
  setChild_setChild := by
    intro a s y z
    rcases a with _ | _ | _ | _ | _ | items | members <;> rcases s with k | i <;> try rfl
    · simp [setStep]
    · simp [setStep, set_set]
  node_setChild := by
    intro a s y
    rcases a with _ | _ | _ | _ | _ | items | members <;> rcases s with k | i <;> try rfl
    · simp [setStep, hollow]
    · simp only [setStep, hollow, Mapping.set, List.map_map]
      congr 1
      refine List.map_congr_left fun member _ => ?_
      by_cases hk : member.1 = k <;> simp [hk]

/-! ## Documents in memory -/

/-- `sys.maxsize`. -/
def maxSize : ℕ :=
  2 ^ 63 - 1

mutual

/-- No list is longer than `sys.maxsize`, and no object has a key twice. -/
def wellFormed : Json → Bool
  | .list items => decide (items.length ≤ maxSize) && wellFormedItems items
  | .dict members => decide (members.map Prod.fst).Nodup && wellFormedMembers members
  | _ => true

/-- The items are well formed. -/
def wellFormedItems : List Json → Bool
  | [] => true
  | item :: items => wellFormed item && wellFormedItems items

/-- The values of the members are well formed. -/
def wellFormedMembers : List (String × Json) → Bool
  | [] => true
  | (_, value) :: members => wellFormed value && wellFormedMembers members

end

/-- A value as Python has it. -/
def WellFormed (a : Json) : Prop :=
  wellFormed a = true

instance (a : Json) : Decidable (WellFormed a) :=
  inferInstanceAs (Decidable (_ = true))

theorem wellFormedItems_iff {items : List Json} :
    wellFormedItems items = true ↔ ∀ item ∈ items, WellFormed item := by
  induction items with
  | nil => simp [wellFormedItems]
  | cons item items ih => simp [wellFormedItems, ih, WellFormed]

theorem wellFormedMembers_iff {members : Mapping} :
    wellFormedMembers members = true ↔ ∀ member ∈ members, WellFormed member.2 := by
  induction members with
  | nil => simp [wellFormedMembers]
  | cons member members ih => simp [wellFormedMembers, ih, WellFormed]

theorem wellFormed_list {items : List Json} :
    WellFormed (.list items) ↔ items.length ≤ maxSize ∧ ∀ item ∈ items, WellFormed item := by
  rw [← wellFormedItems_iff]
  simp [WellFormed, wellFormed]

theorem wellFormed_dict {members : Mapping} :
    WellFormed (.dict members) ↔
      (members.map Prod.fst).Nodup ∧ ∀ member ∈ members, WellFormed member.2 := by
  rw [← wellFormedMembers_iff]
  simp [WellFormed, wellFormed]

/-- In an object without repeated keys, a key has the value it is bound to. -/
theorem set_self {members : Mapping} {k : String} {x : Json}
    (hkeys : (members.map Prod.fst).Nodup) (h : Mapping.get? members k = some x) :
    members.set k x = members := by
  have hmem := Mapping.mem_of_get? h
  have heach : ∀ member ∈ members, (if member.1 = k then (k, x) else member) = member := by
    intro member hmember
    split_ifs with hk
    · exact List.inj_on_of_nodup_map hkeys hmem hmember hk.symm
    · rfl
  unfold Mapping.set
  rw [List.map_congr_left heach, List.map_id']

theorem WellFormed.child {a x : Json} {s : Step} (ha : WellFormed a)
    (h : child? a s = some x) : WellFormed x := by
  obtain ⟨items, i, rfl, rfl, hx⟩ | ⟨members, k, rfl, rfl, hx⟩ := stepChild?_eq_some.1 h
  · exact (wellFormed_list.1 ha).2 x (List.mem_of_getElem? hx)
  · exact (wellFormed_dict.1 ha).2 (k, x) (Mapping.mem_of_get? hx)

theorem WellFormed.value {a x : Json} {p : List Step} (ha : WellFormed a)
    (h : valueAt p a = some x) : WellFormed x := by
  induction p generalizing a with
  | nil => exact Option.some.inj h ▸ ha
  | cons s p ih =>
    obtain ⟨c, hc, hx⟩ := valueAt_cons_eq_some.1 h
    exact ih (ha.child hc) hx

theorem WellFormed.set_child {a x : Json} {s : Step} (ha : WellFormed a)
    (h : child? a s = some x) : setChild a s x = a := by
  obtain ⟨items, i, rfl, rfl, hx⟩ | ⟨members, k, rfl, rfl, hx⟩ := stepChild?_eq_some.1 h
  · obtain ⟨hi, rfl⟩ := List.getElem?_eq_some_iff.1 hx
    exact congrArg Json.list (List.set_getElem_self hi)
  · exact congrArg Json.dict (set_self (wellFormed_dict.1 ha).1 hx)

theorem WellFormed.set {a x y : Json} {s : Step} (ha : WellFormed a) (hy : WellFormed y)
    (h : child? a s = some x) : WellFormed (setChild a s y) := by
  obtain ⟨items, i, rfl, rfl, hx⟩ | ⟨members, k, rfl, rfl, hx⟩ := stepChild?_eq_some.1 h
  · obtain ⟨hlen, hitems⟩ := wellFormed_list.1 ha
    refine wellFormed_list.2 ⟨by rwa [List.length_set], fun item hitem => ?_⟩
    rcases List.mem_or_eq_of_mem_set hitem with hitem | rfl
    · exact hitems item hitem
    · exact hy
  · obtain ⟨hkeys, hmembers⟩ := wellFormed_dict.1 ha
    have hsame : (Mapping.set members k y).map Prod.fst = members.map Prod.fst := by
      unfold Mapping.set
      rw [List.map_map]
      refine List.map_congr_left fun member _ => ?_
      by_cases hk : member.1 = k <;> simp [hk]
    refine wellFormed_dict.2 ⟨hsame ▸ hkeys, fun member hmember => ?_⟩
    obtain ⟨before, hbefore, rfl⟩ := List.mem_map.1 hmember
    split_ifs
    · exact hy
    · exact hmembers before hbefore

theorem WellFormed.put {a x y : Json} {p : List Step} (ha : WellFormed a) (hy : WellFormed y)
    (h : valueAt p a = some x) : WellFormed (putAt y p a) := by
  induction p generalizing a with
  | nil => exact hy
  | cons s p ih =>
    obtain ⟨c, hc, hx⟩ := valueAt_cons_eq_some.1 h
    rw [putAt_cons hc]
    exact ha.set (ih (ha.child hc) hx) hc

/-- A document does not change when a value is put where it is. -/
theorem WellFormed.put_self {a x : Json} {p : List Step} (ha : WellFormed a)
    (h : valueAt p a = some x) : putAt x p a = a :=
  Nested.putAt_self (I := WellFormed) (fun h hc => h.child hc) (fun h hc => h.set_child hc)
    ha h

/-! ## Pointers -/

namespace Step

/-- The key, or the index in decimal. -/
def token : Step → String
  | .key name => name
  | .index position => toString position

end Step

/-- A character as a pointer writes it. -/
def escapeChar (c : Char) : List Char :=
  if c = '~' then ['~', '0'] else if c = '/' then ['~', '1'] else [c]

/-- The text of a key in a pointer. -/
def escapeToken (cs : List Char) : List Char :=
  cs.flatMap escapeChar

/-- The pointer of a path. -/
def pointer (path : List Step) : String :=
  String.ofList (path.flatMap fun step => '/' :: escapeToken step.token.toList)

end Json

namespace TraceIntegrity

open Json

theorem replacePair_pair {a b c : Char} (cs : List Char) :
    replacePair a b c (a :: b :: cs) = c :: replacePair a b c cs := by
  rw [replacePair, if_pos ⟨rfl, rfl⟩]

theorem replacePair_pair_of_ne {a b c x : Char} (hx : x ≠ b) (hxa : x ≠ a) (cs : List Char) :
    replacePair a b c (a :: x :: cs) = a :: x :: replacePair a b c cs := by
  rw [replacePair, if_neg fun h => hx h.2, replacePair_cons_of_ne hxa]

/-- A token with `~` written `~0` only. -/
def escapeTildes (cs : List Char) : List Char :=
  cs.flatMap fun c => if c = '~' then ['~', '0'] else [c]

/-- First the slashes are read back, which leaves the tildes as they were written. -/
theorem replacePair_escapeToken (cs : List Char) :
    replacePair '~' '1' '/' (escapeToken cs) = escapeTildes cs := by
  induction cs with
  | nil => rfl
  | cons c cs ih =>
    have hcons : escapeToken (c :: cs) = escapeChar c ++ escapeToken cs := rfl
    have hcons' : escapeTildes (c :: cs) = (if c = '~' then ['~', '0'] else [c]) ++
        escapeTildes cs := rfl
    rw [hcons, hcons', escapeChar]
    split_ifs with htilde hslash
    · subst htilde
      simp only [List.cons_append, List.nil_append]
      rw [replacePair_pair_of_ne (by decide) (by decide), ih]
    · subst hslash
      simp only [List.cons_append, List.nil_append]
      rw [replacePair_pair, ih]
    · simp only [List.cons_append, List.nil_append]
      rw [replacePair_cons_of_ne htilde, ih]

theorem replacePair_escapeTildes (cs : List Char) :
    replacePair '~' '0' '~' (escapeTildes cs) = cs := by
  induction cs with
  | nil => rfl
  | cons c cs ih =>
    have hcons : escapeTildes (c :: cs) = (if c = '~' then ['~', '0'] else [c]) ++
        escapeTildes cs := rfl
    rw [hcons]
    split_ifs with htilde
    · subst htilde
      simp only [List.cons_append, List.nil_append]
      rw [replacePair_pair, ih]
    · simp only [List.cons_append, List.nil_append]
      rw [replacePair_cons_of_ne htilde, ih]

theorem slash_notMem_escapeToken (cs : List Char) : '/' ∉ escapeToken cs := by
  intro h
  obtain ⟨c, -, hc⟩ := List.mem_flatMap.1 h
  unfold escapeChar at hc
  split_ifs at hc with htilde hslash
  · exact absurd hc (by simp)
  · exact absurd hc (by simp)
  · exact hslash (List.mem_singleton.1 hc).symm

/-- The tokens of the pointer of a path are those of its steps. -/
theorem pointerTokens_pointer {path : List Step} (hne : path ≠ [])
    (hempty : path ≠ [.key ""]) : pointerTokens (pointer path) = .ok (path.map Step.token) := by
  obtain ⟨step, steps, rfl⟩ := List.exists_cons_of_ne_nil hne
  have hchars : (pointer (step :: steps)).toList = '/' :: List.intercalate ['/']
      ((step :: steps).map fun step => escapeToken step.token.toList) := by
    rw [Unambiguous.intercalate_cons, pointer, String.toList_ofList, List.flatMap_cons,
      List.cons_append]
  have hsplit : (List.intercalate ['/'] ((step :: steps).map fun step =>
      escapeToken step.token.toList)).splitOn '/' =
        (step :: steps).map fun step => escapeToken step.token.toList := by
    refine List.splitOn_intercalate _ (fun l hl => ?_) (by simp)
    obtain ⟨other, -, rfl⟩ := List.mem_map.1 hl
    exact slash_notMem_escapeToken _
  have htokens : ((step :: steps).map fun step => escapeToken step.token.toList).map
      (fun token => String.ofList (replacePair '~' '0' '~' (replacePair '~' '1' '/' token))) =
        (step :: steps).map Step.token := by
    rw [List.map_map]
    refine List.map_congr_left fun other _ => ?_
    simp only [Function.comp_apply, replacePair_escapeToken, replacePair_escapeTildes,
      String.ofList_toList]
  have hnot : (step :: steps).map Step.token ≠ [""] := by
    intro h
    rw [List.map_cons, List.cons.injEq, List.map_eq_nil_iff] at h
    obtain ⟨htoken, rfl⟩ := h
    rcases step with k | i
    · exact hempty (by rw [show k = "" from htoken])
    · have hdigits : Nat.toDigits 10 i = [] := by
        rw [← String.toList_ofList (l := Nat.toDigits 10 i), ← Nat.toString_eq_ofList_toDigits,
          show toString i = "" from htoken, String.toList_empty]
      exact Nat.toDigits_ne_nil hdigits
  unfold pointerTokens
  rw [hchars]
  simp only [hsplit, htokens, if_neg hnot]

/-! ## The descent -/

/-- An index of a list in memory is the number that its numeral stands for. -/
theorem parseInt_index {n i : ℕ} (hi : i < n) (hn : n ≤ maxSize) :
    (parseInt 10 (toString i)).bind (position? n) = some i := by
  have hlen : (Nat.toDigits 10 i).length ≤ 19 := by
    rw [Nat.length_toDigits_le_iff (by decide) (by decide)]
    unfold maxSize at hn
    omega
  exact parseInt_position hi (hlen.trans (by decide))

variable [PyRepr]

theorem descend_list (target : Json → String → Except Raised Json) (items : List Json)
    (token next : String) (tokens : List String) :
    descend target (.list items) (token :: next :: tokens) =
      (listPosition items.length token "list index out of range" >>= fun k =>
        descend target (items[k]?.getD .null) (next :: tokens) >>= fun item =>
          .ok (.list (items.set k item))) := by
  rw [descend]
  simp

theorem descend_dict (target : Json → String → Except Raised Json) (members : Mapping)
    (token next : String) (tokens : List String) :
    descend target (.dict members) (token :: next :: tokens) =
      (orRaise (members.lookup token) ⟨.keyError, token⟩ >>= fun item =>
        descend target item (next :: tokens) >>= fun changed =>
          .ok (.dict (Mapping.set members token changed))) := by
  rw [descend]
  simp

/-- The descent along the tokens of a path puts what its target gives at the path. -/
theorem descend_path {target : Json → String → Except Raised Json} {path : List Step}
    {step : Step} {a parent changed : Json} (ha : WellFormed a)
    (hparent : valueAt path a = some parent) (htarget : target parent step.token = .ok changed) :
    descend target a ((path ++ [step]).map Step.token) = .ok (putAt changed path a) := by
  induction path generalizing a with
  | nil =>
    obtain rfl := Option.some.inj hparent
    rw [List.nil_append, List.map_singleton, descend]
    exact htarget
  | cons s path ih =>
    obtain ⟨x, hx, hrest⟩ := valueAt_cons_eq_some.1 hparent
    have hchanged := ih (ha.child hx) hrest
    obtain ⟨next, tokens, htokens⟩ :
        ∃ next tokens, (path ++ [step]).map Step.token = next :: tokens :=
      List.exists_cons_of_ne_nil (by simp)
    rw [putAt_cons hx, List.cons_append, List.map_cons]
    rw [htokens] at hchanged ⊢
    obtain ⟨items, i, rfl, rfl, hi⟩ | ⟨members, k, rfl, rfl, hk⟩ := stepChild?_eq_some.1 hx
    · obtain ⟨hlt, -⟩ := List.getElem?_eq_some_iff.1 hi
      have hposition := parseInt_index hlt (wellFormed_list.1 ha).1
      rw [Step.token, descend_list, listPosition_eq_ok.2 hposition, ok_bind, hi, Option.getD_some,
        hchanged, ok_bind]
      rfl
    · have hlookup : members.lookup k = some x := hk
      rw [Step.token, descend_dict, hlookup, orRaise_some, ok_bind, hchanged, ok_bind]
      rfl

end TraceIntegrity

end ReliabilityLab
