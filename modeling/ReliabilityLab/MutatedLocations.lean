import ReliabilityLab.JsonPointers

/-!
# The location that a mutation changes

A mutation whose path is the pointer of a location of a trace puts its value there, or takes
the member or item away, and changes nothing else (`applyMutation_location`).
-/

set_option linter.unusedSectionVars false

open Serial Serial.Nested

namespace ReliabilityLab

namespace TraceIntegrity

open Json

/-- The mutation replaces what the path leads to by `value`. -/
structure Replaces (mutation : Mapping) (path : List Step) (value : Json) : Prop where
  operator : mutation.get "operator" = .str "replace"
  target : mutation.get "path" = .str (pointer path)
  value : mutation.get? "value" = some value

/-- The mutation removes what the path leads to. -/
structure Removes (mutation : Mapping) (path : List Step) : Prop where
  operator : mutation.get "operator" = .str "remove"
  target : mutation.get "path" = .str (pointer path)

/-- A value without the child under a step; the items of a list after it move down by one. -/
def without : Step → Json → Json
  | .index i, .list items => .list (items.take i ++ items.drop (i + 1))
  | .key k, .dict members => .dict (members.filter fun member => member.1 ≠ k)
  | _, a => a

section locations

variable [PyRepr] {mutation : Mapping} {trace : Mapping} {path : List Step} {step : Step}
  {parent x value changed : Json}

theorem operate_replace (h : Replaces mutation (path ++ [step]) value) (hparent : WellFormed parent)
    (hx : child? parent step = some x) :
    operate mutation parent step.token = .ok (setChild parent step value) := by
  rw [operate, h.operator, if_pos rfl, replaceIn, h.value, orRaise_some, ok_bind]
  obtain ⟨items, i, rfl, rfl, hi⟩ | ⟨members, k, rfl, rfl, hk⟩ := stepChild?_eq_some.1 hx
  · obtain ⟨hlt, -⟩ := List.getElem?_eq_some_iff.1 hi
    have hposition := parseInt_index hlt (wellFormed_list.1 hparent).1
    simp only [Step.token, listPosition_eq_ok.2 hposition, ok_bind]
    rfl
  · have hne : ¬Mapping.get? members k = none := by simp [hk]
    exact raiseIf_bind_eq_ok.2 ⟨hne, rfl⟩

theorem operate_remove (h : Removes mutation (path ++ [step])) (hparent : WellFormed parent)
    (hx : child? parent step = some x) :
    operate mutation parent step.token = .ok (without step parent) := by
  rw [operate, h.operator, if_neg (by decide), if_pos rfl]
  obtain ⟨items, i, rfl, rfl, hi⟩ | ⟨members, k, rfl, rfl, hk⟩ := stepChild?_eq_some.1 hx
  · obtain ⟨hlt, -⟩ := List.getElem?_eq_some_iff.1 hi
    have hposition := parseInt_index hlt (wellFormed_list.1 hparent).1
    simp only [removeIn, Step.token, listPosition_eq_ok.2 hposition, ok_bind]
    rw [List.eraseIdx_eq_take_drop_succ]
    rfl
  · have hne : ¬Mapping.get? members k = none := by simp [hk]
    exact raiseIf_bind_eq_ok.2 ⟨hne, rfl⟩

/-- A document with something put below its root is an object as before. -/
theorem exists_dict_putAt (hparent : valueAt path (.dict trace) = some parent)
    (hdict : ∀ ms, parent = .dict ms → ∃ ms', changed = .dict ms') :
    ∃ mutated, putAt changed path (.dict trace) = .dict mutated := by
  rcases path with _ | ⟨s, path⟩
  · exact hdict trace (Option.some.inj hparent).symm
  · obtain ⟨x, hx, -⟩ := valueAt_cons_eq_some.1 hparent
    rw [putAt_cons hx]
    rcases s with k | i <;> exact ⟨_, rfl⟩

/-- A mutation of a location puts the changed parent where the parent was. -/
theorem applyMutation_parent (ht : WellFormed (.dict trace))
    (htarget : mutation.get "path" = .str (pointer (path ++ [step])))
    (hne : path ++ [step] ≠ [.key ""]) (hparent : valueAt path (.dict trace) = some parent)
    (hoperate : operate mutation parent step.token = .ok changed)
    (hdict : ∀ ms, parent = .dict ms → ∃ ms', changed = .dict ms') :
    ∃ mutated, applyMutation trace mutation = .ok mutated ∧
      .dict mutated = putAt changed path (.dict trace) := by
  obtain ⟨mutated, hmutated⟩ := exists_dict_putAt hparent hdict
  refine ⟨mutated, ?_, hmutated.symm⟩
  rw [applyMutation, htarget]
  simp only [pointerTokens_pointer (by simp) hne, ok_bind, descend_path ht hparent hoperate,
    hmutated]
  rfl

/-- The parent of a location, and the value there as its child. -/
theorem exists_parent {a : Json} (h : valueAt (path ++ [step]) a = some x) :
    ∃ parent, valueAt path a = some parent ∧ child? parent step = some x := by
  rw [valueAt_append] at h
  obtain ⟨parent, hparent, hchild⟩ := Option.bind_eq_some_iff.1 h
  obtain ⟨y, hy, hx⟩ := valueAt_cons_eq_some.1 hchild
  exact ⟨parent, hparent, hy.trans hx⟩

/-- A replace mutation puts its value at its location. -/
theorem applyMutation_replace (ht : WellFormed (.dict trace))
    (hold : valueAt (path ++ [step]) (.dict trace) = some x) (hne : path ++ [step] ≠ [.key ""])
    (h : Replaces mutation (path ++ [step]) value) :
    ∃ mutated, applyMutation trace mutation = .ok mutated ∧
      .dict mutated = putAt value (path ++ [step]) (.dict trace) := by
  obtain ⟨parent, hparent, hx⟩ := exists_parent hold
  rw [putAt_append hparent, putAt_cons hx, putAt]
  refine applyMutation_parent ht h.target hne hparent
    (operate_replace h (ht.value hparent) hx) fun ms hms => ?_
  subst hms
  rcases step with k | i <;> exact ⟨_, rfl⟩

/-- A remove mutation takes the member or item at its location away. -/
theorem applyMutation_remove (ht : WellFormed (.dict trace))
    (hold : valueAt (path ++ [step]) (.dict trace) = some x) (hne : path ++ [step] ≠ [.key ""])
    (h : Removes mutation (path ++ [step])) :
    ∃ parent mutated, valueAt path (.dict trace) = some parent ∧
      applyMutation trace mutation = .ok mutated ∧
        .dict mutated = putAt (without step parent) path (.dict trace) := by
  obtain ⟨parent, hparent, hx⟩ := exists_parent hold
  obtain ⟨mutated, happly, hmutated⟩ := applyMutation_parent ht h.target hne hparent
    (operate_remove h (ht.value hparent) hx) fun ms hms => by
      subst hms
      rcases step with k | i <;> exact ⟨_, rfl⟩
  exact ⟨parent, mutated, hparent, happly, hmutated⟩

/-- A mutation changes its location. Replacing puts the value there and leaves all that is off
the location; what was put before, or there from the beginning, makes no difference. Removing
takes the member or item away from its parent and leaves all that is off the parent. -/
theorem applyMutation_location (trace : Mapping) (path : List Step) (step : Step)
    (old v w : Json) (replace again back remove : Mapping)
    (ht : WellFormed (.dict trace)) (hv : WellFormed v)
    (hold : valueAt (path ++ [step]) (.dict trace) = some old) (hne : path ++ [step] ≠ [.key ""])
    (hreplace : Replaces replace (path ++ [step]) v)
    (hagain : Replaces again (path ++ [step]) w) (hback : Replaces back (path ++ [step]) old)
    (hremove : Removes remove (path ++ [step])) :
    (∃ replaced, applyMutation trace replace = .ok replaced ∧
        valueAt (path ++ [step]) (Json.dict replaced) = some v ∧
        AgreeOff (path ++ [step]) (Json.dict replaced) (Json.dict trace) ∧
        applyMutation replaced again = applyMutation trace again) ∧
      applyMutation trace back = .ok trace ∧
      ∃ parent removed, valueAt path (.dict trace) = some parent ∧
        applyMutation trace remove = .ok removed ∧
        valueAt path (Json.dict removed) = some (without step parent) ∧
        AgreeOff path (Json.dict removed) (Json.dict trace) := by
  refine ⟨?_, ?_, ?_⟩
  · obtain ⟨replaced, happly, heq⟩ := applyMutation_replace ht hold hne hreplace
    obtain ⟨direct, hdirect, heq'⟩ := applyMutation_replace ht hold hne hagain
    have hthere : valueAt (path ++ [step]) (Json.dict replaced) = some v :=
      heq ▸ valueAt_putAt hold v
    refine ⟨replaced, happly, hthere, heq ▸ agreeOff_putAt hold v, ?_⟩
    have hwf : WellFormed (Json.dict replaced) := heq ▸ ht.put hv hold
    obtain ⟨twice, htwice, heq''⟩ := applyMutation_replace hwf hthere hne hagain
    rw [htwice, hdirect]
    rw [heq, putAt_putAt hold, ← heq'] at heq''
    rw [Json.dict.inj heq'']
  · obtain ⟨same, hsame, heq⟩ := applyMutation_replace ht hold hne hback
    rw [ht.put_self hold] at heq
    rw [hsame, Json.dict.inj heq]
  · obtain ⟨parent, removed, hparent, happly, heq⟩ := applyMutation_remove ht hold hne hremove
    exact ⟨parent, removed, hparent, happly, heq ▸ valueAt_putAt hparent _,
      heq ▸ agreeOff_putAt hparent _⟩

end locations

/-- A trace with a member whose key needs both escapes. -/
def escapedTrace : Mapping :=
  [("records", .list [.dict [("a/b~1", .int 1), ("kind", .str "effect")], .null])]

/-- The path to the first record. -/
def escapedPath : List Step :=
  [.key "records", .index 0]

/-- The mutation that replaces the member `a/b~1` of the first record. -/
def escapedReplace (value : Json) : Mapping :=
  [("operator", .str "replace"), ("path", .str "/records/0/a~1b~01"), ("value", value)]

/-- The mutation that removes it. -/
def escapedRemove : Mapping :=
  [("operator", .str "remove"), ("path", .str "/records/0/a~1b~01")]

theorem applyMutation_location_sample :
    letI := plainRepr
    ∃ replaced, applyMutation escapedTrace (escapedReplace .null) = .ok replaced ∧
      applyMutation replaced (escapedReplace (.int 2)) =
        applyMutation escapedTrace (escapedReplace (.int 2)) := by
  let := plainRepr
  have hpointer : pointer (escapedPath ++ [.key "a/b~1"]) = "/records/0/a~1b~01" := by
    decide +kernel
  have hreplaces : ∀ value, Replaces (escapedReplace value) (escapedPath ++ [.key "a/b~1"]) value :=
    fun value => ⟨rfl, by rw [hpointer]; rfl, rfl⟩
  obtain ⟨⟨replaced, happly, -, -, hagain⟩, -⟩ :=
    applyMutation_location escapedTrace escapedPath (.key "a/b~1") (.int 1) .null (.int 2)
      (escapedReplace .null) (escapedReplace (.int 2)) (escapedReplace (.int 1)) escapedRemove
      (by decide) (by decide) (by decide) (by decide) (hreplaces _) (hreplaces _) (hreplaces _)
      ⟨rfl, by rw [hpointer]; rfl⟩
  exact ⟨replaced, happly, hagain⟩

/-! ## Mutations that apply -/

/-- The child that a token of a pointer names. -/
def tokenChild? : Json → String → Option Json
  | .list items, token => ((parseInt 10 token).bind (position? items.length)).bind (items[·]?)
  | .dict members, token => Mapping.get? members token
  | _, _ => none

/-- The tokens lead to a value. -/
def Locates (document : Json) (tokens : List String) : Prop :=
  (tokens.foldlM tokenChild? document).isSome = true

/-- The mutation has an operator with what it takes, and its path is a pointer to a value of
the trace. -/
structure Applies (trace mutation : Mapping) : Prop where
  operator : mutation.get "operator" = .str "replace" ∧ mutation.get? "value" ≠ none ∨
    mutation.get "operator" = .str "remove"
  target : ∃ path tokens, mutation.get "path" = .str path ∧ pointerTokens path = .ok tokens ∧
    Locates (.dict trace) tokens

section applies

variable [PyRepr] {mutation trace : Mapping} {parent document : Json} {token : String}

theorem position?_lt {n k : ℕ} {index : Int} (h : position? n index = some k) : k < n := by
  dsimp only [position?] at h
  obtain ⟨⟨hpos, hlt⟩, heq⟩ := Option.ite_none_right_eq_some.1 h
  obtain rfl := Option.some.inj heq
  exact (Int.toNat_lt hpos).2 hlt

/-- The item that a token names is the one at its position. -/
theorem tokenChild?_list {items : List Json} {item : Json} (message : String) :
    tokenChild? (.list items) token = some item ↔
      ∃ k, listPosition items.length token message = .ok k ∧ items[k]? = some item := by
  simp only [tokenChild?, listPosition_eq_ok]
  exact Option.bind_eq_some_iff

theorem getElem?_ne_none_of_listPosition {items : List Json} {message : String} {k : ℕ}
    (h : listPosition items.length token message = .ok k) : ∃ item, items[k]? = some item := by
  obtain ⟨index, -, hposition⟩ := Option.bind_eq_some_iff.1 (listPosition_eq_ok.1 h)
  exact ⟨_, List.getElem?_eq_getElem (position?_lt hposition)⟩

/-- A token names an item exactly if it has a position. -/
theorem tokenChild?_list_ne_none {items : List Json} (message : String) :
    tokenChild? (.list items) token ≠ none ↔
      ∃ k, listPosition items.length token message = .ok k := by
  rw [Option.ne_none_iff_exists']
  simp only [tokenChild?_list message]
  exact ⟨fun ⟨_, k, hk, _⟩ => ⟨k, hk⟩, fun ⟨k, hk⟩ =>
    (getElem?_ne_none_of_listPosition hk).imp fun _ hitem => ⟨k, hk, hitem⟩⟩

theorem replaceIn_returns_iff :
    (∃ changed, replaceIn mutation parent token = .ok changed) ↔
      mutation.get? "value" ≠ none ∧ tokenChild? parent token ≠ none := by
  rcases hvalue : mutation.get? "value" with _ | value
  · simp [replaceIn, hvalue]
  simp only [replaceIn, hvalue, orRaise_some, ok_bind, ne_eq, reduceCtorEq, not_false_eq_true,
    true_and]
  rcases parent with _ | _ | _ | _ | _ | items | members
  case list =>
    rw [← ne_eq, tokenChild?_list_ne_none "list assignment index out of range"]
    constructor
    · rintro ⟨_, h⟩
      obtain ⟨k, hk, -⟩ := bind_eq_ok.1 h
      exact ⟨k, hk⟩
    · rintro ⟨k, hk⟩
      exact ⟨_, bind_eq_ok.2 ⟨k, hk, rfl⟩⟩
  case dict =>
    refine ⟨?_, fun h => ⟨_, raiseIf_bind_eq_ok.2 ⟨h, rfl⟩⟩⟩
    rintro ⟨_, h⟩
    exact (raiseIf_bind_eq_ok.1 h).1
  all_goals simp [tokenChild?]

theorem removeIn_returns_iff :
    (∃ changed, removeIn parent token = .ok changed) ↔ tokenChild? parent token ≠ none := by
  rcases parent with _ | _ | _ | _ | _ | items | members
  case list =>
    rw [tokenChild?_list_ne_none "list assignment index out of range"]
    constructor
    · rintro ⟨_, h⟩
      obtain ⟨k, hk, -⟩ := bind_eq_ok.1 h
      exact ⟨k, hk⟩
    · rintro ⟨k, hk⟩
      exact ⟨_, bind_eq_ok.2 ⟨k, hk, rfl⟩⟩
  case dict =>
    refine ⟨?_, fun h => ⟨_, raiseIf_bind_eq_ok.2 ⟨h, rfl⟩⟩⟩
    rintro ⟨_, h⟩
    exact (raiseIf_bind_eq_ok.1 h).1
  all_goals simp [removeIn, tokenChild?]

/-- An operator returns exactly if it is known, with what it takes, and its target is there. -/
theorem operate_returns_iff :
    (∃ changed, operate mutation parent token = .ok changed) ↔
      (mutation.get "operator" = .str "replace" ∧ mutation.get? "value" ≠ none ∨
        mutation.get "operator" = .str "remove") ∧ tokenChild? parent token ≠ none := by
  unfold operate
  by_cases hreplace : mutation.get "operator" = .str "replace"
  · simp only [hreplace, if_true, replaceIn_returns_iff]
    simp
  · by_cases hremove : mutation.get "operator" = .str "remove"
    · simp only [hremove, if_neg (show ¬Json.str "remove" = .str "replace" by decide), if_true,
        removeIn_returns_iff]
      simp
    · simp [hreplace, hremove]

/-- A descent goes on from the child that the first token names. -/
theorem descend_cons_returns_iff {target : Json → String → Except Raised Json} {next : String}
    {tokens : List String} :
    (∃ mutated, descend target document (token :: next :: tokens) = .ok mutated) ↔
      ∃ child, tokenChild? document token = some child ∧
        ∃ mutated, descend target child (next :: tokens) = .ok mutated := by
  rcases document with _ | _ | _ | _ | _ | items | members
  case list =>
    rw [descend_list]
    simp only [tokenChild?_list "list index out of range"]
    constructor
    · rintro ⟨_, h⟩
      obtain ⟨k, hk, h⟩ := bind_eq_ok.1 h
      obtain ⟨changed, hchanged, -⟩ := bind_eq_ok.1 h
      obtain ⟨item, hitem⟩ := getElem?_ne_none_of_listPosition hk
      rw [hitem, Option.getD_some] at hchanged
      exact ⟨item, ⟨k, hk, hitem⟩, changed, hchanged⟩
    · rintro ⟨item, ⟨k, hk, hitem⟩, changed, hchanged⟩
      rw [hk, ok_bind, hitem, Option.getD_some, hchanged]
      exact ⟨_, rfl⟩
  case dict =>
    rw [descend_dict]
    constructor
    · rintro ⟨_, h⟩
      obtain ⟨item, hitem, h⟩ := orRaise_bind_eq_ok.1 h
      obtain ⟨changed, hchanged, -⟩ := bind_eq_ok.1 h
      exact ⟨item, hitem, changed, hchanged⟩
    · rintro ⟨item, hitem, changed, hchanged⟩
      exact ⟨_, orRaise_bind_eq_ok.2 ⟨item, hitem, bind_eq_ok.2 ⟨changed, hchanged, rfl⟩⟩⟩
  all_goals simp [descend, tokenChild?]

theorem descend_returns_iff {target : Json → String → Except Raised Json} {tokens : List String} :
    (∃ mutated, descend target document (tokens ++ [token]) = .ok mutated) ↔
      ∃ parent, tokens.foldlM tokenChild? document = some parent ∧
        ∃ changed, target parent token = .ok changed := by
  induction tokens generalizing document with
  | nil =>
    have hlast : descend target document [token] = target document token := by
      rw [descend]
    rw [List.nil_append, hlast, List.foldlM_nil]
    refine ⟨fun h => ⟨document, rfl, h⟩, ?_⟩
    rintro ⟨_, hparent, h⟩
    exact Option.some.inj hparent ▸ h
  | cons first tokens ih =>
    obtain ⟨next, rest, hrest⟩ : ∃ next rest, tokens ++ [token] = next :: rest :=
      List.exists_cons_of_ne_nil (by simp)
    rw [List.cons_append, hrest, descend_cons_returns_iff, ← hrest, List.foldlM_cons]
    simp only [ih]
    rcases tokenChild? document first with _ | child <;> simp

/-- The tokens of a pointer have a last one. -/
theorem pointerTokens_split {path : String} {tokens : List String}
    (h : pointerTokens path = .ok tokens) : ∃ init token, tokens = init ++ [token] := by
  refine (List.eq_nil_or_concat' tokens).resolve_left ?_
  unfold pointerTokens at h
  split at h
  · next rest =>
    dsimp only at h
    split_ifs at h
    cases h
    simp [List.splitOn_ne_nil]
  · cases h

/-- A mutation returns exactly if it applies. -/
theorem applyMutation_returns_iff :
    (∃ mutated, applyMutation trace mutation = .ok mutated) ↔ Applies trace mutation := by
  have hlast : ∀ tokens token, Locates (.dict trace) (tokens ++ [token]) ↔
      ∃ parent, tokens.foldlM tokenChild? (.dict trace) = some parent ∧
        tokenChild? parent token ≠ none := by
    intro tokens token
    unfold Locates
    rw [List.foldlM_append]
    rcases tokens.foldlM tokenChild? (.dict trace) with _ | parent <;>
      simp [Option.isSome_iff_ne_none]
  constructor
  · rintro ⟨mutated, h⟩
    unfold applyMutation at h
    split at h
    · next path hpath =>
      obtain ⟨tokens, htokens, h⟩ := bind_eq_ok.1 h
      obtain ⟨changed, hdescend, -⟩ := bind_eq_ok.1 h
      obtain ⟨init, token, rfl⟩ := pointerTokens_split htokens
      obtain ⟨parent, hparent, hoperate⟩ := descend_returns_iff.1 ⟨changed, hdescend⟩
      obtain ⟨hoperator, hchild⟩ := operate_returns_iff.1 hoperate
      exact ⟨hoperator, path, _, hpath, htokens, (hlast init token).2 ⟨parent, hparent, hchild⟩⟩
    · cases h
  · rintro ⟨hoperator, path, tokens, hpath, htokens, hlocates⟩
    obtain ⟨init, token, rfl⟩ := pointerTokens_split htokens
    obtain ⟨parent, hparent, hchild⟩ := (hlast init token).1 hlocates
    obtain ⟨mutated, hdescend⟩ := descend_returns_iff.2
      ⟨parent, hparent, operate_returns_iff.2 ⟨hoperator, hchild⟩⟩
    refine ⟨mutated.members, ?_⟩
    rw [applyMutation, hpath]
    simp only [htokens, ok_bind, hdescend]

end applies

end TraceIntegrity

end ReliabilityLab
