import Mathlib.Data.List.Infix

/-!
# Nested values

Values with children, each under a step. `valueAt p a` is the value that the path `p` leads
to in `a`, and `putAt y p a` is `a` with `y` there. A type is `Nested` if setting one child
leaves the others, and what the value is without its children (`node`); then a put changes
what is at its path and below, and nothing else (`agreeOff_putAt`), and puts at one path
obey the laws of a lens.
-/

namespace Serial

/-- Values whose children are under steps, and can be set. -/
class Nested (α : Type) (σ : outParam Type) (ν : outParam Type) where
  child? : α → σ → Option α
  setChild : α → σ → α → α
  node : α → ν
  child?_setChild : ∀ {a s x}, child? a s = some x → ∀ y, child? (setChild a s y) s = some y
  child?_setChild_ne : ∀ {s s'}, s ≠ s' → ∀ a y, child? (setChild a s y) s' = child? a s'
  setChild_setChild : ∀ a s y z, setChild (setChild a s y) s z = setChild a s z
  node_setChild : ∀ a s y, node (setChild a s y) = node a

namespace Nested

variable {α σ ν : Type} [Nested α σ ν] {a b x y z : α} {s : σ} {p q : List σ}

/-- The value that a path leads to. -/
def valueAt : List σ → α → Option α
  | [], a => some a
  | s :: p, a => (child? a s).bind (valueAt p)

/-- The value with `y` where the path leads to. -/
def putAt (y : α) : List σ → α → α
  | [], _ => y
  | s :: p, a =>
    match child? a s with
    | some x => setChild a s (putAt y p x)
    | none => a

/-- Two values agree at every path that `p` does not lead to or above : there the values are
the same without their children, and the same as a whole unless `p` is below. -/
def AgreeOff (p : List σ) (a b : α) : Prop :=
  ∀ q, ¬p <+: q → (valueAt q a).map node = (valueAt q b).map node ∧
    (¬q <+: p → valueAt q a = valueAt q b)

theorem valueAt_cons : valueAt (s :: p) a = (child? a s).bind (valueAt p) := rfl

theorem valueAt_cons_eq_some :
    valueAt (s :: p) a = some y ↔ ∃ x, child? a s = some x ∧ valueAt p x = some y :=
  Option.bind_eq_some_iff

theorem valueAt_append : valueAt (p ++ q) a = (valueAt p a).bind (valueAt q) := by
  induction p generalizing a with
  | nil => rfl
  | cons s p ih =>
    rw [List.cons_append, valueAt_cons, valueAt_cons, Option.bind_assoc]
    exact congrArg _ (funext fun _ => ih)

theorem putAt_cons (h : child? a s = some x) :
    putAt y (s :: p) a = setChild a s (putAt y p x) := by
  rw [putAt, h]

/-- A value put at a path is there. -/
theorem valueAt_putAt (h : valueAt p a = some x) (y : α) :
    valueAt p (putAt y p a) = some y := by
  induction p generalizing a with
  | nil => rfl
  | cons s p ih =>
    obtain ⟨c, hc, hx⟩ := valueAt_cons_eq_some.1 h
    rw [putAt_cons hc]
    exact valueAt_cons_eq_some.2 ⟨_, child?_setChild hc _, ih hx⟩

/-- A value put in place of another that was put. -/
theorem putAt_putAt (h : valueAt p a = some x) (y z : α) :
    putAt z p (putAt y p a) = putAt z p a := by
  induction p generalizing a with
  | nil => rfl
  | cons s p ih =>
    obtain ⟨c, hc, hx⟩ := valueAt_cons_eq_some.1 h
    rw [putAt_cons hc, putAt_cons (child?_setChild hc _), setChild_setChild, ih hx, putAt_cons hc]

/-- The value at a path put there changes nothing, if no child put in its own place does. -/
theorem putAt_self {I : α → Prop} (hchild : ∀ {a s x}, I a → child? a s = some x → I x)
    (hself : ∀ {a s x}, I a → child? a s = some x → setChild a s x = a) (ha : I a)
    (h : valueAt p a = some x) : putAt x p a = a := by
  induction p generalizing a with
  | nil => exact (Option.some.inj h).symm
  | cons s p ih =>
    obtain ⟨c, hc, hx⟩ := valueAt_cons_eq_some.1 h
    rw [putAt_cons hc, ih (hchild ha hc) hx, hself ha hc]

theorem putAt_append (h : valueAt p a = some b) (y : α) :
    putAt y (p ++ q) a = putAt (putAt y q b) p a := by
  induction p generalizing a with
  | nil => rw [List.nil_append, Option.some.inj h, putAt]
  | cons s p ih =>
    obtain ⟨c, hc, hb⟩ := valueAt_cons_eq_some.1 h
    rw [List.cons_append, putAt_cons hc, putAt_cons hc, ih hb]

/-- A put changes nothing off its path. -/
theorem agreeOff_putAt (h : valueAt p a = some x) (y : α) : AgreeOff p (putAt y p a) a := by
  induction p generalizing a with
  | nil => exact fun q hq => absurd List.nil_prefix hq
  | cons s p ih =>
    obtain ⟨c, hc, hx⟩ := valueAt_cons_eq_some.1 h
    rw [putAt_cons hc]
    intro q hq
    rcases q with _ | ⟨s', q⟩
    · refine ⟨?_, fun hnot => absurd List.nil_prefix hnot⟩
      simp [valueAt, node_setChild]
    · by_cases hs : s = s'
      · subst hs
        rw [List.cons_prefix_cons, and_iff_right rfl] at hq
        obtain ⟨hnode, hvalue⟩ := ih hx q hq
        rw [valueAt_cons, valueAt_cons, child?_setChild hc, hc, Option.bind_some, Option.bind_some,
          List.cons_prefix_cons, and_iff_right rfl]
        exact ⟨hnode, hvalue⟩
      · rw [valueAt_cons, valueAt_cons, child?_setChild_ne hs]
        exact ⟨rfl, fun _ => rfl⟩

end Nested

end Serial
