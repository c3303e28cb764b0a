import Mathlib.Data.List.Nodup

/-!
# Segments

`segments xs i cuts` cuts a list at the positions `cuts`, from position `i` on : the segments
between successive cuts. With increasing cuts they are, with what is behind the last cut, the
list from `i` on (`flatten_segments_append_drop`).
-/

namespace Serial

variable {α : Type}

/-- The segments of `xs` between successive cuts, from position `i`. -/
def segments (xs : List α) (i : Nat) : List Nat → List (List α)
  | [] => []
  | j :: cuts => (xs.drop i).take (j - i) :: segments xs j cuts

/-- The segments and the rest are the list. -/
theorem flatten_segments_append_drop {xs : List α} {i : Nat} {cuts : List Nat}
    (h : (i :: cuts).Pairwise (· ≤ ·)) :
    (segments xs i cuts).flatten ++ xs.drop (cuts.getLastD i) = xs.drop i := by
  induction cuts generalizing i with
  | nil => rfl
  | cons j cuts ih =>
    obtain ⟨hi, hcuts⟩ := List.pairwise_cons.1 h
    have hij : i ≤ j := hi j List.mem_cons_self
    have hrest : (xs.drop i).drop (j - i) = xs.drop j := by
      rw [List.drop_drop]
      congr 1
      omega
    rw [segments, List.flatten_cons, List.getLastD_cons, List.append_assoc, ih hcuts, ← hrest,
      List.take_append_drop]

/-- An element of a list without duplicates is in a segment or in the rest, not in both. -/
theorem mem_flatten_segments_iff {xs : List α} {i : Nat} {cuts : List Nat}
    (h : (i :: cuts).Pairwise (· ≤ ·)) (hxs : xs.Nodup) {x : α} (hx : x ∈ xs.drop i) :
    x ∈ (segments xs i cuts).flatten ↔ x ∉ xs.drop (cuts.getLastD i) := by
  have hsplit : (segments xs i cuts).flatten ++ xs.drop (cuts.getLastD i) = xs.drop i :=
    flatten_segments_append_drop h
  have hnodup : (xs.drop i).Nodup := hxs.sublist (List.drop_sublist i xs)
  rw [← hsplit] at hx hnodup
  have hdisjoint := List.disjoint_of_nodup_append hnodup
  exact ⟨fun hmem => hdisjoint hmem, fun hmem => (List.mem_append.1 hx).resolve_right hmem⟩

end Serial
