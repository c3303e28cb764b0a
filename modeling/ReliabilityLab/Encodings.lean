import Mathlib.Data.List.Basic

/-!
# Unambiguous encodings

An encoding of values as lists of symbols is `Unambiguous` if a value and what follows it
can be read off any list that starts with its code. Unambiguous encodings are injective,
and compose : one after another, after a fixed symbol, and in lists that a symbol
terminates, which no code of an element starts with (`terminated`, `separated`).
-/

namespace Serial

variable {α β σ : Type}

/-- A code and what follows it determine the value. -/
def Unambiguous (enc : α → List σ) : Prop :=
  ∀ a b xs ys, enc a ++ xs = enc b ++ ys → a = b ∧ xs = ys

namespace Unambiguous

theorem injective {enc : α → List σ} (h : Unambiguous enc) : Function.Injective enc :=
  fun a b hab => (h a b [] [] (by rw [hab])).1

/-- An encoding that a reader inverts, leaving what follows. -/
theorem of_reader {enc : α → List σ} (read : List σ → Option (α × List σ))
    (h : ∀ a xs, read (enc a ++ xs) = some (a, xs)) : Unambiguous enc := by
  intro a b xs ys hab
  have hread := h a xs
  rw [hab, h b ys] at hread
  exact ⟨congrArg Prod.fst (Option.some.inj hread).symm,
    congrArg Prod.snd (Option.some.inj hread).symm⟩

theorem cons {enc : α → List σ} (h : Unambiguous enc) (c : σ) :
    Unambiguous fun a => c :: enc a :=
  fun a b xs ys hab => h a b xs ys (List.cons.inj hab).2

theorem comp {enc : α → List σ} (h : Unambiguous enc) {f : β → α} (hf : Function.Injective f) :
    Unambiguous fun b => enc (f b) :=
  fun _ _ xs ys hab => (h _ _ xs ys hab).imp_left fun he => hf he

/-- No code starts with `stop`, and none is empty. -/
def StartsOff (enc : α → List σ) (stop : σ) : Prop :=
  ∀ a, ∃ c cs, enc a = c :: cs ∧ c ≠ stop

/-- The codes of the elements of a list, then `stop`. -/
theorem terminated {enc : α → List σ} (h : Unambiguous enc) {stop : σ}
    (hstop : StartsOff enc stop) : Unambiguous fun as : List α => as.flatMap enc ++ [stop] := by
  intro as
  induction as with
  | nil =>
    intro bs xs ys hab
    rcases bs with _ | ⟨b, bs⟩
    · exact ⟨rfl, (List.cons.inj hab).2⟩
    · obtain ⟨c, cs, hc, hne⟩ := hstop b
      simp only [List.flatMap_cons, hc] at hab
      exact absurd (List.cons.inj hab).1.symm hne
  | cons a as ih =>
    intro bs xs ys hab
    rcases bs with _ | ⟨b, bs⟩
    · obtain ⟨c, cs, hc, hne⟩ := hstop a
      simp only [List.flatMap_cons, hc] at hab
      exact absurd (List.cons.inj hab).1 hne
    · simp only [List.flatMap_cons, List.append_assoc] at hab
      obtain ⟨rfl, hrest⟩ := h a b _ _ hab
      obtain ⟨rfl, rfl⟩ := ih bs xs ys (by simpa using hrest)
      exact ⟨rfl, rfl⟩

theorem intercalate_cons (enc : α → List σ) (sep : σ) (a : α) (as : List α) :
    List.intercalate [sep] ((a :: as).map enc) = enc a ++ as.flatMap fun b => sep :: enc b := by
  induction as generalizing a with
  | nil => simp [List.intercalate]
  | cons b as ih =>
    have hstep : List.intercalate [sep] ((a :: b :: as).map enc) =
        enc a ++ sep :: List.intercalate [sep] ((b :: as).map enc) := by
      simp [List.intercalate]
    rw [hstep, ih]
    simp

/-- The codes of the elements of a list, `sep` between them, then `stop`. -/
theorem separated {enc : α → List σ} (h : Unambiguous enc) {sep stop : σ} (hne : sep ≠ stop)
    (hstop : StartsOff enc stop) :
    Unambiguous fun as : List α => List.intercalate [sep] (as.map enc) ++ [stop] := by
  have hrest : Unambiguous fun as : List α => (as.flatMap fun a => sep :: enc a) ++ [stop] :=
    (h.cons sep).terminated fun a => ⟨sep, enc a, rfl, hne⟩
  intro as bs xs ys hab
  rcases as with _ | ⟨a, as⟩ <;> rcases bs with _ | ⟨b, bs⟩
  · exact ⟨rfl, by simpa [List.intercalate] using hab⟩
  · obtain ⟨c, cs, hc, hne⟩ := hstop b
    simp only [intercalate_cons, hc] at hab
    exact absurd (List.cons.inj hab).1.symm hne
  · obtain ⟨c, cs, hc, hne⟩ := hstop a
    simp only [intercalate_cons, hc] at hab
    exact absurd (List.cons.inj hab).1 hne
  · simp only [intercalate_cons, List.append_assoc] at hab
    obtain ⟨rfl, hab⟩ := h a b _ _ hab
    obtain ⟨rfl, rfl⟩ := hrest as bs xs ys (by simpa using hab)
    exact ⟨rfl, rfl⟩

end Unambiguous

end Serial
