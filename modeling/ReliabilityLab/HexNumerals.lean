import Mathlib.Data.List.DropRight
import ReliabilityLab.Numerals

/-!
# Hexadecimal numerals

The grammar of `int(text, 16)`. `Digits base` are digits with single underscores between
them. A `HexNumeral` is such digits in base 16, after a sign and the marker `0x` and between
white space, all of which may be missing. A text that is not ASCII is brought to ASCII first
(`asciiText`).

`parseInt_isSome_iff` : `int(text, 16)` returns exactly for the texts of the numerals. The
characters of the parts tell them apart, so what the parser takes off a numeral first, the
white space, the sign and the marker, is what was put on last.
-/

namespace ReliabilityLab

/-! ## Digits -/

/-- The character is a digit of the base. -/
def IsDigit (base : ℕ) (c : Char) : Prop :=
  (digitValue? base c).isSome = true

instance (base : ℕ) (c : Char) : Decidable (IsDigit base c) :=
  inferInstanceAs (Decidable (_ = true))

/-- Digits with single underscores between them. -/
inductive Digits (base : ℕ) : List Char → Prop
  | one {c : Char} (hc : IsDigit base c) : Digits base [c]
  | next {c : Char} {cs : List Char} (hc : IsDigit base c) (hcs : Digits base cs) :
    Digits base (c :: cs)
  | underscore {c : Char} {cs : List Char} (hc : IsDigit base c) (hcs : Digits base cs) :
    Digits base (c :: '_' :: cs)

/-- Digits are decimal digits and the letters of the alphabet. -/
theorem IsDigit.toNat {base : ℕ} {c : Char} (h : IsDigit base c) :
    0x30 ≤ c.toNat ∧ c.toNat ≤ 0x39 ∨ 0x61 ≤ c.toNat ∧ c.toNat ≤ 0x7a ∨
      0x41 ≤ c.toNat ∧ c.toNat ≤ 0x5a := by
  by_contra hnone
  rw [not_or, not_or] at hnone
  obtain ⟨hdecimal, hlower, hupper⟩ := hnone
  unfold IsDigit digitValue? at h
  simp [hdecimal, hlower, hupper] at h

theorem not_isDigit_underscore (base : ℕ) : ¬IsDigit base '_' := by
  intro h
  have hrange := h.toNat
  revert hrange
  decide

theorem IsDigit.not_isAsciiSpace {base : ℕ} {c : Char} (h : IsDigit base c) :
    isAsciiSpace c = false := by
  have hrange := h.toNat
  have hne : c ≠ ' ' := by
    rintro rfl
    revert hrange
    decide
  simp only [isAsciiSpace, hne, decide_false, Bool.false_or, Bool.and_eq_false_iff,
    decide_eq_false_iff_not]
  omega

/-- Digits start with one. -/
theorem Digits.exists_cons {base : ℕ} {cs : List Char} (h : Digits base cs) :
    ∃ d ds, cs = d :: ds ∧ IsDigit base d := by
  cases h with
  | one hc => exact ⟨_, _, rfl, hc⟩
  | next hc _ => exact ⟨_, _, rfl, hc⟩
  | underscore hc _ => exact ⟨_, _, rfl, hc⟩

theorem Digits.mem {base : ℕ} {cs : List Char} (h : Digits base cs) :
    ∀ c ∈ cs, IsDigit base c ∨ c = '_' := by
  induction h with
  | one hc => simpa using Or.inl hc
  | next hc _ ih => exact List.forall_mem_cons.2 ⟨Or.inl hc, ih⟩
  | underscore hc _ ih =>
    exact List.forall_mem_cons.2 ⟨Or.inl hc, List.forall_mem_cons.2 ⟨Or.inr rfl, ih⟩⟩

theorem Digits.not_mem {base : ℕ} {cs : List Char} (h : Digits base cs) {c : Char}
    (hc : ¬IsDigit base c) (hne : c ≠ '_') : c ∉ cs := by
  intro hmem
  rcases h.mem c hmem with hdigit | hunderscore
  · exact hc hdigit
  · exact hne hunderscore

theorem digitValues?_of_digits {base : ℕ} {cs : List Char} (h : Digits base cs) :
    (digitValues? base cs).isSome = true := by
  induction h with
  | @one c hc =>
    obtain ⟨x, hx⟩ := Option.isSome_iff_exists.1 hc
    simp [digitValues?, hx]
  | @next c cs hc hcs ih =>
    obtain ⟨x, hx⟩ := Option.isSome_iff_exists.1 hc
    obtain ⟨xs, hxs⟩ := Option.isSome_iff_exists.1 ih
    obtain ⟨d, ds, rfl, hd⟩ := hcs.exists_cons
    have hne : d ≠ '_' := by
      rintro rfl
      exact not_isDigit_underscore base hd
    simp [digitValues?, hx, hne, hxs]
  | @underscore c cs hc hcs ih =>
    obtain ⟨x, hx⟩ := Option.isSome_iff_exists.1 hc
    obtain ⟨xs, hxs⟩ := Option.isSome_iff_exists.1 ih
    simp [digitValues?, hx, hxs]

theorem digits_of_digitValues? {base : ℕ} {cs : List Char}
    (h : (digitValues? base cs).isSome = true) : Digits base cs := by
  induction cs using digitValues?.induct with
  | case1 => simp [digitValues?] at h
  | case2 c =>
    rw [digitValues?, Option.isSome_map] at h
    exact .one h
  | case3 c d cs ih₁ ih₂ =>
    rcases hc : digitValue? base c with _ | x
    · simp [digitValues?, hc] at h
    · have hdigit : IsDigit base c := Option.isSome_iff_exists.2 ⟨x, hc⟩
      by_cases hd : d = '_'
      · subst hd
        refine .underscore hdigit (ih₁ ?_)
        rcases hxs : digitValues? base cs with _ | xs
        · simp [digitValues?, hc, hxs] at h
        · rfl
      · refine .next hdigit (ih₂ ?_)
        rcases hxs : digitValues? base (d :: cs) with _ | xs
        · simp [digitValues?, hc, hd, hxs] at h
        · rfl

theorem digitValues?_isSome_iff {base : ℕ} {cs : List Char} :
    (digitValues? base cs).isSome = true ↔ Digits base cs :=
  ⟨digits_of_digitValues?, digitValues?_of_digits⟩

/-! ## Numerals -/

/-- The signs of a numeral. -/
def signs : List (List Char) :=
  [[], ['+'], ['-']]

/-- The markers of base 16. -/
def markers : List (List Char) :=
  [[], ['0', 'x'], ['0', 'X'], ['0', 'x', '_'], ['0', 'X', '_']]

/-- A literal of `int(_, 16)`, by its parts. -/
structure HexNumeral where
  before : List Char
  sign : List Char
  marker : List Char
  digits : List Char
  after : List Char
  before_space : ∀ c ∈ before, isAsciiSpace c = true
  sign_mem : sign ∈ signs
  marker_mem : marker ∈ markers
  digits_hex : Digits 16 digits
  after_space : ∀ c ∈ after, isAsciiSpace c = true

/-- The sign, the marker and the digits. -/
def HexNumeral.body (n : HexNumeral) : List Char :=
  n.sign ++ (n.marker ++ n.digits)

/-- The characters of a numeral. -/
def HexNumeral.text (n : HexNumeral) : List Char :=
  n.before ++ (n.body ++ n.after)

/-- `int` reads a text that is not ASCII as one that is. -/
def asciiText (text : String) : List Char :=
  if text.toList.all fun c => c.toNat < 128 then text.toList
  else text.toList.map asciiNumeral

/-- The text without the white space around it. -/
def stripSpaces (cs : List Char) : List Char :=
  (cs.dropWhile isAsciiSpace).rdropWhile isAsciiSpace

/-- A numeral without the white space around it. -/
def parseSigned (base : ℕ) : List Char → Option Int
  | '-' :: cs => (parseDigits base cs).map (- ·)
  | '+' :: cs => parseDigits base cs
  | cs => parseDigits base cs

theorem parseInt_eq (base : ℕ) (text : String) :
    parseInt base text = parseSigned base (stripSpaces (asciiText text)) := by
  unfold parseInt parseSigned stripSpaces List.rdropWhile asciiText
  rfl

theorem stripSpaces_of_space {before body after : List Char}
    (hbefore : ∀ c ∈ before, isAsciiSpace c = true) (hbody : ∀ c ∈ body, isAsciiSpace c = false)
    (hne : body ≠ []) (hafter : ∀ c ∈ after, isAsciiSpace c = true) :
    stripSpaces (before ++ (body ++ after)) = body := by
  have hleft : (before ++ (body ++ after)).dropWhile isAsciiSpace = body ++ after := by
    rw [List.dropWhile_append_of_pos hbefore]
    obtain ⟨c, cs, rfl⟩ := List.exists_cons_of_ne_nil hne
    rw [List.cons_append, List.dropWhile_cons_of_neg (by simp [hbody c List.mem_cons_self])]
  have hreverse : ∀ c ∈ body.reverse, isAsciiSpace c = false :=
    fun c hc => hbody c (List.mem_reverse.1 hc)
  unfold stripSpaces List.rdropWhile
  rw [hleft, List.reverse_append,
    List.dropWhile_append_of_pos (fun c hc => hafter c (List.mem_reverse.1 hc)),
    dropWhile_of_not_space hreverse, List.reverse_reverse]

/-- A text is what `stripSpaces` leaves of it, between white space. -/
theorem exists_spaces (cs : List Char) :
    ∃ before after, cs = before ++ (stripSpaces cs ++ after) ∧
      (∀ c ∈ before, isAsciiSpace c = true) ∧ ∀ c ∈ after, isAsciiSpace c = true := by
  refine ⟨cs.takeWhile isAsciiSpace, (cs.dropWhile isAsciiSpace).rtakeWhile isAsciiSpace, ?_,
    fun c hc => List.mem_takeWhile_imp hc, fun c hc => List.mem_rtakeWhile_imp hc⟩
  unfold stripSpaces
  rw [List.rdropWhile_append_rtakeWhile, List.takeWhile_append_dropWhile]

/-! ## The texts of numerals -/

theorem parseDigits_isSome {cs : List Char} :
    (parseDigits 16 cs).isSome = true ↔ Digits 16 (dropHexPrefix cs) := by
  rw [← digitValues?_isSome_iff]
  unfold parseDigits
  rw [if_pos rfl]
  rcases digitValues? 16 (dropHexPrefix cs) with _ | xs <;> simp

theorem exists_marker (cs : List Char) : ∃ marker ∈ markers, cs = marker ++ dropHexPrefix cs := by
  unfold dropHexPrefix
  split
  · exact ⟨['0', 'x', '_'], by decide, rfl⟩
  · exact ⟨['0', 'X', '_'], by decide, rfl⟩
  · exact ⟨['0', 'x'], by decide, rfl⟩
  · exact ⟨['0', 'X'], by decide, rfl⟩
  · exact ⟨[], by decide, rfl⟩

/-- The digits of a numeral are what follows its marker. -/
theorem dropHexPrefix_marker {marker cs : List Char} (hmarker : marker ∈ markers)
    (h : Digits 16 cs) : dropHexPrefix (marker ++ cs) = cs := by
  have hlower : 'x' ∉ cs := h.not_mem (by decide) (by decide)
  have hupper : 'X' ∉ cs := h.not_mem (by decide) (by decide)
  obtain ⟨d, ds, rfl, hd⟩ := h.exists_cons
  have hne : d ≠ '_' := by
    rintro rfl
    exact not_isDigit_underscore 16 hd
  simp only [markers, List.mem_cons, List.not_mem_nil, or_false] at hmarker
  obtain rfl | rfl | rfl | rfl | rfl := hmarker
  · rw [List.nil_append]
    unfold dropHexPrefix
    split
    case h_5 => rfl
    all_goals simp_all
  · simp [dropHexPrefix, hne]
  · simp [dropHexPrefix, hne]
  · simp [dropHexPrefix]
  · simp [dropHexPrefix]

namespace HexNumeral

/-- What is in no marker and no digits is not after the sign. -/
theorem not_mem (n : HexNumeral) {c : Char} (hmarkers : ∀ marker ∈ markers, c ∉ marker)
    (hdigit : ¬IsDigit 16 c) (hne : c ≠ '_') : c ∉ n.marker ++ n.digits := by
  rw [List.mem_append, not_or]
  exact ⟨hmarkers _ n.marker_mem, n.digits_hex.not_mem hdigit hne⟩

theorem body_ne_nil (n : HexNumeral) : n.body ≠ [] := by
  obtain ⟨d, ds, hdigits, -⟩ := n.digits_hex.exists_cons
  simp [body, hdigits]

theorem body_not_space (n : HexNumeral) : ∀ c ∈ n.body, isAsciiSpace c = false := by
  have hsigns : ∀ sign ∈ signs, ∀ c ∈ sign, isAsciiSpace c = false := by
    simp [signs, isAsciiSpace]
  have hmarkers : ∀ marker ∈ markers, ∀ c ∈ marker, isAsciiSpace c = false := by
    simp [markers, isAsciiSpace]
  intro c hc
  simp only [body, List.mem_append] at hc
  rcases hc with hc | hc | hc
  · exact hsigns _ n.sign_mem c hc
  · exact hmarkers _ n.marker_mem c hc
  · rcases n.digits_hex.mem c hc with hdigit | rfl
    · exact hdigit.not_isAsciiSpace
    · decide

theorem stripSpaces_text (n : HexNumeral) : stripSpaces n.text = n.body :=
  stripSpaces_of_space n.before_space n.body_not_space n.body_ne_nil n.after_space

theorem parseDigits_isSome (n : HexNumeral) :
    (parseDigits 16 (n.marker ++ n.digits)).isSome = true := by
  rw [ReliabilityLab.parseDigits_isSome, dropHexPrefix_marker n.marker_mem n.digits_hex]
  exact n.digits_hex

theorem parseSigned_isSome (n : HexNumeral) : (parseSigned 16 n.body).isSome = true := by
  have hdigits := n.parseDigits_isSome
  have hminus : '-' ∉ n.marker ++ n.digits := n.not_mem (by decide) (by decide) (by decide)
  have hplus : '+' ∉ n.marker ++ n.digits := n.not_mem (by decide) (by decide) (by decide)
  have hsign := n.sign_mem
  simp only [signs, List.mem_cons, List.not_mem_nil, or_false] at hsign
  unfold body
  obtain hsign | hsign | hsign := hsign <;> rw [hsign]
  · rw [List.nil_append]
    unfold parseSigned
    split
    · next heq => simp [heq] at hminus
    · next heq => simp [heq] at hplus
    · exact hdigits
  · exact hdigits
  · rw [List.singleton_append, parseSigned, Option.isSome_map]
    exact hdigits

end HexNumeral

/-- A sign and what `parseDigits` takes after it. -/
theorem exists_sign {cs : List Char} (h : (parseSigned 16 cs).isSome = true) :
    ∃ sign ∈ signs, ∃ rest, cs = sign ++ rest ∧ (parseDigits 16 rest).isSome = true := by
  unfold parseSigned at h
  split at h
  · next rest =>
    rw [Option.isSome_map] at h
    exact ⟨['-'], by decide, rest, rfl, h⟩
  · next rest => exact ⟨['+'], by decide, rest, rfl, h⟩
  · exact ⟨[], by decide, cs, rfl, h⟩

/-- `int(text, 16)` returns exactly for the texts of numerals. -/
theorem parseInt_isSome_iff {text : String} :
    (parseInt 16 text).isSome = true ↔ ∃ n : HexNumeral, n.text = asciiText text := by
  rw [parseInt_eq]
  constructor
  · intro h
    obtain ⟨before, after, hspaces, hbefore, hafter⟩ := exists_spaces (asciiText text)
    obtain ⟨sign, hsign, rest, hbody, hdigits⟩ := exists_sign h
    obtain ⟨marker, hmarker, hrest⟩ := exists_marker rest
    refine ⟨⟨before, sign, marker, dropHexPrefix rest, after, hbefore, hsign, hmarker,
      parseDigits_isSome.1 hdigits, hafter⟩, ?_⟩
    rw [HexNumeral.text, HexNumeral.body, ← hrest, ← hbody, ← hspaces]
  · rintro ⟨n, hn⟩
    rw [← hn, n.stripSpaces_text]
    exact n.parseSigned_isSome

end ReliabilityLab
