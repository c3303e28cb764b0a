import Mathlib.Data.List.TakeWhile
import ReliabilityLab.Python

/-!
# Numerals

`parseInt base text` is `int(text, base)` for the bases 10 and 16 : white space around, a
sign, the prefix `0x` in base 16, and digits with single underscores between them. Text
that is not ASCII is first brought to ASCII, its white space and the decimal digits of
any script. A decimal numeral has at most 4300 digits. `parseInt_toString` and
`parseInt_of_hexDigits` are the numerals that the package writes.
-/

namespace ReliabilityLab

/-- The zeros of the scripts that have decimal digits, in Unicode 14. -/
def decimalZeros : List Nat :=
  [0x30, 0x660, 0x6f0, 0x7c0, 0x966, 0x9e6, 0xa66, 0xae6, 0xb66, 0xbe6, 0xc66, 0xce6, 0xd66,
    0xde6, 0xe50, 0xed0, 0xf20, 0x1040, 0x1090, 0x17e0, 0x1810, 0x1946, 0x19d0, 0x1a80, 0x1a90,
    0x1b50, 0x1bb0, 0x1c40, 0x1c50, 0xa620, 0xa8d0, 0xa900, 0xa9d0, 0xa9f0, 0xaa50, 0xabf0,
    0xff10, 0x104a0, 0x10d30, 0x11066, 0x110f0, 0x11136, 0x111d0, 0x112f0, 0x11450, 0x114d0,
    0x11650, 0x116c0, 0x11730, 0x118e0, 0x11950, 0x11c50, 0x11d50, 0x11da0, 0x16a60, 0x16ac0,
    0x16b50, 0x1d7ce, 0x1d7d8, 0x1d7e2, 0x1d7ec, 0x1d7f6, 0x1e140, 0x1e2f0, 0x1e950, 0x1fbf0]

/-- One character of a numeral, brought to ASCII. What is neither white space nor a digit
becomes a character that no numeral has. -/
def asciiNumeral (c : Char) : Char :=
  if c.toNat < 127 then c
  else if isSpace c then ' '
  else
    match decimalZeros.find? fun first => first ≤ c.toNat ∧ c.toNat < first + 10 with
    | some first => Nat.digitChar (c.toNat - first)
    | none => '?'

/-- White space around an ASCII numeral. -/
def isAsciiSpace (c : Char) : Bool :=
  c = ' ' || (0x9 ≤ c.toNat && c.toNat ≤ 0xd)

/-- The value of a digit of the base. -/
def digitValue? (base : Nat) (c : Char) : Option Nat :=
  let n := c.toNat
  let value :=
    if 0x30 ≤ n ∧ n ≤ 0x39 then n - 0x30
    else if 0x61 ≤ n ∧ n ≤ 0x7a then n - 0x57
    else if 0x41 ≤ n ∧ n ≤ 0x5a then n - 0x37
    else base
  if value < base then some value else none

/-- The values of digits with single underscores between them. -/
def digitValues? (base : Nat) : List Char → Option (List Nat)
  | [] => none
  | [c] => (digitValue? base c).map fun x => [x]
  | c :: d :: cs => do
    let x ← digitValue? base c
    let xs ← if d = '_' then digitValues? base cs else digitValues? base (d :: cs)
    some (x :: xs)

/-- The digits of a base 16 numeral after its prefix, if it has one. -/
def dropHexPrefix : List Char → List Char
  | '0' :: 'x' :: '_' :: cs | '0' :: 'X' :: '_' :: cs => cs
  | '0' :: 'x' :: cs | '0' :: 'X' :: cs => cs
  | cs => cs

/-- A numeral without its sign. -/
def parseDigits (base : Nat) (cs : List Char) : Option Int := do
  let xs ← digitValues? base (if base = 16 then dropHexPrefix cs else cs)
  if base ≠ 16 ∧ 4300 < xs.length then none
  else some (xs.foldl (fun n x => n * base + x) 0 : Nat)

/-- `int(text, base)`; `none` is its `ValueError`. -/
def parseInt (base : Nat) (text : String) : Option Int :=
  let ascii :=
    if text.toList.all fun c => c.toNat < 128 then text.toList
    else text.toList.map asciiNumeral
  let body := ((ascii.dropWhile isAsciiSpace).reverse.dropWhile isAsciiSpace).reverse
  match body with
  | '-' :: cs => (parseDigits base cs).map (- ·)
  | '+' :: cs => parseDigits base cs
  | cs => parseDigits base cs

example : parseInt 10 " +1_0 " = some 10 := by decide

example : parseInt 16 "0x_1f" = some 31 := by decide

/-! ## The numeral of a number -/

theorem digitValue?_of_isDigit {c : Char} (h : c.isDigit = true) :
    digitValue? 10 c = some (c.toNat - '0'.toNat) := by
  obtain ⟨hlow, hhigh⟩ := Char.isDigit_iff_toNat.1 h
  have hdigit : 0x30 ≤ c.toNat ∧ c.toNat ≤ 0x39 := ⟨hlow, hhigh⟩
  have hvalue : c.toNat - 0x30 < 10 := by omega
  unfold digitValue?
  simp only [hdigit, and_self, if_true, hvalue]
  rfl

theorem digitValues?_of_isDigit {cs : List Char} (hne : cs ≠ []) (h : ∀ c ∈ cs, c.isDigit = true) :
    digitValues? 10 cs = some (cs.map fun c => c.toNat - '0'.toNat) := by
  induction cs with
  | nil => exact absurd rfl hne
  | cons c cs ih =>
    rw [List.forall_mem_cons] at h
    have hc := digitValue?_of_isDigit h.1
    rcases cs with _ | ⟨d, cs⟩
    · simp [digitValues?, hc]
    · have hd : d ≠ '_' := by
        rintro rfl
        exact absurd (h.2 '_' List.mem_cons_self) (by decide)
      have hrest := ih (by simp) h.2
      simp [digitValues?, hc, hd, hrest]

theorem foldl_digits (cs : List Char) (init : Nat) :
    (cs.map fun c => c.toNat - '0'.toNat).foldl (fun n x => n * 10 + x) init =
      Nat.ofDigitChars 10 cs init := by
  rw [List.foldl_map, Nat.ofDigitChars_eq_foldl]
  simp only [Nat.mul_comm]

/-- A text without white space is its own body. -/
theorem dropWhile_of_not_space {cs : List Char} (h : ∀ c ∈ cs, isAsciiSpace c = false) :
    cs.dropWhile isAsciiSpace = cs := by
  rw [List.dropWhile_eq_self_iff]
  intro hlen
  simp [h _ (List.getElem_mem hlen)]

theorem dropWhile_of_isDigit {cs : List Char} (h : ∀ c ∈ cs, c.isDigit = true) :
    cs.dropWhile isAsciiSpace = cs := by
  refine dropWhile_of_not_space fun c hc => ?_
  obtain ⟨hlow, hhigh⟩ := Char.isDigit_iff_toNat.1 (h c hc)
  have h0 : '0'.toNat = 0x30 := rfl
  have hne : c ≠ ' ' := by
    rintro rfl
    exact absurd hlow (by decide)
  simp only [isAsciiSpace, hne, decide_false, Bool.false_or, Bool.and_eq_false_iff,
    decide_eq_false_iff_not]
  omega

/-- `int` reads a numeral of digits. -/
theorem parseInt_of_isDigit {cs : List Char} (hne : cs ≠ []) (h : ∀ c ∈ cs, c.isDigit = true)
    (hlen : cs.length ≤ 4300) :
    parseInt 10 (String.ofList cs) = some (Nat.ofDigitChars 10 cs 0 : Nat) := by
  have hbound : ∀ c ∈ cs, c.toNat < 128 := by
    intro c hc
    obtain ⟨-, hhigh⟩ := Char.isDigit_iff_toNat.1 (h c hc)
    have h9 : '9'.toNat = 0x39 := rfl
    omega
  have hascii : (String.ofList cs).toList.all (fun c => c.toNat < 128) = true := by
    rw [String.toList_ofList, List.all_eq_true]
    intro c hc
    exact decide_eq_true (hbound c hc)
  have hdigits : parseDigits 10 cs = some (Nat.ofDigitChars 10 cs 0 : Nat) := by
    unfold parseDigits
    rw [if_neg (by decide), digitValues?_of_isDigit hne h]
    simp only [Option.bind_eq_bind, Option.bind_some, List.length_map, foldl_digits]
    rw [if_neg (by omega)]
    rfl
  have hreverse : ∀ c ∈ cs.reverse, c.isDigit = true := fun c hc => h c (List.mem_reverse.1 hc)
  unfold parseInt
  dsimp only
  rw [if_pos hascii, String.toList_ofList, dropWhile_of_isDigit h, dropWhile_of_isDigit hreverse,
    List.reverse_reverse]
  split
  · next tail =>
    exact absurd (h '-' List.mem_cons_self) (by decide)
  · next tail =>
    exact absurd (h '+' List.mem_cons_self) (by decide)
  · exact hdigits

/-- `int(str(i))` is `i`. -/
theorem parseInt_toString {i : Nat} (hlen : (Nat.toDigits 10 i).length ≤ 4300) :
    parseInt 10 (toString i) = some (i : Int) := by
  have hdigits : ∀ c ∈ Nat.toDigits 10 i, c.isDigit = true := fun c hc =>
    Nat.isDigit_of_mem_toDigits (by decide) (by decide) hc
  have hparse := parseInt_of_isDigit Nat.toDigits_ne_nil hdigits hlen
  rw [Nat.ofDigitChars_ten_toDigits] at hparse
  rwa [Nat.toString_eq_ofList_toDigits]

/-! ## Hexadecimal texts -/

/-- The characters of a hexadecimal digest. -/
def hexDigits : List Char :=
  "0123456789abcdef".toList

/-- What `int(_, 16)` and `lower` make of one of them. -/
theorem hexDigit_reads : ∀ c ∈ hexDigits, c.toNat < 128 ∧ isAsciiSpace c = false ∧
    (digitValue? 16 c).isSome = true ∧ c.toLower = c := by
  have hall : hexDigits.all (fun c => c.toNat < 128 ∧ isAsciiSpace c = false ∧
      (digitValue? 16 c).isSome = true ∧ c.toLower = c) = true := by decide +kernel
  exact fun c hc => of_decide_eq_true (List.all_eq_true.1 hall c hc)

theorem digitValues?_of_hexDigits {cs : List Char} (hne : cs ≠ []) (h : ∀ c ∈ cs, c ∈ hexDigits) :
    (digitValues? 16 cs).isSome = true := by
  induction cs with
  | nil => exact absurd rfl hne
  | cons c cs ih =>
    rw [List.forall_mem_cons] at h
    obtain ⟨x, hx⟩ := Option.isSome_iff_exists.1 (hexDigit_reads c h.1).2.2.1
    rcases cs with _ | ⟨d, cs⟩
    · simp [digitValues?, hx]
    · have hd : d ≠ '_' := by
        rintro rfl
        exact absurd (h.2 '_' List.mem_cons_self) (by decide)
      obtain ⟨xs, hxs⟩ := Option.isSome_iff_exists.1 (ih (by simp) h.2)
      simp [digitValues?, hx, hd, hxs]

theorem dropHexPrefix_of_hexDigits {cs : List Char} (h : ∀ c ∈ cs, c ∈ hexDigits) :
    dropHexPrefix cs = cs := by
  have hlower : 'x' ∉ cs := fun hmem => absurd (h 'x' hmem) (by decide)
  have hupper : 'X' ∉ cs := fun hmem => absurd (h 'X' hmem) (by decide)
  unfold dropHexPrefix
  split
  case h_5 => rfl
  all_goals simp at hlower hupper

/-- `int` reads a hexadecimal text. -/
theorem parseInt_of_hexDigits {text : String} (hne : text.toList ≠ [])
    (h : ∀ c ∈ text.toList, c ∈ hexDigits) : (parseInt 16 text).isSome = true := by
  have hascii : text.toList.all (fun c => c.toNat < 128) = true :=
    List.all_eq_true.2 fun c hc => decide_eq_true (hexDigit_reads c (h c hc)).1
  have hdrop : ∀ cs : List Char, (∀ c ∈ cs, c ∈ hexDigits) → cs.dropWhile isAsciiSpace = cs :=
    fun cs hcs => dropWhile_of_not_space fun c hc => (hexDigit_reads c (hcs c hc)).2.1
  have hdigits : (parseDigits 16 text.toList).isSome = true := by
    unfold parseDigits
    rw [if_pos rfl, dropHexPrefix_of_hexDigits h]
    obtain ⟨xs, hxs⟩ := Option.isSome_iff_exists.1 (digitValues?_of_hexDigits hne h)
    simp [hxs]
  have hreverse : ∀ c ∈ text.toList.reverse, c ∈ hexDigits := fun c hc =>
    h c (List.mem_reverse.1 hc)
  unfold parseInt
  dsimp only
  rw [if_pos hascii, hdrop _ h, hdrop _ hreverse, List.reverse_reverse]
  split
  · next tail heq =>
    exact absurd (h '-' (by simp [heq])) (by decide)
  · next tail heq =>
    exact absurd (h '+' (by simp [heq])) (by decide)
  · exact hdigits
end ReliabilityLab
