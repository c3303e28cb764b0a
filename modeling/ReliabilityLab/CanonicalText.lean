import ReliabilityLab.Encodings
import ReliabilityLab.Reconciliation
import ReliabilityLab.Recovery

/-!
# Canonical texts

The JSON texts that plans and effects are compared and hashed by determine what they were
made from, whatever quotes, commas, brackets and escapes it contains. `unescape` reads one
escaped code point off a text, so `jsonString` and `jsonArray` are unambiguous, and with
them the text of an effect (`canonical_injective`) and of a plan (`planJson_injective`).
-/

set_option linter.unusedSectionVars false

open Serial

namespace ReliabilityLab

/-! ## Strings -/

/-- The value of a hexadecimal digit that `Nat.digitChar` writes. -/
def hexValue (c : Char) : Nat :=
  if c.toNat ≤ 0x39 then c.toNat - 0x30 else c.toNat - 0x57

/-- The code point escaped at the start of a text, and the rest of it. -/
def unescape : List Char → Option (Char × List Char)
  | '\\' :: 'n' :: xs => some ('\n', xs)
  | '\\' :: 'r' :: xs => some ('\r', xs)
  | '\\' :: 't' :: xs => some ('\t', xs)
  | '\\' :: 'b' :: xs => some (Char.ofNat 0x8, xs)
  | '\\' :: 'f' :: xs => some (Char.ofNat 0xc, xs)
  | '\\' :: 'u' :: '0' :: '0' :: h :: l :: xs =>
    some (Char.ofNat (16 * hexValue h + hexValue l), xs)
  | '\\' :: c :: xs => some (c, xs)
  | c :: xs => some (c, xs)
  | [] => none

theorem hexValue_digits : ∀ n < 0x20,
    16 * hexValue (Nat.digitChar (n / 16)) + hexValue (Nat.digitChar (n % 16)) = n := by
  decide

theorem unescape_jsonEscape (c : Char) (xs : List Char) :
    unescape (jsonEscape c ++ xs) = some (c, xs) := by
  unfold jsonEscape
  split_ifs with h₁ h₂ h₃ h₄ h₅ h₆ h₇ h₈
  · rw [h₁]
    rfl
  · rw [h₂]
    rfl
  · rw [h₃]
    rfl
  · rw [h₄]
    rfl
  · rw [h₅]
    rfl
  · rw [← Char.ofNat_toNat c, h₆]
    rfl
  · rw [← Char.ofNat_toNat c, h₇]
    rfl
  · show some (Char.ofNat _, xs) = _
    rw [hexValue_digits _ h₈, Char.ofNat_toNat]
  · rw [List.singleton_append]
    unfold unescape
    split <;> simp_all

theorem unambiguous_jsonEscape : Unambiguous jsonEscape :=
  .of_reader unescape unescape_jsonEscape

/-- An escape does not start with a quotation mark. -/
theorem jsonEscape_startsOff : Unambiguous.StartsOff jsonEscape '"' := by
  intro c
  unfold jsonEscape
  split_ifs with h
  all_goals first | exact ⟨_, _, rfl, by decide⟩ | exact ⟨c, [], rfl, h⟩

theorem unambiguous_jsonString : Unambiguous jsonString :=
  ((unambiguous_jsonEscape.terminated jsonEscape_startsOff).cons '"').comp
    fun _ _ h => String.toList_inj.1 h

/-! ## Arrays -/

theorem unambiguous_jsonArray {α : Type} {enc : α → List Char} (h : Unambiguous enc)
    (hstop : Unambiguous.StartsOff enc ']') :
    Unambiguous fun as : List α => jsonArray (as.map enc) :=
  (h.separated (by decide) hstop).cons '['

theorem jsonString_startsOff : Unambiguous.StartsOff jsonString ']' :=
  fun _ => ⟨'"', _, rfl, by decide⟩

/-- An array of strings. -/
theorem unambiguous_strings :
    Unambiguous fun values : List String => jsonArray (values.map jsonString) :=
  unambiguous_jsonArray unambiguous_jsonString jsonString_startsOff

theorem strings_startsOff :
    Unambiguous.StartsOff (fun values : List String => jsonArray (values.map jsonString)) ']' :=
  fun _ => ⟨'[', _, rfl, by decide⟩

/-! ## Effects and plans -/

namespace ExternalOperation

/-- The canonical text of an effect. -/
def canonical (operation : ExternalOperation) : String :=
  String.ofList <| jsonArray
    [jsonString operation.provider, jsonString operation.operationId,
      jsonString operation.tool, jsonString operation.payload]

theorem effectSha256_eq [Hashlib] (operation : ExternalOperation) :
    operation.effectSha256 = Hashlib.sha256Hexdigest operation.canonical := rfl

theorem canonical_injective : Function.Injective canonical := by
  intro a b h
  have hvalues : [a.provider, a.operationId, a.tool, a.payload] =
      [b.provider, b.operationId, b.tool, b.payload] :=
    unambiguous_strings.injective (String.ofList_injective h)
  simp only [List.cons.injEq, and_true] at hvalues
  obtain ⟨hp, ho, ht, hl⟩ := hvalues
  exact ExternalOperation.ext hp ho ht hl

end ExternalOperation

/-- The three fields of two operations of a plan are equal. -/
def RecoveryOperation.Same (a b : RecoveryOperation) : Prop :=
  a.operationId = b.operationId ∧ a.tool = b.tool ∧ a.payload = b.payload

theorem RecoveryOperation.same_iff {a b : RecoveryOperation} : a.Same b ↔ a = b := by
  constructor
  · rcases a with ⟨o, t, p, ho, ht⟩
    rintro ⟨rfl, rfl, rfl⟩
    rfl
  · rintro rfl
    exact ⟨rfl, rfl, rfl⟩

namespace CheckpointStore

theorem planJson_injective : Function.Injective planJson := by
  have hfields : Function.Injective fun o : RecoveryOperation =>
      [o.operationId, o.tool, o.payload] := by
    intro a b h
    simp only [List.cons.injEq, and_true] at h
    exact RecoveryOperation.same_iff.1 h
  have hplan := unambiguous_jsonArray (unambiguous_strings.comp hfields)
    fun o => strings_startsOff _
  exact fun a b h => hplan.injective (String.ofList_injective h)

end CheckpointStore

end ReliabilityLab
