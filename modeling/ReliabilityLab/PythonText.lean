import Mathlib.Data.Set.List
import ReliabilityLab.Json

/-!
# Text with surrogates

A string of Python may hold a lone surrogate : `json.loads` reads `"\ud800"` as one. No
character of a `String` is one, and UTF-8 has no code for it. `PyText` is text with
surrogates, and `PyJson` are the JSON values with such texts.

`code` writes a text with characters only. A surrogate becomes the last code point,
`escape`, and a mark of its own. Texts without surrogates and `escape` are their own code,
and the code can be read back (`read_code`), so what compares texts can compare their codes.
No mark is an ASCII character : what looks for ASCII characters in a text (a pointer, a
numeral, the escapes of `json.dumps`) finds the same ones in its code.

`Encodes` is what `text.encode()` asks of a text. A parameter of an SQL statement is encoded
when it is bound (`bindTexts`), so a call of a store raises for a text with a surrogate.
-/

open Serial

namespace ReliabilityLab

/-! ## Texts and their codes -/

/-- A code point of a Python string. -/
inductive PyChar where
  | scalar (c : Char)
  | surrogate (k : Fin 2048)
  deriving DecidableEq

/-- The code point is no surrogate. -/
def PyChar.isScalar : PyChar → Bool
  | .scalar _ => true
  | .surrogate _ => false

/-- A `str`, by its code points. -/
abbrev PyText := List PyChar

namespace PyText

/-- The character that a code escapes with. -/
def escape : Char :=
  Char.ofNat 0x10ffff

/-- The character for a surrogate. -/
def mark (k : Fin 2048) : Char :=
  Char.ofNat (0x100000 + k)

/-- The code of a code point. -/
def codePoint : PyChar → List Char
  | .scalar c => if c = escape then [escape, escape] else [c]
  | .surrogate k => [escape, mark k]

/-- The code of a text. -/
def code (text : PyText) : String :=
  String.ofList (text.flatMap codePoint)

/-- The text with the characters of `text`. -/
def scalars (text : String) : PyText :=
  text.toList.map .scalar

/-- The text that a list of characters is the code of. -/
def read : List Char → PyText
  | [] => []
  | [c] => [.scalar c]
  | c :: d :: cs =>
    if c = escape then
      (if d = escape then .scalar escape else .surrogate (Fin.ofNat 2048 (d.toNat - 0x100000))) ::
        read cs
    else .scalar c :: read (d :: cs)

/-- `text.encode()` raises nothing : there is no surrogate. -/
def Encodes (text : PyText) : Prop :=
  ∀ c ∈ text, c.isScalar = true

instance (text : PyText) : Decidable (Encodes text) :=
  inferInstanceAs (Decidable (∀ c ∈ text, _))

theorem toNat_mark (k : Fin 2048) : (mark k).toNat = 0x100000 + k := by
  have hvalid : (0x100000 + k.val).isValidChar := Or.inr ⟨by omega, by omega⟩
  unfold mark Char.ofNat
  rw [dif_pos hvalid]
  rfl

theorem mark_ne_escape (k : Fin 2048) : mark k ≠ escape := by
  intro h
  have hnat := congrArg Char.toNat h
  rw [toNat_mark, show escape.toNat = 0x10ffff by decide] at hnat
  omega

theorem read_cons {c : Char} (hc : c ≠ escape) (cs : List Char) :
    read (c :: cs) = .scalar c :: read cs := by
  rcases cs with _ | ⟨d, cs⟩
  · rfl
  · rw [read, if_neg hc]

theorem read_codePoint_append (c : PyChar) (cs : List Char) :
    read (codePoint c ++ cs) = c :: read cs := by
  rcases c with c | k
  · by_cases hc : c = escape
    · subst hc
      rfl
    · rw [codePoint, if_neg hc, List.singleton_append, read_cons hc]
  · have hk : Fin.ofNat 2048 ((mark k).toNat - 0x100000) = k := by
      rw [toNat_mark, Nat.add_sub_cancel_left]
      simp
    simp only [codePoint, List.cons_append, List.nil_append, read, if_true,
      if_neg (mark_ne_escape k), hk]

theorem read_code_append (text : PyText) (cs : List Char) :
    read (text.code.toList ++ cs) = text ++ read cs := by
  unfold code
  rw [String.toList_ofList]
  induction text with
  | nil => rfl
  | cons c text ih =>
    rw [List.flatMap_cons, List.append_assoc, read_codePoint_append, ih, List.cons_append]

theorem read_code (text : PyText) : read text.code.toList = text := by
  simpa [read] using read_code_append text []

theorem code_injective : Function.Injective code := by
  intro text text' h
  rw [← read_code text, h, read_code]

/-- Characters other than `escape` are their own code. -/
theorem code_scalars {cs : List Char} (h : ∀ c ∈ cs, c ≠ escape) :
    code (cs.map .scalar) = String.ofList cs := by
  have hcode : ∀ c ∈ cs, codePoint (.scalar c) = [c] := by
    intro c hc
    rw [codePoint, if_neg (h c hc)]
  unfold code
  rw [List.flatMap_map, List.flatMap_congr hcode, List.flatMap_singleton']

/-! ## The code in `json.dumps` -/

theorem encodes_append {text text' : PyText} :
    Encodes (text ++ text') ↔ Encodes text ∧ Encodes text' := by
  unfold Encodes
  simp only [List.mem_append, or_imp, forall_and]

/-- Characters other than `escape` stand for themselves. -/
theorem read_append_of_forall_ne {cs : List Char} (h : ∀ c ∈ cs, c ≠ escape) (ds : List Char) :
    read (cs ++ ds) = cs.map .scalar ++ read ds := by
  induction cs with
  | nil => rfl
  | cons c cs ih =>
    rw [List.cons_append, read_cons (h c List.mem_cons_self),
      ih fun d hd => h d (List.mem_cons_of_mem _ hd), List.map_cons, List.cons_append]

theorem encodes_read_append {cs : List Char} (h : ∀ c ∈ cs, c ≠ escape) (ds : List Char) :
    Encodes (read (cs ++ ds)) ↔ Encodes (read ds) := by
  rw [read_append_of_forall_ne h, encodes_append]
  refine and_iff_right fun c hc => ?_
  obtain ⟨a, -, rfl⟩ := List.mem_map.1 hc
  rfl

theorem jsonEscape_of_le {c : Char} (hc : 0x80 ≤ c.toNat) : jsonEscape c = [c] := by
  have hne : ∀ {d : Char}, d.toNat < 0x80 → c ≠ d := by
    rintro d hd rfl
    omega
  unfold jsonEscape
  rw [if_neg (hne (by decide)), if_neg (hne (by decide)), if_neg (hne (by decide)),
    if_neg (hne (by decide)), if_neg (hne (by decide)), if_neg (by omega), if_neg (by omega),
    if_neg (by omega)]

theorem ne_escape_of_mem_jsonEscape {c : Char} (hc : c ≠ escape) :
    ∀ d ∈ jsonEscape c, d ≠ escape := by
  rcases lt_or_ge c.toNat 0x80 with hlow | hhigh
  · have hascii : ∀ n < 0x80,
        (jsonEscape (Char.ofNat n)).all (fun d => decide (d ≠ escape)) = true := by
      decide
    have hall := forall_char_lt
      (fun c => (jsonEscape c).all (fun d => decide (d ≠ escape)) = true) hascii hlow
    exact fun d hd => of_decide_eq_true (List.all_eq_true.1 hall d hd)
  · rw [jsonEscape_of_le hhigh]
    intro d hd
    rwa [List.mem_singleton.1 hd]

theorem encodes_codePoint_append (c : PyChar) (cs : List Char) :
    Encodes (read ((codePoint c).flatMap jsonEscape ++ cs)) ↔
      c.isScalar = true ∧ Encodes (read cs) := by
  have hpair : (codePoint c).flatMap jsonEscape = codePoint c →
      (Encodes (read ((codePoint c).flatMap jsonEscape ++ cs)) ↔
        c.isScalar = true ∧ Encodes (read cs)) := by
    intro h
    rw [h, read_codePoint_append]
    exact List.forall_mem_cons
  rcases c with c | k
  · by_cases hc : c = escape
    · subst hc
      exact hpair (by decide)
    · have hcode : (codePoint (.scalar c)).flatMap jsonEscape = jsonEscape c := by
        simp [codePoint, hc]
      rw [hcode, encodes_read_append (ne_escape_of_mem_jsonEscape hc)]
      exact (and_iff_right rfl).symm
  · refine hpair ?_
    have hmark : jsonEscape (mark k) = [mark k] :=
      jsonEscape_of_le (by rw [toNat_mark]; omega)
    have hescape : jsonEscape escape = [escape] := jsonEscape_of_le (by decide)
    simp [codePoint, hmark, hescape]

/-- `json.dumps` of a text, without the escapes of surrogates, has the surrogates of the text. -/
theorem encodes_jsonString_append (text : PyText) {cs : List Char} :
    Encodes (read (jsonString text.code ++ cs)) ↔ Encodes text ∧ Encodes (read cs) := by
  have hquote : ∀ c ∈ ['"'], c ≠ escape := List.forall_mem_singleton.2 (by decide)
  have hbody : ∀ ds, Encodes (read (text.code.toList.flatMap jsonEscape ++ ds)) ↔
      Encodes text ∧ Encodes (read ds) := by
    intro ds
    unfold code
    rw [String.toList_ofList]
    induction text with
    | nil => simp [Encodes]
    | cons c text ih =>
      rw [List.flatMap_cons, List.flatMap_append, List.append_assoc, encodes_codePoint_append, ih]
      unfold Encodes
      rw [List.forall_mem_cons, and_assoc]
  have hsplit : jsonString text.code ++ cs =
      ['"'] ++ (text.code.toList.flatMap jsonEscape ++ (['"'] ++ cs)) := by
    simp [jsonString]
  rw [hsplit, encodes_read_append hquote, hbody, encodes_read_append hquote]

/-! ## White space and the encoding -/

/-- `str.isspace` of one code point. -/
def isSpacePoint : PyChar → Bool
  | .scalar c => isSpace c
  | .surrogate _ => false

/-- `not text.strip()`. -/
def blank (text : PyText) : Bool :=
  text.all isSpacePoint

theorem isSpace_of_mem_codePoint (c : PyChar) :
    (codePoint c).all isSpace = isSpacePoint c := by
  have hescape : isSpace escape = false := by decide
  rcases c with c | k
  · by_cases hc : c = escape
    · simp [codePoint, isSpacePoint, hc, hescape]
    · simp [codePoint, isSpacePoint, hc]
  · simp [codePoint, isSpacePoint, hescape]

theorem blank_scalars (text : String) : (scalars text).blank = isBlank text := by
  unfold blank scalars isBlank
  rw [List.all_map]
  rfl

theorem isBlank_code (text : PyText) : isBlank text.code = text.blank := by
  unfold isBlank code blank
  rw [String.toList_ofList, List.all_flatMap]
  simp only [isSpace_of_mem_codePoint]

/-- The text that `text` is the code of can be encoded. -/
def TextEncodes (text : String) : Prop :=
  Encodes (read text.toList)

instance (text : String) : Decidable (TextEncodes text) :=
  inferInstanceAs (Decidable (Encodes _))

@[simp] theorem textEncodes_code {text : PyText} : TextEncodes text.code ↔ text.Encodes := by
  rw [TextEncodes, read_code]

/-- The exception of a text with a surrogate. The message is the reason that it gives. -/
def surrogatesNotAllowed : Raised :=
  ⟨.unicodeEncodeError, "surrogates not allowed"⟩

/-- `canonical.encode()`. -/
def encodeText (text : List Char) : Except Raised Unit :=
  raiseIf (¬Encodes (read text)) surrogatesNotAllowed

/-- The encoding of the texts that are bound to the parameters of a statement. -/
def bindTexts (texts : List String) : Except Raised Unit :=
  raiseIf (∃ text ∈ texts, ¬TextEncodes text) surrogatesNotAllowed

theorem bindTexts_of_encodes {texts : List String} (h : ∀ text ∈ texts, TextEncodes text) :
    bindTexts texts = .ok () :=
  raiseIf_neg (by simpa using h) _

theorem bindTexts_of_not {texts : List String} {text : String} (hmem : text ∈ texts)
    (h : ¬TextEncodes text) : bindTexts texts = .error surrogatesNotAllowed :=
  raiseIf_pos ⟨text, hmem, h⟩ _

theorem bindTexts_eq_ok {texts : List String} :
    bindTexts texts = .ok () ↔ ∀ text ∈ texts, TextEncodes text := by
  simp [bindTexts]

/-- `json.dumps` of a list of texts, without the escapes of surrogates, can be encoded if the texts
can. -/
theorem encodes_jsonArray (texts : List PyText) :
    Encodes (read (jsonArray (texts.map fun text => jsonString text.code))) ↔
      ∀ text ∈ texts, text.Encodes := by
  have hcomma : ∀ c ∈ [','], c ≠ escape := List.forall_mem_singleton.2 (by decide)
  have hitems : ∀ cs, Encodes (read
      (List.intercalate [','] (texts.map fun text => jsonString text.code) ++ cs)) ↔
        (∀ text ∈ texts, text.Encodes) ∧ Encodes (read cs) := by
    intro cs
    induction texts with
    | nil => simp
    | cons text texts ih =>
      rcases texts with _ | ⟨text', texts⟩
      · simpa using encodes_jsonString_append text
      · have hsplit : List.intercalate [',']
            ((text :: text' :: texts).map fun text => jsonString text.code) ++ cs =
            jsonString text.code ++ ([','] ++ (List.intercalate [',']
              ((text' :: texts).map fun text => jsonString text.code) ++ cs)) := by
          simp [List.intercalate]
        rw [hsplit, encodes_jsonString_append, encodes_read_append hcomma, ih, ← and_assoc,
          ← List.forall_mem_cons]
  have hsplit : jsonArray (texts.map fun text => jsonString text.code) =
      ['['] ++ (List.intercalate [','] (texts.map fun text => jsonString text.code) ++ [']']) := by
    simp [jsonArray]
  have hopen : ∀ c ∈ ['['], c ≠ escape := List.forall_mem_singleton.2 (by decide)
  have hclose : Encodes (read [']']) := by decide
  rw [hsplit, encodes_read_append hopen, hitems]
  exact and_iff_left hclose

end PyText

/-! ## JSON values -/

/-- The values of `json.loads`, with the surrogates of their texts. -/
inductive PyJson where
  | null
  | bool (value : Bool)
  | int (value : Int)
  | float (value : PyFloat)
  | str (value : PyText)
  | list (items : List PyJson)
  | dict (members : List (PyText × PyJson))

/-- The members of an object. -/
abbrev PyMapping := List (PyText × PyJson)

namespace PyJson

mutual

/-- The value with every text replaced by its code. -/
def code : PyJson → Json
  | .null => .null
  | .bool value => .bool value
  | .int value => .int value
  | .float value => .float value
  | .str value => .str value.code
  | .list items => .list (codeList items)
  | .dict members => .dict (codeMembers members)

/-- The codes of the items of a list. -/
def codeList : List PyJson → List Json
  | [] => []
  | item :: items => code item :: codeList items

/-- The codes of the members of an object. -/
def codeMembers : PyMapping → Mapping
  | [] => []
  | (key, value) :: members => (key.code, code value) :: codeMembers members

end

/-- A value whose texts are codes. -/
def Coded (value : Json) : Prop :=
  ∃ v, code v = value

theorem Coded.str {text : String} (h : Coded (.str text)) : ∃ t : PyText, t.code = text := by
  obtain ⟨v, hv⟩ := h
  cases v with
  | str t => exact ⟨t, Json.str.inj hv⟩
  | _ => cases hv

theorem codeList_eq_map (items : List PyJson) : codeList items = items.map code := by
  induction items with
  | nil => rfl
  | cons item items ih => rw [codeList, ih, List.map_cons]

/-- A member with the codes of its key and value. -/
def codeMember (member : PyText × PyJson) : String × Json :=
  (member.1.code, code member.2)

theorem codeMembers_eq_map (members : PyMapping) :
    codeMembers members = members.map codeMember := by
  induction members with
  | nil => rfl
  | cons member members ih =>
    obtain ⟨key, value⟩ := member
    rw [codeMembers, ih, List.map_cons, codeMember]

theorem coded_list {items : List Json} :
    Coded (.list items) ↔ ∀ item ∈ items, Coded item := by
  have hrange : Coded (.list items) ↔ items ∈ Set.range (List.map code) := by
    constructor
    · rintro ⟨v, hv⟩
      cases v with
      | list values => exact ⟨values, by rw [← codeList_eq_map, Json.list.inj hv]⟩
      | _ => cases hv
    · rintro ⟨values, rfl⟩
      exact ⟨.list values, by rw [code, codeList_eq_map]⟩
  rw [hrange, Set.range_list_map]
  rfl

theorem coded_dict {members : Mapping} :
    Coded (.dict members) ↔
      ∀ member ∈ members, (∃ key : PyText, key.code = member.1) ∧ Coded member.2 := by
  have hrange : Coded (.dict members) ↔ members ∈ Set.range (List.map codeMember) := by
    constructor
    · rintro ⟨v, hv⟩
      cases v with
      | dict values => exact ⟨values, by rw [← codeMembers_eq_map, Json.dict.inj hv]⟩
      | _ => cases hv
    · rintro ⟨values, rfl⟩
      exact ⟨.dict values, by rw [code, codeMembers_eq_map]⟩
  rw [hrange, Set.range_list_map]
  refine forall₂_congr fun member _ => ?_
  constructor
  · rintro ⟨⟨key, value⟩, rfl⟩
    exact ⟨⟨key, rfl⟩, value, rfl⟩
  · rintro ⟨⟨key, hkey⟩, value, hvalue⟩
    exact ⟨(key, value), Prod.ext hkey hvalue⟩

theorem coded_codeMembers (members : PyMapping) : Coded (.dict (codeMembers members)) :=
  ⟨.dict members, rfl⟩

theorem Coded.get? {members : Mapping} (h : Coded (.dict members)) {key : String} {value : Json}
    (hvalue : members.get? key = some value) : Coded value :=
  (coded_dict.1 h _ (Mapping.mem_of_get? hvalue)).2

theorem Coded.set_list {items : List Json} (h : Coded (.list items)) {value : Json}
    (hvalue : Coded value) (k : ℕ) : Coded (.list (items.set k value)) := by
  refine coded_list.2 fun item hitem => ?_
  rcases List.mem_or_eq_of_mem_set hitem with hitem | rfl
  · exact coded_list.1 h item hitem
  · exact hvalue

theorem Coded.set {members : Mapping} (h : Coded (.dict members)) {value : Json}
    (hvalue : Coded value) (key : String) : Coded (.dict (members.set key value)) := by
  refine coded_dict.2 fun member hmember => ?_
  obtain ⟨before, hbefore, rfl⟩ := List.mem_map.1 hmember
  obtain ⟨hkey, hcoded⟩ := coded_dict.1 h before hbefore
  split_ifs with heq
  · exact ⟨heq ▸ hkey, hvalue⟩
  · exact ⟨hkey, hcoded⟩

theorem Coded.get {members : Mapping} (h : Coded (.dict members)) (key : String) :
    Coded (members.get key) := by
  unfold Mapping.get
  rcases hvalue : members.get? key with _ | value
  · exact ⟨.null, rfl⟩
  · exact h.get? hvalue

end PyJson

end ReliabilityLab
