import ReliabilityLab.Json
import ReliabilityLab.Python
import ReliabilityLab.Table

/-!
# The texts of documents

`dumpsAt 0` is `json.dumps(value, indent=2)`. The evaluations write their reports with it, and
the frozen and published documents of the repository are texts that it gives
(`documentPayload`).

An `Archive` is a table of contents of files, each with its digest and with the document in
it. `Archive.payloadHash` and `Archive.jsonLoads` are `hashlib.sha256` and `json.loads` on
these contents.
-/

open Keyed

namespace ReliabilityLab

namespace Json

/-! ## `json.dumps` -/

/-- Four hexadecimal digits of a number below `2 ^ 16`. -/
def hexQuad (n : ℕ) : List Char :=
  [n / 0x1000, n / 0x100 % 0x10, n / 0x10 % 0x10, n % 0x10].map Nat.digitChar

/-- The JSON escape of one code point, with ASCII only. -/
def asciiEscape (c : Char) : List Char :=
  if c.toNat < 0x7f then jsonEscape c
  else if c.toNat < 0x10000 then '\\' :: 'u' :: hexQuad c.toNat
  else
    let offset := c.toNat - 0x10000
    '\\' :: 'u' :: hexQuad (0xd800 + offset / 0x400) ++
      '\\' :: 'u' :: hexQuad (0xdc00 + offset % 0x400)

/-- `json.dumps` of one string, before `rest`. -/
def dumpsString (value : String) (rest : List Char) : List Char :=
  '"' :: (value.toList.flatMap asciiEscape ++ '"' :: rest)

/-- A line break and the indentation at `depth`, before `rest`. -/
def newLine (depth : ℕ) (rest : List Char) : List Char :=
  '\n' :: (List.replicate (2 * depth) ' ' ++ rest)

section dumps

variable [PyRepr]

/-- `json.dumps` of a float. -/
def dumpsFloat : PyFloat → String
  | .infinite negative => if negative then "-Infinity" else "Infinity"
  | .nan => "NaN"
  | value => PyRepr.repr (.float value)

mutual

/-- `json.dumps(value, indent=2)` at `depth`, before `rest`. -/
def dumpsAt (depth : ℕ) : Json → List Char → List Char
  | .null, rest => "null".toList ++ rest
  | .bool value, rest => (if value then "true" else "false").toList ++ rest
  | .int value, rest => (toString value).toList ++ rest
  | .float value, rest => (dumpsFloat value).toList ++ rest
  | .str value, rest => dumpsString value rest
  | .list [], rest => '[' :: ']' :: rest
  | .list (item :: items), rest =>
    '[' :: newLine (depth + 1) (dumpsAt (depth + 1) item
      (dumpsItems (depth + 1) items (newLine depth (']' :: rest))))
  | .dict [], rest => '\x7b' :: '\x7d' :: rest
  | .dict (member :: members), rest =>
    '\x7b' :: newLine (depth + 1) (dumpsString member.1 (':' :: ' ' ::
      dumpsAt (depth + 1) member.2
        (dumpsMembers (depth + 1) members (newLine depth ('\x7d' :: rest)))))

/-- The items of a list after its first, each on a line of its own. -/
def dumpsItems (depth : ℕ) : List Json → List Char → List Char
  | [], rest => rest
  | item :: items, rest =>
    ',' :: newLine depth (dumpsAt depth item (dumpsItems depth items rest))

/-- The members of an object after its first, each on a line of its own. -/
def dumpsMembers (depth : ℕ) : List (String × Json) → List Char → List Char
  | [], rest => rest
  | member :: members, rest =>
    ',' :: newLine depth (dumpsString member.1 (':' :: ' ' ::
      dumpsAt depth member.2 (dumpsMembers depth members rest)))

end

end dumps

end Json

/-! ## Files -/

/-- The bytes of a text in UTF-8. -/
def utf8 (text : List Char) : Bytes :=
  text.flatMap String.utf8EncodeChar

/-- The file of a document, as `write_text(json.dumps(document, indent=2) + "\n")` leaves it. -/
def documentPayload [PyRepr] (document : Mapping) : Bytes :=
  utf8 ((Json.dict document).dumpsAt 0 ['\n'])

/-- The file of a program, by its lines. -/
def programPayload (lines : List String) : Bytes :=
  utf8 (lines.flatMap fun line => line.toList ++ ['\n'])

/-- A content of a file with its digest, and with the document that a decoder finds in it. -/
structure Content where
  payload : Bytes
  sha256 : String
  document : Option Mapping

/-- Contents that differ. -/
abbrev Archive := Table Content Content.payload

namespace Archive

/-- `hashlib.sha256(payload).hexdigest()`, for the contents of an archive. -/
@[reducible] def payloadHash (archive : Archive) : PayloadHash where
  sha256Hexdigest payload := ((archive.find? payload).map Content.sha256).getD ""

/-- The document in a content of an archive. -/
def document? (archive : Archive) (payload : Bytes) : Except LoadsError Json :=
  match (archive.find? payload).bind Content.document with
  | some document => .ok (.dict document)
  | none => .error .jsonDecodeError

/-- `json.loads`, for the contents of an archive. -/
@[reducible] def jsonLoads (archive : Archive) : JsonLoads where
  loads := archive.document?
  loadsText := archive.document?

variable {archive : Archive} {content : Content}

theorem sha256Hexdigest_of_mem (h : content ∈ archive.rows) :
    archive.payloadHash.sha256Hexdigest content.payload = content.sha256 := by
  unfold payloadHash
  dsimp only
  rw [Table.find?_of_mem h]
  rfl

theorem document?_of_mem {document : Mapping} (h : content ∈ archive.rows)
    (hdocument : content.document = some document) :
    archive.document? content.payload = .ok (.dict document) := by
  unfold document?
  rw [Table.find?_of_mem h, Option.bind_some, hdocument]

end Archive

end ReliabilityLab
