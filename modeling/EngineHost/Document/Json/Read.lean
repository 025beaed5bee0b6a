import EngineHost.Document.Json.Number
import EngineHost.Document.Error

/-!
# Reading JSON text

The document tree of a JSON text. Reading never fails: where the text stops being JSON, the tree
ends in a broken leaf, so that a decoder which walks the tree in order reports what is wrong in
front of that place and not only the place itself.

## Main definitions

- `Json.Reading` — what was read from a place in a text, and the text behind it
- `Json.readDocument` — the document at a place in a text
- `Json.Source` — the document of a whole text
- `Json.decode` — decoding a text
-/

namespace EngineHost.Json

/-- What was read from a place in a text. The text behind it is missing when the text stopped
being JSON on the way. -/
structure Reading (α : Type) where
  result : α
  rest : Option (List Char)

/-- Leaves out the white space of JSON. -/
def skipBlank (cs : List Char) : List Char :=
  cs.dropWhile fun c => c = ' ' || c = '\n' || c = '\t' || c = '\r'

/-! ## Strings -/

/-- The value of a hexadecimal digit. -/
def hexDigit? (c : Char) : Option Nat :=
  let n := c.toNat
  if 0x30 ≤ n ∧ n ≤ 0x39 then some (n - 0x30)
  else if 0x41 ≤ n ∧ n ≤ 0x46 then some (n - 0x37)
  else if 0x61 ≤ n ∧ n ≤ 0x66 then some (n - 0x57)
  else none

/-- The number of four hexadecimal digits. -/
def hexUnit? (a b c d : Char) : Option Nat :=
  match hexDigit? a, hexDigit? b, hexDigit? c, hexDigit? d with
  | some a, some b, some c, some d => some (((a * 16 + b) * 16 + c) * 16 + d)
  | _, _, _, _ => none

/-- The character behind a backslash, for the escapes of two characters. -/
def shortEscape? : Char → Option Char
  | '"' => some '"'
  | '\\' => some '\\'
  | '/' => some '/'
  | 'b' => some '\x08'
  | 'f' => some '\x0c'
  | 'n' => some '\n'
  | 'r' => some '\r'
  | 't' => some '\t'
  | _ => none

/-- The parts of a string between its quotes, as UTF-16 code units where they are escaped by
number; with the text behind the closing quote. -/
def stringParts (acc : List (Char ⊕ Nat)) : List Char → Option (List (Char ⊕ Nat) × List Char)
  | '"' :: rest => some (acc.reverse, rest)
  | '\\' :: 'u' :: a :: b :: c :: d :: rest =>
    match hexUnit? a b c d with
    | some u => stringParts (.inr u :: acc) rest
    | none => none
  | '\\' :: e :: rest =>
    match shortEscape? e with
    | some c => stringParts (.inl c :: acc) rest
    | none => none
  | c :: rest => if c.toNat < 0x20 then none else stringParts (.inl c :: acc) rest
  | [] => none

/-- The text of a string's parts; none if a surrogate stands alone. -/
def joinParts : List (Char ⊕ Nat) → Option (List Char)
  | [] => some []
  | .inl c :: rest => (joinParts rest).map (c :: ·)
  | .inr u :: .inr v :: rest =>
    if 0xd800 ≤ u ∧ u < 0xdc00 then
      if 0xdc00 ≤ v ∧ v < 0xe000 then
        (joinParts rest).map (Char.ofNat (0x10000 + (u - 0xd800) * 0x400 + (v - 0xdc00)) :: ·)
      else none
    else if 0xdc00 ≤ u ∧ u < 0xe000 then none
    else (joinParts (.inr v :: rest)).map (Char.ofNat u :: ·)
  | .inr u :: rest =>
    if 0xd800 ≤ u ∧ u < 0xe000 then none else (joinParts rest).map (Char.ofNat u :: ·)

/-- Reads a string whose opening quote has been read; the text is missing from the result when
its escapes do not form one. -/
def readString (cs : List Char) : Option (Option String × List Char) :=
  (stringParts [] cs).map fun (parts, rest) => ((joinParts parts).map String.ofList, rest)

/-! ## Documents -/

/-- Reads one of the three literals. -/
def readLiteral (literal : List Char) (d : Document) (cs : List Char) : Reading Document :=
  if literal.isPrefixOf cs then ⟨d, some (cs.drop literal.length)⟩ else ⟨.broken, none⟩

/-- A field of a record; its name is missing when it is no text. -/
def field (name : Option String) (value : Document) : String × Document :=
  match name with
  | some name => (name, value)
  | none => ("", .misnamed value)

mutual

/-- Reads a document; `fuel` bounds the number of steps and is enough when it is at least twice
the length of the text. -/
def readDocument (fuel : Nat) (cs : List Char) : Reading Document :=
  match fuel with
  | 0 => ⟨.broken, none⟩
  | fuel + 1 =>
    match skipBlank cs with
    | '"' :: rest =>
      match readString rest with
      | none => ⟨.broken, none⟩
      | some (none, rest) => ⟨.unusable, some rest⟩
      | some (some s, rest) => ⟨.text s, some rest⟩
    | '[' :: rest =>
      match skipBlank rest with
      | ']' :: rest => ⟨.list [], some rest⟩
      | rest =>
        let items := readItems fuel rest
        ⟨.list items.result, items.rest⟩
    | '{' :: rest =>
      match skipBlank rest with
      | '}' :: rest => ⟨.record [], some rest⟩
      | rest =>
        let fields := readFields fuel rest
        ⟨.record fields.result, fields.rest⟩
    | 't' :: rest => readLiteral "rue".toList (.bool true) rest
    | 'f' :: rest => readLiteral "alse".toList (.bool false) rest
    | 'n' :: rest => readLiteral "ull".toList .null rest
    | rest =>
      match Number.scan rest with
      | some (n, rest) => ⟨n.document, some rest⟩
      | none => ⟨.broken, none⟩

/-- Reads the items of a list from the first of them to the closing bracket. -/
def readItems (fuel : Nat) (cs : List Char) : Reading (List Document) :=
  match fuel with
  | 0 => ⟨[.broken], none⟩
  | fuel + 1 =>
    let item := readDocument fuel cs
    match item.rest.map skipBlank with
    | none => ⟨[item.result], none⟩
    | some (']' :: rest) => ⟨[item.result], some rest⟩
    | some (',' :: rest) =>
      let items := readItems fuel rest
      ⟨item.result :: items.result, items.rest⟩
    | some _ => ⟨[item.result, .broken], none⟩

/-- Reads the fields of a record from the first name to the closing brace. Behind what is not
even a string, and behind a name without a colon, the value is broken. -/
def readFields (fuel : Nat) (cs : List Char) : Reading (List (String × Document)) :=
  match fuel with
  | 0 => ⟨[field none .broken], none⟩
  | fuel + 1 =>
    match skipBlank cs with
    | '"' :: rest =>
      match readString rest with
      | none => ⟨[field none .broken], none⟩
      | some (name, rest) =>
        match skipBlank rest with
        | ':' :: rest =>
          let value := readDocument fuel rest
          match value.rest.map skipBlank with
          | none => ⟨[field name value.result], none⟩
          | some ('}' :: rest) => ⟨[field name value.result], some rest⟩
          | some (',' :: rest) =>
            let fields := readFields fuel rest
            ⟨field name value.result :: fields.result, fields.rest⟩
          | some _ => ⟨[field name value.result, field none .broken], none⟩
        | _ => ⟨[field name .broken], none⟩
    | _ => ⟨[field none .broken], none⟩

end

/-- The document of a whole text. -/
structure Source where
  document : Document
  /-- Whether nothing but white space follows the document. -/
  ended : Bool

/-- Reads a whole text. -/
def Source.ofText (s : String) : Source :=
  let cs := s.toList
  let reading := readDocument (2 * cs.length + 1) cs
  ⟨reading.result, reading.rest.any fun rest => (skipBlank rest).isEmpty⟩

/-- Decodes a text. What follows the document is looked at only when the document decodes. -/
def decode {α : Type} (read : Document → Except DecodeError α) (s : String) :
    Except DecodeError α :=
  let source := Source.ofText s
  match read source.document with
  | .error e => .error e
  | .ok a => if source.ended then .ok a else .error .notADocument

end EngineHost.Json
