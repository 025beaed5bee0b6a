import EngineHost.Document
import EngineHost.Document.Error
import EngineHost.Fixed
import EngineHost.SortedMap

/-!
# Decoding documents

Readers from documents to values. A structure may be given as a record of its fields, in any
order and with fields of other names in between, or as a list of its fields in their declared
order. The formats of text agree on all of this but for a few decisions, which are gathered in
`Format`.

## Main definitions

- `Format` — the decisions in which formats differ
- `Reader` — functions that decode a document
- `Field`, `Shape` — the declared fields of a structure and its starting value
- `Shape.read` — the reader of a structure

## Design notes

A field's reader returns an update of the structure, and the structure starts out with every
default in place. So a field that is absent keeps its default, and no record of optional parts is
needed: the names that have been seen decide about duplicates and about required fields.
-/

namespace EngineHost

/-- The source of a document, which decides the few rules in which sources differ. -/
inductive Format where
  /-- A JSON text, which is decoded while it is read. -/
  | jsonText
  /-- A JSON value that is at hand as a whole. -/
  | jsonValue
  /-- A TOML text, which is read as a whole before it is decoded. -/
  | toml
deriving DecidableEq, Repr

/-- A function that decodes a document. -/
abbrev Reader (α : Type) := Format → Document → Except DecodeError α

namespace Reader

/-- The error of a document of a type other than the wanted one. -/
def mismatch (wanted : String) (d : Document) : DecodeError :=
  match d with
  | .unusable | .broken | .misnamed _ => .notADocument
  | d => .wrongType d.describe wanted

def text : Reader String := fun _ d =>
  match d with
  | .text s => .ok s
  | d => .error (mismatch "a string" d)

def int64 : Reader Int64 := fun _ d =>
  match d with
  | .integer n =>
    if -9223372036854775808 ≤ n ∧ n ≤ 9223372036854775807 then .ok (Int64.ofInt n)
    else .error (.wrongValue d.describe "i64")
  | d => .error (mismatch "i64" d)

/-- Reads a text and then the value that it stands for. -/
def parsed {α : Type} (parse : String → Except ValueError α) : Reader α := fun format d =>
  match text format d with
  | .error e => .error e
  | .ok s =>
    match parse s with
    | .error e => .error (.badValue e)
    | .ok a => .ok a

def fixed (n : Nat) : Reader (Fixed n) := parsed (Fixed.parse n)

/-- Reads every item of a list, in order. -/
def items {α : Type} (item : Reader α) (format : Format) :
    List Document → Except DecodeError (List α)
  | [] => .ok []
  | d :: rest =>
    match item format d with
    | .error e => .error e
    | .ok a =>
      match items item format rest with
      | .error e => .error e
      | .ok as => .ok (a :: as)

def list {α : Type} (item : Reader α) : Reader (List α) := fun format d =>
  match d with
  | .list ds | .sections ds => items item format ds
  | d => .error (mismatch "a sequence" d)

/-- Reads the fields of a record of texts into a map; the last field of a name wins. -/
def textFields (format : Format) (m : SortedMap String String) :
    List (String × Document) → Except DecodeError (SortedMap String String)
  | [] => .ok m
  | (k, d) :: rest =>
    match text format d with
    | .error e => .error e
    | .ok s => textFields format (m.insert k s) rest

/-- Reads a record of texts with arbitrary names. -/
def textMap : Reader (SortedMap String String) := fun format d =>
  match d with
  | .record fields => textFields format .empty fields
  | .moment shown => .ok (SortedMap.empty.insert Document.momentField shown)
  | d => .error (mismatch "a map" d)

/-! ## Choices among names -/

def named {α : Type} (all : List α) (name : α → String) (s : String) : Except DecodeError α :=
  match all.find? fun a => name a == s with
  | some a => .ok a
  | none => .error (.unknownVariant s (all.map name))

/-- What a TOML diagnostic calls a document. -/
def tomlType : Document → String
  | .bool _ => "boolean"
  | .integer _ => "integer"
  | .fraction _ => "float"
  | .text _ => "string"
  | .moment _ => "datetime"
  | .list _ | .sections _ => "array"
  | _ => "table"

/-- Checks the value that a TOML table holds under the name of a choice: nothing but an empty
table or array. A bracketed list that holds something counts as a table here. -/
def tomlPayload : Document → Except DecodeError Unit
  | .record [] => .ok ()
  | .record _ => .error (.wrongForm "expected empty table")
  | .list [] => .ok ()
  | .list _ => .error (.wrongForm "expected empty table")
  | .sections [] => .ok ()
  | .sections _ => .error (.wrongForm "expected empty array")
  | d => .error (.wrongForm ("expected table, found " ++ tomlType d))

/-- Checks the value that a JSON object holds under the name of a choice: nothing but `null`. -/
def jsonPayload : Document → Except DecodeError Unit
  | .null => .ok ()
  | d => .error (mismatch "unit" d)

/-- Reads a choice among names. It is given by its name, or as a record whose one field has that
name and an empty value. -/
def choice {α : Type} (all : List α) (name : α → String) : Reader α := fun format d =>
  match format, d with
  | _, .text s => named all name s
  | .jsonText, .record ((_, .misnamed _) :: _) => .error .notADocument
  | .jsonText, .record ((k, v) :: rest) =>
    match named all name k, jsonPayload v with
    | .error e, _ => .error e
    | .ok _, .error e => .error e
    | .ok a, .ok () => if rest.isEmpty then .ok a else .error .notADocument
  | .jsonText, _ => .error .notADocument
  | .jsonValue, .record [(k, v)] =>
    match named all name k, jsonPayload v with
    | .error e, _ => .error e
    | .ok _, .error e => .error e
    | .ok a, .ok () => .ok a
  | .jsonValue, .record _ => .error (.wrongValue "map" "map with a single key")
  | .jsonValue, d => .error (mismatch "string or map" d)
  | .toml, .record [] => .error (.wrongForm "wanted exactly 1 element, found 0 elements")
  | .toml, .record [(k, v)] =>
    match named all name k, tomlPayload v with
    | .error e, _ => .error e
    | .ok _, .error e => .error e
    | .ok a, .ok () => .ok a
  | .toml, .record _ => .error (.wrongForm "wanted exactly 1 element, more than 1 element")
  | .toml, _ => .error (.wrongForm "wanted string or table")

end Reader

/-! ## Structures -/

/-- A declared field of a structure. -/
structure Field (σ : Type) where
  name : String
  /-- Whether a structure without the field is refused. -/
  required : Bool
  /-- Reads a value for the field, as the update that puts it in place. -/
  update : Format → Document → Except DecodeError (σ → σ)

namespace Field

/-- A field that keeps its default when it is absent. -/
def optional {σ α : Type} (name : String) (read : Reader α) (set : α → σ → σ) : Field σ where
  name := name
  required := false
  update format d := (read format d).map set

/-- A field that has to be there. -/
def mandatory {σ α : Type} (name : String) (read : Reader α) (set : α → σ → σ) : Field σ where
  name := name
  required := true
  update format d := (read format d).map set

end Field

/-- A structure as documents give it. -/
structure Shape (σ : Type) where
  /-- The name that diagnostics use. -/
  title : String
  /-- The structure with every default in place. -/
  start : σ
  /-- The fields, in their declared order. -/
  fields : List (Field σ)

namespace Shape

variable {σ : Type}

def field? (shape : Shape σ) (name : String) : Option (Field σ) :=
  shape.fields.find? fun f => f.name == name

/-- What a diagnostic wants where the structure is wanted. -/
def wanted (shape : Shape σ) : String := "struct " ++ shape.title

/-- The structure, unless a required field has not been seen. -/
def finish (shape : Shape σ) (seen : List String) (s : σ) : Except DecodeError σ :=
  match shape.fields.find? fun f => f.required && !seen.contains f.name with
  | some f => .error (.missingField f.name)
  | none => .ok s

/-- Reads the remaining fields of a record, with the names `seen` before and the structure `s`
that they made. Fields with undeclared names are skipped. -/
def readFields (shape : Shape σ) (format : Format) (seen : List String) (s : σ) :
    List (String × Document) → Except DecodeError σ
  | [] => shape.finish seen s
  | (_, .misnamed _) :: _ => .error .notADocument
  | (k, d) :: rest =>
    match shape.field? k with
    | none => if d.intact then readFields shape format seen s rest else .error .notADocument
    | some f =>
      if seen.contains k then .error (.duplicateField k)
      else
        match f.update format d with
        | .error e => .error e
        | .ok u => readFields shape format (k :: seen) (u s) rest

/-- What happens to items behind those that the declared fields take. -/
def surplus (format : Format) (found : Nat) (s : σ) : List Document → Except DecodeError σ
  | [] => .ok s
  | _ :: _ =>
    match format with
    | .jsonText => .error .notADocument
    | .jsonValue => .error (.wrongCount found "fewer elements in array")
    | .toml => .ok s

/-- Reads the items of a list as the fields from position `index` on; `found` is the number of
all items of the list. -/
def readItems (shape : Shape σ) (format : Format) (found index : Nat) (s : σ) :
    List (Field σ) → List Document → Except DecodeError σ
  | [], ds => surplus format found s ds
  | f :: fs, [] =>
    if f.required then
      .error (.wrongCount index
        (shape.wanted ++ " with " ++ toString shape.fields.length ++ " elements"))
    else readItems shape format found (index + 1) s fs []
  | f :: fs, d :: ds =>
    match f.update format d with
    | .error e => .error e
    | .ok u => readItems shape format found (index + 1) (u s) fs ds

def read (shape : Shape σ) : Reader σ := fun format d =>
  match d with
  | .record fields => shape.readFields format [] shape.start fields
  | .moment shown => shape.readFields format [] shape.start [(Document.momentField, .text shown)]
  | .list ds | .sections ds => shape.readItems format ds.length 0 shape.start shape.fields ds
  | d => .error (Reader.mismatch shape.wanted d)

end Shape

end EngineHost
