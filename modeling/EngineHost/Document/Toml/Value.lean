import EngineHost.Document.Toml.Scalar
import EngineHost.Document.Toml.Table

/-!
# TOML keys and values

## Main definitions

- `Toml.keyPath` — a dotted key
- `Toml.value` — a value, with arrays and inline tables
- `Toml.depthLimit` — how deep arrays, inline tables and dotted keys may go
-/

namespace EngineHost.Toml

/-- Arrays and inline tables are nested, and dotted keys are long, less than this. -/
def depthLimit : Nat := 80

/-- Whether a character may stand in a key without quotes. -/
def isBareChar (c : Char) : Bool := c.isAlphanum || c = '-' || c = '_'

/-- A key without dots. -/
def simpleKey : List Char → Scan String
  | '"' :: rest => basicString [] rest
  | '\x27' :: rest => literalString rest
  | cs =>
    let key := cs.takeWhile isBareChar
    if key.isEmpty then none else some (String.ofList key, cs.dropWhile isBareChar)

/-- The parts of a dotted key, at most `fuel` of them, and the text behind the blanks that
follow. -/
def keyParts : Nat → List Char → Scan (List String)
  | 0, _ => none
  | fuel + 1, cs =>
    match simpleKey (skipSpace cs) with
    | none => none
    | some (key, rest) =>
      match skipSpace rest with
      | '.' :: rest => (keyParts fuel rest).map fun (keys, rest) => (key :: keys, rest)
      | rest => some ([key], rest)

/-- A dotted key, as the parts in front of the last one and the last one. -/
def keyPath (cs : List Char) : Scan (List String × String) :=
  match keyParts (depthLimit - 1) cs with
  | none => none
  | some (keys, rest) => keys.getLast?.map fun key => ((keys.dropLast, key), rest)

/-- A string of any of the four kinds. -/
def string : List Char → Scan String
  | '"' :: '"' :: '"' :: rest => basicLines false [] (skipNewline rest)
  | '"' :: rest => basicString [] rest
  | '\x27' :: '\x27' :: '\x27' :: rest => literalLines [] (skipNewline rest)
  | '\x27' :: rest => literalString rest
  | _ => none

/-- A value that is neither an array nor an inline table. -/
def scalar (cs : List Char) : Scan Document :=
  match cs with
  | 't' :: 'r' :: 'u' :: 'e' :: rest => some (.bool true, rest)
  | 'f' :: 'a' :: 'l' :: 's' :: 'e' :: rest => some (.bool false, rest)
  | cs =>
    match string cs with
    | some (s, rest) => some (.text s, rest)
    | none => (moment cs).or ((float cs).or (integer cs))

mutual

/-- A value at a nesting depth; `fuel` bounds the number of steps and is enough when it is at
least twice the length of the text. -/
def value (fuel depth : Nat) (cs : List Char) : Scan Document :=
  match fuel with
  | 0 => none
  | fuel + 1 =>
    match cs with
    | '[' :: rest =>
      if depth + 1 < depthLimit then
        (items fuel (depth + 1) rest).map fun (ds, rest) => (.list ds, rest)
      else none
    | '{' :: rest =>
      if depth + 1 < depthLimit then
        match skipSpace rest with
        | '}' :: rest => some (.record [], rest)
        | rest =>
          (pairs fuel (depth + 1) [] rest).map fun (fields, rest) =>
            (.record (fieldDocuments fields), rest)
      else none
    | cs => scalar cs

/-- The items of an array, up to and with the closing bracket. -/
def items (fuel depth : Nat) (cs : List Char) : Scan (List Document) :=
  match fuel with
  | 0 => none
  | fuel + 1 =>
    match skipFiller false cs with
    | none => none
    | some (']' :: rest) => some ([], rest)
    | some cs =>
      match value fuel depth cs with
      | none => none
      | some (d, rest) =>
        match skipFiller false rest with
        | some (']' :: rest) => some ([d], rest)
        | some (',' :: rest) => (items fuel depth rest).map fun (ds, rest) => (d :: ds, rest)
        | _ => none

/-- The pairs of an inline table, up to and with the closing brace, added to `fields`. -/
def pairs (fuel depth : Nat) (fields : Fields) (cs : List Char) : Scan Fields :=
  match fuel with
  | 0 => none
  | fuel + 1 =>
    match keyPath cs with
    | none => none
    | some ((path, key), rest) =>
      match rest with
      | '=' :: rest =>
        match value fuel depth (skipSpace rest) with
        | none => none
        | some (d, rest) =>
          match Table.assign fields path key d with
          | none => none
          | some fields =>
            match skipSpace rest with
            | '}' :: rest => some (fields, rest)
            | ',' :: rest => pairs fuel depth fields rest
            | _ => none
      | _ => none

end

end EngineHost.Toml
