import EngineHost.Document.Toml.Value
import EngineHost.Document.Error

/-!
# Reading TOML text

The document of a TOML text. A text is read as a whole: it has a document only if all of it is
TOML, and only then is anything decoded.

## Main definitions

- `Toml.lines` — the lines of a text, one after another
- `Toml.read?` — the document of a text
- `Toml.decode` — decoding a text
-/

namespace EngineHost.Toml

/-- A header, behind its first bracket. -/
def header (b : Builder) (cs : List Char) : Option (Builder × List Char) :=
  match cs with
  | '[' :: rest => do
    let ((path, key), rest) ← keyPath rest
    let rest ← mark ']' rest
    let rest ← mark ']' rest
    let rest ← endOfLine rest
    let b ← b.openElement path key
    return (b, rest)
  | rest => do
    let ((path, key), rest) ← keyPath rest
    let rest ← mark ']' rest
    let rest ← endOfLine rest
    let b ← b.openTable path key
    return (b, rest)

/-- A key and its value. -/
def pair (b : Builder) (cs : List Char) : Option (Builder × List Char) := do
  let ((path, key), rest) ← keyPath cs
  let rest ← mark '=' rest
  let (d, rest) ← value (2 * rest.length + 1) 0 (skipSpace rest)
  let rest ← endOfLine rest
  let b ← b.assign path key d
  return (b, rest)

/-- Reads line after line; `fuel` is at least the length of the text. -/
def lines : Nat → Builder → List Char → Option Builder
  | 0, b, cs => if (skipSpace cs).isEmpty then some b else none
  | fuel + 1, b, cs =>
    match skipSpace cs with
    | [] => some b
    | '#' :: rest => (endOfLine ('#' :: rest)).bind (lines fuel b)
    | '\n' :: rest => lines fuel b rest
    | '\r' :: '\n' :: rest => lines fuel b rest
    | '[' :: rest =>
      match header b rest with
      | some (b, rest) => lines fuel b rest
      | none => none
    | cs =>
      match pair b cs with
      | some (b, rest) => lines fuel b rest
      | none => none

/-- The document of a text, which may start with a byte order mark. -/
def read? (s : String) : Option Document :=
  let cs := match s.toList with
    | '\ufeff' :: rest => rest
    | cs => cs
  (lines cs.length {} cs).bind Builder.document

/-- Decodes a text. -/
def decode {α : Type} (read : Document → Except DecodeError α) (s : String) :
    Except DecodeError α :=
  match read? s with
  | none => .error .notADocument
  | some d => read d

end EngineHost.Toml
