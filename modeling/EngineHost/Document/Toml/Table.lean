import EngineHost.Document

/-!
# TOML tables under construction

A TOML text builds its tables in pieces: headers open tables and elements of arrays of tables,
dotted keys add to tables inside the open one, and no piece may define what another one has
defined. How a table came about decides what may still be added to it.

## Main definitions

- `Toml.Origin`, `Toml.Node`, `Toml.Table` — tables with how they came about
- `Toml.Table.visit` — changing the table at the end of a path
- `Toml.Table.assign` — adding a value under a dotted key
- `Toml.Builder` — the whole document, with the table that is open
-/

namespace EngineHost.Toml

/-- How a table came about. -/
inductive Origin where
  /-- It was defined in its own right, by a header or braces. -/
  | defined
  /-- It lies on the way to a table that a header defined. -/
  | implied
  /-- It lies on the way to a value that a dotted key defined. -/
  | dotted
deriving DecidableEq, Repr

/-- What stands under a key. -/
inductive Node where
  | value (d : Document)
  | table (origin : Origin) (fields : List (String × Node))
  /-- An array of tables, first element first. -/
  | tables (elements : List (List (String × Node)))

/-- The contents of a table, in the order in which keys were added. -/
abbrev Fields := List (String × Node)

mutual

/-- The document of what stands under a key. -/
def Node.document : Node → Document
  | .value d => d
  | .table _ fields => .record (fieldDocuments fields)
  | .tables elements => .sections (elementDocuments elements)

/-- The documents of a table's fields. -/
def fieldDocuments : List (String × Node) → List (String × Document)
  | [] => []
  | (k, n) :: rest => (k, n.document) :: fieldDocuments rest

/-- The documents of the elements of an array of tables. -/
def elementDocuments : List (List (String × Node)) → List Document
  | [] => []
  | fields :: rest => .record (fieldDocuments fields) :: elementDocuments rest

end

/-- A table with how it came about. -/
structure Table where
  origin : Origin
  fields : Fields

namespace Table

/-- What stands under a key. -/
def find? (fields : Fields) (key : String) : Option Node :=
  (fields.find? fun e => e.1 == key).map (·.2)

/-- Replaces what stands under a key and keeps its place. -/
def replace (fields : Fields) (key : String) (n : Node) : Fields :=
  fields.map fun e => if e.1 == key then (key, n) else e

/-- Changes the table at the end of a path, making tables of the given origin on the way where
there are none. The last element stands for an array of tables. A dotted key may not lead
through a table that was defined in its own right. -/
def visit {α : Type} (origin : Origin) (change : Table → Option (α × Fields)) :
    List String → Table → Option (α × Fields)
  | [], t => change t
  | key :: path, t =>
    match find? t.fields key with
    | none =>
      (visit origin change path ⟨origin, []⟩).map fun (a, fields) =>
        (a, t.fields ++ [(key, .table origin fields)])
    | some (.value _) => none
    | some (.table o fields) =>
      if origin = .dotted ∧ o = .defined then none
      else
        (visit origin change path ⟨o, fields⟩).map fun (a, fields) =>
          (a, replace t.fields key (.table o fields))
    | some (.tables elements) =>
      match elements.getLast? with
      | none => none
      | some last =>
        (visit origin change path ⟨.defined, last⟩).map fun (a, fields) =>
          (a, replace t.fields key (.tables (elements.dropLast ++ [fields])))

/-- Adds a value under a dotted key. The key has to be new, and the tables that it leads through
have to come from dotted keys themselves. -/
def assign (fields : Fields) (path : List String) (key : String) (d : Document) : Option Fields :=
  let add (t : Table) : Option (Unit × Fields) :=
    if (t.origin == .dotted) == path.isEmpty then none
    else if (find? t.fields key).isSome then none
    else some ((), t.fields ++ [(key, .value d)])
  (visit .dotted add path ⟨.defined, fields⟩).map (·.2)

end Table

/-- A document under construction. -/
structure Builder where
  /-- The tables that are closed. -/
  root : Fields := []
  /-- The contents of the open table. -/
  current : Fields := []
  /-- The table that holds the open one; there is none around the document itself. -/
  path : List String := []
  /-- The key of the open table; there is none for the document itself. -/
  key : Option String := none
  /-- Whether the open table is an element of an array of tables. -/
  element : Bool := false

namespace Builder

/-- Puts the open table in its place. -/
def close (b : Builder) : Option Fields :=
  match b.key with
  | none => some b.current
  | some key =>
    let add (t : Table) : Option (Unit × Fields) :=
      if b.element then
        match Table.find? t.fields key with
        | some (.tables elements) =>
          some ((), Table.replace t.fields key (.tables (elements ++ [b.current])))
        | _ => none
      else some ((), t.fields ++ [(key, .table .defined b.current)])
    (Table.visit .implied add b.path ⟨.defined, b.root⟩).map (·.2)

/-- Opens the table of a header. A table that was only implied so far is taken out of its place
and opened with what it holds. -/
def openTable (b : Builder) (path : List String) (key : String) : Option Builder :=
  let take (t : Table) : Option (Fields × Fields) :=
    match Table.find? t.fields key with
    | none => some ([], t.fields)
    | some (.table .implied fields) => some (fields, t.fields.filter fun e => e.1 != key)
    | some _ => none
  b.close.bind fun root =>
    (Table.visit .implied take path ⟨.defined, root⟩).map fun (current, root) =>
      { root, current, path, key := some key, element := false }

/-- Opens a new element of the array of tables of a header. -/
def openElement (b : Builder) (path : List String) (key : String) : Option Builder :=
  let prepare (t : Table) : Option (Unit × Fields) :=
    match Table.find? t.fields key with
    | none => some ((), t.fields ++ [(key, .tables [])])
    | some (.tables _) => some ((), t.fields)
    | some _ => none
  b.close.bind fun root =>
    (Table.visit .implied prepare path ⟨.defined, root⟩).map fun (_, root) =>
      { root, current := [], path, key := some key, element := true }

/-- Adds a value to the open table. -/
def assign (b : Builder) (path : List String) (key : String) (d : Document) : Option Builder :=
  (Table.assign b.current path key d).map fun current => { b with current }

/-- The finished document. -/
def document (b : Builder) : Option Document :=
  b.close.map fun root => .record (fieldDocuments root)

end Builder

end EngineHost.Toml
