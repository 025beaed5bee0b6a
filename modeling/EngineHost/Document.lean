import EngineHost.Text.Quoted

/-!
# Document trees

The trees that configurations are read from, whatever the format of their text. Records keep
their fields in the order of the text, and a name may occur more than once.

A tree can be read from a text that is damaged: the damage is then a leaf of its own, so that a
reader who walks the tree in order meets it where it stands, behind whatever else is wrong
before it.

## Main definitions

- `Document` — the trees
- `Document.intact` — whether no part of a tree is damaged
- `Document.describe` — what a diagnostic calls a tree
-/

namespace EngineHost

/-- A document, or a part of one. -/
inductive Document where
  | null
  | bool (b : Bool)
  | integer (n : Int)
  /-- A number with a fraction or an exponent, as diagnostics show it. -/
  | fraction (shown : String)
  | text (s : String)
  /-- A date, a time or both, in their normal form. -/
  | moment (shown : String)
  | list (items : List Document)
  /-- A list of records that are written as sections with a header each. -/
  | sections (items : List Document)
  | record (fields : List (String × Document))
  /-- A well-formed scalar that stands for no value, such as a number beyond all doubles. -/
  | unusable
  /-- From here on, the text is no document. -/
  | broken
  /-- The value of a field whose name is no text. The field is listed under the empty name. -/
  | misnamed (value : Document)

namespace Document

instance : Inhabited Document := ⟨null⟩

mutual

/-- Whether no part of a document is broken. -/
def intact : Document → Bool
  | broken => false
  | list items | sections items => intactItems items
  | record fields => intactFields fields
  | misnamed value => intact value
  | _ => true

/-- Whether no part of the items is broken. -/
def intactItems : List Document → Bool
  | [] => true
  | d :: rest => intact d && intactItems rest

/-- Whether no part of the fields' values is broken. -/
def intactFields : List (String × Document) → Bool
  | [] => true
  | (_, d) :: rest => intact d && intactFields rest

end

/-- The field under which a date or time is seen where a record is wanted. -/
def momentField : String := "$__toml_private_datetime"

def describe : Document → String
  | null => "null"
  | bool b => "boolean `" ++ (if b then "true" else "false") ++ "`"
  | integer n => "integer `" ++ toString n ++ "`"
  | fraction shown => "floating point `" ++ shown ++ "`"
  | text s => "string " ++ Text.quoted s
  | list _ | sections _ => "sequence"
  | moment _ | record _ => "map"
  | unusable | broken | misnamed _ => "damage"

end Document

end EngineHost
