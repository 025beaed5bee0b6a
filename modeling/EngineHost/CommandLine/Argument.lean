/-!
# Arguments of a command line

How the arguments of a command line look before anyone knows which options exist, and how a name
and a value are written together.

## Main definitions

- `splitAtEquals` — a text in two, at its first equals sign
- `Argument` — the forms of an argument
- `Assignment` — a name with a value, written `NAME=VALUE`

## Main statements

- `splitAtEquals_eq_some_iff`, `splitAtEquals_eq_none_iff` — what the first equals sign decides
-/

namespace EngineHost.CommandLine

/-- What stands before and behind the first equals sign, if there is one. -/
def splitAtEquals : List Char → Option (List Char × List Char)
  | [] => none
  | '=' :: rest => some ([], rest)
  | c :: rest => (splitAtEquals rest).map fun (before, behind) => (c :: before, behind)

/-- Nothing is found exactly when there is no equals sign. -/
theorem splitAtEquals_eq_none_iff {cs : List Char} : splitAtEquals cs = none ↔ '=' ∉ cs := by
  fun_induction splitAtEquals cs with
  | case1 => simp
  | case2 => simp
  | case3 c rest hc ih =>
    have : '=' ≠ c := fun h => hc h.symm
    simp [this, ih]

/-- The two parts make up the text, and the first one has no equals sign. -/
theorem splitAtEquals_eq_some_iff {cs name value : List Char} :
    splitAtEquals cs = some (name, value) ↔ cs = name ++ '=' :: value ∧ '=' ∉ name := by
  fun_induction splitAtEquals cs generalizing name with
  | case1 => simp
  | case2 rest =>
    cases name with
    | nil => simp
    | cons d name =>
      simp only [Option.some.injEq, Prod.mk.injEq, List.cons_append, List.cons.injEq,
        List.mem_cons, not_or]
      constructor
      · rintro ⟨h, _⟩
        simp at h
      · rintro ⟨⟨h, _⟩, hd, _⟩
        exact absurd h hd
  | case3 c rest hc ih =>
    have hne : '=' ≠ c := fun h => hc h.symm
    cases name with
    | nil => simp [hne.symm]
    | cons d name =>
      simp only [Option.map_eq_some_iff, Prod.exists, Prod.mk.injEq, List.cons.injEq,
        List.cons_append, List.mem_cons, not_or]
      constructor
      · rintro ⟨before, behind, h, ⟨rfl, rfl⟩, rfl⟩
        obtain ⟨hr, hn⟩ := ih.1 h
        exact ⟨⟨rfl, hr⟩, hne, hn⟩
      · rintro ⟨⟨rfl, hr⟩, _, hn⟩
        exact ⟨name, value, ih.2 ⟨hr, hn⟩, ⟨rfl, rfl⟩, rfl⟩

/-- The form of an argument. -/
inductive Argument where
  /-- Two hyphens alone; nothing behind them is an option. -/
  | separator
  /-- Two hyphens and a name, perhaps with an equals sign and a value. -/
  | long (name : String) (value : Option String)
  /-- A hyphen and a letter, whatever follows. -/
  | short (letter : Char)
  /-- Any other text, a hyphen alone included. -/
  | plain (text : String)
deriving DecidableEq, Repr

def Argument.ofText (s : String) : Argument :=
  match s.toList with
  | ['-', '-'] => .separator
  | '-' :: '-' :: rest =>
    match splitAtEquals rest with
    | some (name, value) => .long (String.ofList name) (some (String.ofList value))
    | none => .long (String.ofList rest) none
  | '-' :: letter :: _ => .short letter
  | _ => .plain s

/-! ## Assignments -/

/-- A name with the value that is assigned to it. -/
abbrev Assignment := String × String

/-- Why a text is no assignment. -/
inductive AssignmentError where
  | noEquals (text : String)
  /-- Nothing stands before the first equals sign. -/
  | noName (text : String)
deriving DecidableEq, Repr

def AssignmentError.message : AssignmentError → String
  | noEquals text => "expected NAME=VALUE, got '" ++ text ++ "'"
  | noName text => "missing option name in '" ++ text ++ "'"

/-- Reads an assignment: the name ends at the first equals sign, and the value is the rest. -/
def Assignment.parse (s : String) : Except AssignmentError Assignment :=
  match splitAtEquals s.toList with
  | none => .error (.noEquals s)
  | some ([], _) => .error (.noName s)
  | some (name, value) => .ok (String.ofList name, String.ofList value)

end EngineHost.CommandLine
