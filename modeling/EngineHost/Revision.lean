import EngineHost.Text.Blank
import EngineHost.ValueError

/-!
# Revisions of the execution rules

The six rule sets that a call can run under, in the order in which they were activated.

## Main definitions

- `Revision` — the rule sets, with `Revision.all`, `Revision.latest` and the order of activation
- `Revision.name`, `Revision.parse` — the name of a revision and the reader of names
-/

namespace EngineHost

/-- A version of the execution rules. -/
inductive Revision where
  | frontier
  | homestead
  | tangerineWhistle
  | spuriousDragon
  | byzantium
  | constantinople
deriving DecidableEq, Repr

namespace Revision

/-- The first revision is the one that holds where none is named. -/
instance : Inhabited Revision := ⟨frontier⟩

/-- Every revision, in the order of activation. -/
def all : List Revision :=
  [frontier, homestead, tangerineWhistle, spuriousDragon, byzantium, constantinople]

/-- The revision that was activated last. -/
def latest : Revision := constantinople

/-- The number of revisions that were activated before. -/
def rank : Revision → Nat
  | frontier => 0
  | homestead => 1
  | tangerineWhistle => 2
  | spuriousDragon => 3
  | byzantium => 4
  | constantinople => 5

/-- A revision is smaller than those that were activated after it. -/
instance : Ord Revision := ⟨fun a b => compare a.rank b.rank⟩

/-- The name: lower-case words joined by hyphens. -/
def name : Revision → String
  | frontier => "frontier"
  | homestead => "homestead"
  | tangerineWhistle => "tangerine-whistle"
  | spuriousDragon => "spurious-dragon"
  | byzantium => "byzantium"
  | constantinople => "constantinople"

/-- The name as one capitalised word, as diagnostics show it. -/
def title : Revision → String
  | frontier => "Frontier"
  | homestead => "Homestead"
  | tangerineWhistle => "TangerineWhistle"
  | spuriousDragon => "SpuriousDragon"
  | byzantium => "Byzantium"
  | constantinople => "Constantinople"

/-- The one-letter tag. -/
def tag : Revision → Char
  | frontier => 'F'
  | homestead => 'H'
  | tangerineWhistle => 'T'
  | spuriousDragon => 'S'
  | byzantium => 'B'
  | constantinople => 'C'

/-- What a name is compared by: no white space around it, ASCII letters in lower case, and a
hyphen for every underscore. -/
def normalized (s : String) : List Char :=
  (Text.trimmed s.toList).map fun c => if c = '_' then '-' else c.toLower

/-- Reads the name of a revision; an unknown name is reported as it was given. -/
def parse (s : String) : Except ValueError Revision :=
  match all.find? fun r => r.name.toList == normalized s with
  | some r => .ok r
  | none => .error (.unknownRevision s)

theorem mem_all (r : Revision) : r ∈ all := by
  cases r <;> decide

theorem rank_injective {a b : Revision} (h : a.rank = b.rank) : a = b := by
  cases a <;> cases b <;> first | rfl | cases h

theorem name_injective {a b : Revision} (h : a.name = b.name) : a = b := by
  revert h
  cases a <;> cases b <;> decide

end Revision

end EngineHost
