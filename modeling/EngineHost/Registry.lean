import EngineHost.Engine
import EngineHost.Engine.Example
import EngineHost.SortedMap

/-!
# The registry of engines

A registry maps names to factories. It accepts factories for this version of the interface only,
and each name once.

## Main definitions

- `Registry σ` — factories by name
- `RegistryError` — why a factory is refused or not found
- `Registry.register`, `Registry.unregister`, `Registry.get`, `Registry.create`
- `Registry.builtin` — the registry that holds the reference engine
-/

namespace EngineHost

/-- Why a factory is refused or not found. -/
inductive RegistryError where
  /-- No engine of this name is registered. -/
  | engineNotFound (name : String)
  /-- The factory was made for another version of the interface. -/
  | abiMismatch (name : String) (expected found : UInt32)
  /-- An engine of this name is registered already. -/
  | duplicateEngine (name : String)
deriving DecidableEq, Repr

namespace RegistryError

def message : RegistryError → String
  | engineNotFound name => "Engine not found: " ++ name
  | abiMismatch name expected found =>
    "ABI version mismatch for engine '" ++ name ++ "': expected " ++ toString expected ++
      ", found " ++ toString found
  | duplicateEngine name => "Engine already registered: " ++ name

def isNotFound : RegistryError → Bool
  | engineNotFound _ => true
  | _ => false

end RegistryError

/-- Factories by the name of their engine. -/
structure Registry (σ : Type) where
  factories : SortedMap String (Factory σ) := .empty

namespace Registry

variable {σ : Type}

/-- Adds a factory. Its version is looked at before its name. -/
def register (r : Registry σ) (f : Factory σ) : Except RegistryError (Registry σ) :=
  if !f.isCompatible then .error (.abiMismatch f.name abiVersion f.abiVersion)
  else if r.factories.contains f.name then .error (.duplicateEngine f.name)
  else .ok ⟨r.factories.insert f.name f⟩

/-- Removes the factory of a name, and gives it if there was one. -/
def unregister (r : Registry σ) (name : String) : Option (Factory σ) × Registry σ :=
  (r.factories.get? name, ⟨r.factories.erase name⟩)

def get (r : Registry σ) (name : String) : Except RegistryError (Factory σ) :=
  match r.factories.get? name with
  | some f => .ok f
  | none => .error (.engineNotFound name)

/-- A new engine of a name. -/
def create (r : Registry σ) (name : String) : Except RegistryError (LoadedEngine σ) :=
  match r.get name with
  | .ok f => .ok f.create
  | .error e => .error e

/-- The registered names, in ascending order. -/
def names (r : Registry σ) : List String := r.factories.keys

def size (r : Registry σ) : Nat := r.factories.size

def isEmpty (r : Registry σ) : Bool := r.factories.isEmpty

def describe (r : Registry σ) : String :=
  "EngineRegistry \x7b engines: [" ++ ", ".intercalate (r.names.map Text.quoted) ++ "] \x7d"

/-- The registry that holds the reference engine. -/
def builtin : Registry ExampleVm :=
  ⟨SortedMap.empty.insert ExampleVm.factory.name ExampleVm.factory⟩

/-- The built-in registry makes the reference engine under its name. -/
theorem create_builtin : builtin.create ExampleVm.name = .ok ExampleVm.fresh := by
  have hget : builtin.factories.get? ExampleVm.name = some ExampleVm.factory :=
    SortedMap.get?_insert_self _ _ _
  simp only [create, get, hget]
  rfl

end Registry

end EngineHost
