import EngineHost.Numeral
import EngineHost.Text.Quoted

/-!
# Engine options

An engine declares options by name and takes their values as text. A refused option never
changes the engine, and the refusal carries the name and the value as they were given.

## Main definitions

- `OptionSpec` — a declared option
- `OptionError` — why an option was refused
- `int32Option` — the reader for options that are 32-bit signed integers
-/

namespace EngineHost

/-- An option that an engine declares. -/
structure OptionSpec where
  /-- The name under which the option is set. -/
  name : String
  /-- One line about the values that it takes. -/
  description : String
deriving DecidableEq, Repr

/-- Why an engine refused an option. -/
inductive OptionError where
  /-- The engine declares no option of this name. -/
  | unknown (name : String)
  /-- The value is not of the option's form. -/
  | invalidValue (name value : String)
  /-- The value is of the option's form but too large or too small. -/
  | outOfRange (name value : String)
deriving DecidableEq, Repr

/-- The wording of a refusal; only an ill-formed value is quoted. -/
def OptionError.message : OptionError → String
  | .unknown name => "Unknown option: " ++ name
  | .invalidValue name value =>
    "Invalid value for option '" ++ name ++ "': " ++ Text.quoted value
  | .outOfRange name value => "Value out of range for option '" ++ name ++ "': " ++ value

/-- Whether an integer is a 32-bit signed one. -/
def IsInt32 (v : Int) : Prop := -2147483648 ≤ v ∧ v ≤ 2147483647

instance (v : Int) : Decidable (IsInt32 v) := inferInstanceAs (Decidable (_ ∧ _))

/-- Reads the value of a 32-bit signed integer option. -/
def int32Option (name value : String) : Except OptionError Int32 :=
  match Numeral.read value with
  | .error .malformed => .error (.invalidValue name value)
  | .error .outOfRange => .error (.outOfRange name value)
  | .ok v => if IsInt32 v then .ok (Int32.ofInt v) else .error (.outOfRange name value)

end EngineHost
