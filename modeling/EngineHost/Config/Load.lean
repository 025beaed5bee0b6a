import EngineHost.Config.Decode
import EngineHost.Document.Toml.Read

/-!
# Loading configurations

A configuration is loaded from a TOML text or from a file that holds one. A file that cannot be
read and a text that cannot be decoded are told apart.

## Main definitions

- `ReadFault` — why a file cannot be read
- `LoadError` — why a configuration cannot be loaded
- `ConfigFile.ofToml`, `ConfigFile.load` — loading from a text and from a file
-/

namespace EngineHost

/-- Why a file cannot be read as a text. -/
inductive ReadFault where
  | notFound
  | isDirectory
  | notText
  | other (reason : String)
deriving DecidableEq, Repr

def ReadFault.message : ReadFault → String
  | .notFound => "No such file or directory (os error 2)"
  | .isDirectory => "Is a directory (os error 21)"
  | .notText => "stream did not contain valid UTF-8"
  | .other reason => reason

/-- Why a configuration cannot be loaded. -/
inductive LoadError where
  | unreadable (path : String) (fault : ReadFault)
  | undecodable (reason : DecodeError)
deriving DecidableEq, Repr

def LoadError.message : LoadError → String
  | .unreadable path fault => "Failed to read config file '" ++ path ++ "': " ++ fault.message
  | .undecodable reason => "Failed to parse config file: " ++ reason.message

namespace ConfigFile

/-- The configuration that a TOML text holds. -/
def ofToml (s : String) : Except DecodeError ConfigFile :=
  Toml.decode (shape.read .toml) s

/-- The configuration that a file holds, from what reading its bytes gave. -/
def load (path : String) (content : Except ReadFault Bytes) : Except LoadError ConfigFile :=
  match content with
  | .error fault => .error (.unreadable path fault)
  | .ok bytes =>
    match text? bytes with
    | none => .error (.unreadable path .notText)
    | some s =>
      match ofToml s with
      | .error e => .error (.undecodable e)
      | .ok c => .ok c

end ConfigFile

end EngineHost
