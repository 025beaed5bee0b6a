import EngineHost.Message
import EngineHost.Revision
import EngineHost.SortedMap

/-!
# Configurations

What a host is told before it runs: which engine to bind and with which options, the call to
make, and the accounts that exist. Every part has a default, so the empty configuration is
complete.

## Main definitions

- `EngineConfig`, `ExecutionConfig`, `RuntimeConfig` — the engine, the call, and both
- `StorageEntry`, `AccountEntry` — accounts to load
- `ConfigFile` — a whole configuration
- `defaultEngineName`, `defaultRevision`, `defaultDestination`, `defaultGas` — what stands for parts
  that are not given, where it is not the neutral value of their type
- `ExecutionConfig.callMessage`, `ExecutionConfig.codeBytes` — the call that is described
-/

namespace EngineHost

/-- The engine that is bound unless another one is named. -/
def defaultEngineName : String := "examplevm"

/-- The revision that calls run under unless another one is named. -/
def defaultRevision : Revision := .byzantium

/-- The account that calls go to unless another one is named. -/
def defaultDestination : Address := ⟨List.replicate 19 0 ++ [1], rfl⟩

/-- The gas of a call unless another amount is named. -/
def defaultGas : Int64 := 1000000

/-- The engine to bind and what to set on it before the first call. -/
structure EngineConfig where
  name : String := defaultEngineName
  revision : Revision := defaultRevision
  /-- Options by name; names and values go to the engine as they are. -/
  options : SortedMap String String := .empty
deriving DecidableEq

structure ExecutionConfig where
  address : Address := defaultDestination
  sender : Address := Fixed.zero 20
  value : Word := Fixed.zero 32
  kind : CallKind := .call
  /-- The gas that each call may use. -/
  gas : Int64 := defaultGas
  /-- The input data in hexadecimal, with or without a marker. -/
  input : String := ""
  /-- The code, whose text is handed over as it is. -/
  code : String := ""
deriving DecidableEq

structure RuntimeConfig where
  engine : EngineConfig := {}
  execution : ExecutionConfig := {}
deriving DecidableEq

structure StorageEntry where
  key : Word
  value : Word
deriving DecidableEq

/-- An account that exists before the first call. -/
structure AccountEntry where
  address : Address
  balance : Word := Fixed.zero 32
  code : String := ""
  storage : List StorageEntry := []
deriving DecidableEq

structure ConfigFile where
  runtime : RuntimeConfig := {}
  /-- The accounts to load, in order. -/
  accounts : List AccountEntry := []
deriving DecidableEq

namespace ExecutionConfig

/-- The call message that is described; only the input can fail to be one. -/
def callMessage (c : ExecutionConfig) : Except ValueError CallMessage :=
  match Hex.read c.input with
  | .error e => .error (.hex e)
  | .ok input =>
    .ok { address := c.address, sender := c.sender, value := c.value, input := input,
          gas := c.gas, kind := c.kind }

def codeBytes (c : ExecutionConfig) : Bytes := utf8 c.code

end ExecutionConfig

end EngineHost
