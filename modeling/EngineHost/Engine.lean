import EngineHost.Engine.Option
import EngineHost.Host
import EngineHost.Message
import EngineHost.Result
import EngineHost.Revision

/-!
# Engines

An engine is created, takes options, executes calls and is destroyed. It does not hold a host:
each call is run against the host that it is lent.

## Main definitions

- `Engine σ` — the behaviour of an engine whose state is a `σ`
- `LoadedEngine σ` — an engine with its present state
- `abiVersion`, `Factory σ` — the description under which a host finds an engine
-/

namespace EngineHost

/-- The behaviour of an engine with states in `σ`. An engine that does not say otherwise declares
no option and refuses all of them. -/
structure Engine (σ : Type) where
  options : List OptionSpec := []
  /-- Sets an option, or says why it is refused. -/
  trySetOption : String → String → σ → Except OptionError Unit × σ :=
    fun name _ s => (.error (.unknown name), s)
  getOption : String → σ → Option String := fun _ _ => none
  /-- Executes code for a message under a revision. -/
  execute : Revision → CallMessage → Bytes → σ → Calls (ExecutionResult × σ)
  describe : σ → String

/-- An engine with its present state. -/
structure LoadedEngine (σ : Type) where
  engine : Engine σ
  state : σ

namespace LoadedEngine

variable {σ : Type}

/-- Sets an option, or says why it is refused. -/
def trySetOption (e : LoadedEngine σ) (name value : String) :
    Except OptionError Unit × LoadedEngine σ :=
  let (answer, state) := e.engine.trySetOption name value e.state
  (answer, { e with state })

/-- Sets an option and says whether it was accepted. -/
def setOption (e : LoadedEngine σ) (name value : String) : Bool × LoadedEngine σ :=
  match e.trySetOption name value with
  | (.ok (), e) => (true, e)
  | (.error _, e) => (false, e)

def getOption (e : LoadedEngine σ) (name : String) : Option String :=
  e.engine.getOption name e.state

/-- Executes a call against a host in a given state. -/
def execute {ω : Type} (e : LoadedEngine σ) (host : Host ω) (revision : Revision)
    (message : CallMessage) (code : Bytes) (w : ω) : ExecutionResult × LoadedEngine σ × ω :=
  let ((result, state), w) := (e.engine.execute revision message code e.state).run host w
  (result, { e with state }, w)

def describe (e : LoadedEngine σ) : String := e.engine.describe e.state

end LoadedEngine

/-- The version of the interface between engines and hosts. -/
def abiVersion : UInt32 := 0

/-- The description under which a host finds an engine. -/
structure Factory (σ : Type) where
  /-- The version of the interface that the engine was made for. -/
  abiVersion : UInt32 := EngineHost.abiVersion
  name : String
  create : LoadedEngine σ

namespace Factory

variable {σ : Type}

/-- Whether the engine was made for this version of the interface. -/
def isCompatible (f : Factory σ) : Bool := f.abiVersion == EngineHost.abiVersion

def describe (f : Factory σ) : String :=
  "EngineFactory \x7b abi_version: " ++ toString f.abiVersion ++ ", name: " ++
    Text.quoted f.name ++ ", .. \x7d"

end Factory

end EngineHost
