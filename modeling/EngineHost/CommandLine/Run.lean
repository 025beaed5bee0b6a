import EngineHost.CommandLine.Request
import EngineHost.Config.Load
import EngineHost.Host.Memory
import EngineHost.Session

/-!
# Running calls

The command `run`: it loads a configuration, lets the command line override it, binds the engine
to a memory host with the configured accounts, runs the call as often as asked, and reports the
outcomes and the storage of the destination.

## Main definitions

- `ConfigFile.overriddenBy` — the configuration that a run goes by
- `RunError` — why a run fails, with what caused it
- `runConfigured`, `RunRequest.run` — a run from a configuration, and from a request
-/

namespace EngineHost

/-- A configuration with what a request says instead of it. Options are added to the configured
ones; of several with the same name the last one counts. -/
def ConfigFile.overriddenBy (c : ConfigFile) (r : CommandLine.RunRequest) : ConfigFile :=
  let engine := { c.runtime.engine with
    revision := r.revision.getD c.runtime.engine.revision
    options := c.runtime.engine.options.insertMany r.options }
  let execution := { c.runtime.execution with
    code := r.code.getD c.runtime.execution.code }
  { c with runtime := ⟨engine, execution⟩ }

namespace CommandLine

inductive RunError where
  /-- The configuration cannot be loaded. -/
  | config (path : String) (reason : LoadError)
  /-- The input data of the call is not hexadecimal. -/
  | input (reason : ValueError)
  /-- No engine has the configured name. -/
  | engine (name : String) (reason : RegistryError)
deriving DecidableEq, Repr

namespace RunError

/-- The wording of an error, without its causes. -/
def message : RunError → String
  | config path _ => "Failed to load config from " ++ path
  | input _ => "Invalid execution input"
  | engine name _ => "Failed to bind engine '" ++ name ++ "'"

/-- The causes of an error, each one the cause of the one before it. -/
def causes : RunError → List String
  | config _ (.unreadable path fault) => [(LoadError.unreadable path fault).message, fault.message]
  | config _ (.undecodable reason) => [(LoadError.undecodable reason).message]
  | input (.hex reason) => [(ValueError.hex reason).message, reason.message]
  | input reason => [reason.message]
  | engine _ reason => [reason.message]

end RunError

/-- The line about the outcome of a call; calls are numbered from one. -/
def outcomeLine (index : Nat) (o : CallOutcome) : String :=
  "call " ++ toString (index + 1) ++ ": status=" ++ o.status.display ++ " gas_left=" ++
    toString o.gasLeft.toInt ++ " output=" ++ Hex.marked o.output

/-- The lines about the outcomes of calls, the first of which has an index. -/
def outcomeLines (index : Nat) : List CallOutcome → List String
  | [] => []
  | o :: rest => outcomeLine index o :: outcomeLines (index + 1) rest

def slotLine (slot : Word × Word) : String :=
  "  " ++ slot.1.display ++ " = " ++ slot.2.display

/-- The lines about the storage of an account, in ascending order of the keys. -/
def storageLines (h : MemoryHost) (address : Address) : List String :=
  let slots := match h.account? address with
    | some a => a.storage.entries
    | none => []
  ("storage of " ++ address.display ++ ":") ::
    if slots.isEmpty then ["  (empty)"] else slots.map slotLine

/-- Runs a call as a configuration says, a number of times; gives the lines of the report. -/
def runConfigured {σ : Type} (registry : Registry σ) (count : Nat) (c : ConfigFile) :
    Except RunError (List String) :=
  let engine := c.runtime.engine
  let execution := c.runtime.execution
  match execution.callMessage with
  | .error e => .error (.input e)
  | .ok message =>
    match Session.open registry engine.name MemoryHost.host engine.revision with
    | .error e => .error (.engine engine.name e)
    | .ok session =>
      let (_, session) := session.applyOptions engine.options
      let (outcomes, _, host) := session.executeMany message execution.codeBytes count #[]
        (MemoryHost.ofAccounts c.accounts)
      .ok (outcomeLines 0 outcomes.toList ++ storageLines host message.address)

/-- The configuration that a request names; `read` is what reading a path gives. -/
def RunRequest.load (r : RunRequest) (read : String → Except ReadFault Bytes) :
    Except RunError ConfigFile :=
  match r.config with
  | none => .ok {}
  | some path =>
    match ConfigFile.load path (read path) with
    | .error e => .error (.config path e)
    | .ok c => .ok c

/-- Runs what a request asks for; one call if it does not give a number. -/
def RunRequest.run {σ : Type} (r : RunRequest) (registry : Registry σ)
    (read : String → Except ReadFault Bytes) : Except RunError (List String) :=
  match r.load read with
  | .error e => .error e
  | .ok c => runConfigured registry (r.count.getD 1).toNat (c.overriddenBy r)

end CommandLine

end EngineHost
