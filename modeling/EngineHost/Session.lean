import EngineHost.Registry

/-!
# Sessions

A session binds one engine to one host and one revision. It sets options, runs calls, copies the
output of each call out and releases its result, and destroys the engine when it ends. A session
may be closed, which ends it early, or dropped.

## Main definitions

- `Session σ ω` — an engine with states in `σ` bound to a host with states in `ω`
- `Session.open`, `Session.applyOptions`, `Session.execute`, `Session.executeMany` — what a
  session is used for
- `Session.close`, `Session.drop` — the ways in which it ends
-/

namespace EngineHost

/-- An engine bound to a host. -/
structure Session (σ ω : Type) where
  host : Host ω
  /-- The engine, until it is destroyed. -/
  engine : Option (LoadedEngine σ)
  revision : Revision
  calls : UInt64

/-- What a call through a session leaves behind. -/
structure Session.Executed (σ ω : Type) where
  outcome : CallOutcome
  /-- The buffers that were handed back, in order. -/
  released : List Release
  session : Session σ ω
  world : ω

namespace Session

variable {σ ω : Type}

/-- Binds an engine to a host. -/
def bind (engine : LoadedEngine σ) (host : Host ω) (revision : Revision) : Session σ ω :=
  ⟨host, some engine, revision, 0⟩

/-- Creates the engine of a name and binds it to a host. -/
def «open» (registry : Registry σ) (name : String) (host : Host ω) (revision : Revision) :
    Except RegistryError (Session σ ω) :=
  match registry.create name with
  | .ok engine => .ok (bind engine host revision)
  | .error e => .error e

/-- The built-in registry opens sessions of the reference engine. -/
theorem open_builtin {ω : Type} (host : Host ω) (revision : Revision) :
    Session.open Registry.builtin ExampleVm.name host revision =
      .ok (bind ExampleVm.fresh host revision) := by
  rw [Session.open, Registry.create_builtin]

/-- Sets options one after another, whether or not the ones before were accepted, and collects
the refusals. -/
def setEach : List (String × String) → LoadedEngine σ → List OptionError × LoadedEngine σ
  | [], e => ([], e)
  | (name, value) :: rest, e =>
    match e.trySetOption name value with
    | (.ok (), e) => setEach rest e
    | (.error refusal, e) =>
      let (refusals, e) := setEach rest e
      (refusal :: refusals, e)

/-- Sets options in the order of their names; gives the refusals in that order. -/
def applyOptions (s : Session σ ω) (options : SortedMap String String) :
    List OptionError × Session σ ω :=
  match s.engine with
  | none => ([], s)
  | some e =>
    let (refusals, e) := setEach options.entries e
    (refusals, { s with engine := some e })

def option? (s : Session σ ω) (name : String) : Option String :=
  s.engine.bind fun e => e.getOption name

/-- Runs a call on the host in a given state. The output is copied out and the result is released
before the call is over. -/
def execute (s : Session σ ω) (message : CallMessage) (code : Bytes) (w : ω) : Executed σ ω :=
  match s.engine with
  | none =>
    let (outcome, released) := ExecutionResult.internalError.outcome
    ⟨outcome, released, s, w⟩
  | some e =>
    let (result, e, w) := e.execute s.host s.revision message code w
    let (outcome, released) := result.outcome
    ⟨outcome, released, { s with engine := some e, calls := s.calls + 1 }, w⟩

/-- Runs the same call a number of times and adds the outcomes to those before. -/
def executeMany (message : CallMessage) (code : Bytes) :
    Nat → Array CallOutcome → Session σ ω → ω → Array CallOutcome × Session σ ω × ω
  | 0, outcomes, s, w => (outcomes, s, w)
  | n + 1, outcomes, s, w =>
    let executed := s.execute message code w
    executeMany message code n (outcomes.push executed.outcome) executed.session executed.world

/-- Destroys the engine if it is still there; gives the engine that was destroyed. -/
def destroyEngine (s : Session σ ω) : Option (LoadedEngine σ) × Session σ ω :=
  (s.engine, { s with engine := none })

/-- Ends a session; gives the engines that are destroyed, in order. -/
def drop (s : Session σ ω) : List (LoadedEngine σ) := s.destroyEngine.1.toList

/-- Destroys the engine now and then ends the session; gives the engines that are destroyed, in
order. -/
def close (s : Session σ ω) : List (LoadedEngine σ) :=
  let (destroyed, s) := s.destroyEngine
  destroyed.toList ++ s.drop

def describe (s : Session σ ω) : String :=
  let engine := match s.engine with
    | some e => "Some(" ++ e.describe ++ ")"
    | none => "None"
  "HostSession \x7b engine: " ++ engine ++ ", revision: " ++ s.revision.title ++ ", calls: " ++
    toString s.calls ++ " \x7d"

end Session

end EngineHost
