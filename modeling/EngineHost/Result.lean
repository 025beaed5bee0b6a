import EngineHost.Bytes
import EngineHost.Status

/-!
# Results of a call and who owns their output

A result carries its output in one of three modes: there is none, it is a buffer that its
allocator takes back, or it is constant data that nobody takes back. A result is consumed once,
in one of several ways, and every way of consuming it hands an owned buffer back exactly once.
The functions that consume a result say which buffers they hand back.

## Main definitions

- `Buffer`, `Output` — outputs and their modes
- `Release` — the event that a buffer goes back to its allocator
- `ExecutionResult` — what an engine gives for one call
- `ExecutionResult.release`, `ExecutionResult.intoOutput`, `ExecutionResult.outcome`,
  `ExecutionResult.drop` — the ways of consuming a result
- `CallOutcome` — what is left of a result when its output has been copied out
-/

namespace EngineHost

/-- An output buffer together with the allocator that takes it back. -/
structure Buffer where
  bytes : Bytes
  owner : String
deriving DecidableEq, Repr

/-- A buffer going back to its allocator. -/
structure Release where
  owner : String
  bytes : Bytes
deriving DecidableEq, Repr

/-- The event that is due for a buffer. -/
def Buffer.handedBack (b : Buffer) : Release := ⟨b.owner, b.bytes⟩

/-- A new buffer with a copy of some bytes, unless memory is short. -/
def Buffer.copy? (owner : String) (bytes : Bytes) : Option Buffer := some ⟨bytes, owner⟩

/-- The output of one call. -/
inductive Output where
  | none
  /-- A buffer that goes back to its allocator. -/
  | owned (buffer : Buffer)
  /-- Constant data, which is never handed back. -/
  | constant (bytes : Bytes)
deriving DecidableEq, Repr

namespace Output

def bytes : Output → Bytes
  | none => []
  | owned buffer => buffer.bytes
  | constant bytes => bytes

/-- Whether a buffer has to be handed back. -/
def requiresRelease : Output → Bool
  | owned _ => true
  | _ => false

/-- Whether there is no output at all. -/
def isNone : Output → Bool
  | none => true
  | _ => false

/-- Consumes an output: what is handed back. -/
def drop : Output → List Release
  | owned buffer => [buffer.handedBack]
  | _ => []

def describe : Output → String
  | none => "None"
  | owned buffer => "Owned(OwnedBuffer \x7b len: " ++ toString buffer.bytes.length ++ ", .. \x7d)"
  | constant bytes => "Static([" ++ ", ".intercalate (bytes.map toString) ++ "])"

end Output

/-- What a call produced, apart from any engine. -/
structure CallOutcome where
  status : Status
  gasLeft : Int64
  /-- A copy of the output; empty when the engine could not complete. -/
  output : Bytes
deriving DecidableEq

/-- What an engine gives for one call. -/
structure ExecutionResult where
  status : Status
  gasLeft : Int64
  output : Output
deriving DecidableEq

namespace ExecutionResult

def success (gasLeft : Int64) (output : Output) : ExecutionResult := ⟨.success, gasLeft, output⟩

def failure (gasLeft : Int64) : ExecutionResult := ⟨.failure, gasLeft, .none⟩

/-- A failed result with a constant message as its output. -/
def failureWithMessage (gasLeft : Int64) (message : String) : ExecutionResult :=
  ⟨.failure, gasLeft, .constant (utf8 message)⟩

/-- The result of an engine that could not complete: no output and no gas. -/
def internalError : ExecutionResult := ⟨.internalError, 0, .none⟩

/-- The result of trying to allocate an output. -/
def ofAllocation (gasLeft : Int64) : Option Buffer → ExecutionResult
  | some buffer => success gasLeft (.owned buffer)
  | none => internalError

/-- A successful result with a new copy of some bytes as its output. -/
def successWithCopy (gasLeft : Int64) (owner : String) (bytes : Bytes) : ExecutionResult :=
  ofAllocation gasLeft (Buffer.copy? owner bytes)

/-- The output as a receiver sees it: that of an engine that could not complete is ignored. -/
def visible (r : ExecutionResult) : Bytes :=
  if r.status.isInternalError then [] else r.output.bytes

/-- Whether a buffer has to be handed back. -/
def requiresRelease (r : ExecutionResult) : Bool := r.output.requiresRelease

/-! ## Consuming a result -/

/-- Drops a result: what is handed back. -/
def drop (r : ExecutionResult) : List Release := r.output.drop

/-- Releases a result: whether a buffer was handed back, and what is handed back. -/
def release (r : ExecutionResult) : Bool × List Release :=
  match r.output with
  | .owned buffer => (true, (Output.owned buffer).drop)
  | .none => (false, [])
  | .constant _ => (false, [])

/-- Copies the output out and then releases the result. -/
def intoOutput (r : ExecutionResult) : Bytes × List Release := (r.visible, r.release.2)

/-- Turns a result into an outcome: the output is copied out, and the result is released. -/
def outcome (r : ExecutionResult) : CallOutcome × List Release :=
  let (output, released) := r.intoOutput
  (⟨r.status, r.gasLeft, output⟩, released)

def describe (r : ExecutionResult) : String :=
  "ExecutionResult \x7b status: " ++ r.status.title ++ ", gas_left: " ++
    toString r.gasLeft.toInt ++ ", output: " ++ r.output.describe ++ " \x7d"

end ExecutionResult

end EngineHost
