import EngineHost.Fixed

/-!
# Call messages

What a host tells an engine about one call, apart from the code.

## Main definitions

- `CallKind` — the four ways of calling
- `CallMessage` — the message; every field but the destination has a neutral default
- `CallMessage.isStatic`, `CallMessage.markStatic` — the flag of read-only calls
-/

namespace EngineHost

/-- The kind of call that a message describes. -/
inductive CallKind where
  | call
  | delegateCall
  | callCode
  | create
deriving DecidableEq, Repr, Inhabited

namespace CallKind

/-- The kinds, in the order in which diagnostics list them. -/
def all : List CallKind := [call, delegateCall, callCode, create]

/-- The name: lower-case words joined by hyphens. -/
def name : CallKind → String
  | call => "call"
  | delegateCall => "delegate-call"
  | callCode => "call-code"
  | create => "create"

end CallKind

/-- The description of one call. -/
structure CallMessage where
  /-- The account whose code runs. -/
  address : Address := Fixed.zero 20
  sender : Address := Fixed.zero 20
  value : Word := Fixed.zero 32
  input : Bytes := []
  codeHash : Word := Fixed.zero 32
  /-- The gas that the call may use. -/
  gas : Int64 := 0
  /-- The nesting depth; zero at the top level. -/
  depth : Int32 := 0
  kind : CallKind := .call
  flags : UInt32 := 0
deriving DecidableEq

namespace CallMessage

/-- The flag of a static (read-only) call. -/
def staticFlag : UInt32 := 1

def isStatic (m : CallMessage) : Bool := m.flags &&& staticFlag != 0

/-- Marks the call as static and keeps the other flags. -/
def markStatic (m : CallMessage) : CallMessage := { m with flags := m.flags ||| staticFlag }

end CallMessage

end EngineHost
