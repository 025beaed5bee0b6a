/-!
# Status of a finished call

Every call ends with one of three statuses. A status is an ordinary value, never an error.
-/

namespace EngineHost

inductive Status where
  | success
  /-- The call completed without achieving its effect. -/
  | failure
  /-- The engine itself could not complete. -/
  | internalError
deriving DecidableEq, Repr

namespace Status

/-- The statuses, in the order in which diagnostics list them. -/
def all : List Status := [success, failure, internalError]

/-- The name: lower-case words joined by hyphens. -/
def name : Status → String
  | success => "success"
  | failure => "failure"
  | internalError => "internal-error"

/-- The name as reports print it. -/
def display : Status → String
  | success => "SUCCESS"
  | failure => "FAILURE"
  | internalError => "INTERNAL_ERROR"

/-- The name as one capitalised word, as diagnostics show it. -/
def title : Status → String
  | success => "Success"
  | failure => "Failure"
  | internalError => "InternalError"

def isSuccess (s : Status) : Bool := s == success

def isInternalError (s : Status) : Bool := s == internalError

end Status

end EngineHost
