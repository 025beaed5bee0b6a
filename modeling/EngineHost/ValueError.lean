import EngineHost.Hex

/-!
# Why the text of a value is refused

The errors of reading addresses, words and revision names, and their wording.
-/

namespace EngineHost

/-- Why a text is not an address, a word or a revision. -/
inductive ValueError where
  | hex (reason : Hex.Error)
  /-- The text is hexadecimal but of the wrong size, in bytes. -/
  | wrongLength (expected found : Nat)
  /-- No revision has this name; the name is the text as it was given. -/
  | unknownRevision (name : String)
deriving DecidableEq, Repr

def ValueError.message : ValueError → String
  | .hex reason => "Invalid hex: " ++ reason.message
  | .wrongLength expected found =>
    "Invalid length: expected " ++ toString expected ++ " bytes, found " ++ toString found
  | .unknownRevision name => "Unknown revision: " ++ name

end EngineHost
