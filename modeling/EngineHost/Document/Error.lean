import EngineHost.ValueError

/-!
# Why a document does not decode

The problems that are met when a document is decoded into values, and their wording. The first
problem in the order of the document is the one that is reported.
-/

namespace EngineHost

/-- Why a document does not decode. -/
inductive DecodeError where
  /-- The text is not a document of its format. -/
  | notADocument
  /-- A value is of another type than the wanted one; both are given as diagnostics name them. -/
  | wrongType (found wanted : String)
  /-- A value is of the wanted type but not in its range. -/
  | wrongValue (found wanted : String)
  /-- A choice among names was given another name. -/
  | unknownVariant (name : String) (known : List String)
  /-- A choice was given in another form than its name. -/
  | wrongForm (wanted : String)
  | missingField (name : String)
  | duplicateField (name : String)
  /-- A list has the wrong number of items for what is wanted. -/
  | wrongCount (found : Nat) (wanted : String)
  /-- A text is not one of the wanted value. -/
  | badValue (reason : ValueError)
deriving DecidableEq, Repr

namespace DecodeError

def backquoted (s : String) : String := "`" ++ s ++ "`"

def message : DecodeError → String
  | notADocument => "not a document"
  | wrongType found wanted => "invalid type: " ++ found ++ ", expected " ++ wanted
  | wrongValue found wanted => "invalid value: " ++ found ++ ", expected " ++ wanted
  | unknownVariant name known =>
    "unknown variant " ++ backquoted name ++ ", expected one of " ++
      ", ".intercalate (known.map backquoted)
  | wrongForm wanted => wanted
  | missingField name => "missing field " ++ backquoted name
  | duplicateField name => "duplicate field " ++ backquoted name
  | wrongCount found wanted => "invalid length " ++ toString found ++ ", expected " ++ wanted
  | badValue reason => reason.message

end DecodeError

end EngineHost
