/-!
# Counts

The reader of counts: whole numbers in decimal, with an optional sign in front and without
anything around them. A number is first read as a 64-bit signed one, and only then its range is
looked at.

## Main definitions

- `CountError` — why a text is no count
- `readSigned` — the reader of 64-bit signed numbers
- `parseCount` — the reader of 32-bit unsigned counts
-/

namespace EngineHost.CommandLine

/-- Why a text is no count. -/
inductive CountError where
  | empty
  /-- There is a character that is no digit, or no digit at all. -/
  | notDecimal
  /-- The number does not fit in 64 bits. -/
  | tooLarge
  | tooSmall
  /-- The number is no 32-bit unsigned one. -/
  | notACount (value : Int)
deriving DecidableEq, Repr

def CountError.message : CountError → String
  | empty => "cannot parse integer from empty string"
  | notDecimal => "invalid digit found in string"
  | tooLarge => "number too large to fit in target type"
  | tooSmall => "number too small to fit in target type"
  | notACount value => toString value ++ " is not in 0..=4294967295"

/-- Reads decimal digits behind a number `value` as long as the number stays within a limit. The
first problem from the left is the one that is reported. -/
def readDecimal (limit : Nat) (beyond : CountError) (value : Nat) :
    List Char → Except CountError Nat
  | [] => .ok value
  | c :: rest =>
    if '0' ≤ c ∧ c ≤ '9' then
      let next := value * 10 + (c.toNat - '0'.toNat)
      if next ≤ limit then readDecimal limit beyond next rest else .error beyond
    else .error .notDecimal

/-- Reads a 64-bit signed number. -/
def readSigned : List Char → Except CountError Int
  | [] => .error .empty
  | ['+'] => .error .notDecimal
  | ['-'] => .error .notDecimal
  | '-' :: digits => (readDecimal (Nat.pow 2 63) .tooSmall 0 digits).map fun n => -(n : Int)
  | '+' :: digits => (readDecimal (Nat.pow 2 63 - 1) .tooLarge 0 digits).map Int.ofNat
  | digits => (readDecimal (Nat.pow 2 63 - 1) .tooLarge 0 digits).map Int.ofNat

def parseCount (s : String) : Except CountError UInt32 :=
  match readSigned s.toList with
  | .error e => .error e
  | .ok v => if 0 ≤ v ∧ v < Nat.pow 2 32 then .ok (UInt32.ofNat v.toNat) else .error (.notACount v)

end EngineHost.CommandLine
