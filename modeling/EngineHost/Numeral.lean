import EngineHost.Text.Blank

/-!
# Numerals

The texts of integers that options take: white space around them, one optional sign, and then
digits whose radix shows in how they begin. `0x` or `0X` starts hexadecimal digits, a `0` with
more behind it starts octal digits, and everything else is decimal. A numeral denotes an integer
of any size; readers then accept those in a range.

## Main definitions

- `Numeral.magnitude?` — the number that unsigned digits denote
- `Numeral.denotation?` — the integer that a text denotes, if it is a numeral
- `Numeral.read` — the denotation, when its magnitude is at most `Numeral.largest`
-/

namespace EngineHost.Numeral

/-- Why a text is refused as a number. -/
inductive Error where
  | malformed
  /-- It is a numeral, of a number that is too large. -/
  | outOfRange
deriving DecidableEq, Repr

/-- The value of an ASCII digit or letter, where letters of either case follow nine. -/
def digitValue? (c : Char) : Option Nat :=
  let n := c.toNat
  if 0x30 ≤ n ∧ n ≤ 0x39 then some (n - 0x30)
  else if 0x41 ≤ n ∧ n ≤ 0x5a then some (n - 0x37)
  else if 0x61 ≤ n ∧ n ≤ 0x7a then some (n - 0x57)
  else none

/-- Reads on behind digits that denote `acc`. -/
def digitsFrom? (radix : Nat) (acc : Nat) : List Char → Option Nat
  | [] => some acc
  | c :: rest =>
    match digitValue? c with
    | some d => if d < radix then digitsFrom? radix (acc * radix + d) rest else none
    | none => none

/-- The number that a non-empty list of digits denotes. -/
def digits? (radix : Nat) : List Char → Option Nat
  | [] => none
  | cs => digitsFrom? radix 0 cs

/-- The number that unsigned digits denote, in the radix that their beginning shows. -/
def magnitude? : List Char → Option Nat
  | '0' :: 'x' :: rest => digits? 16 rest
  | '0' :: 'X' :: rest => digits? 16 rest
  | '0' :: c :: rest => digits? 8 (c :: rest)
  | cs => digits? 10 cs

/-- Whether a minus sign stands in front, and the text behind the sign. -/
def unsigned : List Char → Bool × List Char
  | '-' :: rest => (true, rest)
  | '+' :: rest => (false, rest)
  | cs => (false, cs)

/-- The sign and the magnitude of a numeral. -/
def signedMagnitude? (s : String) : Option (Bool × Nat) :=
  let (negative, cs) := unsigned (Text.trimmed s.toList)
  (magnitude? cs).map fun m => (negative, m)

/-- The integer with the given sign and magnitude. -/
def ofSigned (negative : Bool) (magnitude : Nat) : Int :=
  if negative then -(magnitude : Int) else magnitude

/-- The integer that a text denotes, if it is a numeral. -/
def denotation? (s : String) : Option Int :=
  (signedMagnitude? s).map fun p => ofSigned p.1 p.2

/-- The largest magnitude that is read, whatever the sign. -/
def largest : Nat := Nat.pow 2 127 - 1

/-- Reads a numeral whose magnitude is at most `largest`. -/
def read (s : String) : Except Error Int :=
  match signedMagnitude? s with
  | none => .error .malformed
  | some (negative, m) => if m ≤ largest then .ok (ofSigned negative m) else .error .outOfRange

end EngineHost.Numeral
