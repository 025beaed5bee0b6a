import EngineHost.Document
import EngineHost.Decimal.Layout

/-!
# JSON numbers

A JSON number without fraction and exponent is an integer when it fits in 64 bits, signed or
unsigned. Every other number is a double. Its value is computed with one rounding from the first
digits, as many as fit in 64 bits, and one more from the power of ten, so it may differ from the
nearest double in the last place.

## Main definitions

- `Json.Number` — the parts of a number's text
- `Json.Number.scan` — the longest number at the start of a text
- `Json.Number.document` — the document that a number stands for
-/

namespace EngineHost.Json

/-- The parts of a number's text. -/
structure Number where
  /-- Whether a minus sign stands in front. -/
  negative : Bool
  /-- The digits before the point. -/
  whole : List Char
  /-- The digits behind the point, if there is one. -/
  fraction : Option (List Char)
  /-- Whether the exponent is negative, and its digits, if there is one. -/
  exponent : Option (Bool × List Char)

namespace Number

def isDigit (c : Char) : Bool := '0' ≤ c && c ≤ '9'

/-- Scans the point and the digits behind it, of which there has to be one at least. -/
def scanFraction : List Char → Option (Option (List Char) × List Char)
  | '.' :: rest =>
    let digits := rest.takeWhile isDigit
    if digits.isEmpty then none else some (some digits, rest.dropWhile isDigit)
  | rest => some (none, rest)

/-- Scans the digits of an exponent, of which there has to be one at least. -/
def scanExponentDigits (negative : Bool) (rest : List Char) :
    Option (Option (Bool × List Char) × List Char) :=
  let digits := rest.takeWhile isDigit
  if digits.isEmpty then none else some (some (negative, digits), rest.dropWhile isDigit)

def scanExponent : List Char → Option (Option (Bool × List Char) × List Char)
  | c :: rest =>
    if c = 'e' || c = 'E' then
      match rest with
      | '+' :: rest => scanExponentDigits false rest
      | '-' :: rest => scanExponentDigits true rest
      | rest => scanExponentDigits false rest
    else some (none, c :: rest)
  | [] => some (none, [])

/-- Scans the number at the start of a text; a leading zero stands alone. -/
def scan (text : List Char) : Option (Number × List Char) :=
  let (negative, text) := match text with
    | '-' :: rest => (true, rest)
    | rest => (false, rest)
  let whole := text.takeWhile isDigit
  match whole with
  | [] => none
  | '0' :: _ :: _ => none
  | whole =>
    match scanFraction (text.dropWhile isDigit) with
    | none => none
    | some (fraction, rest) =>
      match scanExponent rest with
      | none => none
      | some (exponent, rest) => some (⟨negative, whole, fraction, exponent⟩, rest)

def digit (c : Char) : Nat := c.toNat - 0x30

/-- Takes digits into a significand as long as it stays below `2 ^ 64`; gives the significand
and the number of digits that did not go in. -/
def absorb (significand : Nat) : List Char → Nat × Nat
  | [] => (significand, 0)
  | c :: rest =>
    let next := significand * 10 + digit c
    if next < Nat.pow 2 64 then absorb next rest else (significand, rest.length + 1)

/-- Multiplies a double by ten to a power, by way of `10 ^ 308` where the power is too small for
a double; nothing where the result is too large. -/
def scale : Nat → Dyadic → Int → Option Dyadic
  | 0, f, _ => some f
  | fuel + 1, f, e =>
    if e.natAbs ≤ 308 then
      match Dyadic.nearest? (Nat.pow 10 e.natAbs) 1 with
      | none => none
      | some power => if 0 ≤ e then f.mul? power else f.div? power
    else if f.significand = 0 then some f
    else if 0 ≤ e then none
    else
      match Dyadic.nearest? (Nat.pow 10 308) 1 with
      | none => none
      | some power =>
        match f.div? power with
        | none => none
        | some f => scale fuel f (e + 308)

/-- The double with a significand and a power of ten. Three steps take any significand below
`2 ^ 64` to zero. -/
def assemble (significand : Nat) (exponent : Int) : Option Dyadic :=
  match Dyadic.nearest? significand 1 with
  | none => none
  | some f => scale 4 f exponent

/-- The magnitude of the double that a number stands for, unless it is too large. -/
def magnitude? (n : Number) : Option Dyadic :=
  let (significand, dropped) := absorb 0 n.whole
  let (significand, places) := match n.fraction with
    | none => (significand, 0)
    | some digits =>
      let (significand, ignored) := absorb significand digits
      (significand, digits.length - ignored)
  let point : Int := dropped - places
  match n.exponent with
  | none => assemble significand point
  | some (negative, digits) =>
    let e := digits.foldl (fun e c => e * 10 + digit c) 0
    if e < Nat.pow 2 31 then assemble significand (if negative then point - e else point + e)
    else if significand ≠ 0 ∧ !negative then none
    else assemble 0 0

/-- The document that a number stands for: an integer, or a double as diagnostics show it. -/
def document (n : Number) : Document :=
  let double : Document :=
    match n.magnitude? with
    | some f => .fraction (NumberLayout.compact.text (.finite n.negative f))
    | none => .unusable
  match n.fraction, n.exponent with
  | none, none =>
    let magnitude := n.whole.foldl (fun m c => m * 10 + digit c) 0
    if n.negative then
      if 0 < magnitude ∧ magnitude ≤ Nat.pow 2 63 then .integer (-magnitude) else double
    else if magnitude < Nat.pow 2 64 then .integer magnitude
    else double
  | _, _ => double

end Number

end EngineHost.Json
