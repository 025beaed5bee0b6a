import EngineHost.Decimal.Shortest

/-!
# Layouts of fractional numbers

How a double is written out: its shortest decimal, either positionally with at least one place
behind the point or with an exponent.

## Main definitions

- `Double` — signed doubles, with infinities and the value that is no number
- `NumberLayout` — the decisions in which layouts differ
- `NumberLayout.text` — the text of a double
-/

namespace EngineHost

inductive Double where
  | finite (negative : Bool) (magnitude : Dyadic)
  | infinite (negative : Bool)
  | notANumber
deriving DecidableEq, Repr

/-- The decisions in which layouts differ. -/
structure NumberLayout where
  /-- Whether a number is written positionally, from the position of its decimal point: the
  number is below `10 ^ p` and not below `10 ^ (p - 1)`. -/
  positional : Int → Bool
  /-- Which of two shortest decimals equally near to a number stands for it. -/
  tie : Tie

namespace NumberLayout

/-- Every number is positional, and of two decimals the larger one stands for it. -/
def plain : NumberLayout := ⟨fun _ => true, .upward⟩

/-- Numbers from a hundred-thousandth up to ten quadrillions are positional, and of two decimals
the even one stands for them. -/
def compact : NumberLayout := ⟨fun p => -5 < p && p ≤ 16, .toEven⟩

/-- A positional decimal, with a point and a digit behind it in every case. -/
def positionalText (digits : String) (exponent point : Int) : String :=
  if 0 ≤ exponent then digits ++ "".pushn '0' exponent.toNat ++ ".0"
  else if 0 < point then
    String.ofList (digits.toList.take point.toNat) ++ "." ++
      String.ofList (digits.toList.drop point.toNat)
  else "0." ++ "".pushn '0' (-point).toNat ++ digits

/-- One digit, the others behind a point, and the exponent with its sign. -/
def exponentText (digits : String) (point : Int) : String :=
  let mantissa := match digits.toList with
    | c :: d :: rest => String.ofList (c :: '.' :: d :: rest)
    | _ => digits
  mantissa ++ (if 0 < point then "e+" else "e") ++ toString (point - 1)

def decimalText (layout : NumberLayout) (d : Decimal) : String :=
  let digits := toString d.digits
  let point := digits.length + d.exponent
  if layout.positional point then positionalText digits d.exponent point
  else exponentText digits point

def text (layout : NumberLayout) : Double → String
  | .finite negative magnitude =>
    (if negative then "-" else "") ++
      if magnitude.significand = 0 then "0.0" else layout.decimalText (magnitude.shortest layout.tie)
  | .infinite negative => if negative then "-inf" else "inf"
  | .notANumber => "NaN"

end NumberLayout

end EngineHost
