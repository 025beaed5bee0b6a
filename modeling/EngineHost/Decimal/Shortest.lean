/-!
# Doubles and their shortest decimals

The doubles as exact numbers. A ratio is rounded to the nearest double, and a double has a
shortest decimal: among the decimals that it is the nearest double to, those with the fewest
digits are the shortest, and of these the one nearest to the double is taken. The search runs
over the grids of multiples of a power of ten, coarsest first, and on each grid looks only at the
two neighbours of the double, in exact arithmetic.

## Main definitions

- `Dyadic` — the magnitude of a finite double, as an integer times a power of two
- `Dyadic.nearest?` — the double that is nearest to a ratio
- `Decimal` — an integer times a power of ten
- `Tie` — which of two equally near decimals is taken
- `Dyadic.shortest` — the shortest decimal of a double
-/

namespace EngineHost

/-- The number `significand * 2 ^ exponent`. A double has a significand below `2 ^ 53` and an
exponent from `-1074` to `971`, and of several such forms the one with the smallest exponent. -/
structure Dyadic where
  significand : Nat
  exponent : Int
deriving DecidableEq, Repr

/-- The number `digits * 10 ^ exponent`. -/
structure Decimal where
  digits : Nat
  exponent : Int
deriving DecidableEq, Repr

/-- Which of two neighbouring decimals is taken for a number half-way between them. -/
inductive Tie where
  /-- The one with the even last digit. -/
  | toEven
  /-- The larger one. -/
  | upward
deriving DecidableEq, Repr

/-- Whether the lower of two equally near neighbours is taken, from its digits. -/
def Tie.takesLower (tie : Tie) (lower : Nat) : Bool :=
  match tie with
  | .toEven => lower % 2 == 0
  | .upward => false

namespace Dyadic

/-- The integer nearest to a ratio; a ratio half-way between two goes to the even one. -/
def roundHalfEven (num den : Nat) : Nat :=
  let quotient := num / den
  let twice := 2 * (num % den)
  if twice < den ∨ (twice = den ∧ quotient % 2 = 0) then quotient else quotient + 1

/-- The double that is nearest to `num / den`, unless that ratio is too large for a double. -/
def nearest? (num den : Nat) : Option Dyadic :=
  let scaledNum (q : Int) : Nat := num * Nat.pow 2 (-q).toNat
  let scaledDen (q : Int) : Nat := den * Nat.pow 2 q.toNat
  let guess : Int := (num.log2 : Int) - den.log2 - 53
  let fitted := if scaledNum guess / scaledDen guess < Nat.pow 2 53 then guess else guess + 1
  let q := max fitted (-1074)
  let m := roundHalfEven (scaledNum q) (scaledDen q)
  let rounded : Dyadic := if m = Nat.pow 2 53 then ⟨Nat.pow 2 52, q + 1⟩ else ⟨m, q⟩
  if num = 0 then some ⟨0, -1074⟩ else if 971 < rounded.exponent then none else some rounded

def num (d : Dyadic) : Nat := d.significand * Nat.pow 2 d.exponent.toNat

def den (d : Dyadic) : Nat := Nat.pow 2 (-d.exponent).toNat

/-- The product of two doubles, rounded. -/
def mul? (a b : Dyadic) : Option Dyadic := nearest? (a.num * b.num) (a.den * b.den)

/-- The quotient of two doubles, rounded; the divisor is not zero. -/
def div? (a b : Dyadic) : Option Dyadic := nearest? (a.num * b.den) (a.den * b.num)

/-- Whether the next smaller double is only half as far away as the next larger one. -/
def closeBelow (d : Dyadic) : Bool := d.significand == Nat.pow 2 52 && decide (-1074 < d.exponent)

/-- The largest `e` for which `10 ^ e` is not above a positive number. -/
def decimalExponent (d : Dyadic) : Int :=
  (Nat.toDigits 10 (d.num * Nat.pow 10 400 / d.den)).length - 401

/-- The better of the two multiples of `10 ^ e` around a number, among those that are read back
as the number. An end of the range that is read back belongs to it when the significand is
even. -/
def neighbour? (tie : Tie) (d : Dyadic) (e : Int) : Option Decimal :=
  let quarters := d.exponent - 2
  let measure (n : Nat) : Nat := n * Nat.pow 2 quarters.toNat * Nat.pow 10 (-e).toNat
  let unit := Nat.pow 10 e.toNat * Nat.pow 2 (-quarters).toNat
  let value := measure (4 * d.significand)
  let low := measure (4 * d.significand - if d.closeBelow then 1 else 2)
  let high := measure (4 * d.significand + 2)
  let readsBack (p : Nat) : Bool :=
    if d.significand % 2 = 0 then low ≤ p * unit && p * unit ≤ high
    else low < p * unit && p * unit < high
  let below := value / unit
  let above := below + 1
  let preferBelow : Bool :=
    let down := value - below * unit
    let up := above * unit - value
    down < up || (down == up && tie.takesLower below)
  match readsBack below, readsBack above with
  | true, true => some ⟨if preferBelow then below else above, e⟩
  | true, false => some ⟨below, e⟩
  | false, true => some ⟨above, e⟩
  | false, false => none

end Dyadic

/-- Takes trailing zeros off the digits, at most `fuel` of them. -/
def Decimal.stripped : Nat → Decimal → Decimal
  | fuel + 1, ⟨digits, e⟩ =>
    if digits ≠ 0 ∧ digits % 10 = 0 then stripped fuel ⟨digits / 10, e + 1⟩ else ⟨digits, e⟩
  | 0, d => d

/-- The shortest decimal that is read back as a positive number; seventeen digits always
suffice. -/
def Dyadic.shortest (tie : Tie) (d : Dyadic) : Decimal :=
  let top := d.decimalExponent
  ((List.range 17).findSome? fun (i : Nat) => d.neighbour? tie (top - i)).elim ⟨0, 0⟩
    (Decimal.stripped 17)

/-- The double nearest to a decimal, unless the decimal is too large for a double. A decimal far
outside the range of the doubles is decided by its number of digits alone. -/
def Dyadic.ofDecimal? (d : Decimal) : Option Dyadic :=
  let point := (Nat.toDigits 10 d.digits).length + d.exponent
  if d.digits = 0 ∨ point < -400 then some ⟨0, -1074⟩
  else if 400 < point then none
  else nearest? (d.digits * Nat.pow 10 d.exponent.toNat) (Nat.pow 10 (-d.exponent).toNat)

end EngineHost
