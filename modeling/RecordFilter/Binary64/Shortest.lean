import RecordFilter.Binary64

/-!
# Shortest digits

The shortest digits of a finite number are the fewest significant digits that read back as that
number and, among those, the nearest ones. For each count of digits the two neighbours of the value
on that decimal grid are tried; a grid with a point that reads back has one of the two as such a
point. The exact expansion is a fallback that reads back whatever the search finds.
-/

namespace RecordFilter

/-- Which of two equally near decimals is taken. -/
inductive Tie where
  /-- the one whose last digit is even -/
  | even
  /-- the one further from zero -/
  | away
deriving DecidableEq, Repr

/-- The number `coefficient * 10 ^ exponent`. -/
structure Decimal where
  coefficient : Nat
  exponent : Int
deriving DecidableEq, Repr

namespace Decimal

def magnitude (d : Decimal) : Nat :=
  (Binary64.ofDecimal false d.coefficient d.exponent).magnitude

/-- The significant digits, without the zeros at the end. -/
def digits (d : Decimal) : List Char :=
  ((Nat.toDigits 10 d.coefficient).reverse.dropWhile (· == '0')).reverse

/-- The place of the decimal point: the value is `0.digits * 10 ^ point`. -/
def point (d : Decimal) : Int := d.exponent + (Nat.toDigits 10 d.coefficient).length

/-- The whole part of a division, and the remainder and divisor that say how far it is off. -/
structure Floor where
  low : Nat
  rest : Nat
  den : Nat
deriving DecidableEq, Repr

def floor (magnitude : Nat) (exponent : Int) : Floor :=
  let num := Binary64.units magnitude * Nat.pow 10 (-exponent).toNat
  let den := Binary64.unitsPerOne * Nat.pow 10 exponent.toNat
  ⟨num / den, num % den, den⟩

/-- Whether the next decimal is taken if both read back. -/
def Floor.prefersAbove (tie : Tie) (f : Floor) : Bool :=
  decide (f.den < 2 * f.rest) ||
    (decide (2 * f.rest = f.den) && (tie == .away || decide (f.low % 2 = 1)))

/-- The one of two decimals that reads back as the magnitude; if both do, the preferred one. -/
def choose? (magnitude : Nat) (preferAbove : Bool) (below above : Decimal) : Option Decimal :=
  if below.magnitude = magnitude then
    some (if preferAbove ∧ above.magnitude = magnitude then above else below)
  else if above.magnitude = magnitude then some above
  else none

def onGrid? (tie : Tie) (magnitude : Nat) (exponent : Int) : Option Decimal :=
  let f := floor magnitude exponent
  choose? magnitude (f.prefersAbove tie) ⟨f.low, exponent⟩ ⟨f.low + 1, exponent⟩

def exact (magnitude : Nat) : Decimal := ⟨Binary64.units magnitude * Nat.pow 5 1074, -1074⟩

/-- The least `p` with the value of the (nonzero) magnitude below `10 ^ p`. -/
def leadingPoint (magnitude : Nat) : Int :=
  (Nat.toDigits 10 (floor magnitude (-400)).low).length - 400

/-- The decimal on the coarsest grid that has one. Grids get finer by one digit, from the one of
step `10 ^ exponent` on. -/
def coarsest (onGrid? : Int → Option Decimal) (fallback : Decimal) (exponent : Int) :
    (grids : Nat) → Decimal
  | 0 => fallback
  | grids + 1 =>
    match onGrid? exponent with
    | some d => d
    | none => coarsest onGrid? fallback (exponent - 1) grids

/-- The decimal with the fewest digits that reads back as the magnitude; 17 digits are enough. -/
def shortest (tie : Tie) (magnitude : Nat) : Decimal :=
  coarsest (onGrid? tie magnitude) (exact magnitude) (leadingPoint magnitude - 1) 17

end Decimal

end RecordFilter
