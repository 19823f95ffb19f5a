/-!
# Binary floating point numbers

A `Binary64` is a sign and a magnitude, the magnitude being the remaining 63 bits of the usual
64-bit encoding read as one natural number. In this form the magnitudes of the finite numbers are
ordered as their values are, so comparison is a comparison of integers (`key`), and rounding is a
function into the magnitudes (`roundMagnitude`). All arithmetic is exact arithmetic on naturals
followed by one rounding to the nearest number, a half going to the even neighbour.
-/

namespace RecordFilter

/-- A 64-bit floating point number: the sign, and the other 63 bits as a natural number. -/
structure Binary64 where
  negative : Bool
  magnitude : Nat
  magnitude_lt : magnitude < 0x8000000000000000 := by decide
deriving DecidableEq, Repr

namespace Binary64

/-- The value of the bit that holds the sign; magnitudes lie below it. -/
def signBit : Nat := 0x8000000000000000

/-- The number of magnitudes from one power of two to the next. -/
def binade : Nat := 0x10000000000000

/-- The magnitude of the infinities. Finite numbers lie below it, NaNs above. -/
def infinity : Nat := 0x7FF * binade

theorem infinity_lt : infinity < signBit := by decide

def isNaN (x : Binary64) : Bool := decide (infinity < x.magnitude)

def isFinite (x : Binary64) : Bool := decide (x.magnitude < infinity)

def zero : Binary64 := ⟨false, 0, by decide⟩

def nan : Binary64 := ⟨false, infinity + binade / 2, by decide⟩

instance : Inhabited Binary64 := ⟨zero⟩

/-- The number with the given 64 bits (higher bits are ignored). -/
def ofBits (bits : Nat) : Binary64 :=
  ⟨decide (bits / signBit % 2 = 1), bits % signBit, Nat.mod_lt _ (by decide)⟩

def toBits (x : Binary64) : Nat := (if x.negative then signBit else 0) + x.magnitude

theorem ofBits_toBits (x : Binary64) : ofBits x.toBits = x := by
  obtain ⟨s, m, h⟩ := x
  cases s <;> simp only [toBits, ofBits, signBit, Bool.false_eq_true, ↓reduceIte] <;> congr 1 <;>
    first | omega | (simp only [decide_eq_true_eq, decide_eq_false_iff_not]; omega)

/-! ## Order -/

/-- Finite and infinite numbers compare as their keys do; the two zeros share one. -/
def key (x : Binary64) : Int := if x.negative then -(x.magnitude : Int) else x.magnitude

def compare? (x y : Binary64) : Option Ordering :=
  if x.isNaN || y.isNaN then none else some (compare x.key y.key)

/-- Equality of values: a NaN equals nothing, and the two zeros are equal. -/
def sameValue (x y : Binary64) : Bool := !x.isNaN && !y.isNaN && x.key == y.key

/-! ## Values and rounding -/

/-- How many units of 2⁻¹⁰⁷⁴ make one. -/
def unitsPerOne : Nat := Nat.pow 2 1074

/-- The value of a finite magnitude, in units of 2⁻¹⁰⁷⁴. -/
def units (magnitude : Nat) : Nat :=
  if magnitude < binade then magnitude
  else (binade + magnitude % binade) * Nat.pow 2 (magnitude / binade - 1)

/-- The quotient to the nearest natural number, a half going to the even neighbour. -/
def divRound (num den : Nat) : Nat :=
  let q := num / den
  let r := num % den
  if den < 2 * r ∨ (2 * r = den ∧ q % 2 = 1) then q + 1 else q

/-- The magnitude nearest to `num / den`. A quotient of more than 53 bits in units of 2⁻¹⁰⁷⁴
loses the excess; values past the largest finite number become infinite. -/
def roundMagnitude (num den : Nat) : Nat :=
  let scaled := num * unitsPerOne
  let excess := Nat.log2 (scaled / den) - 52
  min infinity (excess * binade + divRound scaled (den * Nat.pow 2 excess))

theorem roundMagnitude_lt (num den : Nat) : roundMagnitude num den < signBit :=
  Nat.lt_of_le_of_lt (Nat.min_le_left ..) infinity_lt

def ofRatio (negative : Bool) (num den : Nat) : Binary64 :=
  ⟨negative, roundMagnitude num den, roundMagnitude_lt num den⟩

def ofInt (n : Int) : Binary64 := ofRatio (decide (n < 0)) n.natAbs 1

def ofDecimal (negative : Bool) (coefficient : Nat) (exponent : Int) : Binary64 :=
  ofRatio negative (coefficient * Nat.pow 10 exponent.toNat) (Nat.pow 10 (-exponent).toNat)

def mulMagnitude (a b : Nat) : Nat :=
  roundMagnitude (units a * units b) (unitsPerOne * unitsPerOne)

def divMagnitude (a b : Nat) : Nat := roundMagnitude (units a) (units b)

end Binary64

end RecordFilter
