import RecordFilter.Json
import RecordFilter.Binary64.Decimal
import RecordFilter.Integer64

/-!
# JSON numbers from their digits

A number text without fraction or exponent is an integer when it fits 64 bits. Any other number is
scaled from its leading digits: digits are taken into a significand while it fits 64 bits and those
after are dropped, the significand is rounded to a floating point number, and that is multiplied or
divided by the number nearest to a power of ten. So a long fraction can differ from the nearest
number in its last place. A value beyond the largest finite number is refused.
-/

namespace RecordFilter.Json.Number

def significandBound : Nat := 0x10000000000000000

/-- Takes digits while the significand stays in bounds, and gives the digits left over. -/
def absorb (significand : Nat) : List Char → Nat × List Char
  | [] => (significand, [])
  | d :: ds =>
    let next := 10 * significand + (d.toNat - '0'.toNat)
    if next < significandBound then absorb next ds else (significand, d :: ds)

def tenPower (k : Nat) : Nat := Binary64.roundMagnitude (Nat.pow 10 k) 1

/-- The largest exponent of a power of ten that is a finite number. -/
def maxTenPower : Nat := 308

def scaleUp? (magnitude : Nat) (k : Nat) : Option Nat :=
  if k ≤ maxTenPower then
    let m := Binary64.mulMagnitude magnitude (tenPower k)
    if m < Binary64.infinity then some m else none
  else if magnitude = 0 then some 0
  else none

/-- Divides by powers of ten no larger than the largest one. -/
def scaleDown (magnitude : Nat) (k : Nat) : Nat :=
  if k ≤ maxTenPower then Binary64.divMagnitude magnitude (tenPower k)
  else if magnitude = 0 then 0
  else scaleDown (Binary64.divMagnitude magnitude (tenPower maxTenPower)) (k - maxTenPower)
termination_by k
decreasing_by simp only [maxTenPower] at *; omega

/-- The number `significand * 10 ^ exponent`, or none if it is too large. -/
def scaled? (negative : Bool) (significand : Nat) (exponent : Int) : Option Number :=
  let start := Binary64.roundMagnitude significand 1
  let magnitude? :=
    if 0 ≤ exponent then scaleUp? start exponent.toNat else some (scaleDown start (-exponent).toNat)
  magnitude?.bind fun m =>
    if h : m < Binary64.signBit then some (.float ⟨negative, m, h⟩) else none

/-- An integer if it fits, and the floating point number otherwise; minus zero is the latter. -/
def ofSignificand (negative : Bool) (significand : Nat) : Number :=
  if !negative then .integer significand
  else if 1 ≤ significand ∧ significand ≤ Integer64.bound then .integer (-(significand : Int))
  else .float { Binary64.ofInt significand with negative := true }

structure Exponent where
  negative : Bool
  digits : List Char

/-- Exponents past this bound give zero or are refused without scaling. -/
def exponentBound : Nat := 0x80000000

def ofParts? (negative : Bool) (whole : List Char) (fraction : Option (List Char))
    (exponent : Option Exponent) : Option Number :=
  let (lead, dropped) := absorb 0 whole
  if dropped.isEmpty && fraction.isNone && exponent.isNone then some (ofSignificand negative lead)
  else
    let part := fraction.getD []
    let (significand, unread) := absorb lead part
    let start : Int := (dropped.length : Int) - (part.length - unread.length : Nat)
    match exponent with
    | none => scaled? negative significand start
    | some e =>
      let n := digitsValue 0 e.digits
      if n < exponentBound then
        scaled? negative significand (if e.negative then start - n else start + n)
      else if significand ≠ 0 && !e.negative then none
      else some (.float { Binary64.zero with negative := negative })

end RecordFilter.Json.Number
