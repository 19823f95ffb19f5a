/-!
# Integers of 64 bits

Signed integers that take at most 64 bits, made from a sign and a size: there is one more below zero
than above.
-/

namespace RecordFilter.Integer64

/-- Sizes stay below this bound, which only a negative integer may reach. -/
def bound : Nat := 0x8000000000000000

def signed? (negative : Bool) (size : Nat) : Option Int :=
  if size < bound ∨ (negative ∧ size = bound) then
    some (if negative then -(size : Int) else size)
  else none

end RecordFilter.Integer64
