/-!
# Hexadecimal digits

Digits above nine may be written with letters of either case. A character can be given by its number
in such digits.
-/

namespace RecordFilter

def hexDigit? (c : Char) : Option Nat :=
  if c.isDigit then some (c.toNat - '0'.toNat)
  else if 'a' ≤ c ∧ c ≤ 'f' then some (c.toNat - 'a'.toNat + 10)
  else if 'A' ≤ c ∧ c ≤ 'F' then some (c.toNat - 'A'.toNat + 10)
  else none

def hexValue? (ds : List Char) : Option Nat :=
  (ds.mapM hexDigit?).map fun values => values.foldl (fun n d => 16 * n + d) 0

def character? (n : Nat) : Option Char := if n.isValidChar then some (Char.ofNat n) else none

/-- The character given by exactly `count` digits at the front of a text. -/
def hexCharacter? (count : Nat) (s : List Char) : Option Char :=
  if s.length < count then none else (hexValue? (s.take count)).bind character?

end RecordFilter
