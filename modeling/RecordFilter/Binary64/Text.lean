import RecordFilter.Binary64.Shortest

/-!
# Number texts

Both texts of a number show its shortest digits. The plain text has no exponent at any size and no
fraction for a whole number; the JSON text always has a fraction or an exponent, and leaves the
plain layout below `10 ^ -5` and from `10 ^ 16` on.
-/

namespace RecordFilter.Binary64

def zeros (n : Nat) : List Char := List.replicate n '0'

/-- Digits with the decimal point at `point`, zeros filling the gap on either side. -/
def positional (digits : List Char) (point : Int) : List Char :=
  if point ≤ 0 then '0' :: '.' :: zeros (-point).toNat ++ digits
  else
    let n := point.toNat
    if digits.length ≤ n then digits ++ zeros (n - digits.length)
    else digits.take n ++ '.' :: digits.drop n

def signed (negative : Bool) (text : List Char) : List Char :=
  if negative then '-' :: text else text

/-- The shortest decimal that reads back, never with an exponent. -/
def plainChars (x : Binary64) : List Char :=
  if x.isNaN then "NaN".toList
  else signed x.negative <|
    if x.magnitude = infinity then "inf".toList
    else if x.magnitude = 0 then ['0']
    else
      let d := Decimal.shortest .away x.magnitude
      positional d.digits d.point

def plainText (x : Binary64) : String := String.ofList x.plainChars

/-- The first digit, a point if more follow, and the decimal exponent with its sign. -/
def scientific (digits : List Char) (point : Int) : List Char :=
  let fraction := digits.drop 1
  digits.take 1 ++ (if fraction.isEmpty then [] else '.' :: fraction) ++
    'e' :: (if point ≤ 0 then '-' else '+') :: Nat.toDigits 10 (point - 1).natAbs

/-- The JSON text of a finite number; other numbers have none and are written as null. -/
def jsonText (x : Binary64) : String := String.ofList <|
  if !x.isFinite then "null".toList
  else signed x.negative <|
    if x.magnitude = 0 then "0.0".toList
    else
      let d := Decimal.shortest .even x.magnitude
      if -4 ≤ d.point && d.point ≤ 16 then
        positional d.digits d.point ++
          (if 0 < d.point && d.digits.length ≤ d.point.toNat then ".0".toList else [])
      else scientific d.digits d.point

end RecordFilter.Binary64
