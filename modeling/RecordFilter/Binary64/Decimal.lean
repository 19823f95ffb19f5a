import RecordFilter.Binary64

/-!
# Reading decimals

A positional decimal is an optional minus sign and digits around an optional point, at least one
digit in all. `ofPositional?` reads the number nearest to it; there is no exponent mark, so the
length of the text bounds the size of the arithmetic. `ofScientific?` reads decimals with either
sign and an optional power of ten as well, and decides powers far out of range without computing
them.
-/

namespace RecordFilter

def digitsValue (acc : Nat) (ds : List Char) : Nat :=
  ds.foldl (fun n d => 10 * n + (d.toNat - '0'.toNat)) acc

@[simp] theorem digitsValue_nil (acc : Nat) : digitsValue acc [] = acc := rfl

@[simp] theorem digitsValue_cons (acc : Nat) (d : Char) (ds : List Char) :
    digitsValue acc (d :: ds) = digitsValue (10 * acc + (d.toNat - '0'.toNat)) ds :=
  List.foldl_cons ..

theorem digitsValue_append (acc : Nat) (xs ys : List Char) :
    digitsValue acc (xs ++ ys) = digitsValue (digitsValue acc xs) ys := List.foldl_append

namespace Binary64

/-- Reads digits, a point and more digits; either side may be empty but not both. -/
def ofUnsigned? (negative : Bool) (s : List Char) : Option Binary64 :=
  let whole := s.takeWhile Char.isDigit
  match s.dropWhile Char.isDigit with
  | [] => if whole.isEmpty then none else some (ofDecimal negative (digitsValue 0 whole) 0)
  | '.' :: part =>
    if part.all Char.isDigit && !(whole.isEmpty && part.isEmpty) then
      some (ofDecimal negative (digitsValue 0 (whole ++ part)) (-(part.length : Int)))
    else none
  | _ => none

/-- The number nearest to a positional decimal, if the whole text is one. -/
def ofPositional? : List Char → Option Binary64
  | '-' :: s => ofUnsigned? true s
  | s => ofUnsigned? false s

/-! ## Powers of ten -/

/-- No finite number reaches this power of ten, and nonzero numbers are larger than its inverse. -/
def exponentBound : Nat := 400

def ofDigits (negative : Bool) (ds : List Char) (exponent : Int) : Binary64 :=
  let coefficient := digitsValue 0 ds
  if coefficient = 0 ∨ exponent + ds.length < -exponentBound then { zero with negative }
  else if exponentBound < exponent then ⟨negative, infinity, infinity_lt⟩
  else ofDecimal negative coefficient exponent

/-- A sign, if there is one: whether it is a minus sign, and the text after it. -/
def sign : List Char → Bool × List Char
  | '-' :: s => (true, s)
  | '+' :: s => (false, s)
  | s => (false, s)

def exponentOf? (s : List Char) : Option Int :=
  let (negative, ds) := sign s
  if ds.isEmpty || !ds.all Char.isDigit then none
  else
    let n := digitsValue 0 ds
    some (if negative then -(n : Int) else n)

def isExponentMark (c : Char) : Bool := c == 'e' || c == 'E'

def ofScientific? (s : List Char) : Option Binary64 :=
  let (negative, s) := sign s
  let (mantissa, power) := s.span fun c => !isExponentMark c
  let whole := mantissa.takeWhile Char.isDigit
  let part? := match mantissa.dropWhile Char.isDigit with
    | [] => some []
    | '.' :: part => if part.all Char.isDigit then some part else none
    | _ => none
  let exponent? := if power.isEmpty then some 0 else exponentOf? (power.drop 1)
  match part?, exponent? with
  | some part, some exponent =>
    if whole.isEmpty && part.isEmpty then none
    else some (ofDigits negative (whole ++ part) (exponent - part.length))
  | _, _ => none

end Binary64

end RecordFilter
