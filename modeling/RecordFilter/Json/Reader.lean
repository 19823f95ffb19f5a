import RecordFilter.Hexadecimal
import RecordFilter.Json.Number

/-!
# Reading JSON texts

A strict reader: one value with spaces around it, no comments, no trailing commas, no control
characters inside strings, no lone surrogate escapes, and at most `maxDepth` containers inside one
another. `Json.read?` is recursive on the levels still allowed; the items of one container are read
by `delimited`, in which an item that takes nothing ends the reading.
-/

namespace RecordFilter.Json

def isSpace (c : Char) : Bool := c == ' ' || c == '\t' || c == '\n' || c == '\r'

def skipSpace (s : List Char) : List Char := s.dropWhile isSpace

abbrev Reader (α : Type) := List Char → Option (α × List Char)

def codeUnit? : Reader Nat
  | a :: b :: c :: d :: s => do
    let a ← hexDigit? a
    let b ← hexDigit? b
    let c ← hexDigit? c
    let d ← hexDigit? d
    some (((a * 16 + b) * 16 + c) * 16 + d, s)
  | _ => none

def escaped? : Reader Char
  | '"' :: s => some ('"', s)
  | '\\' :: s => some ('\\', s)
  | '/' :: s => some ('/', s)
  | 'b' :: s => some ('\x08', s)
  | 'f' :: s => some ('\x0c', s)
  | 'n' :: s => some ('\n', s)
  | 'r' :: s => some ('\r', s)
  | 't' :: s => some ('\t', s)
  | 'u' :: s =>
    match codeUnit? s with
    | none => none
    | some (high, s) =>
      if 0xD800 ≤ high ∧ high ≤ 0xDBFF then
        match s with
        | '\\' :: 'u' :: s =>
          match codeUnit? s with
          | some (low, s) =>
            if 0xDC00 ≤ low ∧ low ≤ 0xDFFF then
              some (Char.ofNat (0x10000 + (high - 0xD800) * 0x400 + (low - 0xDC00)), s)
            else none
          | none => none
        | _ => none
      else if 0xDC00 ≤ high ∧ high ≤ 0xDFFF then none
      else some (Char.ofNat high, s)
  | _ => none

theorem codeUnit?_length_lt {s r : List Char} {n : Nat} (h : codeUnit? s = some (n, r)) :
    r.length < s.length := by
  unfold codeUnit? at h
  split at h
  · simp only [Option.bind_eq_bind, Option.bind_eq_some_iff, Option.some.injEq, Prod.mk.injEq] at h
    obtain ⟨_, _, _, _, _, _, _, _, _, rfl⟩ := h
    simp only [List.length_cons]; omega
  · cases h

theorem escaped?_length_lt {s r : List Char} {c : Char} (h : escaped? s = some (c, r)) :
    r.length < s.length := by
  unfold escaped? at h
  have := @codeUnit?_length_lt
  grind

/-- The characters of a string up to its closing quote; `acc` holds those read, last one first. -/
def stringBody? (acc : List Char) (s : List Char) : Option (String × List Char) :=
  match s with
  | [] => none
  | '"' :: rest => some (String.ofList acc.reverse, rest)
  | '\\' :: rest =>
    match _h : escaped? rest with
    | some (c, rest') => stringBody? (c :: acc) rest'
    | none => none
  | c :: rest => if c.toNat < 0x20 then none else stringBody? (c :: acc) rest
termination_by s.length
decreasing_by
  · have := escaped?_length_lt _h
    simp only [List.length_cons]; omega
  · simp only [List.length_cons]; omega

def digits (s : List Char) : List Char × List Char := s.span Char.isDigit

/-- The digits after a point, if there is one; there must be some then. -/
def fraction? : Reader (Option (List Char))
  | '.' :: s =>
    let (ds, s) := digits s
    if ds.isEmpty then none else some (some ds, s)
  | s => some (none, s)

def exponentDigits? (negative : Bool) (s : List Char) :
    Option (Option Number.Exponent × List Char) :=
  let (ds, s) := digits s
  if ds.isEmpty then none else some (some ⟨negative, ds⟩, s)

def exponent? : Reader (Option Number.Exponent)
  | c :: s =>
    if c == 'e' || c == 'E' then
      match s with
      | '+' :: s => exponentDigits? false s
      | '-' :: s => exponentDigits? true s
      | s => exponentDigits? false s
    else some (none, c :: s)
  | [] => some (none, [])

/-- A number after its sign: no leading zeros. -/
def unsigned? (negative : Bool) (s : List Char) : Option (Json × List Char) := do
  let (whole, s) := digits s
  if whole.isEmpty || (whole.head? == some '0' && whole.length != 1) then none
  else
    let (fraction, s) ← fraction? s
    let (exponent, s) ← exponent? s
    let n ← Number.ofParts? negative whole fraction exponent
    some (number n, s)

/-- The items of a container, each followed by a comma or by the closing bracket. -/
def delimited (item : Reader α) (close : Char) (acc : List α) (s : List Char) :
    Option (List α × List Char) :=
  match item s with
  | none => none
  | some (a, rest) =>
    match skipSpace rest with
    | [] => none
    | c :: rest' =>
      if c = close then some ((a :: acc).reverse, rest')
      else if c = ',' ∧ rest'.length < s.length then delimited item close (a :: acc) rest'
      else none
termination_by s.length

def contents (item : Reader α) (close : Char) (s : List Char) : Option (List α × List Char) :=
  match skipSpace s with
  | [] => none
  | c :: rest => if c = close then some ([], rest) else delimited item close [] (c :: rest)

def member? (value : Reader Json) : Reader (String × Json) := fun s =>
  match skipSpace s with
  | '"' :: s =>
    match stringBody? [] s with
    | some (name, s) =>
      match skipSpace s with
      | ':' :: s => (value s).map fun (v, s) => ((name, v), s)
      | _ => none
    | none => none
  | _ => none

/-- A value with at most `levels` containers inside one another. -/
def value? : (levels : Nat) → Reader Json
  | levels, s =>
    match skipSpace s with
    | '"' :: s => (stringBody? [] s).map fun (t, s) => (string t, s)
    | '[' :: s =>
      match levels with
      | 0 => none
      | levels + 1 => (contents (value? levels) ']' s).map fun (items, s) => (array items, s)
    | '\x7b' :: s =>
      match levels with
      | 0 => none
      | levels + 1 => (contents (member? (value? levels)) '\x7d' s).map fun (members, s) =>
          (object (Entries.ofList members), s)
    | 't' :: 'r' :: 'u' :: 'e' :: s => some (bool true, s)
    | 'f' :: 'a' :: 'l' :: 's' :: 'e' :: s => some (bool false, s)
    | 'n' :: 'u' :: 'l' :: 'l' :: s => some (null, s)
    | '-' :: s => unsigned? true s
    | s => unsigned? false s

def maxDepth : Nat := 127

def read? (text : String) : Option Json :=
  match value? maxDepth text.toList with
  | some (v, rest) => if (skipSpace rest).isEmpty then some v else none
  | none => none

end RecordFilter.Json
