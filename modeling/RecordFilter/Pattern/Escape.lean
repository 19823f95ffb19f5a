import RecordFilter.Hexadecimal
import RecordFilter.Pattern.Written
import RecordFilter.Pattern.Cursor

/-!
# Escapes in patterns

What may follow a backslash: a character that is then literal, a character by its number, a class,
or an anchor. Back references and unknown letters are refused.
-/

namespace RecordFilter.Written

/-- The characters with a meaning of their own somewhere in a pattern. -/
def isMeta (c : Char) : Bool := "\\.+*?()|[]\x7b\x7d^$#&-~".toList.contains c

/-- ASCII characters that stand for themselves after a backslash. -/
def isEscapable (c : Char) : Bool :=
  isMeta c || (c.toNat < 0x80 && !c.isAlphanum && c != '<' && c != '>')

def fixedHex? (x : Bool) : (count acc : Nat) → List Char → Option (Nat × List Char)
  | 0, acc, s => some (acc, s)
  | _ + 1, _, [] => none
  | count + 1, acc, c :: s => do
    let d ← hexDigit? c
    fixedHex? x count (16 * acc + d) (skip x s)

def braced? (x : Bool) (acc : List Char) (s : List Char) : Option (List Char × List Char) :=
  match _h : skip x s with
  | [] => none
  | c :: rest => if c = '\x7d' then some (acc.reverse, rest) else braced? x (c :: acc) rest
termination_by s.length
decreasing_by
  have := skip_length_le x s
  rw [_h, List.length_cons] at this; omega

/-- A character by its number, after the letter that says how many digits there are. -/
def numbered? (count : Nat) : Reader Literal := fun x s =>
  match skip x s with
  | '\x7b' :: rest => do
    let (ds, rest) ← braced? x [] rest
    if ds.isEmpty then none
    let n ← hexValue? ds
    let c ← character? n
    some (⟨c, false⟩, skip x rest)
  | s => do
    let (n, rest) ← fixedHex? x count 0 s
    let c ← character? n
    some (⟨c, count == 2⟩, rest)

def cut? (mark : List Char) : List Char → Option (List Char × List Char)
  | [] => none
  | c :: s =>
    if mark.isPrefixOf (c :: s) then some ([], (c :: s).drop mark.length)
    else (cut? mark s).map fun (before, after) => (c :: before, after)

def propertyClass (negated : Bool) (name : List Char) : NamedClass :=
  match cut? ['!', '='] name with
  | some (property, value) => ⟨.property (.valued property value), !negated⟩
  | none =>
    match (cut? [':'] name).orElse fun _ => cut? ['='] name with
    | some (property, value) => ⟨.property (.valued property value), negated⟩
    | none => ⟨.property (.named name), negated⟩

def property? (negated : Bool) : Reader NamedClass := fun x s =>
  match skip x s with
  | [] => none
  | '\x7b' :: rest => (braced? x [] rest).map fun (name, rest) => (propertyClass negated name, rest)
  | '\\' :: _ => none
  | c :: rest => some (⟨.property (.named [c]), negated⟩, skip x rest)

def isEdgeNameChar (c : Char) : Bool := c.isAlpha || c == '-'

def edgeName (x : Bool) (acc : List Char) (s : List Char) : List Char × List Char :=
  match s with
  | [] => (acc.reverse, [])
  | c :: rest =>
    if isEdgeNameChar c then edgeName x (c :: acc) (skip x rest) else (acc.reverse, c :: rest)
termination_by s.length
decreasing_by
  have := skip_length_le x rest
  simp only [List.length_cons]; omega

/-- The kind of word edge in braces. Braces that start with neither letter nor hyphen are left to
be read as a repetition. -/
def wordEdge? : Reader WordEdge := fun x s =>
  match s with
  | '\x7b' :: rest =>
    match skip x rest with
    | [] => none
    | c :: rest' =>
      if !isEdgeNameChar c then some (.either, s)
      else
        match edgeName x [] (c :: rest') with
        | (name, '\x7d' :: rest) =>
          match String.ofList name with
          | "start" => some (.start, rest)
          | "end" => some (.stop, rest)
          | "start-half" => some (.startHalf, rest)
          | "end-half" => some (.stopHalf, rest)
          | _ => none
        | _ => none
  | s => some (.either, s)

def shortClass (kind : ShortClass) (negated : Bool) : Written := .named ⟨.short kind, negated⟩

def escape? : Reader Written := fun x s =>
  match s with
  | [] => none
  | c :: rest =>
    let literal (d : Char) := some (Written.literal ⟨d, false⟩, rest)
    let number (count : Nat) := (numbered? count x rest).map fun (l, s) => (Written.literal l, s)
    let property (negated : Bool) :=
      (property? negated x rest).map fun (p, s) => (Written.named p, s)
    match c with
    | 'x' => number 2
    | 'u' => number 4
    | 'U' => number 8
    | 'p' => property false
    | 'P' => property true
    | 'd' => some (shortClass .digit false, rest)
    | 'D' => some (shortClass .digit true, rest)
    | 's' => some (shortClass .space false, rest)
    | 'S' => some (shortClass .space true, rest)
    | 'w' => some (shortClass .word false, rest)
    | 'W' => some (shortClass .word true, rest)
    | 'a' => literal '\x07'
    | 'f' => literal '\x0c'
    | 't' => literal '\t'
    | 'n' => literal '\n'
    | 'r' => literal '\r'
    | 'v' => literal '\x0b'
    | 'A' => some (.anchor .textStart, rest)
    | 'z' => some (.anchor .textEnd, rest)
    | 'b' => (wordEdge? x rest).map fun (e, s) => (.anchor (.word e), s)
    | 'B' => some (.anchor (.word .neither), rest)
    | '<' => some (.anchor (.word .start), rest)
    | '>' => some (.anchor (.word .stop), rest)
    | c => if isEscapable c then literal c else none

end RecordFilter.Written
