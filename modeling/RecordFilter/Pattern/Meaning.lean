import RecordFilter.Pattern.Reader
import RecordFilter.Pattern.Size
import RecordFilter.Unicode.Case

/-!
# The meaning of written patterns

Options decide what the parts of a written pattern stand for, and flags change them from where they
stand to the end of their group. With the Unicode option off, sets range over bytes, and a set with
a byte outside ASCII is refused since it could match part of a character.
-/

namespace RecordFilter

structure PatternOptions where
  ignoreCase : Bool
  multiLine : Bool
  dotMatchesNewLine : Bool
  ignoreSpace : Bool
  swapGreed : Bool := false
  unicode : Bool := true
  crlf : Bool := false
deriving DecidableEq, Repr

namespace PatternOptions

open CodeSet

def change (o : PatternOptions) (changes : Written.FlagChanges) : PatternOptions where
  ignoreCase := (changes.get? .ignoreCase).getD o.ignoreCase
  multiLine := (changes.get? .multiLine).getD o.multiLine
  dotMatchesNewLine := (changes.get? .dotMatchesNewLine).getD o.dotMatchesNewLine
  ignoreSpace := (changes.get? .ignoreSpace).getD o.ignoreSpace
  swapGreed := (changes.get? .swapGreed).getD o.swapGreed
  unicode := (changes.get? .unicode).getD o.unicode
  crlf := (changes.get? .crlf).getD o.crlf

def top (o : PatternOptions) : Nat := if o.unicode then maxCode else 0xFF

def foldCase (o : PatternOptions) (s : CodeSet) : CodeSet :=
  if !o.ignoreCase then s else if o.unicode then Unicode.foldClosure s else asciiFold s
where
  asciiFold := Unicode.asciiFoldClosure

/-- The set or its complement, unless that could match part of a character. -/
def finish? (o : PatternOptions) (negated : Bool) (s : CodeSet) : Option CodeSet :=
  let s := if negated then complement o.top s else s
  if o.unicode || s.isAscii then some s else none

def asciiDigits : CodeSet := ofTable "30-39"

def asciiSpace : CodeSet := ofTable "9-D 20"

def asciiWord : CodeSet := ofTable "30-39 41-5A 5F 61-7A"

def shortSet (o : PatternOptions) : Written.ShortClass → CodeSet
  | .digit => if o.unicode then Unicode.decimalDigits else asciiDigits
  | .space => if o.unicode then Unicode.whiteSpace else asciiSpace
  | .word => if o.unicode then Unicode.wordCharacters else asciiWord

def asciiSet : Written.AsciiClass → CodeSet
  | .alnum => ofTable "30-39 41-5A 61-7A"
  | .alpha => ofTable "41-5A 61-7A"
  | .ascii => ofTable "0-7F"
  | .blank => ofTable "9 20"
  | .cntrl => ofTable "0-1F 7F"
  | .digit => asciiDigits
  | .graph => ofTable "21-7E"
  | .lower => ofTable "61-7A"
  | .print => ofTable "20-7E"
  | .punct => ofTable "21-2F 3A-40 5B-60 7B-7E"
  | .space => asciiSpace
  | .upper => ofTable "41-5A"
  | .word => asciiWord
  | .xdigit => ofTable "30-39 41-46 61-66"

def propertySet? (o : PatternOptions) (p : Written.Property) : Option CodeSet :=
  if !o.unicode then none
  else
    match p with
    | .named name => Unicode.byName? name
    | .valued property value => Unicode.byValue? property value

def namedSet? (o : PatternOptions) (c : Written.NamedClass) : Option CodeSet :=
  match c.kind with
  | .short s => o.finish? c.negated (o.shortSet s)
  | .ascii a => o.finish? c.negated (o.foldCase (asciiSet a))
  | .property p => (o.propertySet? p).bind fun s => o.finish? c.negated (o.foldCase s)

/-- The code of a character in a class; without Unicode it has to be ASCII. -/
def classCode? (o : PatternOptions) (l : Written.Literal) : Option Nat :=
  if o.unicode || l.char.toNat < 0x80 then some l.char.toNat else none

def operate (o : PatternOptions) : Written.SetOperator → CodeSet → CodeSet → CodeSet
  | .intersection => inter o.top
  | .difference => diff o.top
  | .symmetricDifference => symmDiff o.top

mutual

def bodySet? (o : PatternOptions) : Written.ClassBody → Option CodeSet
  | .empty => some []
  | .literal l => (o.classCode? l).map single
  | .range first last => do
    let lo ← o.classCode? first
    let hi ← o.classCode? last
    some [⟨lo, hi⟩]
  | .named c => o.namedSet? c
  | .bracketed negated body => (bodySet? o body).bind fun s => o.finish? negated (o.foldCase s)
  | .union items => unionSet? o items
  | .operation op left right => do
    let a ← bodySet? o left
    let b ← bodySet? o right
    some (o.operate op (o.foldCase a) (o.foldCase b))

def unionSet? (o : PatternOptions) : List Written.ClassBody → Option CodeSet
  | [] => some []
  | item :: items => do
    let a ← bodySet? o item
    let b ← unionSet? o items
    some (union a b)

end

/-- A literal character, in both cases if case is ignored. A byte outside ASCII is no character
when the Unicode option is off. -/
def literal? (o : PatternOptions) (l : Written.Literal) : Option CodeSet :=
  let c := l.char.toNat
  if o.unicode then some (o.foldCase (single c))
  else if l.byte && 0x80 ≤ c then none
  else some (if c < 0x80 then o.foldCase (single c) else single c)

def dot? (o : PatternOptions) : Option CodeSet :=
  if !o.unicode then none
  else if o.dotMatchesNewLine then some full
  else if o.crlf then some (complement maxCode (ofTable "A D"))
  else some (complement maxCode (ofTable "A"))

def assertion (o : PatternOptions) : Written.Anchor → Assertion
  | .textStart => .textStart
  | .textEnd => .textEnd
  | .lineStart => if o.multiLine then .lineStart o.crlf else .textStart
  | .lineEnd => if o.multiLine then .lineEnd o.crlf else .textEnd
  | .word edge => .word edge (o.shortSet .word)

mutual

def meaning? (o : PatternOptions) : Written → Option (Pattern × PatternOptions)
  | .empty => some (.empty, o)
  | .flags changes => some (.empty, o.change changes)
  | .literal l => (o.literal? l).map fun s => (.chars s, o)
  | .dot => o.dot?.map fun s => (.chars s, o)
  | .anchor a => some (.assertion (o.assertion a), o)
  | .named c => (o.namedSet? c).map fun s => (.chars s, o)
  | .bracketed negated body =>
    ((o.bodySet? body).bind fun s => o.finish? negated (o.foldCase s)).map fun s => (.chars s, o)
  | .repeated item min max lazy =>
    (meaning? o item).map fun (p, o) => (.repeated p min max (lazy != o.swapGreed), o)
  | .group captures changes body =>
    (meaning? (o.change changes) body).map fun (p, _) => (.group captures p, o)
  | .alternatives branches => branchesMeaning? o branches
  | .sequence items => sequenceMeaning? o items

def sequenceMeaning? (o : PatternOptions) : List Written → Option (Pattern × PatternOptions)
  | [] => some (.empty, o)
  | [item] => meaning? o item
  | item :: items => do
    let (p, o) ← meaning? o item
    let (q, o) ← sequenceMeaning? o items
    some (.seq p q, o)

def branchesMeaning? (o : PatternOptions) : List Written → Option (Pattern × PatternOptions)
  | [] => some (.empty, o)
  | [branch] => meaning? o branch
  | branch :: branches => do
    let (p, o) ← meaning? o branch
    let (q, o) ← branchesMeaning? o branches
    some (.alt p q, o)

end

end PatternOptions

/-- The pattern that a text stands for under the given options, if it is one and not too large. -/
def Pattern.ofText? (o : PatternOptions) (text : List Char) : Option Pattern := do
  let written ← Written.read? o.ignoreSpace text
  let (p, _) ← o.meaning? written
  if p.shape.fits then some p else none

end RecordFilter
