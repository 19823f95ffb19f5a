import RecordFilter.Yaml.Position

/-!
# Lines of YAML 1.1

A line ends with a line feed, a carriage return, both in this order, or one of three further
characters, of which two are kept as they are in scalars and the others become line feeds.
-/

namespace RecordFilter.Yaml11

open Yaml (Cursor isBlank)

def isBreak (c : Char) : Bool :=
  c == '\n' || c == '\r' || c == '\u0085' || c == '\u2028' || c == '\u2029'

def blankOrEnd (s : List Char) : Bool :=
  match s with
  | [] => true
  | c :: _ => isBlank c || isBreak c

def breakOrEnd (s : List Char) : Bool :=
  match s with
  | [] => true
  | c :: _ => isBreak c

/-- The line end at a place as it stands in a scalar, and the place after it. -/
def lineBreak? (c : Cursor) : Option (Char × Cursor) :=
  match c.rest with
  | '\r' :: '\n' :: s => some ('\n', ⟨c.mark.down 2, s⟩)
  | b :: s =>
    if b == '\u2028' || b == '\u2029' then some (b, ⟨c.mark.down 1, s⟩)
    else if isBreak b then some ('\n', ⟨c.mark.down 1, s⟩)
    else none
  | [] => none

def skipBreak (c : Cursor) : Cursor := ((lineBreak? c).map Prod.snd).getD c

def skipComment (c : Cursor) : Cursor :=
  if c.rest.head? = some '#' then (c.span fun ch => !isBreak ch).2 else c

/-- Passes over what may follow on a line after a directive or the head of a block scalar: blanks,
a comment, and the end of the line. -/
def restOfLine? (c : Cursor) : Option Cursor :=
  let c := skipComment c.skipBlanks
  if breakOrEnd c.rest then some (skipBreak c) else none

/-- Whether a line of three hyphens or three dots starts here. -/
def atDocumentMark (c : Cursor) : Bool :=
  c.mark.column == 0 &&
    match c.rest with
    | a :: b :: d :: s => (a == '-' || a == '.') && b == a && d == a && blankOrEnd s
    | _ => false

end RecordFilter.Yaml11
