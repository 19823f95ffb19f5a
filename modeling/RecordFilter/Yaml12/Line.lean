import RecordFilter.Yaml.Position

/-!
# Lines of YAML 1.2

A line ends with a line feed, a carriage return, or both in this order. A comment needs a blank
before it where something else stands on its line.
-/

namespace RecordFilter.Yaml12

open Yaml (Cursor isBlank isFlowIndicator)

def isBreak (c : Char) : Bool := c == '\n' || c == '\r'

def blankOrEnd (s : List Char) : Bool :=
  match s with
  | [] => true
  | c :: _ => isBlank c || isBreak c

def breakOrEnd (s : List Char) : Bool :=
  match s with
  | [] => true
  | c :: _ => isBreak c

def beforeFlowIndicator (s : List Char) : Bool := s.head?.any isFlowIndicator

def afterBreak? (c : Cursor) : Option Cursor :=
  match c.rest with
  | '\r' :: '\n' :: s => some ⟨c.mark.down 2, s⟩
  | b :: s => if isBreak b then some ⟨c.mark.down 1, s⟩ else none
  | [] => none

def lineEnd (c : Cursor) : Cursor := (c.span fun ch => !isBreak ch).2

/-- Passes over the blanks that come next, and over a comment after them; it is refused without
blanks. The blanks are given. -/
def spaces? (c : Cursor) : Option (List Char × Cursor) :=
  let (blanks, c) := c.span isBlank
  if c.rest.head? = some '#' then
    if blanks.isEmpty then none else some (blanks, lineEnd c)
  else some (blanks, c)

def restOfLine? (c : Cursor) : Option Cursor :=
  match spaces? c with
  | some (_, c) => if breakOrEnd c.rest then some c else none
  | none => none

def tripled (mark : Char) (s : List Char) : Bool :=
  match s with
  | a :: b :: d :: s => a == mark && b == mark && d == mark && blankOrEnd s
  | _ => false

/-- Whether the start or end of a document is marked here, wherever on its line this is. -/
def documentMark (s : List Char) : Bool := tripled '-' s || tripled '.' s

end RecordFilter.Yaml12
