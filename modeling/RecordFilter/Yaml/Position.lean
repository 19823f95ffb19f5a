/-!
# Positions in YAML texts

YAML gives meaning to columns, so its readers carry along where they are.
-/

namespace RecordFilter.Yaml

/-- How many characters, whole lines, and characters of the current line lie before a place. -/
structure Mark where
  index : Nat
  line : Nat
  column : Nat
deriving DecidableEq, Repr

structure Cursor where
  mark : Mark
  rest : List Char
deriving Repr

abbrev Reader (α : Type) := Cursor → Option (α × Cursor)

def isBlank (c : Char) : Bool := c == ' ' || c == '\t'

def isFlowIndicator (c : Char) : Bool :=
  c == ',' || c == '[' || c == ']' || c == '\x7b' || c == '\x7d'

/-- Characters of handles and of the names of directives. -/
def isNameChar (c : Char) : Bool := c.isAlphanum || c == '_' || c == '-'

def Mark.right (m : Mark) (n : Nat) : Mark :=
  { m with index := m.index + n, column := m.column + n }

def Mark.down (m : Mark) (n : Nat) : Mark := ⟨m.index + n, m.line + 1, 0⟩

namespace Cursor

def start (text : List Char) : Cursor := ⟨⟨0, 0, 0⟩, text⟩

def skip (c : Cursor) (n : Nat) : Cursor := ⟨c.mark.right n, c.rest.drop n⟩

/-- The characters up to the first that does not qualify, none of which may be a line end. -/
def span (c : Cursor) (p : Char → Bool) : List Char × Cursor :=
  let taken := c.rest.takeWhile p
  (taken, ⟨c.mark.right taken.length, c.rest.dropWhile p⟩)

def skipBlanks (c : Cursor) : Cursor := (c.span isBlank).2

end Cursor

end RecordFilter.Yaml
