import RecordFilter.Hexadecimal
import RecordFilter.Yaml.Position

/-!
# Parts of YAML scalars

In plain and quoted scalars, a line end with the blanks around it becomes one space, or the line
ends after the first if there are some. In double quotes a backslash starts an escape. The last line
ends of a block are kept, clipped to one, or stripped.
-/

namespace RecordFilter.Yaml

/-- Blanks and line ends between two stretches of a scalar. -/
structure Gap where
  /-- whether a line end was seen; blanks after that do not count -/
  broken : Bool
  blanks : List Char
  firstBreak : List Char
  laterBreaks : List Char

namespace Gap

def none : Gap := ⟨false, [], [], []⟩

/-- The gap after a line end that does not count itself. -/
def continued : Gap := ⟨true, [], [], []⟩

def text (g : Gap) : List Char :=
  if !g.broken then g.blanks
  else if g.firstBreak = ['\n'] then if g.laterBreaks.isEmpty then [' '] else g.laterBreaks
  else g.firstBreak ++ g.laterBreaks

def addBlank (g : Gap) (c : Char) : Gap :=
  if g.broken then g else { g with blanks := g.blanks ++ [c] }

def addBreak (g : Gap) (c : Char) : Gap :=
  if g.broken then { g with laterBreaks := g.laterBreaks ++ [c] }
  else ⟨true, [], [c], g.laterBreaks⟩

end Gap

/-! ## Quoted scalars -/

def shortEscapes : List (Char × Char) :=
  [('0', '\x00'), ('a', '\x07'), ('b', '\x08'), ('t', '\t'), ('\t', '\t'), ('n', '\n'),
    ('v', '\x0b'), ('f', '\x0c'), ('r', '\r'), ('e', '\x1b'), (' ', ' '), ('"', '"'), ('/', '/'),
    ('\\', '\\'), ('N', '\u0085'), ('_', '\u00a0'), ('L', '\u2028'), ('P', '\u2029')]

def numberedEscape? : Char → Option Nat
  | 'x' => some 2
  | 'u' => some 4
  | 'U' => some 8
  | _ => none

/-- The character of an escape, after its backslash, and how many characters it takes. -/
def escape? (s : List Char) : Option (Char × Nat) :=
  match s with
  | [] => none
  | c :: rest =>
    match shortEscapes.lookup c with
    | some d => some (d, 1)
    | none => do
      let count ← numberedEscape? c
      let d ← hexCharacter? count rest
      some (d, count + 1)

def quoteChar (single : Bool) : Char := if single then '\'' else '"'

/-! ## Block scalars -/

/-- What is done with the line ends at the end of a block. -/
inductive Chomping where
  | strip
  | clip
  | keep
deriving DecidableEq, Repr

def chomping? : List Char → Option Chomping
  | '+' :: _ => some .keep
  | '-' :: _ => some .strip
  | _ => none

def increment? (s : List Char) : Option (Option Nat) :=
  match s with
  | [] => some none
  | c :: _ =>
    if c == '0' then none
    else if c.isDigit then some (some (c.toNat - '0'.toNat))
    else some none

def blockIndicators? (c : Cursor) : Option ((Chomping × Option Nat) × Cursor) := do
  match chomping? c.rest with
  | some chomping => do
    let c := c.skip 1
    let increment ← increment? c.rest
    some ((chomping, increment), if increment.isSome then c.skip 1 else c)
  | none => do
    let increment ← increment? c.rest
    let c := if increment.isSome then c.skip 1 else c
    match increment, chomping? c.rest with
    | some n, some chomping => some ((chomping, some n), c.skip 1)
    | increment, _ => some ((Chomping.clip, increment), c)

end RecordFilter.Yaml
