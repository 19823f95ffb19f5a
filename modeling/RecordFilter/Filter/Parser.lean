import RecordFilter.Binary64.Decimal
import RecordFilter.Filter

/-!
# Reading filters

Reading never fails. A reader gives what it read, if anything, and where it stopped; a term that
cannot be read ends the expression it is in, and what was read before it is kept. An expression has
one connective, the last keyword written. Keywords need no space after them and are tried before
terms, so no field starts with one. Groups and lists nest at most `maxNesting` deep: a deeper group
matches nothing and takes the rest of the text, a deeper list is not read.
-/

namespace RecordFilter.Filter

def isSpace (c : Char) : Bool :=
  c == ' ' || c == '\t' || c == '\n' || c == '\r' || c == '\x0b' || c == '\x0c'

def skipSpace (s : List Char) : List Char := s.dropWhile isSpace

theorem skipSpace_length_le (s : List Char) : (skipSpace s).length ≤ s.length :=
  (List.dropWhile_sublist _).length_le

def isFieldChar (c : Char) : Bool := c.isAlphanum || c == '_' || c == '.'

def isNumberChar (c : Char) : Bool := c.isDigit || c == '.' || c == '-'

def isFlagChar (c : Char) : Bool := c.isLower

def maxNesting : Nat := 128

/-- A reader gives what it read, if anything, and what is left of the text. -/
abbrev Reading (α : Type) := Option α × List Char

/-- A string after its opening quote, up to the same quote; there are no escapes. -/
def quoted (quote : Char) (s : List Char) : Reading Literal :=
  match s.dropWhile (· != quote) with
  | [] => (none, [])
  | _ :: rest => (some (.string (String.ofList (s.takeWhile (· != quote)))), rest)

/-- A pattern after its opening slash, up to the next slash, and the flags after that. -/
def patternLiteral (s : List Char) : Reading Literal :=
  match s.dropWhile (· != '/') with
  | [] => (none, [])
  | _ :: rest =>
    (some (.pattern
      { source := String.ofList (s.takeWhile (· != '/'))
        flags := String.ofList (rest.takeWhile isFlagChar) }), rest.dropWhile isFlagChar)

/-- The longest run of number characters, which has to be a number as a whole. -/
def numberLiteral (s : List Char) : Reading Literal :=
  ((Binary64.ofPositional? (s.takeWhile isNumberChar)).map .number, s.dropWhile isNumberChar)

def word? (words : List (List Char × α)) (s : List Char) : Option (α × List Char) :=
  words.findSome? fun (w, a) => if w.isPrefixOf s then some (a, s.drop w.length) else none

def constants : List (List Char × Literal) :=
  [("true".toList, .bool true), ("false".toList, .bool false), ("null".toList, .null)]

def constant (s : List Char) : Reading Literal :=
  match word? constants s with
  | some (v, rest) => (some v, rest)
  | none => (none, s)

/-- Operators in the order in which they are tried. -/
def operators : List (List Char × Operator) :=
  [("=".toList, .eq), ("!=".toList, .ne), ("<=".toList, .le), (">=".toList, .ge), ("<".toList, .lt),
    (">".toList, .gt), ("in".toList, .isIn), ("!in".toList, .notIn),
    ("contains_any".toList, .containsAny), ("contains_all".toList, .containsAll)]

/-- A keyword in any case. -/
def keyword? (s : List Char) : Option (Connective × List Char) :=
  match s with
  | a :: b :: c :: rest =>
    if a.toLower = 'a' ∧ b.toLower = 'n' ∧ c.toLower = 'd' then some (.and, rest)
    else if a.toLower = 'o' ∧ b.toLower = 'r' then some (.or, c :: rest)
    else none
  | [a, b] => if a.toLower = 'o' ∧ b.toLower = 'r' then some (.or, []) else none
  | _ => none

mutual

def value (depth : Nat) (s : List Char) : Reading Literal :=
  match _h : skipSpace s with
  | [] => (none, [])
  | c :: rest =>
    if c = '"' ∨ c = '\'' then quoted c rest
    else if c = '/' then patternLiteral rest
    else if c = '[' ∧ depth < maxNesting then items (depth + 1) [] rest
    else if isNumberChar c then numberLiteral (c :: rest)
    else constant (c :: rest)
termination_by (s.length, 0)
decreasing_by
  have := skipSpace_length_le s
  rw [_h, List.length_cons] at this
  exact Prod.Lex.left _ _ (by omega)

/-- The items of a list after its opening bracket; `acc` holds those read, last one first. Commas
count as space. An item that cannot be read is dropped if it took something, and otherwise fails
the list. -/
def items (depth : Nat) (acc : List Literal) (s : List Char) : Reading Literal :=
  match _h : skipSpace s with
  | [] => (none, [])
  | c :: rest =>
    if c = ']' then (some (.list acc.reverse), rest)
    else if c = ',' then items depth acc rest
    else
      match value depth (c :: rest) with
      | (item, rest') =>
        if rest'.length < (c :: rest).length then items depth (item.toList ++ acc) rest'
        else (none, rest')
termination_by (s.length, 1)
decreasing_by
  all_goals
    have := skipSpace_length_le s
    rw [_h] at this
    simp only [List.length_cons] at *
  · exact Prod.Lex.left _ _ (by omega)
  · rcases Nat.lt_or_eq_of_le this with hlt | heq
    · exact Prod.Lex.left _ _ hlt
    · rw [heq]; exact Prod.Lex.right _ (by decide)
  · exact Prod.Lex.left _ _ (by omega)

end

/-- A comparison or a text term in a context of the given depth. A lone `0` before a value is no
field; it is passed over. -/
def term (depth : Nat) (s : List Char) : Reading Filter :=
  let s := skipSpace s
  let field := s.takeWhile isFieldChar
  let rest := s.dropWhile isFieldChar
  if field = [] ∨ field = ['0'] then
    let (v, rest) := value depth rest
    (v.map .text, rest)
  else
    match word? operators (skipSpace rest) with
    | none => (none, skipSpace rest)
    | some (op, rest) =>
      let (v, rest) := value depth rest
      (v.map (.comparison (String.ofList field) op), rest)

def ofTerms (op : Option Connective) : List Filter → Filter
  | [only] => only
  | terms => joined (op.getD .and) terms

def closeGroup : List Char → List Char
  | ')' :: s => s
  | s => s

/-- An expression at the given depth, continuing after its connective and terms so far, last one
first. A missing `)` is tolerated; reading that takes nothing ends the expression. -/
def expression (depth : Nat) (op : Option Connective) (terms : List Filter) (s : List Char) :
    Filter × List Char :=
  match _h : skipSpace s with
  | [] => (ofTerms op terms.reverse, [])
  | c :: rest =>
    if c = '(' then
      if maxNesting ≤ depth then (ofTerms op (unmatchable :: terms).reverse, [])
      else
        match expression (depth + 1) none [] rest with
        | (group, rest') =>
          if (closeGroup rest').length < s.length then
            expression depth op (group :: terms) (closeGroup rest')
          else (ofTerms op (group :: terms).reverse, closeGroup rest')
    else
      match keyword? (c :: rest) with
      | some (k, rest') =>
        if rest'.length < s.length then expression depth (some k) terms rest'
        else (ofTerms (some k) terms.reverse, rest')
      | none =>
        match term depth (c :: rest) with
        | (some t, rest') =>
          if rest'.length < s.length then expression depth op (t :: terms) rest'
          else (ofTerms op (t :: terms).reverse, rest')
        | (none, rest') => (ofTerms op terms.reverse, rest')
termination_by s.length
decreasing_by
  · have := skipSpace_length_le s
    rw [_h, List.length_cons] at this; omega
  all_goals assumption

def read (text : String) : Filter × List Char := expression 0 none [] text.toList

def parse (text : String) : Filter := (read text).1

def byteLength (s : List Char) : Nat := s.foldl (fun n c => n + c.utf8Size) 0

def unparsed (text : String) : Nat := byteLength (read text).2

end RecordFilter.Filter
