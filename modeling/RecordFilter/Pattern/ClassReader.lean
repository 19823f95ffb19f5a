import RecordFilter.Pattern.Escape

/-!
# Reading bracketed classes

A class is read with a stack of the classes it lies in. Each entry holds what was read of one class:
the operation still waiting for its right side and the items since. Operators associate to the left
and bind less than standing side by side.
-/

namespace RecordFilter.Written

/-- One open class: whether it is negated, the operation waiting for its right side, and the items
since then, last one first. -/
structure OpenClass where
  negated : Bool
  pending : Option (SetOperator × ClassBody)
  items : List ClassBody

namespace OpenClass

def add (c : OpenClass) (item : ClassBody) : OpenClass := { c with items := item :: c.items }

def body (c : OpenClass) : ClassBody :=
  let last := ClassBody.ofItems c.items.reverse
  match c.pending with
  | none => last
  | some (op, left) => .operation op left last

def operator (c : OpenClass) (op : SetOperator) : OpenClass :=
  { c with pending := some (op, c.body), items := [] }

end OpenClass

def asciiClass? (name : List Char) : Option AsciiClass :=
  match String.ofList name with
  | "alnum" => some .alnum
  | "alpha" => some .alpha
  | "ascii" => some .ascii
  | "blank" => some .blank
  | "cntrl" => some .cntrl
  | "digit" => some .digit
  | "graph" => some .graph
  | "lower" => some .lower
  | "print" => some .print
  | "punct" => some .punct
  | "space" => some .space
  | "upper" => some .upper
  | "word" => some .word
  | "xdigit" => some .xdigit
  | _ => none

/-- A class such as `[:alpha:]`, after its opening bracket. -/
def namedAscii? (s : List Char) : Option (NamedClass × List Char) :=
  match s with
  | ':' :: rest =>
    let (negated, rest) := match rest with
      | '^' :: rest => (true, rest)
      | rest => (false, rest)
    match rest.span (· ≠ ':') with
    | (name, ':' :: ']' :: rest) => (asciiClass? name).map fun c => (⟨.ascii c, negated⟩, rest)
    | _ => none
  | _ => none

def hyphen : ClassBody := .literal ⟨'-', false⟩

def leadingHyphens (x : Bool) (acc : List ClassBody) (s : List Char) :
    List ClassBody × List Char :=
  match s with
  | '-' :: rest => leadingHyphens x (hyphen :: acc) (skip x rest)
  | s => (acc, s)
termination_by s.length
decreasing_by
  have := skip_length_le x rest
  simp only [List.length_cons]; omega

/-- The start of a class after its bracket: a negation, hyphens, and a closing bracket that is
literal because nothing else came first. -/
def openClass? : Reader OpenClass := fun x s =>
  let (negated, s) := match skip x s with
    | '^' :: rest => (true, skip x rest)
    | s => (false, s)
  match leadingHyphens x [] s with
  | ([], ']' :: rest) => some (⟨negated, none, [.literal ⟨']', false⟩]⟩, skip x rest)
  | (items, rest) => some (⟨negated, none, items⟩, rest)

def classAtom? : Reader Written := fun x s =>
  match s with
  | [] => none
  | '\\' :: rest => escape? x rest
  | c :: rest => some (.literal ⟨c, false⟩, rest)

/-- An atom on its own; anchors have no place in a class. -/
def classItem? : Written → Option ClassBody
  | .literal l => some (.literal l)
  | .named c => some (.named c)
  | _ => none

/-- An atom, or a range if a hyphen follows that neither ends the class nor starts an operator. -/
def classRange? : Reader ClassBody := fun x s => do
  let (first, s) ← classAtom? x s
  match skip x s with
  | [] => none
  | '-' :: rest =>
    let next := peekPastSpace x rest
    if next = some ']' ∨ next = some '-' then
      first.classItem?.map fun item => (item, '-' :: rest)
    else
      let (last, s) ← classAtom? x (skip x rest)
      match first, last with
      | .literal a, .literal b => if a.char ≤ b.char then some (.range a b, s) else none
      | _, _ => none
  | s => first.classItem?.map fun item => (item, s)

/-- Reads a class up to its closing bracket, within the open classes given, innermost first. -/
def classRest? (x : Bool) (current : OpenClass) (outer : List OpenClass) (s : List Char) :
    Option ((Bool × ClassBody) × List Char) :=
  match skip x s with
  | [] => none
  | '[' :: rest =>
    match namedAscii? rest with
    | some (c, rest') =>
      if rest'.length < s.length then classRest? x (current.add (.named c)) outer rest' else none
    | none =>
      match openClass? x rest with
      | some (inner, rest') =>
        if rest'.length < s.length then classRest? x inner (current :: outer) rest' else none
      | none => none
  | ']' :: rest =>
    match outer with
    | [] => some ((current.negated, current.body), rest)
    | parent :: outer =>
      if rest.length < s.length then
        classRest? x (parent.add (.bracketed current.negated current.body)) outer rest
      else none
  | '&' :: '&' :: rest =>
    if rest.length < s.length then classRest? x (current.operator .intersection) outer rest
    else none
  | '-' :: '-' :: rest =>
    if rest.length < s.length then classRest? x (current.operator .difference) outer rest else none
  | '~' :: '~' :: rest =>
    if rest.length < s.length then
      classRest? x (current.operator .symmetricDifference) outer rest
    else none
  | c :: rest =>
    match classRange? x (c :: rest) with
    | some (item, rest') =>
      if rest'.length < s.length then classRest? x (current.add item) outer rest' else none
    | none => none
termination_by s.length

def class? : Reader Written := fun x s => do
  let (start, s) ← openClass? x s
  let ((negated, body), s) ← classRest? x start [] s
  some (.bracketed negated body, s)

end RecordFilter.Written
