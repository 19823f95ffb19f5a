import RecordFilter.Toml.Scalar

/-!
# TOML documents

A document is lines of keys with values and of headers, each header saying which table the lines
after it belong to. Arrays and tables in brackets may go over several lines, though not the keys in
them, and a comma may stand after their last entry. `Toml.read?` gives the entries of a whole
document.
-/

namespace RecordFilter.Toml

def skipBlanks (s : List Char) : List Char := s.dropWhile isBlank

def skipSpace? (inComment : Bool) : List Char → Option (List Char)
  | [] => some []
  | '\r' :: '\n' :: s => skipSpace? false s
  | c :: s =>
    if c = '\n' then skipSpace? false s
    else if inComment then if isText c then skipSpace? true s else none
    else if isBlank c then skipSpace? false s
    else if c = '#' then skipSpace? true s
    else some (c :: s)

/-- Passes over what may follow on a line: blanks, a comment, and the end of the line. -/
def restOfLine? (s : List Char) : Option (List Char) :=
  let s := skipBlanks s
  match if s.head? = some '#' then s.dropWhile isText else s with
  | [] => some []
  | s => afterBreak? s

/-! ## Keys -/

def isKeyChar (c : Char) : Bool := c.isAlphanum || c == '_' || c == '-'

def simpleKey? : Reader String
  | '"' :: s => lineString? '"' [] s
  | '\'' :: s => lineString? '\'' [] s
  | s =>
    let (word, r) := s.span isKeyChar
    if word.isEmpty then none else some (String.ofList word, r)

def keyParts? (acc : List String) (s : List Char) : Option (List String × List Char) :=
  match simpleKey? (skipBlanks s) with
  | none => none
  | some (k, r) =>
    match skipBlanks r with
    | '.' :: r' => if r'.length < s.length then keyParts? (k :: acc) r' else none
    | r' => some ((k :: acc).reverse, r')
termination_by s.length

/-- The most parts of a key, and the most brackets inside one another. -/
def maxDepth : Nat := 80

def key? : Reader (List String) := fun s => (keyParts? [] s).filter (·.1.length ≤ maxDepth)

/-! ## Values -/

/-- A key, an equals sign and a value, where `space?` passes over what may stand around the sign. -/
def assignment? (space? : List Char → Option (List Char)) (value : Reader Value) :
    Reader (List String × Value) := fun s => do
  let (path, r) ← key? s
  match ← space? r with
  | '=' :: r =>
    let (v, r) ← value (← space? r)
    some ((path, v), r)
  | _ => none

def items? (value : Reader Value) (acc : List Value) (s : List Char) :
    Option (List Value × List Char) :=
  match skipSpace? false s with
  | none => none
  | some (']' :: r) => some (acc.reverse, r)
  | some r =>
    match value r with
    | none => none
    | some (v, r) =>
      match skipSpace? false r with
      | some (',' :: r) => if r.length < s.length then items? value (v :: acc) r else none
      | some (']' :: r) => some ((v :: acc).reverse, r)
      | _ => none
termination_by s.length

def members? (value : Reader Value) (t : Table) (s : List Char) : Option (Table × List Char) :=
  match skipSpace? false s with
  | none => none
  | some ('\x7d' :: r) => some (t, r)
  | some r =>
    match assignment? (skipSpace? false) value r with
    | none => none
    | some ((path, v), r) =>
      match t.assign? v path, skipSpace? false r with
      | some t, some (',' :: r) => if r.length < s.length then members? value t r else none
      | some t, some ('\x7d' :: r) => some (t, r)
      | _, _ => none
termination_by s.length

def value? (depth : Nat) : Reader Value := fun s =>
  match depth, s with
  | _, [] => none
  | 0, '[' :: _ => none
  | 0, '\x7b' :: _ => none
  | depth + 1, '[' :: r => (items? (value? depth) [] r).map fun (l, r) => (.array l, r)
  | depth + 1, '\x7b' :: r =>
    (members? (value? depth) [] r).map fun (t, r) => (.table .inBraces t, r)
  | _, c :: r =>
    if c = '"' ∨ c = '\'' then (string? (c :: r)).map fun (t, r) => (.string t, r)
    else bareScalar? (c :: r)

/-! ## Lines -/

/-- A header after its opening brackets: the path of the table, and what follows its line. -/
def header? (closing : List Char) (s : List Char) : Option (List String × List Char) :=
  match key? s with
  | none => none
  | some (path, r) =>
    if closing.isPrefixOf r then (restOfLine? (r.drop closing.length)).map fun r => (path, r)
    else none

/-- Opens the table at a path, the last key of which `f` opens in the table before it. -/
def openAt? (f : String → Table → Option Table) (path : List String) (t : Table) : Option Table :=
  path.getLast?.bind fun key => t.within? (f key) path.dropLast

/-- Reads one line that starts with a character other than blank space. It gives the entries, the
path of the table that the next line belongs to, and what follows. -/
def line? (t : Table) (path : List String) (s : List Char) :
    Option (Table × List String × List Char) :=
  match s with
  | '[' :: '[' :: r =>
    match header? [']', ']'] r with
    | some (path, r) => (openAt? (fun k t => t.openElement? k) path t).map fun t => (t, path, r)
    | none => none
  | '[' :: r =>
    match header? [']'] r with
    | some (path, r) => (openAt? (fun k t => t.openTable? k) path t).map fun t => (t, path, r)
    | none => none
  | s =>
    match assignment? (fun r => some (skipBlanks r)) (value? maxDepth) s with
    | none => none
    | some ((key, v), r) =>
      match t.within? (fun t => t.assign? v key) path, restOfLine? r with
      | some t, some r => some (t, path, r)
      | _, _ => none

def lines? (t : Table) (path : List String) (s : List Char) : Option Table :=
  match skipSpace? false s with
  | none => none
  | some [] => some t
  | some r =>
    match line? t path r with
    | none => none
    | some (t, path, r) => if r.length < s.length then lines? t path r else none
termination_by s.length

/-- The entries of the document that a text is, after a byte order mark if there is one. -/
def read? (text : List Char) : Option Table :=
  lines? [] [] (if text.head? = some '\ufeff' then text.drop 1 else text)

end RecordFilter.Toml
