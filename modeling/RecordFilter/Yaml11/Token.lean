import RecordFilter.Yaml.Token
import RecordFilter.Yaml11.Scalar

/-!
# Tokens of YAML 1.1

How a text is cut into tokens. A possible key stays on one line, also inside brackets, and is at
most 1024 characters long. Question marks and colons inside brackets need no blank after them.
-/

namespace RecordFilter.Yaml11

open Yaml

structure Scanner where
  cursor : Cursor
  /-- the column of the innermost block -/
  indent : Option Nat
  outerIndents : List (Option Nat)
  keyAllowed : Bool
  /-- a possible key outside brackets and inside each open one, innermost first -/
  keys : List (Option PossibleKey)
  /-- the tokens so far, last one first -/
  reversed : List Token

namespace Scanner

def start (text : List Char) : Scanner := ⟨.start text, none, [], true, [none], []⟩

def inFlow (st : Scanner) : Bool := 1 < st.keys.length

def emit (st : Scanner) (t : Token) : Scanner := { st with reversed := t :: st.reversed }

def insert (st : Scanner) (number : Nat) (t : Token) : Scanner :=
  { st with reversed := insertToken number t st.reversed }

def allowKey (st : Scanner) (allowed : Bool) : Scanner := { st with keyAllowed := allowed }

def skip (st : Scanner) (n : Nat) : Scanner := { st with cursor := st.cursor.skip n }

/-! ## Keys -/

/-- Forgets the innermost possible key; it must not have been required. -/
def removeKey? (st : Scanner) : Option Scanner :=
  match st.keys with
  | some k :: outer => if k.required then none else some { st with keys := none :: outer }
  | _ => some st

/-- Notes that a key may start here. It has to, if this is the column of a block. -/
def saveKey? (st : Scanner) : Option Scanner :=
  if st.keyAllowed then
    st.removeKey?.map fun st =>
      let required := !st.inFlow && st.indent == some st.cursor.mark.column
      { st with keys := some ⟨required, st.reversed.length, st.cursor.mark⟩ :: st.keys.drop 1 }
  else some st

def dropStaleKeys? (st : Scanner) : Option Scanner :=
  let stale := fun (k : PossibleKey) => k.isStale st.cursor.mark
  if st.keys.any fun k => k.any fun k => stale k && k.required then none
  else some { st with keys := st.keys.map fun k => k.filter fun k => !stale k }

/-! ## Blocks -/

/-- Starts a block at a column that lies further in than the current block, at the end of the tokens
or after the first `number` ones. -/
def roll (st : Scanner) (column : Nat) (number : Option Nat) (t : Token) : Scanner :=
  if st.inFlow || st.indent.any (column ≤ ·) then st
  else
    let st := { st with indent := some column, outerIndents := st.indent :: st.outerIndents }
    match number with
    | some n => st.insert n t
    | none => st.emit t

/-- Ends the blocks further in than a column, or all of them. -/
def unroll (st : Scanner) (column : Option Nat) : Scanner :=
  if st.inFlow then st else go st.indent st.outerIndents st.reversed
where
  go (indent : Option Nat) (outer : List (Option Nat)) (reversed : List Token) : Scanner :=
    if indent.any fun i => column.all (· < i) then
      match outer with
      | [] => { st with indent := none, outerIndents := [], reversed := .blockEnd :: reversed }
      | i :: outer => go i outer (.blockEnd :: reversed)
    else { st with indent, outerIndents := outer, reversed }

/-! ## Spaces -/

/-- Passes over spaces, comments and line ends. A byte order mark may start a line, and tabs are
spaces where no key may start. Outside brackets, a key may start after a line end. -/
def skipSpaces (inFlow : Bool) (keyAllowed inComment : Bool) (m : Mark) (s : List Char) :
    Bool × Cursor :=
  match s with
  | [] => (keyAllowed, ⟨m, []⟩)
  | '\r' :: '\n' :: s => skipSpaces inFlow (keyAllowed || !inFlow) false (m.down 2) s
  | c :: s =>
    if isBreak c then skipSpaces inFlow (keyAllowed || !inFlow) false (m.down 1) s
    else if inComment || c == ' ' || (c == '\t' && (inFlow || !keyAllowed)) ||
        (c == '\ufeff' && m.column == 0) then
      skipSpaces inFlow keyAllowed inComment (m.right 1) s
    else if c == '#' then skipSpaces inFlow keyAllowed true (m.right 1) s
    else (keyAllowed, ⟨m, c :: s⟩)

def toNextToken (st : Scanner) : Scanner :=
  let (keyAllowed, cursor) :=
    skipSpaces st.inFlow st.keyAllowed false st.cursor.mark st.cursor.rest
  { st with keyAllowed, cursor }

/-! ## Directives, anchors and tags -/

/-- A line of the document structure: no block or key goes on across it. -/
def breakOff? (st : Scanner) : Option Scanner :=
  (st.unroll none).removeKey?.map (·.allowKey false)

def versionPart? : Reader (List Char) := fun c =>
  let (ds, c) := c.span Char.isDigit
  if ds.isEmpty || 9 < ds.length then none else some (ds, c)

def versionDirective? (c : Cursor) : Option (Token × Cursor) := do
  let (major, c) ← versionPart? c.skipBlanks
  if c.rest.head? = some '.' then
    let (minor, c) ← versionPart? (c.skip 1)
    some (.version major minor, c)
  else none

def tagHandle? : Reader (List Char) := fun c =>
  if c.rest.head? = some '!' then
    let (name, c) := (c.skip 1).span isNameChar
    if c.rest.head? = some '!' then some ('!' :: name ++ ['!'], c.skip 1) else some ('!' :: name, c)
  else none

def isUriChar (verbatim : Bool) (c : Char) : Bool :=
  isNameChar c || ";/?:@&=+$.%!~*'()".toList.contains c ||
    (verbatim && (c == ',' || c == '[' || c == ']'))

def encodedWidth? (b : Nat) : Option Nat :=
  if b < 0x80 then some 1
  else if 0xC0 ≤ b ∧ b < 0xE0 then some 2
  else if 0xE0 ≤ b ∧ b < 0xF0 then some 3
  else if 0xF0 ≤ b ∧ b < 0xF8 then some 4
  else none

/-- Whether percent signs are followed by two hexadecimal digits, and the bytes written so make up
encoded characters. `pending` is the number of bytes that the current character still takes. -/
def validEscapes (pending : Nat) : List Char → Bool
  | [] => pending == 0
  | '%' :: a :: b :: s =>
    match hexDigit? a, hexDigit? b with
    | some x, some y =>
      let byte := 16 * x + y
      if pending = 0 then
        match encodedWidth? byte with
        | some w => validEscapes (w - 1) s
        | none => false
      else byte / 64 == 2 && validEscapes (pending - 1) s
    | _, _ => false
  | c :: s => c != '%' && pending == 0 && validEscapes 0 s

/-- The rest of a tag; it must not be empty unless something came before it. -/
def tagUri? (verbatim mayBeEmpty : Bool) : Reader (List Char) := fun c =>
  let (uri, c) := c.span (isUriChar verbatim)
  if (uri.isEmpty && !mayBeEmpty) || !validEscapes 0 uri then none else some (uri, c)

def tagDirective? (c : Cursor) : Option (Token × Cursor) := do
  let (handle, c) ← tagHandle? c.skipBlanks
  if handle ≠ ['!'] ∧ handle.getLast? ≠ some '!' then none
  if !c.rest.head?.any isBlank then none
  let (start, c) ← tagUri? true false c.skipBlanks
  if blankOrEnd c.rest then some (.tagDirective handle start, c) else none

def directive? (c : Cursor) : Option (Token × Cursor) := do
  let (name, c) := c.span isNameChar
  if !blankOrEnd c.rest then none
  let (t, c) ← match String.ofList name with
    | "YAML" => versionDirective? c
    | "TAG" => tagDirective? c
    | _ => none
  let c ← restOfLine? c
  some (t, c)

def anchorName? : Reader (List Char) := fun c =>
  let (name, c) := c.span isNameChar
  let ends := blankOrEnd c.rest || c.rest.head?.any fun d => "?:,]\x7d%@\x60".toList.contains d
  if name.isEmpty || !ends then none else some (name, c)

/-- A tag; what follows a single exclamation mark without another one belongs to its suffix. -/
def tag? (inFlow : Bool) (c : Cursor) : Option (Token × Cursor) := do
  let (t, c) ← match c.rest with
    | '!' :: '<' :: _ => do
      let (uri, c) ← tagUri? true false (c.skip 2)
      if c.rest.head? = some '>' then some (⟨[], uri⟩, c.skip 1) else none
    | _ => do
      let (handle, c) ← tagHandle? c
      let named := 1 < handle.length && handle.getLast? == some '!'
      let (uri, c) ← tagUri? false (!named) c
      some (if named then ⟨handle, uri⟩ else if handle.length = 1 && uri.isEmpty then ⟨[], handle⟩
        else (⟨['!'], handle.drop 1 ++ uri⟩ : Tag), c)
  if blankOrEnd c.rest || (inFlow && c.rest.head? = some ',') then some (.tag t, c) else none

/-! ## Tokens -/

def openBracket? (st : Scanner) (t : Token) : Option Scanner :=
  st.saveKey?.map fun st => ({ st with keys := none :: st.keys }.allowKey true |>.emit t).skip 1

def closeBracket? (st : Scanner) (t : Token) : Option Scanner :=
  st.removeKey?.map fun st =>
    let keys := if st.inFlow then st.keys.drop 1 else st.keys
    ({ st with keys }.allowKey false |>.emit t).skip 1

def flowComma? (st : Scanner) : Option Scanner :=
  st.removeKey?.map fun st => (st.allowKey true |>.emit .flowEntry).skip 1

/-- Outside brackets, starts a block of the given kind unless there is one at this column. -/
def startBlock? (st : Scanner) (t : Token) : Option Scanner :=
  if st.inFlow then some st
  else if st.keyAllowed then some (st.roll st.cursor.mark.column none t)
  else none

def blockDash? (st : Scanner) : Option Scanner := do
  let st ← st.startBlock? .blockSequenceStart
  let st ← st.removeKey?
  some ((st.allowKey true |>.emit .blockEntry).skip 1)

def key? (st : Scanner) : Option Scanner := do
  let st ← st.startBlock? .blockMappingStart
  let st ← st.removeKey?
  some ((st.allowKey (!st.inFlow) |>.emit .key).skip 1)

/-- A colon: what was possibly a key is one, or this follows a key with a mark of its own. -/
def value? (st : Scanner) : Option Scanner :=
  match st.keys with
  | some k :: outer =>
    let st := st.insert k.number .key
    let st := st.roll k.mark.column (some k.number) .blockMappingStart
    some (({ st with keys := none :: outer }.allowKey false |>.emit .value).skip 1)
  | _ =>
    (st.startBlock? .blockMappingStart).map fun st =>
      (st.allowKey (!st.inFlow) |>.emit .value).skip 1

def keyToken? (st : Scanner) (read : Cursor → Option (Token × Cursor)) (place : Cursor) :
    Option Scanner := do
  let st ← st.saveKey?
  let (t, cursor) ← read place
  some ({ st with cursor }.allowKey false |>.emit t)

def plainScalar? (st : Scanner) : Option Scanner := do
  let st ← st.saveKey?
  let indent := (st.indent.map (· + 1)).getD 0
  let ((text, broken), cursor) ← plain? st.inFlow indent [] Gap.none st.cursor
  some ({ st with cursor }.allowKey broken |>.emit (.scalar text true))

def blockScalar? (st : Scanner) (literal : Bool) : Option Scanner := do
  let st ← st.removeKey?
  let (text, cursor) ← block? literal st.indent (st.cursor.skip 1)
  some ({ st with cursor }.allowKey true |>.emit (.scalar text false))

def startsPlain (inFlow : Bool) (c : Char) (s : List Char) : Bool :=
  !(isBlank c || isBreak c || "-?:,[]\x7b\x7d#&*!|>'\"%@\x60".toList.contains c) ||
    (c == '-' && !s.head?.any isBlank) ||
    (!inFlow && (c == '?' || c == ':') && !blankOrEnd s)

def token? (st : Scanner) (c : Char) (s : List Char) : Option Scanner :=
  let here := st.cursor
  if here.mark.column == 0 && c == '%' then do
    let st ← st.breakOff?
    let (t, cursor) ← directive? (here.skip 1)
    some ({ st with cursor }.emit t)
  else if atDocumentMark here then
    st.breakOff?.map fun st =>
      (st.emit (if c == '-' then .documentStart else .documentEnd)).skip 3
  else
    let flowOrBlank := st.inFlow || blankOrEnd s
    let quoted (single : Bool) :=
      st.keyToken? (fun c => (quoted? single [] c).map fun (t, c) => (.scalar t false, c))
        (here.skip 1)
    let named (toToken : List Char → Token) :=
      st.keyToken? (fun c => (anchorName? c).map fun (n, c) => (toToken n, c)) (here.skip 1)
    match c with
    | '[' => st.openBracket? .flowSequenceStart
    | '\x7b' => st.openBracket? .flowMappingStart
    | ']' => st.closeBracket? .flowSequenceEnd
    | '\x7d' => st.closeBracket? .flowMappingEnd
    | ',' => st.flowComma?
    | '*' => named .reference
    | '&' => named .anchor
    | '!' => st.keyToken? (tag? st.inFlow) here
    | '\'' => quoted true
    | '"' => quoted false
    | c =>
      if c == '-' && blankOrEnd s then st.blockDash?
      else if c == '?' && flowOrBlank then st.key?
      else if c == ':' && flowOrBlank then st.value?
      else if c == '|' && !st.inFlow then st.blockScalar? true
      else if c == '>' && !st.inFlow then st.blockScalar? false
      else if startsPlain st.inFlow c s then st.plainScalar?
      else none

def run? (st : Scanner) : Option (List Token) :=
  match st.toNextToken.dropStaleKeys? with
  | none => none
  | some next =>
    let next := next.unroll (some next.cursor.mark.column)
    match next.cursor.rest with
    | [] => (next.unroll none).removeKey?.map fun st => st.reversed.reverse
    | c :: s =>
      match next.token? c s with
      | none => none
      | some st' => if st'.cursor.rest.length < st.cursor.rest.length then st'.run? else none
termination_by st.cursor.rest.length

end Scanner

def isAllowed (c : Char) : Bool :=
  let n := c.toNat
  n == 0x9 || n == 0xA || n == 0xD || (0x20 ≤ n && n ≤ 0x7E) || n == 0x85 ||
    (0xA0 ≤ n && n ≤ 0xFFFD) || 0x10000 ≤ n

def tokens? (text : List Char) : Option (List Token) :=
  if text.all isAllowed then (Scanner.start text).run? else none

end RecordFilter.Yaml11
