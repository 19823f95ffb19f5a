import RecordFilter.Yaml12.Scalar
import RecordFilter.Yaml12.Tag

/-!
# Tokens of YAML 1.2

How a text is cut into tokens. A possible key stays on one line only outside brackets. Inside
brackets, a colon that nothing separates from its value follows a key in quotes or brackets. In
brackets of a sequence, a key starts a mapping of one entry without braces.
-/

namespace RecordFilter.Yaml12

open Yaml

/-- Indentation to return to. -/
structure Outer where
  column : Int
  /-- whether a block ends there; otherwise only the lines of one entry do -/
  endsBlock : Bool

structure Scanner where
  cursor : Cursor
  /-- whether only blanks stand before this on its line -/
  leading : Bool
  /-- the column that further lines must reach, or −1 outside all blocks -/
  indent : Int
  outers : List Outer
  keyAllowed : Bool
  /-- a possible key outside brackets and inside each open one, innermost first -/
  keys : List (Option PossibleKey)
  /-- whether the last mapping in brackets was started by a brace or a question mark -/
  explicitMapping : Bool
  /-- for each open square bracket whether an entry in it has become a mapping, innermost first -/
  entryMappings : List Bool
  /-- where a colon follows a quote or bracket -/
  adjacent : Nat
  /-- whether the last token is an anchor or a tag at the start of a line -/
  afterProperty : Bool
  /-- the tokens so far, last one first -/
  reversed : List Token

namespace Scanner

def start (text : List Char) : Scanner where
  cursor := .start text
  leading := true
  indent := -1
  outers := []
  keyAllowed := true
  keys := [none]
  explicitMapping := false
  entryMappings := []
  adjacent := 0
  afterProperty := false
  reversed := []

def inFlow (st : Scanner) : Bool := 1 < st.keys.length

def emit (st : Scanner) (t : Token) : Scanner :=
  { st with reversed := t :: st.reversed, afterProperty := false }

def insert (st : Scanner) (number : Nat) (t : Token) : Scanner :=
  { st with reversed := insertToken number t st.reversed }

def allowKey (st : Scanner) (allowed : Bool) : Scanner := { st with keyAllowed := allowed }

def skip (st : Scanner) (n : Nat) : Scanner :=
  { st with cursor := st.cursor.skip n, leading := st.leading && n == 0 }

def spaces? (st : Scanner) : Option Scanner :=
  (Yaml12.spaces? st.cursor).map fun (_, cursor) => { st with cursor }

/-! ## Keys -/

/-- Forgets the innermost possible key; it must not have been required. -/
def removeKey? (st : Scanner) : Option Scanner :=
  match st.keys with
  | some k :: outer => if k.required then none else some { st with keys := none :: outer }
  | _ => some st

def inBlock (st : Scanner) : Bool := st.outers.head?.any Outer.endsBlock

/-- Notes that a key may start here. It has to, if this is the column of a block. -/
def saveKey (st : Scanner) : Scanner :=
  if st.keyAllowed then
    let required := !st.inFlow && st.indent == st.cursor.mark.column && st.inBlock
    { st with keys := some ⟨required, st.reversed.length, st.cursor.mark⟩ :: st.keys.drop 1 }
  else st

/-- Outside brackets, forgets a key that lies too far back; it must not have been required. -/
def dropStaleKey? (st : Scanner) : Option Scanner :=
  match st.keys with
  | [some k] =>
    if !k.isStale st.cursor.mark then some st
    else if k.required then none
    else some { st with keys := [none] }
  | _ => some st

/-! ## Blocks -/

/-- Gives up indentation that is only that of one entry. -/
def unrollEntries (st : Scanner) : Scanner := go st.indent st.outers
where
  go (indent : Int) : List Outer → Scanner
    | [] => { st with indent, outers := [] }
    | o :: outers =>
      if o.endsBlock then { st with indent, outers := o :: outers } else go o.column outers

/-- Starts a block at a column that lies further in than the current block, at the end of the tokens
or after the first `number` ones. -/
def roll (st : Scanner) (column : Nat) (number : Option Nat) (t : Token) : Scanner :=
  if st.inFlow then st
  else
    let st :=
      match st.outers with
      | o :: outers =>
        if st.indent ≤ (column : Int) && !o.endsBlock then { st with indent := o.column, outers }
        else st
      | [] => st
    if st.indent < (column : Int) then
      let st := { st with indent := column, outers := ⟨st.indent, true⟩ :: st.outers }
      match number with
      | some n => st.insert n t
      | none => st.emit t
    else st

/-- Requires that the further lines of an entry of a block are indented more than the block. -/
def rollEntry (st : Scanner) : Scanner :=
  if !st.inFlow && st.inBlock then
    { st with indent := st.indent + 1, outers := ⟨st.indent, false⟩ :: st.outers }
  else st

def unroll (st : Scanner) (column : Int) : Scanner :=
  if st.inFlow then st else go st.indent st.outers st.reversed
where
  go (indent : Int) (outers : List Outer) (reversed : List Token) : Scanner :=
    if column < indent then
      match outers with
      | [] => { st with indent := -1, outers := [], reversed }
      | o :: outers => go o.column outers (if o.endsBlock then .blockEnd :: reversed else reversed)
    else { st with indent, outers, reversed }

/-! ## Spaces -/

/-- Passes over a line end. Outside brackets, a key may start after it. -/
def newline (st : Scanner) (cursor : Cursor) : Scanner :=
  { st with cursor, leading := true, keyAllowed := st.keyAllowed || !st.inFlow }

/-- Passes over spaces, comments and line ends. A tab where indentation is due may only stand on a
line without text. -/
def toNextToken? (st : Scanner) : Option Scanner :=
  match st.cursor.rest with
  | [] => some st
  | c :: _ =>
    let next : Option Scanner :=
      if isBlank c then
        if c == '\t' && !st.outers.isEmpty && st.leading && st.cursor.mark.column < st.indent then
          (restOfLine? st.cursor).map fun cursor => { st with cursor }
        else some { st with cursor := st.cursor.skip 1 }
      else if c == '#' then some { st with cursor := lineEnd st.cursor }
      else
        match afterBreak? st.cursor with
        | some cursor => some (st.newline cursor)
        | none => some st
    match next with
    | none => none
    | some next =>
      if next.cursor.rest.length < st.cursor.rest.length then next.toNextToken? else some next
termination_by st.cursor.rest.length

/-- Passes over spaces, comments and line ends after a question mark, but not over tabs. The flag
tells whether there was a space or line end. -/
def keySpaces (seen : Bool) (st : Scanner) : Bool × Scanner :=
  match st.cursor.rest with
  | [] => (seen, st)
  | c :: _ =>
    let (seen', next) : Bool × Scanner :=
      if c == ' ' then (true, { st with cursor := st.cursor.skip 1 })
      else if c == '#' then (seen, { st with cursor := lineEnd st.cursor })
      else
        match afterBreak? st.cursor with
        | some cursor => (true, st.newline cursor)
        | none => (seen, st)
    if next.cursor.rest.length < st.cursor.rest.length then next.keySpaces seen' else (seen', next)
termination_by st.cursor.rest.length

/-! ## Brackets -/

def maxFlowDepth : Nat := 255

def openBracket? (st : Scanner) (square : Bool) : Option Scanner := do
  let st := st.saveKey.rollEntry
  if st.keys.length = maxFlowDepth + 1 then none
  let st := ({ st with keys := none :: st.keys }.allowKey true).skip 1
  let st :=
    if square then { st with entryMappings := false :: st.entryMappings }
    else { st with explicitMapping := true }
  let st ← st.spaces?
  some (st.emit (if square then .flowSequenceStart else .flowMappingStart))

/-- Ends the mapping that an entry in square brackets has become. -/
def endEntryMapping (st : Scanner) : Scanner :=
  match st.entryMappings with
  | true :: outer =>
    { st with entryMappings := false :: outer, explicitMapping := false }.emit .flowMappingEnd
  | _ => st

def closeBracket? (st : Scanner) (square : Bool) : Option Scanner := do
  let st ← st.removeKey?
  let st := { st with keys := if st.inFlow then st.keys.drop 1 else st.keys }.allowKey false
  let st :=
    if square then
      let st := st.endEntryMapping
      { st with entryMappings := st.entryMappings.drop 1 }
    else st
  let st ← (st.skip 1).spaces?
  let st := if st.inFlow then { st with adjacent := st.cursor.mark.index } else st
  some (st.emit (if square then .flowSequenceEnd else .flowMappingEnd))

def flowComma? (st : Scanner) : Option Scanner := do
  let st ← st.removeKey?
  let st ← ((st.allowKey true).endEntryMapping.skip 1).spaces?
  some (st.emit .flowEntry)

/-! ## Entries of blocks -/

/-- The hyphen of an item, which needs to stand where a key could. -/
def blockDash? (st : Scanner) : Option Scanner := do
  let column := st.cursor.mark.column
  if st.inFlow || !st.keyAllowed || (st.afterProperty && column == 0 && -1 < st.indent) then none
  let st := (st.skip 1).roll column none .blockSequenceStart
  let (blanks, cursor) ← Yaml12.spaces? st.cursor
  if blanks.contains '\t' && cursor.rest.head? == some '-' && blankOrEnd (cursor.rest.drop 1) then
    none
  let st := { st with cursor }
  let st :=
    if (!cursor.rest.isEmpty && breakOrEnd cursor.rest) || beforeFlowIndicator cursor.rest then
      st.rollEntry
    else st
  let st ← st.removeKey?
  some (st.allowKey true |>.emit .blockEntry)

def questionMark? (st : Scanner) : Option Scanner := do
  let column := st.cursor.mark.column
  if !st.inFlow && !st.keyAllowed then none
  let st := if st.inFlow then { st with explicitMapping := true }
    else st.roll column none .blockMappingStart
  let st ← st.removeKey?
  let (seen, st) := ((st.allowKey !st.inFlow).skip 1).keySpaces false
  if !seen || st.cursor.rest.head? == some '\t' then none
  some (st.emit .key)

/-- Passes over a colon, and over a tab after it with the blanks that follow. Without spaces among
them, no word may come next. -/
def passColon? (st : Scanner) : Option Scanner :=
  let st := st.skip 1
  if st.cursor.rest.head? == some '\t' then
    match Yaml12.spaces? st.cursor with
    | some (blanks, cursor) =>
      if !blanks.contains ' ' && cursor.rest.head?.any isNameChar then none
      else some { st with cursor }
    | none => none
  else some st

/-- A colon: what was possibly a key is one, or this follows a key with a mark of its own, or there
is no key. -/
def colon? (st : Scanner) : Option Scanner := do
  let here := st.cursor.mark
  let startsMapping := !st.entryMappings.isEmpty && !st.explicitMapping
  let st :=
    if startsMapping then { st with entryMappings := true :: st.entryMappings.drop 1 } else st
  let st ← st.passColon?
  match st.keys with
  | some k :: outer =>
    if startsMapping && k.mark.line < here.line then none
    let st := st.insert k.number .key
    let st := if startsMapping then st.insert k.number .flowMappingStart else st
    let st := (st.roll k.mark.column (some k.number) .blockMappingStart).rollEntry
    some ({ st with keys := none :: outer }.allowKey false |>.emit .value)
  | _ =>
    let st := if startsMapping then st.emit .flowMappingStart else st
    if !st.inFlow && !st.keyAllowed then none
    let st := (st.roll here.column none .blockMappingStart).rollEntry
    some (st.allowKey !st.inFlow |>.emit .value)

/-! ## Tokens that a key may consist of -/

def property? (st : Scanner) (read : Cursor → Option (Token × Cursor)) : Option Scanner := do
  let (t, cursor) ← read st.cursor
  let alone := (t matches .anchor _ | .tag _) && st.cursor.mark.column == 0
  let st := ({ st.saveKey with cursor, leading := false }.allowKey false).emit t
  some { st with afterProperty := alone }

def quotedScalar? (st : Scanner) (single : Bool) : Option Scanner := do
  let line := st.cursor.mark.line
  let st := st.saveKey.allowKey false
  let (text, cursor) ← quoted? single st.indent [] (st.cursor.skip 1)
  let st ← { st with cursor, leading := false }.spaces?
  if !endsQuoted st.inFlow line st.cursor then none
  let st ← st.toNextToken?
  some ({ st with adjacent := st.cursor.mark.index }.emit (.scalar text false))

def plainScalar? (st : Scanner) : Option Scanner := do
  let st := (st.saveKey.allowKey false).unrollEntries
  let indent := st.indent + 1
  if st.inFlow && st.cursor.mark.column < indent then none
  let ((text, leading), cursor) ← plain? st.inFlow indent st.leading [] Gap.none st.cursor
  if text.isEmpty then none
  some ({ st with cursor, leading, keyAllowed := leading }.emit (.scalar text true))

def blockScalar? (st : Scanner) (literal : Bool) : Option Scanner := do
  let st := (st.saveKey.allowKey true).unrollEntries
  let line := st.cursor.mark.line
  let (text, cursor) ← block? literal st.indent (st.cursor.skip 1)
  some ({ st with cursor, leading := line < cursor.mark.line }.emit (.scalar text false))

/-! ## All tokens -/

/-- A line of the document structure: no block or key goes on across it. -/
def breakOff? (st : Scanner) : Option Scanner :=
  (st.unroll (-1)).removeKey?.map (·.allowKey false)

def documentMark? (st : Scanner) (mark : Char) : Option Scanner := do
  let st ← st.breakOff?
  if mark == '-' then some (st.skip 3 |>.emit .documentStart)
  else
    let st := st.skip 3 |>.emit .documentEnd
    let cursor ← restOfLine? st.cursor
    some { st with cursor }

def endsKey (st : Scanner) (s : List Char) : Bool :=
  blankOrEnd s ||
    (st.inFlow && (beforeFlowIndicator s || st.cursor.mark.index == st.adjacent))

def token? (st : Scanner) (c : Char) (s : List Char) : Option Scanner :=
  let margin := st.cursor.mark.column == 0
  let named (toToken : List Char → Token) :=
    st.property? fun c => (anchorName? (c.skip 1)).map fun (n, c) => (toToken n, c)
  if margin && c == '%' then do
    let st ← st.breakOff?
    let (t, cursor) ← directive? (st.cursor.skip 1)
    some ({ st with cursor, leading := true }.emit t)
  else if margin && documentMark st.cursor.rest then st.documentMark? c
  else if st.cursor.mark.column < st.indent then none
  else if c == '[' then st.openBracket? true
  else if c == '\x7b' then st.openBracket? false
  else if c == ']' then st.closeBracket? true
  else if c == '\x7d' then st.closeBracket? false
  else if c == ',' then st.flowComma?
  else if c == '-' && blankOrEnd s then st.blockDash?
  else if c == '?' && blankOrEnd s then st.questionMark?
  else if c == ':' && st.endsKey s then st.colon?
  else if c == '*' then named .reference
  else if c == '&' then named .anchor
  else if c == '!' then st.property? (tag? st.inFlow)
  else if c == '|' && !st.inFlow then st.blockScalar? true
  else if c == '>' && !st.inFlow then st.blockScalar? false
  else if c == '\'' then st.quotedScalar? true
  else if c == '"' then st.quotedScalar? false
  else if c == '%' || c == '@' || c == '\x60' then none
  else st.plainScalar?

/-- Ends all blocks. A key that is required must not be missing. -/
def finish? (st : Scanner) : Option (List Token) :=
  if st.keys.any fun k => k.any PossibleKey.required then none
  else some (st.unroll (-1)).reversed.reverse

def run? (st : Scanner) : Option (List Token) :=
  match st.toNextToken?.bind dropStaleKey? with
  | none => none
  | some next =>
    let next := next.unroll next.cursor.mark.column
    match next.cursor.rest with
    | [] => next.finish?
    | c :: s =>
      match next.token? c s with
      | none => none
      | some st' => if st'.cursor.rest.length < st.cursor.rest.length then st'.run? else none
termination_by st.cursor.rest.length

end Scanner

/-- The tokens of a text, which ends at the first null character. -/
def tokens? (text : List Char) : Option (List Token) :=
  (Scanner.start (text.takeWhile (· != '\x00'))).run?

end RecordFilter.Yaml12
