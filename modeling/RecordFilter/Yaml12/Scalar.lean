import RecordFilter.Yaml.Scalar
import RecordFilter.Yaml12.Line

/-!
# Scalars of YAML 1.2

The five ways to write a scalar: plain, in single or double quotes, and as a literal or folded
block. Further lines are indented more than the block around them, also those in quotes. Tabs may
stand in front of text only where the indentation is complete.
-/

namespace RecordFilter.Yaml12

open Yaml

/-! ## Plain scalars -/

def continuesPlain (inFlow : Bool) (c : Char) (s : List Char) : Bool :=
  !(isBlank c || isBreak c || (inFlow && isFlowIndicator c) ||
    (c == ':' && (blankOrEnd s || (inFlow && beforeFlowIndicator s))))

def plainWord (inFlow : Bool) (acc : List Char) (m : Mark) (s : List Char) : List Char × Cursor :=
  match s with
  | [] => (acc.reverse, ⟨m, []⟩)
  | c :: s =>
    if continuesPlain inFlow c s then plainWord inFlow (c :: acc) (m.right 1) s
    else (acc.reverse, ⟨m, c :: s⟩)

/-- Reads the gap between two words of a plain scalar. A line with a tab where indentation is due
must not have any text. -/
def plainGap? (indent : Int) (g : Gap) (c : Cursor) : Option (Gap × Cursor) :=
  match _h : c.rest with
  | [] => some (g, c)
  | ch :: s =>
    if isBlank ch then
      if g.broken && ch == '\t' && c.mark.column < indent then
        match restOfLine? c with
        | some next =>
          if _ : next.rest.length < c.rest.length then plainGap? indent g next else none
        | none => none
      else plainGap? indent (g.addBlank ch) ⟨c.mark.right 1, s⟩
    else
      match afterBreak? c with
      | some next =>
        if _ : next.rest.length < c.rest.length then plainGap? indent (g.addBreak '\n') next
        else none
      | none => some (g, c)
termination_by c.rest.length
decreasing_by all_goals simp_all

/-- Reads a plain scalar, continuing after `text` and then a gap. Outside brackets its further lines
start at column `indent` or later. The flag tells whether a line end follows the scalar; `leading`
tells whether only blanks stand before the place on its line. -/
def plain? (inFlow : Bool) (indent : Int) (leading : Bool) (text : List Char) (gap : Gap)
    (c : Cursor) : Option ((List Char × Bool) × Cursor) :=
  if (leading && documentMark c.rest) || c.rest.head? == some '#' then
    some ((text, leading), c)
  else if inFlow && c.rest.head? == some '-' && beforeFlowIndicator (c.rest.drop 1) then none
  else
    match plainWord inFlow [] c.mark c.rest with
    | ([], _) => some ((text, leading), c)
    | (word, after) =>
      let text := text ++ gap.text ++ word
      if !after.rest.isEmpty && blankOrEnd after.rest then
        match plainGap? indent Gap.none after with
        | none => none
        | some (gap, next) =>
          if !inFlow && next.mark.column < indent then some ((text, gap.broken), next)
          else if next.rest.length < c.rest.length then
            plain? inFlow indent gap.broken text gap next
          else none
      else some ((text, false), after)
termination_by c.rest.length

/-! ## Quoted scalars -/

/-- Takes characters of a quoted scalar up to a blank, a line end or the closing quote. The flag
tells whether they end with an escaped line end. -/
def quotedWord? (single : Bool) (acc : List Char) (m : Mark) (s : List Char) :
    Option ((List Char × Bool) × Cursor) :=
  match s with
  | [] => some ((acc.reverse, false), ⟨m, []⟩)
  | c :: s =>
    if single && c == '\'' && s.head? == some '\'' then
      quotedWord? single ('\'' :: acc) (m.right 2) (s.drop 1)
    else if isBlank c || isBreak c || c == quoteChar single then
      some ((acc.reverse, false), ⟨m, c :: s⟩)
    else if !single && c == '\\' then
      match afterBreak? ⟨m.right 1, s⟩ with
      | some next => some ((acc.reverse, true), next)
      | none =>
        match escape? s with
        | none => none
        | some (d, n) => quotedWord? single (d :: acc) (m.right (n + 1)) (s.drop n)
    else quotedWord? single (c :: acc) (m.right 1) s
termination_by s.length
decreasing_by all_goals simp only [List.length_cons, List.length_drop]; omega

/-- Reads the gap between two words in quotes. After a line end, no tab may stand before the column
of the block around. -/
def quotedGap? (indent : Int) (g : Gap) (m : Mark) (s : List Char) : Option (Gap × Cursor) :=
  match s with
  | [] => some (g, ⟨m, []⟩)
  | '\r' :: '\n' :: s => quotedGap? indent (g.addBreak '\n') (m.down 2) s
  | c :: s =>
    if isBlank c then
      if g.broken && c == '\t' && m.column < indent then none
      else quotedGap? indent (g.addBlank c) (m.right 1) s
    else if isBreak c then quotedGap? indent (g.addBreak '\n') (m.down 1) s
    else some (g, ⟨m, c :: s⟩)

def quoted? (single : Bool) (indent : Int) (text : List Char) (c : Cursor) :
    Option (List Char × Cursor) :=
  if (c.mark.column == 0 && documentMark c.rest) || c.rest.isEmpty || c.mark.column < indent then
    none
  else
    match quotedWord? single [] c.mark c.rest with
    | none => none
    | some ((word, continued), after) =>
      if after.rest.head? == some (quoteChar single) then some (text ++ word, after.skip 1)
      else
        match quotedGap? indent (if continued then Gap.continued else Gap.none) after.mark
            after.rest with
        | none => none
        | some (gap, next) =>
          if next.rest.length < c.rest.length then
            quoted? single indent (text ++ word ++ gap.text) next
          else none
termination_by c.rest.length

/-- What may follow on its line after the closing quote of a scalar that started on `line`: the end
of the line, the colon of a key, or inside brackets what ends an entry. -/
def endsQuoted (inFlow : Bool) (line : Nat) (c : Cursor) : Bool :=
  match c.rest with
  | [] => true
  | ch :: _ =>
    isBreak ch || (ch == ':' && (inFlow || line == c.mark.line)) ||
      (inFlow && (ch == ',' || ch == ']' || ch == '\x7d'))

/-! ## Block scalars -/

/-- Passes over empty lines and up to `limit` columns of spaces, if there is a limit. The widest
indentation of a line is given besides the number of line ends. -/
def blockBreaks (limit : Option Nat) (widest breaks : Nat) (m : Mark) (s : List Char) :
    (Nat × Nat) × Cursor :=
  let widest' := max widest m.column
  match s with
  | [] => ((breaks, widest'), ⟨m, []⟩)
  | '\r' :: '\n' :: s => blockBreaks limit widest' (breaks + 1) (m.down 2) s
  | c :: s =>
    if c == ' ' && limit.all (m.column < ·) then blockBreaks limit widest breaks (m.right 1) s
    else if isBreak c then blockBreaks limit widest' (breaks + 1) (m.down 1) s
    else ((breaks, widest'), ⟨m, c :: s⟩)

structure BlockState where
  text : List Char
  /-- whether the last line had an end -/
  broken : Bool
  /-- how many line ends came after that one -/
  laterBreaks : Nat
  /-- whether the last line started with a blank; such lines are not folded -/
  blankLine : Bool

def lineFeeds (n : Nat) : List Char := List.replicate n '\n'

def blockLines? (literal : Bool) (indent : Nat) (st : BlockState) (c : Cursor) :
    Option (BlockState × Cursor) :=
  match c.rest with
  | [] => some (st, c)
  | first :: _ =>
    if c.mark.column ≠ indent ∨ (indent = 0 ∧ tripled '.' c.rest) then some (st, c)
    else
      let blank := isBlank first
      let joined :=
        if !literal && st.broken && !st.blankLine && !blank then
          if st.laterBreaks = 0 then [' '] else lineFeeds st.laterBreaks
        else lineFeeds ((if st.broken then 1 else 0) + st.laterBreaks)
      let (line, after) := c.span fun ch => !isBreak ch
      let text := st.text ++ joined ++ line
      match afterBreak? after with
      | none => some (⟨text, false, 0, blank⟩, after)
      | some next =>
        let ((laterBreaks, _), next) := blockBreaks (some indent) 0 0 next.mark next.rest
        if next.rest.length < c.rest.length then
          blockLines? literal indent ⟨text, true, laterBreaks, blank⟩ next
        else none
termination_by c.rest.length

/-- What stands for the line ends of a block without any text, up to the end of the document.
`headEnds` tells whether its first line has an end, and `breaks` counts those after it. -/
def emptyBlock (chomping : Chomping) (headEnds : Bool) (breaks : Nat) : List Char :=
  match chomping with
  | .strip => []
  | .clip => if headEnds then ['\n'] else []
  | .keep => if headEnds then lineFeeds (max breaks 1) else []

/-- Reads a block scalar after its indicator. `parent` is the column of the block around it. -/
def block? (literal : Bool) (parent : Int) (c : Cursor) : Option (List Char × Cursor) := do
  let ((chomping, increment), head) ← blockIndicators? c
  let head ← restOfLine? head
  let body := (afterBreak? head).getD head
  if body.rest.head? == some '\t' then none
  let given := increment.map fun n => parent.toNat + n
  let ((breaks, widest), first) := blockBreaks given 0 0 body.mark body.rest
  let indent := given.getD (max widest (parent + 1).toNat)
  if first.rest.isEmpty then
    some (emptyBlock chomping (c.mark.line < first.mark.line) breaks, first)
  else if first.mark.column < indent ∧ parent < first.mark.column then none
  else
    let (st, last) ← blockLines? literal indent ⟨[], false, breaks, false⟩ first
    let completed := if last.rest.isEmpty ∧ max indent 1 ≤ last.mark.column then ['\n'] else []
    let tail := match chomping with
      | .strip => []
      | .clip => (if st.broken then ['\n'] else []) ++ completed
      | .keep => (if st.broken then ['\n'] else []) ++ completed ++ lineFeeds st.laterBreaks
    some (st.text ++ tail, last)

end RecordFilter.Yaml12
