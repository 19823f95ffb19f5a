import RecordFilter.Yaml.Scalar
import RecordFilter.Yaml11.Line

/-!
# Scalars of YAML 1.1

The five ways to write a scalar: plain, in single or double quotes, and as a literal or folded
block. A block ends where a line is indented less.
-/

namespace RecordFilter.Yaml11

open Yaml

/-- Reads a gap. After a line end, no tab may stand before the column `tabLimit`. -/
def gap? (tabLimit : Nat) (g : Gap) (m : Mark) (s : List Char) : Option (Gap × Cursor) :=
  match s with
  | [] => some (g, ⟨m, []⟩)
  | '\r' :: '\n' :: s => gap? tabLimit (g.addBreak '\n') (m.down 2) s
  | c :: s =>
    if isBlank c then
      if g.broken && m.column < tabLimit && c == '\t' then none
      else gap? tabLimit (g.addBlank c) (m.right 1) s
    else if c == '\u2028' || c == '\u2029' then gap? tabLimit (g.addBreak c) (m.down 1) s
    else if isBreak c then gap? tabLimit (g.addBreak '\n') (m.down 1) s
    else some (g, ⟨m, c :: s⟩)

/-! ## Plain scalars -/

/-- Takes characters of a plain scalar up to a blank, a line end, a colon before one of these, or
inside brackets up to an indicator. There, a colon right before an indicator is refused. -/
def plainWord? (inFlow : Bool) (acc : List Char) (m : Mark) (s : List Char) :
    Option (List Char × Cursor) :=
  match s with
  | [] => some (acc.reverse, ⟨m, []⟩)
  | c :: s =>
    if isBlank c || isBreak c then some (acc.reverse, ⟨m, c :: s⟩)
    else if inFlow && c == ':' && s.head?.any fun d => isFlowIndicator d || d == '?' then none
    else if (c == ':' && blankOrEnd s) || (inFlow && isFlowIndicator c) then
      some (acc.reverse, ⟨m, c :: s⟩)
    else plainWord? inFlow (c :: acc) (m.right 1) s

/-- Reads a plain scalar, continuing after `text` and then a gap. Its further lines start at column
`indent` or later, except inside brackets. The flag tells whether a line end follows the scalar. -/
def plain? (inFlow : Bool) (indent : Nat) (text : List Char) (gap : Gap) (c : Cursor) :
    Option ((List Char × Bool) × Cursor) :=
  if atDocumentMark c || c.rest.head? == some '#' then some ((text, gap.broken), c)
  else
    match plainWord? inFlow [] c.mark c.rest with
    | none => none
    | some ([], _) => some ((text, gap.broken), c)
    | some (word, after) =>
      let text := text ++ gap.text ++ word
      if blankOrEnd after.rest then
        match gap? indent Gap.none after.mark after.rest with
        | none => none
        | some (gap, next) =>
          if !inFlow && next.mark.column < indent then some ((text, gap.broken), next)
          else if next.rest.length < c.rest.length then plain? inFlow indent text gap next
          else some ((text, gap.broken), next)
      else some ((text, false), after)
termination_by c.rest.length

/-! ## Quoted scalars -/

/-- Takes characters of a quoted scalar up to a blank, a line end or the closing quote. The flag
tells whether they end with an escaped line end. -/
def quotedWord? (single : Bool) (acc : List Char) (m : Mark) (s : List Char) :
    Option ((List Char × Bool) × Cursor) :=
  match s with
  | [] => some ((acc.reverse, false), ⟨m, []⟩)
  | c :: s =>
    if single && c == '\'' && s.head? == some '\'' then
      quotedWord? single ('\'' :: acc) (m.right 2) (s.drop 1)
    else if isBlank c || isBreak c || c == quoteChar single then
      some ((acc.reverse, false), ⟨m, c :: s⟩)
    else if !single && c == '\\' then
      match lineBreak? ⟨m.right 1, s⟩ with
      | some (_, next) => some ((acc.reverse, true), next)
      | none =>
        match escape? s with
        | none => none
        | some (d, n) => quotedWord? single (d :: acc) (m.right (n + 1)) (s.drop n)
    else quotedWord? single (c :: acc) (m.right 1) s
termination_by s.length
decreasing_by all_goals simp only [List.length_cons, List.length_drop]; omega

def quoted? (single : Bool) (text : List Char) (c : Cursor) : Option (List Char × Cursor) :=
  if atDocumentMark c then none
  else
    match quotedWord? single [] c.mark c.rest with
    | none => none
    | some ((word, continued), after) =>
      if after.rest.head? == some (quoteChar single) then
        some (text ++ word, after.skip 1)
      else
        match gap? 0 (if continued then Gap.continued else Gap.none) after.mark after.rest with
        | none => none
        | some (gap, next) =>
          if next.rest.length < c.rest.length then quoted? single (text ++ word ++ gap.text) next
          else none
termination_by c.rest.length

/-! ## Block scalars -/

def blockHead? (c : Cursor) : Option ((Chomping × Option Nat) × Cursor) := do
  let (head, c) ← blockIndicators? c
  let c ← restOfLine? c
  some (head, c)

/-- Passes over empty lines and indentation. `indent` is the indentation of the block, or zero if
it is not known yet; then the widest line so far is given besides the line ends. -/
def blockBreaks? (indent widest : Nat) (acc : List Char) (m : Mark) (s : List Char) :
    Option ((List Char × Nat) × Cursor) :=
  let widest' := max widest m.column
  match s with
  | [] => some ((acc.reverse, widest'), ⟨m, []⟩)
  | '\r' :: '\n' :: s => blockBreaks? indent widest' ('\n' :: acc) (m.down 2) s
  | c :: s =>
    if c == ' ' && (indent == 0 || m.column < indent) then
      blockBreaks? indent widest acc (m.right 1) s
    else if c == '\t' && (indent == 0 || m.column < indent) then none
    else if c == '\u2028' || c == '\u2029' then blockBreaks? indent widest' (c :: acc) (m.down 1) s
    else if isBreak c then blockBreaks? indent widest' ('\n' :: acc) (m.down 1) s
    else some ((acc.reverse, widest'), ⟨m, c :: s⟩)

structure BlockState where
  text : List Char
  firstBreak : List Char
  laterBreaks : List Char
  /-- whether the last line started with a blank; such lines are not folded -/
  blankLine : Bool

def blockLines? (literal : Bool) (indent : Nat) (st : BlockState) (c : Cursor) :
    Option (BlockState × Cursor) :=
  match c.rest with
  | [] => some (st, c)
  | first :: _ =>
    if c.mark.column ≠ indent then some (st, c)
    else
      let blank := isBlank first
      let joined :=
        if !literal && st.firstBreak == ['\n'] && !st.blankLine && !blank then
          if st.laterBreaks.isEmpty then [' '] else []
        else st.firstBreak
      let (line, after) := c.span fun ch => !isBreak ch
      let text := st.text ++ joined ++ st.laterBreaks ++ line
      let (firstBreak, next) := match lineBreak? after with
        | some (b, next) => ([b], next)
        | none => ([], after)
      match blockBreaks? indent 0 [] next.mark next.rest with
      | none => none
      | some ((laterBreaks, _), next) =>
        if next.rest.length < c.rest.length then
          blockLines? literal indent ⟨text, firstBreak, laterBreaks, blank⟩ next
        else none
termination_by c.rest.length

/-- Reads a block scalar after its indicator. `parent` is the indentation around it, if any. -/
def block? (literal : Bool) (parent : Option Nat) (c : Cursor) : Option (List Char × Cursor) := do
  let ((chomping, increment), c) ← blockHead? c
  let given := (increment.map fun n => parent.getD 0 + n).getD 0
  let ((breaks, widest), c) ← blockBreaks? given 0 [] c.mark c.rest
  let indent := if given = 0 then max widest (max ((parent.map (· + 1)).getD 0) 1) else given
  let (st, c) ← blockLines? literal indent ⟨[], [], breaks, false⟩ c
  let tail := match chomping with
    | .strip => []
    | .clip => st.firstBreak
    | .keep => st.firstBreak ++ st.laterBreaks
  some (st.text ++ tail, c)

end RecordFilter.Yaml11
