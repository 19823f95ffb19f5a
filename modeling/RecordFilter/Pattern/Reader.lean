import RecordFilter.Pattern.ClassReader

/-!
# Reading patterns

A pattern is read with a stack of the groups it lies in. `Written.read?` gives its structure, or
nothing if the text is no pattern or nests too deeply.
-/

namespace RecordFilter.Written

/-- What was read of one group: its finished branches and the items of the current one, both last
one first. -/
structure Branches where
  finished : List Written
  items : List Written

namespace Branches

def start : Branches := ⟨[], []⟩

def add (b : Branches) (item : Written) : Branches := { b with items := item :: b.items }

def bar (b : Branches) : Branches := ⟨ofItems b.items.reverse :: b.finished, []⟩

def written (b : Branches) : Written := ofBranches b.bar.finished.reverse

/-- Applies a repetition to the last item. There must be one, and a change of flags is none. -/
def repeatLast? (b : Branches) (min : Nat) (max : Option Nat) (lazy : Bool) : Option Branches :=
  match b.items with
  | [] => none
  | .empty :: _ => none
  | .flags _ :: _ => none
  | item :: items => some { b with items := .repeated item min max lazy :: items }

end Branches

structure OpenGroup where
  captures : Bool
  changes : FlagChanges
  outerIgnoresSpace : Bool
  outer : Branches

structure ReaderState where
  ignoreSpace : Bool
  current : Branches
  groups : List OpenGroup
  names : List (List Char)

namespace ReaderState

def add (st : ReaderState) (item : Written) : ReaderState :=
  { st with current := st.current.add item }

def openGroup (st : ReaderState) (captures : Bool) (changes : FlagChanges) : ReaderState :=
  { st with
    ignoreSpace := (changes.get? .ignoreSpace).getD st.ignoreSpace
    current := Branches.start
    groups := ⟨captures, changes, st.ignoreSpace, st.current⟩ :: st.groups }

def closeGroup? (st : ReaderState) : Option ReaderState :=
  match st.groups with
  | [] => none
  | g :: groups =>
    some { st with
      ignoreSpace := g.outerIgnoresSpace
      current := g.outer.add (.group g.captures g.changes st.current.written)
      groups := groups }

end ReaderState

def flag? : Char → Option Flag
  | 'i' => some .ignoreCase
  | 'm' => some .multiLine
  | 's' => some .dotMatchesNewLine
  | 'U' => some .swapGreed
  | 'u' => some .unicode
  | 'R' => some .crlf
  | 'x' => some .ignoreSpace
  | _ => none

/-- Flags up to a colon or a closing parenthesis, which is given too. No flag comes twice, and the
one minus sign, if any, is followed by a flag. -/
def flagChanges? (negated dangling : Bool) (acc : FlagChanges) :
    List Char → Option (FlagChanges × Char × List Char)
  | [] => none
  | c :: s =>
    if c = ':' ∨ c = ')' then if dangling then none else some (acc.reverse, c, s)
    else if c = '-' then if negated then none else flagChanges? true true acc s
    else
      match flag? c with
      | none => none
      | some f =>
        if acc.any fun change => change.1 = f then none
        else flagChanges? negated false ((f, !negated) :: acc) s

def isNameChar (c : Char) : Bool :=
  c == '_' || c == '.' || c == '[' || c == ']' || Unicode.isAlphanumeric c

def groupName? (s : List Char) : Option (List Char × List Char) :=
  match s.span (· ≠ '>') with
  | (c :: cs, '>' :: rest) =>
    if (c == '_' || Unicode.isAlphabetic c) && cs.all isNameChar then some (c :: cs, rest) else none
  | _ => none

def namedGroup? (st : ReaderState) (s : List Char) : Option (ReaderState × List Char) := do
  let (name, s) ← groupName? s
  if st.names.contains name then none
  else some ({ st.openGroup true [] with names := name :: st.names }, s)

/-- What an opening parenthesis starts: a group, or a change of flags for the rest of this one.
There is no looking around. -/
def groupStart? (st : ReaderState) (s : List Char) : Option (ReaderState × List Char) :=
  match skip st.ignoreSpace s with
  | '?' :: '=' :: _ => none
  | '?' :: '!' :: _ => none
  | '?' :: '<' :: '=' :: _ => none
  | '?' :: '<' :: '!' :: _ => none
  | '?' :: 'P' :: '<' :: s => namedGroup? st s
  | '?' :: '<' :: s => namedGroup? st s
  | '?' :: s =>
    match flagChanges? false false [] s with
    | none => none
    | some (changes, stop, s) =>
      if stop = ':' then some (st.openGroup false changes, s)
      else if changes.isEmpty then none
      else
        some ({ st.add (.flags changes) with
          ignoreSpace := (changes.get? .ignoreSpace).getD st.ignoreSpace }, s)
  | s => some (st.openGroup true [], s)

def bounds? : Reader (Nat × Option Nat) := fun x s => do
  let (min, s) ← counter? x (skip x s)
  match s with
  | '\x7d' :: s => some ((min, some min), s)
  | ',' :: s =>
    match skip x s with
    | '\x7d' :: s => some ((min, none), s)
    | s =>
      let (max, s) ← counter? x s
      match s with
      | '\x7d' :: s => if min ≤ max then some ((min, some max), s) else none
      | _ => none
  | _ => none

/-- Applies a repetition to the last item. A question mark after it makes it take as little as
possible. -/
def repeatLast? (st : ReaderState) (min : Nat) (max : Option Nat) (s : List Char) :
    Option (ReaderState × List Char) :=
  let lazy := s.head? == some '?'
  (st.current.repeatLast? min max lazy).map fun b =>
    ({ st with current := b }, if lazy then s.drop 1 else s)

def addItem? (st : ReaderState) (item : Option (Written × List Char)) :
    Option (ReaderState × List Char) :=
  item.map fun (w, s) => (st.add w, s)

def step? (st : ReaderState) (c : Char) (s : List Char) : Option (ReaderState × List Char) :=
  match c with
  | '(' => groupStart? st s
  | ')' => st.closeGroup?.map (·, s)
  | '|' => some ({ st with current := st.current.bar }, s)
  | '[' => addItem? st (class? st.ignoreSpace s)
  | '?' => repeatLast? st 0 (some 1) s
  | '*' => repeatLast? st 0 none s
  | '+' => repeatLast? st 1 none s
  | '\x7b' => do
    let ((min, max), s) ← bounds? st.ignoreSpace s
    repeatLast? st min max (skip st.ignoreSpace s)
  | '\\' => addItem? st (escape? st.ignoreSpace s)
  | '.' => some (st.add .dot, s)
  | '^' => some (st.add (.anchor .lineStart), s)
  | '$' => some (st.add (.anchor .lineEnd), s)
  | c => some (st.add (.literal ⟨c, false⟩), s)

/-- Takes constructs to the end of the text, where no group may be open. -/
def run? (st : ReaderState) (s : List Char) : Option Written :=
  match skip st.ignoreSpace s with
  | [] => if st.groups.isEmpty then some st.current.written else none
  | c :: rest =>
    match step? st c rest with
    | none => none
    | some (st, rest') => if rest'.length < s.length then run? st rest' else none
termination_by s.length

def read? (ignoreSpace : Bool) (text : List Char) : Option Written :=
  (run? ⟨ignoreSpace, Branches.start, [], []⟩ text).filter fun w => w.depth ≤ maxDepth

end RecordFilter.Written
