import RecordFilter.Pattern

/-!
# Patterns as written

The structure of a pattern text, before options such as case insensitivity are applied. Its depth
counts the constructs that lie inside one another; a pattern deeper than `maxDepth` is refused.
-/

namespace RecordFilter.Written

/-- A character of a pattern; `byte` marks one given by exactly two hexadecimal digits. -/
structure Literal where
  char : Char
  byte : Bool
deriving DecidableEq, Repr

inductive ShortClass where
  | digit
  | space
  | word
deriving DecidableEq, Repr

inductive AsciiClass where
  | alnum | alpha | ascii | blank | cntrl | digit | graph | lower | print | punct | space | upper
  | word | xdigit
deriving DecidableEq, Repr

/-- A character property: by one name, or as a value of a property. -/
inductive Property where
  | named (name : List Char)
  | valued (property value : List Char)
deriving DecidableEq, Repr

inductive ClassKind where
  | short (c : ShortClass)
  | ascii (c : AsciiClass)
  | property (p : Property)
deriving DecidableEq, Repr

structure NamedClass where
  kind : ClassKind
  negated : Bool
deriving DecidableEq, Repr

inductive SetOperator where
  | intersection
  | difference
  | symmetricDifference
deriving DecidableEq, Repr

inductive ClassBody where
  | empty
  | literal (l : Literal)
  | range (first last : Literal)
  | named (c : NamedClass)
  | bracketed (negated : Bool) (body : ClassBody)
  | union (items : List ClassBody)
  | operation (op : SetOperator) (left right : ClassBody)
deriving Repr

namespace ClassBody

/-- Items side by side; a single one stands for itself. -/
def ofItems : List ClassBody → ClassBody
  | [] => empty
  | [item] => item
  | items => union items

mutual

def depth : ClassBody → Nat
  | bracketed _ body => body.depth + 1
  | union items => maxDepthOf items + 1
  | operation _ left right => max left.depth right.depth + 1
  | _ => 0

def maxDepthOf : List ClassBody → Nat
  | [] => 0
  | b :: bs => max b.depth (maxDepthOf bs)

end

end ClassBody

inductive Anchor where
  | lineStart
  | lineEnd
  | textStart
  | textEnd
  | word (edge : WordEdge)
deriving DecidableEq, Repr

inductive Flag where
  | ignoreCase
  | multiLine
  | dotMatchesNewLine
  | swapGreed
  | unicode
  | crlf
  | ignoreSpace
deriving DecidableEq, Repr

abbrev FlagChanges := List (Flag × Bool)

/-- What the changes say about a flag; the first one decides. -/
def FlagChanges.get? (changes : FlagChanges) (flag : Flag) : Option Bool :=
  (changes.find? fun c => c.1 = flag).map Prod.snd

end Written

inductive Written where
  | empty
  | flags (changes : Written.FlagChanges)
  | literal (l : Written.Literal)
  | dot
  | anchor (a : Written.Anchor)
  | named (c : Written.NamedClass)
  | bracketed (negated : Bool) (body : Written.ClassBody)
  | repeated (item : Written) (min : Nat) (max : Option Nat) (lazy : Bool)
  | group (captures : Bool) (changes : Written.FlagChanges) (body : Written)
  | alternatives (branches : List Written)
  | sequence (items : List Written)
deriving Repr

namespace Written

def ofItems : List Written → Written
  | [] => empty
  | [item] => item
  | items => sequence items

def ofBranches : List Written → Written
  | [] => empty
  | [branch] => branch
  | branches => alternatives branches

mutual

def depth : Written → Nat
  | bracketed _ body => body.depth + 1
  | repeated item _ _ _ => item.depth + 1
  | group _ _ body => body.depth + 1
  | alternatives branches => maxDepthOf branches + 1
  | sequence items => maxDepthOf items + 1
  | _ => 0

def maxDepthOf : List Written → Nat
  | [] => 0
  | w :: ws => max w.depth (maxDepthOf ws)

end

def maxDepth : Nat := 250

end Written

end RecordFilter
