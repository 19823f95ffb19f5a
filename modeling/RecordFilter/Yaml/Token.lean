import RecordFilter.Yaml.Position

/-!
# YAML tokens

A text is cut into tokens in which the structure given by indentation is explicit: where a line is
indented more, a block starts, and blocks end where one is indented less. A key is only known as
such at the colon after it. So the place of every token that could be a key is kept until then, and
the tokens for the key and for the collection that it starts are put in there.
-/

namespace RecordFilter.Yaml

/-- A tag. Its handle stands for the start of a longer name; without a handle it is empty. -/
structure Tag where
  handle : List Char
  suffix : List Char
deriving DecidableEq, Repr

inductive Token where
  | version (major minor : List Char)
  | tagDirective (handle start : List Char)
  | documentStart
  | documentEnd
  | blockSequenceStart
  | blockMappingStart
  | blockEnd
  | flowSequenceStart
  | flowSequenceEnd
  | flowMappingStart
  | flowMappingEnd
  | blockEntry
  | flowEntry
  | key
  | value
  | reference (name : List Char)
  | anchor (name : List Char)
  | tag (t : Tag)
  | scalar (text : List Char) (plain : Bool)
deriving DecidableEq, Repr

structure PossibleKey where
  /-- whether there is an error if it turns out to be none -/
  required : Bool
  /-- how many tokens lie before it -/
  number : Nat
  mark : Mark

/-- The longest key that is not recognized by a mark of its own. -/
def maxKeyLength : Nat := 1024

def PossibleKey.isStale (k : PossibleKey) (here : Mark) : Bool :=
  k.mark.line < here.line || k.mark.index + maxKeyLength < here.index

/-- Puts a token after the first `number` ones of a list that has the last one first. -/
def insertToken (number : Nat) (t : Token) (reversed : List Token) : List Token :=
  let later := reversed.length - number
  reversed.take later ++ t :: reversed.drop later

end RecordFilter.Yaml
