import RecordFilter.Binary64.Decimal
import RecordFilter.Binary64.Text
import RecordFilter.Entries
import RecordFilter.Integer64

/-!
# Settings

Settings are put together from values under keys, later ones counting. A value need not have the
type of its setting: texts are made of simple values, and switches are told from words and numbers.
Keys that are no settings play no part.
-/

namespace RecordFilter

structure Settings where
  /-- the file with the synonyms -/
  synonyms : Option String
  /-- whether records may be checked on several threads -/
  parallel : Bool
deriving DecidableEq, Repr

namespace Settings

def default : Settings := ⟨none, true⟩

instance : Inhabited Settings := ⟨default⟩

/-- A value under a key. What a list or a table holds plays no part. -/
inductive Value where
  | null
  | bool (b : Bool)
  | integer (n : Int)
  | float (x : Binary64)
  | string (s : String)
  | collection
deriving Repr

namespace Value

/-- The text of a value, if there is one. Null is the absence of a text. -/
def text? : Value → Option (Option String)
  | null => some none
  | bool b => some (some (toString b))
  | integer n => some (some (toString n))
  | float x => some (some x.plainText)
  | string s => some (some s)
  | collection => none

def onWords : List String := ["1", "true", "on", "yes"]

def offWords : List String := ["0", "false", "off", "no"]

def word? (s : String) : Option Bool :=
  let s := String.ofList (s.toList.map Char.toLower)
  if onWords.contains s then some true
  else if offWords.contains s then some false
  else none

/-- What a value says of a switch. Every number other than zero turns it on. -/
def switch? : Value → Option Bool
  | bool b => some b
  | integer n => some (n != 0)
  | float x => some (!x.sameValue Binary64.zero)
  | string s => word? s
  | null => none
  | collection => none

end Value

abbrev Source := List (String × Value)

/-! ## Keys -/

def isKeyChar (c : Char) : Bool := c.isAlphanum || c == '_' || c == '-'

/-- A place in a list, between its brackets: an integer of 64 bits. -/
def isIndex (s : List Char) : Bool :=
  let s := s.dropWhile fun c => c == ' ' || c == '\t'
  let s := (s.reverse.dropWhile fun c => c == ' ' || c == '\t').reverse
  let ds := if s.head? = some '-' then s.drop 1 else s
  !ds.isEmpty && ds.all Char.isDigit &&
    (Integer64.signed? (s.head? == some '-') (digitsValue 0 ds)).isSome

def isPath (s : List Char) : Bool :=
  match s with
  | [] => true
  | '.' :: s =>
    if (s.takeWhile isKeyChar).isEmpty then false else isPath (s.dropWhile isKeyChar)
  | '[' :: s =>
    let index := s.takeWhile (· != ']')
    isIndex index && index.length < s.length && isPath (s.drop (index.length + 1))
  | _ => false
termination_by s.length
decreasing_by
  · have := (List.dropWhile_sublist isKeyChar (l := s)).length_le
    simp only [List.length_cons]; omega
  · simp only [List.length_cons, List.length_drop]; omega

/-- The key that is set by a key. One that is a path sets something inside the value under its first
name, which is a collection then. -/
def target (key : String) (v : Value) : String × Value :=
  let (name, path) := key.toList.span isKeyChar
  if name.isEmpty || path.isEmpty || !isPath path then (key, v)
  else (String.ofList name, .collection)

/-! ## Settings from sources -/

/-- What is set by some sources, later ones counting. -/
def merge (sources : List Source) : Source :=
  Entries.ofList (sources.flatten.map fun (key, v) => target key v)

def ofSources? (sources : List Source) : Option Settings := do
  let values := merge sources
  let synonyms ← ((Entries.get? "synonyms" values).getD .null).text?
  let parallel ← ((Entries.get? "parallel" values).getD (.bool default.parallel)).switch?
  some ⟨synonyms, parallel⟩

end Settings

end RecordFilter
