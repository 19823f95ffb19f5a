import RecordFilter.CodeSet
import RecordFilter.Unicode.GeneralCategory
import RecordFilter.Unicode.Script
import RecordFilter.Unicode.Property
import RecordFilter.Unicode.Segmentation
import RecordFilter.Unicode.Age

/-!
# Character sets by name

A set of characters is asked for by one name (a property, a general category or a script, looked up
in this order) or by the name of a property and one of its values. Names match loosely: case,
spaces, hyphens, underscores and a leading `is` do not count, and characters outside ASCII are
dropped.
-/

namespace RecordFilter.Unicode

open CodeSet

def asciiLower (c : Char) : Char := if 'A' ≤ c ∧ c ≤ 'Z' then Char.ofNat (c.toNat + 32) else c

/-- The significant characters of a name: without an `is` at its start, unless it is just `isc`. -/
def looseName (name : List Char) : String :=
  let simplify (cs : List Char) :=
    (cs.filter fun c => c.toNat < 0x80 && c != ' ' && c != '_' && c != '-').map asciiLower
  String.ofList <| match name with
    | a :: b :: rest =>
      if (a == 'i' || a == 'I') && (b == 's' || b == 'S') then
        let rest := simplify rest
        if rest == ['c'] then ['i', 's', 'c'] else rest
      else simplify name
    | _ => simplify name

def row? (table : List (String × α)) (name : String) : Option (String × α) :=
  table.find? fun (names, _) => (words names).any (String.ofList · = name)

def named? (table : List (String × String)) (name : String) : Option CodeSet :=
  (row? table name).map fun (_, set) => ofTable set

def category? (name : String) : Option CodeSet :=
  match name with
  | "any" => some full
  | "ascii" => some [⟨0, 0x7F⟩]
  | "assigned" => (named? categories "cn").map (complement maxCode)
  | name =>
    match row? categoryGroups name with
    | some (_, parts) =>
      some (ofRanges ((words parts).flatMap fun p => (named? categories (String.ofList p)).getD []))
    | none => named? categories name

def script? (name : String) : Option CodeSet := named? scripts name

/-- The characters used with a script: its own ones less the exceptions, and those it shares. -/
def scriptExtension? (name : String) : Option CodeSet := do
  let (names, own) ← row? scripts name
  let own := ofTable own
  let differing := scriptExtensions.find? fun (n, _) => (words names).any (String.ofList · = n)
  match differing with
  | none => some own
  | some (_, added, removed) => some (diff maxCode (union own (ofTable added)) (ofTable removed))

/-- The characters assigned in the version or in one before it. -/
def age? (name : String) : Option CodeSet := do
  let last ← ages.findIdx? fun (names, _) => (words names).any (String.ofList · = name)
  some (ofRanges ((ages.take (last + 1)).flatMap fun (_, set) => ofTable set))

/-- The set that one name stands for. `cf`, `lc` and `sc` are general categories before they are
abbreviations of anything else. -/
def byName? (name : List Char) : Option CodeSet :=
  let n := looseName name
  (named? properties n).orElse fun _ => (category? n).orElse fun _ => script? n

def byValue? (property value : List Char) : Option CodeSet :=
  let v := looseName value
  match looseName property with
  | "gc" | "generalcategory" => category? v
  | "sc" | "script" => script? v
  | "scx" | "scriptextensions" => scriptExtension? v
  | "age" => age? v
  | "gcb" | "graphemeclusterbreak" => named? graphemeClusterBreaks v
  | "wb" | "wordbreak" => named? wordBreaks v
  | "sb" | "sentencebreak" => named? sentenceBreaks v
  | _ => none

def propertySet (name : String) : CodeSet := (named? properties name).getD []

def categorySet (name : String) : CodeSet := (category? name).getD []

def whiteSpace : CodeSet := propertySet "whitespace"

def alphabetic : CodeSet := propertySet "alphabetic"

def decimalDigits : CodeSet := categorySet "nd"

def numeric : CodeSet := categorySet "n"

def wordCharacters : CodeSet :=
  ofRanges (alphabetic ++ categorySet "m" ++ decimalDigits ++ categorySet "pc" ++
    propertySet "joincontrol")

def isWhiteSpace (c : Char) : Bool := whiteSpace.contains c.toNat

def isAlphabetic (c : Char) : Bool := alphabetic.contains c.toNat

def isAlphanumeric (c : Char) : Bool := isAlphabetic c || numeric.contains c.toNat

end RecordFilter.Unicode
