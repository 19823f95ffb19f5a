import RecordFilter.Json

/-!
# Paths into records

A path is a text whose parts between dots are the names of fields, one inside the other. A part may
be empty. Only objects have fields; positions in arrays are no names.
-/

namespace RecordFilter.Json

/-- The parts of a text between dots; a text without dots is one part. -/
def segments : List Char → List (List Char)
  | [] => [[]]
  | c :: s =>
    if c = '.' then [] :: segments s
    else
      match segments s with
      | [] => [[c]]
      | part :: parts => (c :: part) :: parts

def descend? (v : Json) : List (List Char) → Option Json
  | [] => some v
  | name :: names => (v.field? (String.ofList name)).bind fun inner => descend? inner names

def resolve? (v : Json) (path : String) : Option Json := v.descend? (segments path.toList)

end RecordFilter.Json
