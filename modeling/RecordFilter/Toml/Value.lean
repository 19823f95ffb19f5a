import RecordFilter.Binary64
import RecordFilter.Entries

/-!
# TOML values

Values as they stand in a document that is being read. A table remembers how it came about, since
that decides what may still be added to it: `Table.assign?` adds a value under a dotted key,
`Table.within?` works on the table that a header names, and `Table.openTable?` and
`Table.openElement?` are what a header does.
-/

namespace RecordFilter.Toml

inductive Origin where
  /-- as part of the path of a header -/
  | implied
  /-- by a header of its own -/
  | header
  /-- by a dotted key -/
  | dotted
  /-- written out in braces; nothing may be added -/
  | inBraces
deriving DecidableEq, Repr

inductive Value where
  | string (s : String)
  | integer (n : Int)
  | float (x : Binary64)
  | bool (b : Bool)
  | datetime (text : String)
  | array (items : List Value)
  | table (origin : Origin) (entries : List (String × Value))
  /-- tables with one header each, last one first -/
  | tables (elements : List (List (String × Value)))
deriving Repr

abbrev Table := List (String × Value)

namespace Table

/-- Adds a value under a dotted key. It must be new, and the tables on the way there must be new, or
made by dotted keys or as part of the path of a header. -/
def assign? (v : Value) : List String → Table → Option Table
  | [], _ => none
  | [key], t => if (Entries.get? key t).isSome then none else some (t ++ [(key, v)])
  | key :: path, t =>
    match Entries.get? key t with
    | none => (assign? v path []).map fun inner => t ++ [(key, .table .dotted inner)]
    | some (.table origin inner) =>
      if origin = .dotted ∨ origin = .implied then
        (assign? v path inner).map fun inner => Entries.set key (.table origin inner) t
      else none
    | some _ => none

/-- Works on the table at the path of a header. Tables on the way there that are missing are
implied, and of the tables of an array the last one is meant. -/
def within? (f : Table → Option Table) : List String → Table → Option Table
  | [], t => f t
  | key :: path, t =>
    match Entries.get? key t with
    | none => (within? f path []).map fun inner => t ++ [(key, .table .implied inner)]
    | some (.table origin inner) =>
      if origin = .inBraces then none
      else (within? f path inner).map fun inner =>
        Entries.set key (.table origin inner) t
    | some (.tables (inner :: earlier)) =>
      (within? f path inner).map fun inner =>
        Entries.set key (.tables (inner :: earlier)) t
    | some _ => none

/-- Opens a table by a header. Only an implied table may be there. -/
def openTable? (key : String) (t : Table) : Option Table :=
  match Entries.get? key t with
  | none => some (t ++ [(key, .table .header [])])
  | some (.table .implied inner) => some (Entries.set key (.table .header inner) t)
  | some _ => none

def openElement? (key : String) (t : Table) : Option Table :=
  match Entries.get? key t with
  | none => some (t ++ [(key, .tables [[]])])
  | some (.tables elements) => some (Entries.set key (.tables ([] :: elements)) t)
  | some _ => none

end Table

end RecordFilter.Toml
