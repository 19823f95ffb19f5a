import RecordFilter.Entries

/-!
# Synonym tables

A synonym table gives the alternates of some search terms. Terms match exactly, and each has one
list of alternates; the order of the terms plays no part, so `sorted` is what is shown of a table.
-/

namespace RecordFilter

structure Synonyms where
  entries : List (String × List String)
deriving Repr

namespace Synonyms

def empty : Synonyms := ⟨[]⟩

instance : Inhabited Synonyms := ⟨empty⟩

def lookup (t : Synonyms) (term : String) : List String := (Entries.get? term t.entries).getD []

/-- The table with the given alternates for a term, whatever it had before. -/
def insert (t : Synonyms) (term : String) (alternates : List String) : Synonyms :=
  ⟨Entries.set term alternates t.entries⟩

/-- The table of some entries; of two with one term the later one counts. -/
def ofList (entries : List (String × List String)) : Synonyms := ⟨Entries.ofList entries⟩

def size (t : Synonyms) : Nat := t.entries.length

def isEmpty (t : Synonyms) : Bool := t.entries.isEmpty

def sorted (t : Synonyms) : List (String × List String) :=
  t.entries.mergeSort fun a b => a.1 ≤ b.1

end Synonyms

end RecordFilter
