import RecordFilter.Synonyms
import RecordFilter.Unicode.Lookup
import RecordFilter.Yaml11.Document

/-!
# Synonym documents

A synonym document is a YAML mapping of each term to a list of strings. Every scalar is taken as the
text it is, whatever it looks like. A list that is left out is empty, and so is a table that is left
out or a document of nothing but white space; anything else of another shape is refused.
-/

namespace RecordFilter.Synonyms

open Yaml (Node)

/-! ## Aliases -/

/-- The nodes with anchors under their numbers, last one first. -/
abbrev Targets := List (Nat × Node)

mutual

def addTargets (before : Targets) : Node → Targets
  | .scalar _ _ _ => before
  | .reference _ => before
  | .anchored number n => addTargets ((number, n) :: before) n
  | .sequence items => addItemTargets before items
  | .mapping entries => addEntryTargets before entries

def addItemTargets (before : Targets) : List Node → Targets
  | [] => before
  | n :: items => addItemTargets (addTargets before n) items

def addEntryTargets (before : Targets) : List (Node × Node) → Targets
  | [] => before
  | (k, v) :: entries => addEntryTargets (addTargets (addTargets before k) v) entries

end

/-- A node without its anchor, or what an alias stands for: the last node of the whole document that
has its number. The count tells whether an alias was followed. -/
def resolve? (targets : Targets) : Node → Option (Node × Nat)
  | .reference number => (targets.lookup number).map fun n => (n, 1)
  | n => some (n.content, 0)

/-! ## Tables

What is read from a node comes with the number of aliases followed for it. -/

def string? (targets : Targets) (n : Node) : Option (String × Nat) :=
  match resolve? targets n with
  | some (.scalar text _ _, followed) => some (String.ofList text, followed)
  | _ => none

def strings? (targets : Targets) : List Node → Option (List String × Nat)
  | [] => some ([], 0)
  | n :: items => do
    let (s, i) ← string? targets n
    let (ss, j) ← strings? targets items
    some (s :: ss, i + j)

/-- A list of strings, which may be left out. -/
def list? (targets : Targets) (n : Node) : Option (List String × Nat) :=
  match resolve? targets n with
  | some (.sequence items, followed) =>
    (strings? targets items).map fun (l, i) => (l, i + followed)
  | some (.scalar [] true _, followed) => some ([], followed)
  | _ => none

def entries? (targets : Targets) :
    List (Node × Node) → Option (List (String × List String) × Nat)
  | [] => some ([], 0)
  | (k, v) :: entries => do
    let (term, i) ← string? targets k
    let (alternates, j) ← list? targets v
    let (rest, n) ← entries? targets entries
    some ((term, alternates) :: rest, i + j + n)

/-- How many times its number of events a document may follow aliases. -/
def aliasFactor : Nat := 100

def ofNode? (root : Node) : Option Synonyms :=
  match root.content with
  | .mapping entries =>
    match entries? (addTargets [] root) entries with
    | some (entries', followed) =>
      if followed ≤ aliasFactor * root.eventCount then some (ofList entries') else none
    | none => none
  | .scalar [] true _ => some empty
  | _ => none

def ofDocument? (text : String) : Option Synonyms :=
  if text.toList.all Unicode.isWhiteSpace then some empty
  else
    match Yaml11.read? text.toList with
    | none => none
    | some none => some empty
    | some (some n) => ofNode? n

end RecordFilter.Synonyms
