import RecordFilter.Yaml12.Schema

/-!
# YAML data

The values that a document describes: its aliases stand for what they refer to, and its scalars have
types. A scalar that does not fit its tag is misfit, and so is an alias inside the node that it
refers to. Where a key is misfit, the value takes its place and the next key is the value.
-/

namespace RecordFilter.Yaml12

open Yaml (Node)

inductive Data where
  | misfit
  | scalar (t : Typed)
  | sequence (items : List Data)
  | mapping (entries : List (Data × Data))
deriving Repr

namespace Data

/-- The data of the nodes with anchors that have ended, under their numbers. -/
abbrev Known := List (Nat × Data)

/-- The entries of a mapping, last one first, and a key whose value is still to come. -/
structure Entries where
  reversed : List (Data × Data)
  pending : Option Data

def Entries.hasKey (e : Entries) (k : Data) : Bool :=
  match k with
  | scalar t =>
    e.reversed.any fun (k', _) =>
      match k' with
      | scalar t' => t == t'
      | _ => false
  | _ => false

/-- Takes the next key or value. No key occurs twice. -/
def Entries.add? (e : Entries) (d : Data) : Option Entries :=
  match e.pending with
  | some k => if e.hasKey k then none else some ⟨(k, d) :: e.reversed, none⟩
  | none =>
    match d with
    | misfit => some e
    | d => some ⟨e.reversed, some d⟩

mutual

def ofNode? (known : Known) : Node → Option (Data × Known)
  | .scalar text plain tag =>
    some (((Typed.ofScalar? text plain tag).map scalar).getD misfit, known)
  | .reference number => some ((known.lookup number).getD misfit, known)
  | .anchored number n => (ofNode? known n).map fun (d, known) => (d, (number, d) :: known)
  | .sequence items => (ofItems? known items).map fun (l, known) => (sequence l, known)
  | .mapping entries =>
    (ofEntries? known ⟨[], none⟩ entries).map fun (e, known) => (mapping e.reversed.reverse, known)

def ofItems? (known : Known) : List Node → Option (List Data × Known)
  | [] => some ([], known)
  | n :: items =>
    match ofNode? known n with
    | none => none
    | some (d, known) => (ofItems? known items).map fun (l, known) => (d :: l, known)

def ofEntries? (known : Known) (e : Entries) : List (Node × Node) → Option (Entries × Known)
  | [] => some (e, known)
  | (k, v) :: entries =>
    match ofNode? known k with
    | none => none
    | some (key, known) =>
      match e.add? key with
      | none => none
      | some e =>
        match ofNode? known v with
        | none => none
        | some (value, known) =>
          match e.add? value with
          | none => none
          | some e => ofEntries? known e entries

end

end Data

def readData? (text : List Char) : Option (Option Data) :=
  match read? text with
  | none => none
  | some none => some none
  | some (some n) => (Data.ofNode? [] n).map fun (d, _) => some d

end RecordFilter.Yaml12
