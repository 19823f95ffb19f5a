import RecordFilter.Yaml.Node
import RecordFilter.Yaml11.Token

/-!
# Documents of YAML 1.1

`read?` gives the only document of a text, or none if the text holds nothing but comments. A
document may have directives before it, each at most once, and needs a mark of its start then.
-/

namespace RecordFilter.Yaml11

open Yaml

/-- What directives declare: whether there was a version, and the handles of tags. -/
structure Directives where
  versioned : Bool
  handles : List (List Char)

def defaultHandles : List (List Char) := [['!'], ['!', '!']]

/-- The rules for nodes below these directives: tags are kept as they are written. -/
def Directives.grammar (d : Directives) : Grammar where
  resolve? t :=
    if t.handle.isEmpty || (d.handles ++ defaultHandles).contains t.handle then some t else none
  replacesAnchors := true
  keyless := false

/-- The directives before a document. No handle is declared twice, and the version is 1.1 or 1.2. -/
def directives? (d : Directives) (t : List Token) : Option (Directives × List Token) :=
  match t with
  | .version major minor :: t =>
    if d.versioned || (String.ofList major).toNat? != some 1 then none
    else
      match (String.ofList minor).toNat? with
      | some 1 => directives? { d with versioned := true } t
      | some 2 => directives? { d with versioned := true } t
      | _ => none
  | .tagDirective h _ :: t =>
    if d.handles.contains h then none else directives? { d with handles := h :: d.handles } t
  | t => some (d, t)

def firstDocument? (t : List Token) : Option (Node × List Token) :=
  match directives? ⟨false, []⟩ t with
  | none => none
  | some (d, rest) =>
    match rest with
    | .documentStart :: rest => content? d.grammar rest
    | rest => if d.versioned || !d.handles.isEmpty then none else bareContent? d.grammar rest

/-- The node of the only document in a text, or none if there is no document. -/
def read? (text : List Char) : Option (Option Node) :=
  match tokens? text with
  | none => none
  | some [] => some none
  | some t =>
    match firstDocument? t with
    | none => none
    | some (n, rest) => if (skipEnds rest).isEmpty then some (some n) else none

end RecordFilter.Yaml11
