import RecordFilter.Yaml.Node
import RecordFilter.Yaml12.Token

/-!
# Documents of YAML 1.2

`read?` gives the only document of a text, or none if the text holds nothing but comments. Of the
directives before a document only the last one declares a handle; the version may be given once.
-/

namespace RecordFilter.Yaml12

open Yaml

def coreStart : List Char := "tag:yaml.org,2002:".toList

/-- What directives declare: whether there was a directive or a version, and the last handle. -/
structure Directives where
  present : Bool
  versioned : Bool
  handle : Option (List Char × List Char)

/-- A tag with what its handle stands for instead of the handle. Two exclamation marks stand for the
core types, and one for itself, unless they are declared. -/
def Directives.resolve? (d : Directives) (t : Tag) : Option Tag :=
  match d.handle.bind fun (handle, start) => if handle = t.handle then some start else none with
  | some start => some ⟨start, t.suffix⟩
  | none =>
    if t.handle = ['!', '!'] then some ⟨coreStart, t.suffix⟩
    else if isNamedHandle t.handle then none
    else some t

def Directives.grammar (d : Directives) : Grammar where
  resolve? := d.resolve?
  replacesAnchors := false
  keyless := true

def directives? (d : Directives) (t : List Token) : Option (Directives × List Token) :=
  match t with
  | .version _ _ :: t => if d.versioned then none else directives? ⟨true, true, none⟩ t
  | .tagDirective handle start :: t => directives? ⟨true, d.versioned, some (handle, start)⟩ t
  | t => some (d, t)

/-- A document, which needs a mark of its start after directives. -/
def document? (t : List Token) : Option (Node × List Token) :=
  match directives? ⟨false, false, none⟩ t with
  | none => none
  | some (d, .documentStart :: rest) => content? d.grammar rest
  | some (d, rest) => if d.present then none else bareContent? d.grammar rest

def read? (text : List Char) : Option (Option Node) :=
  match (tokens? text).map skipEnds with
  | none => none
  | some [] => some none
  | some t =>
    match document? t with
    | none => none
    | some (n, rest) => if (skipEnds rest).isEmpty then some (some n) else none

end RecordFilter.Yaml12
