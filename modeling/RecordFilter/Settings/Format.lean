import RecordFilter.Json.Reader
import RecordFilter.Settings
import RecordFilter.Toml.Document
import RecordFilter.Utf8
import RecordFilter.Yaml12.Data

/-!
# Formats of settings

Settings are written in JSON, YAML or TOML. In each of them a document is a table of values under
keys, and a document that breaks a rule of its format anywhere is refused.
-/

namespace RecordFilter.Settings

inductive Format where
  | json
  | yaml
  | toml
deriving DecidableEq, Repr

namespace Value

def ofJson : Json → Value
  | .null => null
  | .bool b => bool b
  | .number (.integer n) =>
    if n < Integer64.bound then integer n else float (Binary64.ofInt n)
  | .number (.float x) => float x
  | .string s => string s
  | .array _ => collection
  | .object _ => collection

def ofToml : Toml.Value → Value
  | .string s => string s
  | .integer n => integer n
  | .float x => float x
  | .bool b => bool b
  | .datetime text => string text
  | .array _ => collection
  | .table _ _ => collection
  | .tables _ => collection

/-- A typed scalar. A number with a special name has no value here. -/
def ofTyped? : Yaml12.Typed → Option Value
  | .null => some null
  | .bool b => some (bool b)
  | .integer n => some (integer n)
  | .real text => (Binary64.ofScientific? text).map float
  | .string text => some (string (String.ofList text))

end Value

mutual

def ofData? : Yaml12.Data → Option Value
  | .misfit => some .null
  | .scalar t => Value.ofTyped? t
  | .sequence items => (ofItems? items).map fun _ => .collection
  | .mapping entries => (ofEntries? entries).map fun _ => .collection

def ofItems? : List Yaml12.Data → Option (List Value)
  | [] => some []
  | d :: items => do
    let v ← ofData? d
    let l ← ofItems? items
    some (v :: l)

/-- The entries of a mapping under their keys, which have to be scalars other than null. -/
def ofEntries? : List (Yaml12.Data × Yaml12.Data) → Option Source
  | [] => some []
  | (.scalar key, v) :: entries => do
    let name ← key.keyText?
    let v ← ofData? v
    let rest ← ofEntries? entries
    some ((name, v) :: rest)
  | _ => none

end

def ofRoot? : Yaml12.Data → Option Source
  | .mapping entries => ofEntries? entries
  | _ => none

namespace Format

def extensions : List (String × Format) :=
  [("json", json), ("yaml", yaml), ("yml", yaml), ("toml", toml)]

def read? (format : Format) (text : List Char) : Option Source :=
  match format with
  | json =>
    match Json.read? (String.ofList text) with
    | some (.object fields) => some (fields.map fun (key, v) => (key, .ofJson v))
    | _ => none
  | yaml =>
    match Yaml12.readData? text with
    | some none => some []
    | some (some root) => ofRoot? root
    | none => none
  | toml => (Toml.read? text).map fun t => t.map fun (key, v) => (key, .ofToml v)

end Format

end RecordFilter.Settings
