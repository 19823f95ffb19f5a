import RecordFilter.Json
import RecordFilter.Binary64.Text

/-!
# JSON texts

The compact text has no spaces. The indented text puts every item and field on a line of its own,
two spaces deeper than its container, and writes an empty container as its two brackets.
-/

namespace RecordFilter.Json

/-- A character inside a JSON string: only the quote, the backslash and the control characters
below U+0020 are escaped. -/
def escapeChar (c : Char) : List Char :=
  match c with
  | '"' => ['\\', '"']
  | '\\' => ['\\', '\\']
  | '\n' => ['\\', 'n']
  | '\r' => ['\\', 'r']
  | '\t' => ['\\', 't']
  | '\x08' => ['\\', 'b']
  | '\x0c' => ['\\', 'f']
  | c =>
    if c.toNat < 0x20 then
      ['\\', 'u', '0', '0', Nat.digitChar (c.toNat / 16), Nat.digitChar (c.toNat % 16)]
    else [c]

def quote (s : String) : String := String.ofList ('"' :: s.toList.flatMap escapeChar ++ ['"'])

def Number.text : Number → String
  | .integer n => String.ofList <|
      Binary64.signed (decide (n < 0)) (Nat.toDigits 10 n.natAbs)
  | .float x => x.jsonText

mutual

def compact : Json → String
  | null => "null"
  | bool b => if b then "true" else "false"
  | number n => n.text
  | string s => quote s
  | array items => "[" ++ ",".intercalate (compactItems items) ++ "]"
  | object fields => "\x7b" ++ ",".intercalate (compactFields fields) ++ "\x7d"

def compactItems : List Json → List String
  | [] => []
  | v :: items => compact v :: compactItems items

def compactFields : List (String × Json) → List String
  | [] => []
  | (n, v) :: fields => (quote n ++ ":" ++ compact v) :: compactFields fields

end

/-- Lines of a container at some depth, between its brackets. -/
def indentedBlock (opening closing : String) (depth : Nat) (lines : List String) : String :=
  if lines.isEmpty then opening ++ closing
  else
    let margin (n : Nat) := String.ofList ('\n' :: List.replicate (2 * n) ' ')
    opening ++ margin (depth + 1) ++ ("," ++ margin (depth + 1)).intercalate lines ++
      margin depth ++ closing

mutual

/-- The text over several lines, two spaces for each level. -/
def indented (depth : Nat) : Json → String
  | array items => indentedBlock "[" "]" depth (indentedItems (depth + 1) items)
  | object fields => indentedBlock "\x7b" "\x7d" depth (indentedFields (depth + 1) fields)
  | v => v.compact

def indentedItems (depth : Nat) : List Json → List String
  | [] => []
  | v :: items => indented depth v :: indentedItems depth items

def indentedFields (depth : Nat) : List (String × Json) → List String
  | [] => []
  | (n, v) :: fields => (quote n ++ ": " ++ indented depth v) :: indentedFields depth fields

end

end RecordFilter.Json
