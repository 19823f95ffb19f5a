import RecordFilter.Json.Reader
import RecordFilter.Unicode.Lookup

/-!
# Texts of records

Records are written as one JSON array, or as JSON values on lines of their own. A text whose first
character other than white space is a bracket is an array. Lines of white space count as lines but
hold no record.
-/

namespace RecordFilter.CommandLine

inductive RecordTextError where
  | malformedArray
  | malformedLine (number : Nat)
deriving DecidableEq, Repr

def RecordTextError.message : RecordTextError → String
  | malformedArray => "CLI: Invalid JSON array of records"
  | malformedLine number => "CLI: Invalid JSON record on line " ++ toString number

/-- The lines of a text, the first of which starts with `acc` reversed. A line feed ends a line,
with the carriage return before it if there is one; nothing after the last of them is no line. -/
def lines (acc : List Char) : List Char → List (List Char)
  | [] => if acc.isEmpty then [] else [acc.reverse]
  | '\r' :: '\n' :: s => acc.reverse :: lines [] s
  | '\n' :: s => acc.reverse :: lines [] s
  | c :: s => lines (c :: acc) s

def isBlankText (s : List Char) : Bool := s.all Unicode.isWhiteSpace

/-- The records on lines, the first of which has the given number. -/
def recordsOfLines (number : Nat) : List (List Char) → Except RecordTextError (List Json)
  | [] => .ok []
  | line :: rest =>
    if isBlankText line then recordsOfLines (number + 1) rest
    else
      match Json.read? (String.ofList line) with
      | some v => (recordsOfLines (number + 1) rest).map (v :: ·)
      | none => .error (.malformedLine number)

def recordsOfText (text : String) : Except RecordTextError (List Json) :=
  if (text.toList.dropWhile Unicode.isWhiteSpace).head? = some '[' then
    match Json.read? text with
    | some (.array items) => .ok items
    | _ => .error .malformedArray
  else recordsOfLines 1 (lines [] text.toList)

end RecordFilter.CommandLine
