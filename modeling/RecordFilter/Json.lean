import RecordFilter.Binary64
import RecordFilter.Entries

/-!
# JSON values

Numbers keep the difference between integers and floating point numbers. An object is the list of
its fields in order; reading never produces one name twice.
-/

namespace RecordFilter

/-- A JSON number: an integer of at most 64 bits, or a floating point number. -/
inductive Json.Number where
  | integer (n : Int)
  | float (x : Binary64)
deriving DecidableEq, Repr

/-- The value as a floating point number; large integers are rounded. -/
def Json.Number.toBinary64 : Json.Number → Binary64
  | integer n => Binary64.ofInt n
  | float x => x

inductive Json where
  | null
  | bool (b : Bool)
  | number (n : Json.Number)
  | string (s : String)
  | array (items : List Json)
  | object (fields : List (String × Json))
deriving Repr

namespace Json

instance : Inhabited Json := ⟨null⟩

def field? (name : String) : Json → Option Json
  | object fields => Entries.get? name fields
  | _ => none

def isNull : Json → Bool
  | null => true
  | _ => false

end Json

end RecordFilter
