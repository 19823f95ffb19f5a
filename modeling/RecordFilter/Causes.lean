import RecordFilter.Files

/-!
# Causes of failures

Some failures come from below: from the system, or from libraries for JSON and YAML. They are
reported with what is said here of them first and their causes after it, the closest one first. What
the causes say is not decided here.
-/

namespace RecordFilter

/-- What is said below of the failures that come from there. -/
structure Causes where
  /-- of a text that is no JSON -/
  notJson : String → List String
  /-- of a document that describes no table -/
  notTable : String → List String
  /-- of a file by its name, where what is found under the name has no text -/
  notText : String → FileState → List String

namespace Causes

def silent : Causes := ⟨fun _ => [], fun _ => [], fun _ _ => []⟩

instance : Inhabited Causes := ⟨silent⟩

def report (said causes : List String) : String := ": ".intercalate (said ++ causes)

end Causes

end RecordFilter
