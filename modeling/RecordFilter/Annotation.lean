import RecordFilter.Filter.Checking

/-!
# Annotated records

A record is annotated with the outcome of a filter in its field `result`. An old value of that field
is seen by the filter and then replaced where it stands; otherwise the field comes last.
-/

namespace RecordFilter

def resultField : String := "result"

def annotateFields (f : Filter) (synonyms : Synonyms) (fields : List (String × Json)) :
    List (String × Json) :=
  Entries.set resultField (.bool (f.check (.record (.object fields)) synonyms).outcome) fields

/-- A record with the outcome of a filter. Only objects are records; another value is an error. -/
def annotate (f : Filter) (synonyms : Synonyms) (record : Json) : Except Json Json :=
  match record with
  | .object fields => .ok (.object (annotateFields f synonyms fields))
  | other => .error other

/-- All records with the outcome of a filter, or the first value that is no record. -/
def annotateAll (f : Filter) (synonyms : Synonyms) (records : List Json) :
    Except Json (List Json) :=
  records.mapM (annotate f synonyms)

end RecordFilter
