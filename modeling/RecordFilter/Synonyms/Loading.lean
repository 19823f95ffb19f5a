import RecordFilter.Causes
import RecordFilter.Synonyms.Document

/-!
# Loading synonym tables

A table is loaded from a file by name. Where synonyms are optional, no name or the name of a missing
file gives the empty table. `loadOrEmpty` makes do with the empty table also if the file cannot be
read or describes no table; `loadOptional` does not.
-/

namespace RecordFilter.Synonyms

inductive LoadError where
  | malformed (document : String)
  | unreadable (file : String) (state : FileState)
  | malformedFile (file document : String)

namespace LoadError

def malformedMessage : String := "Synonyms: document must map each term to a list of strings"

def message (e : LoadError) (causes : Causes := .silent) : String :=
  match e with
  | malformed document => Causes.report [malformedMessage] (causes.notTable document)
  | unreadable file state =>
    Causes.report ["Synonyms: failed to read " ++ file] (causes.notText file state)
  | malformedFile file document =>
    Causes.report ["Synonyms: failed to load " ++ file, malformedMessage]
      (causes.notTable document)

end LoadError

def ofDocument (text : String) : Except LoadError Synonyms :=
  match ofDocument? text with
  | some t => .ok t
  | none => .error (.malformed text)

/-- The table in a file, which has to be there. -/
def load (files : Files) (name : String) : Except LoadError Synonyms :=
  match (files name).text? with
  | none => .error (.unreadable name (files name))
  | some text =>
    match ofDocument? text with
    | some t => .ok t
    | none => .error (.malformedFile name text)

/-- The table in a file, if one is named and is there. -/
def loadOptional (files : Files) (name? : Option String) : Except LoadError Synonyms :=
  match name? with
  | none => .ok empty
  | some name => if (files name).isMissing then .ok empty else load files name

def loadOrEmpty (files : Files) (name? : Option String) : Synonyms :=
  match loadOptional files name? with
  | .ok t => t
  | .error _ => empty

end RecordFilter.Synonyms
