import RecordFilter.CommandLine.Invocation
import RecordFilter.CommandLine.RecordText
import RecordFilter.Debug
import RecordFilter.Settings.Loading
import RecordFilter.Unicode.Quoted

/-!
# Running commands

What a command prints, and whether it succeeds, depends on its invocation and its surroundings:
files, standard input and the variables of the environment. The settings are loaded before any
command runs. The command for texts succeeds if the text matches, the one for debug requests if they
are answered as they should be, and the others always do unless there is a problem. Some things are
left to libraries; a run is a run with any of these.
-/

namespace RecordFilter.CommandLine

/-- All that a command can see besides its words. -/
structure Surroundings where
  files : Files
  input : ByteArray
  environment : List (String × String)

structure Libraries where
  causes : Causes
  /-- goes through records on several threads -/
  collect : (Json → Except Json Json) → List Json → Except Json (List Json)
  /-- the help that a command line asks for -/
  help : List String → String

namespace Libraries

/-- Without threads, and with little to say. -/
def plain : Libraries where
  causes := .silent
  collect step records := records.mapM step
  help _ := "Usage: sift [OPTIONS] <COMMAND>\n"

/-- Threads give the results in order, if every step succeeds. Otherwise the outcome is that of a
step that fails, not always the first one. -/
structure CollectsInOrder (libs : Libraries) : Prop where
  ok : ∀ step records results,
    records.mapM step = .ok results → libs.collect step records = .ok results
  error : ∀ step records v, records.mapM step = .error v →
    ∃ record ∈ records, ∃ u, step record = .error u ∧ libs.collect step records = .error u

def annotateAll (libs : Libraries) (parallel : Bool) (f : Filter) (synonyms : Synonyms)
    (records : List Json) : Except Json (List Json) :=
  if parallel then libs.collect (annotate f synonyms) records
  else RecordFilter.annotateAll f synonyms records

end Libraries

inductive Problem where
  | usage
  | settings
  | unreadableInput
  | unreadableFile (path : String)
  | records (e : RecordTextError)
  | notRecord (value : Json)
deriving Repr

structure Printed where
  output : String
  success : Bool
deriving DecidableEq, Repr

namespace Problem

/-- The first line of what is said of a problem, if that is said here. -/
def message? : Problem → Option String
  | usage => none
  | settings => none
  | unreadableInput => some "CLI: Failed to read stdin"
  | unreadableFile path => some ("CLI: Failed to read " ++ Unicode.quoted path)
  | records e => some e.message
  | notRecord value => some (Debug.DebugError.notRecord value).message

def exitCode : Problem → Nat
  | usage => 2
  | _ => 1

end Problem

def Printed.exitCode (p : Printed) : Nat := if p.success then 0 else 1

def readSource (w : Surroundings) (source : String) : Except Problem String :=
  if isStandardInput source then
    match String.fromUTF8? w.input with
    | some text => .ok text
    | none => .error .unreadableInput
  else
    match (w.files source).text? with
    | some text => .ok text
    | none => .error (.unreadableFile source)

def stripLineEnd (text : String) : String :=
  match text.toList.reverse with
  | '\n' :: '\r' :: s => String.ofList s.reverse
  | '\n' :: s => String.ofList s.reverse
  | _ => text

def printLine (line : String) : String := line ++ "\n"

def runParse (filter : String) : Printed :=
  ⟨printLine ((Filter.parse filter).toJson.indented 0), true⟩

def runText (synonyms : Synonyms) (filter text : String) : Printed :=
  let outcome := ((Filter.parse filter).check (.text text) synonyms).outcome
  ⟨printLine (if outcome then "true" else "false"), outcome⟩

def runRecords (libs : Libraries) (parallel : Bool) (synonyms : Synonyms) (filter text : String) :
    Except Problem Printed := do
  let records ← (recordsOfText text).mapError .records
  let results ←
    (libs.annotateAll parallel (Filter.parse filter) synonyms records).mapError .notRecord
  .ok ⟨printLine (Json.object [("results", .array results)]).compact, true⟩

def responseJson (r : Debug.Response) : Json :=
  .object [("status", .number (.integer r.status)), ("body", r.body)]

def runDebug (libs : Libraries) (files : Files) (synonymFile : Option String) (body : String) :
    Printed :=
  let r := Debug.respond files synonymFile body libs.causes
  ⟨printLine (responseJson r).compact, r.status == 200⟩

def Command.run (c : Command) (w : Surroundings) (s : Settings) (libs : Libraries) :
    Except Problem Printed :=
  match c with
  | .parse filter => .ok (runParse filter)
  | .text filter (some t) => .ok (runText (Synonyms.loadOrEmpty w.files s.synonyms) filter t)
  | .text filter none => do
    let t ← readSource w standardInput
    .ok (runText (Synonyms.loadOrEmpty w.files s.synonyms) filter (stripLineEnd t))
  | .records filter source sequential => do
    runRecords libs (s.parallel && !sequential) (Synonyms.loadOrEmpty w.files s.synonyms) filter
      (← readSource w source)
  | .debug source => do .ok (runDebug libs w.files s.synonyms (← readSource w source))

namespace Invocation

/-- The settings of an invocation; a file of synonyms in it counts over the loaded one. -/
def settings? (i : Invocation) (files : Files) (environment : List (String × String)) :
    Option Settings :=
  (Settings.load? files i.config environment).map fun s =>
    { s with synonyms := i.synonyms.orElse fun _ => s.synonyms }

def run (i : Invocation) (w : Surroundings) (libs : Libraries) : Except Problem Printed :=
  match i.settings? w.files w.environment with
  | some s => i.command.run w s libs
  | none => .error .settings

end Invocation

def versionText : String := "sift 0.1.0"

def run (w : Surroundings) (line : List String) (libs : Libraries := .plain) :
    Except Problem Printed :=
  match Invocation.ofWords line with
  | .ok i => i.run w libs
  | .error .help => .ok ⟨libs.help line, true⟩
  | .error .version => .ok ⟨printLine versionText, true⟩
  | .error .usage => .error .usage

end RecordFilter.CommandLine
