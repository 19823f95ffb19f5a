import RecordFilter.Annotation
import RecordFilter.Filter.Parser
import RecordFilter.Json.Reader
import RecordFilter.Synonyms.Loading

/-!
# Debug requests

A debug request is a JSON text with a filter and what to check with it: one input, or a list of
records. The answer is a status and a JSON body. What a client forgot is its fault (400); whatever
else goes wrong is not (500). The first stage that fails decides.
-/

namespace RecordFilter.Debug

inductive DebugError where
  | notJson (body : String)
  | invalidRequest
  | filterNotString
  | synonyms (e : Synonyms.LoadError)
  | noInput
  | noRecords
  | notRecord (value : Json)
  | invalidMode

namespace DebugError

def status : DebugError → Nat
  | invalidRequest => 400
  | noInput => 400
  | noRecords => 400
  | invalidMode => 400
  | _ => 500

def message (e : DebugError) (causes : Causes := .silent) : String :=
  match e with
  | notJson body =>
    Causes.report ["Debug: request body is not valid JSON"] (causes.notJson body)
  | invalidRequest => "Invalid request"
  | filterNotString => "Debug: filter must be a string"
  | synonyms e => e.message causes
  | noInput => "No input text provided"
  | noRecords => "No records provided"
  | notRecord value => "Debug: record is not an object: " ++ value.compact
  | invalidMode => "Invalid mode"

end DebugError

structure Response where
  status : Nat
  body : Json
deriving Repr

/-- A field of a request that is there and not null. -/
def field? (request : Json) (name : String) : Option Json :=
  (request.field? name).filter fun v => !v.isNull

def filterAndMode (request : Json) : Except DebugError (Json × String) :=
  match field? request "mode", field? request "filter" with
  | some mode, some (.string text) => .ok (mode, text)
  | some _, some _ => .error .filterNotString
  | _, _ => .error .invalidRequest

def evaluate (request mode : Json) (f : Filter) (synonyms : Synonyms) : Except DebugError Json :=
  match mode with
  | .string "text" =>
    match field? request "input" with
    | some input => .ok (.object [(resultField, .bool (f.check (.ofJson input) synonyms).outcome)])
    | none => .error .noInput
  | .string "records" =>
    match field? request "records" with
    | some (.array records) =>
      match annotateAll f synonyms records with
      | .ok results => .ok (.object [("results", .array results)])
      | .error value => .error (.notRecord value)
    | _ => .error .noRecords
  | _ => .error .invalidMode

def handle (files : Files) (synonymFile : Option String) (body : String) :
    Except DebugError Json := do
  let request ← match Json.read? body with
    | some v => .ok v
    | none => .error (.notJson body)
  let (mode, text) ← filterAndMode request
  let synonyms ← (Synonyms.loadOptional files synonymFile).mapError .synonyms
  evaluate request mode (Filter.parse text) synonyms

def respond (files : Files) (synonymFile : Option String) (body : String)
    (causes : Causes := .silent) : Response :=
  match handle files synonymFile body with
  | .ok v => ⟨200, v⟩
  | .error e => ⟨e.status, .object [("error", .string (e.message causes))]⟩

end RecordFilter.Debug
