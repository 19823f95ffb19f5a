import RecordFilter.CommandLine.Run

/-!
# The program

Gathers what a command may see and runs it. Files are read before they are asked for: first those
that may hold settings, then those that the settings and the command name.
-/

namespace RecordFilter

open CommandLine

/-- What is found under a path; what is there but cannot be read counts as a directory. -/
def fileState (path : String) : IO FileState := do
  try
    return .file (← IO.FS.readBinFile path)
  catch
    | .noFileOrDirectory .. => return .missing
    | _ => return .directory

def readFiles (files : Files) (paths : List String) : IO Files :=
  paths.foldlM (fun files path => return files.set path (← fileState path)) files

partial def readToEnd (stream : IO.FS.Stream) (acc : ByteArray) : IO ByteArray := do
  let chunk ← stream.read 65536
  if chunk.isEmpty then return acc
  readToEnd stream (acc ++ chunk)

def nameAndValue? (entry : List Char) : Option (String × String) :=
  match entry.span (· != '=') with
  | (name, '=' :: value) => some (String.ofList name, String.ofList value)
  | _ => none

/-- The variables of the environment. Where the system does not list them, those with the usual
names are looked up. -/
def readEnvironment : IO (List (String × String)) := do
  match ← fileState "/proc/self/environ" with
  | .file bytes =>
    return ((Utf8.decode bytes.toList).splitOn '\x00').filterMap nameAndValue?
  | _ =>
    ["SIFT_SYNONYMS", "SIFT_PARALLEL"].filterMapM fun name => do
      return (← IO.getEnv name).map fun value => (name, value)

def surroundings (i : Invocation) : IO Surroundings := do
  let environment ← readEnvironment
  let files ← readFiles Files.empty (i.config.toList.flatMap Settings.fileNames)
  let synonyms := (i.settings? files environment).bind (·.synonyms)
  let source := i.command.source?
  let file := source.filter fun s => !isStandardInput s
  let files ← readFiles files (synonyms.toList ++ file.toList)
  let input ←
    if source.any isStandardInput then readToEnd (← IO.getStdin) ByteArray.empty
    else pure ByteArray.empty
  return ⟨files, input, environment⟩

def report (p : Problem) : IO UInt32 := do
  match p.message? with
  | some text => IO.eprintln ("Error: " ++ text)
  | none =>
    IO.eprintln (if p.exitCode = 2 then "error: invalid arguments" else "Error: invalid settings")
  return UInt32.ofNat p.exitCode

/-- What a command line may look at; one that makes no invocation looks at nothing. -/
def surroundingsOf (line : List String) : IO Surroundings :=
  match Invocation.ofWords line with
  | .ok i => surroundings i
  | .error _ => return ⟨Files.empty, ByteArray.empty, []⟩

end RecordFilter

open RecordFilter CommandLine in
def main (line : List String) : IO UInt32 := do
  match run (← surroundingsOf line) line with
  | .ok p =>
    IO.print p.output
    return UInt32.ofNat p.exitCode
  | .error p => report p
