import RecordFilter.Files
import RecordFilter.Settings.Format
import RecordFilter.Unicode.Case

/-!
# Loading settings

Settings come from a file, if one is named, and from variables of the environment, which count over
the file. A file is looked for under its name as it is, and then with the extension of each format
added to it; the extension tells its format. A text is read from whatever bytes there are, without a
byte order mark.
-/

namespace RecordFilter.Settings

def variableStart : List Char := "sift_".toList

def ofVariable? (name value : String) : Option (String × Value) :=
  let name := Unicode.lowercase name.toList
  if variableStart.isPrefixOf name then
    some (String.ofList (name.drop variableStart.length), .string value)
  else none

def ofEnvironment (environment : List (String × String)) : Source :=
  environment.filterMap fun (name, value) => ofVariable? name value

def fileName (path : String) : List Char :=
  ((path.toList.reverse.dropWhile (· == '/')).takeWhile (· != '/')).reverse

/-- What comes after the last dot of a file name, unless that is its first character. -/
def extension? (path : String) : Option String :=
  let reversed := (fileName path).reverse
  let stem := reversed.dropWhile (· != '.')
  if stem.length ≤ 1 then none else some (String.ofList (reversed.takeWhile (· != '.')).reverse)

def extendedNames (path : String) : List (String × Format) :=
  Format.extensions.map fun (e, format) => (path ++ "." ++ e, format)

def findFile? (files : Files) (path : String) : Option (ByteArray × Format) :=
  match (files path).bytes? with
  | some bytes => do
    let format ← Format.extensions.lookup (← extension? path)
    some (bytes, format)
  | none => (extendedNames path).findSome? fun (name, format) =>
      (files name).bytes?.map fun bytes => (bytes, format)

def fileNames (path : String) : List String := path :: (extendedNames path).map Prod.fst

def ofFile? (files : Files) (path : String) : Option Source :=
  match findFile? files path with
  | some (bytes, format) => format.read? (Utf8.decode (Utf8.dropMark bytes.toList))
  | none => none

def load? (files : Files) (path? : Option String) (environment : List (String × String)) :
    Option Settings :=
  match path? with
  | none => ofSources? [ofEnvironment environment]
  | some path =>
    match ofFile? files path with
    | some source => ofSources? [source, ofEnvironment environment]
    | none => none

end RecordFilter.Settings
