import RecordFilter.Entries

/-!
# Files

What a name may stand for when a file is asked for, and the texts that files hold. A text is read
strictly, so a file with bytes that are no UTF-8 has none. All files together are a function of
their names.
-/

namespace RecordFilter

inductive FileState where
  | missing
  | directory
  | file (bytes : ByteArray)

namespace FileState

instance : Inhabited FileState := ⟨missing⟩

def ofText (text : String) : FileState := file text.toUTF8

def isMissing : FileState → Bool
  | missing => true
  | _ => false

def bytes? : FileState → Option ByteArray
  | file bytes => some bytes
  | _ => none

def text? (s : FileState) : Option String := s.bytes?.bind String.fromUTF8?

@[simp] theorem text?_ofText (text : String) : (ofText text).text? = some text := by
  simp only [text?, bytes?, ofText, Option.bind_some, String.fromUTF8?,
    String.toUTF8_eq_toByteArray, dif_pos text.isValidUTF8]
  rfl

@[simp] theorem isMissing_eq_true {s : FileState} : s.isMissing = true ↔ s = missing := by
  cases s <;> simp [isMissing]

end FileState

/-- The files that can be asked for by name. -/
abbrev Files := String → FileState

namespace Files

def empty : Files := fun _ => .missing

def set (files : Files) (name : String) (state : FileState) : Files :=
  fun n => if n = name then state else files n

@[simp] theorem set_self (files : Files) (name : String) (state : FileState) :
    files.set name state name = state := by simp [set]

/-- Names of files in one directory: letters, digits, dots, underscores and hyphens, the first no
dot. -/
def isPlainName (name : String) : Bool :=
  !name.isEmpty && name.front != '.' &&
    name.toList.all fun c => c.isAlphanum || c == '.' || c == '_' || c == '-'

/-! ## Directories -/

/-- The names in a path relative to a directory, without those that stand for the same place. -/
def pathParts (path : List Char) : List (List Char) :=
  (path.splitOn '/').filter fun part => part != [] && part != ['.']

/-- The files of a directory, by their paths relative to it. A path that ends as paths of
directories do leads to no file. -/
def inDirectory (names : List (String × FileState)) : Files := fun path =>
  let parts := pathParts path.toList
  let last := (path.toList.splitOn '/').getLast?.getD []
  if path.isEmpty || path.front == '/' then .missing
  else if parts.isEmpty then .directory
  else
    match (Entries.get? (String.ofList (['/'].intercalate parts)) names).getD .missing with
    | .file bytes => if last == [] || last == ['.'] then .missing else .file bytes
    | state => state

end Files

end RecordFilter
