import RecordFilter.Unicode.Lookup

/-!
# Reading pattern texts

Every reader of pattern texts takes something from the front of a text. Whether spaces and comments
are ignored is decided by the options and by flags inside the pattern; where they are, `skip` is
applied after nearly every character taken.
-/

namespace RecordFilter.Written

/-- A reader of `α`, given whether spaces are ignored. -/
abbrev Reader (α : Type) := Bool → List Char → Option (α × List Char)

/-- Drops spaces and comments; `inComment` says whether the text starts inside a comment, which ends
with its line. -/
def skipSpace (inComment : Bool) : List Char → List Char
  | [] => []
  | c :: s =>
    if inComment then skipSpace (c != '\n') s
    else if Unicode.isWhiteSpace c then skipSpace false s
    else if c = '#' then skipSpace true s
    else c :: s

def skip (ignoreSpace : Bool) (s : List Char) : List Char :=
  if ignoreSpace then skipSpace false s else s

theorem skipSpace_length_le (b : Bool) (s : List Char) : (skipSpace b s).length ≤ s.length := by
  fun_induction skipSpace b s <;> simp only [List.length_cons, List.length_nil] at * <;> omega

theorem skip_length_le (x : Bool) (s : List Char) : (skip x s).length ≤ s.length := by
  unfold skip; split
  · exact skipSpace_length_le ..
  · exact Nat.le_refl _

/-- The character that decides whether a hyphen makes a range. Where spaces are ignored it is the
first one after them and after one number sign, if there is any. -/
def peekPastSpace (ignoreSpace : Bool) (s : List Char) : Option Char :=
  if ignoreSpace then
    match s.dropWhile Unicode.isWhiteSpace with
    | '#' :: rest => (rest.dropWhile Unicode.isWhiteSpace).head?
    | rest => rest.head?
  else s.head?

def decimalDigits (ignoreSpace : Bool) (acc : List Char) (s : List Char) : List Char × List Char :=
  match s with
  | [] => (acc.reverse, [])
  | c :: rest =>
    if c.isDigit then decimalDigits ignoreSpace (c :: acc) (skip ignoreSpace rest)
    else (acc.reverse, c :: rest)
termination_by s.length
decreasing_by
  have := skip_length_le ignoreSpace rest
  simp only [List.length_cons]; omega

def counterBound : Nat := 0x100000000

def counter? : Reader Nat := fun x s =>
  let (ds, rest) := decimalDigits x [] (s.dropWhile Unicode.isWhiteSpace)
  let n := ds.foldl (fun n d => 10 * n + (d.toNat - '0'.toNat)) 0
  if ds.isEmpty || counterBound ≤ n then none
  else some (n, rest.dropWhile Unicode.isWhiteSpace)

end RecordFilter.Written
