/-!
# Sets of code points

A `CodeSet` is a list of inclusive ranges in increasing order, no two of them overlapping or
touching. Membership is all that matching looks at; the operations are those of character classes.
-/

namespace RecordFilter

/-- All code points from `lo` to `hi`, both included. -/
structure CodeRange where
  lo : Nat
  hi : Nat
deriving DecidableEq, Repr

abbrev CodeSet := List CodeRange

namespace CodeSet

def contains (s : CodeSet) (c : Nat) : Bool := s.any fun r => r.lo ≤ c && c ≤ r.hi

/-- Joins ranges sorted by their lower ends. -/
def coalesce : List CodeRange → CodeSet
  | [] => []
  | r :: rs => go r rs
where
  go (last : CodeRange) : List CodeRange → CodeSet
    | [] => [last]
    | r :: rs =>
      if r.lo ≤ last.hi + 1 then go ⟨last.lo, max last.hi r.hi⟩ rs else last :: go r rs

def ofRanges (rs : List CodeRange) : CodeSet :=
  coalesce ((rs.filter fun r => r.lo ≤ r.hi).mergeSort fun a b => a.lo ≤ b.lo)

def ofCodes (cs : List Nat) : CodeSet := ofRanges (cs.map fun c => ⟨c, c⟩)

def single (c : Nat) : CodeSet := [⟨c, c⟩]

def union (a b : CodeSet) : CodeSet := ofRanges (a ++ b)

/-- The code points from `start` up to `top` that are not in the set. -/
def gaps (top : Nat) (start : Nat) : CodeSet → CodeSet
  | [] => if start ≤ top then [⟨start, top⟩] else []
  | r :: rs => (if start < r.lo then [⟨start, r.lo - 1⟩] else []) ++ gaps top (r.hi + 1) rs

def complement (top : Nat) (s : CodeSet) : CodeSet := gaps top 0 s

def inter (top : Nat) (a b : CodeSet) : CodeSet :=
  complement top (union (complement top a) (complement top b))

def diff (top : Nat) (a b : CodeSet) : CodeSet := inter top a (complement top b)

def symmDiff (top : Nat) (a b : CodeSet) : CodeSet := diff top (union a b) (inter top a b)

def maxCode : Nat := 0x10FFFF

def full : CodeSet := [⟨0, maxCode⟩]

def isAscii (s : CodeSet) : Bool := s.all fun r => r.hi < 0x80

/-! ## Written tables -/

def hexDigitValue (c : Char) : Nat :=
  if c.isDigit then c.toNat - '0'.toNat else c.toNat - 'A'.toNat + 10

def hexValue (ds : List Char) : Nat := ds.foldl (fun n d => 16 * n + hexDigitValue d) 0

/-- A range as written in a table: one code point, or two with a hyphen between them. -/
def rangeOfText (s : List Char) : CodeRange :=
  let (first, rest) := s.span (· ≠ '-')
  let lo := hexValue first
  match rest with
  | [] => ⟨lo, lo⟩
  | _ :: last => ⟨lo, hexValue last⟩

def words (s : String) : List (List Char) :=
  (s.toList.splitBy fun a b => (a == ' ' || a == '\n') == (b == ' ' || b == '\n')).filter
    fun w => w.all fun c => c != ' ' && c != '\n'

def ofTable (s : String) : CodeSet := (words s).map rangeOfText

end CodeSet

end RecordFilter
