import RecordFilter.Unicode.CaseMapping
import RecordFilter.Unicode.Lookup

/-!
# Letter case

`foldClosure` adds to a set every character that differs from one of its members in case only.
`lowercase` maps a whole text, since the lower case of a capital sigma depends on what is around it.
-/

namespace RecordFilter.Unicode

open CodeSet

/-- Characters `lo`, `lo + step`, … up to `hi`, the first of which maps to `target`. -/
structure CaseRun where
  lo : Nat
  hi : Nat
  step : Nat
  target : Nat

def CaseRun.ofText (s : List Char) : CaseRun :=
  let (source, target) := s.span (· ≠ '>')
  let (range, step) := source.span (· ≠ '/')
  let r := rangeOfText range
  ⟨r.lo, r.hi, if step.isEmpty then 1 else 2, hexValue (target.drop 1)⟩

def CaseRun.pairs (r : CaseRun) : List (Nat × Nat) :=
  (List.range ((r.hi - r.lo) / r.step + 1)).map fun k => (r.lo + r.step * k, r.target + r.step * k)

def CaseRun.apply? (r : CaseRun) (c : Nat) : Option Nat :=
  if r.lo ≤ c ∧ c ≤ r.hi ∧ (c - r.lo) % r.step = 0 then some (r.target + (c - r.lo)) else none

/-- Every character that folds to another one, with its folding. -/
def foldings : List (Nat × Nat) :=
  (words foldingRuns).flatMap fun w => (CaseRun.ofText w).pairs

/-- The set and all characters with the same folding as one of its members. -/
def foldClosure (s : CodeSet) : CodeSet :=
  let targets := ofCodes <|
    (foldings.filter fun (c, t) => s.contains c || s.contains t).map Prod.snd
  if targets.isEmpty then s
  else
    let sources := (foldings.filter fun (_, t) => targets.contains t).map Prod.fst
    union s (union targets (ofCodes sources))

def asciiFoldClosure (s : CodeSet) : CodeSet :=
  let letters := (List.range 26).map (· + 'a'.toNat)
  let hits := letters.filter fun c => s.contains c || s.contains (c - 32)
  ofRanges (s ++ hits.flatMap fun c => [⟨c, c⟩, ⟨c - 32, c - 32⟩])

def lowercaseTable : List CaseRun := (words lowercaseRuns).map CaseRun.ofText

def lowercaseChar (c : Char) : List Char :=
  if c.toNat < 0x80 then [asciiLower c]
  else if c = '\u0130' then ['i', '\u0307']
  else [((lowercaseTable.findSome? fun r => r.apply? c.toNat).map Char.ofNat).getD c]

def cased : CodeSet := propertySet "cased"

def caseIgnorable : CodeSet := propertySet "caseignorable"

/-- Whether the first character that is not ignorable for case is a cased one. -/
def meetsCased : List Char → Bool
  | [] => false
  | c :: cs => if caseIgnorable.contains c.toNat then meetsCased cs else cased.contains c.toNat

/-- The lower case of `s`, where `before` is what precedes it, last character first. A capital
sigma that ends a word becomes a final sigma. -/
def lowercaseAfter (before : List Char) : List Char → List Char
  | [] => []
  | c :: cs =>
    (if c = 'Σ' then [if meetsCased before && !meetsCased cs then 'ς' else 'σ']
      else lowercaseChar c) ++ lowercaseAfter (c :: before) cs

def lowercase (s : List Char) : List Char := lowercaseAfter [] s

end RecordFilter.Unicode
