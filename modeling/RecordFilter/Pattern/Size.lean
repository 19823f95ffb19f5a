import RecordFilter.Pattern.Shape
import RecordFilter.Pattern.Size.Sets
import RecordFilter.Pattern.Size.Words

/-!
# Sizes of patterns

A pattern is refused if one of two automata over bytes takes too much: one that matches from the
start of a stretch to its end and notes what is captured, and one that matches from the end to the
start. Both are counted without being built. Repetitions count once for every time they may be
taken, so patterns that are not refused have none that is too large to be searched for.
-/

namespace RecordFilter

/-! ## Repetitions -/

/-- Copies of a part in a row; counting stops once they are too many. -/
def addCopies (part : Tally → Counted) : Nat → Counted → Counted
  | 0, c => c
  | n + 1, c => if c.tally.fits then addCopies part n (part c.followed) else c

/-- Exactly `n` copies. None of them is a state that does nothing. -/
def addExactly (part : Tally → Counted) (n : Nat) (t : Tally) : Counted :=
  if n = 0 then ⟨t.addStates 1, false⟩ else addCopies part n ⟨t, false⟩

/-- Copies each of which may be the last, before the state where all end. -/
def addOptional (part : Tally → Counted) : Nat → Counted → Counted
  | 0, c => ⟨c.followed, false⟩
  | n + 1, c =>
    if c.tally.fits then
      let c' := part (c.tally.addStates 1)
      addOptional part n ⟨(Counted.followed ⟨c'.tally, c.branching⟩).addBranches 2, c'.branching⟩
    else c

/-- One or more copies: the state after the last one branches back to it. -/
def addLoop (part : Tally → Counted) (c : Counted) : Counted :=
  let c' := part c.followed
  ⟨(c'.followed.addStates 1).addBranches 1, true⟩

def addRepeated (part : Tally → Counted) (takesSome : Bool) (min : Nat) (max : Option Nat)
    (t : Tally) : Counted :=
  match min, max with
  | 0, some 1 => ⟨((part (t.addStates 1)).followed.addStates 1).addBranches 2, false⟩
  | 0, none =>
    if takesSome then ⟨(part (t.addStates 1)).followed.addBranches 1, true⟩
    else ⟨((part t).followed.addStates 3).addBranches 4, false⟩
  | n + 1, none => addLoop part (if n = 0 then ⟨t, false⟩ else addExactly part n t)
  | min, some max =>
    let c := addExactly part min t
    if max ≤ min then c else addOptional part (max - min) ⟨c.tally.addStates 1, c.branching⟩

namespace Shape

def codes? : Shape → Option (List Nat)
  | literal codes => some codes
  | _ => none

mutual

def addTo (backward : Bool) : Shape → Tally → Counted
  | empty, t => ⟨t.addStates 1, false⟩
  | literal codes, t => ⟨t.addStates (literalLength codes), false⟩
  | set s, t => ⟨addSet backward s t, false⟩
  | assertion _, t => ⟨t.addStates 1, false⟩
  | repeated p min max _, t =>
    addRepeated (fun t => addTo backward p t) (p.minLength?.any (0 < ·)) min max t
  | capture p, t =>
    if backward then addTo backward p t
    else ⟨(addTo backward p (t.addStates 1)).followed.addStates 1, false⟩
  | sequence parts, t => addParts backward parts ⟨t, false⟩
  | choice branches, t =>
    match branches.mapM codes? with
    | some words => ⟨addWords backward words t, false⟩
    | none => ⟨addBranches backward 0 branches t, false⟩

/-- Adds parts in a row, the last one first when going backwards. -/
def addParts (backward : Bool) : List Shape → Counted → Counted
  | [], c => c
  | p :: ps, c =>
    if backward then addTo backward p (addParts backward ps c).followed
    else addParts backward ps (addTo backward p c.followed)

/-- Adds branches after `count` other ones. After the second one follow the state that branches and
the one where all branches end. -/
def addBranches (backward : Bool) (count : Nat) : List Shape → Tally → Tally
  | [], t => t
  | p :: ps, t =>
    let t := (addTo backward p t).followed.addBranches 1
    addBranches backward (count + 1) ps (if count = 1 then t.addStates 2 else t)

end

/-- The whole automaton. Unless all matches start at the same place, it begins with states that pass
over what comes before a match. -/
def automaton (backward : Bool) (p : Shape) : Tally :=
  let anchored := if backward then p.endsWith .textEnd else p.startsWith .textStart
  let start :=
    if anchored then Tally.none.addStates 1
    else ((Tally.none.addStates 3).addBranches 2).addRanges 1
  (addTo backward (if backward then p else .capture p) start).followed.addStates 1

def fits (p : Shape) : Bool := (automaton false p).fits && (automaton true p).fits

end Shape

end RecordFilter
