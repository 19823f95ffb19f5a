/-!
# Counting automata

How much room an automaton over bytes takes, counted while its states are numbered: every state
takes the same, and transitions to several states or for several ranges of bytes take more.
-/

namespace RecordFilter

structure Tally where
  /-- how many states there are; the next one has this number -/
  states : Nat
  /-- what transitions take besides, in bytes -/
  extra : Nat
deriving DecidableEq, Repr

namespace Tally

def none : Tally := ⟨0, 0⟩

def stateSize : Nat := 32

/-- What a branch takes in a state that has several. -/
def branchSize : Nat := 4

/-- What a range takes in a state that has several. -/
def rangeSize : Nat := 8

def bytes (t : Tally) : Nat := t.states * stateSize + t.extra

def addStates (t : Tally) (n : Nat) : Tally := { t with states := t.states + n }

def addBranches (t : Tally) (n : Nat) : Tally := { t with extra := t.extra + n * branchSize }

def addRanges (t : Tally) (n : Nat) : Tally := { t with extra := t.extra + n * rangeSize }

/-- The most that the automaton of a pattern may take. -/
def limit : Nat := 10 * 0x100000

def fits (t : Tally) : Bool := t.bytes ≤ limit

@[simp] theorem bytes_addStates (t : Tally) (n : Nat) :
    (t.addStates n).bytes = t.bytes + n * stateSize := by
  simp [bytes, addStates, Nat.add_mul]; omega

@[simp] theorem bytes_addBranches (t : Tally) (n : Nat) :
    (t.addBranches n).bytes = t.bytes + n * branchSize := by
  simp [bytes, addBranches]; omega

@[simp] theorem bytes_addRanges (t : Tally) (n : Nat) :
    (t.addRanges n).bytes = t.bytes + n * rangeSize := by
  simp [bytes, addRanges]; omega

end Tally

/-- A part of an automaton that was counted. If its end branches, what follows takes one more branch
there. -/
structure Counted where
  tally : Tally
  branching : Bool

def Counted.followed (c : Counted) : Tally :=
  if c.branching then c.tally.addBranches 1 else c.tally

end RecordFilter
