import Std.Data.HashMap
import RecordFilter.Pattern.ByteRanges
import RecordFilter.Pattern.Size.Tally

/-!
# Automata of sets

A set of ASCII characters takes one state with a range each. For other sets the sequences of byte
ranges share states: forwards those that lead to the same ends, backwards those with the same start.
What can be shared is looked up in tables with few slots, so something is forgotten when another
thing takes its slot.
-/

namespace RecordFilter

/-- A hash of some numbers: each is added to the bits so far, which are then spread. -/
def spreadHash (xs : List Nat) : Nat :=
  (xs.foldl (fun h x => (h ^^^ UInt64.ofNat x) * 0x100000001B3) (0xCBF29CE484222325 : UInt64)).toNat

/-- States under what they stand for, in slots that hold one each. -/
abbrev Slots (α : Type) := Std.HashMap Nat (α × Nat)

def Slots.find? [DecidableEq α] (slots : Slots α) (slot : Nat) (key : α) : Option Nat :=
  match slots[slot]? with
  | some (known, state) => if known = key then some state else none
  | none => none

/-! ## Backwards -/

structure RangeState where
  next : Nat
  range : ByteRange
deriving DecidableEq

def RangeState.slot (s : RangeState) : Nat := spreadHash [s.next, s.range.lo, s.range.hi] % 1000

/-- Adds the states that lead to `next` over some ranges, the first one nearest. -/
def addRangeStates (next : Nat) (slots : Slots RangeState) (t : Tally) :
    List ByteRange → Slots RangeState × Tally
  | [] => (slots, t)
  | r :: rs =>
    let s : RangeState := ⟨next, r⟩
    match slots.find? s.slot s with
    | some state => addRangeStates state slots t rs
    | none => addRangeStates t.states (slots.insert s.slot (s, t.states)) (t.addStates 1) rs

def addSequencesBackward (sequences : List (List ByteRange)) (t : Tally) : Tally :=
  let stop := t.states + 1
  (sequences.foldl (fun (slots, t) rs =>
    let (slots, t) := addRangeStates stop slots t rs
    (slots, t.addBranches 1)) (({} : Slots RangeState), t.addStates 2)).2

/-! ## Forwards -/

structure Transition where
  range : ByteRange
  next : Nat
deriving DecidableEq

/-- The transitions of a state that is not made yet, last one first, and the range of one whose end
is still to come. -/
structure OpenState where
  transitions : List Transition
  pending : Option ByteRange

def OpenState.close (s : OpenState) (next : Nat) : OpenState :=
  match s.pending with
  | some r => ⟨⟨r, next⟩ :: s.transitions, none⟩
  | none => s

def transitionsSlot (reversed : List Transition) : Nat :=
  spreadHash (reversed.reverse.flatMap fun t => [t.range.lo, t.range.hi, t.next]) % 10000

structure SharedStates where
  slots : Slots (List Transition)
  tally : Tally

def SharedStates.state (sh : SharedStates) (reversed : List Transition) : Nat × SharedStates :=
  let slot := transitionsSlot reversed
  match sh.slots.find? slot reversed with
  | some state => (state, sh)
  | none =>
    (sh.tally.states,
      ⟨sh.slots.insert slot (reversed, sh.tally.states),
        (sh.tally.addStates 1).addRanges reversed.length⟩)

/-- Makes the states after the first `kept` ones, which are on the way from the start of the set to
the last sequence, and closes the last of those kept. All sequences end at `stop`. -/
def closeStates (stop kept : Nat) (path : List OpenState) (sh : SharedStates) :
    List OpenState × SharedStates :=
  let (next, sh) := (path.drop kept).foldr
    (fun s (next, sh) => sh.state (s.close next).transitions) (stop, sh)
  let path := path.take kept
  (path.dropLast ++ (path.getLast?.map fun s => s.close next).toList, sh)

def sharedLength : List ByteRange → List OpenState → Nat
  | r :: rs, s :: path => if s.pending = some r then sharedLength rs path + 1 else 0
  | _, _ => 0

def extendPath (path : List OpenState) : List ByteRange → List OpenState
  | [] => path
  | r :: rs =>
    path.dropLast ++ (path.getLast?.map fun s => { s with pending := some r }).toList ++
      rs.map fun r => ⟨[], some r⟩

def addSequencesForward (sequences : List (List ByteRange)) (t : Tally) : Tally :=
  let stop := t.states
  let (path, sh) := sequences.foldl (fun (path, sh) rs =>
    let shared := sharedLength rs path
    let (path, sh) := closeStates stop (shared + 1) path sh
    (extendPath path (rs.drop shared), sh)) ([⟨[], none⟩], ⟨{}, t.addStates 1⟩)
  let (path, sh) := closeStates stop 1 path sh
  (sh.state ((path.head?.map OpenState.transitions).getD [])).2.tally

/-! ## Both directions -/

def addSet (backward : Bool) (s : CodeSet) (t : Tally) : Tally :=
  if s.isAscii then (t.addStates 2).addRanges s.length
  else if backward then addSequencesBackward s.byteSequences t
  else addSequencesForward s.byteSequences t

end RecordFilter
