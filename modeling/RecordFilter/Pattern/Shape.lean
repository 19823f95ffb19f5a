import RecordFilter.Pattern

/-!
# Shapes of patterns

A shape is a pattern with needless structure removed: characters in a row are one literal, sequences
and choices do not lie directly in one another, a choice between characters or between sets is a
set, and what the branches of a choice begin with in common stands before it. What a pattern needs
to be searched for is told from its shape.
-/

namespace RecordFilter

inductive Shape where
  | empty
  /-- the characters with these codes in a row -/
  | literal (codes : List Nat)
  | set (s : CodeSet)
  | assertion (a : Assertion)
  | repeated (p : Shape) (min : Nat) (max : Option Nat) (lazy : Bool)
  | capture (p : Shape)
  | sequence (parts : List Shape)
  | choice (branches : List Shape)
deriving Repr

namespace Shape

instance : Inhabited Shape := ⟨empty⟩

/-! ## Properties -/

def encodedLength (c : Nat) : Nat :=
  if c < 0x80 then 1 else if c < 0x800 then 2 else if c < 0x10000 then 3 else 4

def literalLength (codes : List Nat) : Nat := codes.foldl (fun n c => n + encodedLength c) 0

mutual

/-- The fewest bytes that match. There are none for a set without members, nor for what has such a
set as a part or branch. -/
def minLength? : Shape → Option Nat
  | empty => some 0
  | literal codes => some (literalLength codes)
  | set s => s.head?.map fun r => encodedLength r.lo
  | assertion _ => some 0
  | repeated p min _ _ => p.minLength?.map (· * min)
  | capture p => p.minLength?
  | sequence parts => partsMinLength? parts
  | choice branches => branchesMinLength? branches

def partsMinLength? : List Shape → Option Nat
  | [] => some 0
  | p :: ps => do some ((← p.minLength?) + (← partsMinLength? ps))

def branchesMinLength? : List Shape → Option Nat
  | [] => none
  | [p] => p.minLength?
  | p :: ps => do some (min (← p.minLength?) (← branchesMinLength? ps))

end

mutual

/-- The most bytes that match, if there is a bound and no set without members. -/
def maxLength? : Shape → Option Nat
  | empty => some 0
  | literal codes => some (literalLength codes)
  | set s => s.getLast?.map fun r => encodedLength r.hi
  | assertion _ => some 0
  | repeated p _ max _ => do some ((← p.maxLength?) * (← max))
  | capture p => p.maxLength?
  | sequence parts => partsMaxLength? parts
  | choice branches => branchesMaxLength? branches

def partsMaxLength? : List Shape → Option Nat
  | [] => some 0
  | p :: ps => do some ((← p.maxLength?) + (← partsMaxLength? ps))

def branchesMaxLength? : List Shape → Option Nat
  | [] => none
  | [p] => p.maxLength?
  | p :: ps => do some (max (← p.maxLength?) (← branchesMaxLength? ps))

end

mutual

/-- Whether an assertion is seen to hold where every match starts. -/
def startsWith (a : Assertion) : Shape → Bool
  | assertion b => a == b
  | repeated p min _ _ => 0 < min && p.startsWith a
  | capture p => p.startsWith a
  | sequence parts => partsStartWith a parts
  | choice branches => branchesStartWith a branches
  | _ => false

def partsStartWith (a : Assertion) : List Shape → Bool
  | [] => false
  | p :: ps => p.startsWith a || (p.maxLength? == some 0 && partsStartWith a ps)

def branchesStartWith (a : Assertion) : List Shape → Bool
  | [] => true
  | p :: ps => p.startsWith a && branchesStartWith a ps

end

mutual

def endsWith (a : Assertion) : Shape → Bool
  | assertion b => a == b
  | repeated p min _ _ => 0 < min && p.endsWith a
  | capture p => p.endsWith a
  | sequence parts => (partsEndWith a parts).1
  | choice branches => branchesEndWith a branches
  | _ => false

/-- The same for parts in a row, and whether these match the empty stretch only. -/
def partsEndWith (a : Assertion) : List Shape → Bool × Bool
  | [] => (false, true)
  | p :: ps =>
    let (found, emptyOnly) := partsEndWith a ps
    (found || (emptyOnly && p.endsWith a), emptyOnly && p.maxLength? == some 0)

def branchesEndWith (a : Assertion) : List Shape → Bool
  | [] => true
  | p :: ps => p.endsWith a && branchesEndWith a ps

end

mutual

/-- Whether two shapes are the same. A part that captures is like no other one. -/
def same : Shape → Shape → Bool
  | empty, empty => true
  | literal a, literal b => a == b
  | set a, set b => a == b
  | assertion a, assertion b => a == b
  | repeated p min max lazy, repeated q min' max' lazy' =>
    min == min' && max == max' && lazy == lazy' && same p q
  | sequence ps, sequence qs => sameAll ps qs
  | choice ps, choice qs => sameAll ps qs
  | _, _ => false

def sameAll : List Shape → List Shape → Bool
  | [], [] => true
  | p :: ps, q :: qs => same p q && sameAll ps qs
  | _, _ => false

end

/-! ## Building shapes -/

def ofSet (s : CodeSet) : Shape :=
  match s with
  | [r] => if r.lo = r.hi then literal [r.lo] else set s
  | s => set s

def parts : Shape → List Shape
  | empty => []
  | sequence ps => ps
  | p => [p]

/-- One list of parts after the other; literals that meet become one. -/
def join : List Shape → List Shape → List Shape
  | [], qs => qs
  | [literal a], literal b :: qs => literal (a ++ b) :: qs
  | p :: ps, qs => p :: join ps qs

def ofParts : List Shape → Shape
  | [] => empty
  | [p] => p
  | ps => sequence ps

def append (p q : Shape) : Shape := ofParts (join p.parts q.parts)

/-- A repetition. One of the empty stretch is taken at most once. -/
def repeatedOf (p : Shape) (min : Nat) (max : Option Nat) (lazy : Bool) : Shape :=
  let once := p.maxLength? == some 0
  let min := if once then Nat.min min 1 else min
  let max := if once then some ((max.map (Nat.min · 1)).getD 1) else max
  if min = 0 ∧ max = some 0 then empty
  else if min = 1 ∧ max = some 1 then p
  else repeated p min max lazy

/-! ## Choices -/

def branches : Shape → List Shape
  | choice ps => ps
  | p => [p]

def code? : Shape → Option Nat
  | literal [c] => some c
  | _ => none

def set? : Shape → Option CodeSet
  | set s => some s
  | _ => none

/-- A set that is the same as a choice between characters, or between sets. -/
def choiceSet? (ps : List Shape) : Option CodeSet :=
  match ps.mapM code? with
  | some codes => some (CodeSet.ofCodes codes)
  | none => (ps.mapM set?).map fun sets => CodeSet.ofRanges sets.flatten

/-- A choice without regard to how its branches begin. -/
def plainChoice (ps : List Shape) : Shape :=
  match ps.flatMap branches with
  | [] => set []
  | [p] => p
  | ps =>
    match choiceSet? ps with
    | some s => ofSet s
    | none => choice ps

def commonLength : List Shape → List Shape → Nat
  | p :: ps, q :: qs => if same p q then commonLength ps qs + 1 else 0
  | _, _ => 0

def sequence? : Shape → Option (List Shape)
  | sequence ps => some ps
  | _ => none

/-- A choice. What its branches have in common at their starts comes before it. -/
def choiceOf (ps : List Shape) : Shape :=
  match plainChoice ps with
  | choice ps =>
    match ps.mapM sequence? with
    | some (first :: others) =>
      let shared := others.foldl (fun n q => min n (commonLength first q)) first.length
      if shared = 0 then choice ps
      else
        let rest := plainChoice ((first :: others).map fun q => ofParts (q.drop shared))
        ofParts (join (first.take shared) rest.parts)
    | _ => choice ps
  | p => p

end Shape

namespace Pattern

/-- The shape of a choice between patterns with these shapes; a single one stands for itself. -/
def shapeOf : List Shape → Shape
  | [p] => p
  | ps => Shape.choiceOf ps

/-- The shapes of the branches of a choice; a pattern that is none is its own only branch. -/
def branchShapes : Pattern → List Shape
  | empty => [.empty]
  | chars s => [Shape.ofSet s]
  | assertion a => [.assertion a]
  | seq p q => [(shapeOf p.branchShapes).append (shapeOf q.branchShapes)]
  | alt p q => shapeOf p.branchShapes :: q.branchShapes
  | repeated p min max lazy => [Shape.repeatedOf (shapeOf p.branchShapes) min max lazy]
  | group captures p =>
    [if captures then .capture (shapeOf p.branchShapes) else shapeOf p.branchShapes]

def shape (p : Pattern) : Shape := shapeOf p.branchShapes

end Pattern

end RecordFilter
