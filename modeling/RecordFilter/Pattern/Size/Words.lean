import RecordFilter.Pattern.ByteRanges
import RecordFilter.Pattern.Size.Tally

/-!
# Automata of choices between words

Words share the states for what they begin with. A word that ends inside another one separates what
came before it from what comes after it, since the order of the words decides between matches.
-/

namespace RecordFilter

/-- Words by their bytes: for each first byte the rests of the words. Every word that ends here
starts a new group; the groups before are those that were complete then. -/
inductive WordTree where
  | node (before : List (List (Nat × WordTree))) (last : List (Nat × WordTree))

namespace WordTree

def leaf : WordTree := node [] []

instance : Inhabited WordTree := ⟨leaf⟩

def isLeaf : WordTree → Bool
  | node before last => before.all List.isEmpty && last.isEmpty

/-- Changes the tree under a byte, which is new if there is none. -/
def update (f : WordTree → WordTree) (b : Nat) : List (Nat × WordTree) → List (Nat × WordTree)
  | [] => [(b, f leaf)]
  | (c, t) :: group => if c = b then (c, f t) :: group else (c, t) :: update f b group

/-- Adds a word. One that ends where one has ended before, and none goes on, changes nothing. -/
def insert : List Nat → WordTree → WordTree
  | [], node before last =>
    if !before.isEmpty && (node before last).isLeaf then node before last
    else node (before ++ [last]) []
  | b :: bs, node before last => node before (update (insert bs) b last)

mutual

/-- Adds the states from here on. The words end in a state of their own, which is not added. -/
def addTo (t : Tally) : WordTree → Tally
  | node before last =>
    let t := addGroups t before
    let t := addGroup t last
    (t.addStates 1).addBranches before.length

/-- Adds one group: a state for its bytes, a branch to it, and what follows each byte. -/
def addGroup (t : Tally) : List (Nat × WordTree) → Tally
  | [] => t
  | [(_, tree)] => (addFurther t tree).addStates 1 |>.addBranches 1
  | group => ((addTrees t group).addStates 1).addRanges group.length |>.addBranches 1

def addGroups (t : Tally) : List (List (Nat × WordTree)) → Tally
  | [] => t
  | group :: groups => addGroups (addGroup t group) groups

def addTrees (t : Tally) : List (Nat × WordTree) → Tally
  | [] => t
  | (_, tree) :: group => addTrees (addFurther t tree) group

def addFurther (t : Tally) (tree : WordTree) : Tally := if tree.isLeaf then t else addTo t tree

end

end WordTree

def addWords (backward : Bool) (words : List (List Nat)) (t : Tally) : Tally :=
  let tree := words.foldl (fun tree codes =>
    let bytes := codes.flatMap CodeSet.encoded
    tree.insert (if backward then bytes.reverse else bytes)) WordTree.leaf
  tree.addTo (t.addStates 1)

end RecordFilter
