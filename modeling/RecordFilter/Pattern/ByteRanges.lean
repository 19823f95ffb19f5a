import RecordFilter.CodeSet

/-!
# Sets as ranges of bytes

The encoded characters of a set, as sequences of ranges of bytes: a sequence stands for all
characters that have one byte of each range in turn. `CodeSet.byteSequences` gives sequences that
together stand for the set, in the order of the characters, and as long as they can be.
-/

namespace RecordFilter

abbrev ByteRange := CodeRange

namespace CodeSet

/-- Cuts a range into parts whose ends differ in their last `k` bits only when the part holds
all endings of `k` bits: the parts below, within and above the whole blocks. -/
def cutBlocks (k : Nat) (r : CodeRange) : List CodeRange :=
  let block := Nat.pow 2 k
  if r.lo / block = r.hi / block then [r]
  else
    let first := if r.lo % block = 0 then r.lo / block else r.lo / block + 1
    let last := if r.hi % block = block - 1 then r.hi / block + 1 else r.hi / block
    [⟨r.lo, first * block - 1⟩, ⟨first * block, last * block - 1⟩, ⟨last * block, r.hi⟩].filter
      fun part => part.lo ≤ part.hi

def byteWidths (c : Nat) : List Nat :=
  if c < 0x80 then [7] else if c < 0x800 then [5, 6] else if c < 0x10000 then [4, 6, 6]
  else [3, 6, 6, 6]

def leadMark (c : Nat) : Nat :=
  if c < 0x80 then 0 else if c < 0x800 then 0xC0 else if c < 0x10000 then 0xE0 else 0xF0

def continuationMark : Nat := 0x80

def byteRanges (r : CodeRange) : List ByteRange := go (leadMark r.lo) (byteWidths r.lo)
where
  go (mark : Nat) : List Nat → List ByteRange
    | [] => []
    | w :: ws =>
      let after := Nat.pow 2 (ws.foldl (· + ·) 0)
      let block := Nat.pow 2 w
      ⟨mark + r.lo / after % block, mark + r.hi / after % block⟩ :: go continuationMark ws

def encoded (c : Nat) : List Nat := (byteRanges ⟨c, c⟩).map CodeRange.lo

/-- Parts of one length each, without surrogates and cut at whole blocks, as ranges of bytes. -/
def byteSequences (s : CodeSet) : List (List ByteRange) :=
  let clip (lo hi : Nat) := (s.map fun r => ⟨max r.lo lo, min r.hi hi⟩).filter
    fun r : CodeRange => r.lo ≤ r.hi
  let longer := clip 0x80 0x7FF ++ clip 0x800 0xD7FF ++ clip 0xE000 0xFFFF ++ clip 0x10000 maxCode
  let cut := ((longer.flatMap (cutBlocks 6)).flatMap (cutBlocks 12)).flatMap (cutBlocks 18)
  (clip 0 0x7F ++ cut).map byteRanges

end CodeSet

end RecordFilter
