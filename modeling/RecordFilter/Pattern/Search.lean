import RecordFilter.Pattern

/-!
# Searching with patterns

A set of positions of a text is a natural number whose bits are its members. A pattern maps the
positions where stretches may start to those where they may end, and this map is built from the
pattern part by part: one character shifts the positions before characters of its set, an assertion
keeps the positions where it holds, and a repetition applies the map of its part again and again
until nothing new is reached. A text contains a match if any position is reached from all of them.
-/

namespace RecordFilter

/-- A pattern with its sets and assertions replaced by the positions of a text where they apply. -/
inductive Placed where
  | empty
  | step (positions : Nat)
  | guard (positions : Nat)
  | seq (p q : Placed)
  | alt (p q : Placed)
  | repeated (p : Placed) (min : Nat) (max : Option Nat)

namespace Placed

/-- The places in a list where a condition holds, as bits. -/
def bits (p : α → Bool) : List α → Nat
  | [] => 0
  | a :: as => 2 * bits p as + (p a).toNat

def positions (before : Option Char) : List Char → List (Option Char × Option Char)
  | [] => [(before, none)]
  | c :: cs => (before, some c) :: positions (some c) cs

/-- Applies `f` to a set `n` times; once it changes nothing, more applications change nothing. -/
def iterate (f : Nat → Nat) : (n s : Nat) → Nat
  | 0, s => s
  | n + 1, s =>
    let t := f s
    if t = s then s else iterate f n t

def grow (f : Nat → Nat) : (n s : Nat) → Nat
  | 0, s => s
  | n + 1, s =>
    let t := s ||| f s
    if t = s then s else grow f n t

/-- The positions where stretches end that start at the given positions. `size` is the number of
positions: without an upper bound, no repetition needs more rounds than that. -/
def ends (size : Nat) : Placed → Nat → Nat
  | empty, s => s
  | step m, s => (s &&& m) <<< 1
  | guard m, s => s &&& m
  | seq p q, s => q.ends size (p.ends size s)
  | alt p q, s => p.ends size s ||| q.ends size s
  | repeated p min max, s =>
    let start := iterate (p.ends size) min s
    match max with
    | none => grow (p.ends size) size start
    | some max => grow (p.ends size) (max - min) start

end Placed

namespace Pattern

def place (text : List Char) (around : List (Option Char × Option Char)) : Pattern → Placed
  | empty => .empty
  | chars set => .step (Placed.bits (fun c => set.contains c.toNat) text)
  | assertion a => .guard (Placed.bits (fun (before, after) => a.holds before after) around)
  | seq p q => .seq (p.place text around) (q.place text around)
  | alt p q => .alt (p.place text around) (q.place text around)
  | repeated p min max _ => .repeated (p.place text around) min max
  | group _ p => p.place text around

def occursIn (p : Pattern) (text : List Char) : Bool :=
  let size := text.length + 1
  (p.place text (Placed.positions none text)).ends size (Nat.pow 2 size - 1) != 0

end Pattern

end RecordFilter
