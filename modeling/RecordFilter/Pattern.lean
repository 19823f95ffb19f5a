import RecordFilter.CodeSet

/-!
# Patterns

A pattern describes stretches of a text: a stretch is given by its two ends, counted in characters.
Whether a repetition takes as little as it can plays no part for the stretches that match.
-/

namespace RecordFilter

/-- Sides of a word. The halves look at one side of the position only. -/
inductive WordEdge where
  | either
  | neither
  | start
  | stop
  | startHalf
  | stopHalf
deriving DecidableEq, Repr

/-- A condition on a position of the text. With `crlf` a line ends with a carriage return, a line
feed, or one of each in this order; otherwise with a line feed. -/
inductive Assertion where
  | textStart
  | textEnd
  | lineStart (crlf : Bool)
  | lineEnd (crlf : Bool)
  | word (edge : WordEdge) (characters : CodeSet)
deriving DecidableEq, Repr

/-- Whether a condition holds between two characters; at the ends of the text one is missing. -/
def Assertion.holds (a : Assertion) (before after : Option Char) : Bool :=
  match a with
  | textStart => before.isNone
  | textEnd => after.isNone
  | lineStart false => before.isNone || before == some '\n'
  | lineEnd false => after.isNone || after == some '\n'
  | lineStart true =>
    before.isNone || before == some '\n' || (before == some '\r' && after != some '\n')
  | lineEnd true =>
    after.isNone || after == some '\r' || (after == some '\n' && before != some '\r')
  | word edge characters =>
    let inside (c : Option Char) := c.any fun c => characters.contains c.toNat
    match edge with
    | .either => inside before != inside after
    | .neither => inside before == inside after
    | .start => !inside before && inside after
    | .stop => inside before && !inside after
    | .startHalf => !inside before
    | .stopHalf => !inside after

inductive Pattern where
  /-- the empty stretch -/
  | empty
  /-- one character of a set -/
  | chars (set : CodeSet)
  /-- the empty stretch where the assertion holds -/
  | assertion (a : Assertion)
  | seq (p q : Pattern)
  /-- one of two patterns; `q` holds the further branches of a choice between several -/
  | alt (p q : Pattern)
  /-- at least `min` times in a row and at most `max` times, if that is given -/
  | repeated (p : Pattern) (min : Nat) (max : Option Nat) (lazy : Bool)
  /-- a part in parentheses, whose place in a match could be asked for if it captures -/
  | group (captures : Bool) (p : Pattern)
deriving Repr

end RecordFilter
