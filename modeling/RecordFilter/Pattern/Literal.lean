import RecordFilter.Pattern.Meaning
import RecordFilter.Pattern.Search

/-!
# Pattern literals

A pattern literal is a pattern text with flags, as a filter writes it between slashes. It is
compiled at the first attempt to match it, and the outcome is kept in the literal, failures
included; so an unusable literal is noticed once. Equality looks at the two texts only.
-/

namespace RecordFilter

/-- Why a pattern literal matches nothing. -/
inductive PatternFault where
  | unsupportedFlag (flag : Char)
  | invalidPattern
deriving DecidableEq, Repr

def PatternFault.message : PatternFault → String
  | unsupportedFlag flag => "unsupported flag '" ++ String.singleton flag ++ "'"
  | invalidPattern => "invalid pattern"

namespace PatternOptions

/-- The options before any flag; the one that `u` stands for is always on. -/
def unset : PatternOptions where
  ignoreCase := false
  multiLine := false
  dotMatchesNewLine := false
  ignoreSpace := false

def switchOn? (o : PatternOptions) (c : Char) : Option PatternOptions :=
  if c = 'i' then some { o with ignoreCase := true }
  else if c = 'm' then some { o with multiLine := true }
  else if c = 's' then some { o with dotMatchesNewLine := true }
  else if c = 'x' then some { o with ignoreSpace := true }
  else if c = 'u' then some { o with unicode := true }
  else none

/-- The options after flags, gone through one by one up to the first character that is none. -/
def switchAll (o : PatternOptions) : List Char → Except PatternFault PatternOptions
  | [] => .ok o
  | c :: flags =>
    match o.switchOn? c with
    | some o => o.switchAll flags
    | none => .error (.unsupportedFlag c)

/-! ## Flags as a set -/

def isFlag (c : Char) : Bool := c == 'i' || c == 'm' || c == 's' || c == 'x' || c == 'u'

/-- The options with those of all flags in a list switched on at once. -/
def adding (o : PatternOptions) (flags : List Char) : PatternOptions :=
  { o with
    ignoreCase := o.ignoreCase || flags.contains 'i'
    multiLine := o.multiLine || flags.contains 'm'
    dotMatchesNewLine := o.dotMatchesNewLine || flags.contains 's'
    ignoreSpace := o.ignoreSpace || flags.contains 'x'
    unicode := o.unicode || flags.contains 'u' }

theorem adding_nil (o : PatternOptions) : o.adding [] = o := by
  simp [adding]

theorem adding_adding (o : PatternOptions) (flags others : List Char) :
    (o.adding flags).adding others = o.adding (flags ++ others) := by
  simp [adding, Bool.or_assoc, Bool.decide_or]

theorem switchOn?_eq (o : PatternOptions) (c : Char) :
    o.switchOn? c = if isFlag c then some (o.adding [c]) else none := by
  unfold switchOn?
  repeat' split
  all_goals simp_all [adding, isFlag]

theorem switchAll_eq (o : PatternOptions) (flags : List Char) :
    o.switchAll flags =
      (flags.find? fun c => !isFlag c).elim (.ok (o.adding flags))
        fun c => .error (.unsupportedFlag c) := by
  induction flags generalizing o with
  | nil => rw [switchAll, adding_nil, List.find?_nil, Option.elim_none]
  | cons c flags ih =>
    rw [switchAll, switchOn?_eq]
    by_cases hc : isFlag c
    · have hadd : (o.adding [c]).adding flags = o.adding (c :: flags) := adding_adding o [c] flags
      simp [hc, ih, hadd]
    · simp [hc]

end PatternOptions

structure PatternLiteral where
  source : String
  flags : String
  /-- the outcome of compiling, once that was attempted -/
  outcome : Option (Except PatternFault Pattern) := none
deriving Repr

namespace PatternLiteral

/-- The pattern of a source text and flags; flags are looked at first. -/
def compileText (source flags : List Char) : Except PatternFault Pattern :=
  (PatternOptions.unset.switchAll flags).bind fun o =>
    (Pattern.ofText? o source).elim (.error .invalidPattern) .ok

/-- Compiling by the set of the flags and the first character that is none. -/
theorem compileText_eq (source flags : List Char) :
    compileText source flags =
      (flags.find? fun c => !PatternOptions.isFlag c).elim
        ((Pattern.ofText? (PatternOptions.unset.adding flags) source).elim
          (.error .invalidPattern) .ok)
        fun c => .error (.unsupportedFlag c) := by
  rw [compileText, PatternOptions.switchAll_eq]
  cases flags.find? fun c => !PatternOptions.isFlag c <;> rfl

def compile (l : PatternLiteral) : Except PatternFault Pattern :=
  compileText l.source.toList l.flags.toList

/-- Whether a compiled pattern occurs in a text; a fault occurs nowhere. -/
def found (outcome : Except PatternFault Pattern) (text : String) : Bool :=
  match outcome with
  | .ok p => p.occursIn text.toList
  | .error _ => false

/-- Whether the literal matches a text, regardless of earlier attempts. -/
def occursIn (l : PatternLiteral) (text : String) : Bool := found l.compile text

/-- The literal after an attempt to match it, and the fault that the attempt brought to light. -/
def attempt (l : PatternLiteral) : PatternLiteral × Option PatternFault :=
  match l.outcome with
  | some _ => (l, none)
  | none =>
    let outcome := l.compile
    ({ l with outcome := some outcome },
      match outcome with
      | .ok _ => none
      | .error fault => some fault)

def outcomeOrCompile (l : PatternLiteral) : Except PatternFault Pattern :=
  l.outcome.getD l.compile

def same (a b : PatternLiteral) : Bool := a.source == b.source && a.flags == b.flags

def text (l : PatternLiteral) : String := "/" ++ l.source ++ "/" ++ l.flags

end PatternLiteral

end RecordFilter
