import RecordFilter.Filter
import RecordFilter.Json.Path
import RecordFilter.Synonyms

/-!
# Evaluating filters

A subject is a plain text or a record. Text terms match texts only: a pattern by occurring in the
text, any other searchable literal by itself or one of its alternates occurring in it without regard
to case. Comparisons look at a field of a record; what is not there, or a field of a text, is null.
-/

namespace RecordFilter

inductive Subject where
  | text (s : String)
  | record (v : Json)
deriving Repr

/-- A JSON string is a text, and every other value a record. -/
def Subject.ofJson : Json → Subject
  | .string s => .text s
  | v => .record v

def Subject.field (subject : Subject) (path : String) : Json :=
  match subject with
  | .text _ => .null
  | .record v => (v.resolve? path).getD .null

def occursIn (needle : List Char) : List Char → Bool
  | [] => needle.isEmpty
  | c :: s => needle.isPrefixOf (c :: s) || occursIn needle s

def occursFolded (needle text : String) : Bool :=
  occursIn (Unicode.lowercase needle.toList) (Unicode.lowercase text.toList)

namespace Literal

mutual

/-- Whether a JSON value is the one written: of the same kind, numbers by value and lists item by
item. No object and no pattern equals anything. -/
def equals : Literal → Json → Bool
  | string a, .string b => a == b
  | number a, .number b => b.toBinary64.sameValue a
  | bool a, .bool b => a == b
  | null, .null => true
  | list items, .array values => itemsEqual items values
  | _, _ => false

def itemsEqual : List Literal → List Json → Bool
  | [], [] => true
  | item :: items, v :: values => item.equals v && itemsEqual items values
  | _, _ => false

end

/-- How a JSON value is ordered relative to a literal; only two numbers or two strings are. -/
def order? (literal : Literal) (v : Json) : Option Ordering :=
  match v, literal with
  | .number a, .number b => a.toBinary64.compare? b
  | .string a, .string b => some (compare a b)
  | _, _ => none

end Literal

/-- The text of a value that patterns are matched against. Lists and objects have none. -/
def Json.scalarText? : Json → Option String
  | .string s => some s
  | .number (.integer n) => some (Json.Number.integer n).text
  | .number (.float x) => some x.plainText
  | .bool true => some "1"
  | .bool false => some ""
  | .null => some ""
  | .array _ => none
  | .object _ => none

/-- Whether a text holds a search term or one of its alternates. -/
def containsTerm (synonyms : Synonyms) (text term : String) : Bool :=
  (term :: synonyms.lookup term).any fun needle => occursFolded needle text

def Literal.includes (literal : Literal) (actual : Json) : Bool :=
  match literal with
  | .list items => items.any fun item => item.equals actual
  | _ => false

/-- The outcome of an operator that no pattern takes part in. -/
def Operator.compare (op : Operator) (actual : Json) (expected : Literal) : Bool :=
  match op with
  | .eq => expected.equals actual
  | .ne => !expected.equals actual
  | .gt => (expected.order? actual).any Ordering.isGT
  | .lt => (expected.order? actual).any Ordering.isLT
  | .ge => (expected.order? actual).any Ordering.isGE
  | .le => (expected.order? actual).any Ordering.isLE
  | .isIn => expected.includes actual
  | .notIn => !expected.includes actual
  | .containsAny =>
    match actual, expected with
    | .array values, .list items => items.any fun item => values.any item.equals
    | _, _ => false
  | .containsAll =>
    match actual, expected with
    | .array values, .list items => items.all fun item => values.any item.equals
    | _, _ => false

/-- The pattern that a comparison matches against the text of a field, and whether the outcome is
negated: only equality and its negation look at patterns. -/
def Operator.pattern? (op : Operator) (expected : Literal) : Option (PatternLiteral × Bool) :=
  match op, expected with
  | .eq, .pattern p => some (p, false)
  | .ne, .pattern p => some (p, true)
  | _, _ => none

def Operator.holds (op : Operator) (actual : Json) (expected : Literal) : Bool :=
  match op.pattern? expected with
  | some (p, negated) => (actual.scalarText?.any p.occursIn) != negated
  | none => op.compare actual expected

def Literal.foundIn (value : Literal) (subject : Subject) (synonyms : Synonyms) : Bool :=
  match subject with
  | .record _ => false
  | .text s =>
    match value with
    | .pattern p => p.occursIn s
    | value => value.searchTerm?.any (containsTerm synonyms s)

namespace Filter

mutual

def accepts (f : Filter) (subject : Subject) (synonyms : Synonyms) : Bool :=
  match f with
  | joined .and terms => allAccept terms subject synonyms
  | joined .or terms => anyAccepts terms subject synonyms
  | text value => value.foundIn subject synonyms
  | comparison field op value => op.holds (subject.field field) value

def allAccept (terms : List Filter) (subject : Subject) (synonyms : Synonyms) : Bool :=
  match terms with
  | [] => true
  | t :: terms => t.accepts subject synonyms && allAccept terms subject synonyms

def anyAccepts (terms : List Filter) (subject : Subject) (synonyms : Synonyms) : Bool :=
  match terms with
  | [] => false
  | t :: terms => t.accepts subject synonyms || anyAccepts terms subject synonyms

end

variable (terms : List Filter) (subject : Subject) (synonyms : Synonyms)

theorem allAccept_eq_all :
    allAccept terms subject synonyms = terms.all fun t => t.accepts subject synonyms := by
  induction terms with
  | nil => rfl
  | cons t terms ih => rw [allAccept, List.all_cons, ih]

theorem anyAccepts_eq_any :
    anyAccepts terms subject synonyms = terms.any fun t => t.accepts subject synonyms := by
  induction terms with
  | nil => rfl
  | cons t terms ih => rw [anyAccepts, List.any_cons, ih]

end Filter

end RecordFilter
