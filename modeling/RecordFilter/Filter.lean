import RecordFilter.Binary64.Text
import RecordFilter.Json.Printer
import RecordFilter.Pattern.Literal

/-!
# Filters

A filter is a tree of terms joined by `and` or `or`. A text term looks for a literal in a plain
text; a comparison puts a field of a record against a literal. Trees are compared by value: numbers
as numbers and pattern literals by their texts, whether compiled or not.
-/

namespace RecordFilter

inductive Literal where
  | string (s : String)
  | number (x : Binary64)
  | bool (b : Bool)
  | null
  | list (items : List Literal)
  | pattern (p : PatternLiteral)
deriving Repr

inductive Connective where
  | and
  | or
deriving DecidableEq, Repr

inductive Operator where
  | eq
  | ne
  | gt
  | lt
  | ge
  | le
  | isIn
  | notIn
  | containsAny
  | containsAll
deriving DecidableEq, Repr

inductive Filter where
  | joined (op : Connective) (terms : List Filter)
  | text (value : Literal)
  | comparison (field : String) (op : Operator) (value : Literal)
deriving Repr

def Connective.text : Connective → String
  | and => "and"
  | or => "or"

def Operator.text : Operator → String
  | eq => "="
  | ne => "!="
  | gt => ">"
  | lt => "<"
  | ge => ">="
  | le => "<="
  | isIn => "in"
  | notIn => "!in"
  | containsAny => "contains_any"
  | containsAll => "contains_all"

namespace Literal

instance : Inhabited Literal := ⟨null⟩

/-- The text that a text term with this literal looks for. -/
def searchTerm? : Literal → Option String
  | string s => some s
  | number x => some x.plainText
  | _ => none

mutual

/-- Equality by value. A number that is none differs from itself. -/
def same : Literal → Literal → Bool
  | string a, string b => a == b
  | number a, number b => a.sameValue b
  | bool a, bool b => a == b
  | null, null => true
  | list a, list b => sameItems a b
  | pattern a, pattern b => a.same b
  | _, _ => false

def sameItems : List Literal → List Literal → Bool
  | [], [] => true
  | a :: as, b :: bs => same a b && sameItems as bs
  | _, _ => false

end

mutual

def toJson : Literal → Json
  | string s => .string s
  | number x => if x.isFinite then .number (.float x) else .null
  | bool b => .bool b
  | null => .null
  | list items => .array (itemsToJson items)
  | pattern p =>
    .object [("type", .string "regex"), ("pattern", .string p.source), ("flags", .string p.flags)]

def itemsToJson : List Literal → List Json
  | [] => []
  | v :: items => v.toJson :: itemsToJson items

end

/-- Induction on literals: for a list it is enough to know each of its items. -/
@[elab_as_elim]
theorem induct_items {motive : Literal → Prop} (string : ∀ s, motive (string s))
    (number : ∀ x, motive (number x)) (bool : ∀ b, motive (bool b)) (null : motive null)
    (list : ∀ items, (∀ v ∈ items, motive v) → motive (list items))
    (pattern : ∀ p, motive (pattern p)) : ∀ v, motive v
  | .string s => string s
  | .number x => number x
  | .bool b => bool b
  | .null => null
  | .list items => list items fun v _ => induct_items string number bool null list pattern v
  | .pattern p => pattern p

end Literal

namespace Filter

instance : Inhabited Filter := ⟨joined .and []⟩

/-- Induction on filters: for a joined filter it is enough to know each of its terms. -/
@[elab_as_elim]
theorem induct_terms {motive : Filter → Prop}
    (joined : ∀ op terms, (∀ t ∈ terms, motive t) → motive (joined op terms))
    (text : ∀ v, motive (text v))
    (comparison : ∀ field op v, motive (comparison field op v)) : ∀ f, motive f
  | .joined op terms => joined op terms fun t _ => induct_terms joined text comparison t
  | .text v => text v
  | .comparison field op v => comparison field op v

/-- A filter that no subject matches. -/
def unmatchable : Filter := joined .or []

mutual

def nodeCount : Filter → Nat
  | joined _ terms => nodeCounts terms + 1
  | _ => 1

def nodeCounts : List Filter → Nat
  | [] => 0
  | t :: terms => t.nodeCount + nodeCounts terms

end

mutual

def same : Filter → Filter → Bool
  | joined o a, joined p b => o == p && sameTerms a b
  | text a, text b => a.same b
  | comparison f o a, comparison g p b => f == g && o == p && a.same b
  | _, _ => false

def sameTerms : List Filter → List Filter → Bool
  | [], [] => true
  | a :: as, b :: bs => same a b && sameTerms as bs
  | _, _ => false

end

mutual

def toJson : Filter → Json
  | joined op terms =>
    .object [("type", .string "logical"), ("operator", .string op.text),
      ("terms", .array (termsToJson terms))]
  | text value => .object [("type", .string "text"), ("value", value.toJson)]
  | comparison field op value =>
    .object [("type", .string "comparison"), ("field", .string field),
      ("operator", .string op.text), ("value", value.toJson)]

def termsToJson : List Filter → List Json
  | [] => []
  | t :: terms => t.toJson :: termsToJson terms

end

end Filter

end RecordFilter
