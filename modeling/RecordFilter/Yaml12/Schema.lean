import RecordFilter.Binary64.Decimal
import RecordFilter.Hexadecimal
import RecordFilter.Integer64
import RecordFilter.Yaml12.Document

/-!
# Types of YAML scalars

Where scalars are not just texts, a plain one is null, a boolean, an integer of 64 bits, a number or
a text, whichever it looks like; a quoted one is a text. A tag of the core types overrides this.
-/

namespace RecordFilter.Yaml12

open Yaml (Tag)

inductive Typed where
  | null
  | bool (b : Bool)
  | integer (n : Int)
  /-- a number by the text it was written as -/
  | real (text : List Char)
  | string (text : List Char)
deriving DecidableEq, Repr

namespace Typed

def nullTexts : List (List Char) := [[], ['~'], "null".toList]

def bool? (s : List Char) : Option Bool :=
  if s = "true".toList then some true else if s = "false".toList then some false else none

/-- A boolean as it may look without a tag, with capital letters at its start or throughout. -/
def plainBool? (s : List Char) : Option Bool :=
  if ["true", "True", "TRUE"].contains (String.ofList s) then some true
  else if ["false", "False", "FALSE"].contains (String.ofList s) then some false
  else none

/-- Digits of a base after an optional sign, making up at most 64 bits. -/
def based? (base : Nat) (s : List Char) : Option Int :=
  let (negative, ds) := Binary64.sign s
  if ds.isEmpty then none
  else
    match ds.mapM fun c => (hexDigit? c).filter (· < base) with
    | none => none
    | some values =>
      let n := values.foldl (fun n d => base * n + d) 0
      Integer64.signed? negative n

def marked? : List Char → Option Int
  | '0' :: 'x' :: s => based? 16 s
  | '0' :: 'o' :: s => based? 8 s
  | '+' :: s => based? 10 s
  | _ => none

def specialNames : List (List Char) :=
  [".inf", ".Inf", ".INF", "+.inf", "+.Inf", "+.INF", "-.inf", "-.Inf", "-.INF", ".nan", ".NaN",
    ".NAN"].map String.toList

/-- Whether a text is a number. A name without digits is one only if it is special. -/
def isReal (s : List Char) : Bool :=
  specialNames.contains s || (s.any Char.isDigit && (Binary64.ofScientific? s).isSome)

def ofPlain (s : List Char) : Typed :=
  match marked? s with
  | some n => .integer n
  | none =>
    if nullTexts.contains s then .null
    else
      match plainBool? s with
      | some b => .bool b
      | none =>
        match based? 10 s with
        | some n => .integer n
        | none => if isReal s then .real s else .string s

/-- A scalar under a tag of the core types, which it has to fit. -/
def ofCore? (type : String) (s : List Char) : Option Typed :=
  match type with
  | "bool" => (bool? s).map .bool
  | "int" => (based? 10 s).map .integer
  | "float" => if isReal s then some (.real s) else none
  | "null" => if s = ['~'] ∨ s = "null".toList then some .null else none
  | _ => some (.string s)

def ofScalar? (s : List Char) (plain : Bool) : Option Tag → Option Typed
  | none => some (if plain then ofPlain s else .string s)
  | some t =>
    if plain ∧ t.handle = coreStart then ofCore? (String.ofList t.suffix) s else some (.string s)

def keyText? : Typed → Option String
  | null => none
  | bool b => some (toString b)
  | integer n => some (toString n)
  | real text => some (String.ofList text)
  | string text => some (String.ofList text)

end Typed

end RecordFilter.Yaml12
