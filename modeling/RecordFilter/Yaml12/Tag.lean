import RecordFilter.Hexadecimal
import RecordFilter.Yaml.Token
import RecordFilter.Yaml12.Line

/-!
# Names in YAML 1.2

Directives, anchors and tags. What is encoded with percent signs in a tag is decoded. An unknown
directive counts as one that declares an empty handle.
-/

namespace RecordFilter.Yaml12

open Yaml

def isAnchorChar (c : Char) : Bool :=
  !(isBlank c || isBreak c || isFlowIndicator c || c == '\ufeff')

def isUriChar (c : Char) : Bool := isNameChar c || "#;/?:@&=+$,.!~*'()[]%".toList.contains c

def isTagChar (c : Char) : Bool := isUriChar c && !isFlowIndicator c && c != '!'

def anchorName? : Reader (List Char) := fun c =>
  let (name, c) := c.span isAnchorChar
  if name.isEmpty then none else some (name, c)

/-! ## Encoded characters -/

def encodedByte? : List Char → Option (Nat × List Char)
  | '%' :: a :: b :: s => do
    let high ← hexDigit? a
    let low ← hexDigit? b
    some (16 * high + low, s)
  | _ => none

def encodedWidth? (b : Nat) : Option Nat :=
  if b < 0x80 then some 1
  else if 0xC0 ≤ b ∧ b < 0xE0 then some 2
  else if 0xE0 ≤ b ∧ b < 0xF0 then some 3
  else if 0xF0 ≤ b ∧ b < 0xF8 then some 4
  else none

/-- The rest after further bytes of a character, and all of its bytes as digits of one number. -/
def encodedRest? : Nat → Nat → List Char → Option (Nat × List Char)
  | 0, code, s => some (code, s)
  | n + 1, code, s => do
    let (b, s) ← encodedByte? s
    if b / 64 = 2 then encodedRest? n (256 * code + b) s else none

/-- The character whose number has the bytes written next as its digits. -/
def encodedChar? (s : List Char) : Option (Char × List Char) := do
  let (b, s) ← encodedByte? s
  let width ← encodedWidth? b
  let (code, s) ← encodedRest? (width - 1) b s
  some (← character? code, s)

def decoded? (s : List Char) : Option (List Char) :=
  match s with
  | [] => some []
  | '%' :: s =>
    match encodedChar? ('%' :: s) with
    | some (c, rest) =>
      if _ : rest.length < s.length + 1 then (decoded? rest).map (c :: ·) else none
    | none => none
  | c :: s => (decoded? s).map (c :: ·)
termination_by s.length
decreasing_by
  · assumption
  · exact Nat.lt_succ_self _

def decodedSpan? (p : Char → Bool) : Reader (List Char) := fun c =>
  let (s, c) := c.span p
  (decoded? s).map fun s => (s, c)

/-! ## Tags -/

def tagHandle? : Reader (List Char) := fun c =>
  if c.rest.head? = some '!' then
    let (name, c) := (c.skip 1).span isNameChar
    if c.rest.head? = some '!' then some ('!' :: name ++ ['!'], c.skip 1) else some ('!' :: name, c)
  else none

/-- Whether a handle ends with a mark besides the one at its start. -/
def isNamedHandle (handle : List Char) : Bool :=
  2 ≤ handle.length && handle.head? == some '!' && handle.getLast? == some '!'

def tag? (inFlow : Bool) (c : Cursor) : Option (Token × Cursor) := do
  let (t, c) ← match c.rest with
    | '!' :: '<' :: _ => do
      let (uri, c) ← decodedSpan? isUriChar (c.skip 2)
      if c.rest.head? = some '>' then some (⟨[], uri⟩, c.skip 1) else none
    | _ => do
      let (handle, c) ← tagHandle? c
      let (suffix, c) ← decodedSpan? isTagChar c
      if isNamedHandle handle then
        if suffix.isEmpty then none else some (⟨handle, suffix⟩, c)
      else
        let suffix := handle.drop 1 ++ suffix
        some (if suffix.isEmpty then ⟨[], ['!']⟩ else (⟨['!'], suffix⟩ : Tag), c)
  if blankOrEnd c.rest || (inFlow && beforeFlowIndicator c.rest) then some (.tag t, c) else none

/-! ## Directives -/

def versionPart? : Reader (List Char) := fun c =>
  let (ds, c) := c.span Char.isDigit
  if ds.isEmpty || 9 < ds.length then none else some (ds, c)

def versionDirective? (c : Cursor) : Option (Token × Cursor) := do
  let (major, c) ← versionPart? c.skipBlanks
  if c.rest.head? = some '.' then
    let (minor, c) ← versionPart? (c.skip 1)
    some (.version major minor, c)
  else none

/-- What a handle stands for: an exclamation mark or a tag character, and what may follow. -/
def tagStart? : Reader (List Char) := fun c =>
  if c.rest.head?.any fun d => d == '!' || isTagChar d then decodedSpan? isUriChar c else none

def tagDirective? (c : Cursor) : Option (Token × Cursor) := do
  let (handle, c) ← tagHandle? c.skipBlanks
  if handle ≠ ['!'] ∧ handle.getLast? ≠ some '!' then none
  let (start, c) ← tagStart? c.skipBlanks
  if blankOrEnd c.rest then some (.tagDirective handle start, c) else none

def directive? (c : Cursor) : Option (Token × Cursor) := do
  let (name, c) := c.span isNameChar
  if name.isEmpty || !blankOrEnd c.rest then none
  let (t, c) ← match String.ofList name with
    | "YAML" => versionDirective? c
    | "TAG" => tagDirective? c
    | _ => some (.tagDirective [] [], lineEnd c)
  let c ← restOfLine? c
  some (t, (afterBreak? c).getD c)

end RecordFilter.Yaml12
