import RecordFilter.Binary64.Decimal
import RecordFilter.Hexadecimal
import RecordFilter.Integer64
import RecordFilter.Toml.Value

/-!
# TOML scalars

Strings in their four forms, and the scalars without quotes, each of which is classified as a whole
by `bare?`: booleans, integers of 64 bits, floating point numbers, dates and times.
-/

namespace RecordFilter.Toml

abbrev Reader (α : Type) := List Char → Option (α × List Char)

def isBlank (c : Char) : Bool := c == ' ' || c == '\t'

/-- Characters that may stand in strings and comments. -/
def isText (c : Char) : Bool := c == '\t' || (0x20 ≤ c.toNat && c.toNat != 0x7F)

def afterBreak? : List Char → Option (List Char)
  | '\n' :: s => some s
  | '\r' :: '\n' :: s => some s
  | _ => none

/-! ## Strings -/

def shortEscapes : List (Char × Char) :=
  [('b', '\x08'), ('t', '\t'), ('n', '\n'), ('f', '\x0c'), ('r', '\r'), ('e', '\x1b'), ('"', '"'),
    ('\\', '\\')]

def numberedEscape? : Char → Option Nat
  | 'x' => some 2
  | 'u' => some 4
  | 'U' => some 8
  | _ => none

/-- The character of an escape, after its backslash, and how many characters it takes. -/
def escape? (s : List Char) : Option (Char × Nat) :=
  match s with
  | [] => none
  | c :: rest =>
    match shortEscapes.lookup c with
    | some d => some (d, 1)
    | none => do
      let count ← numberedEscape? c
      let d ← hexCharacter? count rest
      some (d, count + 1)

/-- The rest of a string on one line. Only in double quotes are there escapes. -/
def lineString? (quote : Char) (acc : List Char) (s : List Char) : Option (String × List Char) :=
  match s with
  | [] => none
  | c :: s =>
    if c = quote then some (String.ofList acc.reverse, s)
    else if c = '\\' ∧ quote = '"' then
      match escape? s with
      | some (d, n) => lineString? quote (d :: acc) (s.drop n)
      | none => none
    else if isText c then lineString? quote (c :: acc) s
    else none
termination_by s.length
decreasing_by all_goals simp only [List.length_cons, List.length_drop]; omega

def skipLines : List Char → List Char
  | [] => []
  | '\r' :: '\n' :: s => skipLines s
  | c :: s => if isBlank c || c == '\n' then skipLines s else c :: s

theorem skipLines_length_le (s : List Char) : (skipLines s).length ≤ s.length := by
  fun_induction skipLines s <;> grind

/-- The rest of a string over several lines, whose line ends are kept as they are. Up to two quotes
may stand right before the three that end it, and a backslash at the end of a line takes the blanks
and line ends after it. -/
def longString? (quote : Char) (acc : List Char) (s : List Char) : Option (String × List Char) :=
  match s with
  | [] => none
  | '\r' :: '\n' :: s => longString? quote ('\n' :: '\r' :: acc) s
  | c :: s =>
    if c = quote then
      let more := (s.takeWhile (· = quote)).length
      if more < 2 then longString? quote (c :: acc) s
      else if more < 5 then
        some (String.ofList (List.replicate (more - 2) quote ++ acc).reverse, s.drop more)
      else none
    else if c = '\\' ∧ quote = '"' then
      if (afterBreak? (s.dropWhile isBlank)).isSome then
        longString? quote acc (skipLines s)
      else
        match escape? s with
        | some (d, n) => longString? quote (d :: acc) (s.drop n)
        | none => none
    else if isText c || c == '\n' then longString? quote (c :: acc) s
    else none
termination_by s.length
decreasing_by
  all_goals simp only [List.length_cons, List.length_drop]
  · omega
  · omega
  · have := skipLines_length_le s; omega
  · omega
  · omega

/-- A string, from its opening quote on. A line end right after three quotes does not count. -/
def string? : Reader String
  | '"' :: '"' :: '"' :: s => longString? '"' [] ((afterBreak? s).getD s)
  | '\'' :: '\'' :: '\'' :: s => longString? '\'' [] ((afterBreak? s).getD s)
  | '"' :: s => lineString? '"' [] s
  | '\'' :: s => lineString? '\'' [] s
  | _ => none

/-! ## Numbers -/

/-- Digits without the underscores between them. -/
def grouped? (isDigit : Char → Bool) : List Char → Option (List Char)
  | [] => none
  | [c] => if isDigit c then some [c] else none
  | c :: '_' :: s => if isDigit c then (grouped? isDigit s).map (c :: ·) else none
  | c :: s => if isDigit c then (grouped? isDigit s).map (c :: ·) else none

/-- Decimal digits that do not start with a needless zero. -/
def wholeDigits? (s : List Char) : Option (List Char) :=
  (grouped? Char.isDigit s).filter fun ds => ds.length = 1 || ds.head? != some '0'

def isBinaryDigit (c : Char) : Bool := c == '0' || c == '1'

def isOctalDigit (c : Char) : Bool := '0' ≤ c && c ≤ '7'

def baseValue (base : Nat) (ds : List Char) : Nat :=
  ds.foldl (fun n d => base * n + (hexDigit? d).getD 0) 0

def basedInteger? (base : Nat) (isDigit : Char → Bool) (s : List Char) : Option Int :=
  (grouped? isDigit s).bind fun ds => Integer64.signed? false (baseValue base ds)

def integer? : List Char → Option Int
  | '0' :: 'x' :: s => basedInteger? 16 (fun c => (hexDigit? c).isSome) s
  | '0' :: 'o' :: s => basedInteger? 8 isOctalDigit s
  | '0' :: 'b' :: s => basedInteger? 2 isBinaryDigit s
  | s =>
    let (negative, ds) := Binary64.sign s
    (wholeDigits? ds).bind fun ds => Integer64.signed? negative (digitsValue 0 ds)

def optionalPart? (read : List Char → Option (List Char)) (s : List Char) : Option (List Char) :=
  if s.isEmpty then some [] else (read (s.drop 1)).map (s.take 1 ++ ·)

def power? (s : List Char) : Option (List Char) :=
  match s with
  | '+' :: s => grouped? Char.isDigit s
  | '-' :: s => (grouped? Char.isDigit s).map ('-' :: ·)
  | s => grouped? Char.isDigit s

/-- A floating point number: one of two names, or digits with a fraction, a power of ten or both. It
must not be too large. -/
def float? (s : List Char) : Option Binary64 :=
  let (negative, size) := Binary64.sign s
  if size = "inf".toList then some ⟨negative, Binary64.infinity, Binary64.infinity_lt⟩
  else if size = "nan".toList then some Binary64.nan
  else
    let (mantissa, power) := size.span fun c => !Binary64.isExponentMark c
    let (whole, part) := mantissa.span (· != '.')
    if part.isEmpty && power.isEmpty then none
    else
      let part? := optionalPart? (grouped? Char.isDigit) part
      match wholeDigits? whole, part?, optionalPart? power? power with
      | some whole, some part, some power =>
        ((Binary64.ofScientific? (whole ++ part ++ power)).filter (·.isFinite)).map fun x =>
          { x with negative }
      | _, _, _ => none

/-! ## Dates and times -/

def fixedDigits? (count : Nat) : Reader Nat := fun s =>
  let ds := s.take count
  if ds.length = count ∧ ds.all Char.isDigit then some (digitsValue 0 ds, s.drop count) else none

def isLeapYear (y : Nat) : Bool := y % 4 == 0 && (y % 100 != 0 || y % 400 == 0)

def daysInMonth (y m : Nat) : Nat :=
  if m = 2 then if isLeapYear y then 29 else 28
  else if m = 4 ∨ m = 6 ∨ m = 9 ∨ m = 11 then 30
  else 31

/-- A date; it is its own text. -/
def date? (s : List Char) : Option (List Char × List Char) := do
  let (y, r) ← fixedDigits? 4 s
  if r.head? ≠ some '-' then none
  let (m, r) ← fixedDigits? 2 (r.drop 1)
  if r.head? ≠ some '-' then none
  let (d, r) ← fixedDigits? 2 (r.drop 1)
  if 1 ≤ m ∧ m ≤ 12 ∧ 1 ≤ d ∧ d ≤ daysInMonth y m then some (s.take 10, r) else none

/-- The fraction of a second to nine places, without zeros at its end. -/
def secondFraction (ds : List Char) : List Char :=
  let shown := ((ds.take 9).reverse.dropWhile (· == '0')).reverse
  '.' :: if shown.isEmpty then ['0'] else shown

def clock? (s : List Char) : Option (List Char × List Char) := do
  let (h, r) ← fixedDigits? 2 s
  if r.head? ≠ some ':' then none
  let (m, r) ← fixedDigits? 2 (r.drop 1)
  if h ≤ 23 ∧ m ≤ 59 then some (s.take 5, r) else none

/-- A time, whose seconds may be left out, and its text. -/
def time? (s : List Char) : Option (List Char × List Char) := do
  let (text, r) ← clock? s
  if r.head? ≠ some ':' then some (text, r)
  else
    let (sec, r') ← fixedDigits? 2 (r.drop 1)
    if 60 < sec then none
    let text := text ++ r.take 3
    if r'.head? ≠ some '.' then some (text, r')
    else
      let (ds, r) := (r'.drop 1).span Char.isDigit
      if ds.isEmpty then none else some (text ++ secondFraction ds, r)

/-- The offset of a time from universal time, if the whole text is one; an offset of nothing has a
plus sign. -/
def offset? : List Char → Option (List Char)
  | [] => some []
  | ['Z'] => some ['Z']
  | ['z'] => some ['Z']
  | c :: s =>
    if c = '+' ∨ c = '-' then
      match clock? s with
      | some (text, []) => some ((if text = "00:00".toList then '+' else c) :: text)
      | _ => none
    else none

def isTimeMark (c : Char) : Bool := c == 'T' || c == 't' || c == ' '

def datetime? (s : List Char) : Option (List Char) :=
  match date? s with
  | some (date, []) => some date
  | some (date, c :: s) =>
    if isTimeMark c then do
      let (time, r) ← time? s
      let offset ← offset? r
      some (date ++ ['T'] ++ time ++ offset)
    else none
  | none =>
    match time? s with
    | some (time, []) => some time
    | _ => none

/-! ## Scalars without quotes -/

def bare? (s : List Char) : Option Value :=
  if s = "true".toList then some (.bool true)
  else if s = "false".toList then some (.bool false)
  else
    match integer? s with
    | some n => some (.integer n)
    | none =>
      match float? s with
      | some x => some (.float x)
      | none => (datetime? s).map fun t => .datetime (String.ofList t)

def isBareChar (c : Char) : Bool := c.isAlphanum || "_+-.:".toList.contains c

/-- A scalar without quotes. A time may follow a date after one space. -/
def bareScalar? : Reader Value := fun s =>
  let (word, r) := s.span isBareChar
  match r with
  | ' ' :: d :: _ =>
    let (time, r') := (r.drop 1).span isBareChar
    if d.isDigit && (date? word).any (·.2.isEmpty) then
      (bare? (word ++ [' '] ++ time)).map fun v => (v, r')
    else (bare? word).map fun v => (v, r)
  | r => (bare? word).map fun v => (v, r)

end RecordFilter.Toml
