import RecordFilter.Filter.Evaluation

/-!
# Checking with kept patterns

`Filter.check` evaluates a filter as `Filter.accepts` does, and gives besides the outcome the filter
with the pattern literals it attempted now compiled, and the faults that came to light, in the order
of evaluation. The terms after the one that decides a joined filter are not evaluated, so their
literals stay as they are.
-/

namespace RecordFilter

/-- The outcome of a check, what was checked as it is afterwards, and the faults noticed. -/
structure Checked (α : Type) where
  outcome : Bool
  after : α
  faults : List PatternFault

namespace Checked

def map (f : α → β) (c : Checked α) : Checked β := ⟨c.outcome, f c.after, c.faults⟩

@[simp] theorem outcome_map (f : α → β) (c : Checked α) : (c.map f).outcome = c.outcome := rfl

@[simp] theorem after_map (f : α → β) (c : Checked α) : (c.map f).after = f c.after := rfl

@[simp] theorem faults_map (f : α → β) (c : Checked α) : (c.map f).faults = c.faults := rfl

end Checked

namespace PatternLiteral

/-- Matches a text, compiling the literal if that was never attempted. -/
def check (l : PatternLiteral) (text : String) : Checked PatternLiteral :=
  ⟨found l.outcomeOrCompile text, l.attempt.1, l.attempt.2.toList⟩

end PatternLiteral

namespace Literal

def checkIn (value : Literal) (subject : Subject) (synonyms : Synonyms) : Checked Literal :=
  match subject, value with
  | .text s, .pattern p => (p.check s).map .pattern
  | subject, value => ⟨value.foundIn subject synonyms, value, []⟩

end Literal

/-- Puts a value against the literal of a comparison. Only a pattern that meets a value with a text
is attempted. -/
def Operator.check (op : Operator) (actual : Json) (expected : Literal) : Checked Literal :=
  match op.pattern? expected with
  | none => ⟨op.compare actual expected, expected, []⟩
  | some (p, negated) =>
    match actual.scalarText? with
    | none => ⟨negated, expected, []⟩
    | some text =>
      let c := p.check text
      ⟨c.outcome != negated, .pattern c.after, c.faults⟩

namespace Filter

mutual

/-- Evaluates a filter and keeps what was compiled. -/
def check (f : Filter) (subject : Subject) (synonyms : Synonyms) : Checked Filter :=
  match f with
  | joined .and terms => (checkAll terms subject synonyms).map (joined .and)
  | joined .or terms => (checkAny terms subject synonyms).map (joined .or)
  | text value => (value.checkIn subject synonyms).map text
  | comparison field op value =>
    (op.check (subject.field field) value).map (comparison field op)

def checkAll (terms : List Filter) (subject : Subject) (synonyms : Synonyms) :
    Checked (List Filter) :=
  match terms with
  | [] => ⟨true, [], []⟩
  | t :: terms =>
    let c := t.check subject synonyms
    if c.outcome then
      let rest := checkAll terms subject synonyms
      ⟨rest.outcome, c.after :: rest.after, c.faults ++ rest.faults⟩
    else ⟨false, c.after :: terms, c.faults⟩

def checkAny (terms : List Filter) (subject : Subject) (synonyms : Synonyms) :
    Checked (List Filter) :=
  match terms with
  | [] => ⟨false, [], []⟩
  | t :: terms =>
    let c := t.check subject synonyms
    if c.outcome then ⟨true, c.after :: terms, c.faults⟩
    else
      let rest := checkAny terms subject synonyms
      ⟨rest.outcome, c.after :: rest.after, c.faults ++ rest.faults⟩

end

variable (terms : List Filter) (subject : Subject) (synonyms : Synonyms)

theorem checkAll_outcome :
    (checkAll terms subject synonyms).outcome =
      terms.all fun t => (t.check subject synonyms).outcome := by
  induction terms with
  | nil => rfl
  | cons t terms ih =>
    rw [checkAll, List.all_cons, ← ih]
    cases (t.check subject synonyms).outcome <;> simp

theorem checkAny_outcome :
    (checkAny terms subject synonyms).outcome =
      terms.any fun t => (t.check subject synonyms).outcome := by
  induction terms with
  | nil => rfl
  | cons t terms ih =>
    rw [checkAny, List.any_cons, ← ih]
    cases (t.check subject synonyms).outcome <;> simp

end Filter

end RecordFilter
