import RecordFilter.Proofs.Checking.Equality
import RecordFilter.Proofs.Checking.Outcomes

/-!
# Comparisons with lists

A comparison with a list says something of each of its elements: that the field is equal to it, or
that it is among the items of the field. So it can be written as comparisons with one element each,
joined by `or` or by `and`, and neither the order of the elements nor how often they are there plays
a part. Patterns are not matched in lists, and there they equal nothing.
-/

namespace RecordFilter

/-- The operators that look at the elements of a list. -/
def Operator.listOperators : List Operator := [.isIn, .notIn, .containsAny, .containsAll]

section Lists

variable {α : Type} {l m : List α}

/-- Lists with the same elements answer alike, whatever the order of the elements and how often they
are there. -/
theorem any_congr_of_mem_iff (h : ∀ a, a ∈ l ↔ a ∈ m) (p : α → Bool) : l.any p = m.any p := by
  rw [Bool.eq_iff_iff]
  simp only [List.any_eq_true, h]

theorem all_congr_of_mem_iff (h : ∀ a, a ∈ l ↔ a ∈ m) (p : α → Bool) : l.all p = m.all p := by
  rw [Bool.eq_iff_iff]
  simp only [List.all_eq_true, h]

end Lists

namespace Literal

variable {items others : List Literal} {op : Operator}

/-- The elements that are no patterns. -/
def withoutPatterns (items : List Literal) : List Literal := items.filter fun v => !v.isPattern

theorem equals_pattern (p : PatternLiteral) (a : Json) : (pattern p).equals a = false := by
  cases a <;> rfl

theorem isPattern_of_mem_withoutPatterns {v : Literal} (h : v ∈ withoutPatterns items) :
    v.isPattern = false := by
  simpa using (List.mem_filter.mp h).2

/-- Patterns do not make a list equal to anything. -/
theorem any_equals_withoutPatterns (items : List Literal) (a : Json) :
    ((withoutPatterns items).any fun v => v.equals a) = items.any fun v => v.equals a := by
  rw [withoutPatterns, List.any_filter]
  congr 1
  funext v
  cases v with
  | pattern p => rw [equals_pattern, Bool.and_false]
  | _ => rfl

/-- What a list operator asks of each element. -/
theorem compare_list_congr (h : ∀ v, v ∈ others ↔ v ∈ items) (hop : op ∈ Operator.listOperators)
    (a : Json) : op.compare a (list others) = op.compare a (list items) := by
  simp only [Operator.listOperators, List.mem_cons, List.not_mem_nil, or_false] at hop
  rcases hop with rfl | rfl | rfl | rfl
  · exact any_congr_of_mem_iff h _
  · exact congrArg (!·) (any_congr_of_mem_iff h _)
  · cases a with
    | array values => exact any_congr_of_mem_iff h _
    | _ => rfl
  · cases a with
    | array values => exact all_congr_of_mem_iff h _
    | _ => rfl

theorem compare_containsAny_list (items : List Literal) (a : Json) :
    Operator.containsAny.compare a (list items) =
      items.any fun v => Operator.containsAny.compare a (list [v]) := by
  cases a with
  | array values => simp [Operator.compare]
  | _ => simp [Operator.compare]

theorem compare_containsAll_list (hne : items ≠ []) (a : Json) :
    Operator.containsAll.compare a (list items) =
      items.all fun v => Operator.containsAll.compare a (list [v]) := by
  cases a with
  | array values => simp [Operator.compare]
  | _ => simpa [Operator.compare] using List.exists_mem_of_ne_nil items hne

theorem compare_contains_singleton (v : Literal) (a : Json) :
    Operator.containsAny.compare a (list [v]) = Operator.containsAll.compare a (list [v]) := by
  cases a with
  | array values => simp [Operator.compare]
  | _ => rfl

theorem compare_containsAll_nil {a : Json} :
    Operator.containsAll.compare a (list []) = true ↔ ∃ values, a = .array values := by
  cases a <;> simp [Operator.compare]

/-- A pattern among the elements adds nothing to what `in` and `contains_any` find. -/
theorem compare_pattern_cons (hop : op = .isIn ∨ op = .containsAny) (p : PatternLiteral)
    (items : List Literal) (a : Json) :
    op.compare a (list (pattern p :: items)) = op.compare a (list items) := by
  rcases hop with rfl | rfl
  · rw [Operator.compare, includes, List.any_cons, equals_pattern, Bool.false_or]
    rfl
  · cases a with
    | array values => simp [Operator.compare, equals_pattern]
    | _ => rfl

theorem check_list_outcome (hop : op ∈ Operator.listOperators) (a : Json) (items : List Literal) :
    (op.check a (list items)).outcome = op.compare a (list items) := by
  simp only [Operator.listOperators, List.mem_cons, List.not_mem_nil, or_false] at hop
  rcases hop with rfl | rfl | rfl | rfl <;> rfl

end Literal

namespace Filter

open Literal (withoutPatterns)

/-- The outcome of comparing a field with a list. -/
def listOutcome (subject : Subject) (synonyms : Synonyms) (field : String) (op : Operator)
    (items : List Literal) : Bool :=
  ((comparison field op (.list items)).check subject synonyms).outcome

/-- The outcome of comparing a field with each of some literals, the comparisons being joined. -/
def joinedOutcome (subject : Subject) (synonyms : Synonyms) (field : String)
    (connective : Connective) (op : Operator) (values : List Literal) : Bool :=
  ((joined connective (values.map (comparison field op))).check subject synonyms).outcome

variable (subject : Subject) (synonyms : Synonyms) (field : String) {op : Operator}
variable (items : List Literal)

theorem listOutcome_eq (hop : op ∈ Operator.listOperators) :
    listOutcome subject synonyms field op items =
      op.compare (subject.field field) (.list items) :=
  Literal.check_list_outcome hop (subject.field field) items

theorem joinedOutcome_eq (connective : Connective) (op : Operator) (values : List Literal) :
    joinedOutcome subject synonyms field connective op values =
      connective.combine (values.map fun v => (op.check (subject.field field) v).outcome) := by
  rw [joinedOutcome, check_joined_outcome, List.map_map]
  rfl

theorem listOutcome_isIn :
    listOutcome subject synonyms field .isIn items =
      joinedOutcome subject synonyms field .or .eq (withoutPatterns items) := by
  have hequals : ∀ v ∈ withoutPatterns items,
      (Operator.eq.check (subject.field field) v).outcome = v.equals (subject.field field) := by
    intro v hv
    apply Literal.check_eq_outcome_of_isPattern_eq_false
    exact Literal.isPattern_of_mem_withoutPatterns hv
  rw [listOutcome_eq _ _ _ _ (by decide), joinedOutcome_eq, List.map_congr_left hequals]
  have hany := Literal.any_equals_withoutPatterns items (subject.field field)
  rw [Connective.combine, List.any_map]
  exact hany.symm

theorem listOutcome_notIn :
    listOutcome subject synonyms field .notIn items =
      joinedOutcome subject synonyms field .and .ne (withoutPatterns items) := by
  have hnot : listOutcome subject synonyms field .notIn items =
      !listOutcome subject synonyms field .isIn items := rfl
  rw [hnot, listOutcome_isIn, joinedOutcome_eq, joinedOutcome_eq]
  simp only [Connective.combine, Literal.check_ne_outcome, List.any_map, List.all_map,
    List.not_any_eq_all_not, Function.comp_def, id]

theorem listOutcome_containsAny :
    listOutcome subject synonyms field .containsAny items =
      joinedOutcome subject synonyms field .or .containsAny (items.map fun v => .list [v]) := by
  rw [listOutcome_eq _ _ _ _ (by decide), joinedOutcome_eq, Literal.compare_containsAny_list]
  simp only [Connective.combine, List.any_map, Function.comp_def, id]
  rfl

theorem listOutcome_containsAll (hne : items ≠ []) :
    listOutcome subject synonyms field .containsAll items =
      joinedOutcome subject synonyms field .and .containsAll (items.map fun v => .list [v]) := by
  rw [listOutcome_eq _ _ _ _ (by decide), joinedOutcome_eq, Literal.compare_containsAll_list hne]
  simp only [Connective.combine, List.all_map, Function.comp_def, id]
  rfl

/-- A comparison with a list is one with each of its elements. -/
theorem check_lists :
    (listOutcome subject synonyms field .isIn items =
      joinedOutcome subject synonyms field .or .eq (withoutPatterns items)) ∧
    (listOutcome subject synonyms field .notIn items =
      joinedOutcome subject synonyms field .and .ne (withoutPatterns items)) ∧
    (listOutcome subject synonyms field .containsAny items =
      joinedOutcome subject synonyms field .or .containsAny (items.map fun v => .list [v])) ∧
    (items ≠ [] → listOutcome subject synonyms field .containsAll items =
      joinedOutcome subject synonyms field .and .containsAll (items.map fun v => .list [v])) ∧
    (∀ v, listOutcome subject synonyms field .containsAny [v] =
      listOutcome subject synonyms field .containsAll [v]) ∧
    (listOutcome subject synonyms field .containsAll [] = true ↔
      ∃ values, subject.field field = .array values) ∧
    (∀ others, (∀ v, v ∈ others ↔ v ∈ items) → ∀ op ∈ Operator.listOperators,
      listOutcome subject synonyms field op others = listOutcome subject synonyms field op items) ∧
    ∀ p op, op = .isIn ∨ op = .containsAny →
      listOutcome subject synonyms field op (.pattern p :: items) =
        listOutcome subject synonyms field op items := by
  refine ⟨listOutcome_isIn .., listOutcome_notIn .., listOutcome_containsAny ..,
    listOutcome_containsAll subject synonyms field items, ?_, ?_, ?_, ?_⟩
  · intro v
    exact Literal.compare_contains_singleton v (subject.field field)
  · exact Literal.compare_containsAll_nil
  · intro others h op hop
    rw [listOutcome_eq _ _ _ _ hop, listOutcome_eq _ _ _ _ hop]
    exact Literal.compare_list_congr h hop _
  · intro p op hop
    have hlist : op ∈ Operator.listOperators := by
      rcases hop with rfl | rfl <;> decide
    rw [listOutcome_eq _ _ _ _ hlist, listOutcome_eq _ _ _ _ hlist]
    exact Literal.compare_pattern_cons hop p items _

/-- Elements in another order, one of them twice. -/
theorem check_lists_repeated :
    [Literal.string "b", .string "a"] ≠ [] ∧
      (∀ v, v ∈ [Literal.string "a", .string "b", .string "a"] ↔
        v ∈ [Literal.string "b", .string "a"]) ∧
      listOutcome (.record (.object [("tags", .array [.string "b", .null, .string "a"])])) .empty
        "tags" .containsAll [.string "a", .string "b", .string "a"] = true := by
  have hmem : ∀ v, v ∈ [Literal.string "a", .string "b", .string "a"] ↔
      v ∈ [Literal.string "b", .string "a"] := by
    intro v
    simp only [List.mem_cons, List.not_mem_nil, or_false]
    tauto
  obtain ⟨-, -, -, hall, -, -, hcongr, -⟩ :=
    check_lists (.record (.object [("tags", .array [.string "b", .null, .string "a"])])) .empty
      "tags" [.string "b", .string "a"]
  refine ⟨by simp, hmem, ?_⟩
  rw [hcongr _ hmem .containsAll (by decide), hall (by simp)]
  decide

end Filter

end RecordFilter
