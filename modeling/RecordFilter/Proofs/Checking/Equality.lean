import RecordFilter.Filter.Checking
import RecordFilter.Proofs.Reading.Grammar
import RecordFilter.Proofs.Reading.NormalForm

/-!
# Equality with a field

A comparison with `=` holds if the JSON value at the end of its path is the JSON form of its
literal, numbers being compared as floating point numbers. The path is walked through nested
objects, and leads to null where it cannot go on. This is shown from the text of the comparison to
the outcome of the check, for all literals without patterns.
-/

namespace RecordFilter

namespace Binary64

variable {x y : Binary64}

/-- The number, or the zero without sign if it is a zero. -/
def unsignedZero (x : Binary64) : Binary64 := if x.magnitude = 0 then zero else x

theorem isNaN_unsignedZero (x : Binary64) : x.unsignedZero.isNaN = x.isNaN := by
  unfold unsignedZero
  split
  · next h => simp [isNaN, h, zero]
  · rfl

theorem isNaN_of_isFinite (h : x.isFinite) : x.isNaN = false := by
  have hm : x.magnitude < infinity := by simpa [isFinite] using h
  simpa [isNaN] using Nat.le_of_lt hm

theorem key_eq_key_iff : x.key = y.key ↔ x.unsignedZero = y.unsignedZero := by
  obtain ⟨s, m, hm⟩ := x
  obtain ⟨t, n, hn⟩ := y
  by_cases hm0 : m = 0 <;> by_cases hn0 : n = 0 <;> cases s <;> cases t <;>
    simp [key, unsignedZero, zero, hm0, hn0] <;> omega

theorem sameValue_iff (hy : y.isNaN = false) :
    x.sameValue y = true ↔ x.unsignedZero = y.unsignedZero := by
  rw [sameValue, Bool.and_eq_true, Bool.and_eq_true, beq_iff_eq, key_eq_key_iff]
  constructor
  · exact fun h => h.2
  · intro h
    have hx : x.isNaN = false := by
      rw [← isNaN_unsignedZero, h, isNaN_unsignedZero, hy]
    simp [hx, hy, h]

end Binary64

/-! ## JSON values by value -/

namespace Json

mutual

/-- The JSON value in which each number is its floating point value, a zero having no sign. -/
def byValue : Json → Json
  | number n => number (.float n.toBinary64.unsignedZero)
  | array items => array (itemsByValue items)
  | object fields => object (fieldsByValue fields)
  | v => v

def itemsByValue : List Json → List Json
  | [] => []
  | v :: items => v.byValue :: itemsByValue items

def fieldsByValue : List (String × Json) → List (String × Json)
  | [] => []
  | (name, v) :: fields => (name, v.byValue) :: fieldsByValue fields

end

/-- An object, or an array with one in it at any depth. -/
inductive HoldsObject : Json → Prop
  | object : HoldsObject (object fields)
  | array (hv : v ∈ items) (h : HoldsObject v) : HoldsObject (array items)

/-! ## Walks along paths -/

/-- The names between the dots of a path. -/
def namesOf (path : String) : List String := (path.toList.splitOn '.').map String.ofList

/-- Where names lead through nested objects: to null as soon as a name is missing or stands before
a value that is no object. -/
inductive Walk : Json → List String → Json → Prop
  | done : Walk v [] v
  | enter (hf : Entries.get? name fields = some u) (h : Walk u names found) :
      Walk (object fields) (name :: names) found
  | missing (hf : Entries.get? name fields = none) : Walk (object fields) (name :: names) null
  | noObject (hv : ∀ fields, v ≠ object fields) : Walk v (name :: names) null

variable {v found other : Json} {names : List String}

theorem Walk.unique (h : v.Walk names found) (h' : v.Walk names other) : found = other := by
  induction h with
  | done =>
    cases h'
    rfl
  | enter hf _ ih =>
    cases h' with
    | enter hf' h' =>
      obtain rfl := Option.some.inj (hf.symm.trans hf')
      exact ih h'
    | missing hf' => cases hf.symm.trans hf'
    | noObject hv => exact absurd rfl (hv _)
  | missing hf =>
    cases h' with
    | enter hf' => cases hf.symm.trans hf'
    | missing => rfl
    | noObject => rfl
  | noObject hv =>
    cases h' with
    | enter => exact absurd rfl (hv _)
    | missing => rfl
    | noObject => rfl

theorem segments_eq_splitOn (s : List Char) : segments s = s.splitOn '.' := by
  induction s with
  | nil => rfl
  | cons c s ih =>
    rw [segments, ih, List.splitOn, List.splitOn, List.splitOnP_cons_eq_if_modifyHead]
    obtain ⟨part, parts, hs⟩ :=
      List.exists_cons_of_ne_nil (List.splitOnP_ne_nil (fun x => x == '.') s)
    rw [hs]
    by_cases hc : c = '.' <;> simp [hc]

theorem segments_ne_nil (s : List Char) : segments s ≠ [] := by
  rw [segments_eq_splitOn]
  exact List.splitOnP_ne_nil _ s

theorem walk_descend? (v : Json) (parts : List (List Char)) :
    v.Walk (parts.map String.ofList) ((v.descend? parts).getD null) := by
  induction parts generalizing v with
  | nil => exact .done
  | cons part parts ih =>
    rw [List.map_cons, descend?]
    cases v with
    | object fields =>
      cases hf : Entries.get? (String.ofList part) fields with
      | none => simpa [field?, hf] using .missing hf
      | some u => simpa [field?, hf] using .enter hf (ih u)
    | _ => exact .noObject (by simp)

/-- A comparison looks at the end of the walk along its field. -/
theorem walk_field (r : Json) (path : String) :
    r.Walk (namesOf path) ((Subject.ofJson r).field path) := by
  rw [namesOf, ← segments_eq_splitOn]
  have hwalk := walk_descend? r (segments path.toList)
  cases r with
  | string s =>
    obtain ⟨part, parts, hs⟩ := List.exists_cons_of_ne_nil (segments_ne_nil path.toList)
    rw [hs]
    exact .noObject (by simp)
  | _ => exact hwalk

end Json

/-! ## Equality of literals -/

namespace Literal

/-- Literals without patterns, and without numbers that are none or infinite. -/
structure IsPlain (v : Literal) : Prop where
  no_pattern : ∀ p, ¬ Within (pattern p) v
  finite : ∀ x, Within (number x) v → x.isFinite

variable {v : Literal} {items : List Literal} {j : Json}

@[simp] theorem isPlain_string (s : String) : (string s).IsPlain :=
  ⟨fun _ h => (nomatch h), fun _ h => (nomatch h)⟩

@[simp] theorem isPlain_number {x : Binary64} : (number x).IsPlain ↔ x.isFinite := by
  constructor
  · exact fun h => h.finite x .self
  · intro hx
    refine ⟨fun _ h => (nomatch h), fun y hy => ?_⟩
    cases hy
    exact hx

theorem isPlain_list : (list items).IsPlain ↔ ∀ v ∈ items, v.IsPlain := by
  constructor
  · intro h v hv
    exact ⟨fun p hp => h.no_pattern p (.item hv hp), fun x hx => h.finite x (.item hv hx)⟩
  · intro h
    constructor
    · intro p hp
      cases hp with
      | item hv hp => exact (h _ hv).no_pattern p hp
    · intro x hx
      cases hx with
      | item hv hx => exact (h _ hv).finite x hx

theorem itemsEqual_iff
    (h : ∀ v ∈ items, ∀ j, v.equals j = true ↔ j.byValue = v.toJson.byValue)
    (values : List Json) : itemsEqual items values = true ↔
      Json.itemsByValue values = Json.itemsByValue (itemsToJson items) := by
  induction items generalizing values with
  | nil => cases values <;> simp [itemsEqual, itemsToJson, Json.itemsByValue]
  | cons v items ih =>
    cases values with
    | nil => simp [itemsEqual, itemsToJson, Json.itemsByValue]
    | cons j values =>
      have hitems := ih (fun u hu => h u (by simp [hu])) values
      rw [itemsEqual, itemsToJson, Json.itemsByValue, Json.itemsByValue, Bool.and_eq_true,
        h v (by simp), hitems, List.cons.injEq]

/-- Equality with a literal is equality with its JSON form. -/
theorem equals_iff (hv : v.IsPlain) (j : Json) :
    v.equals j = true ↔ j.byValue = v.toJson.byValue := by
  induction v using induct_items generalizing j with
  | number x =>
    have hx := hv.finite x .self
    cases j with
    | number n =>
      simp only [equals, toJson, hx, if_true, Json.byValue, Json.Number.toBinary64,
        Binary64.sameValue_iff (Binary64.isNaN_of_isFinite hx), Json.number.injEq,
        Json.Number.float.injEq]
    | _ => simp [equals, toJson, hx, Json.byValue]
  | list items ih =>
    cases j with
    | array values =>
      rw [equals, toJson, Json.byValue, Json.byValue, Json.array.injEq]
      exact itemsEqual_iff (fun v hm => ih v hm (isPlain_list.mp hv v hm)) values
    | _ => simp [equals, toJson, Json.byValue]
  | pattern p => exact absurd .self (hv.no_pattern p)
  | string s => cases j <;> simp [equals, toJson, Json.byValue, eq_comm (a := s)]
  | bool b => cases j <;> simp [equals, toJson, Json.byValue, eq_comm (a := b)]
  | null => cases j <;> simp [equals, toJson, Json.byValue]

theorem mem_of_itemsEqual {values : List Json} (h : itemsEqual items values = true)
    (hj : j ∈ values) : ∃ v ∈ items, v.equals j = true := by
  induction values generalizing items with
  | nil => cases hj
  | cons k values ih =>
    cases items with
    | nil => cases h
    | cons v items =>
      rw [itemsEqual, Bool.and_eq_true] at h
      rcases List.mem_cons.mp hj with rfl | hj
      · exact ⟨v, by simp, h.1⟩
      · obtain ⟨u, hu, heq⟩ := ih h.2 hj
        exact ⟨u, by simp [hu], heq⟩

/-- No literal equals an object or an array with an object in it. -/
theorem equals_of_holdsObject (h : j.HoldsObject) (v : Literal) : v.equals j = false := by
  induction h generalizing v with
  | object => cases v <;> rfl
  | array hj _ ih =>
    cases v with
    | list items =>
      by_contra heq
      obtain ⟨u, -, hu⟩ := mem_of_itemsEqual (by simpa [equals] using heq) hj
      rw [ih u] at hu
      cases hu
    | _ => rfl

/-- Whether a literal is a pattern, at its top. -/
def isPattern : Literal → Bool
  | pattern _ => true
  | _ => false

theorem check_eq_outcome_of_isPattern_eq_false (hv : v.isPattern = false) (actual : Json) :
    (Operator.eq.check actual v).outcome = v.equals actual := by
  cases v with
  | pattern p => cases hv
  | _ => rfl

theorem check_eq_outcome (hv : v.IsPlain) (actual : Json) :
    (Operator.eq.check actual v).outcome = v.equals actual := by
  cases v with
  | pattern p => exact absurd .self (hv.no_pattern p)
  | _ => rfl

/-- Whatever the literal, `!=` is the negation of `=`. -/
theorem check_ne_outcome (actual : Json) (v : Literal) :
    (Operator.ne.check actual v).outcome = !(Operator.eq.check actual v).outcome := by
  cases v with
  | pattern p =>
    simp only [Operator.check, Operator.pattern?]
    cases actual.scalarText? with
    | none => rfl
    | some s => cases hc : (p.check s).outcome <;> simp [hc]
  | _ => rfl

end Literal

/-! ## From the text to the outcome -/

namespace Filter

variable {field w : String} {v : Literal}

theorem parse_comparison_spaced {sp sp' : String} (op : Operator) (hf : IsField field.toList)
    (hs : ∀ c ∈ sp.toList, isSpace c) (hop : op.isWord → sp ≠ "")
    (hs' : ∀ c ∈ sp'.toList, isSpace c) (hw : SpellsValue 0 w.toList v) :
    parse (field ++ sp ++ op.text ++ sp' ++ w) = comparison field op v := by
  have hterm : SpellsTerm 0
      (field.toList ++ (sp.toList ++ (op.text.toList ++ (sp'.toList ++ w.toList))))
      (.comparison (String.ofList field.toList) op v) :=
    .comparison hf hs (by simpa using hop) hs' hw
  have hread : read (field ++ sp ++ op.text ++ sp' ++ w) = (comparison field op v, []) :=
    SpellsTerm.read_eq (by simpa using hterm)
  rw [parse, hread]

theorem parse_comparison (op : Operator) (hf : IsField field.toList) (hop : op.isWord = false)
    (hw : SpellsValue 0 w.toList v) :
    parse (field ++ op.text ++ w) = comparison field op v := by
  have hspaced : parse (field ++ "" ++ op.text ++ "" ++ w) = comparison field op v :=
    parse_comparison_spaced op hf (by simp) (by simp [hop]) (by simp) hw
  simpa using hspaced

/-- A comparison with `=` or `!=` is decided by the JSON form of its literal. -/
theorem check_equality (hf : IsField field.toList) (hw : SpellsValue 0 w.toList v)
    (hv : v.IsPlain) (r : Json) (synonyms : Synonyms) :
    ∃ found, (∀ u, r.Walk (Json.namesOf field) u ↔ u = found) ∧
      (((parse (field ++ "=" ++ w)).check (.ofJson r) synonyms).outcome = true ↔
        found.byValue = v.toJson.byValue) ∧
      (found.HoldsObject →
        ((parse (field ++ "=" ++ w)).check (.ofJson r) synonyms).outcome = false) ∧
      ((parse (field ++ "!=" ++ w)).check (.ofJson r) synonyms).outcome =
        !((parse (field ++ "=" ++ w)).check (.ofJson r) synonyms).outcome := by
  have hwalk := r.walk_field field
  have heq : parse (field ++ "=" ++ w) = comparison field .eq v := parse_comparison .eq hf rfl hw
  have hne : parse (field ++ "!=" ++ w) = comparison field .ne v := parse_comparison .ne hf rfl hw
  refine ⟨(Subject.ofJson r).field field, fun u => ⟨fun h => h.unique hwalk, ?_⟩, ?_, ?_, ?_⟩
  · rintro rfl
    exact hwalk
  · rw [heq, check, Checked.outcome_map, Literal.check_eq_outcome hv, Literal.equals_iff hv]
  · intro hobject
    rw [heq, check, Checked.outcome_map, Literal.check_eq_outcome hv,
      Literal.equals_of_holdsObject hobject]
  · rw [heq, hne, check, check, Checked.outcome_map, Checked.outcome_map,
      Literal.check_ne_outcome]

theorem check_equality_list :
    ((parse ("a.b" ++ "=" ++ "[-0 'x',]")).check
      (.ofJson (.object [("a", .object [("b", .array [.number (.integer 0), .string "x"])])]))
      .empty).outcome = true := by
  have hfield : IsField "a.b".toList :=
    ⟨by simp, List.all_eq_true.mp rfl, by simp, keyword?_eq_none_iff.mp rfl⟩
  obtain ⟨x, hx, hfinite, hzero⟩ : ∃ x, Binary64.ofPositional? ['-', '0'] = some x ∧
      x.isFinite ∧ (Binary64.ofInt 0).unsignedZero = x.unsignedZero :=
    ⟨.ofDecimal true 0 0, rfl, by decide +kernel, by decide +kernel⟩
  have hnumber : SpellsValue 1 ['-', '0'] (.number x) := .number (List.all_eq_true.mp rfl) hx
  have hstring : SpellsValue 1 ('\'' :: (['x'] ++ ['\''])) (.string (String.ofList ['x'])) :=
    .string (.inr rfl) (by simp)
  have hrest : SpellsItems 1 ([' '] ++ (_ ++ [','])) [_] :=
    .item (by simp; rfl) hstring (by simp; rfl) (.done (by simp; rfl))
  have hitems : SpellsItems 1 ([] ++ (['-', '0'] ++ _)) [_, _] :=
    .item (by simp) hnumber (by simp; rfl) hrest
  have hlist : SpellsValue 0 "[-0 'x',]".toList (.list [.number x, .string "x"]) :=
    .list (by decide) hitems
  have hplain : (Literal.list [.number x, .string "x"]).IsPlain := by
    simp [Literal.isPlain_list, hfinite]
  obtain ⟨found, hwalk, hequal, -⟩ := check_equality hfield hlist hplain
    (.object [("a", .object [("b", .array [.number (.integer 0), .string "x"])])]) .empty
  obtain rfl := (hwalk _).mp (.enter rfl (.enter rfl .done))
  rw [hequal]
  simp [Json.byValue, Json.itemsByValue, Literal.toJson, Literal.itemsToJson, hfinite, hzero,
    Json.Number.toBinary64]

end Filter

end RecordFilter
