import RecordFilter.Annotation
import RecordFilter.Proofs.Checking.Canonical

/-!
# What annotating keeps

Annotating a record touches one field. The others keep their places and values, and so does the
field of the outcome, which is new only if the record has none. A filter that never looks at that
field therefore cannot tell a record from its annotated copy, and annotating twice is annotating
once.
-/

namespace RecordFilter

/-! ## Entries around the one that is set -/

namespace Entries

variable {α : Type} {name : String} {entries before : List (String × α)}

theorem set_append_cons (h : name ∉ before.map Prod.fst) (value old : α)
    (after : List (String × α)) :
    set name value (before ++ (name, old) :: after) = before ++ (name, value) :: after := by
  induction before with
  | nil => rw [List.nil_append, set, if_pos rfl, List.nil_append]
  | cons e before ih =>
    obtain ⟨n, v⟩ := e
    rw [List.map_cons, List.mem_cons, not_or] at h
    rw [List.cons_append, set, if_neg (Ne.symm h.1), ih h.2, List.cons_append]

theorem set_of_not_mem (h : name ∉ entries.map Prod.fst) (value : α) :
    set name value entries = entries ++ [(name, value)] := by
  induction entries with
  | nil => rw [set, List.nil_append]
  | cons e entries ih =>
    obtain ⟨n, v⟩ := e
    rw [List.map_cons, List.mem_cons, not_or] at h
    rw [set, if_neg (Ne.symm h.1), ih h.2, List.cons_append]

/-- Of two values set under one name the last one counts. -/
theorem set_set (name : String) (value other : α) (entries : List (String × α)) :
    set name value (set name other entries) = set name value entries := by
  induction entries with
  | nil => simp [set]
  | cons e entries ih =>
    obtain ⟨n, v⟩ := e
    by_cases hn : n = name
    · simp [set, hn]
    · simp [set, hn, ih]

end Entries

/-! ## Paths that start elsewhere -/

/-- A path that does not start with a field leads to the same value, whatever is in the field. -/
theorem Subject.field_set {name path : String} (h : (Json.namesOf path).head? ≠ some name)
    (value : Json) (fields : List (String × Json)) :
    Subject.field (.record (.object (Entries.set name value fields))) path =
      Subject.field (.record (.object fields)) path := by
  obtain ⟨first, names, hsegments⟩ :=
    List.exists_cons_of_ne_nil (Json.segments_ne_nil path.toList)
  have hfirst : String.ofList first ≠ name := by
    intro heq
    apply h
    rw [Json.namesOf, ← Json.segments_eq_splitOn, hsegments, List.map_cons, List.head?_cons, heq]
  rw [Subject.field, Subject.field, Json.resolve?, Json.resolve?, hsegments, Json.descend?,
    Json.descend?, Json.field?, Json.field?, Entries.get?_set_of_ne hfirst]

namespace Filter

/-- A comparison of the filter follows a path that starts with the name. -/
def LooksAt (f : Filter) (name : String) : Prop :=
  ∃ levels path op v,
    Node (comparison path op v) levels f ∧ (Json.namesOf path).head? = some name

variable {f : Filter} {name : String}

/-- A filter that does not look at a field checks a record in the same way whatever is in it. -/
theorem check_set (h : ¬ f.LooksAt name) (value : Json) (fields : List (String × Json))
    (synonyms : Synonyms) :
    f.check (.record (.object (Entries.set name value fields))) synonyms =
      f.check (.record (.object fields)) synonyms := by
  apply check_congr_of_records
  intro levels path op v hnode
  have hpath : (Json.namesOf path).head? ≠ some name := by
    intro hhead
    exact h ⟨levels, path, op, v, hnode, hhead⟩
  rw [Subject.field_set hpath]

end Filter

/-! ## Annotated records -/

section Annotate

variable {f g : Filter} {fields before : List (String × Json)}

/-- What a filter keeps of its patterns does not matter. -/
theorem annotateFields_of_forget_eq (hf : f.IsFaithful) (hg : g.IsFaithful)
    (h : g.forget = f.forget) (synonyms : Synonyms) (fields : List (String × Json)) :
    annotateFields g synonyms fields = annotateFields f synonyms fields := by
  rw [annotateFields, annotateFields, g.check_outcome _ _ hg, f.check_outcome _ _ hf,
    ← g.accepts_forget, h, f.accepts_forget]

/-- Annotating once more changes nothing, if the filter does not look at the outcome. -/
theorem annotateFields_annotateFields (h : ¬ f.LooksAt resultField) (synonyms : Synonyms)
    (fields : List (String × Json)) :
    annotateFields f synonyms (annotateFields f synonyms fields) =
      annotateFields f synonyms fields := by
  rw [annotateFields, annotateFields, f.check_set h, Entries.set_set]

/-- An annotated record is the record with the outcome of its check, which sees an old outcome:
where that stood, or else at the end. If the filter does not look at the outcome, annotating the
annotated record changes nothing, whichever patterns of the filter were compiled in between. -/
theorem annotate_object (hf : f.IsFaithful) (synonyms : Synonyms)
    (fields : List (String × Json)) :
    let outcome : Json := .bool (f.check (.record (.object fields)) synonyms).outcome
    ∃ output, annotate f synonyms (.object fields) = .ok (.object output) ∧
      (∀ before old after, fields = before ++ (resultField, old) :: after →
        resultField ∉ before.map Prod.fst → output = before ++ (resultField, outcome) :: after) ∧
      (resultField ∉ fields.map Prod.fst → output = fields ++ [(resultField, outcome)]) ∧
      (¬ f.LooksAt resultField → ∀ g : Filter, g.IsFaithful → g.forget = f.forget →
        annotate g synonyms (.object output) = .ok (.object output)) := by
  intro outcome
  refine ⟨annotateFields f synonyms fields, rfl, ?inPlace, ?atEnd, ?again⟩
  case inPlace =>
    rintro before old after rfl hbefore
    rw [annotateFields, Entries.set_append_cons hbefore]
  case atEnd =>
    intro hnone
    rw [annotateFields, Entries.set_of_not_mem hnone]
  case again =>
    intro hlooks g hg hforget
    rw [annotate, annotateFields_of_forget_eq hf hg hforget,
      annotateFields_annotateFields hlooks]

/-- A record with an old outcome, and a filter that looks at another field of that name. -/
theorem annotate_object_old :
    let f := Filter.comparison "n.result" .ne (.pattern { source := "d", flags := "" })
    let fields : List (String × Json) := [("m", .null), ("result", .string "old"), ("n", .null)]
    let outcome : Json := .bool (f.check (.record (.object fields)) .empty).outcome
    f.IsFaithful ∧ ¬ f.LooksAt resultField ∧
      annotate f .empty (.object fields) =
        .ok (.object [("m", .null), ("result", outcome), ("n", .null)]) ∧
      annotate f .empty (.object [("m", .null), ("result", outcome), ("n", .null)]) =
        .ok (.object [("m", .null), ("result", outcome), ("n", .null)]) := by
  intro f fields outcome
  have hf : (Filter.comparison "n.result" .ne
      (.pattern { source := "d", flags := "" })).IsFaithful := by
    intro p path hp
    cases hp with
    | comparison hp =>
      cases hp
      intro o ho
      cases ho
  have hlooks : ¬ (Filter.comparison "n.result" .ne
      (.pattern { source := "d", flags := "" })).LooksAt resultField := by
    rintro ⟨levels, path, op, v, hnode, hhead⟩
    cases hnode
    exact absurd hhead (by decide +kernel)
  obtain ⟨output, hannotate, hplace, -, hagain⟩ := annotate_object hf .empty fields
  obtain rfl := hplace [("m", .null)] (.string "old") [("n", .null)] rfl (by decide)
  exact ⟨hf, hlooks, hannotate, hagain hlooks f hf rfl⟩

end Annotate

end RecordFilter
