import RecordFilter.Proofs.Checking.Equality
import RecordFilter.Proofs.Checking.Expansion
import RecordFilter.Proofs.Json.Nesting

/-!
# What a filter sees of a subject

A filter asks a record for fields and takes a missing one for null, so neither the order of fields
nor fields that are null make a difference. `Json.canonical` is the form in which such records are
equal: the null fields of each object are left out and the others sorted by their names. A check of
a record and of its canonical form are the same in all respects. A text has no fields at all, so a
filter without text terms takes it for the empty record.
-/

namespace RecordFilter

namespace Json

/-- Fields in the order of their names. -/
def byName (fields : List (String × Json)) : List (String × Json) :=
  fields.mergeSort fun a b => a.1 ≤ b.1

mutual

/-- The value with the fields of all objects in it sorted, those that are null left out. -/
def canonical : Json → Json
  | array items => array (canonicalItems items)
  | object fields => object (byName (canonicalFields fields))
  | v => v

def canonicalItems : List Json → List Json
  | [] => []
  | v :: items => v.canonical :: canonicalItems items

def canonicalFields : List (String × Json) → List (String × Json)
  | [] => []
  | (name, v) :: fields =>
    if v.isNull then canonicalFields fields else (name, v.canonical) :: canonicalFields fields

end

/-- Values that differ at most in the order of fields and in fields that are null. -/
def Alike (v u : Json) : Prop := v.canonical = u.canonical

variable {v u : Json} {items : List Json} {fields others : List (String × Json)}

theorem canonicalItems_eq_map (items : List Json) : canonicalItems items = items.map canonical := by
  induction items with
  | nil => rfl
  | cons v items ih => rw [canonicalItems, ih, List.map_cons]

theorem isNull_eq_true : v.isNull = true ↔ v = null := by
  cases v <;> simp [isNull]

/-! ## Order plays no part -/

theorem byName_perm (fields : List (String × Json)) : (byName fields).Perm fields :=
  List.mergeSort_perm _ _

theorem byName_pairwise (fields : List (String × Json)) :
    (byName fields).Pairwise fun a b => a.1 ≤ b.1 := by
  have htrans : ∀ a b c : String × Json, decide (a.1 ≤ b.1) = true →
      decide (b.1 ≤ c.1) = true → decide (a.1 ≤ c.1) = true := by
    intro a b c hab hbc
    simp only [decide_eq_true_eq] at hab hbc ⊢
    exact le_trans hab hbc
  have htotal : ∀ a b : String × Json, (decide (a.1 ≤ b.1) || decide (b.1 ≤ a.1)) = true := by
    intro a b
    simp only [Bool.or_eq_true, decide_eq_true_eq]
    exact le_total a.1 b.1
  have hsorted := List.pairwise_mergeSort htrans htotal fields
  simpa only [byName, decide_eq_true_eq] using hsorted

/-- Sorted fields are equal if and only if they are the same fields in some order: no two have one
name. -/
theorem byName_eq_byName_iff (hd : (fields.map Prod.fst).Nodup) :
    byName fields = byName others ↔ fields.Perm others := by
  constructor
  · intro h
    exact (byName_perm fields).symm.trans (h ▸ byName_perm others)
  · intro hp
    have hperm : (byName fields).Perm (byName others) :=
      (byName_perm fields).trans (hp.trans (byName_perm others).symm)
    refine hperm.eq_of_pairwise ?_ (byName_pairwise fields) (byName_pairwise others)
    rintro ⟨n, v⟩ ⟨m, u⟩ hv hu hle hge
    obtain rfl : n = m := le_antisymm hle hge
    have hv' : (n, v) ∈ fields := (byName_perm fields).mem_iff.mp hv
    have hu' : (n, u) ∈ fields := hp.mem_iff.mpr ((byName_perm others).mem_iff.mp hu)
    have hget := (Entries.get?_eq_some_iff hd).mpr hv'
    rw [(Entries.get?_eq_some_iff hd).mpr hu'] at hget
    cases hget
    rfl

theorem canonicalFields_names (fields : List (String × Json)) :
    ((canonicalFields fields).map Prod.fst).Sublist (fields.map Prod.fst) := by
  induction fields with
  | nil => exact .refl _
  | cons e fields ih =>
    obtain ⟨name, v⟩ := e
    rw [canonicalFields]
    split
    · exact ih.cons name
    · exact ih.cons_cons name

/-- Two objects are alike if and only if their fields other than null, in canonical form, are the
same in some order. -/
theorem alike_object_iff (hd : (fields.map Prod.fst).Nodup) :
    (object fields).Alike (object others) ↔
      (canonicalFields fields).Perm (canonicalFields others) := by
  rw [Alike, canonical, canonical, Json.object.injEq,
    byName_eq_byName_iff ((canonicalFields_names fields).nodup hd)]

/-! ## Fields of the canonical form -/

/-- What is found in a canonical form of a value found in the original. -/
def kept? (v : Json) : Option Json := if v.isNull then none else some v.canonical

theorem get?_canonicalFields (hd : (fields.map Prod.fst).Nodup) (name : String) :
    Entries.get? name (canonicalFields fields) = (Entries.get? name fields).bind kept? := by
  induction fields with
  | nil => rfl
  | cons e fields ih =>
    obtain ⟨n, v⟩ := e
    rw [List.map_cons, List.nodup_cons] at hd
    by_cases hn : n = name
    · subst hn
      have habsent : Entries.get? n (canonicalFields fields) = none :=
        Entries.get?_eq_none_iff.mpr fun hmem => hd.1 ((canonicalFields_names fields).subset hmem)
      by_cases hv : v.isNull
      · simp [canonicalFields, Entries.get?, kept?, hv, habsent]
      · simp [canonicalFields, Entries.get?, kept?, hv]
    · by_cases hv : v.isNull
      · simp [canonicalFields, Entries.get?, hv, hn, ih hd.2]
      · simp [canonicalFields, Entries.get?, hv, hn, ih hd.2]

theorem field?_canonical (h : v.HasDistinctNames) (name : String) :
    v.canonical.field? name = (v.field? name).bind kept? := by
  cases v with
  | object fields =>
    have hd := (hasDistinctNames_object.mp h).1
    have hperm := (byName_perm (canonicalFields fields)).symm
    rw [canonical, field?, field?, ← get?_canonicalFields hd,
      Entries.get?_perm ((canonicalFields_names fields).nodup hd) hperm]
  | _ => rfl

theorem HasDistinctNames.field? (h : v.HasDistinctNames) {name : String}
    (hf : v.field? name = some u) : u.HasDistinctNames := by
  cases v with
  | object fields =>
    exact (hasDistinctNames_object.mp h).2 _ (Entries.mem_of_get?_eq_some hf)
  | _ => cases hf

theorem descend?_null (names : List (List Char)) : (null.descend? names).getD null = null := by
  cases names <;> rfl

/-- A path leads from the canonical form of a value to the canonical form of where it leads from the
value, null standing for what is not there. -/
theorem descend?_canonical (h : v.HasDistinctNames) (names : List (List Char)) :
    (v.canonical.descend? names).getD null = ((v.descend? names).getD null).canonical := by
  induction names generalizing v with
  | nil => rfl
  | cons name names ih =>
    rw [descend?, descend?, field?_canonical h]
    cases hf : v.field? (String.ofList name) with
    | none => rfl
    | some u =>
      by_cases hu : u.isNull
      · obtain rfl := isNull_eq_true.mp hu
        simp [kept?, hu, descend?_null, canonical]
      · simpa [kept?, hu] using ih (h.field? hf)

end Json

/-! ## Literals and operators -/

namespace Literal

theorem itemsEqual_canonical {items : List Literal}
    (h : ∀ v ∈ items, ∀ j : Json, v.equals j.canonical = v.equals j) (values : List Json) :
    itemsEqual items (values.map Json.canonical) = itemsEqual items values := by
  induction items generalizing values with
  | nil => cases values <;> rfl
  | cons v items ih =>
    cases values with
    | nil => rfl
    | cons j values =>
      have hitems := ih (fun u hu => h u (by simp [hu])) values
      rw [List.map_cons, itemsEqual, itemsEqual, h v (by simp), hitems]

/-- A literal equals no object, so it equals a canonical form just as the value itself. -/
theorem equals_canonical (v : Literal) (j : Json) : v.equals j.canonical = v.equals j := by
  induction v using induct_items generalizing j with
  | list items ih =>
    cases j with
    | array values =>
      rw [Json.canonical, Json.canonicalItems_eq_map]
      exact itemsEqual_canonical ih values
    | _ => rfl
  | _ => cases j <;> rfl

theorem order?_canonical (v : Literal) (j : Json) : v.order? j.canonical = v.order? j := by
  cases j <;> rfl

theorem includes_canonical (v : Literal) (j : Json) : v.includes j.canonical = v.includes j := by
  cases v <;> simp only [includes, equals_canonical]

end Literal

theorem Json.scalarText?_canonical (j : Json) : j.canonical.scalarText? = j.scalarText? := by
  cases j <;> rfl

namespace Operator

theorem compare_canonical (op : Operator) (j : Json) (v : Literal) :
    op.compare j.canonical v = op.compare j v := by
  have hany : ∀ (item : Literal) (values : List Json),
      (Json.canonicalItems values).any item.equals = values.any item.equals := by
    intro item values
    rw [Json.canonicalItems_eq_map, List.any_map]
    simp only [Function.comp_def, Literal.equals_canonical]
  cases op with
  | containsAny | containsAll => cases j <;> cases v <;> simp [compare, Json.canonical, hany]
  | _ =>
    simp only [compare, Literal.equals_canonical, Literal.order?_canonical,
      Literal.includes_canonical]

/-- Every operator does the same with a value and with its canonical form. -/
theorem check_canonical (op : Operator) (j : Json) (v : Literal) :
    op.check j.canonical v = op.check j v := by
  simp only [check, compare_canonical, Json.scalarText?_canonical]

end Operator

/-! ## Filters -/

namespace Filter

/-- A text term, or joined terms with a text term among them at any depth. -/
inductive HasTextTerm : Filter → Prop
  | text : HasTextTerm (text v)
  | term (ht : t ∈ terms) (h : HasTextTerm t) : HasTextTerm (joined op terms)

variable {f : Filter} {subject other : Subject} {synonyms : Synonyms}

theorem hasTextTerm_joined {op : Connective} {terms : List Filter} :
    (joined op terms).HasTextTerm ↔ ∃ t ∈ terms, t.HasTextTerm := by
  constructor
  · intro h
    cases h with
    | term ht h => exact ⟨_, ht, h⟩
  · rintro ⟨t, ht, h⟩
    exact .term ht h

theorem not_hasTextTerm_comparison (field : String) (op : Operator) (v : Literal) :
    ¬ (comparison field op v).HasTextTerm := by
  intro h
  cases h

/-- Two subjects are checked alike if the comparisons of the filter find them alike, and if text
terms do where there are any. -/
theorem check_congr_of_comparisons
    (hfield : ∀ levels path op v, Node (comparison path op v) levels f →
      Operator.check op (subject.field path) v = Operator.check op (other.field path) v)
    (htext : f.HasTextTerm → ∀ v : Literal,
      v.checkIn subject synonyms = v.checkIn other synonyms) :
    f.check subject synonyms = f.check other synonyms := by
  induction f using induct_terms with
  | joined op terms ih =>
    have hterms : ∀ t ∈ terms, t.check subject synonyms = t.check other synonyms :=
      fun t ht => ih t ht (fun levels path o v h => hfield (levels + 1) path o v (.term ht h))
        fun hhas => htext (.term ht hhas)
    rw [check_joined, check_joined, checkTerms_congr _ _ op hterms]
  | text v => rw [check, check, htext .text]
  | comparison path op v => rw [check, check, hfield 0 path op v .root]

/-- Two subjects are checked alike if every comparison finds them alike, and if text terms do where
there are any. -/
theorem check_congr
    (hfield : ∀ field op v,
      Operator.check op (subject.field field) v = Operator.check op (other.field field) v)
    (htext : f.HasTextTerm → ∀ v : Literal,
      v.checkIn subject synonyms = v.checkIn other synonyms) :
    f.check subject synonyms = f.check other synonyms :=
  check_congr_of_comparisons (fun _ path op v _ => hfield path op v) htext

/-- Two records are checked alike if the comparisons of the filter find them alike. -/
theorem check_congr_of_records {r s : Json}
    (hfield : ∀ levels path op v, Node (comparison path op v) levels f →
      Operator.check op (Subject.field (.record r) path) v =
        Operator.check op (Subject.field (.record s) path) v) :
    f.check (.record r) synonyms = f.check (.record s) synonyms := by
  apply check_congr_of_comparisons hfield
  intro _ v
  rw [Literal.checkIn_record, Literal.checkIn_record]

theorem check_canonical (f : Filter) {r : Json} (h : r.HasDistinctNames) (synonyms : Synonyms) :
    f.check (.record r.canonical) synonyms = f.check (.record r) synonyms := by
  apply check_congr_of_records
  intro levels path op v _
  have hfield : Subject.field (.record r.canonical) path =
      (Subject.field (.record r) path).canonical :=
    Json.descend?_canonical h (Json.segments path.toList)
  rw [hfield, Operator.check_canonical]

theorem field_text (text field : String) :
    Subject.field (.text text) field = Subject.field (.record (.object [])) field := by
  obtain ⟨name, names, hs⟩ := List.exists_cons_of_ne_nil (Json.segments_ne_nil field.toList)
  simp [Subject.field, Json.resolve?, hs, Json.descend?, Json.field?, Entries.get?]

/-- Records that are alike are checked alike: the outcomes, the notices and what is kept of patterns
are the same. A filter without text terms checks every text as it does the empty record. -/
theorem check_alike (f : Filter) (synonyms : Synonyms) :
    (∀ r s : Json, r.HasDistinctNames → s.HasDistinctNames → r.Alike s →
      f.check (.record r) synonyms = f.check (.record s) synonyms) ∧
    (¬ f.HasTextTerm → ∀ text,
      f.check (.text text) synonyms = f.check (.record (.object [])) synonyms) := by
  constructor
  · intro r s hr hs halike
    rw [← check_canonical f hr, halike, check_canonical f hs]
  · intro hno text
    apply check_congr
    · intro field op v
      rw [field_text]
    · intro hhas
      exact absurd hhas hno

theorem check_alike_reordered :
    let x : Json := .array [.null, .bool true]
    let r : Json := .object [("a", .null), ("b", .object [("x", x), ("y", .string "t")])]
    let s : Json := .object [("b", .object [("y", .string "t"), ("c", .null), ("x", x)])]
    let f := joined .or [comparison "b.y" .ne (.string "t"), comparison "b.c.d" .eq .null]
    r.HasDistinctNames ∧ s.HasDistinctNames ∧ r.Alike s ∧ ¬ f.HasTextTerm ∧
      f.check (.record r) .empty = f.check (.record s) .empty ∧
      f.check (.text "t") .empty = f.check (.record (.object [])) .empty := by
  intro x r s f
  have hnull : Json.null.HasDistinctNames := Json.IsScalar.hasDistinctNames ⟨by simp, by simp⟩
  have htext : (Json.string "t").HasDistinctNames :=
    Json.IsScalar.hasDistinctNames ⟨by simp, by simp⟩
  have hx : x.HasDistinctNames := by
    have htrue : (Json.bool true).HasDistinctNames :=
      Json.IsScalar.hasDistinctNames ⟨by simp, by simp⟩
    simp [x, Json.hasDistinctNames_array, hnull, htrue]
  have hr : r.HasDistinctNames := by simp [r, Json.hasDistinctNames_object, hx, hnull, htext]
  have hs : s.HasDistinctNames := by simp [s, Json.hasDistinctNames_object, hx, hnull, htext]
  have hinner : (Json.object [("x", x), ("y", .string "t")]).Alike
      (.object [("y", .string "t"), ("c", .null), ("x", x)]) := by
    rw [Json.alike_object_iff (by decide)]
    exact .swap ..
  have halike : r.Alike s := by
    rw [Json.alike_object_iff (by decide)]
    rw [Json.Alike] at hinner
    simp [Json.canonicalFields, Json.isNull, hinner]
  have hno : ¬ f.HasTextTerm := by simp [f, hasTextTerm_joined, not_hasTextTerm_comparison]
  have hcheck := check_alike f .empty
  exact ⟨hr, hs, halike, hno, hcheck.1 r s hr hs halike, hcheck.2 hno "t"⟩

end Filter

end RecordFilter
