import RecordFilter.Proofs.Checking.Canonical
import RecordFilter.Proofs.Checking.Congruence
import RecordFilter.Proofs.Reading.NumberRuns

/-!
# The JSON form of filters

The JSON form of a filter tells as much as equality sees of the filter: two filters have one form if
and only if they are equal. Forms are compared as values, so neither the order of fields nor the
spelling of numbers counts. Only finite numbers have a form of their own; the others are written as
null.
-/

namespace RecordFilter

namespace Json

/-- Values that differ at most in how numbers are written, in the order of fields and in fields that
are null. -/
def SameValue (v u : Json) : Prop := v.byValue.Alike u.byValue

variable {v u : Json} {items others : List Json} {fields members : List (String × Json)}

theorem itemsByValue_eq_map (items : List Json) : itemsByValue items = items.map byValue := by
  induction items with
  | nil => rfl
  | cons v items ih => rw [itemsByValue, ih, List.map_cons]

theorem names_fieldsByValue (fields : List (String × Json)) :
    (fieldsByValue fields).map Prod.fst = fields.map Prod.fst := by
  induction fields with
  | nil => rfl
  | cons e fields ih => rw [fieldsByValue, List.map_cons, List.map_cons, ih]

theorem get?_fieldsByValue (name : String) (fields : List (String × Json)) :
    Entries.get? name (fieldsByValue fields) = (Entries.get? name fields).map byValue := by
  induction fields with
  | nil => rfl
  | cons e fields ih =>
    obtain ⟨n, v⟩ := e
    rw [fieldsByValue, Entries.get?, Entries.get?]
    split
    · rfl
    · exact ih

/-- What is kept of a value in an object tells the value. -/
theorem alike_of_kept? (h : v.kept? = u.kept?) : v.Alike u := by
  unfold kept? at h
  split at h <;> split at h
  · next hv hu => rw [Alike, isNull_eq_true.mp hv, isNull_eq_true.mp hu]
  · cases h
  · cases h
  · exact Option.some.inj h

/-- Objects of one value have values under each name that are the same. -/
theorem SameValue.field (h : (object fields).SameValue (object members)) (name : String)
    (hd : (fields.map Prod.fst).Nodup) (hd' : (members.map Prod.fst).Nodup)
    (hv : Entries.get? name fields = some v) (hu : Entries.get? name members = some u) :
    v.SameValue u := by
  rw [← names_fieldsByValue] at hd hd'
  have hperm := (alike_object_iff hd).mp h
  have hkept := Entries.get?_perm ((canonicalFields_names _).nodup hd) hperm name
  rw [get?_canonicalFields hd, get?_canonicalFields hd', get?_fieldsByValue, get?_fieldsByValue, hv,
    hu] at hkept
  exact alike_of_kept? hkept

theorem sameValue_string {s t : String} : (string s).SameValue (string t) ↔ s = t := by
  simp [SameValue, Alike, byValue, canonical]

theorem sameValue_float {x y : Binary64} :
    (number (.float x)).SameValue (number (.float y)) ↔ x.unsignedZero = y.unsignedZero := by
  simp [SameValue, Alike, byValue, canonical, Number.toBinary64]

theorem sameValue_array :
    (array items).SameValue (array others) ↔
      (items.map fun v => v.byValue.canonical) = others.map fun v => v.byValue.canonical := by
  simp only [SameValue, Alike, byValue, canonical, itemsByValue_eq_map, canonicalItems_eq_map,
    List.map_map, Json.array.injEq, Function.comp_def]

end Json

/-! ## Literals -/

namespace Literal

variable {v u : Literal} {items : List Literal}

/-- The numbers in a literal are finite. -/
def HasFiniteNumbers (v : Literal) : Prop := ∀ x, Within (number x) v → x.isFinite = true

theorem hasFiniteNumbers_list :
    (list items).HasFiniteNumbers ↔ ∀ v ∈ items, v.HasFiniteNumbers := by
  constructor
  · intro h v hv x hx
    exact h x (.item hv hx)
  · intro h x hx
    cases hx with
    | item hv hx => exact h _ hv x hx

theorem toJson_number {x : Binary64} (h : (number x).HasFiniteNumbers) :
    (number x).toJson = .number (.float x) :=
  if_pos (h x .self)

/-- Equal literals have forms of one value. -/
theorem byValue_toJson_congr (h : v.same u = true) : v.toJson.byValue = u.toJson.byValue := by
  induction v using induct_items generalizing u with
  | list items ih =>
    cases u <;> simp only [same, Bool.false_eq_true] at h
    rw [sameItems_eq_isEqv] at h
    have hitems := map_eq_map_of_isEqv (g := fun v : Literal => v.toJson.byValue)
      (fun a ha b => ih a ha) h
    simp only [toJson, Json.byValue, itemsToJson_eq_map, Json.itemsByValue_eq_map, List.map_map,
      Function.comp_def, hitems]
  | number x =>
    cases u <;> simp only [same, Bool.false_eq_true] at h
    case number y =>
      by_cases hx : x.magnitude = 0
      · have hy := (Binary64.magnitude_eq_zero_iff h).mp hx
        have hinfinity : 0 < Binary64.infinity := by decide
        simp [toJson, hinfinity, Binary64.isFinite, hx, hy, Json.byValue, Json.Number.toBinary64,
          Binary64.unsignedZero]
      · rw [Binary64.eq_of_sameValue h fun h0 => absurd h0 hx]
  | pattern p =>
    cases u <;> simp only [same, Bool.false_eq_true] at h
    obtain ⟨hsource, hflags⟩ := PatternLiteral.same_iff.mp h
    rw [toJson, toJson, hsource, hflags]
  | string s => cases u <;> simp_all [same]
  | bool b => cases u <;> simp_all [same]
  | null => cases u <;> simp_all [same]

/-- A finite number has the form of no other literal. -/
theorem same_number_of_sameValue {y : Binary64} (hv : v.HasFiniteNumbers)
    (hy : (number y).HasFiniteNumbers) (h : v.toJson.SameValue (number y).toJson) :
    v.same (number y) = true := by
  rw [toJson_number hy] at h
  cases v with
  | number x =>
    rw [toJson_number hv] at h
    have hnan := Binary64.isNaN_of_isFinite (hy y .self)
    exact (Binary64.sameValue_iff hnan).mpr (Json.sameValue_float.mp h)
  | _ => cases h

/-- Forms of one value come from equal literals. -/
theorem same_of_sameValue (hv : v.HasFiniteNumbers) (hu : u.HasFiniteNumbers)
    (h : v.toJson.SameValue u.toJson) : v.same u = true := by
  induction v using induct_items generalizing u with
  | list items ih =>
    cases u with
    | list others =>
      rw [hasFiniteNumbers_list] at hv hu
      rw [toJson, toJson, itemsToJson_eq_map, itemsToJson_eq_map, Json.sameValue_array,
        List.map_map, List.map_map] at h
      rw [same, sameItems_eq_isEqv]
      exact isEqv_of_map_eq_map (fun a ha b hb hab => ih a ha (hv a ha) (hu b hb) hab) h
    | number y => exact same_number_of_sameValue hv hu h
    | _ => cases h
  | number x =>
    cases u with
    | number y => exact same_number_of_sameValue hv hu h
    | _ =>
      rw [toJson_number hv] at h
      cases h
  | pattern p =>
    cases u with
    | pattern q =>
      rw [toJson, toJson] at h
      have hsource := h.field "pattern" (by simp) (by simp) rfl rfl
      have hflags := h.field "flags" (by simp) (by simp) rfl rfl
      rw [same, PatternLiteral.same_iff]
      exact ⟨Json.sameValue_string.mp hsource, Json.sameValue_string.mp hflags⟩
    | number y => exact same_number_of_sameValue hv hu h
    | _ => cases h
  | string s =>
    cases u with
    | string t => simpa [same] using Json.sameValue_string.mp h
    | number y => exact same_number_of_sameValue hv hu h
    | _ => cases h
  | bool b =>
    cases u with
    | bool c =>
      cases h
      simp [same]
    | number y => exact same_number_of_sameValue hv hu h
    | _ => cases h
  | null =>
    cases u with
    | null => rfl
    | number y => exact same_number_of_sameValue hv hu h
    | _ => cases h

/-- The form of a pattern is the form of no other kind of literal. -/
theorem exists_pattern_of_sameValue {p : PatternLiteral}
    (h : (pattern p).toJson.SameValue v.toJson) : ∃ q, v = pattern q := by
  cases v with
  | pattern q => exact ⟨q, rfl⟩
  | number x =>
    unfold toJson at h
    split at h <;> cases h
  | _ => cases h

end Literal

theorem Connective.text_injective : Function.Injective Connective.text := by
  intro o p h
  cases o <;> cases p <;> first | rfl | exact absurd h (by decide)

theorem Operator.text_injective : Function.Injective Operator.text := by
  intro o p h
  cases o <;> cases p <;> first | rfl | exact absurd h (by decide)

theorem Operator.text_ne_connective (q : Operator) (o : Connective) : q.text ≠ o.text := by
  cases q <;> cases o <;> decide

/-! ## Filters -/

namespace Filter

variable {f g : Filter} {terms others : List Filter} {o p : Connective} {q r : Operator}
  {v u : Literal} {a b : String}

/-- The numbers in the literals of a filter are finite. -/
def HasFiniteNumbers (f : Filter) : Prop :=
  ∀ levels g, Node g levels f → ∀ v ∈ g.literal?, v.HasFiniteNumbers

theorem hasFiniteNumbers_joined :
    (joined o terms).HasFiniteNumbers ↔ ∀ t ∈ terms, t.HasFiniteNumbers := by
  constructor
  · intro h t ht levels g hg
    exact h _ g (.term ht hg)
  · intro h levels g hg
    cases hg with
    | root =>
      intro v hv
      cases hv
    | term ht hg => exact h _ ht _ g hg

theorem hasFiniteNumbers_text : (text v).HasFiniteNumbers ↔ v.HasFiniteNumbers := by
  constructor
  · intro h
    exact h 0 _ .root v rfl
  · intro h levels g hg
    cases hg
    intro u hu
    cases hu
    exact h

theorem hasFiniteNumbers_comparison :
    (comparison a q v).HasFiniteNumbers ↔ v.HasFiniteNumbers := by
  constructor
  · intro h
    exact h 0 _ .root v rfl
  · intro h levels g hg
    cases hg
    intro u hu
    cases hu
    exact h

/-- Equal filters have forms of one value. -/
theorem byValue_toJson_congr (h : f.same g = true) : f.toJson.byValue = g.toJson.byValue := by
  induction f using induct_terms generalizing g with
  | joined o terms ih =>
    cases g <;> simp only [same, Bool.false_eq_true, Bool.and_eq_true, beq_iff_eq] at h
    obtain ⟨rfl, hterms⟩ := h
    rw [sameTerms_eq_isEqv] at hterms
    have hforms := map_eq_map_of_isEqv (g := fun t : Filter => t.toJson.byValue)
      (fun t ht u => ih t ht) hterms
    simp only [toJson, Json.byValue, Json.fieldsByValue, termsToJson_eq_map,
      Json.itemsByValue_eq_map, List.map_map, Function.comp_def, hforms]
  | text v =>
    cases g <;> simp only [same, Bool.false_eq_true] at h
    simp only [toJson, Json.byValue, Json.fieldsByValue, Literal.byValue_toJson_congr h]
  | comparison a q v =>
    cases g <;> simp only [same, Bool.false_eq_true, Bool.and_eq_true, beq_iff_eq] at h
    obtain ⟨⟨rfl, rfl⟩, hv⟩ := h
    simp only [toJson, Json.byValue, Json.fieldsByValue, Literal.byValue_toJson_congr hv]

/-! ### The fields of a form -/

/-- What the form of a filter gives as its type. -/
def typeName : Filter → String
  | joined _ _ => "logical"
  | text _ => "text"
  | comparison _ _ _ => "comparison"

/-- Forms of one value come from filters of one kind. -/
theorem typeName_eq_of_sameValue (h : f.toJson.SameValue g.toJson) : f.typeName = g.typeName := by
  cases f <;> cases g <;>
    exact Json.sameValue_string.mp (h.field "type" (by simp) (by simp) rfl rfl)

theorem sameValue_joined (h : (joined o terms).toJson.SameValue (joined p others).toJson) :
    o = p ∧ (terms.map fun t => t.toJson.byValue.canonical) =
      others.map fun t => t.toJson.byValue.canonical := by
  have hoperator := h.field "operator" (by simp) (by simp) rfl rfl
  have hterms := h.field "terms" (by simp) (by simp) rfl rfl
  rw [Json.sameValue_array, termsToJson_eq_map, termsToJson_eq_map, List.map_map, List.map_map]
    at hterms
  exact ⟨Connective.text_injective (Json.sameValue_string.mp hoperator), hterms⟩

theorem sameValue_text (h : (text v).toJson.SameValue (text u).toJson) :
    v.toJson.SameValue u.toJson :=
  h.field "value" (by simp) (by simp) rfl rfl

theorem sameValue_comparison
    (h : (comparison a q v).toJson.SameValue (comparison b r u).toJson) :
    a = b ∧ q = r ∧ v.toJson.SameValue u.toJson := by
  have hfield := h.field "field" (by simp) (by simp) rfl rfl
  have hoperator := h.field "operator" (by simp) (by simp) rfl rfl
  have hvalue := h.field "value" (by simp) (by simp) rfl rfl
  exact ⟨Json.sameValue_string.mp hfield,
    Operator.text_injective (Json.sameValue_string.mp hoperator), hvalue⟩

/-- Forms of one value come from equal filters. -/
theorem same_of_sameValue (hf : f.HasFiniteNumbers) (hg : g.HasFiniteNumbers)
    (h : f.toJson.SameValue g.toJson) : f.same g = true := by
  have htype := typeName_eq_of_sameValue h
  induction f using induct_terms generalizing g with
  | joined o terms ih =>
    cases g with
    | joined p others =>
      obtain ⟨rfl, hterms⟩ := sameValue_joined h
      rw [hasFiniteNumbers_joined] at hf hg
      rw [same, sameTerms_eq_isEqv, beq_self_eq_true, Bool.true_and]
      exact isEqv_of_map_eq_map (fun t ht u hu htu =>
        ih t ht (hf t ht) (hg u hu) htu (typeName_eq_of_sameValue htu)) hterms
    | _ => simp [typeName] at htype
  | text v =>
    cases g with
    | text u =>
      rw [hasFiniteNumbers_text] at hf hg
      exact Literal.same_of_sameValue hf hg (sameValue_text h)
    | _ => simp [typeName] at htype
  | comparison a q v =>
    cases g with
    | comparison b r u =>
      obtain ⟨rfl, rfl, hvalue⟩ := sameValue_comparison h
      rw [hasFiniteNumbers_comparison] at hf hg
      rw [same, beq_self_eq_true, beq_self_eq_true, Literal.same_of_sameValue hf hg hvalue]
      rfl
    | _ => simp [typeName] at htype

/-- The forms of two filters with finite numbers have one value exactly if the filters are equal.
In general the form of a pattern tells it from all other literals, no two operators or connectives
have one text, and the three kinds of filters have no form in common. -/
theorem toJson_faithful (hf : f.HasFiniteNumbers) (hg : g.HasFiniteNumbers) :
    (f.toJson.SameValue g.toJson ↔ f.same g = true) ∧
      (∀ p (v : Literal), (Literal.pattern p).toJson.SameValue v.toJson → ∃ q, v = .pattern q) ∧
      Function.Injective Operator.text ∧ Function.Injective Connective.text ∧
      (∀ (q : Operator) (o : Connective), q.text ≠ o.text) ∧
      (∀ o terms v, ¬ (joined o terms).toJson.SameValue (text v).toJson) ∧
      (∀ o terms a q v, ¬ (joined o terms).toJson.SameValue (comparison a q v).toJson) ∧
      (∀ v a q u, ¬ (text v).toJson.SameValue (comparison a q u).toJson) := by
  refine ⟨⟨same_of_sameValue hf hg, ?_⟩, fun _ _ => Literal.exists_pattern_of_sameValue,
    Operator.text_injective, Connective.text_injective, Operator.text_ne_connective, ?_, ?_, ?_⟩
  · intro h
    rw [Json.SameValue, byValue_toJson_congr h, Json.Alike]
  · intro o terms v h
    simpa [typeName] using typeName_eq_of_sameValue h
  · intro o terms a q v h
    simpa [typeName] using typeName_eq_of_sameValue h
  · intro v a q u h
    simpa [typeName] using typeName_eq_of_sameValue h

/-- Zeros of both signs and patterns before and after they were compiled have one form by value. -/
theorem toJson_faithful_zeros :
    let f := joined .or [comparison "a" .isIn (.list [.number ⟨false, 0, by decide⟩]),
      text (.pattern { source := "(", flags := "i" })]
    let g := joined .or [comparison "a" .isIn (.list [.number ⟨true, 0, by decide⟩]),
      text (.pattern { source := "(", flags := "i", outcome := some (.error .invalidPattern) })]
    f.HasFiniteNumbers ∧ g.HasFiniteNumbers ∧ f.toJson.SameValue g.toJson := by
  intro f g
  have hzero : ∀ negative, (Literal.number ⟨negative, 0, by decide⟩).HasFiniteNumbers := by
    intro negative x hx
    cases hx
    cases negative <;> decide
  have hpattern : ∀ p, (Literal.pattern p).HasFiniteNumbers := by
    intro p x hx
    cases hx
  have hf : f.HasFiniteNumbers := by
    simp [f, hasFiniteNumbers_joined, hasFiniteNumbers_text, hasFiniteNumbers_comparison,
      Literal.hasFiniteNumbers_list, hzero, hpattern]
  have hg : g.HasFiniteNumbers := by
    simp [g, hasFiniteNumbers_joined, hasFiniteNumbers_text, hasFiniteNumbers_comparison,
      Literal.hasFiniteNumbers_list, hzero, hpattern]
  exact ⟨hf, hg, (toJson_faithful hf hg).1.mpr (by decide +kernel)⟩

end Filter

end RecordFilter
