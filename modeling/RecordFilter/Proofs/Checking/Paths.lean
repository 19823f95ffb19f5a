import RecordFilter.Proofs.Checking.Equality
import RecordFilter.Proofs.Json.Nesting

/-!
# Paths put together

A dot between two paths composes them: the second one is followed from where the first one leads. So
a path is no more than the list of its names, empty ones included, and following it is looking up
one field after the other. It leads nowhere as soon as a field is missing or a value is no object.
-/

namespace RecordFilter.Json

/-- Where names lead through nested objects, each being that of a field which is there. -/
inductive Leads : Json → List String → Json → Prop
  | done : Leads v [] v
  | enter (hf : Entries.get? name fields = some u) (h : Leads u names found) :
      Leads (object fields) (name :: names) found

/-- Whether a value is no object or an object without a field of the given name. -/
def Lacks (v : Json) (name : String) : Prop :=
  ∀ fields, v = object fields → name ∉ fields.map Prod.fst

variable {r u v : Json} {name : String} {names : List String}

/-! ## Names -/

theorem segments_append_dot (p q : List Char) :
    segments (p ++ '.' :: q) = segments p ++ segments q := by
  rw [segments_eq_splitOn, segments_eq_splitOn, segments_eq_splitOn]
  exact List.splitOnP_append_cons p q (beq_self_eq_true '.')

/-- Names without dots are what their path is cut into. -/
theorem segments_intercalate (hne : names ≠ []) (hdot : ∀ name ∈ names, '.' ∉ name.toList) :
    segments (".".intercalate names).toList = names.map String.toList := by
  have hparts : ∀ part ∈ names.map String.toList, '.' ∉ part := by
    intro part hpart
    obtain ⟨name, hname, rfl⟩ := List.mem_map.mp hpart
    exact hdot name hname
  rw [segments_eq_splitOn, String.toList_intercalate]
  exact List.splitOn_intercalate '.' hparts (by simpa using hne)

/-! ## Lookups -/

theorem field?_eq_some_iff :
    v.field? name = some u ↔ ∃ fields, v = object fields ∧ Entries.get? name fields = some u := by
  cases v <;> simp [field?]

theorem field?_eq_none_iff : v.field? name = none ↔ v.Lacks name := by
  cases v <;> simp [field?, Lacks, Entries.get?_eq_none_iff]

theorem descend?_append (v : Json) (parts more : List (List Char)) :
    v.descend? (parts ++ more) = (v.descend? parts).bind fun u => u.descend? more := by
  induction parts generalizing v with
  | nil => rfl
  | cons part parts ih =>
    rw [List.cons_append, descend?, descend?, Option.bind_assoc]
    exact Option.bind_congr fun u _ => ih u

theorem resolve?_append_dot (v : Json) (p q : String) :
    v.resolve? (p ++ "." ++ q) = (v.resolve? p).bind fun u => u.resolve? q := by
  have htext : (p ++ "." ++ q).toList = p.toList ++ '.' :: q.toList := by simp
  rw [resolve?, htext, segments_append_dot, descend?_append]
  rfl

theorem descend?_cons (v : Json) (name : String) (names : List String) :
    v.descend? ((name :: names).map String.toList) =
      (v.field? name).bind fun u => u.descend? (names.map String.toList) := by
  rw [List.map_cons, descend?, String.ofList_toList]

/-- Names are followed to an end just if each is that of a field. -/
theorem descend?_eq_some_iff :
    r.descend? (names.map String.toList) = some v ↔ r.Leads names v := by
  induction names generalizing r with
  | nil =>
    rw [List.map_nil, descend?, Option.some.injEq]
    constructor
    · rintro rfl
      exact .done
    · intro h
      cases h
      rfl
  | cons name names ih =>
    rw [descend?_cons, Option.bind_eq_some_iff]
    constructor
    · rintro ⟨u, hu, hv⟩
      obtain ⟨fields, rfl, hf⟩ := field?_eq_some_iff.mp hu
      exact .enter hf (ih.mp hv)
    · intro h
      cases h with
      | enter hf h => exact ⟨_, field?_eq_some_iff.mpr ⟨_, rfl, hf⟩, ih.mpr h⟩

/-- Nothing is found just if some name is missing where the names before it lead. -/
theorem descend?_eq_none_iff :
    r.descend? (names.map String.toList) = none ↔
      ∃ before name after v, names = before ++ name :: after ∧ r.Leads before v ∧ v.Lacks name := by
  constructor
  · intro h
    induction names generalizing r with
    | nil => cases h
    | cons name names ih =>
      rw [descend?_cons] at h
      cases hu : r.field? name with
      | none => exact ⟨[], name, names, r, rfl, .done, field?_eq_none_iff.mp hu⟩
      | some u =>
        rw [hu, Option.bind_some] at h
        obtain ⟨before, missing, after, v, rfl, hv, hlacks⟩ := ih h
        obtain ⟨fields, rfl, hf⟩ := field?_eq_some_iff.mp hu
        exact ⟨name :: before, missing, after, v, rfl, .enter hf hv, hlacks⟩
  · rintro ⟨before, name, after, v, rfl, hv, hlacks⟩
    rw [List.map_append, descend?_append, descend?_eq_some_iff.mpr hv, Option.bind_some,
      descend?_cons, field?_eq_none_iff.mpr hlacks]
    rfl

/-- Paths compose at any dot, and a path of names without dots is their lookups one by one. -/
theorem resolve?_paths :
    (∀ (r : Json) (p q : String),
        r.resolve? (p ++ "." ++ q) = (r.resolve? p).bind fun v => v.resolve? q) ∧
      ∀ (r : Json) (names : List String), names ≠ [] → (∀ name ∈ names, '.' ∉ name.toList) →
        (∀ v, r.resolve? (".".intercalate names) = some v ↔ r.Leads names v) ∧
          (r.resolve? (".".intercalate names) = none ↔
            ∃ before name after v,
              names = before ++ name :: after ∧ r.Leads before v ∧ v.Lacks name) := by
  refine ⟨resolve?_append_dot, fun r names hne hdot => ?_⟩
  rw [resolve?, segments_intercalate hne hdot]
  exact ⟨fun v => descend?_eq_some_iff, descend?_eq_none_iff⟩

/-- Doubled dots lead through a field without a name; nothing is found behind an array. -/
theorem resolve?_paths_empty_name :
    (object [("a", object [("", object [("b", bool true)]), ("c", array [null])])]).resolve?
        "a..b" = some (bool true) ∧
      (object [("a", object [("", object [("b", bool true)]), ("c", array [null])])]).resolve?
        "a.c.0" = none := by
  have hdot : ∀ name ∈ ["a", "", "b"], '.' ∉ name.toList := by simp
  have hdot' : ∀ name ∈ ["a", "c", "0"], '.' ∉ name.toList := by simp
  constructor
  · exact ((resolve?_paths.2 _ ["a", "", "b"] (by simp) hdot).1 _).mpr
      (.enter rfl (.enter rfl (.enter rfl .done)))
  · exact (resolve?_paths.2 _ ["a", "c", "0"] (by simp) hdot').2.mpr
      ⟨["a", "c"], "0", [], array [null], rfl, .enter rfl (.enter rfl .done), fun _ h => by cases h⟩

end RecordFilter.Json
