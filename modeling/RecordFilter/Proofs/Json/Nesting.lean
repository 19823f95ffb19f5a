import Mathlib
import RecordFilter.Json.Reader

/-!
# Values inside values

A JSON value stands inside the arrays and objects around it. What is to be known of all values is
shown by `induct_inner`, from the items and fields of each container. In a value that was read from
a text no object has a name twice, so the order of its fields plays no part in looking one up.
-/

namespace RecordFilter

/-! ## Entries with distinct names -/

namespace Entries

variable {α β : Type} {name : String} {value : α} {entries others : List (String × α)}

theorem mem_of_get?_eq_some (h : get? name entries = some value) : (name, value) ∈ entries := by
  induction entries with
  | nil => cases h
  | cons e entries ih =>
    obtain ⟨n, v⟩ := e
    rw [get?] at h
    split at h
    · next hn =>
      cases h
      simp [hn]
    · exact List.mem_cons_of_mem _ (ih h)

theorem get?_eq_none_iff : get? name entries = none ↔ name ∉ entries.map Prod.fst := by
  induction entries with
  | nil => simp [get?]
  | cons e entries ih =>
    obtain ⟨n, v⟩ := e
    by_cases hn : n = name
    · simp [get?, hn]
    · simp [get?, hn, ih, Ne.symm hn]

/-- With distinct names every entry is the one that is found under its name. -/
theorem get?_eq_some_iff (hd : (entries.map Prod.fst).Nodup) :
    get? name entries = some value ↔ (name, value) ∈ entries := by
  refine ⟨mem_of_get?_eq_some, fun h => ?_⟩
  induction entries with
  | nil => cases h
  | cons e entries ih =>
    obtain ⟨n, v⟩ := e
    rw [List.map_cons, List.nodup_cons] at hd
    rcases List.mem_cons.mp h with heq | hmem
    · cases heq
      simp [get?]
    · have hn : n ≠ name := by
        rintro rfl
        exact hd.1 (List.mem_map.mpr ⟨_, hmem, rfl⟩)
      rw [get?, if_neg hn]
      exact ih hd.2 hmem

theorem get?_perm (hd : (entries.map Prod.fst).Nodup) (hp : entries.Perm others) (name : String) :
    get? name entries = get? name others := by
  have hd' : (others.map Prod.fst).Nodup := (hp.map Prod.fst).nodup_iff.mp hd
  apply Option.ext
  intro value
  rw [get?_eq_some_iff hd, get?_eq_some_iff hd', hp.mem_iff]

theorem nodup_set (hd : (entries.map Prod.fst).Nodup) (name : String) (value : α) :
    ((set name value entries).map Prod.fst).Nodup := by
  rw [map_fst_set]
  split
  · exact hd
  · next hn => exact List.nodup_append.mpr ⟨hd, by simp, by grind⟩

theorem mem_set {e : String × α} (h : e ∈ set name value entries) :
    e = (name, value) ∨ e ∈ entries := by
  induction entries with
  | nil => simpa [set] using h
  | cons first entries ih =>
    obtain ⟨n, v⟩ := first
    rw [set] at h
    split at h
    · next hn =>
      subst hn
      rcases List.mem_cons.mp h with rfl | h
      · exact .inl rfl
      · exact .inr (List.mem_cons_of_mem _ h)
    · rcases List.mem_cons.mp h with rfl | h
      · exact .inr (by simp)
      · exact (ih h).imp_right (List.mem_cons_of_mem _)

/-- Setting names one after the other keeps names distinct and brings in no other entries. -/
theorem foldl_set (l : List (String × α)) (hd : (entries.map Prod.fst).Nodup) :
    ((l.foldl (fun entries (n, v) => set n v entries) entries).map Prod.fst).Nodup ∧
      ∀ e ∈ l.foldl (fun entries (n, v) => set n v entries) entries, e ∈ l ∨ e ∈ entries := by
  induction l generalizing entries with
  | nil => exact ⟨hd, fun e he => .inr he⟩
  | cons first l ih =>
    obtain ⟨n, v⟩ := first
    obtain ⟨hnodup, hmem⟩ := ih (nodup_set hd n v)
    refine ⟨hnodup, fun e he => ?_⟩
    rcases hmem e he with he | he
    · exact .inl (List.mem_cons_of_mem _ he)
    · rcases mem_set he with rfl | he
      · exact .inl (by simp)
      · exact .inr he

theorem nodup_ofList (l : List (String × α)) : ((ofList l).map Prod.fst).Nodup :=
  (foldl_set l (by simp)).1

theorem mem_of_mem_ofList {l : List (String × α)} {e : String × α} (h : e ∈ ofList l) : e ∈ l :=
  ((foldl_set l (by simp)).2 e h).resolve_right (by simp)

end Entries

namespace Json

/-! ## Induction -/

/-- Induction on JSON values: for an array or an object it is enough to know its items or fields. -/
@[elab_as_elim]
theorem induct_inner {motive : Json → Prop} (null : motive null) (bool : ∀ b, motive (bool b))
    (number : ∀ n, motive (number n)) (string : ∀ s, motive (string s))
    (array : ∀ items, (∀ v ∈ items, motive v) → motive (array items))
    (object : ∀ fields, (∀ e ∈ fields, motive e.2) → motive (object fields)) : ∀ v, motive v
  | .null => null
  | .bool b => bool b
  | .number n => number n
  | .string s => string s
  | .array items =>
    array items fun v _ => induct_inner null bool number string array object v
  | .object fields =>
    object fields fun e _ => induct_inner null bool number string array object e.2
decreasing_by
  · have := List.sizeOf_lt_of_mem ‹v ∈ items›
    simp only [Json.array.sizeOf_spec]
    omega
  · have := List.sizeOf_lt_of_mem ‹e ∈ fields›
    obtain ⟨name, v⟩ := e
    simp only [Json.object.sizeOf_spec, Prod.mk.sizeOf_spec] at this ⊢
    omega

/-! ## Values with distinct names -/

/-- A value stands inside itself and inside what its containers stand in. -/
inductive Within (u : Json) : Json → Prop
  | self : Within u u
  | item (hv : v ∈ items) (h : Within u v) : Within u (array items)
  | field (he : e ∈ fields) (h : Within u e.2) : Within u (object fields)

variable {v u : Json} {items : List Json} {fields : List (String × Json)}

/-- No object in the value has a name twice. -/
def HasDistinctNames (v : Json) : Prop :=
  ∀ fields, Within (object fields) v → (fields.map Prod.fst).Nodup

theorem hasDistinctNames_array :
    (array items).HasDistinctNames ↔ ∀ v ∈ items, v.HasDistinctNames := by
  constructor
  · intro h v hv fields hw
    exact h fields (.item hv hw)
  · intro h fields hw
    cases hw with
    | item hv hw => exact h _ hv fields hw

theorem hasDistinctNames_object :
    (object fields).HasDistinctNames ↔
      (fields.map Prod.fst).Nodup ∧ ∀ e ∈ fields, e.2.HasDistinctNames := by
  constructor
  · intro h
    exact ⟨h fields .self, fun e he inner hw => h inner (.field he hw)⟩
  · rintro ⟨hd, h⟩ inner hw
    cases hw with
    | self => exact hd
    | field he hw => exact h _ he inner hw

/-- A value that is no container. -/
def IsScalar (v : Json) : Prop := (∀ items, v ≠ array items) ∧ ∀ fields, v ≠ object fields

theorem IsScalar.hasDistinctNames (h : v.IsScalar) : v.HasDistinctNames := by
  intro fields hw
  cases hw with
  | self => exact absurd rfl (h.2 _)
  | item => exact absurd rfl (h.1 _)
  | field => exact absurd rfl (h.2 _)

/-! ### Reading gives distinct names -/

section Delimited

variable {α : Type} {item : Reader α} {close : Char} {P : α → Prop}

theorem delimited_forall (hitem : ∀ s a rest, item s = some (a, rest) → P a) {acc l : List α}
    {s rest : List Char} (hacc : ∀ a ∈ acc, P a)
    (h : delimited item close acc s = some (l, rest)) : ∀ a ∈ l, P a := by
  induction hn : s.length using Nat.strongRecOn generalizing acc s with
  | ind n ih =>
    subst hn
    rw [delimited] at h
    split at h
    · cases h
    · next a after ha =>
      have hcons : ∀ b ∈ a :: acc, P b := by
        simpa using ⟨hitem _ _ _ ha, hacc⟩
      split at h
      · cases h
      · split at h
        · cases h
          intro b hb
          exact hcons b (List.mem_reverse.mp hb)
        · split at h
          · next hlt => exact ih _ hlt.2 hcons h rfl
          · cases h

theorem contents_forall (hitem : ∀ s a rest, item s = some (a, rest) → P a) {l : List α}
    {s rest : List Char} (h : contents item close s = some (l, rest)) : ∀ a ∈ l, P a := by
  unfold contents at h
  split at h
  · cases h
  · split at h
    · cases h
      simp
    · exact delimited_forall hitem (by simp) h

end Delimited

theorem member?_forall {P : Json → Prop} {value : Reader Json}
    (hvalue : ∀ s v rest, value s = some (v, rest) → P v) (s : List Char) (e : String × Json)
    (rest : List Char) (h : member? value s = some (e, rest)) : P e.2 := by
  unfold member? at h
  split at h <;> try cases h
  split at h <;> try cases h
  split at h <;> try cases h
  obtain ⟨⟨v, after⟩, hv, heq⟩ := Option.map_eq_some_iff.mp h
  cases heq
  exact hvalue _ _ _ hv

theorem unsigned?_isScalar {negative : Bool} {s rest : List Char}
    (h : unsigned? negative s = some (v, rest)) : v.IsScalar := by
  simp only [unsigned?, Option.bind_eq_bind] at h
  split at h
  · cases h
  · simp only [Option.bind_eq_some_iff] at h
    obtain ⟨e, -, e', -, n, -, heq⟩ := h
    cases heq
    exact ⟨by simp, by simp⟩

/-- What a value can be that was read: an array or an object of what is between its brackets, at one
level less, or no container. -/
theorem value?_cases {levels : Nat} {s rest : List Char} (h : value? levels s = some (v, rest)) :
    (∃ n items after, levels = n + 1 ∧ skipSpace s = '[' :: after ∧
      contents (value? n) ']' after = some (items, rest) ∧ v = array items) ∨
    (∃ n members after, levels = n + 1 ∧ skipSpace s = '\x7b' :: after ∧
      contents (member? (value? n)) '\x7d' after = some (members, rest) ∧
      v = object (Entries.ofList members)) ∨
    v.IsScalar := by
  unfold value? at h
  split at h
  · next after hs =>
    obtain ⟨e, -, heq⟩ := Option.map_eq_some_iff.mp h
    cases heq
    exact .inr (.inr ⟨by simp, by simp⟩)
  · next after hs =>
    split at h
    · cases h
    · next n =>
      obtain ⟨e, hitems, heq⟩ := Option.map_eq_some_iff.mp h
      cases heq
      exact .inl ⟨n, e.1, after, rfl, hs, hitems, rfl⟩
  · next after hs =>
    split at h
    · cases h
    · next n =>
      obtain ⟨e, hmembers, heq⟩ := Option.map_eq_some_iff.mp h
      cases heq
      exact .inr (.inl ⟨n, e.1, after, rfl, hs, hmembers, rfl⟩)
  · cases h
    exact .inr (.inr ⟨by simp, by simp⟩)
  · cases h
    exact .inr (.inr ⟨by simp, by simp⟩)
  · cases h
    exact .inr (.inr ⟨by simp, by simp⟩)
  · exact .inr (.inr (unsigned?_isScalar h))
  · exact .inr (.inr (unsigned?_isScalar h))

section Values

variable {P : Json → Prop}

/-- What holds of the scalars that are read, and of each container of values that it holds of, holds
of all values that are read. The induction is on the levels still allowed. -/
theorem value?_forall
    (scalar : ∀ levels s v rest, value? levels s = some (v, rest) → v.IsScalar → P v)
    (array : ∀ items, (∀ v ∈ items, P v) → P (array items))
    (object : ∀ members, (∀ e ∈ members, P e.2) → P (object (Entries.ofList members)))
    (levels : Nat) (s : List Char) (v : Json) (rest : List Char)
    (h : value? levels s = some (v, rest)) : P v := by
  induction levels generalizing s v rest with
  | zero =>
    obtain ⟨n, -, -, hn, -⟩ | ⟨n, -, -, hn, -⟩ | hscalar := value?_cases h
    · cases hn
    · cases hn
    · exact scalar _ _ _ _ h hscalar
  | succ levels ih =>
    obtain ⟨n, items, after, hn, -, hitems, rfl⟩ | ⟨n, members, after, hn, -, hmembers, rfl⟩ |
      hscalar := value?_cases h
    · cases hn
      exact array items (contents_forall ih hitems)
    · cases hn
      exact object members (contents_forall (member?_forall ih) hmembers)
    · exact scalar _ _ _ _ h hscalar

theorem read?_forall
    (scalar : ∀ levels s v rest, value? levels s = some (v, rest) → v.IsScalar → P v)
    (array : ∀ items, (∀ v ∈ items, P v) → P (array items))
    (object : ∀ members, (∀ e ∈ members, P e.2) → P (object (Entries.ofList members)))
    {text : String} (h : read? text = some v) : P v := by
  unfold read? at h
  split at h
  · next w rest hv =>
    split at h
    · cases h
      exact value?_forall scalar array object _ _ _ _ hv
    · cases h
  · cases h

end Values

/-- In a value that was read no object has a name twice. -/
theorem read?_hasDistinctNames {text : String} (h : read? text = some v) : v.HasDistinctNames := by
  refine read?_forall ?_ ?_ ?_ h
  · intro levels s u rest _ hscalar
    exact hscalar.hasDistinctNames
  · intro items hitems
    exact hasDistinctNames_array.mpr hitems
  · intro members hmembers
    refine hasDistinctNames_object.mpr ⟨Entries.nodup_ofList members, fun e he => ?_⟩
    exact hmembers e (Entries.mem_of_mem_ofList he)

end Json

end RecordFilter
