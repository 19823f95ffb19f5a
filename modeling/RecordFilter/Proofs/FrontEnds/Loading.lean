import Mathlib
import RecordFilter.Synonyms.Loading

/-!
# Synonym files in every state

What is under the name of a synonym file is missing, or a text that describes a table, or broken:
there, but no readable text or no text of a table. The table of the first two states is the same for
everything that loads synonyms where they are optional; only a broken file makes a difference.
-/

namespace RecordFilter

namespace Synonyms

/-- The table that there is by a setting for synonyms. -/
inductive Provides (files : Files) : Option String → Synonyms → Prop
  | unset : Provides files none empty
  | missing (h : files name = .missing) : Provides files (some name) empty
  | loaded (ht : (files name).text? = some text) (hd : ofDocument? text = some table) :
      Provides files (some name) table

/-- What is wrong with the file that a setting for synonyms names. -/
inductive Breaks (files : Files) : Option String → LoadError → Prop
  | unreadable (h : files name ≠ .missing) (ht : (files name).text? = none) :
      Breaks files (some name) (.unreadable name (files name))
  | malformed (ht : (files name).text? = some text) (hd : ofDocument? text = none) :
      Breaks files (some name) (.malformedFile name text)

/-- Something is there that is no text, or whose text describes no table. -/
structure IsBroken (state : FileState) : Prop where
  ne_missing : state ≠ .missing
  no_table : ∀ text, state.text? = some text → ofDocument? text = none

variable {files : Files} {name : String} {name? : Option String} {table : Synonyms} {e : LoadError}

theorem ne_missing_of_text {state : FileState} {text : String} (h : state.text? = some text) :
    state ≠ .missing := by
  rintro rfl
  cases h

/-! ## Loading a file that has to be there -/

theorem load_of_text {text : String} (ht : (files name).text? = some text)
    (hd : ofDocument? text = some table) : load files name = .ok table := by
  simp only [load, ht, hd]

theorem load_of_breaks (h : Breaks files (some name) e) : load files name = .error e := by
  cases h with
  | unreadable h ht => simp only [load, ht]
  | malformed ht hd => simp only [load, ht, hd]

theorem load_of_missing (h : files name = .missing) :
    load files name = .error (.unreadable name .missing) := by
  simp only [load, h]
  rfl

/-! ## Loading where synonyms are optional -/

theorem loadOptional_of_ne_missing (h : files name ≠ .missing) :
    loadOptional files (some name) = load files name := by
  have hpresent : (files name).isMissing = false := by
    cases hs : files name with
    | missing => exact absurd hs h
    | _ => rfl
  simp [loadOptional, hpresent]

theorem Provides.loadOptional_eq (h : Provides files name? table) :
    loadOptional files name? = .ok table := by
  cases h with
  | unset => rfl
  | missing h => simp [loadOptional, h]
  | loaded ht hd => rw [loadOptional_of_ne_missing (ne_missing_of_text ht), load_of_text ht hd]

theorem Breaks.loadOptional_eq (h : Breaks files name? e) :
    loadOptional files name? = .error e := by
  cases h with
  | unreadable hne ht =>
    rw [loadOptional_of_ne_missing hne, load_of_breaks (.unreadable hne ht)]
  | malformed ht hd =>
    rw [loadOptional_of_ne_missing (ne_missing_of_text ht), load_of_breaks (.malformed ht hd)]

/-- There is a table, or something is wrong with the file. -/
theorem provides_or_breaks (files : Files) (name? : Option String) :
    (∃ table, Provides files name? table) ∨ ∃ e, Breaks files name? e := by
  cases name? with
  | none => exact .inl ⟨_, .unset⟩
  | some name =>
    cases ht : (files name).text? with
    | none =>
      by_cases h : files name = .missing
      · exact .inl ⟨_, .missing h⟩
      · exact .inr ⟨_, .unreadable h ht⟩
    | some text =>
      cases hd : ofDocument? text with
      | none => exact .inr ⟨_, .malformed ht hd⟩
      | some table => exact .inl ⟨_, .loaded ht hd⟩

theorem Provides.not_breaks (h : Provides files name? table) : ¬ Breaks files name? e := by
  intro hb
  have := h.loadOptional_eq.symm.trans hb.loadOptional_eq
  cases this

theorem Provides.loadOrEmpty_eq (h : Provides files name? table) :
    loadOrEmpty files name? = table := by
  simp only [loadOrEmpty, h.loadOptional_eq]

theorem Breaks.loadOrEmpty_eq (h : Breaks files name? e) : loadOrEmpty files name? = empty := by
  simp only [loadOrEmpty, h.loadOptional_eq]

theorem IsBroken.exists_breaks (h : IsBroken (files name)) : ∃ e, Breaks files (some name) e := by
  cases ht : (files name).text? with
  | none => exact ⟨_, .unreadable h.ne_missing ht⟩
  | some text => exact ⟨_, .malformed ht (h.no_table text ht)⟩

end Synonyms

end RecordFilter
