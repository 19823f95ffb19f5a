import RecordFilter.Proofs.Checking.Expansion
import RecordFilter.Proofs.Unicode.Lowercase
import RecordFilter.Proofs.Unicode.Tables

/-!
# Texts that hold a term as written

A text term looks for the lower case of its literal in the lower case of the text. What stands in
the text as written is found in this way, unless a capital sigma is a final sigma in one of the two
and not in the other.
-/

namespace RecordFilter

open Unicode (SigmasAgree)

variable {a b : List Char} {synonyms : Synonyms} {s q w : String}

theorem occursIn_iff {needle s : List Char} : occursIn needle s = true ↔ needle <:+: s := by
  induction s with
  | nil => rw [occursIn, List.isEmpty_iff, List.infix_nil]
  | cons c s ih =>
    rw [occursIn, Bool.or_eq_true, List.isPrefixOf_iff_prefix, ih, List.infix_cons_iff]

theorem occursFolded_of_sigmasAgree (hs : s.toList = a ++ (w.toList ++ b))
    (hsigma : SigmasAgree a.reverse w.toList b) : occursFolded w s = true := by
  rw [occursFolded, occursIn_iff, hs]
  exact Unicode.lowercase_infix hsigma

theorem containsTerm_of_occursFolded (hw : w = q ∨ w ∈ synonyms.lookup q)
    (h : occursFolded w s = true) : containsTerm synonyms s q = true :=
  List.any_eq_true.mpr ⟨w, List.mem_cons.mpr hw, h⟩

namespace Filter

theorem check_text_string (s q : String) (synonyms : Synonyms) :
    ((text (.string q)).check (.text s) synonyms).outcome = containsTerm synonyms s q := rfl

/-- A term that stands in a text as written, or one of its alternates, is found there if each of its
capital sigmas ends a word of the text just if it ends a word of the term. So without capital sigmas
it is always found. -/
theorem check_verbatim (hw : w = q ∨ w ∈ synonyms.lookup q) (hs : s.toList = a ++ (w.toList ++ b))
    (hsigma : 'Σ' ∈ w.toList → SigmasAgree a.reverse w.toList b) :
    ((text (.string q)).check (.text s) synonyms).outcome = true := by
  have hagree : SigmasAgree a.reverse w.toList b := by
    by_cases hmem : 'Σ' ∈ w.toList
    · exact hsigma hmem
    · exact Unicode.sigmasAgree_of_not_mem hmem
  rw [check_text_string]
  exact containsTerm_of_occursFolded hw (occursFolded_of_sigmasAgree hs hagree)

/-- At the start of a text a capital sigma ends no word. -/
theorem check_verbatim_alternate :
    ((text (.string "sum")).check (.text "Σx") ⟨[("sum", ["Σ"])]⟩).outcome = true := by
  have hlookup : "Σ" ∈ (⟨[("sum", ["Σ"])]⟩ : Synonyms).lookup "sum" := by
    simp [Synonyms.lookup, Entries.get?]
  have hs : "Σx".toList = [] ++ ("Σ".toList ++ ['x']) := rfl
  have hsigma : SigmasAgree [].reverse "Σ".toList ['x'] := by
    intro u v h
    cases u with
    | nil => exact (Unicode.endsWord_nil _).trans (Unicode.endsWord_nil _).symm
    | cons c u => simp at h
  exact check_verbatim (.inr hlookup) hs fun _ => hsigma

/-- The sigma at the end of the text is a final one, that of the term is not. -/
theorem check_verbatim_final_sigma :
    "ΑΣ".toList = ['Α'] ++ ("Σ".toList ++ []) ∧
      ((text (.string "Σ")).check (.text "ΑΣ") .empty).outcome = false := by
  have hcased : Unicode.meetsCased ['Α'] = true := by
    rw [Unicode.meetsCased, Unicode.not_caseIgnorable_alpha, Unicode.cased_alpha]
    rfl
  have hterm : Unicode.lowercase "Σ".toList = ['σ'] := rfl
  have hs : Unicode.lowercase "ΑΣ".toList = ['α', 'ς'] := by
    have hchars : "ΑΣ".toList = ['Α', 'Σ'] := rfl
    rw [hchars, Unicode.lowercase, Unicode.lowercaseAfter, if_neg (by decide),
      Unicode.lowercaseChar_alpha, Unicode.lowercaseAfter, if_pos rfl, hcased]
    rfl
  refine ⟨rfl, ?_⟩
  rw [check_text_string, containsTerm_empty, occursFolded, hterm, hs]
  rfl

end Filter

end RecordFilter
