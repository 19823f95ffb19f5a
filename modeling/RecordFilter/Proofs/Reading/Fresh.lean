import RecordFilter.Proofs.Checking.Outcomes
import RecordFilter.Proofs.Reading.NormalForm

/-!
# Filters as they are read

Reading compiles nothing: in a filter that was just read no pattern keeps an outcome. No number that
is read is a NaN, so the filter equals itself.
-/

namespace RecordFilter

namespace Literal

theorem same_self {v : Literal} (h : ∀ u, Within u v → u.IsWritten) : v.same v := by
  induction v using induct_items with
  | list items ih =>
    rw [same, sameItems_eq_isEqv]
    exact isEqv_self fun v hv => ih v hv fun u hu => h u (.item hv hu)
  | number x =>
    have hx : x.isNaN = false := h _ .self
    simp [same, Binary64.sameValue, hx]
  | pattern p => simp [same, PatternLiteral.same]
  | _ => simp [same]

end Literal

namespace Filter

variable {depth : Nat} {s rest : List Char} {terms : List Filter} {op : Option Connective}

theorem same_self {n : Nat} {f : Filter} (h : IsNormalUnder n f) : f.same f := by
  induction f using induct_terms generalizing n with
  | joined op terms ih =>
    have hterms : sameTerms terms terms := by
      rw [sameTerms_eq_isEqv]
      apply isEqv_self
      intro t ht
      apply ih t ht (n := n + 1)
      intro levels g hg
      have hn := h (levels + 1) g (.term ht hg)
      rwa [Nat.add_comm levels, ← Nat.add_assoc] at hn
    rw [same, hterms]
    simp
  | text v => exact Literal.same_self (h 0 _ .root).written
  | comparison field o v =>
    have hv : v.same v := Literal.same_self (h 0 _ .root).2.written
    rw [same, hv]
    simp

theorem ReadsLeaf.forget_eq {v : Literal} (h : ReadsLeaf s v) : v.forget = v := by
  cases h with
  | constant hv => rcases mem_constants hv with ⟨-, rfl⟩ | ⟨-, rfl⟩ | ⟨-, rfl⟩ <;> rfl
  | _ => rfl

theorem ReadsValue.forget_eq {v : Option Literal} (h : ReadsValue depth s v rest) :
    ∀ u ∈ v, u.forget = u := by
  refine h.forall_literal (P := fun _ u => u.forget = u) ?_ ?_ List.suffix_rfl
  · intro _ v hv
    exact hv.forget_eq
  · intro _ items _ hitems
    have hsame : items.map Literal.forget = items.map id := List.map_congr_left hitems
    rw [Literal.forget, Literal.forgetItems_eq_map, hsame, List.map_id]

theorem ReadsTerm.forget_eq {t : Filter} (h : ReadsTerm depth s (some t) rest) : t.forget = t := by
  generalize ht : some t = u at h
  cases h with
  | noOperator => cases ht
  | text _ hv =>
    obtain ⟨v, rfl, rfl⟩ := Option.map_eq_some_iff.mp ht.symm
    rw [forget, hv.forget_eq v rfl]
  | comparison _ _ hv =>
    obtain ⟨v, rfl, rfl⟩ := Option.map_eq_some_iff.mp ht.symm
    rw [forget, hv.forget_eq v rfl]

theorem forget_ofTerms (h : ∀ t ∈ terms, t.forget = t) :
    (ofTerms op terms).forget = ofTerms op terms := by
  unfold ofTerms
  split
  · exact h _ (by simp)
  · have hterms : terms.map forget = terms.map id := List.map_congr_left h
    rw [forget, forgetTerms_eq_map, hterms, List.map_id]

theorem forget_parse (text : String) : (parse text).forget = parse text := by
  refine forall_parse (P := fun _ f => f.forget = f) text ?_ rfl ?_
  · intro _ _ _ _ _ _ _ _ _ ht
    exact ht.forget_eq
  · intro _ _ _ _ ht
    exact forget_ofTerms ht

theorem same_parse (text : String) : (parse text).same (parse text) :=
  same_self ((reads_read text).isNormal (Nat.zero_le _) (by simp))

end Filter

end RecordFilter
