import RecordFilter.Proofs.Reading.NormalForm

/-!
# Where numbers come from

Each number in a filter, also one inside of a list, is the number nearest to a run of number
characters that stands in the text of the filter.
-/

namespace RecordFilter.Filter

open Literal (Within)

variable {s rest : List Char} {depth : Nat} {op : Option Connective} {v : Literal}
variable {terms : List Filter} {x : Binary64}

/-- The number is the nearest one to a run of number characters in the text. -/
def IsRead (s : List Char) (x : Binary64) : Prop :=
  ∃ run, run <:+: s ∧ (∀ c ∈ run, isNumberChar c) ∧ Binary64.ofPositional? run = some x

theorem IsRead.of_suffix (h : IsRead rest x) (hs : rest <:+ s) : IsRead s x := by
  obtain ⟨run, hrun, hread⟩ := h
  exact ⟨run, hrun.trans hs.isInfix, hread⟩

/-- All numbers in a literal are read from the text. -/
def NumbersRead (s : List Char) (v : Literal) : Prop := ∀ x, Within (.number x) v → IsRead s x

theorem NumbersRead.of_suffix (h : NumbersRead rest v) (hs : rest <:+ s) : NumbersRead s v :=
  fun x hx => (h x hx).of_suffix hs

/-! ## Literals -/

theorem ReadsLeaf.numbersRead (h : ReadsLeaf s v) : NumbersRead s v := by
  intro x hx
  cases h with
  | number hrun hr hy =>
    cases hx
    exact ⟨_, hrun, hr, hy⟩
  | constant hv => rcases mem_constants hv with ⟨-, rfl⟩ | ⟨-, rfl⟩ | ⟨-, rfl⟩ <;> cases hx
  | _ => cases hx

theorem ReadsValue.numbersRead {v : Option Literal} (h : ReadsValue depth s v rest) :
    ∀ u ∈ v, NumbersRead s u := by
  refine h.forall_literal (P := fun _ u => NumbersRead s u) ?_ ?_ List.suffix_rfl
  · intro _ v hv
    exact hv.numbersRead
  · intro _ items _ hitems x hx
    cases hx with
    | item hv hx => exact hitems _ hv x hx

/-! ## Filters -/

/-- The literal that a filter is about, if it is not joined of others. -/
def literal? : Filter → Option Literal
  | joined _ _ => none
  | text v => some v
  | comparison _ _ v => some v

/-- All numbers in a filter are read from the text. -/
def AllNumbersRead (s : List Char) (f : Filter) : Prop :=
  ∀ levels g, Node g levels f → ∀ v ∈ g.literal?, NumbersRead s v

theorem allNumbersRead_joined {o : Connective} (h : ∀ t ∈ terms, AllNumbersRead s t) :
    AllNumbersRead s (joined o terms) := by
  intro levels g hg v hv
  cases hg with
  | root => cases hv
  | term ht hg => exact h _ ht _ g hg v hv

theorem allNumbersRead_ofTerms (h : ∀ t ∈ terms, AllNumbersRead s t) :
    AllNumbersRead s (ofTerms op terms) := by
  unfold ofTerms
  split
  · exact h _ (by simp)
  · exact allNumbersRead_joined h

theorem ReadsTerm.allNumbersRead {t : Filter} (h : ReadsTerm depth s (some t) rest) :
    AllNumbersRead s t := by
  generalize ht : some t = u at h
  cases h with
  | noOperator => cases ht
  | text _ hv =>
    obtain ⟨v, rfl, rfl⟩ := Option.map_eq_some_iff.mp ht.symm
    intro levels g hg w hw
    cases hg
    cases hw
    exact (hv.numbersRead v rfl).of_suffix (afterWord_suffix s)
  | comparison _ ho hv =>
    obtain ⟨v, rfl, rfl⟩ := Option.map_eq_some_iff.mp ht.symm
    intro levels g hg w hw
    cases hg
    cases hw
    exact (hv.numbersRead v rfl).of_suffix (operator_suffix ho)

/-- The numbers of a filter are read from its text. -/
theorem allNumbersRead_parse (w : String) : AllNumbersRead w.toList (parse w) := by
  refine forall_parse (P := fun _ f => AllNumbersRead w.toList f) w ?_
    (allNumbersRead_joined (by simp)) ?_
  · intro _ _ _ _ _ _ _ _ hs ht levels g hg v hv
    exact (ht.allNumbersRead levels g hg v hv).of_suffix hs
  · intro _ _ _ _ ht
    exact allNumbersRead_ofTerms ht

end RecordFilter.Filter
