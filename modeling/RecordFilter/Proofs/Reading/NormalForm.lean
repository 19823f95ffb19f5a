import RecordFilter.Proofs.Numbers.Rounding
import RecordFilter.Proofs.Reading.Invariants

/-!
# The filters that reading gives

Every filter that is read is in a normal form: its literals can be written, its fields are fields,
no joined filter has a single term, and joined filters and lists together nest no deeper than the
limit lets them. Past the limit there is only the filter that nothing matches.
-/

namespace RecordFilter

namespace Literal

/-- The literals in a literal, itself included. -/
inductive Within (u : Literal) : Literal → Prop
  | self : Within u u
  | item (hv : v ∈ items) (h : Within u v) : Within u (list items)

/-- Whether a literal that is no list can be written in a filter. -/
def IsWritten : Literal → Prop
  | string s => ¬ ('"' ∈ s.toList ∧ '\'' ∈ s.toList)
  | number x => x.isNaN = false
  | pattern p => '/' ∉ p.source.toList ∧ ∀ c ∈ p.flags.toList, Filter.isFlagChar c
  | _ => True

mutual

/-- How deep lists nest in a literal. -/
def nesting : Literal → Nat
  | list items => itemsNesting items + 1
  | _ => 0

def itemsNesting : List Literal → Nat
  | [] => 0
  | v :: items => max v.nesting (itemsNesting items)

end

/-- The literals that can be read at a depth. -/
structure IsNormal (depth : Nat) (v : Literal) : Prop where
  written : ∀ u, Within u v → u.IsWritten
  nesting_le : depth + v.nesting ≤ Filter.maxNesting

variable {depth n : Nat} {v : Literal} {items : List Literal}

theorem IsNormal.mono (h : v.IsNormal (depth + 1)) : v.IsNormal depth :=
  ⟨h.written, by have := h.nesting_le; omega⟩

theorem isNormal_of_nesting_eq_zero (h0 : v.nesting = 0) (hv : v.IsWritten)
    (hd : depth ≤ Filter.maxNesting) : v.IsNormal depth := by
  constructor
  · intro u hu
    cases hu with
    | self => exact hv
    | item => simp [nesting] at h0
  · omega

theorem itemsNesting_le (h : ∀ v ∈ items, v.nesting ≤ n) : itemsNesting items ≤ n := by
  induction items with
  | nil => exact Nat.zero_le n
  | cons v items ih =>
    rw [itemsNesting]
    exact Nat.max_le.mpr ⟨h v (by simp), ih fun u hu => h u (by simp [hu])⟩

theorem isNormal_list (hd : depth < Filter.maxNesting)
    (h : ∀ v ∈ items, v.IsNormal (depth + 1)) : (list items).IsNormal depth := by
  constructor
  · intro u hu
    cases hu with
    | self => trivial
    | item hv hu => exact (h _ hv).written u hu
  · have hn : itemsNesting items ≤ Filter.maxNesting - (depth + 1) := by
      apply itemsNesting_le
      intro v hv
      have := (h v hv).nesting_le
      omega
    rw [nesting]
    omega

end Literal

namespace Filter

/-- The nodes of a filter, each with the number of joined filters above it. -/
inductive Node (g : Filter) : Nat → Filter → Prop
  | root : Node g 0 g
  | term (ht : t ∈ terms) (h : Node g levels t) : Node g (levels + 1) (joined op terms)

/-- Whether a node may stand under the given number of joined filters. -/
def IsNormalNode (levels : Nat) : Filter → Prop
  | joined op terms =>
    terms.length ≠ 1 ∧
      (levels ≤ maxNesting ∨ levels = maxNesting + 1 ∧ joined op terms = unmatchable)
  | text v => v.IsNormal (levels - 1)
  | comparison field _ v => IsField field.toList ∧ v.IsNormal (levels - 1)

def IsNormalUnder (outer : Nat) (f : Filter) : Prop :=
  ∀ levels g, Node g levels f → IsNormalNode (outer + levels) g

/-- The normal form of filters. -/
def IsNormal (f : Filter) : Prop := IsNormalUnder 0 f

variable {c : Char} {s r rest : List Char} {depth n : Nat} {f : Filter}
variable {terms : List Filter} {op : Option Connective}

/-! ## Nodes -/

theorem IsNormalNode.mono (h : IsNormalNode (n + 1) f) : IsNormalNode n f := by
  cases f with
  | joined op terms =>
    obtain ⟨hl, hn⟩ := h
    refine ⟨hl, .inl ?_⟩
    rcases hn with hn | ⟨hn, -⟩ <;> omega
  | text v =>
    cases n with
    | zero => exact h
    | succ n => exact Literal.IsNormal.mono h
  | comparison field o v =>
    cases n with
    | zero => exact h
    | succ n => exact ⟨h.1, h.2.mono⟩

theorem IsNormalUnder.mono (h : IsNormalUnder (n + 1) f) : IsNormalUnder n f := by
  intro levels g hg
  have hn := h levels g hg
  rw [Nat.add_right_comm] at hn
  exact hn.mono

theorem isNormalUnder_text {v : Literal} (hv : v.IsNormal depth) :
    IsNormalUnder (depth + 1) (text v) := by
  intro levels g hg
  cases hg
  exact hv

theorem isNormalUnder_comparison {field : String} {o : Operator} {v : Literal}
    (hf : IsField field.toList) (hv : v.IsNormal depth) :
    IsNormalUnder (depth + 1) (comparison field o v) := by
  intro levels g hg
  cases hg
  exact ⟨hf, hv⟩

/-- Past the limit stands the filter that nothing matches. -/
theorem isNormalUnder_unmatchable : IsNormalUnder (maxNesting + 1) unmatchable := by
  intro levels g hg
  cases hg with
  | root => exact ⟨by simp, .inr ⟨rfl, rfl⟩⟩
  | term ht => cases ht

theorem isNormalUnder_joined {o : Connective} (hd : depth ≤ maxNesting) (hl : terms.length ≠ 1)
    (h : ∀ t ∈ terms, IsNormalUnder (depth + 1) t) : IsNormalUnder depth (joined o terms) := by
  intro levels g hg
  cases hg with
  | root => exact ⟨hl, .inl hd⟩
  | term ht hg =>
    have hn := h _ ht _ g hg
    rwa [Nat.add_right_comm] at hn

/-- A single term takes the place of its expression, one level higher. -/
theorem isNormalUnder_ofTerms (hd : depth ≤ maxNesting)
    (h : ∀ t ∈ terms, IsNormalUnder (depth + 1) t) : IsNormalUnder depth (ofTerms op terms) := by
  unfold ofTerms
  split
  · exact (h _ (by simp)).mono
  · next hne =>
    refine isNormalUnder_joined hd ?_ h
    intro hl
    obtain ⟨t, ht⟩ := List.length_eq_one_iff.mp hl
    exact hne t ht

/-! ## Literals -/

theorem isNaN_ofUnsigned? {x : Binary64} {negative : Bool}
    (h : Binary64.ofUnsigned? negative s = some x) : x.isNaN = false := by
  simp only [Binary64.ofUnsigned?] at h
  split at h
  · split_ifs at h
    cases h
    exact Binary64.isNaN_ofRatio ..
  · split_ifs at h
    cases h
    exact Binary64.isNaN_ofRatio ..
  · cases h

theorem isNaN_ofPositional? {x : Binary64} (h : Binary64.ofPositional? s = some x) :
    x.isNaN = false := by
  unfold Binary64.ofPositional? at h
  split at h
  · exact isNaN_ofUnsigned? h
  · exact isNaN_ofUnsigned? h

theorem ReadsLeaf.nesting_eq_zero {v : Literal} (h : ReadsLeaf s v) : v.nesting = 0 := by
  cases h with
  | constant hv => rcases mem_constants hv with ⟨-, rfl⟩ | ⟨-, rfl⟩ | ⟨-, rfl⟩ <;> rfl
  | _ => rfl

theorem ReadsLeaf.isWritten {v : Literal} (h : ReadsLeaf s v) : v.IsWritten := by
  cases h with
  | @string quote body hq hb =>
    rintro ⟨hd, hs⟩
    rw [String.toList_ofList] at hd hs
    rcases hq with rfl | rfl
    · exact hb hd
    · exact hb hs
  | pattern hb hf =>
    constructor
    · rwa [String.toList_ofList]
    · rwa [String.toList_ofList]
  | number _ _ hx => exact isNaN_ofPositional? hx
  | constant hv => rcases mem_constants hv with ⟨-, rfl⟩ | ⟨-, rfl⟩ | ⟨-, rfl⟩ <;> trivial

theorem ReadsValue.isNormal {v : Option Literal} (h : ReadsValue depth s v rest)
    (hd : depth ≤ maxNesting) : ∀ u ∈ v, u.IsNormal depth := by
  have hleaf : ∀ d v, ReadsLeaf s v → d ≤ maxNesting → v.IsNormal d := by
    intro d v hv hd
    exact Literal.isNormal_of_nesting_eq_zero hv.nesting_eq_zero hv.isWritten hd
  have hlist : ∀ d items, d < maxNesting →
      (∀ v ∈ items, d + 1 ≤ maxNesting → v.IsNormal (d + 1)) →
      d ≤ maxNesting → (Literal.list items).IsNormal d := by
    intro d items hlt hitems _
    exact Literal.isNormal_list hlt fun v hv => hitems v hv hlt
  intro u hu
  exact h.forall_literal hleaf hlist List.suffix_rfl u hu hd

/-! ## Terms and expressions -/

/-- No keyword stands at the start of a term, so none starts its field. -/
theorem isField_frontWord (hc : isSpace c = false) (hk : keyword? (c :: r) = none)
    (hf : isNoField (frontWord (c :: r)) = false) : IsField (frontWord (c :: r)) := by
  have hprefix : frontWord (c :: r) <+: c :: r := by
    rw [frontWord, skipSpace_cons hc]
    exact List.takeWhile_prefix _
  have hne : frontWord (c :: r) ≠ [] ∧ frontWord (c :: r) ≠ ['0'] := by
    simpa [isNoField] using hf
  refine ⟨hne.1, fun a ha => List.mem_takeWhile_imp ha, hne.2, fun w k hw hp => ?_⟩
  exact keyword?_eq_none_iff.mp hk w k hw (hp.trans hprefix)

theorem ReadsTerm.isNormal {t : Filter} (h : ReadsTerm depth (c :: r) (some t) rest)
    (hd : depth ≤ maxNesting) (hc : isSpace c = false) (hk : keyword? (c :: r) = none) :
    IsNormalUnder (depth + 1) t := by
  generalize ht : some t = u at h
  cases h with
  | noOperator => cases ht
  | text _ hv =>
    obtain ⟨v, rfl, rfl⟩ := Option.map_eq_some_iff.mp ht.symm
    exact isNormalUnder_text (hv.isNormal hd v rfl)
  | comparison hf _ hv =>
    obtain ⟨v, rfl, rfl⟩ := Option.map_eq_some_iff.mp ht.symm
    refine isNormalUnder_comparison ?_ (hv.isNormal hd v rfl)
    rw [String.toList_ofList]
    exact isField_frontWord hc hk hf

theorem ReadsExpression.isNormal (h : ReadsExpression depth op terms s f rest)
    (hd : depth ≤ maxNesting) (ht : ∀ t ∈ terms, IsNormalUnder (depth + 1) t) :
    IsNormalUnder depth f := by
  refine h.forall_filter ?_ isNormalUnder_unmatchable ?_ hd List.suffix_rfl ht
  · intro depth c r t rest hd hc hk _ ht
    exact ht.isNormal hd hc hk
  · intro depth op terms hd ht
    exact isNormalUnder_ofTerms hd ht

/-- Whatever text is read, the filter is in normal form. -/
theorem parse_isNormal (text : String) : IsNormal (parse text) :=
  (reads_read text).isNormal (Nat.zero_le _) (by simp)

end Filter

end RecordFilter
