import RecordFilter.Proofs.Reading.Runs

/-!
# Invariants of reading

Two principles for facts about everything that is read. A fact about literals holds if it holds of
each literal that is read in one piece, and of a list as soon as it holds of the items. A fact about
filters holds if it holds of each term, and of an expression as soon as it holds of its terms. Both
follow the depth at which something stands.
-/

namespace RecordFilter.Filter

/-! ## Literals -/

/-- The literals that can be read from a text in one piece, that is, without the lists. -/
inductive ReadsLeaf (s : List Char) : Literal → Prop
  | string (hq : quote = '"' ∨ quote = '\'') (hb : quote ∉ body) :
      ReadsLeaf s (.string (String.ofList body))
  | pattern (hb : '/' ∉ body) (hf : ∀ c ∈ flags, isFlagChar c) :
      ReadsLeaf s (.pattern { source := String.ofList body, flags := String.ofList flags })
  | number (hrun : run <:+: s) (hr : ∀ c ∈ run, isNumberChar c)
      (hx : Binary64.ofPositional? run = some x) : ReadsLeaf s (.number x)
  | constant (hv : (w, v) ∈ constants) : ReadsLeaf s v

variable {quote : Char} {s r rest whole : List Char} {depth : Nat}

theorem not_mem_takeWhile_ne (quote : Char) (s : List Char) :
    quote ∉ s.takeWhile (· != quote) := by
  intro h
  simpa using List.mem_takeWhile_imp h

section Leaves

variable {v : Literal}

theorem readsLeaf_quoted (hq : quote = '"' ∨ quote = '\'') (h : quoted quote r = (some v, rest)) :
    ReadsLeaf s v := by
  unfold quoted at h
  split at h
  · cases h
  · cases h
    exact .string hq (not_mem_takeWhile_ne quote r)

theorem readsLeaf_patternLiteral (h : patternLiteral r = (some v, rest)) : ReadsLeaf s v := by
  unfold patternLiteral at h
  split at h
  · cases h
  · cases h
    exact .pattern (not_mem_takeWhile_ne '/' r) fun c hc => List.mem_takeWhile_imp hc

theorem readsLeaf_numberLiteral (h : numberLiteral r = (some v, rest)) (hr : r <:+ s) :
    ReadsLeaf s v := by
  obtain ⟨x, hx, rfl⟩ := Option.map_eq_some_iff.mp (Prod.mk.inj h).1
  have hrun : r.takeWhile isNumberChar <:+: s :=
    (List.takeWhile_prefix _).isInfix.trans hr.isInfix
  exact .number hrun (fun c hc => List.mem_takeWhile_imp hc) hx

theorem readsLeaf_constant (h : constant r = (some v, rest)) : ReadsLeaf s v := by
  unfold constant at h
  split at h
  · next u rest hword =>
    cases h
    obtain ⟨w, hmem, -⟩ := word?_eq_some hword
    exact .constant hmem
  · cases h

end Leaves

mutual

/-- What holds of all literals read in one piece, and of lists by their items, holds of every
literal that is read from a part of the text. -/
theorem ReadsValue.forall_literal {P : Nat → Literal → Prop}
    (hleaf : ∀ depth v, ReadsLeaf whole v → P depth v)
    (hlist : ∀ depth items, depth < maxNesting → (∀ v ∈ items, P (depth + 1) v) →
      P depth (.list items)) {depth s v rest} (h : ReadsValue depth s v rest) :
    s <:+ whole → ∀ u ∈ v, P depth u :=
  match h with
  | .blank _ => fun _ _ hu => by cases hu
  | .quoted _ hc hv => by
    rintro - u rfl
    exact hleaf _ _ (readsLeaf_quoted hc hv)
  | .pattern _ hv => by
    rintro - u rfl
    exact hleaf _ _ (readsLeaf_patternLiteral hv)
  | .list hs hd hi => by
    have ih := hi.forall_literal hleaf hlist
    intro hwhole
    exact ih _ rfl hd ((tail_suffix_of_skipSpace hs).trans hwhole) fun _ hu => by cases hu
  | .number hs _ hv => by
    rintro hwhole u rfl
    exact hleaf _ _ (readsLeaf_numberLiteral hv ((suffix_of_skipSpace hs).trans hwhole))
  | .constant _ _ _ _ hv => by
    rintro - u rfl
    exact hleaf _ _ (readsLeaf_constant hv)
termination_by structural h

theorem ReadsItems.forall_literal {P : Nat → Literal → Prop}
    (hleaf : ∀ depth v, ReadsLeaf whole v → P depth v)
    (hlist : ∀ depth items, depth < maxNesting → (∀ v ∈ items, P (depth + 1) v) →
      P depth (.list items)) {depth acc s v rest} (h : ReadsItems depth acc s v rest) :
    ∀ d, depth = d + 1 → d < maxNesting → s <:+ whole → (∀ u ∈ acc, P (d + 1) u) →
      ∀ u ∈ v, P d u :=
  match h with
  | .blank _ => fun _ _ _ _ _ _ hu => by cases hu
  | .close _ => by
    rintro d - hd - hacc u hu
    cases hu
    exact hlist d _ hd fun w hw => hacc w (List.mem_reverse.mp hw)
  | .comma hs hi => by
    have ih := hi.forall_literal hleaf hlist
    intro d hdepth hd hwhole
    exact ih d hdepth hd ((tail_suffix_of_skipSpace hs).trans hwhole)
  | .item hs _ hv _ hi => by
    have ihv := hv.forall_literal hleaf hlist
    have ihi := hi.forall_literal hleaf hlist
    rintro d rfl hd hwhole hacc
    have hstart := (suffix_of_skipSpace hs).trans hwhole
    refine ihi d rfl hd (hv.suffix.trans hstart) fun w hw => ?_
    rcases List.mem_append.mp hw with hw | hw
    · exact ihv hstart w (Option.mem_toList.mp hw)
    · exact hacc w hw
  | .stuck _ _ _ _ => fun _ _ _ _ _ _ hu => by cases hu
termination_by structural h

end

/-! ## Filters -/

section Filters

variable {f : Filter} {op : Option Connective} {terms : List Filter} {P : Nat → Filter → Prop}

/-- What holds of all terms, and of expressions by their terms, holds of every filter that is read
from a part of the text. Terms stand one level below their expression. -/
theorem ReadsExpression.forall_filter
    (hterm : ∀ depth c r t rest, depth ≤ maxNesting → isSpace c = false →
      keyword? (c :: r) = none → c :: r <:+ whole → ReadsTerm depth (c :: r) (some t) rest →
      P (depth + 1) t)
    (hunmatchable : P (maxNesting + 1) unmatchable)
    (hterms : ∀ depth op terms, depth ≤ maxNesting → (∀ t ∈ terms, P (depth + 1) t) →
      P depth (ofTerms op terms))
    (h : ReadsExpression depth op terms s f rest) (hd : depth ≤ maxNesting) (hs : s <:+ whole)
    (ht : ∀ t ∈ terms, P (depth + 1) t) : P depth f := by
  induction h with
  | blank => exact hterms _ _ _ hd (by simpa using ht)
  | tooDeep _ hm =>
    obtain rfl := Nat.le_antisymm hd hm
    have hall := List.forall_mem_cons.mpr ⟨hunmatchable, ht⟩
    exact hterms _ _ _ hd fun t ht => hall t (List.mem_reverse.mp ht)
  | group hskip hlt hg _ ihg ihr =>
    have hinner := (tail_suffix_of_skipSpace hskip).trans hs
    have hgroup := ihg hlt hinner (by simp)
    have hafter := ((closeGroup_suffix _).trans hg.suffix).trans hinner
    exact ihr hd hafter (List.forall_mem_cons.mpr ⟨hgroup, ht⟩)
  | keyword hskip _ hk _ ihr =>
    exact ihr hd ((keyword?_suffix hk).trans ((suffix_of_skipSpace hskip).trans hs)) ht
  | term hskip _ hk hread _ ihr =>
    have hstart := (suffix_of_skipSpace hskip).trans hs
    have hfirst := hterm _ _ _ _ _ hd (isSpace_of_skipSpace hskip) hk hstart hread
    exact ihr hd (hread.suffix.trans hstart) (List.forall_mem_cons.mpr ⟨hfirst, ht⟩)
  | stuck => exact hterms _ _ _ hd (by simpa using ht)

/-- The principle for the filter of a text. -/
theorem forall_parse (w : String)
    (hterm : ∀ depth c r t rest, depth ≤ maxNesting → isSpace c = false →
      keyword? (c :: r) = none → c :: r <:+ w.toList → ReadsTerm depth (c :: r) (some t) rest →
      P (depth + 1) t)
    (hunmatchable : P (maxNesting + 1) unmatchable)
    (hterms : ∀ depth op terms, depth ≤ maxNesting → (∀ t ∈ terms, P (depth + 1) t) →
      P depth (ofTerms op terms)) : P 0 (parse w) :=
  (reads_read w).forall_filter hterm hunmatchable hterms (Nat.zero_le _) List.suffix_rfl (by simp)

end Filters

end RecordFilter.Filter
