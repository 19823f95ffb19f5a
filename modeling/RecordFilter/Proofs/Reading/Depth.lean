import RecordFilter.Proofs.Checking.Outcomes
import RecordFilter.Proofs.Reading.Groups

/-!
# The nesting limit

Parentheses around a closed text change nothing as long as every bracket fits below the limit. One
more and the group is the filter that nothing matches; it takes the rest of the text, so it comes
back through all the groups around it as their only term, whatever is written after it.
-/

namespace RecordFilter.Filter

/-- A text in pairs of parentheses. -/
def nested : Nat → String → String
  | 0, a => a
  | k + 1, a => "(" ++ nested k a ++ ")"

/-- Opening parentheses, each after its own gap, and the text after the last of them. -/
def opened : List String → String → String
  | [], s => s
  | gap :: gaps, s => gap ++ "(" ++ opened gaps s

variable {a : String} {depth : Nat} {t : List Char} {gaps : List String}

/-! ## Below the limit -/

theorem reads_nested (ha : unparsed (a ++ ")") = 1) (k : Nat)
    (hd : depth + k + openings a.toList ≤ maxNesting) (ht : Resumes ')' t) :
    ReadsExpression depth none [] ((nested k a).toList ++ t) (parse a) t := by
  induction k generalizing depth t with
  | zero => exact reads_closed ha hd ht
  | succ k ih =>
    have htext : (nested (k + 1) a).toList ++ t = '(' :: ((nested k a).toList ++ ')' :: t) := by
      simp [nested]
    have hinner : ReadsExpression (depth + 1) none [] ((nested k a).toList ++ ')' :: t) (parse a)
        (')' :: t) := ih (by omega) resumes_cons
    have hend : ReadsExpression depth none [parse a] t (parse a) t :=
      readsExpression_at_stop isStop_close ht (skipSpace_at_stop isStop_close ht) _ _ _
    rw [htext]
    exact .group_append (by omega) hinner hend

theorem read_nested (ha : unparsed (a ++ ")") = 1) {k : Nat}
    (hk : k + openings a.toList ≤ maxNesting) : read (nested k a) = (parse a, []) := by
  have hrun : ReadsExpression 0 none [] ((nested k a).toList ++ []) (parse a) [] :=
    reads_nested ha k (by omega) resumes_nil
  rw [List.append_nil] at hrun
  exact hrun.expression_eq

/-! ## Past the limit -/

/-- The group past the limit leaves nothing to read, and a group with one term is that term: so
each group around it is unmatchable and leaves nothing, too. -/
theorem reads_opened (hgaps : ∀ gap ∈ gaps, ∀ c ∈ gap.toList, isSpace c) (s : String)
    (hle : depth ≤ maxNesting) (hlt : maxNesting < depth + gaps.length) (op : Option Connective)
    (terms : List Filter) :
    ReadsExpression depth op terms (opened gaps s).toList
      (ofTerms op (unmatchable :: terms).reverse) [] := by
  induction gaps generalizing depth op terms with
  | nil =>
    rw [List.length_nil] at hlt
    omega
  | cons gap gaps ih =>
    have htext : (opened (gap :: gaps) s).toList = gap.toList ++ '(' :: (opened gaps s).toList := by
      simp [opened]
    rw [htext]
    refine ReadsExpression.spaces ?_ (hgaps gap (by simp))
    have hparen : skipSpace ('(' :: (opened gaps s).toList) = '(' :: (opened gaps s).toList :=
      skipSpace_cons rfl
    rcases hle.eq_or_lt with rfl | hd
    · exact .tooDeep hparen le_rfl
    · have hinner := ih (fun g hg => hgaps g (List.mem_cons_of_mem gap hg)) hd
        (by rw [List.length_cons] at hlt; omega) none []
      exact .group hparen hd hinner (.blank rfl)

theorem read_opened (hgaps : ∀ gap ∈ gaps, ∀ c ∈ gap.toList, isSpace c)
    (hlt : maxNesting < gaps.length) (s : String) : read (opened gaps s) = (unmatchable, []) :=
  (reads_opened hgaps s (Nat.zero_le _) (by omega) none []).expression_eq

theorem parse_group_opened (ha : Closed a) (hgaps : ∀ gap ∈ gaps, ∀ c ∈ gap.toList, isSpace c)
    (hlt : maxNesting < gaps.length) (s : String) {sep : String} {op : Connective}
    (hsep : sep.toList = ')' :: ([' '] ++ (op.text.toList ++ [' ']))) :
    parse ("(" ++ a ++ sep ++ opened gaps s) = joined op [parse a, unmatchable] := by
  have htext : ("(" ++ a ++ sep ++ opened gaps s).toList =
      '(' :: (a.toList ++
        ')' :: ([' '] ++ (op.text.toList ++ ([' '] ++ (opened gaps s).toList)))) := by
    simp [hsep]
  have hspace : ∀ c ∈ [' '], isSpace c := by simp [isSpace]
  have hopened := reads_opened hgaps s (Nat.zero_le _) (by omega) (some op) [parse a]
  have hkeyword : ReadsExpression 0 none [parse a] _ _ _ :=
    (hopened.spaces hspace).keyword_append (isKeyword_text op)
  have hrun := (hkeyword.spaces hspace).closed_group ha.unparsed_close
    (Nat.add_le_add_left ha.openings_le 1)
  rw [parse, read, htext, hrun.expression_eq]
  rfl

/-- The limit is exact, and a group past it is never true: with `and` no subject matches, with
`or` those that the other term matches. -/
theorem parse_nesting_limit :
    (∀ k a, unparsed (a ++ ")") = 1 → k + openings a.toList ≤ 128 →
        parse (nested k a) = parse a ∧ unparsed (nested k a) = 0) ∧
      ∀ gaps s, 129 ≤ gaps.length → (∀ gap ∈ gaps, ∀ c ∈ gap.toList, isSpace c) →
        parse (opened gaps s) = unmatchable ∧ unparsed (opened gaps s) = 0 ∧
          ∀ a, Closed a → ∀ subject synonyms,
            ((parse ("(" ++ a ++ ") and " ++ opened gaps s)).check subject synonyms).outcome =
                false ∧
              ((parse ("(" ++ a ++ ") or " ++ opened gaps s)).check subject synonyms).outcome =
                ((parse a).check subject synonyms).outcome := by
  refine ⟨?_, ?_⟩
  · intro k a ha hk
    have hread := read_nested ha hk
    exact ⟨by rw [parse, hread], by rw [unparsed, hread]; rfl⟩
  · intro gaps s hlt hgaps
    have hread := read_opened hgaps hlt s
    refine ⟨by rw [parse, hread], by rw [unparsed, hread]; rfl, ?_⟩
    intro a ha subject synonyms
    have hsepAnd : ") and ".toList = ')' :: ([' '] ++ (Connective.and.text.toList ++ [' '])) := rfl
    have hsepOr : ") or ".toList = ')' :: ([' '] ++ (Connective.or.text.toList ++ [' '])) := rfl
    have hand := parse_group_opened ha hgaps hlt s hsepAnd
    have hor := parse_group_opened ha hgaps hlt s hsepOr
    have hnever : (unmatchable.check subject synonyms).outcome = false := by
      rw [unmatchable, check_joined_outcome]
      rfl
    rw [hand, hor, check_joined_outcome, check_joined_outcome]
    simp [Connective.combine, hnever]

/-- A list without its end takes up one level of the limit. With 127 pairs of parentheses it fits;
after 129 of them, spaced out, nothing is read, not even an unfinished string. -/
theorem parse_nesting_limit_open_list :
    Closed "c = [\"d\"" ∧
      parse (nested 127 "c = [\"d\"") = parse "c = [\"d\"" ∧
      parse (opened (List.replicate 129 " ") "'x") = unmatchable ∧
      ∀ subject synonyms,
        ((parse ("(" ++ "c = [\"d\"" ++ ") or " ++ opened (List.replicate 129 " ") "'x")).check
            subject synonyms).outcome =
          ((parse "c = [\"d\"").check subject synonyms).outcome := by
  have hclosed := closed_open_list
  have hgaps : ∀ gap ∈ List.replicate 129 " ", ∀ c ∈ gap.toList, isSpace c := by
    intro gap hgap
    rw [List.eq_of_mem_replicate hgap]
    simp [isSpace]
  have hpast := parse_nesting_limit.2 (List.replicate 129 " ") "'x" (by simp) hgaps
  have hbelow := parse_nesting_limit.1 127 _ hclosed.unparsed_close (by decide)
  exact ⟨hclosed, hbelow.1, hpast.1, fun subject synonyms =>
    (hpast.2.2 _ hclosed subject synonyms).2⟩

end RecordFilter.Filter
