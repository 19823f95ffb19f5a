import RecordFilter.Filter.Checking
import RecordFilter.Proofs.Reading.Truncation

/-!
# Groups

A text is closed if a `)` after it ends the reading there. Such a text reads the same in a group as
on its own, however deep the group stands and whatever comes after it, as long as its brackets fit
below the nesting limit: the depth of a reading matters only to a bracket past the limit.
-/

namespace RecordFilter.Filter

/-- The brackets that take a reading one level deeper. -/
def isOpening (c : Char) : Bool := c == '(' || c == '['

/-- How many brackets open in a text, those in strings and patterns included. -/
def openings (s : List Char) : Nat := s.countP isOpening

variable {c : Char} {s t r rest : List Char} {depth : Nat}

/-! ## The depth of a reading -/

theorem openings_le_of_suffix (h : r <:+ s) : openings r ≤ openings s := h.sublist.countP_le

theorem openings_lt_of_skipSpace (h : skipSpace s = c :: r) (hc : isOpening c) :
    openings r < openings s := by
  have := openings_le_of_suffix (suffix_of_skipSpace h)
  rw [openings, List.countP_cons_of_pos hc] at this
  exact this

mutual

theorem ReadsValue.shift {depth s v rest} (h : ReadsValue depth s v rest) :
    ∀ d, depth + openings s ≤ maxNesting → d + openings s ≤ maxNesting → ReadsValue d s v rest :=
  match h with
  | .blank hs => fun _ _ _ => .blank hs
  | .quoted hs hc hv => fun _ _ _ => .quoted hs hc hv
  | .pattern hs hv => fun _ _ _ => .pattern hs hv
  | .list hs hd hi => by
    intro d h1 h2
    have hl := openings_lt_of_skipSpace hs rfl
    exact .list hs (by omega) (hi.shift (d + 1) (by omega) (by omega))
  | .number hs hc hv => fun _ _ _ => .number hs hc hv
  | .constant hs hq hd hc hv => by
    intro d h1 h2
    refine .constant hs hq (fun he => ?_) hc hv
    have hl := openings_lt_of_skipSpace hs (by simp [isOpening, he])
    have := hd he
    omega
termination_by structural h

theorem ReadsItems.shift {depth acc s v rest} (h : ReadsItems depth acc s v rest) :
    ∀ d, depth + openings s ≤ maxNesting → d + openings s ≤ maxNesting →
      ReadsItems d acc s v rest :=
  match h with
  | .blank hs => fun _ _ _ => .blank hs
  | .close hs => fun _ _ _ => .close hs
  | .comma hs hi => by
    intro d h1 h2
    have hl := openings_le_of_suffix (tail_suffix_of_skipSpace hs)
    exact .comma hs (hi.shift d (by omega) (by omega))
  | .item hs hc hv hl hi => by
    intro d h1 h2
    have hv' := openings_le_of_suffix (suffix_of_skipSpace hs)
    have hi' := openings_le_of_suffix hv.suffix
    exact .item hs hc (hv.shift d (by omega) (by omega)) hl (hi.shift d (by omega) (by omega))
  | .stuck hs hc hv hl => by
    intro d h1 h2
    have hv' := openings_le_of_suffix (suffix_of_skipSpace hs)
    exact .stuck hs hc (hv.shift d (by omega) (by omega)) hl
termination_by structural h

end

theorem ReadsTerm.shift {f : Option Filter} {d : Nat} (h : ReadsTerm depth s f rest)
    (h1 : depth + openings s ≤ maxNesting) (h2 : d + openings s ≤ maxNesting) :
    ReadsTerm d s f rest := by
  cases h with
  | text hf hv =>
    have := openings_le_of_suffix (afterWord_suffix s)
    exact .text hf (hv.shift d (by omega) (by omega))
  | noOperator hf ho => exact .noOperator hf ho
  | comparison hf ho hv =>
    have := openings_le_of_suffix (operator_suffix ho)
    exact .comparison hf ho (hv.shift d (by omega) (by omega))

theorem ReadsExpression.shift {op : Option Connective} {terms : List Filter} {f : Filter} {d : Nat}
    (h : ReadsExpression depth op terms s f rest) (h1 : depth + openings s ≤ maxNesting)
    (h2 : d + openings s ≤ maxNesting) : ReadsExpression d op terms s f rest := by
  induction h generalizing d with
  | blank hs => exact .blank hs
  | tooDeep hs hd =>
    have := openings_lt_of_skipSpace hs rfl
    omega
  | group hs hd hg hr ihg ihr =>
    have hl := openings_lt_of_skipSpace hs rfl
    have hr' := openings_le_of_suffix ((closeGroup_suffix _).trans hg.suffix)
    exact .group hs (by omega) (ihg (by omega) (by omega)) (ihr (by omega) (by omega))
  | keyword hs hc hk hr ihr =>
    have hl := openings_le_of_suffix ((keyword?_suffix hk).trans (suffix_of_skipSpace hs))
    exact .keyword hs hc hk (ihr (by omega) (by omega))
  | term hs hc hk ht hr ihr =>
    have hs' := openings_le_of_suffix (suffix_of_skipSpace hs)
    have hl := openings_le_of_suffix ht.suffix
    exact .term hs hc hk (ht.shift (by omega) (by omega)) (ihr (by omega) (by omega))
  | stuck hs hc hk ht =>
    have hs' := openings_le_of_suffix (suffix_of_skipSpace hs)
    exact .stuck hs hc hk (ht.shift (by omega) (by omega))

/-! ## Closed texts -/

/-- A `)` after the text is the one thing that is left of it, and the brackets in the text fit into
a group. -/
structure Closed (a : String) : Prop where
  unparsed_close : unparsed (a ++ ")") = 1
  openings_le : openings a.toList ≤ 127

theorem reads_closed {a : String} (ha : unparsed (a ++ ")") = 1)
    (hd : depth + openings a.toList ≤ maxNesting) (ht : Resumes ')' t) :
    ReadsExpression depth none [] (a.toList ++ t) (parse a) t := by
  have hread := read_append_stop isStop_close ha [')'] resumes_cons
  have hrun := readsExpression_iff.mpr hread
  have hcount : openings (a.toList ++ [')']) = openings a.toList := by
    rw [openings, List.countP_append]
    rfl
  have hshift := hrun.shift (d := depth) (by omega) (by omega)
  exact hshift.retext (r := []) isStop_close ht rfl rfl

/-- A closed text in parentheses is one term. -/
theorem ReadsExpression.closed_group {a : String} {op : Option Connective} {terms : List Filter}
    {f : Filter} (ha : unparsed (a ++ ")") = 1) (hd : depth + 1 + openings a.toList ≤ maxNesting)
    (h : ReadsExpression depth op (parse a :: terms) s f rest) :
    ReadsExpression depth op terms ('(' :: (a.toList ++ ')' :: s)) f rest :=
  .group_append (by omega) (reads_closed ha hd resumes_cons) h

/-! ## Groups joined by keywords -/

/-- A keyword, in some case, and the closed text of the group after it. -/
structure Link where
  keyword : String
  connective : Connective
  group : String
  isKeyword : IsKeyword keyword.toList connective
  closed : Closed group

/-- The groups after the first one, each with its keyword between two spaces. -/
def linksText : List Link → String
  | [] => ""
  | l :: links => " " ++ l.keyword ++ " (" ++ l.group ++ ")" ++ linksText links

def groupsText (first : String) (links : List Link) : String :=
  "(" ++ first ++ ")" ++ linksText links

theorem toList_linksText_cons (l : Link) (links : List Link) :
    (linksText (l :: links)).toList =
      [' '] ++ (l.keyword.toList ++
        ([' '] ++ '(' :: (l.group.toList ++ ')' :: (linksText links).toList))) := by
  simp [linksText]

/-- The groups are read one by one, and the last keyword stays. -/
theorem reads_links (links : List Link) (op : Option Connective) (terms : List Filter) :
    ReadsExpression 0 op terms (linksText links).toList
      (ofTerms ((links.getLast?.map Link.connective).or op)
        (terms.reverse ++ links.map fun l => parse l.group)) [] := by
  induction links generalizing op terms with
  | nil =>
    rw [List.map_nil, List.append_nil]
    exact .blank rfl
  | cons l links ih =>
    have hlast : ((l :: links).getLast?.map Link.connective).or op =
        (links.getLast?.map Link.connective).or (some l.connective) := by
      cases h : links.getLast? <;> simp [List.getLast?_cons, h]
    have hspace : ∀ c ∈ [' '], isSpace c := by simp [isSpace]
    have hrest := ih (some l.connective) (parse l.group :: terms)
    have hgroup := hrest.closed_group l.closed.unparsed_close
      (Nat.add_le_add_left l.closed.openings_le 1)
    rw [toList_linksText_cons, hlast]
    simpa using ((hgroup.spaces hspace).keyword_append l.isKeyword).spaces hspace

theorem read_groups {first : String} (hf : Closed first) (links : List Link) :
    read (groupsText first links) =
      (ofTerms (links.getLast?.map Link.connective)
        (parse first :: links.map fun l => parse l.group), []) := by
  have hlinks := reads_links links none [parse first]
  have hgroup := hlinks.closed_group hf.unparsed_close (Nat.add_le_add_left hf.openings_le 1)
  have htext : (groupsText first links).toList =
      '(' :: (first.toList ++ ')' :: (linksText links).toList) := by simp [groupsText]
  rw [read, htext]
  simpa using hgroup.expression_eq

/-! ## Joined terms -/

/-- How the answers for two texts make up those for the texts in parentheses. -/
structure Composes (answer : Filter → Bool) (a b : String) : Prop where
  group : answer (parse ("(" ++ a ++ ")")) = answer (parse a)
  conjunction :
    answer (parse ("(" ++ a ++ ") and (" ++ b ++ ")")) = (answer (parse a) && answer (parse b))
  disjunction :
    answer (parse ("(" ++ a ++ ") or (" ++ b ++ ")")) = (answer (parse a) || answer (parse b))

theorem parse_group {a : String} (ha : Closed a) : parse ("(" ++ a ++ ")") = parse a := by
  have htext : groupsText a [] = "(" ++ a ++ ")" := by simp [groupsText, linksText]
  have hread := read_groups ha []
  rw [htext] at hread
  rw [parse, hread]
  rfl

theorem isKeyword_text (op : Connective) : IsKeyword op.text.toList op := by
  cases op <;> decide

theorem parse_two_groups {a b : String} (ha : Closed a) (hb : Closed b) (op : Connective) :
    parse ("(" ++ a ++ ") " ++ op.text ++ " (" ++ b ++ ")") = joined op [parse a, parse b] := by
  have htext : groupsText a [⟨op.text, op, b, isKeyword_text op, hb⟩] =
      "(" ++ a ++ ") " ++ op.text ++ " (" ++ b ++ ")" := by
    apply String.toList_inj.mp
    simp [groupsText, linksText]
  have hread := read_groups ha [⟨op.text, op, b, isKeyword_text op, hb⟩]
  rw [htext] at hread
  rw [parse, hread]
  rfl

theorem composes_of_joined {answer : Filter → Bool} {a b : String} (ha : Closed a) (hb : Closed b)
    (hand : ∀ f g, answer (joined .and [f, g]) = (answer f && answer g))
    (hor : ∀ f g, answer (joined .or [f, g]) = (answer f || answer g)) :
    Composes answer a b where
  group := by rw [parse_group ha]
  conjunction := by
    have htext : "(" ++ a ++ ") and (" ++ b ++ ")" =
        "(" ++ a ++ ") " ++ Connective.and.text ++ " (" ++ b ++ ")" := by
      apply String.toList_inj.mp
      simp [Connective.text]
    rw [htext, parse_two_groups ha hb, hand]
  disjunction := by
    have htext : "(" ++ a ++ ") or (" ++ b ++ ")" =
        "(" ++ a ++ ") " ++ Connective.or.text ++ " (" ++ b ++ ")" := by
      apply String.toList_inj.mp
      simp [Connective.text]
    rw [htext, parse_two_groups ha hb, hor]

theorem ofTerms_cons (op : Option Connective) (t : Filter) {terms : List Filter} (h : terms ≠ []) :
    ofTerms op (t :: terms) = joined (op.getD .and) (t :: terms) := by
  obtain ⟨u, us, rfl⟩ := List.exists_cons_of_ne_nil h
  rfl

/-- Groups joined by keywords are read whole, as the terms that their texts are on their own. Of
the keywords only the last one matters. -/
theorem parse_groupsText (first : String) (hf : Closed first) (links : List Link) :
    unparsed (groupsText first links) = 0 ∧
      parse (groupsText first links) =
        (match links.getLast? with
        | none => parse first
        | some last =>
          joined last.connective (parse first :: links.map fun l => parse l.group)) ∧
      ∀ second, Closed second → ∀ subject synonyms,
        Composes (fun f => f.accepts subject synonyms) first second ∧
          Composes (fun f => (f.check subject synonyms).outcome) first second := by
  have hread := read_groups hf links
  refine ⟨?_, ?_, ?_⟩
  · rw [unparsed, hread]
    rfl
  · rw [parse, hread]
    cases h : links.getLast? with
    | none =>
      rw [List.getLast?_eq_none_iff.mp h]
      rfl
    | some last =>
      have hne : links ≠ [] := by
        rintro rfl
        cases h
      exact ofTerms_cons _ _ (by simpa using hne)
  · intro second hs subject synonyms
    constructor
    · refine composes_of_joined hf hs ?_ ?_
      · intro f g
        simp [accepts, allAccept_eq_all]
      · intro f g
        simp [accepts, anyAccepts_eq_any]
    · refine composes_of_joined hf hs ?_ ?_
      · intro f g
        simp [check, Checked.map, checkAll_outcome]
      · intro f g
        simp [check, Checked.map, checkAny_outcome]

theorem closed_trailing_keyword : Closed "a = \"b\" and" := ⟨by cbv, by decide⟩

theorem closed_open_list : Closed "c = [\"d\"" := ⟨by cbv, by decide⟩

/-- A keyword without its second term and a list without its end: each stays in its group. -/
theorem parse_groupsText_malformed :
    Closed "a = \"b\" and" ∧ Closed "c = [\"d\"" ∧
      parse "(a = \"b\" and) oR (c = [\"d\")" =
        joined .or [parse "a = \"b\" and", parse "c = [\"d\""] ∧
      unparsed "(a = \"b\" and) oR (c = [\"d\")" = 0 := by
  have hl : IsKeyword "oR".toList .or := by decide
  have h := parse_groupsText _ closed_trailing_keyword [⟨"oR", .or, _, hl, closed_open_list⟩]
  exact ⟨closed_trailing_keyword, closed_open_list, h.2.1, h.1⟩

end RecordFilter.Filter
