import RecordFilter.Proofs.Reading.Lexical

/-!
# Runs of the readers

The readers that recurse, as relations: one constructor for each way in which a reading goes on or
comes to its end. The relations hold of exactly what the functions compute, so a fact about all
runs is one induction with a case for each rule. In `ReadsExpression` no reading is checked for
progress: every term, keyword and group takes at least one character.
-/

namespace RecordFilter.Filter

mutual

/-- Reading a value at a depth: the text, the value if there is one, and what is left. -/
inductive ReadsValue : Nat → List Char → Option Literal → List Char → Prop
  | blank (hs : skipSpace s = []) : ReadsValue depth s none []
  | quoted (hs : skipSpace s = c :: r) (hc : c = '"' ∨ c = '\'') (hv : quoted c r = (v, rest)) :
      ReadsValue depth s v rest
  | pattern (hs : skipSpace s = '/' :: r) (hv : patternLiteral r = (v, rest)) :
      ReadsValue depth s v rest
  | list (hs : skipSpace s = '[' :: r) (hd : depth < maxNesting)
      (hi : ReadsItems (depth + 1) [] r v rest) : ReadsValue depth s v rest
  | number (hs : skipSpace s = c :: r) (hc : isNumberChar c)
      (hv : numberLiteral (c :: r) = (v, rest)) : ReadsValue depth s v rest
  | constant (hs : skipSpace s = c :: r) (hq : c ≠ '"' ∧ c ≠ '\'' ∧ c ≠ '/')
      (hd : c = '[' → maxNesting ≤ depth) (hc : isNumberChar c = false)
      (hv : constant (c :: r) = (v, rest)) : ReadsValue depth s v rest

/-- Reading the items of a list after those already there, last one first. -/
inductive ReadsItems : Nat → List Literal → List Char → Option Literal → List Char → Prop
  | blank (hs : skipSpace s = []) : ReadsItems depth acc s none []
  | close (hs : skipSpace s = ']' :: r) : ReadsItems depth acc s (some (.list acc.reverse)) r
  | comma (hs : skipSpace s = ',' :: r) (hi : ReadsItems depth acc r v rest) :
      ReadsItems depth acc s v rest
  | item (hs : skipSpace s = c :: r) (hc : c ≠ ']' ∧ c ≠ ',')
      (hv : ReadsValue depth (c :: r) item r') (hl : r'.length < (c :: r).length)
      (hi : ReadsItems depth (item.toList ++ acc) r' v rest) : ReadsItems depth acc s v rest
  | stuck (hs : skipSpace s = c :: r) (hc : c ≠ ']' ∧ c ≠ ',')
      (hv : ReadsValue depth (c :: r) item r') (hl : (c :: r).length ≤ r'.length) :
      ReadsItems depth acc s none r'

end

/-- The word at the front of a term, which may be empty. -/
def frontWord (s : List Char) : List Char := (skipSpace s).takeWhile isFieldChar

def afterWord (s : List Char) : List Char := (skipSpace s).dropWhile isFieldChar

/-- The words that are no field, so that a value comes after them. -/
def isNoField (w : List Char) : Bool := w == [] || w == ['0']

/-- Reading a term. -/
inductive ReadsTerm : Nat → List Char → Option Filter → List Char → Prop
  | text (hf : isNoField (frontWord s)) (hv : ReadsValue depth (afterWord s) v rest) :
      ReadsTerm depth s (v.map .text) rest
  | noOperator (hf : isNoField (frontWord s) = false)
      (ho : word? operators (skipSpace (afterWord s)) = none) :
      ReadsTerm depth s none (skipSpace (afterWord s))
  | comparison (hf : isNoField (frontWord s) = false)
      (ho : word? operators (skipSpace (afterWord s)) = some (op, r))
      (hv : ReadsValue depth r v rest) :
      ReadsTerm depth s (v.map (.comparison (String.ofList (frontWord s)) op)) rest

/-- Reading an expression after its connective and terms so far, last one first. -/
inductive ReadsExpression :
    Nat → Option Connective → List Filter → List Char → Filter → List Char → Prop
  | blank (hs : skipSpace s = []) : ReadsExpression depth op terms s (ofTerms op terms.reverse) []
  | tooDeep (hs : skipSpace s = '(' :: r) (hd : maxNesting ≤ depth) :
      ReadsExpression depth op terms s (ofTerms op (unmatchable :: terms).reverse) []
  | group (hs : skipSpace s = '(' :: r) (hd : depth < maxNesting)
      (hg : ReadsExpression (depth + 1) none [] r g r')
      (hr : ReadsExpression depth op (g :: terms) (closeGroup r') f rest) :
      ReadsExpression depth op terms s f rest
  | keyword (hs : skipSpace s = c :: r) (hc : c ≠ '(') (hk : keyword? (c :: r) = some (k, r'))
      (hr : ReadsExpression depth (some k) terms r' f rest) :
      ReadsExpression depth op terms s f rest
  | term (hs : skipSpace s = c :: r) (hc : c ≠ '(') (hk : keyword? (c :: r) = none)
      (ht : ReadsTerm depth (c :: r) (some t) r')
      (hr : ReadsExpression depth op (t :: terms) r' f rest) :
      ReadsExpression depth op terms s f rest
  | stuck (hs : skipSpace s = c :: r) (hc : c ≠ '(') (hk : keyword? (c :: r) = none)
      (ht : ReadsTerm depth (c :: r) none rest) :
      ReadsExpression depth op terms s (ofTerms op terms.reverse) rest

/-! ## The functions and their runs -/

theorem value_eq (depth : Nat) (s : List Char) :
    value depth s = match skipSpace s with
      | [] => (none, [])
      | c :: rest =>
        if c = '"' ∨ c = '\'' then quoted c rest
        else if c = '/' then patternLiteral rest
        else if c = '[' ∧ depth < maxNesting then items (depth + 1) [] rest
        else if isNumberChar c then numberLiteral (c :: rest)
        else constant (c :: rest) := by
  rw [value]
  split <;> simp_all

theorem items_eq (depth : Nat) (acc : List Literal) (s : List Char) :
    items depth acc s = match skipSpace s with
      | [] => (none, [])
      | c :: rest =>
        if c = ']' then (some (.list acc.reverse), rest)
        else if c = ',' then items depth acc rest
        else if (value depth (c :: rest)).2.length < (c :: rest).length then
          items depth ((value depth (c :: rest)).1.toList ++ acc) (value depth (c :: rest)).2
        else (none, (value depth (c :: rest)).2) := by
  rw [items]
  split <;> simp_all

mutual

theorem ReadsValue.value_eq : ∀ {depth s v rest}, ReadsValue depth s v rest →
    value depth s = (v, rest)
  | _, _, _, _, .blank hs => by rw [Filter.value_eq, hs]
  | _, _, _, _, .quoted hs hc hv => by rw [Filter.value_eq, hs, ← hv]; exact if_pos hc
  | _, _, _, _, .pattern hs hv => by rw [Filter.value_eq, hs, ← hv]; simp
  | _, _, _, _, .list hs hd hi => by rw [Filter.value_eq, hs, ← hi.items_eq]; simp [hd]
  | _, _, _, _, .number (c := c) hs hc hv => by
    have hq : ¬(c = '"' ∨ c = '\'') := by rintro (rfl | rfl) <;> cases hc
    have hp : c ≠ '/' := by rintro rfl; cases hc
    have hl : c ≠ '[' := by rintro rfl; cases hc
    rw [Filter.value_eq, hs, ← hv]
    simp only [if_neg hq, if_neg hp, hl, false_and, if_false, hc, if_true]
  | _, _, _, _, .constant hs hq hd hc hv => by
    rw [Filter.value_eq, hs, ← hv]
    simp only [hq, hc, or_self, if_false, Bool.false_eq_true]
    exact if_neg fun h => Nat.not_lt.mpr (hd h.1) h.2

theorem ReadsItems.items_eq : ∀ {depth acc s v rest}, ReadsItems depth acc s v rest →
    items depth acc s = (v, rest)
  | _, _, _, _, _, .blank hs => by rw [Filter.items_eq, hs]
  | _, _, _, _, _, .close hs => by rw [Filter.items_eq, hs]; exact if_pos rfl
  | _, _, _, _, _, .comma hs hi => by rw [Filter.items_eq, hs, ← hi.items_eq]; simp
  | _, _, _, _, _, .item hs hc hv hl hi => by
    rw [Filter.items_eq, hs]
    simp only [hc, hv.value_eq, hl, if_false, if_true]
    exact hi.items_eq
  | _, _, _, _, _, .stuck hs hc hv hl => by
    rw [Filter.items_eq, hs]
    simp only [hc, hv.value_eq, Nat.not_lt.mpr hl, if_false]

end

theorem reads_value_items :
    (∀ depth s, ReadsValue depth s (value depth s).1 (value depth s).2) ∧
      ∀ depth acc s, ReadsItems depth acc s (items depth acc s).1 (items depth acc s).2 := by
  apply value.mutual_induct
  case case1 =>
    intro depth s hs
    rw [Filter.value_eq, hs]
    exact .blank hs
  case case2 =>
    intro depth s c r hs hc
    rw [Filter.value_eq, hs]
    simp only [if_pos hc]
    exact .quoted hs hc rfl
  case case3 =>
    intro depth s r hs _
    rw [Filter.value_eq, hs]
    simp only [Char.reduceEq, or_self, if_false, if_true]
    exact .pattern hs rfl
  case case4 =>
    intro depth s c r hs hq hp hd ih
    rw [Filter.value_eq, hs]
    simp only [if_neg hq, if_neg hp, if_pos hd]
    obtain ⟨rfl, hd⟩ := hd
    exact .list hs hd ih
  case case5 =>
    intro depth s c r hs hq hp hd hc
    rw [Filter.value_eq, hs]
    simp only [if_neg hq, if_neg hp, if_neg hd, if_pos hc]
    exact .number hs hc rfl
  case case6 =>
    intro depth s c r hs hq hp hd hc
    rw [Filter.value_eq, hs]
    simp only [if_neg hq, if_neg hp, if_neg hd, if_neg hc]
    exact .constant hs ⟨by tauto, by tauto, hp⟩ (by simpa using hd) (by simpa using hc) rfl
  case case7 =>
    intro depth acc s hs
    rw [Filter.items_eq, hs]
    exact .blank hs
  case case8 =>
    intro depth acc s r hs
    rw [Filter.items_eq, hs]
    exact .close hs
  case case9 =>
    intro depth acc s r hs _ ih
    rw [Filter.items_eq, hs]
    exact .comma hs ih
  case case10 =>
    intro depth acc s c r hs hc hc' item r' hv hl ihv ihi
    rw [hv] at ihv
    rw [Filter.items_eq, hs]
    simp only [if_neg hc, if_neg hc', hv, if_pos hl]
    exact .item hs ⟨hc, hc'⟩ ihv hl ihi
  case case11 =>
    intro depth acc s c r hs hc hc' item r' hv hl ihv
    rw [hv] at ihv
    rw [Filter.items_eq, hs]
    simp only [if_neg hc, if_neg hc', hv, if_neg hl]
    exact .stuck hs ⟨hc, hc'⟩ ihv (Nat.not_lt.mp hl)

theorem readsValue_iff {depth : Nat} {s rest : List Char} {v : Option Literal} :
    ReadsValue depth s v rest ↔ value depth s = (v, rest) :=
  ⟨ReadsValue.value_eq, fun h => by simpa [h] using reads_value_items.1 depth s⟩

theorem readsItems_iff {depth : Nat} {acc : List Literal} {s rest : List Char}
    {v : Option Literal} : ReadsItems depth acc s v rest ↔ items depth acc s = (v, rest) :=
  ⟨ReadsItems.items_eq, fun h => by simpa [h] using reads_value_items.2 depth acc s⟩

theorem ReadsValue.unique {depth : Nat} {s rest rest' : List Char} {v v' : Option Literal}
    (h : ReadsValue depth s v rest) (h' : ReadsValue depth s v' rest') : v = v' ∧ rest = rest' :=
  Prod.mk.inj (h.value_eq.symm.trans h'.value_eq)

theorem term_eq (depth : Nat) (s : List Char) :
    term depth s =
      if isNoField (frontWord s) then
        ((value depth (afterWord s)).1.map .text, (value depth (afterWord s)).2)
      else
        match word? operators (skipSpace (afterWord s)) with
        | none => (none, skipSpace (afterWord s))
        | some (op, rest) =>
          ((value depth rest).1.map (.comparison (String.ofList (frontWord s)) op),
            (value depth rest).2) := by
  simp only [isNoField, Bool.or_eq_true, beq_iff_eq]
  rfl

theorem ReadsTerm.term_eq {depth : Nat} {s rest : List Char} {t : Option Filter}
    (h : ReadsTerm depth s t rest) : term depth s = (t, rest) := by
  cases h with
  | text hf hv => rw [Filter.term_eq, if_pos hf, hv.value_eq]
  | noOperator hf ho => rw [Filter.term_eq, if_neg (by simp [hf]), ho]
  | comparison hf ho hv =>
    rw [Filter.term_eq, if_neg (by simp [hf]), ho]
    simp only [hv.value_eq]

theorem ReadsTerm.unique {depth : Nat} {s rest rest' : List Char} {t t' : Option Filter}
    (h : ReadsTerm depth s t rest) (h' : ReadsTerm depth s t' rest') : t = t' ∧ rest = rest' :=
  Prod.mk.inj (h.term_eq.symm.trans h'.term_eq)

theorem readsTerm_term (depth : Nat) (s : List Char) :
    ReadsTerm depth s (term depth s).1 (term depth s).2 := by
  rw [term_eq]
  split_ifs with hf
  · exact .text hf (readsValue_iff.mpr rfl)
  · have hf : isNoField (frontWord s) = false := by simpa using hf
    split
    · next ho => exact .noOperator hf ho
    · next op r ho => exact .comparison hf ho (readsValue_iff.mpr rfl)

theorem readsTerm_iff {depth : Nat} {s rest : List Char} {t : Option Filter} :
    ReadsTerm depth s t rest ↔ term depth s = (t, rest) :=
  ⟨ReadsTerm.term_eq, fun h => by simpa [h] using readsTerm_term depth s⟩

/-! ## Progress -/

mutual

theorem ReadsValue.suffix : ∀ {depth s v rest}, ReadsValue depth s v rest → rest <:+ s
  | _, _, _, _, .blank _ => List.nil_suffix
  | _, _, _, _, .quoted hs _ hv =>
    (quoted_suffix hv).trans (tail_suffix_of_skipSpace hs)
  | _, _, _, _, .pattern hs hv =>
    (patternLiteral_suffix hv).trans (tail_suffix_of_skipSpace hs)
  | _, _, _, _, .list hs _ hi =>
    hi.suffix.trans (tail_suffix_of_skipSpace hs)
  | _, _, _, _, .number hs _ hv => (numberLiteral_suffix hv).trans (suffix_of_skipSpace hs)
  | _, _, _, _, .constant hs _ _ _ hv => (constant_suffix hv).trans (suffix_of_skipSpace hs)

theorem ReadsItems.suffix : ∀ {depth acc s v rest}, ReadsItems depth acc s v rest → rest <:+ s
  | _, _, _, _, _, .blank _ => List.nil_suffix
  | _, _, _, _, _, .close hs => tail_suffix_of_skipSpace hs
  | _, _, _, _, _, .comma hs hi =>
    hi.suffix.trans (tail_suffix_of_skipSpace hs)
  | _, _, _, _, _, .item hs _ hv _ hi => hi.suffix.trans (hv.suffix.trans (suffix_of_skipSpace hs))
  | _, _, _, _, _, .stuck hs _ hv _ => hv.suffix.trans (suffix_of_skipSpace hs)

end

section

variable {depth : Nat} {op : Option Connective} {terms : List Filter} {k : Connective}
variable {s r rest : List Char} {c : Char} {f t : Filter} {v : Literal}

/-- A value that is read takes something. -/
theorem ReadsValue.length_lt (h : ReadsValue depth s (some v) rest) : rest.length < s.length := by
  cases h with
  | quoted hs _ hv => exact (quoted_suffix hv).length_le.trans_lt (length_lt_of_skipSpace hs)
  | pattern hs hv => exact (patternLiteral_suffix hv).length_le.trans_lt (length_lt_of_skipSpace hs)
  | list hs _ hi => exact hi.suffix.length_le.trans_lt (length_lt_of_skipSpace hs)
  | number hs hc hv =>
    exact (numberLiteral_length_lt hc hv).trans_le (suffix_of_skipSpace hs).length_le
  | constant hs _ _ _ hv =>
    exact (constant_length_lt hv).trans_le (suffix_of_skipSpace hs).length_le

theorem afterWord_suffix (s : List Char) : afterWord s <:+ s :=
  (List.dropWhile_suffix _).trans (skipSpace_suffix s)

theorem operator_suffix {op : Operator}
    (h : word? operators (skipSpace (afterWord s)) = some (op, r)) : r <:+ s := by
  obtain ⟨w, -, hw⟩ := word?_eq_some h
  exact (hw ▸ List.suffix_append w r).trans ((skipSpace_suffix _).trans (afterWord_suffix s))

theorem ReadsTerm.suffix {t : Option Filter} (h : ReadsTerm depth s t rest) : rest <:+ s := by
  cases h with
  | text _ hv => exact hv.suffix.trans (afterWord_suffix s)
  | noOperator => exact (skipSpace_suffix _).trans (afterWord_suffix s)
  | comparison _ ho hv => exact hv.suffix.trans (operator_suffix ho)

theorem ReadsTerm.length_lt (h : ReadsTerm depth s (some t) rest) : rest.length < s.length := by
  generalize ht : some t = u at h
  cases h with
  | noOperator => cases ht
  | text _ hv =>
    obtain ⟨v, rfl, -⟩ := Option.map_eq_some_iff.mp ht.symm
    exact hv.length_lt.trans_le (afterWord_suffix s).length_le
  | comparison _ ho hv =>
    obtain ⟨v, rfl, -⟩ := Option.map_eq_some_iff.mp ht.symm
    exact hv.length_lt.trans_le (operator_suffix ho).length_le

theorem closeGroup_suffix (s : List Char) : closeGroup s <:+ s := by
  unfold closeGroup
  split
  · exact List.suffix_cons _ _
  · exact List.suffix_rfl

theorem ReadsExpression.suffix (h : ReadsExpression depth op terms s f rest) : rest <:+ s := by
  induction h with
  | blank => exact List.nil_suffix
  | tooDeep => exact List.nil_suffix
  | group hs _ _ _ ihg ihr =>
    exact ihr.trans ((closeGroup_suffix _).trans (ihg.trans (tail_suffix_of_skipSpace hs)))
  | keyword hs _ hk _ ihr => exact ihr.trans ((keyword?_suffix hk).trans (suffix_of_skipSpace hs))
  | term hs _ _ ht _ ihr => exact ihr.trans (ht.suffix.trans (suffix_of_skipSpace hs))
  | stuck hs _ _ ht => exact ht.suffix.trans (suffix_of_skipSpace hs)

theorem expression_eq (depth : Nat) (op : Option Connective) (terms : List Filter)
    (s : List Char) :
    expression depth op terms s = match skipSpace s with
      | [] => (ofTerms op terms.reverse, [])
      | c :: rest =>
        if c = '(' then
          if maxNesting ≤ depth then (ofTerms op (unmatchable :: terms).reverse, [])
          else
            let group := expression (depth + 1) none [] rest
            if (closeGroup group.2).length < s.length then
              expression depth op (group.1 :: terms) (closeGroup group.2)
            else (ofTerms op (group.1 :: terms).reverse, closeGroup group.2)
        else
          match keyword? (c :: rest) with
          | some (k, rest') =>
            if rest'.length < s.length then expression depth (some k) terms rest'
            else (ofTerms (some k) terms.reverse, rest')
          | none =>
            match Filter.term depth (c :: rest) with
            | (some t, rest') =>
              if rest'.length < s.length then expression depth op (t :: terms) rest'
              else (ofTerms op (t :: terms).reverse, rest')
            | (none, rest') => (ofTerms op terms.reverse, rest') := by
  rw [expression]
  split
  · next hs => rw [hs]
  · next hs =>
    generalize skipSpace s = u at hs ⊢
    subst hs
    rfl

theorem ReadsExpression.expression_eq (h : ReadsExpression depth op terms s f rest) :
    expression depth op terms s = (f, rest) := by
  induction h with
  | blank hs => rw [Filter.expression_eq, hs]
  | tooDeep hs hd => rw [Filter.expression_eq, hs]; simp [hd]
  | group hs hd hg hr ihg ihr =>
    have hle := ((closeGroup_suffix _).trans hg.suffix).length_le
    have hl := hle.trans_lt (length_lt_of_skipSpace hs)
    rw [Filter.expression_eq, hs]
    simp only [ihg, if_true, if_neg (Nat.not_le.mpr hd), if_pos hl]
    exact ihr
  | keyword hs hc hk hr ihr =>
    have hl := (keyword?_length_lt hk).trans_le (suffix_of_skipSpace hs).length_le
    rw [Filter.expression_eq, hs]
    simp only [if_neg hc, hk, if_pos hl]
    exact ihr
  | term hs hc hk ht hr ihr =>
    have hl := ht.length_lt.trans_le (suffix_of_skipSpace hs).length_le
    rw [Filter.expression_eq, hs]
    simp only [if_neg hc, hk, ht.term_eq, if_pos hl]
    exact ihr
  | stuck hs hc hk ht =>
    rw [Filter.expression_eq, hs]
    simp only [if_neg hc, hk, ht.term_eq]

theorem readsExpression_expression (depth : Nat) (op : Option Connective) (terms : List Filter)
    (s : List Char) :
    ReadsExpression depth op terms s (expression depth op terms s).1
      (expression depth op terms s).2 := by
  induction depth, op, terms, s using expression.induct with
  | case1 depth op terms s hs =>
    rw [Filter.expression_eq, hs]
    exact .blank hs
  | case2 depth op terms s r hd hs =>
    rw [Filter.expression_eq, hs]
    simp only [if_true, if_pos hd]
    exact .tooDeep hs hd
  | case3 depth op terms s r hd g r' hg hl hs ihg ihr =>
    rw [hg] at ihg
    rw [Filter.expression_eq, hs]
    simp only [if_true, if_neg hd, hg, if_pos hl]
    exact .group hs (Nat.not_le.mp hd) ihg ihr
  | case4 depth op terms s r hd g r' hg hl hs ihg =>
    rw [hg] at ihg
    have := ((closeGroup_suffix r').trans ihg.suffix).length_le.trans_lt (length_lt_of_skipSpace hs)
    exact absurd this hl
  | case5 depth op terms s c r hs hc k r' hk hl ih =>
    rw [Filter.expression_eq, hs]
    simp only [if_neg hc, hk, if_pos hl]
    exact .keyword hs hc hk ih
  | case6 depth op terms s c r hs hc k r' hk hl =>
    exact absurd ((keyword?_length_lt hk).trans_le (suffix_of_skipSpace hs).length_le) hl
  | case7 depth op terms s c r hs hc hk t r' ht hl ih =>
    rw [Filter.expression_eq, hs]
    simp only [if_neg hc, hk, ht, if_pos hl]
    exact .term hs hc hk (readsTerm_iff.mpr ht) ih
  | case8 depth op terms s c r hs hc hk t r' ht hl =>
    have := (readsTerm_iff.mpr ht).length_lt.trans_le (suffix_of_skipSpace hs).length_le
    exact absurd this hl
  | case9 depth op terms s c r hs hc hk r' ht =>
    rw [Filter.expression_eq, hs]
    simp only [if_neg hc, hk, ht]
    exact .stuck hs hc hk (readsTerm_iff.mpr ht)

theorem readsExpression_iff :
    ReadsExpression depth op terms s f rest ↔ expression depth op terms s = (f, rest) :=
  ⟨ReadsExpression.expression_eq,
    fun h => by simpa [h] using readsExpression_expression depth op terms s⟩

theorem reads_read (text : String) :
    ReadsExpression 0 none [] text.toList (parse text) (read text).2 :=
  readsExpression_expression 0 none [] text.toList

theorem read_suffix (text : String) : (read text).2 <:+ text.toList := (reads_read text).suffix

/-! ## Building runs -/

theorem ReadsValue.of_skipSpace {s' : List Char} {v : Option Literal}
    (h : ReadsValue depth s v rest) (hs' : skipSpace s' = skipSpace s) :
    ReadsValue depth s' v rest := by
  cases h with
  | blank hs => exact .blank (hs'.trans hs)
  | quoted hs hc hv => exact .quoted (hs'.trans hs) hc hv
  | pattern hs hv => exact .pattern (hs'.trans hs) hv
  | list hs hd hi => exact .list (hs'.trans hs) hd hi
  | number hs hc hv => exact .number (hs'.trans hs) hc hv
  | constant hs hq hd hc hv => exact .constant (hs'.trans hs) hq hd hc hv

theorem ReadsItems.of_skipSpace {s' : List Char} {acc : List Literal} {v : Option Literal}
    (h : ReadsItems depth acc s v rest) (hs' : skipSpace s' = skipSpace s) :
    ReadsItems depth acc s' v rest := by
  cases h with
  | blank hs => exact .blank (hs'.trans hs)
  | close hs => exact .close (hs'.trans hs)
  | comma hs hi => exact .comma (hs'.trans hs) hi
  | item hs hc hv hl hi => exact .item (hs'.trans hs) hc hv hl hi
  | stuck hs hc hv hl => exact .stuck (hs'.trans hs) hc hv hl

theorem ReadsExpression.of_skipSpace {s' : List Char} (h : ReadsExpression depth op terms s f rest)
    (hs' : skipSpace s' = skipSpace s) : ReadsExpression depth op terms s' f rest := by
  cases h with
  | blank hs => exact .blank (hs'.trans hs)
  | tooDeep hs hd => exact .tooDeep (hs'.trans hs) hd
  | group hs hd hg hr => exact .group (hs'.trans hs) hd hg hr
  | keyword hs hc hk hr => exact .keyword (hs'.trans hs) hc hk hr
  | term hs hc hk ht hr => exact .term (hs'.trans hs) hc hk ht hr
  | stuck hs hc hk ht => exact .stuck (hs'.trans hs) hc hk ht

theorem ReadsExpression.spaces {sp : List Char} (h : ReadsExpression depth op terms s f rest)
    (hsp : ∀ c ∈ sp, isSpace c) : ReadsExpression depth op terms (sp ++ s) f rest :=
  h.of_skipSpace (skipSpace_spaces_append hsp s)

theorem ReadsExpression.keyword_append {w : List Char}
    (h : ReadsExpression depth (some k) terms s f rest) (hw : IsKeyword w k) :
    ReadsExpression depth op terms (w ++ s) f rest := by
  obtain ⟨c, w', rfl⟩ := List.exists_cons_of_ne_nil hw.ne_nil
  have hc : isFieldChar c := hw.fieldChars c (by simp)
  have hspace : isSpace c = false := isSpace_of_isFieldChar hc
  exact .keyword (skipSpace_cons hspace) (by rintro rfl; cases hc) (keyword?_append hw s) h

theorem ReadsExpression.group_append {g : Filter} (hd : depth < maxNesting)
    (hg : ReadsExpression (depth + 1) none [] r g (')' :: s))
    (h : ReadsExpression depth op (g :: terms) s f rest) :
    ReadsExpression depth op terms ('(' :: r) f rest :=
  .group (skipSpace_cons (by decide)) hd hg h

end

end RecordFilter.Filter
