import RecordFilter.Proofs.Reading.Runs

/-!
# Text after the place where a reading stops

A stop character belongs to no word, number, string delimiter or bracket, so no reader passes over
one outside strings and patterns, `)` excepted. A reading that leaves such a character unread goes
the same way when other text, or none, comes after what it took: an error cuts the text off.
-/

namespace RecordFilter.Filter

/-- The marks that start, join or end parts of a term. -/
def marks : List Char := ['"', '\'', '/', '[', ']', ',', '(', '!', '<', '>', '=']

/-- The characters that neither start nor continue any part of a term. -/
structure IsStop (c : Char) : Prop where
  notField : isFieldChar c = false
  notNumber : isNumberChar c = false
  notSpace : isSpace c = false
  notMark : c ∉ marks

theorem isStop_close : IsStop ')' := ⟨by decide, by decide, by decide, by decide⟩

theorem quote_mem_marks {quote : Char} (h : quote = '"' ∨ quote = '\'') : quote ∈ marks := by
  rcases h with rfl | rfl <;> simp [marks]

/-- The text is over, or goes on with the given character. -/
def Resumes (c : Char) (t : List Char) : Prop := ∀ a ∈ t.head?, a = c

variable {p : Char → Bool} {a c quote : Char} {s t x y q r rest : List Char} {depth : Nat}

theorem IsStop.ne_of_mem (hc : IsStop c) (ha : a ∈ marks) : a ≠ c := fun e => hc.notMark (e ▸ ha)

theorem resumes_nil : Resumes c [] := by simp [Resumes]

theorem resumes_cons : Resumes c (c :: s) := by simp [Resumes]

theorem Resumes.breaks (ht : Resumes c t) (hc : p c = false) : Breaks p t :=
  fun a ha => ht a ha ▸ hc

theorem Resumes.eq_nil_or_cons (ht : Resumes c t) : t = [] ∨ ∃ u, t = c :: u := by
  cases t with
  | nil => exact .inl rfl
  | cons a u => exact .inr ⟨u, by rw [ht a rfl]⟩

/-- A suffix that is long enough starts before the end of the first part. -/
theorem exists_append_of_suffix (h : q <:+ x ++ t) (hl : t.length ≤ q.length) :
    ∃ r, q = r ++ t := by
  obtain ⟨u, hu⟩ := h
  rcases List.append_eq_append_iff.mp hu with ⟨w, -, hq⟩ | ⟨w, -, hw⟩
  · exact ⟨w, hq⟩
  · have hw0 : w = [] := by
      rw [hw, List.length_append] at hl
      exact List.length_eq_zero_iff.mp (by omega)
    exact ⟨[], by simp [hw, hw0]⟩

theorem exists_append_of_suffix_append (h : r ++ t <:+ q) (hq : q <:+ x ++ t) :
    ∃ r, q = r ++ t :=
  exists_append_of_suffix hq <| by
    have := h.length_le
    rw [List.length_append] at this
    omega

/-! ## Parts that do not recurse -/

/-- A delimiter that does not come in the first part comes after the character that follows it. -/
theorem delimiter_after (hx : quote ∉ x) (hq : quote ≠ c) (s : List Char) :
    quote ∉ x ++ c :: s ∨
      ∃ body y, x ++ c :: s = body ++ quote :: y ∧ quote ∉ body ∧ y.length < s.length := by
  by_cases hs : quote ∈ s
  · obtain ⟨body, y, rfl, hb⟩ := List.eq_append_cons_of_mem hs
    refine .inr ⟨x ++ c :: body, y, by simp, by simp [hx, hq, hb], ?_⟩
    simp only [List.length_append, List.length_cons]
    omega
  · exact .inl (by simp [hx, hq, hs])

theorem quoted_retext {v : Option Literal} (hq : quote ≠ c)
    (h : quoted quote (x ++ c :: s) = (v, r ++ c :: s)) (t : List Char) :
    quoted quote (x ++ t) = (v, r ++ t) := by
  by_cases hm : quote ∈ x
  · obtain ⟨body, y, rfl, hb⟩ := List.eq_append_cons_of_mem hm
    rw [List.append_assoc, List.cons_append, quoted_append hb] at h ⊢
    obtain ⟨rfl, hr⟩ := Prod.mk.inj h
    rw [List.append_cancel_right hr]
  · rcases delimiter_after hm hq s with hn | ⟨body, y, he, hb, hl⟩
    · rw [quoted_of_not_mem hn] at h
      simp at h
    · rw [he, quoted_append hb] at h
      have hr := congrArg List.length (Prod.mk.inj h).2
      simp only [List.length_append, List.length_cons] at hr
      omega

theorem patternLiteral_retext {v : Option Literal} (hc : IsStop c) (ht : Resumes c t)
    (h : patternLiteral (x ++ c :: s) = (v, r ++ c :: s)) :
    patternLiteral (x ++ t) = (v, r ++ t) := by
  have hq : '/' ≠ c := hc.ne_of_mem (by simp [marks])
  have hf : isFlagChar c = false := by
    have := hc.notField
    simp only [isFieldChar, Char.isAlphanum, Char.isAlpha, Bool.or_eq_false_iff] at this
    exact this.1.1.1.2
  by_cases hm : '/' ∈ x
  · obtain ⟨body, y, rfl, hb⟩ := List.eq_append_cons_of_mem hm
    rw [List.append_assoc, List.cons_append, patternLiteral_append hb] at h ⊢
    have hbs : Breaks isFlagChar (c :: s) := breaks_cons.mpr hf
    rw [hbs.takeWhile_append, hbs.dropWhile_append] at h
    obtain ⟨rfl, hr⟩ := Prod.mk.inj h
    rw [(ht.breaks hf).takeWhile_append, (ht.breaks hf).dropWhile_append,
      List.append_cancel_right hr]
  · rcases delimiter_after hm hq s with hn | ⟨body, y, he, hb, hl⟩
    · rw [patternLiteral_of_not_mem hn] at h
      simp at h
    · rw [he, patternLiteral_append hb] at h
      have hr := congrArg List.length (Prod.mk.inj h).2
      have := (List.dropWhile_suffix (l := y) isFlagChar).length_le
      simp only [List.length_append, List.length_cons] at hr
      omega

theorem numberLiteral_append (h : Breaks isNumberChar t) (x : List Char) :
    numberLiteral (x ++ t) = ((numberLiteral x).1, (numberLiteral x).2 ++ t) := by
  simp only [numberLiteral, h.takeWhile_append, h.dropWhile_append]

/-- The characters of operators and constants. -/
def isWordChar (c : Char) : Bool := isFieldChar c || marks.contains c

theorem IsStop.notWord (hc : IsStop c) : isWordChar c = false := by
  simp [isWordChar, hc.notField, hc.notMark]

theorem isWordChar_operators : ∀ e ∈ operators, ∀ a ∈ e.1, isWordChar a := by
  simp [operators]
  decide

theorem isWordChar_constants : ∀ e ∈ constants, ∀ a ∈ e.1, isWordChar a := by
  simp [constants]
  decide

theorem constant_append (h : Breaks isWordChar t) (x : List Char) :
    constant (x ++ t) = ((constant x).1, (constant x).2 ++ t) := by
  unfold constant
  rw [word?_append isWordChar_constants h]
  cases word? constants x <;> rfl

/-! ## At the stop -/

theorem skipSpace_at_stop (hc : IsStop c) (ht : Resumes c t) : skipSpace t = t :=
  (ht.breaks hc.notSpace).dropWhile_eq_self

theorem readsValue_at_stop (hc : IsStop c) (ht : Resumes c t) (hs : skipSpace s = t)
    (depth : Nat) : ReadsValue depth s none t := by
  rcases ht.eq_nil_or_cons with rfl | ⟨u, rfl⟩
  · exact .blank hs
  · have hm := hc.notMark
    simp only [marks, List.mem_cons, not_or] at hm
    have hv : constant (c :: u) = (none, c :: u) :=
      constant_append (breaks_cons.mpr hc.notWord) []
    exact .constant hs ⟨hm.1, hm.2.1, hm.2.2.1⟩ (fun h => absurd h hm.2.2.2.1) hc.notNumber hv

theorem ReadsValue.of_stop {v : Option Literal} (hc : IsStop c)
    (h : ReadsValue depth (c :: s) v rest) : v = none ∧ rest = c :: s :=
  h.unique (readsValue_at_stop hc resumes_cons (skipSpace_at_stop hc resumes_cons) depth)

theorem readsItems_at_stop (hc : IsStop c) (ht : Resumes c t) (hs : skipSpace s = t)
    (depth : Nat) (acc : List Literal) : ReadsItems depth acc s none t := by
  rcases ht.eq_nil_or_cons with rfl | ⟨u, rfl⟩
  · exact .blank hs
  · have hm := hc.notMark
    simp only [marks, List.mem_cons, not_or] at hm
    exact .stuck hs ⟨hm.2.2.2.2.1, hm.2.2.2.2.2.1⟩
      (readsValue_at_stop hc ht (skipSpace_at_stop hc ht) depth) le_rfl

theorem frontWord_append (hc : IsStop c) (ht : Resumes c t) (x : List Char) :
    frontWord (x ++ t) = frontWord x := by
  rw [frontWord, skipSpace_append (ht.breaks hc.notSpace),
    (ht.breaks hc.notField).takeWhile_append]
  rfl

theorem afterWord_append (hc : IsStop c) (ht : Resumes c t) (x : List Char) :
    afterWord (x ++ t) = afterWord x ++ t := by
  rw [afterWord, skipSpace_append (ht.breaks hc.notSpace),
    (ht.breaks hc.notField).dropWhile_append]
  rfl

theorem readsTerm_at_stop (hc : IsStop c) (ht : Resumes c t) (depth : Nat) :
    ReadsTerm depth t none t := by
  have hf : isNoField (frontWord t) := by rw [← List.nil_append t, frontWord_append hc ht]; rfl
  have hr : afterWord t = t := afterWord_append hc ht []
  refine .text (v := none) hf ?_
  rw [hr]
  exact readsValue_at_stop hc ht (skipSpace_at_stop hc ht) depth

/-! ## Before the stop -/

/-- The first thing that is read is the stop character, or stands before it. -/
theorem skipSpace_front (hc : IsStop c) (h : skipSpace (x ++ c :: s) = a :: y) :
    skipSpace x = [] ∧ a = c ∧ y = s ∨ ∃ z, skipSpace x = a :: z ∧ y = z ++ c :: s := by
  rw [skipSpace_append (breaks_cons.mpr hc.notSpace)] at h
  cases hx : skipSpace x with
  | nil =>
    rw [hx] at h
    obtain ⟨rfl, rfl⟩ := List.cons.inj h
    exact .inl ⟨rfl, rfl, rfl⟩
  | cons b z =>
    rw [hx] at h
    obtain ⟨rfl, rfl⟩ := List.cons.inj h
    exact .inr ⟨z, rfl, rfl⟩

theorem skipSpace_inside (hc : IsStop c) (h : skipSpace (x ++ c :: s) = a :: y) (ha : a ≠ c) :
    ∃ z, skipSpace x = a :: z ∧ y = z ++ c :: s :=
  (skipSpace_front hc h).resolve_left fun h => ha h.2.1

theorem skipSpace_append_stop (hc : IsStop c) (ht : Resumes c t) (x : List Char) :
    skipSpace (x ++ t) = skipSpace x ++ t := skipSpace_append (ht.breaks hc.notSpace) x

theorem skipSpace_cons_append (hc : IsStop c) (ht : Resumes c t) (hx : skipSpace x = a :: y) :
    skipSpace (x ++ t) = a :: (y ++ t) := by
  rw [skipSpace_append_stop hc ht, hx]
  rfl

theorem skipSpace_nil_append (hc : IsStop c) (ht : Resumes c t) (hx : skipSpace x = []) :
    skipSpace (x ++ t) = t := by
  rw [skipSpace_append_stop hc ht, hx]
  rfl

mutual

/-- A reading of a value that leaves the stop character goes on the same way without it. -/
theorem ReadsValue.retext (hc : IsStop c) (ht : Resumes c t) {depth y v q}
    (h : ReadsValue depth y v q) : ∀ x r, y = x ++ c :: s → q = r ++ c :: s →
      ReadsValue depth (x ++ t) v (r ++ t) :=
  match h with
  | .blank _ => by
    intro x r _ hq
    simp at hq
  | .quoted hs hd hv => by
    rintro x r rfl rfl
    have ha := hc.ne_of_mem (quote_mem_marks hd)
    obtain ⟨z, hx, rfl⟩ := skipSpace_inside hc hs ha
    exact .quoted (skipSpace_cons_append hc ht hx) hd (quoted_retext ha hv t)
  | .pattern hs hv => by
    rintro x r rfl rfl
    obtain ⟨z, hx, rfl⟩ := skipSpace_inside hc hs (hc.ne_of_mem (by simp [marks]))
    exact .pattern (skipSpace_cons_append hc ht hx) (patternLiteral_retext hc ht hv)
  | .list hs hd hi => by
    have ih := hi.retext hc ht
    rintro x r rfl rfl
    obtain ⟨z, hx, rfl⟩ := skipSpace_inside hc hs (hc.ne_of_mem (by simp [marks]))
    exact .list (skipSpace_cons_append hc ht hx) hd (ih _ _ rfl rfl)
  | .number hs ha hv => by
    rintro x r rfl rfl
    obtain ⟨z, hx, rfl⟩ := skipSpace_inside hc hs fun e => by simp [e, hc.notNumber] at ha
    rw [← List.cons_append, numberLiteral_append (breaks_cons.mpr hc.notNumber)] at hv
    obtain ⟨rfl, hr⟩ := Prod.mk.inj hv
    refine .number (skipSpace_cons_append hc ht hx) ha ?_
    rw [← List.cons_append, numberLiteral_append (ht.breaks hc.notNumber),
      List.append_cancel_right hr]
  | .constant hs hm hd ha hv => by
    rintro x r rfl rfl
    rcases skipSpace_front hc hs with ⟨hx, rfl, rfl⟩ | ⟨z, hx, rfl⟩
    · obtain ⟨rfl, hr⟩ := ReadsValue.of_stop hc
        (.constant (skipSpace_at_stop hc resumes_cons) hm hd ha hv)
      rw [List.self_eq_append_left.mp hr.symm]
      exact readsValue_at_stop hc ht (skipSpace_nil_append hc ht hx) _
    · rw [← List.cons_append, constant_append (breaks_cons.mpr hc.notWord)] at hv
      obtain ⟨rfl, hr⟩ := Prod.mk.inj hv
      refine .constant (skipSpace_cons_append hc ht hx) hm hd ha ?_
      rw [← List.cons_append, constant_append (ht.breaks hc.notWord),
        List.append_cancel_right hr]
termination_by structural h

theorem ReadsItems.retext (hc : IsStop c) (ht : Resumes c t) {depth acc y v q}
    (h : ReadsItems depth acc y v q) : ∀ x r, y = x ++ c :: s → q = r ++ c :: s →
      ReadsItems depth acc (x ++ t) v (r ++ t) :=
  match h with
  | .blank _ => by
    intro x r _ hq
    simp at hq
  | .close hs => by
    rintro x r rfl rfl
    obtain ⟨z, hx, hz⟩ := skipSpace_inside hc hs (hc.ne_of_mem (by simp [marks]))
    rw [List.append_cancel_right hz]
    exact .close (skipSpace_cons_append hc ht hx)
  | .comma hs hi => by
    have ih := hi.retext hc ht
    rintro x r rfl rfl
    obtain ⟨z, hx, rfl⟩ := skipSpace_inside hc hs (hc.ne_of_mem (by simp [marks]))
    exact .comma (skipSpace_cons_append hc ht hx) (ih _ _ rfl rfl)
  | .item hs hm hv hl hi => by
    have ihv := hv.retext hc ht
    have ihi := hi.retext hc ht
    rintro x r rfl rfl
    rcases skipSpace_front hc hs with ⟨hx, rfl, rfl⟩ | ⟨z, hx, rfl⟩
    · -- a value that starts at the stop takes nothing, so no item is read there
      rw [(hv.of_stop hc).2] at hl
      exact absurd hl (Nat.lt_irrefl _)
    · obtain ⟨r', rfl⟩ := exists_append_of_suffix_append (x := _ :: z) hi.suffix hv.suffix
      refine .item (skipSpace_cons_append hc ht hx) hm (ihv (_ :: z) r' rfl rfl) ?_
        (ihi _ _ rfl rfl)
      simp only [List.length_append, List.length_cons] at hl ⊢
      omega
  | .stuck hs hm hv hl => by
    have ihv := hv.retext hc ht
    rintro x r rfl rfl
    rcases skipSpace_front hc hs with ⟨hx, rfl, rfl⟩ | ⟨z, hx, rfl⟩
    · rw [List.self_eq_append_left.mp (hv.of_stop hc).2.symm]
      exact readsItems_at_stop hc ht (skipSpace_nil_append hc ht hx) _ _
    · refine .stuck (skipSpace_cons_append hc ht hx) hm (ihv (_ :: z) _ rfl rfl) ?_
      simp only [List.length_append, List.length_cons] at hl ⊢
      omega
termination_by structural h

end

/-! ## Terms and expressions -/

theorem ReadsTerm.of_stop {f : Option Filter} (hc : IsStop c)
    (h : ReadsTerm depth (c :: s) f rest) : f = none ∧ rest = c :: s :=
  h.unique (readsTerm_at_stop hc resumes_cons depth)

theorem skipSpace_afterWord_append (hc : IsStop c) (ht : Resumes c t) (x : List Char) :
    skipSpace (afterWord (x ++ t)) = skipSpace (afterWord x) ++ t := by
  rw [afterWord_append hc ht, skipSpace_append_stop hc ht]

theorem word?_operators_append (hc : IsStop c) (ht : Resumes c t) (x : List Char) :
    word? operators (x ++ t) = (word? operators x).map fun (op, rest) => (op, rest ++ t) :=
  word?_append isWordChar_operators (ht.breaks hc.notWord) x

theorem ReadsTerm.retext {f : Option Filter} (hc : IsStop c) (ht : Resumes c t)
    (h : ReadsTerm depth y f q) (hy : y = x ++ c :: s) (hq : q = r ++ c :: s) :
    ReadsTerm depth (x ++ t) f (r ++ t) := by
  subst hy
  have hs : Resumes c (c :: s) := resumes_cons
  cases h with
  | text hf hv =>
    refine .text (by rwa [frontWord_append hc ht, ← frontWord_append hc hs]) ?_
    rw [afterWord_append hc ht]
    exact hv.retext hc ht _ _ (afterWord_append hc hs x) hq
  | noOperator hf ho =>
    rw [skipSpace_afterWord_append hc hs] at ho hq
    rw [word?_operators_append hc hs, Option.map_eq_none_iff] at ho
    rw [← List.append_cancel_right hq, ← skipSpace_afterWord_append hc ht]
    refine .noOperator (by rwa [frontWord_append hc ht, ← frontWord_append hc hs]) ?_
    rw [skipSpace_afterWord_append hc ht, word?_operators_append hc ht, ho]
    rfl
  | comparison hf ho hv =>
    rw [skipSpace_afterWord_append hc hs, word?_operators_append hc hs] at ho
    obtain ⟨⟨op, z⟩, hz, he⟩ := Option.map_eq_some_iff.mp ho
    obtain ⟨rfl, rfl⟩ := Prod.mk.inj he
    rw [frontWord_append hc hs, ← frontWord_append hc ht]
    refine .comparison (by rwa [frontWord_append hc ht, ← frontWord_append hc hs]) ?_
      (hv.retext hc ht _ _ rfl hq)
    rw [skipSpace_afterWord_append hc ht, word?_operators_append hc ht, hz]
    rfl

/-- A stop that is left unread does not close the group before it. -/
theorem closeGroup_append (h : closeGroup (x ++ c :: s) = r ++ c :: s) (ht : Resumes c t) :
    closeGroup (x ++ t) = r ++ t := by
  cases x with
  | nil =>
    by_cases hc : c = ')'
    · subst hc
      have := congrArg List.length h
      simp only [List.nil_append, closeGroup, List.length_append, List.length_cons] at this
      omega
    · have hclose : ∀ {u}, Resumes c u → closeGroup u = u := by
        intro u hu
        rcases hu.eq_nil_or_cons with rfl | ⟨w, rfl⟩
        · rfl
        · simp [closeGroup, hc]
      rw [List.nil_append, hclose resumes_cons] at h
      rw [List.self_eq_append_left.mp h, List.nil_append, hclose ht]
  | cons a x =>
    by_cases ha : a = ')'
    · subst ha
      rw [← List.append_cancel_right (show x ++ c :: s = r ++ c :: s from h)]
      rfl
    · have hclose : ∀ u, closeGroup (a :: u) = a :: u := fun u => by simp [closeGroup, ha]
      rw [List.cons_append, hclose, ← List.cons_append] at h
      rw [List.cons_append, hclose, ← List.append_cancel_right h, List.cons_append]

theorem keyword?_append_stop (hc : IsStop c) (ht : Resumes c t) (x : List Char) :
    keyword? (x ++ t) = (keyword? x).map fun (k, rest) => (k, rest ++ t) :=
  keyword?_append_breaks (ht.breaks hc.notField) x

theorem readsExpression_at_stop (hc : IsStop c) (ht : Resumes c t) (hs : skipSpace s = t)
    (depth : Nat) (op : Option Connective) (terms : List Filter) :
    ReadsExpression depth op terms s (ofTerms op terms.reverse) t := by
  rcases ht.eq_nil_or_cons with rfl | ⟨u, rfl⟩
  · exact .blank hs
  · have hk : keyword? (c :: u) = none := keyword?_append_stop hc ht []
    exact .stuck hs (hc.ne_of_mem (by simp [marks])).symm hk (readsTerm_at_stop hc ht depth)

theorem ReadsExpression.retext {op : Option Connective} {terms : List Filter} {f : Filter}
    (hc : IsStop c) (ht : Resumes c t) (h : ReadsExpression depth op terms y f q)
    (hy : y = x ++ c :: s) (hq : q = r ++ c :: s) :
    ReadsExpression depth op terms (x ++ t) f (r ++ t) := by
  induction h generalizing x r with
  | blank => simp at hq
  | tooDeep => simp at hq
  | group hs hd hg hr ihg ihr =>
    subst hy hq
    obtain ⟨z, hx, rfl⟩ := skipSpace_inside hc hs (hc.ne_of_mem (by simp [marks]))
    obtain ⟨r1, hr1⟩ := exists_append_of_suffix_append hr.suffix
      ((closeGroup_suffix _).trans hg.suffix)
    obtain ⟨r2, rfl⟩ := exists_append_of_suffix_append (hr1 ▸ closeGroup_suffix _) hg.suffix
    exact .group (skipSpace_cons_append hc ht hx) hd (ihg rfl rfl)
      (closeGroup_append hr1 ht ▸ ihr hr1 rfl)
  | keyword hs ha hk hr ihr =>
    subst hy hq
    rcases skipSpace_front hc hs with ⟨-, hac, -⟩ | ⟨z, hx, rfl⟩
    · rw [hac, ← List.nil_append (c :: _), keyword?_append_stop hc resumes_cons] at hk
      cases hk
    · rw [← List.cons_append, keyword?_append_stop hc resumes_cons] at hk
      obtain ⟨⟨k, r'⟩, hz, he⟩ := Option.map_eq_some_iff.mp hk
      obtain ⟨rfl, rfl⟩ := Prod.mk.inj he
      refine .keyword (skipSpace_cons_append hc ht hx) ha ?_ (ihr rfl rfl)
      rw [← List.cons_append, keyword?_append_stop hc ht, hz]
      rfl
  | term hs ha hk hf hr ihr =>
    subst hy hq
    rcases skipSpace_front hc hs with ⟨hx, rfl, rfl⟩ | ⟨z, hx, rfl⟩
    · cases (hf.of_stop hc).1
    · rw [← List.cons_append, keyword?_append_stop hc resumes_cons,
        Option.map_eq_none_iff] at hk
      obtain ⟨r', rfl⟩ := exists_append_of_suffix_append (x := _ :: z) hr.suffix hf.suffix
      refine .term (skipSpace_cons_append hc ht hx) ha ?_
        (hf.retext (x := _ :: z) hc ht rfl rfl) (ihr rfl rfl)
      rw [← List.cons_append, keyword?_append_stop hc ht, hk]
      rfl
  | stuck hs ha hk hf =>
    subst hy hq
    rcases skipSpace_front hc hs with ⟨hx, rfl, rfl⟩ | ⟨z, hx, rfl⟩
    · rw [List.self_eq_append_left.mp (hf.of_stop hc).2.symm]
      exact readsExpression_at_stop hc ht (skipSpace_nil_append hc ht hx) _ _ _
    · rw [← List.cons_append, keyword?_append_stop hc resumes_cons,
        Option.map_eq_none_iff] at hk
      refine .stuck (skipSpace_cons_append hc ht hx) ha ?_ (hf.retext (x := _ :: z) hc ht rfl rfl)
      rw [← List.cons_append, keyword?_append_stop hc ht, hk]
      rfl

/-! ## Texts -/

@[simp] theorem byteLength_nil : byteLength [] = 0 := rfl

@[simp] theorem byteLength_cons (c : Char) (s : List Char) :
    byteLength (c :: s) = c.utf8Size + byteLength s := by
  have hadd : ∀ n, s.foldl (fun n c => n + c.utf8Size) n = n + byteLength s := by
    unfold byteLength
    induction s with
    | nil => simp
    | cons a s ih =>
      intro n
      rw [List.foldl_cons, List.foldl_cons, ih, ih (0 + _)]
      omega
  rw [byteLength, List.foldl_cons, hadd]
  omega

@[simp] theorem byteLength_append (s t : List Char) :
    byteLength (s ++ t) = byteLength s + byteLength t := by
  induction s with
  | nil => simp
  | cons a s ih => simp [ih, Nat.add_assoc]

/-- Two ends of one text are the same if they take as many bytes. -/
theorem eq_of_suffix_of_byteLength (hq : q <:+ x) (hr : r <:+ x)
    (h : byteLength q = byteLength r) : q = r := by
  have hnil : ∀ {w u : List Char}, byteLength (w ++ u) = byteLength u → w = [] := by
    intro w u hw
    cases w with
    | nil => rfl
    | cons a w =>
      have := a.utf8Size_pos
      simp only [List.cons_append, byteLength_cons, byteLength_append] at hw
      omega
  rcases List.suffix_or_suffix_of_suffix hq hr with ⟨w, rfl⟩ | ⟨w, rfl⟩
  · rw [hnil h.symm, List.nil_append]
  · rw [hnil h, List.nil_append]

theorem read_append_stop {p : String} (hc : IsStop c) (h : unparsed (p.push c) = c.utf8Size) :
    ∀ t, Resumes c t → expression 0 none [] (p.toList ++ t) = (parse p, t) := by
  have hrest : (read (p.push c)).2 = [c] := by
    refine eq_of_suffix_of_byteLength (read_suffix _) ?_ ?_
    · rw [String.toList_push]
      exact List.suffix_append _ _
    · rw [byteLength_cons]
      exact h
  have hrun := reads_read (p.push c)
  rw [hrest, String.toList_push] at hrun
  have hall : ∀ t, Resumes c t → expression 0 none [] (p.toList ++ t) = (parse (p.push c), t) :=
    fun t ht => (hrun.retext (r := []) hc ht rfl rfl).expression_eq
  have hp : parse p = parse (p.push c) := by
    have := hall [] resumes_nil
    rw [List.append_nil] at this
    rw [parse, read, this]
  rwa [hp]

/-- A text is cut off at a stop character that reading leaves over, with all that follows. -/
theorem parse_append_stop (p s : String) (c : Char) (hc : IsStop c)
    (h : unparsed (p.push c) = c.utf8Size) :
    parse (p.push c ++ s) = parse p ∧ unparsed (p.push c ++ s) = byteLength (c :: s.toList) := by
  have hread : read (p.push c ++ s) = (parse p, c :: s.toList) := by
    rw [read, String.toList_append, String.toList_push, List.append_assoc]
    exact read_append_stop hc h _ resumes_cons
  rw [unparsed, parse, hread]
  exact ⟨rfl, rfl⟩

theorem parse_append_stop_in_list :
    IsStop '@' ∧ unparsed ("(a = \"b\" or c in [\"d\", ".push '@') = '@'.utf8Size ∧
      parse ("(a = \"b\" or c in [\"d\", ".push '@' ++ "] and /e/)") =
        parse "(a = \"b\" or c in [\"d\", " := by
  have hc : IsStop '@' := ⟨by decide, by decide, by decide, by decide⟩
  have hu : unparsed ("(a = \"b\" or c in [\"d\", ".push '@') = '@'.utf8Size := by cbv
  exact ⟨hc, hu, (parse_append_stop _ "] and /e/)" '@' hc hu).1⟩

end RecordFilter.Filter
