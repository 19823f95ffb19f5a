import RecordFilter.Proofs.Reading.Truncation

/-!
# The grammar of filters

The spellings of literals, terms and filters, with every way to lay them out, and the proof that
reading takes each of them whole and gives what is spelled. Words and signs may touch: only a
number that goes on with a number character and a pattern that goes on with a letter would be read
as something else. Spellings are indexed by the depth at which they stand.
-/

namespace RecordFilter

/-- What may follow a literal without becoming a part of it. -/
def Literal.EndsBefore (t : List Char) : Literal → Prop
  | number _ => Filter.Breaks Filter.isNumberChar t
  | pattern _ => Filter.Breaks Filter.isFlagChar t
  | _ => True

/-- The operators written as words. -/
def Operator.isWord : Operator → Bool
  | isIn | containsAny | containsAll => true
  | _ => false

namespace Filter

def EndsBefore (t : List Char) : Filter → Prop
  | joined _ _ => True
  | text v => v.EndsBefore t
  | comparison _ _ v => v.EndsBefore t

/-- The characters between the items of a list. -/
def isSeparator (c : Char) : Bool := isSpace c || c == ','

mutual

/-- The spellings of a literal. -/
inductive SpellsValue : Nat → List Char → Literal → Prop
  | string (hq : quote = '"' ∨ quote = '\'') (hb : quote ∉ body) :
      SpellsValue depth (quote :: (body ++ [quote])) (.string (String.ofList body))
  | pattern (hb : '/' ∉ body) (hf : ∀ c ∈ flags, isFlagChar c) :
      SpellsValue depth ('/' :: (body ++ '/' :: flags))
        (.pattern { source := String.ofList body, flags := String.ofList flags })
  | number (hr : ∀ c ∈ run, isNumberChar c) (hx : Binary64.ofPositional? run = some x) :
      SpellsValue depth run (.number x)
  | constant (hv : (w, v) ∈ constants) : SpellsValue depth w v
  | list (hd : depth < maxNesting) (hi : SpellsItems (depth + 1) w vs) :
      SpellsValue depth ('[' :: (w ++ [']'])) (.list vs)

/-- The spellings of the items of a list, separators included. A run of number characters that is
no number spells nothing. -/
inductive SpellsItems : Nat → List Char → List Literal → Prop
  | done (hs : ∀ c ∈ sep, isSeparator c) : SpellsItems depth sep []
  | item (hs : ∀ c ∈ sep, isSeparator c) (hv : SpellsValue depth w v)
      (hy : ∀ c ∈ y.head?, isSeparator c) (hi : SpellsItems depth y vs) :
      SpellsItems depth (sep ++ (w ++ y)) (v :: vs)
  | dropped (hs : ∀ c ∈ sep, isSeparator c) (hr : ∀ c ∈ run, isNumberChar c) (hne : run ≠ [])
      (hx : Binary64.ofPositional? run = none) (hy : ∀ c ∈ y.head?, isSeparator c)
      (hi : SpellsItems depth y vs) : SpellsItems depth (sep ++ (run ++ y)) vs

end

/-- The spellings of a term. A value that starts like a field stands after a `0`; one that starts
with a quote, a slash, a bracket or a minus sign stands for itself. -/
inductive SpellsTerm : Nat → List Char → Filter → Prop
  | comparison {op : Operator} (hf : IsField field) (hs : ∀ c ∈ sp, isSpace c)
      (hop : op.isWord → sp ≠ []) (hs' : ∀ c ∈ sp', isSpace c) (hv : SpellsValue depth w v) :
      SpellsTerm depth (field ++ (sp ++ (op.text.toList ++ (sp' ++ w))))
        (.comparison (String.ofList field) op v)
  | text (hv : SpellsValue depth w v) (hw : ∀ c ∈ w.head?, isFieldChar c = false) :
      SpellsTerm depth w (.text v)
  | afterZero (hs : ∀ c ∈ sp, isSpace c) (hne : sp ≠ []) (hv : SpellsValue depth w v) :
      SpellsTerm depth ('0' :: (sp ++ w)) (.text v)

/-- The spellings of an expression, by its last keyword, if there is one, and its terms. -/
inductive SpellsExpression : Nat → List Char → Option Connective → List Filter → Prop
  | done (hs : ∀ c ∈ sp, isSpace c) : SpellsExpression depth sp none []
  | term (hs : ∀ c ∈ sp, isSpace c) (ht : SpellsTerm depth w t) (hb : t.EndsBefore y)
      (hr : SpellsExpression depth y op terms) :
      SpellsExpression depth (sp ++ (w ++ y)) op (t :: terms)
  | keyword (hs : ∀ c ∈ sp, isSpace c) (hk : IsKeyword w k)
      (hr : SpellsExpression depth y op terms) :
      SpellsExpression depth (sp ++ (w ++ y)) (op.or (some k)) terms
  | group (hs : ∀ c ∈ sp, isSpace c) (hd : depth < maxNesting)
      (hg : SpellsExpression (depth + 1) w op' group)
      (hr : SpellsExpression depth y op terms) :
      SpellsExpression depth (sp ++ '(' :: (w ++ ')' :: y)) op (ofTerms op' group :: terms)

/-- The spellings of a whole filter. -/
def Spells (text : String) (f : Filter) : Prop :=
  ∃ op terms, SpellsExpression 0 text.toList op terms ∧ f = ofTerms op terms

variable {p : Char → Bool} {c : Char} {s t w x y rest sep : List Char} {depth : Nat}
variable {v : Literal} {vs acc : List Literal} {f : Filter} {op : Option Connective}
variable {terms : List Filter}

/-! ## Values -/

theorem breaks_append (hx : Breaks p x) (ht : Breaks p t) : Breaks p (x ++ t) := by
  cases x with
  | nil => exact ht
  | cons c x => exact breaks_cons.mpr (breaks_cons.mp hx)

theorem endsBefore_of_breaks (hn : Breaks isNumberChar t) (hf : Breaks isFlagChar t)
    (v : Literal) : v.EndsBefore t := by
  cases v with
  | number => exact hn
  | pattern => exact hf
  | _ => trivial

theorem readsValue_constant (hv : (w, v) ∈ constants) (depth : Nat) (t : List Char) :
    ReadsValue depth (w ++ t) (some v) t := by
  rcases mem_constants hv with ⟨rfl, rfl⟩ | ⟨rfl, rfl⟩ | ⟨rfl, rfl⟩ <;>
    exact .constant (skipSpace_cons rfl) ⟨by decide, by decide, by decide⟩
      (fun h => absurd h (by decide)) rfl rfl

theorem patternLiteral_run {body flags : List Char} (hb : '/' ∉ body)
    (hf : ∀ c ∈ flags, isFlagChar c) (ht : Breaks isFlagChar t) :
    patternLiteral (body ++ '/' :: (flags ++ t)) =
      (some (.pattern { source := String.ofList body, flags := String.ofList flags }), t) := by
  rw [patternLiteral_append hb, ht.takeWhile_run hf, ht.dropWhile_run hf]

theorem numberLiteral_run (hr : ∀ c ∈ x, isNumberChar c) (ht : Breaks isNumberChar t) :
    numberLiteral (x ++ t) = ((Binary64.ofPositional? x).map .number, t) := by
  rw [numberLiteral, ht.takeWhile_run hr, ht.dropWhile_run hr]

/-- A number run is read as one value, or as none if it is no number. -/
theorem readsValue_run (hne : x ≠ []) (hr : ∀ c ∈ x, isNumberChar c)
    (ht : Breaks isNumberChar t) (depth : Nat) :
    ReadsValue depth (x ++ t) ((Binary64.ofPositional? x).map .number) t := by
  obtain ⟨c, r, rfl⟩ := List.exists_cons_of_ne_nil hne
  have hc := hr c (by simp)
  exact .number (skipSpace_cons (isSpace_of_isNumberChar hc)) hc (numberLiteral_run hr ht)

theorem number_ne_nil {x : Binary64} (h : Binary64.ofPositional? w = some x) : w ≠ [] := by
  rintro rfl
  simp [Binary64.ofPositional?, Binary64.ofUnsigned?] at h

/-- The spelling of a value starts with no space, and with nothing that would be read as something
else in a list, after an operator or in an expression. -/
def StartsValue (c : Char) : Prop := isSpace c = false ∧ c ∉ [']', ',', '=', '(']

theorem startsValue_of_isNumberChar (h : isNumberChar c) : StartsValue c := by
  refine ⟨isSpace_of_isNumberChar h, fun hm => ?_⟩
  simp only [List.mem_cons, List.not_mem_nil, or_false] at hm
  rcases hm with rfl | rfl | rfl | rfl <;> cases h

theorem SpellsValue.head (h : SpellsValue depth w v) : ∃ c r, w = c :: r ∧ StartsValue c := by
  cases h with
  | string hq =>
    refine ⟨_, _, rfl, ?_⟩
    rcases hq with rfl | rfl <;> exact ⟨by decide, by decide⟩
  | pattern => exact ⟨_, _, rfl, by decide, by decide⟩
  | number hr hx =>
    obtain ⟨c, r, rfl⟩ := List.exists_cons_of_ne_nil (number_ne_nil hx)
    exact ⟨c, r, rfl, startsValue_of_isNumberChar (hr c (by simp))⟩
  | constant hv =>
    rcases mem_constants hv with ⟨rfl, -⟩ | ⟨rfl, -⟩ | ⟨rfl, -⟩ <;>
      exact ⟨_, _, rfl, by decide, by decide⟩
  | list => exact ⟨_, _, rfl, by decide, by decide⟩

theorem ReadsItems.separators {v : Option Literal} (hs : ∀ c ∈ sep, isSeparator c)
    (h : ReadsItems depth acc s v rest) : ReadsItems depth acc (sep ++ s) v rest := by
  induction sep with
  | nil => exact h
  | cons c sep ih =>
    have hrest := ih fun a ha => hs a (by simp [ha])
    have hc : isSpace c ∨ c = ',' := by simpa [isSeparator] using hs c (by simp)
    rcases hc with hc | rfl
    · exact hrest.of_skipSpace (skipSpace_spaces_append (x := [c]) (by simpa using hc) _)
    · exact .comma (skipSpace_cons (by decide)) hrest

theorem not_of_isSeparator (hs : [' ', '\t', '\n', '\r', '\x0b', '\x0c'].any p = false)
    (hcomma : p ',' = false) (h : isSeparator c) : p c = false := by
  rw [isSeparator, Bool.or_eq_true, beq_iff_eq] at h
  rcases h with h | rfl
  · by_contra hp
    rw [isSpace_of_class hs (by simpa using hp)] at h
    cases h
  · exact hcomma

/-- An item is followed by a separator or by the end of the list, so it is not read further. -/
theorem breaks_item (hy : ∀ c ∈ y.head?, isSeparator c)
    (hs : [' ', '\t', '\n', '\r', '\x0b', '\x0c'].any p = false) (hcomma : p ',' = false)
    (hclose : p ']' = false) (t : List Char) : Breaks p (y ++ ']' :: t) :=
  breaks_append (fun c hc => not_of_isSeparator hs hcomma (hy c hc)) (breaks_cons.mpr hclose)

theorem ReadsItems.item_append {u v : Option Literal} (hs : ∀ c ∈ sep, isSeparator c)
    (hw : ∃ c r, w = c :: r ∧ StartsValue c) (hu : ReadsValue depth (w ++ s) u s)
    (h : ReadsItems depth (u.toList ++ acc) s v rest) :
    ReadsItems depth acc (sep ++ (w ++ s)) v rest := by
  obtain ⟨c, r, rfl, hc, hm⟩ := hw
  have hc' : c ≠ ']' ∧ c ≠ ',' := by
    constructor <;> rintro rfl <;> simp at hm
  have hl : s.length < (c :: (r ++ s)).length := by
    simp only [List.length_cons, List.length_append]
    omega
  exact .separators hs (.item (skipSpace_cons hc) hc' hu hl h)

mutual

theorem SpellsValue.reads {depth w v} (h : SpellsValue depth w v) :
    ∀ t, v.EndsBefore t → ReadsValue depth (w ++ t) (some v) t :=
  match h with
  | .string hq hb => by
    intro t _
    refine .quoted (skipSpace_cons ?_) hq (by simpa using quoted_append hb t)
    rcases hq with rfl | rfl <;> decide
  | .pattern hb hf => by
    intro t ht
    exact .pattern (skipSpace_cons (by decide)) (by simpa using patternLiteral_run hb hf ht)
  | .number hr hx => by
    intro t ht
    have hread := readsValue_run (number_ne_nil hx) hr ht depth
    rwa [hx] at hread
  | .constant hv => fun t _ => readsValue_constant hv depth t
  | .list hd hi => by
    have ih := hi.reads
    intro t _
    exact .list (skipSpace_cons (by decide)) hd (by simpa using ih [] t)
termination_by structural h

theorem SpellsItems.reads {depth w vs} (h : SpellsItems depth w vs) :
    ∀ acc t, ReadsItems depth acc (w ++ ']' :: t) (some (.list (acc.reverse ++ vs))) t :=
  match h with
  | .done hs => by
    intro acc t
    rw [List.append_nil]
    exact .separators hs (.close (skipSpace_cons (by decide)))
  | .item hs hv hy hi => by
    have ihv := hv.reads
    have ihi := hi.reads
    intro acc t
    have hread := ihv _ (endsBefore_of_breaks (breaks_item hy rfl rfl rfl t)
      (breaks_item hy rfl rfl rfl t) _)
    simpa using ReadsItems.item_append hs hv.head hread (by simpa using ihi (_ :: acc) t)
  | .dropped hs hr hne hx hy hi => by
    have ihi := hi.reads
    intro acc t
    have hread := readsValue_run hne hr (breaks_item hy rfl rfl rfl t) depth
    rw [hx] at hread
    obtain ⟨c, r, rfl⟩ := List.exists_cons_of_ne_nil hne
    have hhead := startsValue_of_isNumberChar (hr c (by simp))
    simpa using ReadsItems.item_append hs ⟨c, r, rfl, hhead⟩ hread (by simpa using ihi acc t)
termination_by structural h

end

theorem ReadsValue.spaces {v : Option Literal} (hs : ∀ c ∈ x, isSpace c)
    (h : ReadsValue depth s v rest) : ReadsValue depth (x ++ s) v rest :=
  h.of_skipSpace (skipSpace_spaces_append hs s)

/-! ## Terms -/

theorem breaks_of_spaces (hs : ∀ c ∈ x, isSpace c) (hne : x ≠ []) (t : List Char) :
    Breaks isFieldChar (x ++ t) := by
  obtain ⟨c, r, rfl⟩ := List.exists_cons_of_ne_nil hne
  refine breaks_cons.mpr ?_
  by_contra hc
  have := hs c (by simp)
  rw [isSpace_of_isFieldChar (by simpa using hc)] at this
  cases this

/-- A field ends at its operator: a sign is no part of a word, and a word has a space before it. -/
theorem breaks_operator {o : Operator} (hs : ∀ c ∈ x, isSpace c) (ho : o.isWord → x ≠ [])
    (t : List Char) : Breaks isFieldChar (x ++ (o.text.toList ++ t)) := by
  by_cases hx : x = []
  · subst hx
    cases o with
    | isIn | containsAny | containsAll => exact absurd rfl (ho rfl)
    | _ => exact breaks_cons.mpr (by decide)
  · exact breaks_of_spaces hs hx _

theorem skipSpace_operator (o : Operator) (hs : ∀ c ∈ x, isSpace c) (t : List Char) :
    skipSpace (x ++ (o.text.toList ++ t)) = o.text.toList ++ t := by
  rw [skipSpace_spaces_append hs]
  cases o <;> exact skipSpace_cons rfl

/-- No value starts with the sign that would make another operator of the one before it. -/
theorem SpellsValue.head_ne (hv : SpellsValue depth w v) (hs : ∀ c ∈ x, isSpace c)
    (t : List Char) : (x ++ (w ++ t)).head? ≠ some '=' := by
  intro h
  cases x with
  | nil =>
    obtain ⟨c, r, rfl, -, hm⟩ := hv.head
    cases h
    simp at hm
  | cons c x =>
    cases h
    cases hs '=' (by simp)

theorem frontWord_run (hne : w ≠ []) (hw : ∀ c ∈ w, isFieldChar c) (ht : Breaks isFieldChar t) :
    frontWord (w ++ t) = w ∧ afterWord (w ++ t) = t := by
  obtain ⟨c, r, rfl⟩ := List.exists_cons_of_ne_nil hne
  have hskip : skipSpace (c :: r ++ t) = c :: r ++ t :=
    skipSpace_cons (isSpace_of_isFieldChar (hw c (by simp)))
  rw [frontWord, afterWord, hskip]
  exact ⟨ht.takeWhile_run hw, ht.dropWhile_run hw⟩

theorem isNoField_of_isField (h : IsField w) : isNoField w = false := by
  simp [isNoField, h.ne_nil, h.ne_zero]

theorem readsTerm_comparison {field sp sp' : List Char} {o : Operator} (hf : IsField field)
    (hs : ∀ c ∈ sp, isSpace c) (ho : o.isWord → sp ≠ []) (hs' : ∀ c ∈ sp', isSpace c)
    (hv : SpellsValue depth w v) (hb : v.EndsBefore t) :
    ReadsTerm depth (field ++ (sp ++ (o.text.toList ++ (sp' ++ (w ++ t)))))
      (some (.comparison (String.ofList field) o v)) t := by
  have hbreaks := breaks_operator hs ho (sp' ++ (w ++ t))
  obtain ⟨hfront, hafter⟩ := frontWord_run hf.ne_nil hf.fieldChars hbreaks
  have hop := word?_operators o (hv.head_ne hs' t)
  have hvalue := (hv.reads t hb).spaces hs'
  rw [← skipSpace_operator o hs, ← hafter] at hop
  have hterm := ReadsTerm.comparison (by rw [hfront]; exact isNoField_of_isField hf) hop hvalue
  rwa [hfront] at hterm

theorem readsTerm_text (hv : SpellsValue depth w v) (hw : ∀ c ∈ w.head?, isFieldChar c = false)
    (hb : v.EndsBefore t) : ReadsTerm depth (w ++ t) (some (.text v)) t := by
  have hread := hv.reads t hb
  obtain ⟨c, r, rfl, hc, -⟩ := hv.head
  have hskip : skipSpace (c :: r ++ t) = c :: r ++ t := skipSpace_cons hc
  have hbreaks : Breaks isFieldChar (c :: r ++ t) := breaks_cons.mpr (hw c rfl)
  rw [← hbreaks.dropWhile_eq_self, ← hskip] at hread
  have hfront : frontWord (c :: r ++ t) = [] := by
    rw [frontWord, hskip, hbreaks.takeWhile_eq_nil]
  exact .text (v := some v) (by rw [hfront]; rfl) hread

theorem readsTerm_afterZero {sp : List Char} (hs : ∀ c ∈ sp, isSpace c) (hne : sp ≠ [])
    (hv : SpellsValue depth w v) (hb : v.EndsBefore t) :
    ReadsTerm depth ('0' :: (sp ++ (w ++ t))) (some (.text v)) t := by
  have hbreaks := breaks_of_spaces hs hne (w ++ t)
  have hzero : ∀ c ∈ ['0'], isFieldChar c := by
    intro c hc
    rw [List.mem_singleton.mp hc]
    rfl
  obtain ⟨hfront, hafter⟩ := frontWord_run (List.cons_ne_nil _ _) hzero hbreaks
  have hvalue := (hv.reads t hb).spaces hs
  rw [← hafter] at hvalue
  exact .text (v := some v) (by rw [← List.singleton_append, hfront]; rfl) hvalue

theorem SpellsTerm.reads (h : SpellsTerm depth w f) (hb : f.EndsBefore t) :
    ReadsTerm depth (w ++ t) (some f) t := by
  cases h with
  | comparison hf hs ho hs' hv => simpa using readsTerm_comparison hf hs ho hs' hv hb
  | text hv hw => exact readsTerm_text hv hw hb
  | afterZero hs hne hv => simpa using readsTerm_afterZero hs hne hv hb

/-- A term starts with a field or with a character that no keyword starts with. -/
theorem SpellsTerm.head (h : SpellsTerm depth w f) (t : List Char) :
    ∃ c r, w = c :: r ∧ isSpace c = false ∧ c ≠ '(' ∧ keyword? (c :: (r ++ t)) = none := by
  cases h with
  | @comparison _ _ sp' _ w _ _ hf hs ho =>
    have hkeyword := hf.keyword?_eq_none (breaks_operator hs ho (sp' ++ (w ++ t)))
    obtain ⟨c, r, rfl⟩ := List.exists_cons_of_ne_nil hf.ne_nil
    have hc : isFieldChar c := hf.fieldChars c (by simp)
    have hne : c ≠ '(' := by
      rintro rfl
      cases hc
    exact ⟨c, _, rfl, isSpace_of_isFieldChar hc, hne, by simpa using hkeyword⟩
  | text hv hw =>
    obtain ⟨c, r, rfl, hc, hm⟩ := hv.head
    refine ⟨c, r, rfl, hc, fun h => by simp [h] at hm, ?_⟩
    exact keyword?_append_breaks (breaks_cons.mpr (hw c rfl)) []
  | afterZero hs hne =>
    refine ⟨_, _, rfl, by decide, by decide, ?_⟩
    rw [List.append_assoc, ← List.singleton_append,
      keyword?_append_breaks (breaks_of_spaces hs hne _)]
    rfl

/-! ## Expressions -/

theorem EndsBefore.append (h : f.EndsBefore y) (ht : Resumes ')' t) : f.EndsBefore (y ++ t) := by
  have hliteral : ∀ v : Literal, v.EndsBefore y → v.EndsBefore (y ++ t) := by
    intro v hv
    cases v with
    | number => exact breaks_append hv (ht.breaks rfl)
    | pattern => exact breaks_append hv (ht.breaks rfl)
    | _ => trivial
  cases f with
  | joined => trivial
  | text v => exact hliteral v h
  | comparison _ _ v => exact hliteral v h

theorem ReadsExpression.term_append {g : Filter} (hf : SpellsTerm depth w f) (hb : f.EndsBefore s)
    (h : ReadsExpression depth op (f :: terms) s g rest) :
    ReadsExpression depth op terms (w ++ s) g rest := by
  have hread := hf.reads hb
  obtain ⟨c, r, rfl, hc, hne, hk⟩ := hf.head s
  exact .term (skipSpace_cons hc) hne hk hread h

/-- A spelling before a `)` or before the end of the text is read whole, after any terms. -/
theorem SpellsExpression.reads (h : SpellsExpression depth w op terms) (ht : Resumes ')' t)
    (op' : Option Connective) (before : List Filter) :
    ReadsExpression depth op' before (w ++ t) (ofTerms (op.or op') (before.reverse ++ terms))
      t := by
  induction h generalizing op' before t with
  | done hs =>
    rw [List.append_nil]
    refine readsExpression_at_stop isStop_close ht ?_ _ _ _
    rw [skipSpace_spaces_append hs]
    exact (ht.breaks rfl).dropWhile_eq_self
  | term hs hf hb hr ih =>
    have hrun := ReadsExpression.term_append hf (hb.append ht) (ih ht op' (_ :: before))
    simpa using hrun.spaces hs
  | keyword hs hk hr ih =>
    have hrun : ReadsExpression _ op' before _ _ t := (ih ht (some _) before).keyword_append hk
    simpa using hrun.spaces hs
  | group hs hd hg hr ihg ihr =>
    have hrun := ReadsExpression.group_append hd (ihg resumes_cons none [])
      (ihr ht op' (_ :: before))
    simpa using hrun.spaces hs

theorem Spells.read_eq {text : String} (h : Spells text f) : read text = (f, []) := by
  obtain ⟨op, terms, hspelled, rfl⟩ := h
  rw [read]
  simpa using (hspelled.reads resumes_nil none []).expression_eq

/-- The grammar is unambiguous. -/
theorem Spells.unique {text : String} {g : Filter} (h : Spells text f) (h' : Spells text g) :
    f = g := by
  have := h.read_eq.symm.trans h'.read_eq
  exact (Prod.mk.inj this).1

theorem endsBefore_nil (f : Filter) : f.EndsBefore [] := by
  cases f with
  | joined => trivial
  | text v => exact endsBefore_of_breaks breaks_nil breaks_nil v
  | comparison _ _ v => exact endsBefore_of_breaks breaks_nil breaks_nil v

/-- A term on its own is read as a whole filter. -/
theorem SpellsTerm.read_eq {text : String} (h : SpellsTerm 0 text.toList f) :
    read text = (f, []) := by
  have hspelled : SpellsExpression 0 ([] ++ (text.toList ++ [])) none [f] :=
    .term (by simp) h (endsBefore_nil f) (.done (by simp))
  exact Spells.read_eq ⟨none, [f], by simpa using hspelled, rfl⟩

/-- What is spelled is read: the whole text, as the filter that it spells. -/
theorem parse_spelled {text : String} (h : Spells text f) :
    parse text = f ∧ unparsed text = 0 := by
  rw [parse, unparsed, h.read_eq]
  exact ⟨rfl, rfl⟩

theorem parse_spelled_touching :
    parse "0 true OR(a in/b/i)" =
        joined .or [text (.bool true),
          comparison "a" .isIn (.pattern { source := "b", flags := "i" })] ∧
      unparsed "0 true OR(a in/b/i)" = 0 := by
  have hpattern : SpellsValue 1 ('/' :: (['b'] ++ '/' :: ['i']))
      (.pattern { source := String.ofList ['b'], flags := String.ofList ['i'] }) :=
    .pattern (by simp) (by simp; rfl)
  have hfield : IsField ['a'] := by
    refine ⟨by simp, by simp; rfl, by simp, keyword?_eq_none_iff.mp rfl⟩
  have hinner : SpellsTerm 1 (['a'] ++ ([' '] ++ (Operator.isIn.text.toList ++ ([] ++ _)))) _ :=
    .comparison hfield (by simp; rfl) (by simp) (by simp) hpattern
  have hgroup : SpellsExpression 1 ([] ++ (_ ++ [])) none [_] :=
    .term (by simp) hinner breaks_nil (.done (by simp))
  have hlast : SpellsExpression 0 ([] ++ '(' :: (_ ++ ')' :: [])) none [ofTerms none [_]] :=
    .group (by simp) (by decide) hgroup (.done (by simp))
  have hkeyword : SpellsExpression 0 ([' '] ++ (['O', 'R'] ++ _)) (some .or) _ :=
    .keyword (by simp; rfl) (by decide) hlast
  have hfirst : SpellsTerm 0 ('0' :: ([' '] ++ "true".toList)) (.text (.bool true)) :=
    .afterZero (by simp; rfl) (by simp) (.constant (by simp [constants]))
  have hall : SpellsExpression 0 ([] ++ (_ ++ _)) (some .or) _ :=
    .term (by simp) hfirst trivial hkeyword
  exact parse_spelled ⟨some .or, _, hall, rfl⟩

end Filter

end RecordFilter
