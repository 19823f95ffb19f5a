import RecordFilter.Proofs.Reading.Truncation

/-!
# Progress

Reading only moves forward and comes to an end. A call of a reader enters calls of others and
continues its own loop; each step of this kind goes to a shorter text, or to a reader that has less
to do with the same text, so every chain of calls is finite, and none of them is deeper than the
limit. `once` has the readers with all these calls left open and no check that a loop gets further:
what it gives depends on nothing but the answers to the calls listed here.
-/

namespace RecordFilter.Filter

/-! ## Taking something of a text -/

/-- What is left is an end of the text, and not all of it. -/
structure Takes (s rest : List Char) : Prop where
  suffix : rest <:+ s
  length_lt : rest.length < s.length

section Takes

variable {c : Char} {s r rest : List Char}

theorem Takes.of_suffix (h : Takes s r) (hr : rest <:+ r) : Takes s rest :=
  ⟨hr.trans h.suffix, hr.length_le.trans_lt h.length_lt⟩

theorem Takes.of_end (h : Takes r rest) (hr : r <:+ s) : Takes s rest :=
  ⟨h.suffix.trans hr, h.length_lt.trans_le hr.length_le⟩

theorem takes_of_byteLength_ne (h : rest <:+ s) (hb : byteLength rest ≠ byteLength s) :
    Takes s rest :=
  ⟨h, lt_of_le_of_ne h.length_le fun hl => hb (by rw [h.eq_of_length hl])⟩

theorem takes_of_skipSpace (h : skipSpace s = c :: r) : Takes s r :=
  ⟨tail_suffix_of_skipSpace h, length_lt_of_skipSpace h⟩

theorem takes_of_keyword {k : Connective} (h : keyword? s = some (k, rest)) : Takes s rest :=
  ⟨keyword?_suffix h, keyword?_length_lt h⟩

theorem takes_of_operator {o : Operator} (h : word? operators s = some (o, rest)) :
    Takes s rest := by
  obtain ⟨w, hw, rfl⟩ := word?_eq_some h
  have hne : w ≠ [] := by
    rintro rfl
    simp [operators] at hw
  have hpos := List.length_pos_of_ne_nil hne
  refine ⟨List.suffix_append w rest, ?_⟩
  rw [List.length_append]
  omega

theorem takes_of_value {d : Nat} {v : Literal} (h : value d s = (some v, rest)) : Takes s rest :=
  ⟨(readsValue_iff.mpr h).suffix, (readsValue_iff.mpr h).length_lt⟩

theorem takes_of_term {d : Nat} {t : Filter} (h : term d s = (some t, rest)) : Takes s rest :=
  ⟨(readsTerm_iff.mpr h).suffix, (readsTerm_iff.mpr h).length_lt⟩

end Takes

/-! ## Calls -/

/-- A call of a reader; the loops of lists and expressions hold what was read so far. -/
inductive Call where
  | value (d : Nat) (s : List Char)
  | items (d : Nat) (acc : List Literal) (s : List Char)
  | term (d : Nat) (s : List Char)
  | expression (d : Nat) (op : Option Connective) (terms : List Filter) (s : List Char)

namespace Call

def depth : Call → Nat
  | value d _ => d
  | items d _ _ => d
  | term d _ => d
  | expression d _ _ _ => d

/-- The text that a call is given. -/
def text : Call → List Char
  | value _ s => s
  | items _ _ s => s
  | term _ s => s
  | expression _ _ _ s => s

/-- The text that a call leaves, whether it reads something or not. -/
def rest : Call → List Char
  | value d s => (Filter.value d s).2
  | items d acc s => (Filter.items d acc s).2
  | term d s => (Filter.term d s).2
  | expression d op terms s => (Filter.expression d op terms s).2

/-- One more pass of the loop of an expression or of a list. -/
inductive Continues : Call → Call → Prop
  | group (hs : skipSpace s = '(' :: r) (hd : d < maxNesting)
      (hg : Filter.expression (d + 1) none [] r = (g, r')) :
      Continues (expression d op terms s) (expression d op (g :: terms) (closeGroup r'))
  | keyword (hs : skipSpace s = c :: r) (hc : c ≠ '(') (hk : keyword? (c :: r) = some (k, r')) :
      Continues (expression d op terms s) (expression d (some k) terms r')
  | term (hs : skipSpace s = c :: r) (hc : c ≠ '(') (hk : keyword? (c :: r) = none)
      (ht : Filter.term d (c :: r) = (some t, r')) :
      Continues (expression d op terms s) (expression d op (t :: terms) r')
  | comma (hs : skipSpace s = ',' :: r) : Continues (items d acc s) (items d acc r)
  | item (hs : skipSpace s = c :: r) (hc : c ≠ ']' ∧ c ≠ ',')
      (hv : Filter.value d (c :: r) = (some v, r')) :
      Continues (items d acc s) (items d (v :: acc) r')
  | dropped (hs : skipSpace s = c :: r) (hc : c ≠ ']' ∧ c ≠ ',')
      (hv : Filter.value d (c :: r) = (none, r')) (hb : byteLength r' ≠ byteLength (c :: r)) :
      Continues (items d acc s) (items d acc r')

/-- A call of another reader, or of the same one for the inside of a group. -/
inductive Enters : Call → Call → Prop
  | group (hs : skipSpace s = '(' :: r) (hd : d < maxNesting) :
      Enters (expression d op terms s) (expression (d + 1) none [] r)
  | term (hs : skipSpace s = c :: r) (hc : c ≠ '(') (hk : keyword? (c :: r) = none) :
      Enters (expression d op terms s) (term d (c :: r))
  | text (hf : isNoField (frontWord s)) : Enters (term d s) (value d (afterWord s))
  | comparison (hf : isNoField (frontWord s) = false)
      (ho : word? operators (skipSpace (afterWord s)) = some (o, r)) :
      Enters (term d s) (value d r)
  | list (hs : skipSpace s = '[' :: r) (hd : d < maxNesting) :
      Enters (value d s) (items (d + 1) [] r)
  | item (hs : skipSpace s = c :: r) (hc : c ≠ ']' ∧ c ≠ ',') :
      Enters (items d acc s) (value d (c :: r))

/-- One call makes another one. -/
def Makes (c c' : Call) : Prop := c.Enters c' ∨ c.Continues c'

variable {c c' : Call}

theorem rest_suffix (c : Call) : c.rest <:+ c.text := by
  cases c with
  | value d s => exact (readsValue_iff.mpr rfl).suffix
  | items d acc s => exact (readsItems_iff.mpr rfl).suffix
  | term d s => exact (readsTerm_term d s).suffix
  | expression d op terms s => exact (readsExpression_expression d op terms s).suffix

/-! ## Passes -/

/-- Each pass of a loop takes something. -/
theorem Continues.takes (h : c.Continues c') : Takes c.text c'.text := by
  cases h with
  | group hs _ hg =>
    have hinner := (closeGroup_suffix _).trans (readsExpression_iff.mpr hg).suffix
    exact (takes_of_skipSpace hs).of_suffix hinner
  | keyword hs _ hk => exact (takes_of_keyword hk).of_end (suffix_of_skipSpace hs)
  | term hs _ _ ht => exact (takes_of_term ht).of_end (suffix_of_skipSpace hs)
  | comma hs => exact takes_of_skipSpace hs
  | item hs _ hv => exact (takes_of_value hv).of_end (suffix_of_skipSpace hs)
  | dropped hs _ hv hb =>
    have hsuffix := (readsValue_iff.mpr hv).suffix
    exact (takes_of_byteLength_ne hsuffix hb).of_end (suffix_of_skipSpace hs)

theorem Continues.depth_eq (h : c.Continues c') : c'.depth = c.depth := by
  cases h <;> rfl

/-! ## Chains of calls -/

/-- Which reader calls which on one text: the callee has the lower rank. -/
def rank : Call → Nat
  | value .. => 0
  | items .. => 1
  | term .. => 1
  | expression .. => 2

/-- How many calls may follow one another from a call on, at most. -/
def size (c : Call) : Nat := 3 * c.text.length + c.rank

theorem rank_lt (c : Call) : c.rank < 3 := by
  cases c <;> simp [rank]

theorem size_lt_of_takes (h : Takes c.text c'.text) : c'.size < c.size := by
  have hrank := rank_lt c'
  have hlength := h.length_lt
  simp only [size]
  omega

theorem Enters.suffix (h : c.Enters c') : c'.text <:+ c.text := by
  cases h with
  | group hs => exact tail_suffix_of_skipSpace hs
  | term hs => exact suffix_of_skipSpace hs
  | text => exact afterWord_suffix _
  | comparison _ ho => exact operator_suffix ho
  | list hs => exact tail_suffix_of_skipSpace hs
  | item hs => exact suffix_of_skipSpace hs

theorem Enters.size_lt (h : c.Enters c') : c'.size < c.size := by
  have hle := h.suffix.length_le
  cases h with
  | group hs => exact size_lt_of_takes (takes_of_skipSpace hs)
  | list hs => exact size_lt_of_takes (takes_of_skipSpace hs)
  | _ =>
    simp only [Call.text] at hle
    simp only [size, rank, Call.text]
    omega

/-- Only groups and lists go deeper, and only below the limit. -/
theorem Enters.depth_le (h : c.Enters c') (hd : c.depth ≤ maxNesting) :
    c'.depth ≤ maxNesting := by
  cases h with
  | group _ hlt => exact hlt
  | list _ hlt => exact hlt
  | _ => exact hd

theorem Makes.suffix (h : c.Makes c') : c'.text <:+ c.text :=
  h.elim Enters.suffix fun h => h.takes.suffix

theorem Makes.size_lt (h : c.Makes c') : c'.size < c.size :=
  h.elim Enters.size_lt fun h => size_lt_of_takes h.takes

theorem Makes.depth_le (h : c.Makes c') (hd : c.depth ≤ maxNesting) : c'.depth ≤ maxNesting :=
  h.elim (fun h => h.depth_le hd) fun h => h.depth_eq.trans_le hd

/-- No chain of calls goes on for ever. -/
theorem wellFounded_makes : WellFounded fun c' c : Call => c.Makes c' :=
  Subrelation.wf Makes.size_lt (measure size).wf

theorem suffix_of_chain (h : Relation.ReflTransGen Makes c c') : c'.text <:+ c.text := by
  induction h with
  | refl => exact List.suffix_rfl
  | tail _ hmakes ih => exact hmakes.suffix.trans ih

theorem depth_le_of_chain (h : Relation.ReflTransGen Makes c c') (hd : c.depth ≤ maxNesting) :
    c'.depth ≤ maxNesting := by
  induction h with
  | refl => exact hd
  | tail _ hmakes ih => exact hmakes.depth_le ih

end Call

/-! ## The readers with their calls left open -/

/-- Something in the place of each reader. -/
structure Readers where
  value : Nat → List Char → Reading Literal
  items : Nat → List Literal → List Char → Reading Literal
  term : Nat → List Char → Reading Filter
  expression : Nat → Option Connective → List Filter → List Char → Filter × List Char

/-- The readers themselves. -/
def readers : Readers := ⟨value, items, term, expression⟩

namespace Readers

/-- Whether two families give the same answer to a call. -/
def AgreeAt (R R' : Readers) : Call → Prop
  | .value d s => R.value d s = R'.value d s
  | .items d acc s => R.items d acc s = R'.items d acc s
  | .term d s => R.term d s = R'.term d s
  | .expression d op terms s => R.expression d op terms s = R'.expression d op terms s

def onceValue (R : Readers) (d : Nat) (s : List Char) : Reading Literal :=
  match skipSpace s with
  | [] => (none, [])
  | c :: rest =>
    if c = '"' ∨ c = '\'' then quoted c rest
    else if c = '/' then patternLiteral rest
    else if c = '[' ∧ d < maxNesting then R.items (d + 1) [] rest
    else if isNumberChar c then numberLiteral (c :: rest)
    else constant (c :: rest)

def onceItems (R : Readers) (d : Nat) (acc : List Literal) (s : List Char) : Reading Literal :=
  match skipSpace s with
  | [] => (none, [])
  | c :: rest =>
    if c = ']' then (some (.list acc.reverse), rest)
    else if c = ',' then R.items d acc rest
    else
      match R.value d (c :: rest) with
      | (some v, rest') => R.items d (v :: acc) rest'
      | (none, rest') =>
        if byteLength rest' = byteLength (c :: rest) then (none, rest') else R.items d acc rest'

def onceTerm (R : Readers) (d : Nat) (s : List Char) : Reading Filter :=
  if isNoField (frontWord s) then
    ((R.value d (afterWord s)).1.map .text, (R.value d (afterWord s)).2)
  else
    match word? operators (skipSpace (afterWord s)) with
    | none => (none, skipSpace (afterWord s))
    | some (op, rest) =>
      ((R.value d rest).1.map (.comparison (String.ofList (frontWord s)) op), (R.value d rest).2)

def onceExpression (R : Readers) (d : Nat) (op : Option Connective) (terms : List Filter)
    (s : List Char) : Filter × List Char :=
  match skipSpace s with
  | [] => (ofTerms op terms.reverse, [])
  | c :: rest =>
    if c = '(' then
      if maxNesting ≤ d then (ofTerms op (unmatchable :: terms).reverse, [])
      else
        let group := R.expression (d + 1) none [] rest
        R.expression d op (group.1 :: terms) (closeGroup group.2)
    else
      match keyword? (c :: rest) with
      | some (k, rest') => R.expression d (some k) terms rest'
      | none =>
        match R.term d (c :: rest) with
        | (some t, rest') => R.expression d op (t :: terms) rest'
        | (none, rest') => (ofTerms op terms.reverse, rest')

/-- One pass of each reader, every call being answered by the family. Nothing is checked for
progress but an item that cannot be read. -/
def once (R : Readers) : Readers := ⟨R.onceValue, R.onceItems, R.onceTerm, R.onceExpression⟩

variable {R : Readers} {d : Nat} {s : List Char} {acc : List Literal}
variable {op : Option Connective} {terms : List Filter}

theorem onceValue_eq (h : ∀ c', (Call.value d s).Makes c' → R.AgreeAt readers c') :
    R.onceValue d s = Filter.value d s := by
  rw [onceValue, value_eq]
  cases hs : skipSpace s with
  | nil => rfl
  | cons c r =>
    dsimp only
    split_ifs with hquote hslash hlist hnumber
    · rfl
    · rfl
    · obtain ⟨rfl, hd⟩ := hlist
      exact h _ (.inl (.list hs hd))
    · rfl
    · rfl

/-- A failed item that leaves as many bytes as before has taken nothing. -/
theorem onceItems_eq (h : ∀ c', (Call.items d acc s).Makes c' → R.AgreeAt readers c') :
    R.onceItems d acc s = Filter.items d acc s := by
  rw [onceItems, items_eq]
  cases hs : skipSpace s with
  | nil => rfl
  | cons c r =>
    dsimp only
    by_cases hclose : c = ']'
    · rw [if_pos hclose, if_pos hclose]
    rw [if_neg hclose, if_neg hclose]
    by_cases hcomma : c = ','
    · rw [if_pos hcomma, if_pos hcomma]
      subst hcomma
      exact h _ (.inr (.comma hs))
    rw [if_neg hcomma, if_neg hcomma]
    have hc : c ≠ ']' ∧ c ≠ ',' := ⟨hclose, hcomma⟩
    have hvalue : R.value d (c :: r) = Filter.value d (c :: r) := h _ (.inl (.item hs hc))
    rw [hvalue]
    cases hread : Filter.value d (c :: r) with
    | mk v r' =>
      have hrun := readsValue_iff.mpr hread
      cases v with
      | some u =>
        rw [if_pos hrun.length_lt]
        exact h _ (.inr (.item hs hc hread))
      | none =>
        by_cases hb : byteLength r' = byteLength (c :: r)
        · obtain rfl := eq_of_suffix_of_byteLength hrun.suffix List.suffix_rfl hb
          rw [if_neg (Nat.lt_irrefl _)]
          exact if_pos rfl
        · rw [if_pos ((takes_of_byteLength_ne hrun.suffix hb).length_lt)]
          exact (if_neg hb).trans (h _ (.inr (.dropped hs hc hread hb)))

theorem onceTerm_eq (h : ∀ c', (Call.term d s).Makes c' → R.AgreeAt readers c') :
    R.onceTerm d s = Filter.term d s := by
  rw [onceTerm, term_eq]
  by_cases hf : isNoField (frontWord s)
  · have hvalue : R.value d (afterWord s) = Filter.value d (afterWord s) := h _ (.inl (.text hf))
    rw [if_pos hf, if_pos hf, hvalue]
  · rw [if_neg hf, if_neg hf]
    cases ho : word? operators (skipSpace (afterWord s)) with
    | none => rfl
    | some e =>
      obtain ⟨o, r⟩ := e
      have hvalue : R.value d r = Filter.value d r :=
        h _ (.inl (.comparison (by simpa using hf) ho))
      simp only [hvalue]

theorem onceExpression_eq
    (h : ∀ c', (Call.expression d op terms s).Makes c' → R.AgreeAt readers c') :
    R.onceExpression d op terms s = Filter.expression d op terms s := by
  rw [onceExpression, expression_eq]
  cases hs : skipSpace s with
  | nil => rfl
  | cons c r =>
    dsimp only
    by_cases hc : c = '('
    · subst hc
      rw [if_pos rfl, if_pos rfl]
      by_cases hd : maxNesting ≤ d
      · rw [if_pos hd, if_pos hd]
      rw [if_neg hd, if_neg hd]
      cases hg : Filter.expression (d + 1) none [] r with
      | mk g r' =>
        have hlt : d < maxNesting := Nat.not_le.mp hd
        have hgroup : R.expression (d + 1) none [] r = (g, r') :=
          Eq.trans (h _ (.inl (.group hs hlt))) hg
        have hnext : Call.Continues (.expression d op terms s) _ := .group hs hlt hg
        have hl : (closeGroup r').length < s.length := hnext.takes.length_lt
        rw [hgroup, if_pos hl]
        exact h _ (.inr hnext)
    · rw [if_neg hc, if_neg hc]
      cases hk : keyword? (c :: r) with
      | some e =>
        obtain ⟨k, r'⟩ := e
        have hnext : Call.Continues (.expression d op terms s) _ := .keyword hs hc hk
        have hl : r'.length < s.length := hnext.takes.length_lt
        dsimp only
        rw [if_pos hl]
        exact h _ (.inr hnext)
      | none =>
        have hterm : R.term d (c :: r) = Filter.term d (c :: r) := h _ (.inl (.term hs hc hk))
        rw [hterm]
        cases ht : Filter.term d (c :: r) with
        | mk t r' =>
          cases t with
          | none => rfl
          | some t =>
            have hnext : Call.Continues (.expression d op terms s) _ := .term hs hc hk ht
            have hl : r'.length < s.length := hnext.takes.length_lt
            dsimp only
            rw [if_pos hl]
            exact h _ (.inr hnext)

/-- The answer to a call takes the answers to the calls that it makes, and no others. -/
theorem once_agreeAt {c : Call} (h : ∀ c', c.Makes c' → R.AgreeAt readers c') :
    R.once.AgreeAt readers c := by
  cases c with
  | value => exact onceValue_eq h
  | items => exact onceItems_eq h
  | term => exact onceTerm_eq h
  | expression => exact onceExpression_eq h

end Readers

/-! ## How many nodes there are -/

theorem nodeCounts_eq_sum (terms : List Filter) : nodeCounts terms = (terms.map nodeCount).sum := by
  induction terms with
  | nil => rfl
  | cons t terms ih => rw [nodeCounts, ih, List.map_cons, List.sum_cons]

theorem nodeCount_ofTerms_le (op : Option Connective) (terms : List Filter) :
    (ofTerms op terms).nodeCount ≤ nodeCounts terms + 1 := by
  unfold ofTerms
  split
  · next t =>
    rw [nodeCounts, nodeCounts]
    omega
  · rw [nodeCount]

/-- The terms of a loop, last one first. -/
theorem nodeCount_ofTerms_reverse_le (op : Option Connective) (terms : List Filter) :
    (ofTerms op terms.reverse).nodeCount ≤ nodeCounts terms + 1 := by
  have hle := nodeCount_ofTerms_le op terms.reverse
  rwa [nodeCounts_eq_sum, List.map_reverse, List.sum_reverse_nat, ← nodeCounts_eq_sum] at hle

theorem ReadsTerm.nodeCount_eq {depth : Nat} {s rest : List Char} {t : Filter}
    (h : ReadsTerm depth s (some t) rest) : t.nodeCount = 1 := by
  generalize ht : some t = u at h
  cases h with
  | noOperator => cases ht
  | text =>
    obtain ⟨v, -, rfl⟩ := Option.map_eq_some_iff.mp ht.symm
    rfl
  | comparison =>
    obtain ⟨v, -, rfl⟩ := Option.map_eq_some_iff.mp ht.symm
    rfl

/-- Each node has a character of its own, the root of the expression apart. -/
theorem ReadsExpression.nodeCount_le {depth : Nat} {op : Option Connective} {terms : List Filter}
    {s rest : List Char} {f : Filter} (h : ReadsExpression depth op terms s f rest) :
    f.nodeCount + rest.length ≤ nodeCounts terms + s.length + 1 := by
  induction h with
  | @blank _ _ op terms hs =>
    have := nodeCount_ofTerms_reverse_le op terms
    rw [List.length_nil]
    omega
  | @tooDeep _ _ _ op terms hs =>
    have hroot := nodeCount_ofTerms_reverse_le op (unmatchable :: terms)
    have hlt := length_lt_of_skipSpace hs
    simp only [nodeCounts, nodeCount, unmatchable] at hroot
    rw [unmatchable, List.length_nil]
    omega
  | @group _ _ _ _ r' _ _ _ _ hs _ _ _ ihg ihr =>
    have hlt := length_lt_of_skipSpace hs
    have hclose := (closeGroup_suffix r').length_le
    simp only [nodeCounts] at ihg ihr
    omega
  | keyword hs _ hk _ ihr =>
    have hlt := (keyword?_length_lt hk).trans_le (suffix_of_skipSpace hs).length_le
    omega
  | term hs _ _ ht _ ihr =>
    have hlt := ht.length_lt.trans_le (suffix_of_skipSpace hs).length_le
    rw [nodeCounts, ht.nodeCount_eq] at ihr
    omega
  | @stuck _ _ _ _ _ op terms hs _ _ ht =>
    have hroot := nodeCount_ofTerms_reverse_le op terms
    have hle := (ht.suffix.trans (suffix_of_skipSpace hs)).length_le
    omega

theorem length_le_byteLength (s : List Char) : s.length ≤ byteLength s := by
  induction s with
  | nil => rfl
  | cons c s ih =>
    have := c.utf8Size_pos
    rw [List.length_cons, byteLength_cons]
    omega

/-! ## The whole reading -/

/-- An item that cannot be read fails the list if it has taken nothing, and is passed over
otherwise. -/
theorem items_of_failed {d : Nat} {acc : List Literal} {s r r' : List Char} {c : Char}
    (hs : skipSpace s = c :: r) (hc : c ≠ ']' ∧ c ≠ ',') (hv : value d (c :: r) = (none, r')) :
    r' = c :: r ∧ items d acc s = (none, r') ∨
      (Call.items d acc s).Continues (.items d acc r') := by
  have hrun := readsValue_iff.mpr hv
  by_cases hb : byteLength r' = byteLength (c :: r)
  · obtain rfl := eq_of_suffix_of_byteLength hrun.suffix List.suffix_rfl hb
    exact .inl ⟨rfl, (ReadsItems.stuck hs hc hrun le_rfl).items_eq⟩
  · exact .inr (.dropped hs hc hv hb)

/-- Reading only moves forward, no loop stands still, every chain of calls ends and stays within the
nesting limit, and a filter has at most one node more than its text has bytes. The calls are listed
in full: no answer takes that of another one. -/
theorem parse_progress :
    (∀ c : Call, c.rest <:+ c.text) ∧
      (∀ d s v rest, value d s = (some v, rest) → Takes s rest) ∧
      (∀ d s t rest, term d s = (some t, rest) → Takes s rest) ∧
      (∀ s k rest, keyword? s = some (k, rest) → Takes s rest) ∧
      (∀ s o rest, word? operators s = some (o, rest) → Takes s rest) ∧
      (∀ c c' : Call, c.Continues c' → Takes c.text c'.text) ∧
      (∀ d acc s c r r', skipSpace s = c :: r → c ≠ ']' ∧ c ≠ ',' → value d (c :: r) = (none, r') →
        r' = c :: r ∧ items d acc s = (none, r') ∨
          (Call.items d acc s).Continues (.items d acc r')) ∧
      (∀ (R : Readers) (c : Call), (∀ c', c.Makes c' → R.AgreeAt readers c') →
        R.once.AgreeAt readers c) ∧
      (WellFounded fun c' c : Call => c.Makes c') ∧
      (∀ c c' : Call, Relation.ReflTransGen Call.Makes c c' →
        c'.text <:+ c.text ∧ (c.depth ≤ 128 → c'.depth ≤ 128)) ∧
      ∀ w, (parse w).nodeCount ≤ byteLength w.toList + 1 := by
  refine ⟨Call.rest_suffix, fun d s v rest => takes_of_value, fun d s t rest => takes_of_term,
    fun s k rest => takes_of_keyword, fun s o rest => takes_of_operator, fun c c' h => h.takes,
    fun d acc s c r r' => items_of_failed, fun R c => Readers.once_agreeAt, Call.wellFounded_makes,
    fun c c' h => ⟨Call.suffix_of_chain h, Call.depth_le_of_chain h⟩, fun w => ?_⟩
  have hnodes := (reads_read w).nodeCount_le
  have hbytes := length_le_byteLength w.toList
  simp only [nodeCounts] at hnodes
  omega

/-- A group opened at depth 127 is the last one; the list in it is not entered. In a list that
starts with a character of no value nothing is passed over. -/
theorem parse_progress_at_limit :
    Relation.ReflTransGen Call.Makes (.expression 127 none [] ['(', '[']) (.value 128 ['[']) ∧
      (Call.value 128 ['[']).depth ≤ 128 ∧ Takes ['O', 'r', '('] ['('] ∧
      items 1 [] ['&'] = (none, ['&']) := by
  have hchain : Relation.ReflTransGen Call.Makes (.expression 127 none [] ['(', '['])
      (.value 128 ['[']) := by
    refine .head (.inl (.group rfl (by decide))) ?_
    refine .head (.inl (.term rfl (by decide) rfl)) ?_
    exact .single (.inl (.text rfl))
  have hfail : value 1 ['&'] = (none, ['&']) :=
    (ReadsValue.constant (c := '&') rfl (by decide) (by decide) rfl rfl).value_eq
  obtain ⟨-, -, -, hkeyword, -, -, hitems, -, -, hdepth, -⟩ := parse_progress
  refine ⟨hchain, (hdepth _ _ hchain).2 (by decide), hkeyword _ .or _ rfl, ?_⟩
  rcases hitems 1 [] ['&'] '&' [] ['&'] rfl (by decide) hfail with h | h
  · exact h.2
  · exact absurd h.takes.length_lt (Nat.lt_irrefl _)

end RecordFilter.Filter
