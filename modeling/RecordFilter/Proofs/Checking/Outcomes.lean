import Mathlib
import RecordFilter.Filter.Checking

/-!
# Kept outcomes

A pattern literal keeps the outcome of its first attempt. `forget` drops every kept outcome of a
filter: neither equality nor the JSON form nor evaluation sees the difference, and a check changes
nothing else. A filter is faithful if each kept outcome is that of compiling its literal; checking
such a filter answers what evaluating it does.
-/

namespace RecordFilter

/-! ## Lists compared item by item -/

section Lists

variable {α : Type} {r : α → α → Bool} {f : α → α} {l : List α}

theorem isEqv_self (h : ∀ a ∈ l, r a a = true) : l.isEqv l r = true := by
  induction l with
  | nil => rfl
  | cons a l ih =>
    rw [List.isEqv_cons_cons, h a (by simp), Bool.true_and]
    exact ih fun b hb => h b (by simp [hb])

theorem isEqv_comm (h : ∀ a ∈ l, ∀ b, r a b = r b a) (m : List α) :
    l.isEqv m r = m.isEqv l r := by
  induction l generalizing m with
  | nil => cases m <;> rfl
  | cons a l ih =>
    cases m with
    | nil => rfl
    | cons b m =>
      have hrest := ih (fun c hc => h c (by simp [hc])) m
      rw [List.isEqv_cons_cons, List.isEqv_cons_cons, h a (by simp), hrest]

theorem isEqv_map_left (h : ∀ a ∈ l, ∀ b, r (f a) b = r a b) (m : List α) :
    (l.map f).isEqv m r = l.isEqv m r := by
  induction l generalizing m with
  | nil => rfl
  | cons a l ih =>
    cases m with
    | nil => rfl
    | cons b m =>
      have hrest := ih (fun c hc => h c (by simp [hc])) m
      rw [List.map_cons, List.isEqv_cons_cons, List.isEqv_cons_cons, h a (by simp), hrest]

theorem isEqv_trans {m n : List α}
    (h : ∀ a ∈ l, ∀ b c, r a b = true → r b c = true → r a c = true)
    (hm : l.isEqv m r = true) (hn : m.isEqv n r = true) : l.isEqv n r = true := by
  induction l generalizing m n with
  | nil =>
    cases m with
    | nil => exact hn
    | cons b m => cases hm
  | cons a l ih =>
    cases m with
    | nil => cases hm
    | cons b m =>
      cases n with
      | nil => cases hn
      | cons c n =>
        rw [List.isEqv_cons_cons, Bool.and_eq_true] at hm hn ⊢
        exact ⟨h a (by simp) b c hm.1 hn.1, ih (fun d hd => h d (by simp [hd])) hm.2 hn.2⟩

/-- What equal items have in common, equal lists have item by item. -/
theorem map_eq_map_of_isEqv {β : Type} {g : α → β} {m : List α}
    (h : ∀ a ∈ l, ∀ b, r a b = true → g a = g b) (hm : l.isEqv m r = true) : l.map g = m.map g := by
  induction l generalizing m with
  | nil =>
    cases m with
    | nil => rfl
    | cons b m => cases hm
  | cons a l ih =>
    cases m with
    | nil => cases hm
    | cons b m =>
      rw [List.isEqv_cons_cons, Bool.and_eq_true] at hm
      rw [List.map_cons, List.map_cons, h a (by simp) b hm.1,
        ih (fun c hc => h c (by simp [hc])) hm.2]

/-- Lists with equal images are equal item by item, if the images tell the items. -/
theorem isEqv_of_map_eq_map {β : Type} {g : α → β} {m : List α}
    (h : ∀ a ∈ l, ∀ b ∈ m, g a = g b → r a b = true) (hm : l.map g = m.map g) :
    l.isEqv m r = true := by
  induction l generalizing m with
  | nil =>
    cases m with
    | nil => rfl
    | cons b m => cases hm
  | cons a l ih =>
    cases m with
    | nil => cases hm
    | cons b m =>
      rw [List.map_cons, List.map_cons, List.cons.injEq] at hm
      have hrest := ih (fun c hc d hd => h c (by simp [hc]) d (by simp [hd])) hm.2
      rw [List.isEqv_cons_cons, h a (by simp) b (by simp) hm.1, hrest, Bool.true_and]

end Lists

/-! ## Pattern literals -/

namespace PatternLiteral

variable {p : PatternLiteral}

/-- The literal as it was before any attempt. -/
def forget (p : PatternLiteral) : PatternLiteral := { p with outcome := none }

/-- Whether the kept outcome, if there is one, is the right one. -/
def IsFaithful (p : PatternLiteral) : Prop := ∀ o ∈ p.outcome, o = p.compile

theorem IsFaithful.outcomeOrCompile_eq (h : p.IsFaithful) : p.outcomeOrCompile = p.compile := by
  cases ho : p.outcome with
  | none => simp [outcomeOrCompile, ho]
  | some o => simp [outcomeOrCompile, ho, h o ho]

theorem forget_attempt (p : PatternLiteral) : p.attempt.1.forget = p.forget := by
  unfold attempt
  split <;> rfl

end PatternLiteral

/-! ## Literals -/

namespace Literal

/-- The occurrences of patterns in a literal, each with the positions that lead to it. -/
inductive Occurs (p : PatternLiteral) : List Nat → Literal → Prop
  | self : Occurs p [] (pattern p)
  | item (hv : items[i]? = some v) (h : Occurs p path v) : Occurs p (i :: path) (list items)

variable {v : Literal} {items : List Literal}

/-- Whether every kept outcome in the literal is the right one. -/
def IsFaithful (v : Literal) : Prop := ∀ p path, Occurs p path v → p.IsFaithful

mutual

/-- The literal without kept outcomes. -/
def forget : Literal → Literal
  | list items => list (forgetItems items)
  | pattern p => pattern p.forget
  | v => v

def forgetItems : List Literal → List Literal
  | [] => []
  | v :: items => v.forget :: forgetItems items

end

theorem forgetItems_eq_map (items : List Literal) : forgetItems items = items.map forget := by
  induction items with
  | nil => rfl
  | cons v items ih => rw [forgetItems, ih, List.map_cons]

theorem itemsToJson_eq_map (items : List Literal) : itemsToJson items = items.map toJson := by
  induction items with
  | nil => rfl
  | cons v items ih => rw [itemsToJson, ih, List.map_cons]

theorem toJson_forget (v : Literal) : v.forget.toJson = v.toJson := by
  induction v using induct_items with
  | list items ih =>
    simp only [forget, toJson, forgetItems_eq_map, itemsToJson_eq_map, List.map_map]
    congr 1
    exact List.map_congr_left ih
  | _ => rfl

theorem sameItems_eq_isEqv (items others : List Literal) :
    sameItems items others = items.isEqv others same := by
  induction items generalizing others with
  | nil => cases others <;> rfl
  | cons v items ih =>
    cases others with
    | nil => rfl
    | cons u others => rw [sameItems, ih, List.isEqv_cons_cons]

theorem same_comm (v u : Literal) : v.same u = u.same v := by
  induction v using induct_items generalizing u with
  | list items ih =>
    cases u with
    | list others =>
      rw [same, same, sameItems_eq_isEqv, sameItems_eq_isEqv]
      exact isEqv_comm ih others
    | _ => rfl
  | number x =>
    cases u with
    | number y =>
      simp only [same, Binary64.sameValue, Bool.and_comm (!x.isNaN), Bool.beq_comm (a := x.key)]
    | _ => rfl
  | pattern p =>
    cases u with
    | pattern q =>
      simp only [same, PatternLiteral.same, Bool.beq_comm (a := p.source),
        Bool.beq_comm (a := p.flags)]
    | _ => rfl
  | string s => cases u <;> first | rfl | exact Bool.beq_comm
  | bool b => cases u <;> first | rfl | exact Bool.beq_comm
  | null => cases u <;> rfl

theorem same_forget (v u : Literal) : v.forget.same u = v.same u := by
  induction v using induct_items generalizing u with
  | list items ih =>
    cases u with
    | list others =>
      rw [forget, forgetItems_eq_map, same, same, sameItems_eq_isEqv, sameItems_eq_isEqv]
      exact isEqv_map_left ih others
    | _ => rfl
  | pattern p => cases u <;> rfl
  | _ => rfl

/-! ## Evaluation of literals -/

/-- A list equals values by what its items equal. -/
theorem itemsEqual_congr {items others : List Literal} (h : items.map equals = others.map equals)
    (values : List Json) : itemsEqual items values = itemsEqual others values := by
  induction items generalizing others values with
  | nil =>
    cases others with
    | nil => rfl
    | cons u others => cases h
  | cons v items ih =>
    cases others with
    | nil => cases h
    | cons u others =>
      rw [List.map_cons, List.map_cons, List.cons.injEq] at h
      cases values with
      | nil => rfl
      | cons j values => rw [itemsEqual, itemsEqual, h.1, ih h.2]

theorem equals_forget (v : Literal) : v.forget.equals = v.equals := by
  induction v using induct_items with
  | list items ih =>
    funext j
    cases j with
    | array values =>
      have hitems : (items.map forget).map equals = items.map equals := by
        rw [List.map_map]
        exact List.map_congr_left ih
      rw [forget, forgetItems_eq_map]
      exact itemsEqual_congr hitems values
    | _ => rfl
  | pattern p =>
    funext j
    cases j <;> rfl
  | _ => rfl

theorem compare_forget (op : Operator) (actual : Json) (v : Literal) :
    op.compare actual v.forget = op.compare actual v := by
  have horder : v.forget.order? actual = v.order? actual := by
    cases v <;> cases actual <;> rfl
  have hincludes : v.forget.includes actual = v.includes actual := by
    cases v with
    | list items =>
      simp only [forget, forgetItems_eq_map, includes, List.any_map, Function.comp_def,
        equals_forget]
    | _ => rfl
  cases op with
  | containsAny | containsAll =>
    cases v with
    | list items =>
      cases actual <;>
        simp [Operator.compare, forget, forgetItems_eq_map, Function.comp_def, equals_forget]
    | _ => cases actual <;> rfl
  | _ => simp only [Operator.compare, equals_forget, horder, hincludes]

theorem holds_forget (op : Operator) (actual : Json) (v : Literal) :
    op.holds actual v.forget = op.holds actual v := by
  have hcompare := compare_forget op actual v
  cases v with
  | pattern p =>
    cases op with
    | eq | ne => rfl
    | _ => exact hcompare
  | list items => cases op <;> exact hcompare
  | _ => rfl

theorem foundIn_forget (v : Literal) (subject : Subject) (synonyms : Synonyms) :
    v.forget.foundIn subject synonyms = v.foundIn subject synonyms := by
  cases v <;> cases subject <;> rfl

/-! ## Checks of literals -/

variable (subject : Subject) (synonyms : Synonyms) (op : Operator) (actual : Json)

theorem pattern?_eq_some_iff {op : Operator} {p : PatternLiteral} {negated : Bool} :
    op.pattern? v = some (p, negated) ↔
      v = pattern p ∧ (op = .eq ∧ negated = false ∨ op = .ne ∧ negated = true) := by
  constructor
  · intro h
    unfold Operator.pattern? at h
    split at h <;> cases h <;> simp
  · rintro ⟨rfl, ⟨rfl, rfl⟩ | ⟨rfl, rfl⟩⟩ <;> rfl

theorem forget_after_checkIn (v : Literal) :
    (v.checkIn subject synonyms).after.forget = v.forget := by
  cases subject with
  | record r => rfl
  | text s =>
    cases v with
    | pattern p => simp [checkIn, PatternLiteral.check, forget, PatternLiteral.forget_attempt]
    | _ => rfl

theorem forget_after_check (v : Literal) : (op.check actual v).after.forget = v.forget := by
  cases hp : op.pattern? v with
  | none => simp only [Operator.check, hp]
  | some e =>
    obtain ⟨rfl, -⟩ := pattern?_eq_some_iff.mp hp
    simp only [Operator.check, hp]
    cases actual.scalarText? with
    | none => rfl
    | some s => simp [PatternLiteral.check, forget, PatternLiteral.forget_attempt]

theorem checkIn_outcome (h : v.IsFaithful) :
    (v.checkIn subject synonyms).outcome = v.foundIn subject synonyms := by
  cases subject with
  | record r => rfl
  | text s =>
    cases v with
    | pattern p =>
      have hp := (h p [] .self).outcomeOrCompile_eq
      simp [checkIn, PatternLiteral.check, foundIn, PatternLiteral.occursIn, hp]
    | _ => rfl

theorem check_outcome (h : v.IsFaithful) : (op.check actual v).outcome = op.holds actual v := by
  cases hp : op.pattern? v with
  | none => simp only [Operator.check, Operator.holds, hp]
  | some e =>
    obtain ⟨p, negated⟩ := e
    obtain ⟨rfl, -⟩ := pattern?_eq_some_iff.mp hp
    have hkept := (h p [] .self).outcomeOrCompile_eq
    simp only [Operator.check, Operator.holds, hp]
    cases actual.scalarText? with
    | none => simp
    | some s => simp [PatternLiteral.check, PatternLiteral.occursIn, hkept]

end Literal

/-! ## Filters -/

/-- The answer of joined terms from the answers of each. -/
def Connective.combine (op : Connective) (answers : List Bool) : Bool :=
  match op with
  | and => answers.all id
  | or => answers.any id

/-- The answer of a term that leaves it to the others to decide. -/
def Connective.neutral : Connective → Bool
  | and => true
  | or => false

namespace Filter

/-- The occurrences of patterns in a filter: the positions of the terms that lead to a literal, and
then those in the literal. -/
inductive Occurs (p : PatternLiteral) : List Nat → Filter → Prop
  | text (h : v.Occurs p path) : Occurs p path (text v)
  | comparison (h : v.Occurs p path) : Occurs p path (comparison field op v)
  | term (ht : terms[i]? = some t) (h : Occurs p path t) : Occurs p (i :: path) (joined op terms)

variable {f : Filter} {terms : List Filter}

/-- Whether every kept outcome in the filter is the right one. -/
def IsFaithful (f : Filter) : Prop := ∀ p path, Occurs p path f → p.IsFaithful

mutual

/-- The filter without kept outcomes. -/
def forget : Filter → Filter
  | joined op terms => joined op (forgetTerms terms)
  | text v => text v.forget
  | comparison field op v => comparison field op v.forget

def forgetTerms : List Filter → List Filter
  | [] => []
  | t :: terms => t.forget :: forgetTerms terms

end

theorem forgetTerms_eq_map (terms : List Filter) : forgetTerms terms = terms.map forget := by
  induction terms with
  | nil => rfl
  | cons t terms ih => rw [forgetTerms, ih, List.map_cons]

theorem termsToJson_eq_map (terms : List Filter) : termsToJson terms = terms.map toJson := by
  induction terms with
  | nil => rfl
  | cons t terms ih => rw [termsToJson, ih, List.map_cons]

theorem toJson_forget (f : Filter) : f.forget.toJson = f.toJson := by
  induction f using induct_terms with
  | joined op terms ih =>
    have hterms : (terms.map forget).map toJson = terms.map toJson := by
      rw [List.map_map]
      exact List.map_congr_left ih
    simp only [forget, toJson, forgetTerms_eq_map, termsToJson_eq_map, hterms]
  | text v => rw [forget, toJson, toJson, Literal.toJson_forget]
  | comparison field op v => rw [forget, toJson, toJson, Literal.toJson_forget]

theorem sameTerms_eq_isEqv (terms others : List Filter) :
    sameTerms terms others = terms.isEqv others same := by
  induction terms generalizing others with
  | nil => cases others <;> rfl
  | cons t terms ih =>
    cases others with
    | nil => rfl
    | cons u others => rw [sameTerms, ih, List.isEqv_cons_cons]

theorem same_comm (f g : Filter) : f.same g = g.same f := by
  induction f using induct_terms generalizing g with
  | joined op terms ih =>
    cases g with
    | joined op' others =>
      rw [same, same, sameTerms_eq_isEqv, sameTerms_eq_isEqv, isEqv_comm ih, Bool.beq_comm]
    | _ => rfl
  | text v =>
    cases g with
    | text u => exact Literal.same_comm v u
    | _ => rfl
  | comparison field op v =>
    cases g with
    | comparison field' op' u =>
      rw [same, same, Literal.same_comm v u, Bool.beq_comm (a := field), Bool.beq_comm (a := op)]
    | _ => rfl

theorem same_forget (f g : Filter) : f.forget.same g = f.same g := by
  induction f using induct_terms generalizing g with
  | joined op terms ih =>
    cases g with
    | joined op' others =>
      rw [forget, forgetTerms_eq_map, same, same, sameTerms_eq_isEqv, sameTerms_eq_isEqv,
        isEqv_map_left ih]
    | _ => rfl
  | text v =>
    cases g with
    | text u => exact Literal.same_forget v u
    | _ => rfl
  | comparison field op v =>
    cases g with
    | comparison field' op' u => rw [forget, same, same, Literal.same_forget]
    | _ => rfl

/-! ## Evaluation and checks of filters -/

variable (subject : Subject) (synonyms : Synonyms) (op : Connective)

theorem accepts_joined (terms : List Filter) :
    (joined op terms).accepts subject synonyms =
      op.combine (terms.map fun t => t.accepts subject synonyms) := by
  cases op with
  | and => simp [accepts, allAccept_eq_all, Connective.combine]
  | or => simp [accepts, anyAccepts_eq_any, Connective.combine]

theorem check_joined_outcome (terms : List Filter) :
    ((joined op terms).check subject synonyms).outcome =
      op.combine (terms.map fun t => (t.check subject synonyms).outcome) := by
  cases op with
  | and => simp [check, checkAll_outcome, Connective.combine]
  | or => simp [check, checkAny_outcome, Connective.combine]

theorem accepts_forget (f : Filter) :
    f.forget.accepts subject synonyms = f.accepts subject synonyms := by
  induction f using induct_terms with
  | joined op terms ih =>
    rw [forget, forgetTerms_eq_map, accepts_joined, accepts_joined, List.map_map]
    congr 1
    exact List.map_congr_left ih
  | text v => exact Literal.foundIn_forget v subject synonyms
  | comparison field op v => exact Literal.holds_forget op _ v

/-- Checks terms one after the other, up to the first that decides. -/
def checkTerms (op : Connective) (terms : List Filter) : Checked (List Filter) :=
  match op with
  | .and => checkAll terms subject synonyms
  | .or => checkAny terms subject synonyms

theorem check_joined (terms : List Filter) :
    (joined op terms).check subject synonyms =
      (checkTerms subject synonyms op terms).map (joined op) := by
  cases op <;> rfl

theorem checkTerms_nil : checkTerms subject synonyms op [] = ⟨op.neutral, [], []⟩ := by
  cases op <;> rfl

theorem checkTerms_cons (t : Filter) (terms : List Filter) :
    checkTerms subject synonyms op (t :: terms) =
      if (t.check subject synonyms).outcome = op.neutral then
        ⟨(checkTerms subject synonyms op terms).outcome,
          (t.check subject synonyms).after :: (checkTerms subject synonyms op terms).after,
          (t.check subject synonyms).faults ++ (checkTerms subject synonyms op terms).faults⟩
      else
        ⟨!op.neutral, (t.check subject synonyms).after :: terms,
          (t.check subject synonyms).faults⟩ := by
  cases op with
  | and =>
    simp only [checkTerms, checkAll, Connective.neutral]
    cases (t.check subject synonyms).outcome <;> rfl
  | or =>
    simp only [checkTerms, checkAny, Connective.neutral]
    cases (t.check subject synonyms).outcome <;> rfl

/-- Terms that each give the same are checked alike. -/
theorem checkTerms_congr {other : Subject} {synonyms' : Synonyms} {terms : List Filter}
    (h : ∀ t ∈ terms, t.check subject synonyms = t.check other synonyms') :
    checkTerms subject synonyms op terms = checkTerms other synonyms' op terms := by
  induction terms with
  | nil => rw [checkTerms_nil, checkTerms_nil]
  | cons t terms ih =>
    have hterms := ih fun u hu => h u (by simp [hu])
    rw [checkTerms_cons, checkTerms_cons, h t (by simp), hterms]

theorem forget_after_checkTerms {terms : List Filter}
    (h : ∀ t ∈ terms, (t.check subject synonyms).after.forget = t.forget) :
    (checkTerms subject synonyms op terms).after.map forget = terms.map forget := by
  induction terms with
  | nil => rw [checkTerms_nil]
  | cons t terms ih =>
    have hterms := ih fun u hu => h u (by simp [hu])
    rw [checkTerms_cons]
    split
    · rw [List.map_cons, List.map_cons, h t (by simp), hterms]
    · rw [List.map_cons, List.map_cons, h t (by simp)]

/-- A check changes nothing but kept outcomes. -/
theorem forget_after_check (f : Filter) : (f.check subject synonyms).after.forget = f.forget := by
  induction f using induct_terms with
  | joined op terms ih =>
    rw [check_joined, Checked.after_map, forget, forget, forgetTerms_eq_map, forgetTerms_eq_map,
      forget_after_checkTerms subject synonyms op ih]
  | text v => simp [check, forget, Literal.forget_after_checkIn]
  | comparison field op v => simp [check, forget, Literal.forget_after_check]

/-- A checked filter equals what it equalled before. -/
theorem same_after_check (f g : Filter) :
    (f.check subject synonyms).after.same g = f.same g := by
  rw [← same_forget, forget_after_check, same_forget]

theorem toJson_after_check (f : Filter) :
    (f.check subject synonyms).after.toJson = f.toJson := by
  rw [← toJson_forget, forget_after_check, toJson_forget]

theorem IsFaithful.term {t : Filter} (h : (joined op terms).IsFaithful) (ht : t ∈ terms) :
    t.IsFaithful := by
  obtain ⟨i, hi⟩ := List.mem_iff_getElem?.mp ht
  intro p path hp
  exact h p (i :: path) (.term hi hp)

/-- A check of a filter whose kept outcomes are right answers what evaluating it does. -/
theorem check_outcome (h : f.IsFaithful) :
    (f.check subject synonyms).outcome = f.accepts subject synonyms := by
  induction f using induct_terms with
  | joined op terms ih =>
    rw [check_joined_outcome, accepts_joined]
    congr 1
    apply List.map_congr_left
    intro t ht
    exact ih t ht (h.term op ht)
  | text v =>
    have hv : v.IsFaithful := fun p path hp => h p path (.text hp)
    simp [check, accepts, Literal.checkIn_outcome subject synonyms hv]
  | comparison field op v =>
    have hv : v.IsFaithful := fun p path hp => h p path (.comparison hp)
    simp [check, accepts, Literal.check_outcome op (subject.field field) hv]

end Filter

end RecordFilter
