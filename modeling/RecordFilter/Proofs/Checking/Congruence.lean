import RecordFilter.Proofs.Checking.Lineage
import RecordFilter.Proofs.Reading.Grammar

/-!
# Equal filters

Equality is an equivalence on the filters that reading gives, and it does not see what a check
compiles. Of two equal filters each may stand for the other when records are checked. When texts
are, there is one exception: the two zeros are one number, so equality takes them for the same, but
a text term looks for the text of its number, and these are `0` and `-0`.
-/

namespace RecordFilter

/-! ## Numbers -/

namespace Binary64

variable {x y : Binary64}

theorem sameValue_eq_true :
    x.sameValue y = true ↔ x.isNaN = false ∧ y.isNaN = false ∧ x.key = y.key := by
  simp [sameValue, and_assoc]

theorem sameValue_trans {z : Binary64} (h : x.sameValue y = true) (h' : y.sameValue z = true) :
    x.sameValue z = true := by
  obtain ⟨hx, -, hxy⟩ := sameValue_eq_true.mp h
  obtain ⟨-, hz, hyz⟩ := sameValue_eq_true.mp h'
  exact sameValue_eq_true.mpr ⟨hx, hz, hxy.trans hyz⟩

theorem sameValue_congr (h : x.sameValue y = true) (z : Binary64) :
    z.sameValue x = z.sameValue y := by
  obtain ⟨hx, hy, hkey⟩ := sameValue_eq_true.mp h
  rw [sameValue, sameValue, hx, hy, hkey]

theorem compare?_congr (h : x.sameValue y = true) (z : Binary64) :
    z.compare? x = z.compare? y := by
  obtain ⟨hx, hy, hkey⟩ := sameValue_eq_true.mp h
  rw [compare?, compare?, hx, hy, hkey]

/-- Only the sign of a zero is lost on equality. -/
theorem eq_of_sameValue (h : x.sameValue y = true)
    (hzero : x.magnitude = 0 → x.negative = y.negative) : x = y := by
  obtain ⟨s, m, hm⟩ := x
  obtain ⟨t, n, hn⟩ := y
  have hkey := (sameValue_eq_true.mp h).2.2
  simp only [key] at hkey hzero
  have hsign : s = t := by
    by_cases hm0 : m = 0
    · exact hzero hm0
    · cases s <;> cases t <;> simp at hkey ⊢ <;> omega
  have hmagnitude : m = n := by
    subst hsign
    cases s <;> simpa using hkey
  subst hsign hmagnitude
  rfl

theorem magnitude_eq_zero_iff (h : x.sameValue y = true) : x.magnitude = 0 ↔ y.magnitude = 0 := by
  have hkey := (sameValue_eq_true.mp h).2.2
  unfold key at hkey
  split at hkey <;> split at hkey <;> omega

end Binary64

namespace PatternLiteral

variable {p q : PatternLiteral}

theorem same_iff : p.same q = true ↔ p.source = q.source ∧ p.flags = q.flags := by
  simp [same]

theorem occursIn_congr (h : p.same q = true) : p.occursIn = q.occursIn := by
  obtain ⟨hsource, hflags⟩ := same_iff.mp h
  funext s
  rw [occursIn, occursIn, compile, compile, hsource, hflags]

end PatternLiteral

/-! ## Literals -/

namespace Literal

variable {v u w : Literal}

theorem same_trans (h : v.same u = true) (h' : u.same w = true) : v.same w = true := by
  induction v using induct_items generalizing u w with
  | list items ih =>
    cases u <;> cases w <;> simp only [same, Bool.false_eq_true] at h h' ⊢
    rw [sameItems_eq_isEqv] at h h' ⊢
    exact isEqv_trans (fun a ha b c => ih a ha) h h'
  | number x =>
    cases u <;> cases w <;> simp only [same, Bool.false_eq_true] at h h' ⊢
    exact Binary64.sameValue_trans h h'
  | pattern p =>
    cases u <;> cases w <;> simp only [same, Bool.false_eq_true] at h h' ⊢
    rw [PatternLiteral.same_iff] at h h' ⊢
    exact ⟨h.1.trans h'.1, h.2.trans h'.2⟩
  | string s => cases u <;> cases w <;> simp_all [same]
  | bool b => cases u <;> cases w <;> simp_all [same]
  | null => cases u <;> cases w <;> simp_all [same]

/-- Equal literals equal the same JSON values. -/
theorem equals_congr (h : v.same u = true) : v.equals = u.equals := by
  induction v using induct_items generalizing u with
  | list items ih =>
    cases u <;> simp only [same, Bool.false_eq_true] at h
    rw [sameItems_eq_isEqv] at h
    have hitems := map_eq_map_of_isEqv (fun a ha b => ih a ha) h
    funext j
    cases j with
    | array values => exact itemsEqual_congr hitems values
    | _ => rfl
  | number x =>
    cases u <;> simp only [same, Bool.false_eq_true] at h
    funext j
    cases j with
    | number n => exact Binary64.sameValue_congr h n.toBinary64
    | _ => rfl
  | pattern p =>
    cases u <;> simp only [same, Bool.false_eq_true] at h
    funext j
    cases j <;> rfl
  | string s => cases u <;> simp_all [same]
  | bool b => cases u <;> simp_all [same]
  | null => cases u <;> simp_all [same]

theorem order?_congr (h : v.same u = true) (actual : Json) : v.order? actual = u.order? actual := by
  cases v <;> cases u <;> simp only [same, beq_iff_eq, Bool.false_eq_true] at h
  case number.number x y =>
    cases actual with
    | number n => exact Binary64.compare?_congr h n.toBinary64
    | _ => rfl
  case string.string => rw [h]
  case bool.bool => rw [h]
  all_goals cases actual <;> rfl

theorem any_equals_congr {items others : List Literal} (h : items.map equals = others.map equals)
    (p : (Json → Bool) → Bool) :
    (items.any fun v => p v.equals) = others.any fun v => p v.equals := by
  have hany := congrArg (fun l : List (Json → Bool) => l.any p) h
  simpa only [List.any_map, Function.comp_def] using hany

theorem all_equals_congr {items others : List Literal} (h : items.map equals = others.map equals)
    (p : (Json → Bool) → Bool) :
    (items.all fun v => p v.equals) = others.all fun v => p v.equals := by
  have hall := congrArg (fun l : List (Json → Bool) => l.all p) h
  simpa only [List.all_map, Function.comp_def] using hall

theorem map_equals_eq {items others : List Literal} (h : (list items).same (list others) = true) :
    items.map equals = others.map equals := by
  rw [same, sameItems_eq_isEqv] at h
  exact map_eq_map_of_isEqv (fun a _ b hab => equals_congr hab) h

theorem includes_congr (h : v.same u = true) (actual : Json) :
    v.includes actual = u.includes actual := by
  cases v with
  | list items =>
    cases u with
    | list others => exact any_equals_congr (map_equals_eq h) fun p => p actual
    | _ => cases h
  | _ => cases u <;> first | rfl | cases h

theorem compare_congr (h : v.same u = true) (op : Operator) (actual : Json) :
    op.compare actual v = op.compare actual u := by
  have hequals := equals_congr h
  have horder := order?_congr h actual
  have hincludes := includes_congr h actual
  cases op with
  | containsAny =>
    cases v <;> cases u <;> first | cases h | skip
    case list.list =>
      cases actual with
      | array values => exact any_equals_congr (map_equals_eq h) fun p => values.any p
      | _ => rfl
    all_goals cases actual <;> rfl
  | containsAll =>
    cases v <;> cases u <;> first | cases h | skip
    case list.list =>
      cases actual with
      | array values => exact all_equals_congr (map_equals_eq h) fun p => values.any p
      | _ => rfl
    all_goals cases actual <;> rfl
  | _ => simp only [Operator.compare, hequals, horder, hincludes]

theorem holds_congr (h : v.same u = true) (op : Operator) (actual : Json) :
    op.holds actual v = op.holds actual u := by
  have hcompare := compare_congr h op actual
  cases v with
  | pattern p =>
    cases u <;> simp only [same, Bool.false_eq_true] at h
    have hp := PatternLiteral.occursIn_congr h
    cases op <;> simp only [Operator.holds, Operator.pattern?, hp] <;> exact hcompare
  | _ =>
    cases u <;> simp only [same, Bool.false_eq_true] at h
    cases op <;> exact hcompare

/-- The sign of the zero that a text term looks for, if it looks for one. -/
def zeroSigns : Literal → List Bool
  | number x => if x.magnitude = 0 then [x.negative] else []
  | _ => []

theorem length_zeroSigns_congr (h : v.same u = true) :
    v.zeroSigns.length = u.zeroSigns.length := by
  cases v <;> cases u <;> first | rfl | skip
  case number.number x y =>
    simp only [zeroSigns, Binary64.magnitude_eq_zero_iff h]
    split <;> rfl
  all_goals cases h

/-- Equal literals are found in the same subjects, a text provided that zeros have one sign. -/
theorem foundIn_congr {subject : Subject} (h : v.same u = true)
    (hzeros : ∀ s, subject = .text s → v.zeroSigns = u.zeroSigns) (synonyms : Synonyms) :
    v.foundIn subject synonyms = u.foundIn subject synonyms := by
  cases subject with
  | record r => rfl
  | text s =>
    cases v with
    | number x =>
      cases u with
      | number y =>
        have hxy : x = y := by
          refine Binary64.eq_of_sameValue h fun hx => ?_
          have hy := (Binary64.magnitude_eq_zero_iff h).mp hx
          simpa [zeroSigns, hx, hy] using hzeros s rfl
        rw [hxy]
      | _ => cases h
    | string q =>
      cases u with
      | string q' =>
        obtain rfl : q = q' := by simpa [same] using h
        rfl
      | _ => cases h
    | pattern p =>
      cases u with
      | pattern p' => simp only [foundIn, PatternLiteral.occursIn_congr h]
      | _ => cases h
    | _ => cases u <;> first | rfl | cases h

end Literal

/-! ## Filters -/

namespace Filter

/-- The filter of a text as it is read, or after any checks of it. -/
inductive ReadFrom (text : String) : Filter → Prop
  | fresh : ReadFrom text (parse text)
  | checked (h : ReadFrom text f) (subject : Subject) (synonyms : Synonyms) :
      ReadFrom text (f.check subject synonyms).after

mutual

/-- The signs of the zeros that the text terms of a filter look for, in order. -/
def zeroSigns : Filter → List Bool
  | joined _ terms => zeroSignsOfTerms terms
  | text v => v.zeroSigns
  | comparison _ _ _ => []

def zeroSignsOfTerms : List Filter → List Bool
  | [] => []
  | t :: terms => t.zeroSigns ++ zeroSignsOfTerms terms

end

theorem zeroSignsOfTerms_eq_flatMap (terms : List Filter) :
    zeroSignsOfTerms terms = terms.flatMap zeroSigns := by
  induction terms with
  | nil => rfl
  | cons t terms ih => rw [zeroSignsOfTerms, ih, List.flatMap_cons]

variable {f g k : Filter} {subject : Subject} {synonyms : Synonyms} {a b c : String}

theorem same_trans (h : f.same g = true) (h' : g.same k = true) : f.same k = true := by
  induction f using induct_terms generalizing g k with
  | joined op terms ih =>
    cases g <;> cases k <;>
      simp only [same, sameTerms_eq_isEqv, Bool.and_eq_true, beq_iff_eq, Bool.false_eq_true]
        at h h' ⊢
    exact ⟨h.1.trans h'.1, isEqv_trans (fun t ht a b => ih t ht) h.2 h'.2⟩
  | text v =>
    cases g <;> cases k <;> simp only [same, Bool.false_eq_true] at h h' ⊢
    exact Literal.same_trans h h'
  | comparison field op v =>
    cases g <;> cases k <;>
      simp only [same, Bool.and_eq_true, beq_iff_eq, Bool.false_eq_true] at h h' ⊢
    obtain ⟨⟨hfield, hop⟩, hv⟩ := h
    obtain ⟨⟨hfield', hop'⟩, hv'⟩ := h'
    exact ⟨⟨hfield.trans hfield', hop.trans hop'⟩, Literal.same_trans hv hv'⟩

theorem length_zeroSigns_congr (h : f.same g = true) :
    f.zeroSigns.length = g.zeroSigns.length := by
  induction f using induct_terms generalizing g with
  | joined op terms ih =>
    cases g with
    | joined op' others =>
      rw [same, sameTerms_eq_isEqv, Bool.and_eq_true] at h
      have hlengths := map_eq_map_of_isEqv (g := fun t : Filter => t.zeroSigns.length)
        (fun t ht u => ih t ht) h.2
      rw [zeroSigns, zeroSigns, zeroSignsOfTerms_eq_flatMap, zeroSignsOfTerms_eq_flatMap,
        List.length_flatMap, List.length_flatMap, hlengths]
    | _ => cases h
  | text v =>
    cases g with
    | text u => exact Literal.length_zeroSigns_congr h
    | _ => cases h
  | comparison field op v =>
    cases g with
    | comparison => rfl
    | _ => cases h

theorem map_accepts_congr {terms others : List Filter} (hs : terms.isEqv others same = true)
    (hzeros : ∀ s, subject = .text s → terms.flatMap zeroSigns = others.flatMap zeroSigns)
    (ih : ∀ t ∈ terms, ∀ u : Filter, t.same u = true →
      (∀ s, subject = .text s → t.zeroSigns = u.zeroSigns) →
      t.accepts subject synonyms = u.accepts subject synonyms) :
    (terms.map fun t => t.accepts subject synonyms) =
      others.map fun t => t.accepts subject synonyms := by
  induction terms generalizing others with
  | nil =>
    cases others with
    | nil => rfl
    | cons u others => cases hs
  | cons t terms ihl =>
    cases others with
    | nil => cases hs
    | cons u others =>
      rw [List.isEqv_cons_cons, Bool.and_eq_true] at hs
      have hsplit : ∀ s, subject = .text s → t.zeroSigns = u.zeroSigns ∧
          terms.flatMap zeroSigns = others.flatMap zeroSigns := by
        intro s hsubject
        have happend := hzeros s hsubject
        rw [List.flatMap_cons, List.flatMap_cons] at happend
        exact List.append_inj happend (length_zeroSigns_congr hs.1)
      rw [List.map_cons, List.map_cons, ih t (by simp) u hs.1 fun s hsub => (hsplit s hsub).1,
        ihl hs.2 (fun s hsub => (hsplit s hsub).2) fun w hw => ih w (by simp [hw])]

/-- Equal filters accept the same subjects, a text provided that zeros have one sign. -/
theorem accepts_congr (h : f.same g = true)
    (hzeros : ∀ s, subject = .text s → f.zeroSigns = g.zeroSigns) :
    f.accepts subject synonyms = g.accepts subject synonyms := by
  induction f using induct_terms generalizing g with
  | joined op terms ih =>
    cases g with
    | joined op' others =>
      rw [same, sameTerms_eq_isEqv, Bool.and_eq_true, beq_iff_eq] at h
      obtain ⟨rfl, hterms⟩ := h
      simp only [zeroSigns, zeroSignsOfTerms_eq_flatMap] at hzeros
      rw [accepts_joined, accepts_joined,
        map_accepts_congr hterms hzeros fun t ht u hu => ih t ht hu]
    | _ => cases h
  | text v =>
    cases g with
    | text u => exact Literal.foundIn_congr h hzeros synonyms
    | _ => cases h
  | comparison field op v =>
    cases g with
    | comparison field' op' u =>
      simp only [same, Bool.and_eq_true, beq_iff_eq] at h
      obtain ⟨⟨rfl, rfl⟩, hv⟩ := h
      exact Literal.holds_congr hv op _
    | _ => cases h

/-! ## Filters that were read -/

theorem ReadFrom.forget_eq (h : ReadFrom a f) : f.forget = parse a := by
  induction h with
  | fresh => exact forget_parse a
  | checked _ subject synonyms ih => rw [forget_after_check, ih]

/-- The checks that a filter went through are a lineage of it. -/
theorem ReadFrom.exists_lineage (h : ReadFrom a f) :
    ∃ l : Session.Lineage, l.text = a ∧ l.Describes f := by
  induction h with
  | fresh => exact ⟨.ofText a, rfl, Session.Lineage.describes_ofText a⟩
  | checked _ subject synonyms ih =>
    obtain ⟨l, htext, hl⟩ := ih
    exact ⟨l.checked subject synonyms _, htext, hl.after_check subject synonyms⟩

theorem ReadFrom.outcome_eq (h : ReadFrom a f) :
    (f.check subject synonyms).outcome = (parse a).accepts subject synonyms := by
  obtain ⟨l, rfl, hl⟩ := h.exists_lineage
  exact (hl.check subject synonyms).1

theorem ReadFrom.same_eq (hf : ReadFrom a f) (hg : ReadFrom b g) :
    f.same g = (parse a).same (parse b) := by
  rw [← hf.forget_eq, ← hg.forget_eq, same_forget, same_comm f g.forget, same_forget, same_comm]

/-- Equality of the filters that were read is an equivalence and does not see what was compiled.
Equal filters give the same answers for records, and for texts if the zeros that their text terms
look for have the same signs. -/
theorem same_of_readFrom (hf : ReadFrom a f) (hg : ReadFrom b g) :
    f.same f = true ∧ f.same g = g.same f ∧
      (∀ k, f.same g = true → g.same k = true → f.same k = true) ∧
      f.same g = (parse a).same (parse b) ∧
      (f.same g = true → ∀ synonyms,
        (∀ r, (f.check (.record r) synonyms).outcome = (g.check (.record r) synonyms).outcome) ∧
        ((parse a).zeroSigns = (parse b).zeroSigns → ∀ s,
          (f.check (.text s) synonyms).outcome = (g.check (.text s) synonyms).outcome)) := by
  refine ⟨?_, same_comm f g, fun _ => same_trans, hf.same_eq hg, fun hsame synonyms => ⟨?_, ?_⟩⟩
  · rw [hf.same_eq hf]
    exact same_parse a
  · intro r
    rw [hf.same_eq hg] at hsame
    rw [hf.outcome_eq, hg.outcome_eq]
    exact accepts_congr hsame fun s hs => by cases hs
  · intro hzeros s
    rw [hf.same_eq hg] at hsame
    rw [hf.outcome_eq, hg.outcome_eq]
    exact accepts_congr hsame fun _ _ => hzeros

/-- Two equal filters, one of them after a check that compiled its pattern. -/
theorem same_of_readFrom_compiled :
    ReadFrom "/b/ or '0'" ((parse "/b/ or '0'").check (.text "abc") .empty).after ∧
      ReadFrom "/b/OR'0'" (parse "/b/OR'0'") ∧
      (((parse "/b/ or '0'").check (.text "abc") .empty).after).same (parse "/b/OR'0'") = true ∧
      (parse "/b/ or '0'").zeroSigns = (parse "/b/OR'0'").zeroSigns ∧
      ((((parse "/b/ or '0'").check (.text "abc") .empty).after).check (.text "b") .empty).outcome =
        ((parse "/b/OR'0'").check (.text "b") .empty).outcome := by
  have hf : ReadFrom "/b/ or '0'" ((parse "/b/ or '0'").check (.text "abc") .empty).after :=
    .checked .fresh _ _
  have hg : ReadFrom "/b/OR'0'" (parse "/b/OR'0'") := .fresh
  have hzeros : (parse "/b/ or '0'").zeroSigns = (parse "/b/OR'0'").zeroSigns := by cbv
  obtain ⟨-, -, -, hparse, hcheck⟩ := same_of_readFrom hf hg
  have hsame := hparse.trans (by cbv)
  exact ⟨hf, hg, hsame, hzeros, (hcheck hsame .empty).2 hzeros "b"⟩

theorem parse_zero : parse "0 0" = text (.number ⟨false, 0, by decide⟩) := by
  have hzero : Binary64.ofPositional? ['0'] = some ⟨false, 0, by decide⟩ := by decide +kernel
  have hterm : SpellsTerm 0 ('0' :: ([' '] ++ ['0'])) (text (.number ⟨false, 0, by decide⟩)) :=
    .afterZero (by simp; rfl) (by simp) (.number (by simp; rfl) hzero)
  have hread : read "0 0" = (text (.number ⟨false, 0, by decide⟩), []) := SpellsTerm.read_eq hterm
  rw [parse, hread]

theorem parse_negative_zero : parse "-0" = text (.number ⟨true, 0, by decide⟩) := by
  have hzero : Binary64.ofPositional? ['-', '0'] = some ⟨true, 0, by decide⟩ := by decide +kernel
  have hterm : SpellsTerm 0 "-0".toList (text (.number ⟨true, 0, by decide⟩)) :=
    .text (.number (List.all_eq_true.mp rfl) hzero) (by simp; rfl)
  rw [parse, hterm.read_eq]

/-- The two zeros are equal as filters, and one of them stands in a text where the other does
not. -/
theorem same_zeros_differ :
    (parse "0 0").same (parse "-0") = true ∧
      ((parse "0 0").check (.text "0") .empty).outcome = true ∧
      ((parse "-0").check (.text "0") .empty).outcome = false := by
  rw [parse_zero, parse_negative_zero]
  exact ⟨by decide +kernel, by decide +kernel, by decide +kernel⟩

end Filter

end RecordFilter
