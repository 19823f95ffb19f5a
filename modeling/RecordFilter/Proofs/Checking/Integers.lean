import RecordFilter.Proofs.Checking.Equality
import RecordFilter.Proofs.Numbers.Integers

/-!
# Comparing integers

Both sides of a comparison are floating point numbers, so two integers compare as they do when
rounded to 53 bits. This is their own order as far as rounding keeps it: a comparison never has two
integers the wrong way round, but it may take them for equal.
-/

namespace RecordFilter

open Binary64 (ofInt rounded IsExact IsInteger64 IsNearest)

variable {n m : Int}

/-- The answers to the comparisons of two integers are the right ones. -/
structure Operator.Decides (answer : Operator → Bool) (n m : Int) : Prop where
  eq : answer .eq = true ↔ n = m
  ne : answer .ne = true ↔ n ≠ m
  lt : answer .lt = true ↔ n < m
  gt : answer .gt = true ↔ m < n
  le : answer .le = true ↔ n ≤ m
  ge : answer .ge = true ↔ m ≤ n

/-! ## Literals -/

namespace Literal

/-- The literal that the digits of an integer are read as. -/
def integer (m : Int) : Literal := number (ofInt m)

theorem equals_integer (hn : IsInteger64 n) (hm : IsInteger64 m) :
    (integer m).equals (.number (.integer n)) = true ↔ rounded n = rounded m := by
  have hkeys := Binary64.compare_key_ofInt hn.natAbs_lt hm.natAbs_lt
  have hnaN (k : Int) : (ofInt k).isNaN = false := Binary64.isNaN_ofRatio _ _ _
  simp only [integer, equals, Json.Number.toBinary64, Binary64.sameValue, hnaN, Bool.not_false,
    Bool.true_and, beq_iff_eq]
  rw [← compare_eq_iff_eq, hkeys, compare_eq_iff_eq]

theorem order?_integer (hn : IsInteger64 n) (hm : IsInteger64 m) :
    (integer m).order? (.number (.integer n)) = some (compare (rounded n) (rounded m)) := by
  have hkeys := Binary64.compare_key_ofInt hn.natAbs_lt hm.natAbs_lt
  have hnaN (k : Int) : (ofInt k).isNaN = false := Binary64.isNaN_ofRatio _ _ _
  simp [integer, order?, Json.Number.toBinary64, Binary64.compare?, hnaN, hkeys]

theorem decides_integer (hn : IsInteger64 n) (hm : IsInteger64 m) :
    Operator.Decides (fun op => op.compare (.number (.integer n)) (integer m))
      (rounded n) (rounded m) := by
  have hequals := equals_integer hn hm
  have horder := order?_integer hn hm
  constructor
  · simpa [Operator.compare] using hequals
  · simpa [Operator.compare] using hequals.not
  · simpa [Operator.compare, horder] using compare_lt_iff_lt
  · simpa [Operator.compare, horder] using compare_gt_iff_gt
  · simpa only [Operator.compare, horder, Option.any_some] using Std.isLE_compare
  · simpa only [Operator.compare, horder, Option.any_some] using Std.isGE_compare

theorem includes_integers {ms : List Int} (hn : IsInteger64 n) (hms : ∀ m ∈ ms, IsInteger64 m) :
    (list (ms.map integer)).includes (.number (.integer n)) = true ↔
      rounded n ∈ ms.map rounded := by
  rw [includes, List.any_eq_true]
  constructor
  · rintro ⟨v, hv, heq⟩
    obtain ⟨m, hm, rfl⟩ := List.mem_map.mp hv
    have hrounded := (equals_integer hn (hms m hm)).mp heq
    rw [hrounded]
    exact List.mem_map_of_mem hm
  · intro h
    obtain ⟨m, hm, hrounded⟩ := List.mem_map.mp h
    have heq := (equals_integer hn (hms m hm)).mpr hrounded.symm
    exact ⟨integer m, List.mem_map_of_mem hm, heq⟩

end Literal

/-! ## Texts -/

namespace Filter

/-- The digits of an integer, after its sign. -/
def integerText (m : Int) : String := (Json.Number.integer m).text

theorem isNumberChar_integerText (m : Int) : ∀ c ∈ (integerText m).toList, isNumberChar c := by
  rw [integerText, ← Json.Numeral.chars_integer]
  exact Json.Numeral.isNumberChar_chars _ rfl

theorem spellsValue_integer (depth : Nat) (m : Int) :
    SpellsValue depth (integerText m).toList (Literal.integer m) := by
  have hread : Binary64.ofPositional? (integerText m).toList = some (ofInt m) :=
    Binary64.ofPositional?_integer m
  rw [Literal.integer]
  exact .number (isNumberChar_integerText m) hread

/-- The integers of a list, with the same text between any two of them. -/
theorem spellsItems_integers {sep : String} (hsep : ∀ c ∈ sep.toList, isSeparator c)
    (hne : sep ≠ "") (depth : Nat) (ms : List Int) {before : List Char}
    (hbefore : ∀ c ∈ before, isSeparator c) :
    SpellsItems depth (before ++ (sep.intercalate (ms.map integerText)).toList)
      (ms.map Literal.integer) := by
  induction ms generalizing before with
  | nil => simpa using SpellsItems.done hbefore
  | cons m ms ih =>
    have hvalue := spellsValue_integer depth m
    cases ms with
    | nil =>
      have hlast :
          SpellsItems depth (before ++ ((integerText m).toList ++ [])) [Literal.integer m] :=
        .item hbefore hvalue (by simp) (.done (by simp))
      simpa using hlast
    | cons k ms =>
      have hhead : ∀ c ∈ (sep.toList ++
          (sep.intercalate ((k :: ms).map integerText)).toList).head?, isSeparator c := by
        obtain ⟨c, s, hs⟩ := List.exists_cons_of_ne_nil (String.toList_eq_nil_iff.not.mpr hne)
        simpa [hs] using hsep c (by simp [hs])
      have hitems := SpellsItems.item hbefore hvalue hhead (ih hsep)
      simpa [String.intercalate_cons_cons] using hitems

end Filter

/-! ## Records -/

/-- The record with an integer as its id. -/
def idRecord (n : Int) : Json := .object [("id", .number (.integer n))]

theorem read?_idRecord (hn : IsInteger64 n) :
    Json.read? (idRecord n).compact = some (idRecord n) := by
  have hdepth : (idRecord n).depth ≤ Json.maxDepth := by
    simp [idRecord, Json.depth, Json.depthFields, Json.maxDepth]
  rw [Json.read?_compact hdepth]
  simp [idRecord, Json.reread, Json.rereadFields, Json.Number.reread_integer hn, Entries.ofList,
    Entries.set]

theorem field_idRecord (n : Int) :
    (Subject.ofJson (idRecord n)).field "id" = .number (.integer n) := rfl

namespace Filter

/-- What the filter of a text says of the record with the given id. -/
def idOutcome (n : Int) (synonyms : Synonyms) (text : String) : Bool :=
  ((parse text).check (.ofJson (idRecord n)) synonyms).outcome

variable {sp sp' sep w : String} {v : Literal} {op : Operator}

theorem idOutcome_comparison (hs : ∀ c ∈ sp.toList, isSpace c) (hop : op.isWord → sp ≠ "")
    (hs' : ∀ c ∈ sp'.toList, isSpace c) (hw : SpellsValue 0 w.toList v)
    (hv : op.pattern? v = none) (n : Int) (synonyms : Synonyms) :
    idOutcome n synonyms ("id" ++ sp ++ op.text ++ sp' ++ w) =
      op.compare (.number (.integer n)) v := by
  have hfield : IsField "id".toList := by decide
  rw [idOutcome, parse_comparison_spaced op hfield hs hop hs' hw, check, Checked.outcome_map,
    field_idRecord, Operator.check, hv]

theorem pattern?_integer (op : Operator) (m : Int) : op.pattern? (Literal.integer m) = none := by
  cases op <;> rfl

/-- The filters that compare the id with an integer. -/
def comparisonText (sp sp' : String) (m : Int) (op : Operator) : String :=
  "id" ++ sp ++ op.text ++ sp' ++ integerText m

/-- The filters that look for the id in a list of integers. -/
def membershipText (sp sp' sep : String) (ms : List Int) : String :=
  "id" ++ sp ++ "in" ++ sp' ++ "[" ++ sep.intercalate (ms.map integerText) ++ "]"

theorem decides_rounded (hn : IsInteger64 n) (hm : IsInteger64 m)
    (hs : ∀ c ∈ sp.toList, isSpace c) (hs' : ∀ c ∈ sp'.toList, isSpace c) (synonyms : Synonyms) :
    Operator.Decides (fun op => idOutcome n synonyms (comparisonText sp sp' m op))
      (rounded n) (rounded m) := by
  have hdecides := Literal.decides_integer hn hm
  have houtcome (op : Operator) (hop : op.isWord = false) :
      idOutcome n synonyms (comparisonText sp sp' m op) =
        op.compare (.number (.integer n)) (Literal.integer m) :=
    idOutcome_comparison hs (by simp [hop]) hs' (spellsValue_integer 0 m) (pattern?_integer op m)
      n synonyms
  constructor <;> rw [houtcome _ rfl]
  exacts [hdecides.eq, hdecides.ne, hdecides.lt, hdecides.gt, hdecides.le, hdecides.ge]

theorem membership_rounded {ms : List Int} (hn : IsInteger64 n) (hms : ∀ m ∈ ms, IsInteger64 m)
    (hs : ∀ c ∈ sp.toList, isSpace c) (hne : sp ≠ "") (hs' : ∀ c ∈ sp'.toList, isSpace c)
    (hsep : ∀ c ∈ sep.toList, isSeparator c) (hsepNe : sep ≠ "") (synonyms : Synonyms) :
    idOutcome n synonyms (membershipText sp sp' sep ms) = true ↔ rounded n ∈ ms.map rounded := by
  have hitems : SpellsItems 1 ([] ++ (sep.intercalate (ms.map integerText)).toList) _ :=
    spellsItems_integers hsep hsepNe 1 ms (by simp)
  have hlist : SpellsValue 0 ("[" ++ sep.intercalate (ms.map integerText) ++ "]").toList
      (.list (ms.map Literal.integer)) := by
    simpa using SpellsValue.list (by decide) hitems
  have hpattern : Operator.isIn.pattern? (.list (ms.map Literal.integer)) = none := rfl
  have houtcome := idOutcome_comparison hs (fun _ => hne) hs' hlist hpattern n synonyms
  have htext : membershipText sp sp' sep ms = "id" ++ sp ++ Operator.isIn.text ++ sp' ++
      ("[" ++ sep.intercalate (ms.map integerText) ++ "]") := by
    simp [membershipText, Operator.text, String.append_assoc]
  rw [htext, houtcome]
  exact Literal.includes_integers hn hms

/-- Integers are compared as rounded to 53 bits, to the nearest and at a tie to the even one.
Rounding never reverses their order, and it keeps those with no more bits than that before their
final zeros, whose comparisons are therefore exact. -/
theorem check_integers (n : Int) (hn : IsInteger64 n) (sp sp' : String)
    (hs : ∀ c ∈ sp.toList, isSpace c) (hs' : ∀ c ∈ sp'.toList, isSpace c) (synonyms : Synonyms) :
    Json.read? (idRecord n).compact = some (idRecord n) ∧
      (∀ k, IsNearest k (rounded k)) ∧
      (∀ m, IsInteger64 m →
        (n ≤ m → rounded n ≤ rounded m) ∧ (m ≤ n → rounded m ≤ rounded n) ∧
          Operator.Decides (fun op => idOutcome n synonyms (comparisonText sp sp' m op))
            (rounded n) (rounded m) ∧
          (IsExact n → IsExact m →
            Operator.Decides (fun op => idOutcome n synonyms (comparisonText sp sp' m op)) n m)) ∧
      ∀ ms, (∀ m ∈ ms, IsInteger64 m) →
        ∀ sep, sp ≠ "" → sep ≠ "" → (∀ c ∈ sep.toList, isSeparator c) →
          (idOutcome n synonyms (membershipText sp sp' sep ms) = true ↔
              rounded n ∈ ms.map rounded) ∧
            (IsExact n → (∀ m ∈ ms, IsExact m) →
              (idOutcome n synonyms (membershipText sp sp' sep ms) = true ↔ n ∈ ms)) := by
  refine ⟨read?_idRecord hn, Binary64.isNearest_rounded, ?_, ?_⟩
  · intro m hm
    have hdecides := decides_rounded hn hm hs hs' synonyms
    refine ⟨fun h => Binary64.rounded_mono h, fun h => Binary64.rounded_mono h, hdecides, ?_⟩
    intro hexact hexact'
    rwa [Binary64.rounded_eq_self hexact, Binary64.rounded_eq_self hexact'] at hdecides
  · intro ms hms sep hne hsepNe hsep
    have hmember := membership_rounded hn hms hs hne hs' hsep hsepNe synonyms
    refine ⟨hmember, fun hexact hexacts => ?_⟩
    have hself : ms.map rounded = ms.map id :=
      List.map_congr_left fun m hm => Binary64.rounded_eq_self (hexacts m hm)
    rw [hmember, hself, List.map_id, Binary64.rounded_eq_self hexact]

/-- The least integer has 64 bits, but 63 of them are its final zeros. -/
theorem check_integers_smallest :
    IsInteger64 9007199254740992 ∧ IsInteger64 (-9223372036854775808) ∧
      idOutcome 9007199254740992 .empty (comparisonText " " "" (-9223372036854775808) .gt) = true ∧
      idOutcome 9007199254740992 .empty
        (membershipText " " "" ", " [-9223372036854775808, 9007199254740991]) = false := by
  have hspace : ∀ c ∈ " ".toList, isSpace c := by simp [isSpace]
  have hn : IsInteger64 9007199254740992 := ⟨by decide, by decide⟩
  have hm : IsInteger64 (-9223372036854775808) := ⟨by decide, by decide⟩
  have hk : IsInteger64 9007199254740991 := ⟨by decide, by decide⟩
  have hexact : IsExact 9007199254740992 := Binary64.isExact_of_natAbs_le (by decide)
  have hexact' : IsExact (-9223372036854775808) := ⟨-1, 63, by decide, by norm_num⟩
  have hexact'' : IsExact 9007199254740991 := Binary64.isExact_of_natAbs_le (by decide)
  obtain ⟨-, -, hcompare, hmember⟩ :=
    check_integers 9007199254740992 hn " " "" hspace (by simp) .empty
  refine ⟨hn, hm, (((hcompare _ hm).2.2.2 hexact hexact').gt).mpr (by decide), ?_⟩
  have hlist := (hmember [-9223372036854775808, 9007199254740991] (by simp [hm, hk]) ", " (by simp)
    (by simp) (by simp [isSeparator, isSpace])).2 hexact (by simp [hexact', hexact''])
  simpa using hlist.not

/-- Past 53 bits an integer can be taken for another one. -/
theorem check_integers_beyond :
    ((parse "id=9007199254740993").check
        (.ofJson (.object [("id", .number (.integer 9007199254740992))])) .empty).outcome = true ∧
      (9007199254740992 : Int) ≠ 9007199254740993 := by
  have hn : IsInteger64 9007199254740992 := ⟨by decide, by decide⟩
  have hm : IsInteger64 9007199254740993 := ⟨by decide, by decide⟩
  have hdecides : Operator.Decides
      (fun op => idOutcome 9007199254740992 .empty (comparisonText "" "" 9007199254740993 op))
      _ _ :=
    decides_rounded hn hm (by simp) (by simp) .empty
  have htext : comparisonText "" "" 9007199254740993 .eq = "id=9007199254740993" := by
    decide +kernel
  have hequal : rounded 9007199254740992 = rounded 9007199254740993 := by decide +kernel
  rw [← htext]
  exact ⟨hdecides.eq.mpr hequal, by decide⟩

end Filter

end RecordFilter
