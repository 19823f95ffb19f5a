import Mathlib
import RecordFilter.Filter.Parser

/-!
# The words of a filter

Facts about the readers that do not recurse: runs of characters, quoted strings, patterns, words
and keywords. Each leaves a suffix of what it is given. A run is read to its end, so what follows
it matters only through its first character; `Breaks` says that this character is not of the run.
-/

namespace RecordFilter.Filter

variable {p : Char → Bool} {c quote : Char} {s t x w body rest : List Char} {α : Type}

/-! ## Runs -/

/-- The text is over or goes on with a character outside the class. -/
def Breaks (p : Char → Bool) (s : List Char) : Prop := ∀ c ∈ s.head?, p c = false

@[simp] theorem breaks_nil : Breaks p [] := by simp [Breaks]

@[simp] theorem breaks_cons : Breaks p (c :: s) ↔ p c = false := by simp [Breaks]

theorem breaks_dropWhile (s : List Char) : Breaks p (s.dropWhile p) := by
  intro c hc
  have := List.head?_dropWhile_not p s
  rw [Option.mem_def.mp hc] at this
  simpa using this

namespace Breaks

theorem takeWhile_eq_nil (h : Breaks p t) : t.takeWhile p = [] := by
  cases t with
  | nil => rfl
  | cons c t => simp [breaks_cons.mp h]

theorem dropWhile_eq_self (h : Breaks p t) : t.dropWhile p = t := by
  cases t with
  | nil => rfl
  | cons c t => simp [breaks_cons.mp h]

theorem takeWhile_append (h : Breaks p t) (x : List Char) :
    (x ++ t).takeWhile p = x.takeWhile p := by
  rw [List.takeWhile_append, h.takeWhile_eq_nil]
  split
  · next hx => rw [List.append_nil, (List.takeWhile_prefix p).eq_of_length hx]
  · rfl

theorem dropWhile_append (h : Breaks p t) (x : List Char) :
    (x ++ t).dropWhile p = x.dropWhile p ++ t := by
  rw [List.dropWhile_append, h.dropWhile_eq_self]
  split
  · next hx => rw [List.isEmpty_iff.mp hx, List.nil_append]
  · rfl

/-- A run before a break is read whole. -/
theorem takeWhile_run (h : Breaks p t) (hx : ∀ c ∈ x, p c) : (x ++ t).takeWhile p = x := by
  rw [h.takeWhile_append, List.takeWhile_eq_self_iff.mpr hx]

theorem dropWhile_run (h : Breaks p t) (hx : ∀ c ∈ x, p c) : (x ++ t).dropWhile p = t := by
  rw [h.dropWhile_append, List.dropWhile_eq_nil_iff.mpr hx, List.nil_append]

/-- A word of the class does not reach over a break. -/
theorem prefix_of_run (h : Breaks p t) (hw : ∀ a ∈ w, p a) (hx : w <+: x ++ t) : w <+: x := by
  induction w generalizing x with
  | nil => exact List.nil_prefix
  | cons a w ih =>
    cases x with
    | nil =>
      obtain ⟨r, rfl⟩ := hx
      simp [hw a] at h
    | cons b x =>
      obtain ⟨rfl, hx'⟩ := List.cons_prefix_cons.mp hx
      exact List.cons_prefix_cons.mpr ⟨rfl, ih (fun b hb => hw b (by simp [hb])) hx'⟩

end Breaks

/-! ## Spaces -/

theorem skipSpace_suffix (s : List Char) : skipSpace s <:+ s := List.dropWhile_suffix _

theorem breaks_skipSpace (s : List Char) : Breaks isSpace (skipSpace s) := breaks_dropWhile s

theorem isSpace_of_skipSpace (h : skipSpace s = c :: rest) : isSpace c = false :=
  breaks_cons.mp (h ▸ breaks_skipSpace s)

theorem suffix_of_skipSpace (h : skipSpace s = c :: rest) : c :: rest <:+ s :=
  h ▸ skipSpace_suffix s

theorem tail_suffix_of_skipSpace (h : skipSpace s = c :: rest) : rest <:+ s :=
  (List.suffix_cons c rest).trans (suffix_of_skipSpace h)

theorem length_lt_of_skipSpace (h : skipSpace s = c :: rest) : rest.length < s.length := by
  simpa using (suffix_of_skipSpace h).length_le

theorem skipSpace_append (h : Breaks isSpace t) (x : List Char) :
    skipSpace (x ++ t) = skipSpace x ++ t := h.dropWhile_append x

/-- Spaces in front change nothing. -/
theorem skipSpace_spaces_append (hx : ∀ c ∈ x, isSpace c) (s : List Char) :
    skipSpace (x ++ s) = skipSpace s := List.dropWhile_append_of_pos hx

theorem skipSpace_cons (h : isSpace c = false) : skipSpace (c :: s) = c :: s :=
  (breaks_cons.mpr h).dropWhile_eq_self

/-- The space characters are in none of the classes that words are made of. -/
theorem isSpace_of_class (hp : [' ', '\t', '\n', '\r', '\x0b', '\x0c'].any p = false)
    (h : p c) : isSpace c = false := by
  by_contra hs
  simp only [isSpace, Bool.or_eq_true, beq_iff_eq, Bool.not_eq_false, or_assoc] at hs
  rw [List.any_eq_false] at hp
  exact hp c (by simpa using hs) h

theorem isSpace_of_isFieldChar (h : isFieldChar c) : isSpace c = false :=
  isSpace_of_class rfl h

theorem isSpace_of_isNumberChar (h : isNumberChar c) : isSpace c = false :=
  isSpace_of_class rfl h

/-! ## Delimited texts -/

theorem dropWhile_ne_append (h : quote ∉ body) (rest : List Char) :
    (body ++ quote :: rest).dropWhile (· != quote) = quote :: rest :=
  (breaks_cons.mpr (by simp)).dropWhile_run fun c hc => by
    simpa using ne_of_mem_of_not_mem hc h

theorem takeWhile_ne_append (h : quote ∉ body) (rest : List Char) :
    (body ++ quote :: rest).takeWhile (· != quote) = body :=
  (breaks_cons.mpr (by simp)).takeWhile_run fun c hc => by
    simpa using ne_of_mem_of_not_mem hc h

theorem dropWhile_ne_of_not_mem (h : quote ∉ s) : s.dropWhile (· != quote) = [] :=
  List.dropWhile_eq_nil_iff.mpr fun c hc => by simpa using ne_of_mem_of_not_mem hc h

/-- A string without its closing quote takes the rest of the text. -/
theorem quoted_of_not_mem (h : quote ∉ s) : quoted quote s = (none, []) := by
  simp [quoted, dropWhile_ne_of_not_mem h]

theorem quoted_append (h : quote ∉ body) (rest : List Char) :
    quoted quote (body ++ quote :: rest) = (some (.string (String.ofList body)), rest) := by
  simp [quoted, dropWhile_ne_append h, takeWhile_ne_append h]

theorem patternLiteral_of_not_mem (h : '/' ∉ s) : patternLiteral s = (none, []) := by
  simp [patternLiteral, dropWhile_ne_of_not_mem h]

theorem patternLiteral_append (h : '/' ∉ body) (rest : List Char) :
    patternLiteral (body ++ '/' :: rest) =
      (some (.pattern
        { source := String.ofList body, flags := String.ofList (rest.takeWhile isFlagChar) }),
        rest.dropWhile isFlagChar) := by
  simp [patternLiteral, dropWhile_ne_append h, takeWhile_ne_append h]

theorem quoted_suffix {v : Option Literal} (h : quoted quote s = (v, rest)) : rest <:+ s := by
  by_cases hm : quote ∈ s
  · obtain ⟨body, r, rfl, hb⟩ := List.eq_append_cons_of_mem hm
    rw [quoted_append hb] at h
    cases h
    exact (List.suffix_cons quote rest).trans (List.suffix_append body _)
  · rw [quoted_of_not_mem hm] at h
    cases h
    exact List.nil_suffix

theorem patternLiteral_suffix {v : Option Literal} (h : patternLiteral s = (v, rest)) :
    rest <:+ s := by
  by_cases hm : '/' ∈ s
  · obtain ⟨body, r, rfl, hb⟩ := List.eq_append_cons_of_mem hm
    rw [patternLiteral_append hb] at h
    cases h
    exact (List.dropWhile_suffix _).trans
      ((List.suffix_cons '/' r).trans (List.suffix_append body _))
  · rw [patternLiteral_of_not_mem hm] at h
    cases h
    exact List.nil_suffix

theorem numberLiteral_suffix {v : Option Literal} (h : numberLiteral s = (v, rest)) :
    rest <:+ s := by
  cases h
  exact List.dropWhile_suffix _

/-- A number takes at least the character that it was recognised by. -/
theorem numberLiteral_length_lt {v : Option Literal} (hc : isNumberChar c)
    (h : numberLiteral (c :: s) = (v, rest)) : rest.length < (c :: s).length := by
  cases h
  simp only [List.dropWhile_cons, hc, ↓reduceIte, List.length_cons]
  exact Nat.lt_succ_of_le (List.dropWhile_suffix _).length_le

/-! ## Words -/

theorem word?_cons (e : List Char × α) (words : List (List Char × α)) (s : List Char) :
    word? (e :: words) s =
      if e.1 <+: s then some (e.2, s.drop e.1.length) else word? words s := by
  simp only [word?, List.findSome?_cons, ← List.isPrefixOf_iff_prefix]
  split <;> simp_all

theorem word?_eq_some {words : List (List Char × α)} {v : α} (h : word? words s = some (v, rest)) :
    ∃ w, (w, v) ∈ words ∧ s = w ++ rest := by
  obtain ⟨⟨w, u⟩, hw, h⟩ := List.exists_of_findSome?_eq_some h
  by_cases hp : w <+: s
  · obtain ⟨r, rfl⟩ := hp
    obtain ⟨rfl, rfl⟩ : u = v ∧ r = rest := by simpa using h
    exact ⟨w, hw, rfl⟩
  · simp [List.isPrefixOf_iff_prefix, hp] at h

/-- What stands after a character that is in no word does not matter. -/
theorem word?_append {words : List (List Char × α)} (hw : ∀ e ∈ words, ∀ a ∈ e.1, p a)
    (ht : Breaks p t) (x : List Char) :
    word? words (x ++ t) = (word? words x).map fun (v, rest) => (v, rest ++ t) := by
  induction words with
  | nil => rfl
  | cons e words ih =>
    have hrun : ∀ a ∈ e.1, p a := hw e (by simp)
    rw [word?_cons, word?_cons]
    by_cases h : e.1 <+: x
    · rw [if_pos h, if_pos (h.trans (List.prefix_append x t)),
        List.drop_append_of_le_length h.length_le]
      rfl
    · rw [if_neg h, if_neg (mt (ht.prefix_of_run hrun) h),
        ih fun e he => hw e (List.mem_cons_of_mem _ he)]

theorem mem_constants {v : Literal} (hv : (w, v) ∈ constants) :
    (w = "true".toList ∧ v = .bool true) ∨ (w = "false".toList ∧ v = .bool false) ∨
      (w = "null".toList ∧ v = .null) := by
  simpa [constants] using hv

theorem constant_suffix {v : Option Literal} (h : constant s = (v, rest)) : rest <:+ s := by
  unfold constant at h
  split at h
  · next u r hw =>
    cases h
    obtain ⟨w, -, rfl⟩ := word?_eq_some hw
    exact List.suffix_append w rest
  · cases h
    exact List.suffix_rfl

theorem constant_length_lt {v : Literal} (h : constant s = (some v, rest)) :
    rest.length < s.length := by
  unfold constant at h
  split at h
  · next u r hw =>
    cases h
    obtain ⟨w, hm, rfl⟩ := word?_eq_some hw
    have hne : w ≠ [] := by
      rintro rfl
      simp [constants] at hm
    have := List.length_pos_of_ne_nil hne
    simp only [List.length_append]
    omega
  · cases h

/-- An operator is read by its text. Only `=` after it could make another operator of it. -/
theorem word?_operators (op : Operator) (h : rest.head? ≠ some '=') :
    word? operators (op.text.toList ++ rest) = some (op, rest) := by
  have hrest : ¬ ['='] <+: rest := by
    rintro ⟨r, rfl⟩
    exact h rfl
  cases op <;> simp [word?, operators, Operator.text, List.cons_prefix_cons, hrest]

/-! ## Keywords -/

variable {k : Connective}

/-- A spelling of a keyword, in any case. -/
def IsKeyword (w : List Char) (k : Connective) : Prop := w.map Char.toLower = k.text.toList

instance : Decidable (IsKeyword w k) := inferInstanceAs (Decidable (_ = _))

theorem isKeyword_and : IsKeyword w .and ↔
    ∃ a b c, w = [a, b, c] ∧ a.toLower = 'a' ∧ b.toLower = 'n' ∧ c.toLower = 'd' := by
  simp [IsKeyword, Connective.text, List.map_eq_cons_iff]

theorem isKeyword_or : IsKeyword w .or ↔
    ∃ a b, w = [a, b] ∧ a.toLower = 'o' ∧ b.toLower = 'r' := by
  simp [IsKeyword, Connective.text, List.map_eq_cons_iff]

theorem isFieldChar_of_toLower (h : isFieldChar c.toLower) : isFieldChar c := by
  by_cases hc : c.isUpper
  · simp [isFieldChar, Char.isAlphanum, Char.isAlpha, hc]
  · rwa [Char.toLower_eq_of_not_isUpper hc] at h

theorem IsKeyword.fieldChars (h : IsKeyword w k) : ∀ c ∈ w, isFieldChar c := by
  intro c hc
  have hm : c.toLower ∈ k.text.toList := h ▸ List.mem_map_of_mem hc
  have hk : ∀ a ∈ k.text.toList, isFieldChar a := by cases k <;> simp [Connective.text] <;> decide
  exact isFieldChar_of_toLower (hk _ hm)

theorem IsKeyword.ne_nil (h : IsKeyword w k) : w ≠ [] := by
  rintro rfl
  cases k <;> cases h

theorem keyword?_append (h : IsKeyword w k) (rest : List Char) :
    keyword? (w ++ rest) = some (k, rest) := by
  cases k with
  | and =>
    obtain ⟨a, b, c, rfl, ha, hb, hc⟩ := isKeyword_and.mp h
    simp [keyword?, ha, hb, hc]
  | or =>
    obtain ⟨a, b, rfl, ha, hb⟩ := isKeyword_or.mp h
    cases rest <;> simp [keyword?, ha, hb]

theorem keyword?_eq_some (h : keyword? s = some (k, rest)) :
    ∃ w, IsKeyword w k ∧ s = w ++ rest := by
  unfold keyword? at h
  split at h
  · next a b c r =>
    split_ifs at h with h1 h2
    · cases h
      exact ⟨[a, b, c], isKeyword_and.mpr ⟨a, b, c, rfl, h1⟩, rfl⟩
    · cases h
      exact ⟨[a, b], isKeyword_or.mpr ⟨a, b, rfl, h2⟩, rfl⟩
  · next a b =>
    split_ifs at h with h1
    cases h
    exact ⟨[a, b], isKeyword_or.mpr ⟨a, b, rfl, h1⟩, rfl⟩
  · cases h

theorem keyword?_suffix (h : keyword? s = some (k, rest)) : rest <:+ s := by
  obtain ⟨w, -, rfl⟩ := keyword?_eq_some h
  exact List.suffix_append w rest

theorem keyword?_length_lt (h : keyword? s = some (k, rest)) : rest.length < s.length := by
  obtain ⟨w, hw, rfl⟩ := keyword?_eq_some h
  have := List.length_pos_of_ne_nil hw.ne_nil
  simp only [List.length_append]
  omega

theorem keyword?_eq_none_iff : keyword? s = none ↔ ∀ w k, IsKeyword w k → ¬ w <+: s := by
  constructor
  · rintro h w k hw ⟨r, rfl⟩
    simp [keyword?_append hw] at h
  · intro h
    rw [Option.eq_none_iff_forall_ne_some]
    rintro ⟨k, r⟩ hk
    obtain ⟨w, hw, rfl⟩ := keyword?_eq_some hk
    exact h w k hw (List.prefix_append w r)

theorem keyword?_append_breaks (h : Breaks isFieldChar t) (x : List Char) :
    keyword? (x ++ t) = (keyword? x).map fun (k, rest) => (k, rest ++ t) := by
  cases hx : keyword? x with
  | none =>
    rw [keyword?_eq_none_iff] at hx
    exact keyword?_eq_none_iff.mpr fun w k hw hp => hx w k hw (h.prefix_of_run hw.fieldChars hp)
  | some e =>
    obtain ⟨k, rest⟩ := e
    obtain ⟨w, hw, rfl⟩ := keyword?_eq_some hx
    rw [List.append_assoc, keyword?_append hw]
    rfl

/-! ## Fields -/

/-- The names that a comparison looks up: `0` is none, nor is a word that starts with a keyword. -/
structure IsField (w : List Char) : Prop where
  ne_nil : w ≠ []
  fieldChars : ∀ c ∈ w, isFieldChar c
  ne_zero : w ≠ ['0']
  no_keyword : ∀ v k, IsKeyword v k → ¬ v <+: w

theorem isField_iff : IsField w ↔ w ≠ [] ∧ w.all isFieldChar ∧ w ≠ ['0'] ∧ keyword? w = none := by
  rw [List.all_eq_true, keyword?_eq_none_iff]
  exact ⟨fun h => ⟨h.ne_nil, h.fieldChars, h.ne_zero, h.no_keyword⟩,
    fun h => ⟨h.1, h.2.1, h.2.2.1, h.2.2.2⟩⟩

instance (w : List Char) : Decidable (IsField w) := decidable_of_iff' _ isField_iff

theorem IsField.keyword?_eq_none (h : IsField w) (ht : Breaks isFieldChar t) :
    keyword? (w ++ t) = none := by
  rw [keyword?_append_breaks ht, keyword?_eq_none_iff.mpr h.no_keyword]
  rfl

end RecordFilter.Filter
