import RecordFilter.Proofs.Checking.Verbatim
import RecordFilter.Proofs.Numbers.RoundTrip
import RecordFilter.Proofs.Reading.NumberRuns

/-!
# Searching for numbers

A text term with a number looks for the plain text of the number nearest to what is written. Lower
case neither makes nor loses digits, and the plain text of a finite number has one, so a text
without digits holds none of them. Runs of digits that are too long for a finite number become
infinite, and the text of an infinite number is a word.
-/

namespace RecordFilter

/-! ## What a run stands for -/

namespace Binary64

variable {run : List Char} {negative : Bool} {x : Binary64}

/-- The digits of a run read as one number. -/
def runCoefficient (run : List Char) : Nat := digitsValue 0 (run.filter Char.isDigit)

/-- How many characters of a run stand after its first point. -/
def runPlaces (run : List Char) : Nat := (run.dropWhile (· != '.')).tail.length

theorem isFinite_ofDecimal (negative : Bool) (coefficient places : Nat) :
    (ofDecimal negative coefficient (-(places : Int))).isFinite = true ↔
      coefficient < overflow * 10 ^ places := by
  have hnum : (-(places : Int)).toNat = 0 := by omega
  have hden : (- -(places : Int)).toNat = places := by omega
  rw [ofDecimal, hnum, hden]
  exact (isFinite_ofRatio negative (Nat.pow_pos (by decide))).trans (by simp)

theorem ofUnsigned?_eq_some (h : ofUnsigned? negative run = some x) :
    x = ofDecimal negative (runCoefficient run) (-(runPlaces run : Int)) := by
  have hwhole : ∀ c ∈ run.takeWhile Char.isDigit, c.isDigit := fun c => List.mem_takeWhile_imp
  have hpoint : ∀ c ∈ run.takeWhile Char.isDigit, c != '.' := by
    intro c hc
    rw [bne_iff_ne]
    rintro rfl
    exact absurd (hwhole _ hc) (by decide)
  have hsplit := List.takeWhile_append_dropWhile (p := Char.isDigit) (l := run)
  unfold ofUnsigned? at h
  generalize run.takeWhile Char.isDigit = whole at *
  generalize run.dropWhile Char.isDigit = rest at *
  subst hsplit
  have hdigits := List.filter_eq_self.mpr hwhole
  unfold runCoefficient runPlaces
  rw [List.filter_append, hdigits, List.dropWhile_append_of_pos hpoint]
  dsimp only at h
  split at h
  · split at h
    · cases h
    · obtain rfl := Option.some.inj h
      simp
  · next part =>
    split at h
    · next hpart =>
      have hdigits' : part.filter Char.isDigit = part :=
        List.filter_eq_self.mpr (List.all_eq_true.mp (Bool.and_eq_true_iff.mp hpart).1)
      obtain rfl := Option.some.inj h
      simp [hdigits']
    · cases h
  · cases h

theorem ofPositional?_eq_some (h : ofPositional? run = some x) :
    ∃ negative, x = ofDecimal negative (runCoefficient run) (-(runPlaces run : Int)) := by
  unfold ofPositional? at h
  split at h
  · next run =>
    refine ⟨true, ?_⟩
    rw [ofUnsigned?_eq_some h]
    rfl
  · exact ⟨false, ofUnsigned?_eq_some h⟩

theorem isFinite_ofPositional? (h : ofPositional? run = some x) :
    x.isFinite = true ↔ runCoefficient run < overflow * 10 ^ runPlaces run := by
  obtain ⟨negative, rfl⟩ := ofPositional?_eq_some h
  exact isFinite_ofDecimal negative _ _

end Binary64

/-! ## Texts without digits -/

open Unicode (lowercase filter_isDigit_lowercase)

variable {s : String} {x : Binary64}

theorem Binary64.exists_isDigit_plainText (h : x.isFinite) :
    x.plainText.toList.filter Char.isDigit ≠ [] := by
  obtain ⟨n, -, hchars, -⟩ := x.exists_plainText h
  obtain ⟨c, whole, hwhole⟩ := List.exists_cons_of_ne_nil n.isDigits_whole.ne_nil
  have hc : c.isDigit := n.isDigits_whole.isDigit c (by simp [hwhole])
  have hmem : c ∈ n.chars := by
    unfold Json.Numeral.chars signed
    split <;> simp [hwhole]
  rw [← hchars]
  exact List.ne_nil_of_mem (List.mem_filter.mpr ⟨hmem, hc⟩)

/-- The plain text of an infinite number is a word in lower case. -/
theorem Binary64.lowercase_plainText (hnan : x.isNaN = false) (h : x.isFinite = false) :
    lowercase x.plainText.toList = signed x.negative "inf".toList := by
  have hinfinite : x.magnitude = infinity := by
    simp only [isNaN, isFinite, decide_eq_false_iff_not, not_lt] at hnan h
    exact le_antisymm hnan h
  unfold plainText plainChars
  rw [String.toList_ofList, hnan, if_neg Bool.false_ne_true, if_pos hinfinite]
  cases x.negative <;> rfl

/-- Of the texts of numbers only those of the infinite ones stand in a text without digits. -/
theorem occursFolded_plainText (hnan : x.isNaN = false)
    (hs : ∀ c ∈ s.toList, c.isDigit = false) :
    occursFolded x.plainText s = true ↔
      x.isFinite = false ∧ Binary64.signed x.negative "inf".toList <:+: lowercase s.toList := by
  rw [occursFolded, occursIn_iff]
  cases hfinite : x.isFinite with
  | false => rw [Binary64.lowercase_plainText hnan hfinite, and_iff_right rfl]
  | true =>
    constructor
    · intro hinfix
      have hnone : s.toList.filter Char.isDigit = [] :=
        List.filter_eq_nil_iff.mpr (by simpa using hs)
      have hdigits := hinfix.filter Char.isDigit
      rw [filter_isDigit_lowercase, filter_isDigit_lowercase, hnone, List.infix_nil] at hdigits
      exact absurd hdigits (Binary64.exists_isDigit_plainText hfinite)
    · rintro ⟨⟨⟩, -⟩

namespace Filter

theorem check_text_number (s : String) (x : Binary64) :
    ((text (.number x)).check (.text s) .empty).outcome = occursFolded x.plainText s :=
  containsTerm_empty s x.plainText

/-- A search for a number finds nothing in a text without digits, unless what is written is too
large for a finite number: then it finds the word for an infinite one. -/
theorem check_number_term {w s : String} {x : Binary64} (h : parse w = text (.number x))
    (hs : ∀ c ∈ s.toList, c.isDigit = false) :
    ∃ run, run <:+: w.toList ∧ (∀ c ∈ run, isNumberChar c) ∧ Binary64.ofPositional? run = some x ∧
      (x.isFinite = true ↔
        Binary64.runCoefficient run < Binary64.overflow * 10 ^ Binary64.runPlaces run) ∧
      (((parse w).check (.text s) .empty).outcome = true ↔
        x.isFinite = false ∧
          Binary64.signed x.negative "inf".toList <:+: Unicode.lowercase s.toList) := by
  have hnumbers := allNumbersRead_parse w
  rw [h] at hnumbers
  obtain ⟨run, hrun, hchars, hread⟩ := hnumbers 0 _ .root _ rfl x .self
  refine ⟨run, hrun, hchars, hread, Binary64.isFinite_ofPositional? hread, ?_⟩
  rw [h, check_text_number]
  exact occursFolded_plainText (isNaN_ofPositional? hread) hs

/-- The number is searched for as `-0.5`, and only the digits of ASCII are digits. -/
theorem check_number_term_half :
    ((parse "-.5").check (.text "-½, -٠.٥") .empty).outcome = false := by
  obtain ⟨x, hx, hfinite⟩ : ∃ x, Binary64.ofPositional? "-.5".toList = some x ∧ x.isFinite :=
    ⟨.ofDecimal true 5 (-1), rfl, by decide +kernel⟩
  have hvalue : SpellsValue 0 "-.5".toList (.number x) := .number (List.all_eq_true.mp rfl) hx
  have hterm : SpellsTerm 0 "-.5".toList (.text (.number x)) := .text hvalue (by simp; rfl)
  have hparse : parse "-.5" = text (.number x) := by rw [parse, hterm.read_eq]
  obtain ⟨-, -, -, -, -, houtcome⟩ := check_number_term (s := "-½, -٠.٥") hparse (by simp)
  rw [← Bool.not_eq_true, houtcome, hfinite]
  simp

/-- Ten to the 309th is infinite, and so it is found in a word. -/
theorem check_number_term_infinite :
    (∃ x, parse ("0 1" ++ String.ofList (Binary64.zeros 309)) = text (.number x)) ∧
      (∀ c ∈ "Information".toList, c.isDigit = false) ∧
      ((parse ("0 1" ++ String.ofList (Binary64.zeros 309))).check (.text "Information")
        .empty).outcome = true := by
  let x : Binary64 := ⟨false, Binary64.infinity, Binary64.infinity_lt⟩
  have hread : Binary64.ofPositional? ('1' :: Binary64.zeros 309) = some x := by decide +kernel
  have hchars : ∀ c ∈ '1' :: Binary64.zeros 309, isNumberChar c := by
    intro c hc
    rcases List.mem_cons.mp hc with rfl | hc
    · rfl
    · rw [Binary64.eq_of_mem_zeros hc]
      rfl
  have hterm : SpellsTerm 0 ('0' :: ([' '] ++ '1' :: Binary64.zeros 309)) (.text (.number x)) :=
    .afterZero (by simp [isSpace]) (by simp) (.number hchars hread)
  have hterm' : SpellsTerm 0 ("0 1" ++ String.ofList (Binary64.zeros 309)).toList
      (.text (.number x)) := by simpa using hterm
  have hdigits : ∀ c ∈ "Information".toList, c.isDigit = false := by simp
  have hinfix : Binary64.signed false "inf".toList <:+: Unicode.lowercase "Information".toList :=
    ⟨[], "ormation".toList, rfl⟩
  have hparse : parse ("0 1" ++ String.ofList (Binary64.zeros 309)) = text (.number x) := by
    rw [parse, hterm'.read_eq]
  refine ⟨⟨x, hparse⟩, hdigits, ?_⟩
  rw [hparse, check_text_number, occursFolded_plainText rfl hdigits]
  exact ⟨rfl, hinfix⟩

end Filter

end RecordFilter
