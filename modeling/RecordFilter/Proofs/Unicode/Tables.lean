import RecordFilter.Unicode.Case

/-!
# What the tables say

The tables are texts, and their characters are slow to come by in a proof. So a table is first said
to be the text of a list of characters, and its entries are computed from that list.
-/

namespace RecordFilter.Unicode

open CodeSet

variable {α : Type} {l : List Char} {i : Nat} {name names : String}

/-- The parts between spaces and line ends of a text given by its characters. -/
def wordsOf (l : List Char) : List (List Char) :=
  (l.splitBy fun a b => (a == ' ' || a == '\n') == (b == ' ' || b == '\n')).filter
    fun w => w.all fun c => c != ' ' && c != '\n'

theorem words_ofList (l : List Char) : words (String.ofList l) = wordsOf l := by
  rw [words, String.toList_ofList]
  rfl

/-- The place of the row with the given name, which depends on the names of the rows alone. -/
def rowIndex (rows : List String) (name : String) : Nat :=
  rows.findIdx fun row => (words row).any (String.ofList · = name)

theorem row?_eq_getElem? (table : List (String × α)) (name : String) :
    row? table name = table[rowIndex (table.map Prod.fst) name]? := by
  rw [row?, List.find?_eq_getElem?_findIdx, rowIndex, List.findIdx_map]
  rfl

theorem propertySet_eq (hi : rowIndex (properties.map Prod.fst) name = i)
    (hrow : properties[i]? = some (names, String.ofList l)) :
    propertySet name = (wordsOf l).map rangeOfText := by
  simp only [propertySet, named?, row?_eq_getElem?, hi, hrow, Option.map_some, Option.getD_some,
    ofTable, words_ofList]

/-! ## The letter alpha -/

-- The limit is for the unifier, which turns the text of a table into its characters.
set_option maxRecDepth 100000 in
theorem cased_alpha : cased.contains 'Α'.toNat = true := by
  have hi : rowIndex (properties.map Prod.fst) "cased" = 5 := by decide +kernel
  rw [cased, propertySet_eq hi rfl]
  decide +kernel

set_option maxRecDepth 100000 in
theorem not_caseIgnorable_alpha : caseIgnorable.contains 'Α'.toNat = false := by
  have hi : rowIndex (properties.map Prod.fst) "caseignorable" = 4 := by decide +kernel
  rw [caseIgnorable, propertySet_eq hi rfl]
  decide +kernel

set_option maxRecDepth 100000 in
theorem lowercaseChar_alpha : lowercaseChar 'Α' = ['α'] := by
  have hruns : lowercaseRuns = String.ofList _ := rfl
  rw [lowercaseChar, lowercaseTable, hruns, words_ofList]
  decide +kernel

/-! ## Lower case -/

set_option maxRecDepth 100000 in
/-- No lower case of a character outside ASCII lies before the small letters of ASCII. -/
theorem le_target_of_mem_lowercaseTable : ∀ r ∈ lowercaseTable, 'a'.toNat ≤ r.target := by
  have hruns : lowercaseRuns = String.ofList _ := rfl
  rw [lowercaseTable, hruns, words_ofList]
  decide +kernel

end RecordFilter.Unicode
