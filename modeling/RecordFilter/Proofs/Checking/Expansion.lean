import RecordFilter.Proofs.Checking.Outcomes

/-!
# Synonyms as a rewrite of the filter

A synonym table widens text terms and nothing else: to check with a table is to check the filter in
which each searchable text term stands beside its alternates, with no table. The rewrite has one
level, as alternates have none of their own. So records never depend on the table, and a table with
more alternates matches more.
-/

namespace RecordFilter

namespace Synonyms

/-- Whether each term of a table has all its alternates in another one. -/
def Below (table larger : Synonyms) : Prop := ∀ term, table.lookup term ⊆ larger.lookup term

theorem lookup_empty (term : String) : empty.lookup term = [] := rfl

theorem empty_below (table : Synonyms) : empty.Below table := fun _ => List.nil_subset _

theorem Below.insert {table larger : Synonyms} {alternates more : List String}
    (h : table.Below larger) (term : String) (hm : alternates ⊆ more) :
    (table.insert term alternates).Below (larger.insert term more) := by
  intro other
  simp only [lookup, Synonyms.insert, Entries.get?_set]
  split
  · exact hm
  · exact h other

end Synonyms

variable {table larger : Synonyms}

theorem containsTerm_empty (text term : String) :
    containsTerm .empty text term = occursFolded term text := by
  simp [containsTerm, Synonyms.lookup_empty]

theorem containsTerm_eq (table : Synonyms) (text term : String) :
    containsTerm table text term =
      (occursFolded term text ||
        (table.lookup term).any fun needle => occursFolded needle text) := by
  rw [containsTerm, List.any_cons]

theorem Synonyms.Below.containsTerm (h : table.Below larger) {text term : String}
    (hc : containsTerm table text term = true) : containsTerm larger text term = true := by
  obtain ⟨needle, hn, hfound⟩ := List.any_eq_true.mp hc
  exact List.any_eq_true.mpr ⟨needle, List.cons_subset_cons term (h term) hn, hfound⟩

/-- Joined terms answer no less if each of them does. -/
theorem Connective.combine_mono (op : Connective) {α : Type} {items : List α} {p q : α → Bool}
    (h : ∀ a ∈ items, p a = true → q a = true) (hp : op.combine (items.map p) = true) :
    op.combine (items.map q) = true := by
  cases op with
  | and =>
    simp only [combine, List.all_map, List.all_eq_true] at hp ⊢
    intro a ha
    exact h a ha (hp a ha)
  | or =>
    simp only [combine, List.any_map, List.any_eq_true] at hp ⊢
    obtain ⟨a, ha, hpa⟩ := hp
    exact ⟨a, ha, h a ha hpa⟩

namespace Literal

/-- A check of a text term with a record does nothing. -/
theorem checkIn_record (v : Literal) (r : Json) (synonyms : Synonyms) :
    v.checkIn (.record r) synonyms = ⟨false, v, []⟩ := rfl

theorem checkIn_mono (h : table.Below larger) (v : Literal) (subject : Subject)
    (hc : (v.checkIn subject table).outcome = true) :
    (v.checkIn subject larger).outcome = true := by
  cases subject with
  | record r => exact hc
  | text s =>
    cases v with
    | string q => exact h.containsTerm hc
    | number x => exact h.containsTerm hc
    | _ => exact hc

end Literal

namespace Filter

/-- A text term beside its alternates. -/
def besideAlternates (table : Synonyms) (v : Literal) (term : String) : Filter :=
  joined .or (text v :: (table.lookup term).map fun alternate => text (.string alternate))

mutual

/-- The filter with each searchable text term beside its alternates. A string is searched for as it
is, and a number by its text. -/
def expand (table : Synonyms) : Filter → Filter
  | joined op terms => joined op (expandTerms table terms)
  | text (.string s) => besideAlternates table (.string s) s
  | text (.number x) => besideAlternates table (.number x) x.plainText
  | text v => text v
  | comparison field op v => comparison field op v

def expandTerms (table : Synonyms) : List Filter → List Filter
  | [] => []
  | t :: terms => t.expand table :: expandTerms table terms

end

variable {f : Filter}

theorem expandTerms_eq_map (table : Synonyms) (terms : List Filter) :
    expandTerms table terms = terms.map (expand table) := by
  induction terms with
  | nil => rfl
  | cons t terms ih => rw [expandTerms, ih, List.map_cons]

theorem check_besideAlternates {v : Literal} {term : String} {s : String}
    (h : ∀ synonyms, (v.checkIn (.text s) synonyms).outcome = containsTerm synonyms s term) :
    ((besideAlternates table v term).check (.text s) .empty).outcome =
      (v.checkIn (.text s) table).outcome := by
  have halternate : ∀ alternate,
      ((text (.string alternate)).check (.text s) .empty).outcome = occursFolded alternate s :=
    fun alternate => containsTerm_empty s alternate
  have hself : ((text v).check (.text s) .empty).outcome = occursFolded term s :=
    (h .empty).trans (containsTerm_empty s term)
  rw [besideAlternates, check_joined_outcome, h, containsTerm_eq]
  simp only [Connective.combine, List.map_cons, List.map_map, List.any_cons, List.any_map, hself,
    Function.comp_def, halternate, id]

/-- Checking with a table is checking the expanded filter without one. -/
theorem check_text_expand (f : Filter) (table : Synonyms) (s : String) :
    (f.check (.text s) table).outcome = ((f.expand table).check (.text s) .empty).outcome := by
  induction f using induct_terms with
  | joined op terms ih =>
    rw [expand, expandTerms_eq_map, check_joined_outcome, check_joined_outcome, List.map_map]
    congr 1
    exact List.map_congr_left ih
  | text v =>
    cases v with
    | string q => exact (check_besideAlternates fun _ => rfl).symm
    | number x => exact (check_besideAlternates fun _ => rfl).symm
    | _ => rfl
  | comparison field op v => rfl

/-- An alternate is searched for as it is, even if the table has alternates for it. -/
example : (text (.string "cat")).expand ⟨[("cat", ["pet"]), ("pet", ["dog"])]⟩ =
    joined .or [text (.string "cat"), text (.string "pet")] := by
  rfl

/-- Nothing about a check of a record depends on the table. -/
theorem check_record (f : Filter) (r : Json) (synonyms other : Synonyms) :
    f.check (.record r) synonyms = f.check (.record r) other := by
  induction f using induct_terms with
  | joined op terms ih => rw [check_joined, check_joined, checkTerms_congr _ _ op ih]
  | text v => rw [check, check, Literal.checkIn_record, Literal.checkIn_record]
  | comparison field op v => rfl

/-- A check that succeeds with a table succeeds with a larger one. -/
theorem check_mono (h : table.Below larger) (f : Filter) (subject : Subject)
    (hc : (f.check subject table).outcome = true) : (f.check subject larger).outcome = true := by
  induction f using induct_terms with
  | joined op terms ih =>
    rw [check_joined_outcome] at hc ⊢
    exact op.combine_mono ih hc
  | text v => exact Literal.checkIn_mono h v subject hc
  | comparison field op v => exact hc

/-- What a synonym table does to a check: for a text, what expanding the filter does; for a record,
nothing; and more alternates never turn a match away. -/
theorem check_synonyms (f : Filter) (table : Synonyms) :
    (∀ s, (f.check (.text s) table).outcome =
      ((f.expand table).check (.text s) .empty).outcome) ∧
    (∀ r other, f.check (.record r) table = f.check (.record r) other) ∧
    ∀ larger, table.Below larger → ∀ subject,
      (f.check subject table).outcome = true → (f.check subject larger).outcome = true := by
  refine ⟨fun s => check_text_expand f table s, fun r other => check_record f r table other, ?_⟩
  intro larger h subject
  exact check_mono h f subject

theorem check_synonyms_insert :
    (Synonyms.empty.insert "cat" ["kitt"]).Below (.insert .empty "cat" ["feline", "kitt"]) ∧
    ((text (.string "cat")).check (.text "KITTEN") (.insert .empty "cat" ["kitt"])).outcome = true ∧
    ((text (.string "cat")).check (.text "KITTEN")
      (.insert .empty "cat" ["feline", "kitt"])).outcome = true := by
  have hbelow : (Synonyms.empty.insert "cat" ["kitt"]).Below
      (.insert .empty "cat" ["feline", "kitt"]) :=
    (Synonyms.empty_below .empty).insert "cat" (by simp)
  have hcheck : ((text (.string "cat")).check (.text "KITTEN")
      (.insert .empty "cat" ["kitt"])).outcome = true := by cbv
  exact ⟨hbelow, hcheck, (check_synonyms _ _).2.2 _ hbelow _ hcheck⟩

end Filter

end RecordFilter
