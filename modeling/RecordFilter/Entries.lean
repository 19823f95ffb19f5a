/-!
# Entries

Values under names, in an order. `Entries.set` keeps the place of a name that is there already and
puts a new one at the end, so a name set twice counts with its last value at its first place.
-/

namespace RecordFilter.Entries

def get? (name : String) : List (String × α) → Option α
  | [] => none
  | (n, v) :: entries => if n = name then some v else get? name entries

/-- The entries with a value under a name: in its old place if it has one, else at the end. -/
def set (name : String) (value : α) : List (String × α) → List (String × α)
  | [] => [(name, value)]
  | (n, v) :: entries =>
    if n = name then (n, value) :: entries else (n, v) :: set name value entries

def ofList (l : List (String × α)) : List (String × α) :=
  l.foldl (fun entries (n, v) => set n v entries) []

@[simp] theorem get?_set_self (name : String) (value : α) (entries : List (String × α)) :
    get? name (set name value entries) = some value := by
  induction entries with
  | nil => simp [set, get?]
  | cons e entries ih =>
    obtain ⟨n, v⟩ := e
    by_cases h : n = name <;> simp [set, get?, h, ih]

theorem get?_set_of_ne {name other : String} (h : other ≠ name) (value : α)
    (entries : List (String × α)) : get? other (set name value entries) = get? other entries := by
  induction entries with
  | nil => simp [set, get?, Ne.symm h]
  | cons e entries ih =>
    obtain ⟨n, v⟩ := e
    by_cases hn : n = name
    · subst hn; simp [set, get?, Ne.symm h]
    · by_cases ho : n = other
      · subst ho; simp [set, get?, hn]
      · simp [set, get?, hn, ho, ih]

theorem get?_set (name other : String) (value : α) (entries : List (String × α)) :
    get? other (set name value entries) =
      if other = name then some value else get? other entries := by
  split
  · next h => rw [h, get?_set_self]
  · next h => exact get?_set_of_ne h value entries

/-- Setting a name that is there keeps all names where they are; a new one comes last. -/
theorem map_fst_set (name : String) (value : α) (entries : List (String × α)) :
    (set name value entries).map Prod.fst =
      if name ∈ entries.map Prod.fst then entries.map Prod.fst
      else entries.map Prod.fst ++ [name] := by
  induction entries with
  | nil => simp [set]
  | cons e entries ih =>
    obtain ⟨n, v⟩ := e
    by_cases h : n = name
    · simp [set, h]
    · simp only [set, h, if_false, List.map_cons, ih, List.mem_cons, Ne.symm h, false_or]
      split <;> simp

end RecordFilter.Entries
