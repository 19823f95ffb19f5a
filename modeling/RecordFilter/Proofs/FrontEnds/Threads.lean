import RecordFilter.CommandLine.Run
import RecordFilter.Proofs.FrontEnds.Requests

/-!
# Records on several threads

Threads change nothing where all values are records. Where some are not, a run stops with nothing
printed in any case, and names one of them; which one may depend on the threads.
-/

namespace RecordFilter

/-- Where a list is not gone through to its end, one of its members stops it. -/
theorem exists_mem_of_mapM_eq_error {α β ε : Type} {step : α → Except ε β} {l : List α} {e : ε}
    (h : l.mapM step = .error e) : ∃ a ∈ l, step a = .error e := by
  induction l with
  | nil => cases h
  | cons a l ih =>
    rw [List.mapM_cons] at h
    cases ha : step a with
    | error e' =>
      rw [ha] at h
      cases h
      exact ⟨a, List.mem_cons_self, ha⟩
    | ok b =>
      cases hl : l.mapM step with
      | ok results =>
        rw [ha, hl] at h
        cases h
      | error e' =>
        rw [ha, hl] at h
        cases h
        obtain ⟨c, hc, hstep⟩ := ih hl
        exact ⟨c, List.mem_cons_of_mem a hc, hstep⟩

theorem annotate_eq_error {f : Filter} {synonyms : Synonyms} {v u : Json}
    (h : annotate f synonyms v = .error u) : u = v ∧ ¬ v.IsObject := by
  by_cases hv : v.IsObject
  · obtain ⟨result, hresult⟩ := annotate_of_isObject f synonyms hv
    rw [hresult] at h
    cases h
  · rw [annotate_of_not_isObject f synonyms hv] at h
    cases h
    exact ⟨rfl, hv⟩

namespace CommandLine

/-- Two runs come to the same. Where values that are no records stop them, they may name different
ones. -/
inductive SameRun : Except Problem Printed → Except Problem Printed → Prop
  | refl : SameRun r r
  | notRecord : SameRun (.error (.notRecord u)) (.error (.notRecord v))

variable {libs : Libraries} {filter text : String} {table : Synonyms} {f : Filter}
  {records results : List Json} {v : Json}

theorem Libraries.plain_collectsInOrder : Libraries.plain.CollectsInOrder where
  ok _ _ _ h := h
  error step records v h := by
    obtain ⟨record, hmem, hstep⟩ := exists_mem_of_mapM_eq_error h
    exact ⟨record, hmem, v, hstep, h⟩

namespace Libraries.CollectsInOrder

theorem annotateAll_of_ok (hl : libs.CollectsInOrder) (parallel : Bool)
    (ha : RecordFilter.annotateAll f table records = .ok results) :
    libs.annotateAll parallel f table records = .ok results := by
  cases parallel with
  | false => exact ha
  | true => exact hl.ok _ _ _ ha

theorem annotateAll_of_error (hl : libs.CollectsInOrder) (parallel : Bool)
    (ha : RecordFilter.annotateAll f table records = .error v) :
    ∃ u ∈ records, ¬ u.IsObject ∧ libs.annotateAll parallel f table records = .error u := by
  cases parallel with
  | false =>
    obtain ⟨record, hmem, hrecord⟩ := exists_mem_of_mapM_eq_error ha
    obtain ⟨rfl, hv⟩ := annotate_eq_error hrecord
    exact ⟨_, hmem, hv, ha⟩
  | true =>
    obtain ⟨record, hmem, u, hrecord, hall⟩ := hl.error _ _ _ ha
    obtain ⟨rfl, hu⟩ := annotate_eq_error hrecord
    exact ⟨_, hmem, hu, hall⟩

end Libraries.CollectsInOrder

/-! ## Runs of the command for records -/

theorem runRecords_of_error {e : RecordTextError} (parallel : Bool)
    (hr : recordsOfText text = .error e) :
    runRecords libs parallel table filter text = .error (.records e) := by
  rw [runRecords, hr]
  rfl

theorem runRecords_of_ok (hl : libs.CollectsInOrder) (parallel : Bool)
    (hr : recordsOfText text = .ok records)
    (ha : annotateAll (Filter.parse filter) table records = .ok results) :
    runRecords libs parallel table filter text =
      .ok ⟨printLine (Json.object [("results", .array results)]).compact, true⟩ := by
  have hall := hl.annotateAll_of_ok parallel ha
  rw [runRecords, hr]
  simp only [Except.mapError, bind, Except.bind, hall]

theorem exists_runRecords_of_not_record (hl : libs.CollectsInOrder) (parallel : Bool)
    (hr : recordsOfText text = .ok records)
    (ha : annotateAll (Filter.parse filter) table records = .error v) :
    ∃ u ∈ records, ¬ u.IsObject ∧
      runRecords libs parallel table filter text = .error (.notRecord u) := by
  obtain ⟨u, hmem, hu, hall⟩ := hl.annotateAll_of_error parallel ha
  refine ⟨u, hmem, hu, ?_⟩
  rw [runRecords, hr]
  simp only [Except.mapError, bind, Except.bind, hall]

theorem sameRun_runRecords (hl : libs.CollectsInOrder) (p q : Bool) (table : Synonyms)
    (filter text : String) :
    SameRun (runRecords libs p table filter text) (runRecords libs q table filter text) := by
  cases hr : recordsOfText text with
  | error e =>
    rw [runRecords_of_error p hr, runRecords_of_error q hr]
    exact .refl
  | ok records =>
    cases ha : annotateAll (Filter.parse filter) table records with
    | ok results =>
      rw [runRecords_of_ok hl p hr ha, runRecords_of_ok hl q hr ha]
      exact .refl
    | error v =>
      obtain ⟨u, -, -, hp⟩ := exists_runRecords_of_not_record hl p hr ha
      obtain ⟨u', -, -, hq⟩ := exists_runRecords_of_not_record hl q hr ha
      rw [hp, hq]
      exact .notRecord

end CommandLine

end RecordFilter
