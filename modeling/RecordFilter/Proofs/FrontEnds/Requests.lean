import RecordFilter.Debug
import RecordFilter.Proofs.FrontEnds.Loading

/-!
# Stages of debug requests

A debug request has to pass six stages. What each of them asks is said here of the request alone,
whatever the others ask, and the answer is decided by the first stage that fails: it gives the
status and the only field of the answer, a message. A request that passes them all is answered with
the outcome for its input, or with its records, each of them annotated.
-/

namespace RecordFilter

namespace Json

def IsObject (v : Json) : Prop := ∃ fields, v = object fields

end Json

/-! ## Annotating lists of records -/

section Annotating

variable {α β ε : Type} {step : α → Except ε β}

/-- Where something is true of a member, there is a first member that it is true of. -/
theorem exists_first_mem {P : α → Prop} {l : List α} (h : ∃ a ∈ l, P a) :
    ∃ before a after, l = before ++ a :: after ∧ (∀ b ∈ before, ¬ P b) ∧ P a := by
  induction l with
  | nil => simp at h
  | cons a l ih =>
    by_cases ha : P a
    · exact ⟨[], a, l, rfl, by simp, ha⟩
    · have hrest : ∃ b ∈ l, P b := by simpa [ha] using h
      obtain ⟨before, b, after, rfl, hbefore, hb⟩ := ih hrest
      exact ⟨a :: before, b, after, rfl, by simpa using ⟨ha, hbefore⟩, hb⟩

/-- A list is gone through to its end if and only if each step succeeds. -/
theorem mapM_eq_ok_iff {l : List α} {results : List β} :
    l.mapM step = .ok results ↔ List.Forall₂ (fun a b => step a = .ok b) l results := by
  induction l generalizing results with
  | nil => cases results <;> simp [pure, Except.pure]
  | cons a l ih =>
    rw [List.mapM_cons]
    cases ha : step a with
    | error e => cases results <;> simp [bind, Except.bind, ha]
    | ok b =>
      cases hl : l.mapM step with
      | error e => cases results <;> simp [bind, Except.bind, ← ih, hl, ha]
      | ok bs => cases results <;> simp [bind, Except.bind, pure, Except.pure, ← ih, hl, ha]

/-- The first step that fails decides. -/
theorem mapM_of_first_error {before after : List α} {a : α} {e : ε}
    (hb : ∀ b ∈ before, ∃ r, step b = .ok r) (ha : step a = .error e) :
    (before ++ a :: after).mapM step = .error e := by
  induction before with
  | nil => simp [bind, Except.bind, ha]
  | cons b before ih =>
    obtain ⟨r, hr⟩ := hb b (by simp)
    have hrest := ih fun c hc => hb c (by simp [hc])
    rw [List.cons_append, List.mapM_cons, hr, hrest]
    rfl

variable {f : Filter} {synonyms : Synonyms} {records : List Json}

theorem annotate_of_isObject (f : Filter) (synonyms : Synonyms) {v : Json} (h : v.IsObject) :
    ∃ result, annotate f synonyms v = .ok result := by
  obtain ⟨fields, rfl⟩ := h
  exact ⟨_, rfl⟩

theorem annotate_of_not_isObject (f : Filter) (synonyms : Synonyms) {v : Json}
    (h : ¬ v.IsObject) : annotate f synonyms v = .error v := by
  cases v with
  | object fields => exact absurd ⟨fields, rfl⟩ h
  | _ => rfl

theorem exists_annotateAll (f : Filter) (synonyms : Synonyms) (h : ∀ v ∈ records, v.IsObject) :
    ∃ results, annotateAll f synonyms records = .ok results := by
  induction records with
  | nil => exact ⟨[], rfl⟩
  | cons v records ih =>
    obtain ⟨result, hv⟩ := annotate_of_isObject f synonyms (h v (by simp))
    obtain ⟨results, hrest⟩ := ih fun u hu => h u (by simp [hu])
    rw [annotateAll] at hrest
    refine ⟨result :: results, ?_⟩
    rw [annotateAll, List.mapM_cons, hv, hrest]
    rfl

theorem annotateAll_of_not_isObject (f : Filter) (synonyms : Synonyms) {before after : List Json}
    {v : Json} (hb : ∀ u ∈ before, u.IsObject) (hv : ¬ v.IsObject) :
    annotateAll f synonyms (before ++ v :: after) = .error v :=
  mapM_of_first_error (fun u hu => annotate_of_isObject f synonyms (hb u hu))
    (annotate_of_not_isObject f synonyms hv)

end Annotating

namespace Debug

/-! ## Stages -/

/-- The request is an object with the value under the name, and the value is not null. -/
def Given (request : Json) (name : String) (v : Json) : Prop :=
  ∃ fields, request = .object fields ∧ Entries.get? name fields = some v ∧ v ≠ .null

inductive Stage where
  | json
  | required
  | filterText
  | synonyms
  | content
  | records
deriving DecidableEq, Repr

namespace Stage

/-- The place in the order of the stages. -/
def place : Stage → Nat
  | json => 0
  | required => 1
  | filterText => 2
  | synonyms => 3
  | content => 4
  | records => 5

/-- The status of an answer to a request that fails here. -/
def status : Stage → Nat
  | json => 500
  | required => 400
  | filterText => 500
  | synonyms => 500
  | content => 400
  | records => 500

variable (files : Files) (synonymFile : Option String) (request? : Option Json)

/-- What the stage asks of a request, if the body is a JSON text at all. -/
def Passes : Stage → Prop
  | json => ∃ request, request? = some request
  | required => ∃ request, request? = some request ∧
      (∃ mode, Given request "mode" mode) ∧ ∃ filter, Given request "filter" filter
  | filterText => ∃ request, request? = some request ∧
      ∃ text, Given request "filter" (.string text)
  | synonyms => ∃ table, Synonyms.Provides files synonymFile table
  | content => ∃ request, request? = some request ∧
      (Given request "mode" (.string "text") ∧ (∃ input, Given request "input" input) ∨
        Given request "mode" (.string "records") ∧
          ∃ records, Given request "records" (.array records))
  | records => ∃ request, request? = some request ∧
      ∀ records, Given request "mode" (.string "records") →
        Given request "records" (.array records) → ∀ v ∈ records, v.IsObject

/-- What the stage objects to in a body that fails here. -/
inductive Objects (body : String) : Stage → DebugError → Prop
  | json : Objects body json (.notJson body)
  | required : Objects body required .invalidRequest
  | filterText : Objects body filterText .filterNotString
  | synonyms (h : Synonyms.Breaks files synonymFile e) : Objects body synonyms (.synonyms e)
  | input (hr : Json.read? body = some request) (hm : Given request "mode" (.string "text")) :
      Objects body content .noInput
  | recordList (hr : Json.read? body = some request)
      (hm : Given request "mode" (.string "records")) : Objects body content .noRecords
  | mode (hr : Json.read? body = some request) (hm : Given request "mode" mode)
      (ht : mode ≠ .string "text") (hs : mode ≠ .string "records") :
      Objects body content .invalidMode
  | record (hr : Json.read? body = some request)
      (hs : Given request "records" (.array (before ++ v :: after)))
      (hb : ∀ u ∈ before, u.IsObject) (hv : ¬ v.IsObject) : Objects body records (.notRecord v)

theorem Objects.status_eq {body : String} {stage : Stage} {e : DebugError}
    (h : Objects files synonymFile body stage e) : e.status = stage.status := by
  cases h <;> rfl

end Stage

/-- The answer to a request by a filter and a table: the outcome of checking its input, or its
records in their order, each with its outcome. -/
inductive Answers (request : Json) (f : Filter) (synonyms : Synonyms) : Json → Prop
  | text (hm : Given request "mode" (.string "text")) (hi : Given request "input" input) :
      Answers request f synonyms
        (.object [("result", .bool (f.check (.ofJson input) synonyms).outcome)])
  | records (hm : Given request "mode" (.string "records"))
      (hr : Given request "records" (.array records))
      (ha : List.Forall₂ (fun record result => annotate f synonyms record = .ok result)
        records results) : Answers request f synonyms (.object [("results", .array results)])

variable {files : Files} {synonymFile : Option String} {body : String}
  {request v u mode answer : Json} {name text : String} {f : Filter} {table : Synonyms}

/-! ## What the readers of a request do -/

theorem field?_eq_some_iff : field? request name = some v ↔ Given request name v := by
  have hnull : ∀ u : Json, u.isNull = false ↔ u ≠ .null := by
    intro u
    cases u <;> simp [Json.isNull]
  rw [field?, Option.filter_eq_some_iff, Bool.not_eq_true', hnull, Given]
  constructor
  · rintro ⟨hf, hv⟩
    cases request with
    | object fields => exact ⟨fields, rfl, hf, hv⟩
    | _ => cases hf
  · rintro ⟨fields, rfl, hf, hv⟩
    exact ⟨hf, hv⟩

theorem field?_eq_none_iff : field? request name = none ↔ ¬ ∃ v, Given request name v := by
  simp only [← field?_eq_some_iff, Option.eq_none_iff_forall_not_mem, Option.mem_def, not_exists]

theorem Given.unique (h : Given request name v) (h' : Given request name u) : v = u := by
  rw [← field?_eq_some_iff] at h h'
  exact Option.some.inj (h.symm.trans h')

theorem filterAndMode_of_given (hm : Given request "mode" mode)
    (hf : Given request "filter" (.string text)) : filterAndMode request = .ok (mode, text) := by
  rw [← field?_eq_some_iff] at hm hf
  simp only [filterAndMode, hm, hf]

theorem filterAndMode_of_missing
    (h : ¬ ((∃ mode, Given request "mode" mode) ∧ ∃ filter, Given request "filter" filter)) :
    filterAndMode request = .error .invalidRequest := by
  simp only [← field?_eq_some_iff] at h
  unfold filterAndMode
  split
  · next hm hf => exact absurd ⟨⟨_, hm⟩, _, hf⟩ h
  · next hm hf => exact absurd ⟨⟨_, hm⟩, _, hf⟩ h
  · rfl

theorem filterAndMode_of_no_text (hm : Given request "mode" mode)
    (hf : Given request "filter" v) (hv : ∀ text, v ≠ .string text) :
    filterAndMode request = .error .filterNotString := by
  rw [← field?_eq_some_iff] at hm hf
  unfold filterAndMode
  rw [hm, hf]
  cases v with
  | string text => exact absurd rfl (hv text)
  | _ => rfl

section Evaluating

variable (f : Filter) (table : Synonyms)

theorem evaluate_of_input (hi : Given request "input" v) :
    evaluate request (.string "text") f table =
      .ok (.object [("result", .bool (f.check (.ofJson v) table).outcome)]) := by
  rw [← field?_eq_some_iff] at hi
  simp only [evaluate, hi, resultField]

theorem evaluate_of_no_input (h : ¬ ∃ v, Given request "input" v) :
    evaluate request (.string "text") f table = .error .noInput := by
  rw [← field?_eq_none_iff] at h
  simp only [evaluate, h]

theorem evaluate_of_records {records results : List Json}
    (hr : Given request "records" (.array records))
    (ha : annotateAll f table records = .ok results) :
    evaluate request (.string "records") f table =
      .ok (.object [("results", .array results)]) := by
  rw [← field?_eq_some_iff] at hr
  simp only [evaluate, hr, ha]

theorem evaluate_of_not_record {records : List Json}
    (hr : Given request "records" (.array records)) (ha : annotateAll f table records = .error v) :
    evaluate request (.string "records") f table = .error (.notRecord v) := by
  rw [← field?_eq_some_iff] at hr
  simp only [evaluate, hr, ha]

theorem evaluate_of_no_records (h : ¬ ∃ records, Given request "records" (.array records)) :
    evaluate request (.string "records") f table = .error .noRecords := by
  simp only [← field?_eq_some_iff] at h
  simp only [evaluate]
  split
  · next records hr => exact absurd ⟨_, hr⟩ h
  · rfl

theorem evaluate_of_other_mode (ht : mode ≠ .string "text") (hs : mode ≠ .string "records") :
    evaluate request mode f table = .error .invalidMode := by
  unfold evaluate
  split
  · exact absurd rfl ht
  · exact absurd rfl hs
  · rfl

end Evaluating

/-! ## One stage after the other -/

section Handling

variable (files synonymFile) {e : DebugError}

theorem handle_of_not_json (hr : Json.read? body = none) :
    handle files synonymFile body = .error (.notJson body) := by
  rw [handle, hr]
  rfl

variable {files synonymFile}

theorem handle_of_json (hr : Json.read? body = some request) :
    handle files synonymFile body = filterAndMode request >>= fun (mode, text) =>
      (Synonyms.loadOptional files synonymFile).mapError .synonyms >>= fun table =>
        evaluate request mode (Filter.parse text) table := by
  rw [handle, hr]
  rfl

theorem handle_of_refused (hr : Json.read? body = some request)
    (hf : filterAndMode request = .error e) : handle files synonymFile body = .error e := by
  rw [handle_of_json hr, hf]
  rfl

theorem handle_of_breaks {e : Synonyms.LoadError} (hr : Json.read? body = some request)
    (hf : filterAndMode request = .ok (mode, text))
    (hb : Synonyms.Breaks files synonymFile e) :
    handle files synonymFile body = .error (.synonyms e) := by
  rw [handle_of_json hr, hf, hb.loadOptional_eq]
  rfl

theorem handle_of_provides (hr : Json.read? body = some request)
    (hf : filterAndMode request = .ok (mode, text))
    (hp : Synonyms.Provides files synonymFile table) :
    handle files synonymFile body = evaluate request mode (Filter.parse text) table := by
  rw [handle_of_json hr, hf, hp.loadOptional_eq]
  rfl

end Handling

namespace Stage

/-- If not all stages pass, there is a first one that fails. -/
theorem exists_first {P : Stage → Prop} (h : ¬ ∀ stage, P stage) :
    ∃ stage, ¬ P stage ∧ ∀ earlier : Stage, earlier.place < stage.place → P earlier := by
  obtain ⟨stage, hstage⟩ := not_forall.mp h
  induction hn : stage.place using Nat.strongRecOn generalizing stage with
  | ind n ih =>
    by_cases hbefore : ∀ earlier : Stage, earlier.place < stage.place → P earlier
    · exact ⟨stage, hstage, hbefore⟩
    · push Not at hbefore
      obtain ⟨earlier, hlt, hearlier⟩ := hbefore
      exact ih _ (hn ▸ hlt) earlier hearlier rfl

end Stage

/-- What is left of a request when the first three stages pass. -/
theorem given_of_passes (hreq : Stage.required.Passes files synonymFile (Json.read? body))
    (hfilter : Stage.filterText.Passes files synonymFile (Json.read? body)) :
    ∃ request mode text, Json.read? body = some request ∧ Given request "mode" mode ∧
      filterAndMode request = .ok (mode, text) ∧ Given request "filter" (.string text) := by
  obtain ⟨request, hr, ⟨mode, hm⟩, -⟩ := hreq
  obtain ⟨request', hr', text, hf⟩ := hfilter
  obtain rfl := Option.some.inj (hr.symm.trans hr')
  exact ⟨request, mode, text, hr, hm, filterAndMode_of_given hm hf, hf⟩

/-- The first stage that fails decides. -/
theorem handle_of_first_failing {stage : Stage}
    (hfail : ¬ stage.Passes files synonymFile (Json.read? body))
    (hbefore : ∀ earlier : Stage, earlier.place < stage.place →
      earlier.Passes files synonymFile (Json.read? body)) :
    ∃ e, stage.Objects files synonymFile body e ∧
      handle files synonymFile body = .error e := by
  cases stage with
  | json =>
    have hr : Json.read? body = none := by
      simpa [Stage.Passes, Option.eq_none_iff_forall_ne_some] using hfail
    exact ⟨_, .json, handle_of_not_json files synonymFile hr⟩
  | required =>
    obtain ⟨request, hr⟩ := hbefore .json (by decide)
    have hmissing := filterAndMode_of_missing fun h => hfail ⟨request, hr, h⟩
    exact ⟨_, .required, handle_of_refused hr hmissing⟩
  | filterText =>
    obtain ⟨request, hr, ⟨mode, hm⟩, v, hv⟩ := hbefore .required (by decide)
    have hno : ∀ text, v ≠ .string text := by
      rintro text rfl
      exact hfail ⟨request, hr, text, hv⟩
    exact ⟨_, .filterText,
      handle_of_refused hr (filterAndMode_of_no_text hm hv hno)⟩
  | synonyms =>
    obtain ⟨request, mode, text, hr, -, hf, -⟩ :=
      given_of_passes (hbefore .required (by decide)) (hbefore .filterText (by decide))
    obtain ⟨e, hb⟩ := (Synonyms.provides_or_breaks files synonymFile).resolve_left hfail
    exact ⟨_, .synonyms hb, handle_of_breaks hr hf hb⟩
  | content =>
    obtain ⟨request, mode, text, hr, hm, hf, -⟩ :=
      given_of_passes (hbefore .required (by decide)) (hbefore .filterText (by decide))
    obtain ⟨table, hp⟩ := hbefore .synonyms (by decide)
    rw [handle_of_provides hr hf hp]
    by_cases ht : mode = .string "text"
    · subst ht
      have hno : ¬ ∃ v, Given request "input" v := fun h => hfail ⟨request, hr, .inl ⟨hm, h⟩⟩
      exact ⟨_, .input hr hm, evaluate_of_no_input _ _ hno⟩
    · by_cases hs : mode = .string "records"
      · subst hs
        have hno : ¬ ∃ records, Given request "records" (.array records) :=
          fun h => hfail ⟨request, hr, .inr ⟨hm, h⟩⟩
        exact ⟨_, .recordList hr hm, evaluate_of_no_records _ _ hno⟩
      · exact ⟨_, .mode hr hm ht hs, evaluate_of_other_mode _ _ ht hs⟩
  | records =>
    obtain ⟨request, mode, text, hr, hm, hf, -⟩ :=
      given_of_passes (hbefore .required (by decide)) (hbefore .filterText (by decide))
    obtain ⟨table, hp⟩ := hbefore .synonyms (by decide)
    obtain ⟨request', hr', hcontent⟩ := hbefore .content (by decide)
    obtain rfl := Option.some.inj (hr.symm.trans hr')
    rw [handle_of_provides hr hf hp]
    obtain ⟨ht, -⟩ | ⟨hs, records, hrecords⟩ := hcontent
    · refine absurd ⟨request, hr, fun records hs => ?_⟩ hfail
      exact absurd (ht.unique hs) (by simp)
    · obtain rfl := hm.unique hs
      have hnot : ∃ v ∈ records, ¬ v.IsObject := by
        by_contra hall
        push Not at hall
        refine hfail ⟨request, hr, fun others _ hothers => ?_⟩
        cases hrecords.unique hothers
        exact hall
      obtain ⟨before, v, after, rfl, hbefore, hv⟩ := exists_first_mem hnot
      have hb : ∀ u ∈ before, u.IsObject := fun u hu => not_not.mp (hbefore u hu)
      refine ⟨_, .record hr hrecords hb hv, ?_⟩
      exact evaluate_of_not_record _ _ hrecords (annotateAll_of_not_isObject _ _ hb hv)

/-- A request that passes all stages is answered. -/
theorem handle_of_passes
    (h : ∀ stage : Stage, stage.Passes files synonymFile (Json.read? body)) :
    ∃ request text table answer, Json.read? body = some request ∧
      Given request "filter" (.string text) ∧ Synonyms.Provides files synonymFile table ∧
      Answers request (Filter.parse text) table answer ∧
      handle files synonymFile body = .ok answer := by
  obtain ⟨request, mode, text, hr, hm, hf, hfilter⟩ := given_of_passes (h .required) (h .filterText)
  obtain ⟨table, hp⟩ := h .synonyms
  obtain ⟨request', hr', hcontent⟩ := h .content
  obtain rfl := Option.some.inj (hr.symm.trans hr')
  refine ⟨request, text, table, ?_⟩
  rw [handle_of_provides hr hf hp]
  obtain ⟨ht, input, hi⟩ | ⟨hs, records, hrecords⟩ := hcontent
  · obtain rfl := hm.unique ht
    exact ⟨_, hr, hfilter, hp, .text ht hi, evaluate_of_input _ _ hi⟩
  · obtain rfl := hm.unique hs
    obtain ⟨request', hr', hall⟩ := h .records
    obtain rfl := Option.some.inj (hr.symm.trans hr')
    obtain ⟨results, hresults⟩ :=
      exists_annotateAll (Filter.parse text) table (hall records hs hrecords)
    refine ⟨_, hr, hfilter, hp, .records hs hrecords (mapM_eq_ok_iff.mp hresults), ?_⟩
    exact evaluate_of_records _ _ hrecords hresults

/-! ## The answer -/

variable {causes : Causes}

theorem respond_of_ok (h : handle files synonymFile body = .ok answer) :
    respond files synonymFile body causes = ⟨200, answer⟩ := by
  simp only [respond, h]

theorem respond_of_error {e : DebugError} (h : handle files synonymFile body = .error e) :
    respond files synonymFile body causes =
      ⟨e.status, .object [("error", .string (e.message causes))]⟩ := by
  simp only [respond, h]

theorem respond_of_first_failing (causes : Causes) {stage : Stage}
    (hfail : ¬ stage.Passes files synonymFile (Json.read? body))
    (hbefore : ∀ earlier : Stage, earlier.place < stage.place →
      earlier.Passes files synonymFile (Json.read? body)) :
    ∃ e, stage.Objects files synonymFile body e ∧
      respond files synonymFile body causes =
        ⟨stage.status, .object [("error", .string (e.message causes))]⟩ := by
  obtain ⟨e, hobjects, hhandle⟩ := handle_of_first_failing hfail hbefore
  refine ⟨e, hobjects, ?_⟩
  rw [respond_of_error hhandle, hobjects.status_eq]

theorem respond_status_eq_ok_iff :
    (respond files synonymFile body causes).status = 200 ↔
      ∀ stage : Stage, stage.Passes files synonymFile (Json.read? body) := by
  constructor
  · intro h
    by_contra hnot
    obtain ⟨stage, hfail, hbefore⟩ := Stage.exists_first hnot
    obtain ⟨e, -, hrespond⟩ := respond_of_first_failing causes hfail hbefore
    rw [hrespond] at h
    cases stage <;> cases h
  · intro h
    obtain ⟨request, text, table, answer, -, -, -, -, hhandle⟩ := handle_of_passes h
    rw [respond_of_ok hhandle]

/-- A debug request is served if and only if all stages pass. The first stage that fails decides the
status and the message of any other answer, and such an answer holds nothing but a message. A
request that is served is answered as its filter and the table of synonyms say. All this holds
whatever is said of the causes of a failure, which only follows the message. -/
theorem respond_stages (files : Files) (synonymFile : Option String) (body : String)
    (causes : Causes) :
    ((respond files synonymFile body causes).status = 200 ↔
      ∀ stage : Stage, stage.Passes files synonymFile (Json.read? body)) ∧
    (∀ stage : Stage, ¬ stage.Passes files synonymFile (Json.read? body) →
      (∀ earlier : Stage, earlier.place < stage.place →
        earlier.Passes files synonymFile (Json.read? body)) →
      ∃ e, stage.Objects files synonymFile body e ∧
        respond files synonymFile body causes =
          ⟨stage.status, .object [("error", .string (e.message causes))]⟩) ∧
    ((respond files synonymFile body causes).status = 200 →
      ∃ request text table, Json.read? body = some request ∧
        Given request "filter" (.string text) ∧ Synonyms.Provides files synonymFile table ∧
        Answers request (Filter.parse text) table (respond files synonymFile body causes).body) ∧
    ((respond files synonymFile body causes).status ≠ 200 →
      ∃ message,
        (respond files synonymFile body causes).body = .object [("error", .string message)]) := by
  refine ⟨respond_status_eq_ok_iff, fun stage => respond_of_first_failing causes, ?_, ?_⟩
  · intro h
    obtain ⟨request, text, table, answer, hr, hf, hp, hanswer, hhandle⟩ :=
      handle_of_passes (respond_status_eq_ok_iff.mp h)
    rw [respond_of_ok hhandle]
    exact ⟨request, text, table, hr, hf, hp, hanswer⟩
  · intro h
    obtain ⟨stage, hfail, hbefore⟩ := Stage.exists_first (mt respond_status_eq_ok_iff.mpr h)
    obtain ⟨e, -, hrespond⟩ := respond_of_first_failing causes hfail hbefore
    exact ⟨e.message causes, by rw [hrespond]⟩

/-- A directory in the place of the file of synonyms outranks the mode that is none. The message
ends in what the system says of it. -/
theorem respond_stages_broken_file :
    let causes : Causes :=
      { Causes.silent with notText := fun _ _ => ["Is a directory (os error 21)"] }
    respond (Files.empty.set "s.yml" .directory) (some "s.yml")
        "\x7b\"mode\":\"xml\",\"filter\":\"a\"\x7d" causes =
      ⟨500, .object [("error",
        .string "Synonyms: failed to read s.yml: Is a directory (os error 21)")]⟩ := by
  intro causes
  have hr : Json.read? "\x7b\"mode\":\"xml\",\"filter\":\"a\"\x7d" =
      some (.object [("mode", .string "xml"), ("filter", .string "a")]) := by cbv
  have hm : Given (.object [("mode", .string "xml"), ("filter", .string "a")]) "mode"
      (.string "xml") := ⟨_, rfl, by simp [Entries.get?], by simp⟩
  have hf : Given (.object [("mode", .string "xml"), ("filter", .string "a")]) "filter"
      (.string "a") := ⟨_, rfl, by simp [Entries.get?], by simp⟩
  have hb : Synonyms.Breaks (Files.empty.set "s.yml" .directory) (some "s.yml")
      (.unreadable "s.yml" (Files.empty.set "s.yml" .directory "s.yml")) :=
    .unreadable (by simp) (by simp; rfl)
  have hfail : ¬ Stage.synonyms.Passes (Files.empty.set "s.yml" .directory) (some "s.yml")
      (Json.read? "\x7b\"mode\":\"xml\",\"filter\":\"a\"\x7d") := by
    rintro ⟨table, hp⟩
    exact hp.not_breaks hb
  have hbefore : ∀ earlier : Stage, earlier.place < Stage.synonyms.place →
      earlier.Passes (Files.empty.set "s.yml" .directory) (some "s.yml")
        (Json.read? "\x7b\"mode\":\"xml\",\"filter\":\"a\"\x7d") := by
    intro earlier hlt
    cases earlier with
    | json => exact ⟨_, hr⟩
    | required => exact ⟨_, hr, ⟨_, hm⟩, _, hf⟩
    | filterText => exact ⟨_, hr, _, hf⟩
    | _ => exact absurd hlt (by decide)
  have hstages := respond_stages (Files.empty.set "s.yml" .directory) (some "s.yml")
    "\x7b\"mode\":\"xml\",\"filter\":\"a\"\x7d" causes
  obtain ⟨e, hobjects, hrespond⟩ := hstages.2.1 .synonyms hfail hbefore
  cases hobjects with
  | synonyms h =>
    cases Except.error.inj (h.loadOptional_eq.symm.trans hb.loadOptional_eq)
    exact hrespond

end Debug

end RecordFilter
