import RecordFilter.Proofs.FrontEnds.Threads
import RecordFilter.Proofs.Json.CompactText

/-!
# Records by three ways

The same records can be given to the command for records as one JSON array or on lines of their own,
and to the debug handler inside a request. All three answer alike, and with all records or none: an
array with an item that is no record, or lines with one that is no JSON text, give no output at all.
-/

namespace RecordFilter.CommandLine

open Unicode (isWhiteSpace)

/-! ## Texts with records on lines -/

/-- What ends a line. -/
def IsLineEnd (e : List Char) : Prop := e = ['\n'] ∨ e = ['\r', '\n']

/-- White space within a line. -/
structure IsBlankLine (s : List Char) : Prop where
  blank : isBlankText s = true
  not_mem : '\n' ∉ s

/-- The text has the compact texts of the records on lines of their own, in their order, between any
number of blank lines. Nothing needs to end the last line. -/
inductive OnLines : List Json → List Char → Prop
  | blank (hs : IsBlankLine s) (he : IsLineEnd e) (h : OnLines records t) :
      OnLines records (s ++ (e ++ t))
  | record (he : IsLineEnd e) (h : OnLines records t) :
      OnLines (r :: records) (r.compact.toList ++ (e ++ t))
  | lastBlank (hs : IsBlankLine s) : OnLines [] s
  | lastRecord : OnLines [r] r.compact.toList

variable {c : Char} {s t e acc line : List Char} {records items : List Json} {r : Json}
  {filter text : String} {w : Surroundings} {i : Invocation} {synonymFile : Option String}
  {table : Synonyms} {f : Filter} {libs : Libraries}

/-! ## White space -/

/-- The table of white space is looked up once, here. -/
theorem whiteSpace_eq : Unicode.whiteSpace =
    [⟨9, 13⟩, ⟨32, 32⟩, ⟨0x85, 0x85⟩, ⟨0xA0, 0xA0⟩, ⟨0x1680, 0x1680⟩, ⟨0x2000, 0x200A⟩,
      ⟨0x2028, 0x2029⟩, ⟨0x202F, 0x202F⟩, ⟨0x205F, 0x205F⟩, ⟨0x3000, 0x3000⟩] := by decide +kernel

theorem isWhiteSpace_of_isSpace (h : Json.isSpace c) : isWhiteSpace c := by
  simp only [Json.isSpace, Bool.or_eq_true, beq_iff_eq] at h
  rcases h with ((rfl | rfl) | rfl) | rfl <;>
    simp [isWhiteSpace, whiteSpace_eq, CodeSet.contains]

/-- Brackets are no white space. -/
theorem isWhiteSpace_opening : isWhiteSpace '[' = false ∧ isWhiteSpace '\x7b' = false := by
  simp [isWhiteSpace, whiteSpace_eq, CodeSet.contains]

theorem isBlankText_iff : isBlankText s = true ↔ ∀ c ∈ s, isWhiteSpace c := List.all_eq_true

theorem isBlankText_of_isSpace (h : s.all Json.isSpace = true) : isBlankText s = true :=
  isBlankText_iff.mpr fun c hc => isWhiteSpace_of_isSpace (List.all_eq_true.mp h c hc)

/-! ## Lines -/

theorem lines_cons (hc : c ≠ '\n') (hs : c = '\r' → s.head? ≠ some '\n') :
    lines acc (c :: s) = lines (c :: acc) s := by
  rw [lines]
  · rintro t rfl rfl
    simp at hs
  · exact hc

theorem lines_append_carriageReturn (hs : '\n' ∉ s) :
    lines acc (s ++ '\r' :: '\n' :: t) = (acc.reverse ++ s) :: lines [] t := by
  induction s generalizing acc with
  | nil => simp [lines]
  | cons c s ih =>
    rw [List.mem_cons, not_or] at hs
    rw [List.cons_append, lines_cons (Ne.symm hs.1), ih hs.2]
    · simp
    · intro _
      cases s with
      | nil => simp
      | cons d s => exact fun h => hs.2 (List.mem_of_head? h)

/-- A carriage return before the line feed would be part of the line end. -/
theorem lines_append_lineFeed (hs : '\n' ∉ s) (hlast : s.getLast? ≠ some '\r') :
    lines acc (s ++ '\n' :: t) = (acc.reverse ++ s) :: lines [] t := by
  induction s generalizing acc with
  | nil => simp [lines]
  | cons c s ih =>
    rw [List.mem_cons, not_or] at hs
    rw [List.cons_append, lines_cons (Ne.symm hs.1), ih hs.2]
    · simp
    · cases s with
      | nil => simp
      | cons d s => simpa using hlast
    · rintro rfl
      cases s with
      | nil => simp at hlast
      | cons d s => exact fun h => hs.2 (List.mem_of_head? h)

/-- What is left without a line feed is the last line, unless it is nothing. -/
theorem lines_last (hs : '\n' ∉ s) (hne : acc ≠ [] ∨ s ≠ []) :
    lines acc s = [acc.reverse ++ s] := by
  induction s generalizing acc with
  | nil =>
    have hacc : acc ≠ [] := by simpa using hne
    simp [lines, hacc]
  | cons c s ih =>
    rw [List.mem_cons, not_or] at hs
    rw [lines_cons (Ne.symm hs.1), ih hs.2 (.inl (by simp))]
    · simp
    · exact fun _ h => hs.2 (List.mem_of_head? h)

/-- A text without line breaks is a line, whatever ends it. -/
theorem lines_ended (hs : '\n' ∉ s) (hr : '\r' ∉ s) (he : IsLineEnd e) (t : List Char) :
    lines [] (s ++ (e ++ t)) = s :: lines [] t := by
  rcases he with rfl | rfl
  · exact lines_append_lineFeed hs fun h => hr (List.mem_of_getLast? h)
  · exact lines_append_carriageReturn hs

/-! ## Blank lines -/

/-- Blank text before the end of a line is a blank line; a carriage return at its end may count as
part of the line end. -/
theorem IsBlankLine.lines_ended (hs : IsBlankLine s) (he : IsLineEnd e) (t : List Char) :
    ∃ line, isBlankText line = true ∧ lines [] (s ++ (e ++ t)) = line :: lines [] t := by
  rcases he with rfl | rfl
  · by_cases hlast : s.getLast? = some '\r'
    · obtain ⟨line, rfl⟩ : ∃ line, s = line ++ ['\r'] :=
        ⟨s.dropLast, (List.dropLast_append_getLast? '\r' hlast).symm⟩
      have hline : isBlankText line = true := by
        rw [isBlankText_iff]
        intro c hc
        exact isBlankText_iff.mp hs.blank c (by simp [hc])
      have hfeed : '\n' ∉ line := fun h => hs.not_mem (by simp [h])
      refine ⟨line, hline, ?_⟩
      rw [List.append_assoc]
      exact lines_append_carriageReturn hfeed
    · exact ⟨s, hs.blank, lines_append_lineFeed hs.not_mem hlast⟩
  · exact ⟨s, hs.blank, lines_append_carriageReturn hs.not_mem⟩

theorem isBlankText_lineEnd (he : IsLineEnd e) : isBlankText e = true := by
  refine isBlankText_of_isSpace ?_
  rcases he with rfl | rfl <;> decide

/-! ## Records on lines -/

theorem not_mem_compact (hc : c < ' ') (v : Json) : c ∉ v.compact.toList :=
  fun h => absurd (v.isPrintable_compact c h) (not_le.mpr hc)

theorem compact_of_isObject (h : r.IsObject) : ∃ s, r.compact.toList = '\x7b' :: s := by
  obtain ⟨fields, rfl⟩ := h
  exact ⟨_, Json.toList_object⟩

theorem isBlankText_compact (h : r.IsObject) : isBlankText r.compact.toList = false := by
  obtain ⟨s, hs⟩ := compact_of_isObject h
  simp [hs, isBlankText, isWhiteSpace_opening.2]

theorem recordsOfLines_blank {number : Nat} {lines : List (List Char)}
    (h : isBlankText line = true) :
    recordsOfLines number (line :: lines) = recordsOfLines (number + 1) lines := by
  rw [recordsOfLines, if_pos h]

theorem recordsOfLines_record {number : Nat} {lines : List (List Char)} (hr : r.IsObject)
    (hread : Json.read? r.compact = some r) :
    recordsOfLines number (r.compact.toList :: lines) =
      (recordsOfLines (number + 1) lines).map (r :: ·) := by
  rw [recordsOfLines, isBlankText_compact hr, if_neg (by simp), String.ofList_toList, hread]

/-- The records on lines are read back, in their order. -/
theorem recordsOfLines_onLines (h : OnLines records s) (hobjects : ∀ r ∈ records, r.IsObject)
    (hread : ∀ r ∈ records, Json.read? r.compact = some r) (number : Nat) :
    recordsOfLines number (lines [] s) = .ok records := by
  -- One more line is passed in each case, and the number of the next one goes up by one.
  induction h generalizing number with
  | blank hs he _ ih =>
    obtain ⟨line, hline, hlines⟩ := hs.lines_ended he _
    rw [hlines, recordsOfLines_blank hline]
    exact ih hobjects hread (number + 1)
  | @record e records t r he _ ih =>
    have hlines := lines_ended (not_mem_compact (by decide) r) (not_mem_compact (by decide) r) he t
    rw [hlines, recordsOfLines_record (hobjects r (by simp)) (hread r (by simp)),
      ih (fun u hu => hobjects u (by simp [hu])) (fun u hu => hread u (by simp [hu]))]
    rfl
  | @lastBlank s hs =>
    -- Without a line end, no characters are no line.
    by_cases hne : s = []
    · simp [hne, lines, recordsOfLines]
    · rw [lines_last hs.not_mem (.inr hne), List.reverse_nil, List.nil_append,
        recordsOfLines_blank hs.blank, recordsOfLines]
  | @lastRecord r =>
    obtain ⟨s, hs⟩ := compact_of_isObject (hobjects r (by simp))
    rw [lines_last (not_mem_compact (by decide) r) (.inr (by simp [hs])), List.reverse_nil,
      List.nil_append, recordsOfLines_record (hobjects r (by simp)) (hread r (by simp)),
      recordsOfLines]
    rfl

/-! ## Telling arrays from lines -/

/-- The text is not taken for an array. -/
def IsLines (text : String) : Prop := (text.toList.dropWhile isWhiteSpace).head? ≠ some '['

theorem dropWhile_onLines (h : OnLines records s) (hobjects : ∀ r ∈ records, r.IsObject) :
    (s.dropWhile isWhiteSpace).head? ≠ some '[' := by
  have hopening := isWhiteSpace_opening.2
  induction h with
  | blank hs he _ ih =>
    rw [List.dropWhile_append_of_pos (isBlankText_iff.mp hs.blank),
      List.dropWhile_append_of_pos (isBlankText_iff.mp (isBlankText_lineEnd he))]
    exact ih hobjects
  | record =>
    obtain ⟨s, hs⟩ := compact_of_isObject (hobjects _ List.mem_cons_self)
    simp [hs, hopening]
  | lastBlank hs => simp [List.dropWhile_eq_nil_iff.mpr (isBlankText_iff.mp hs.blank)]
  | lastRecord =>
    obtain ⟨s, hs⟩ := compact_of_isObject (hobjects _ List.mem_cons_self)
    simp [hs, hopening]

/-- A text that is read as an array is taken for one. -/
theorem not_isLines_of_read? (h : Json.read? text = some (.array items)) : ¬ IsLines text := by
  have hbracket := isWhiteSpace_opening.1
  unfold Json.read? at h
  split at h
  · next v rest hvalue =>
    split at h
    · obtain rfl := Option.some.inj h
      obtain ⟨_, _, after, -, hskip, -⟩ | ⟨_, _, _, _, -, -, hv⟩ | hscalar :=
        Json.value?_cases hvalue
      · have hsplit : text.toList = text.toList.takeWhile Json.isSpace ++ '[' :: after := by
          rw [← hskip]
          exact (List.takeWhile_append_dropWhile ..).symm
        have hspaces : ∀ c ∈ text.toList.takeWhile Json.isSpace, isWhiteSpace c := fun c hc =>
          isWhiteSpace_of_isSpace (List.mem_takeWhile_imp hc)
        rw [IsLines, hsplit, List.dropWhile_append_of_pos hspaces]
        simp [hbracket]
      · cases hv
      · exact absurd rfl (hscalar.1 items)
    · cases h
  · cases h

theorem recordsOfText_of_read? (h : Json.read? text = some (.array items)) :
    recordsOfText text = .ok items := by
  have harray := not_isLines_of_read? h
  rw [IsLines, not_not] at harray
  rw [recordsOfText, if_pos harray, h]

theorem recordsOfText_of_isLines (h : IsLines text) :
    recordsOfText text = recordsOfLines 1 (lines [] text.toList) := by
  rw [recordsOfText, if_neg h]

theorem recordsOfText_onLines (h : OnLines records text.toList)
    (hobjects : ∀ r ∈ records, r.IsObject)
    (hread : ∀ r ∈ records, Json.read? r.compact = some r) : recordsOfText text = .ok records := by
  rw [recordsOfText_of_isLines (dropWhile_onLines h hobjects)]
  exact recordsOfLines_onLines h hobjects hread 1

/-! ## The first line that is no record -/

/-- Something is on the line, but no JSON text. -/
def IsMalformedLine (line : List Char) : Prop :=
  isBlankText line = false ∧ Json.read? (String.ofList line) = none

theorem recordsOfLines_of_first_malformed {before after : List (List Char)}
    (hbefore : ∀ l ∈ before, ¬ IsMalformedLine l) (hline : IsMalformedLine line) (number : Nat) :
    recordsOfLines number (before ++ line :: after) =
      .error (.malformedLine (number + before.length)) := by
  induction before generalizing number with
  | nil =>
    rw [List.nil_append, recordsOfLines, hline.1, if_neg (by simp), hline.2]
    rfl
  | cons l before ih =>
    have hl := hbefore l (by simp)
    have hrest := ih (fun l hl => hbefore l (by simp [hl])) (number + 1)
    rw [List.cons_append, recordsOfLines, hrest, List.length_cons]
    have hnumber : number + 1 + before.length = number + (before.length + 1) := by omega
    rw [hnumber]
    split
    · rfl
    · next hblank =>
      split
      · rfl
      · next hnone => exact absurd ⟨by simpa using hblank, hnone⟩ hl

/-! ## Runs -/

/-- The invocation checks the records in a text by a filter, with a setting for synonyms. -/
structure ChecksRecords (i : Invocation) (w : Surroundings) (filter text : String)
    (synonymFile : Option String) : Prop where
  command : ∃ source sequential, i.command = .records filter source sequential ∧
    readSource w source = .ok text
  settings : ∃ s, i.settings? w.files w.environment = some s ∧ s.synonyms = synonymFile

theorem ChecksRecords.run_eq (h : ChecksRecords i w filter text synonymFile) (libs : Libraries) :
    ∃ parallel, i.run w libs =
      runRecords libs parallel (Synonyms.loadOrEmpty w.files synonymFile) filter text := by
  obtain ⟨source, sequential, hcommand, hread⟩ := h.command
  obtain ⟨s, hsettings, rfl⟩ := h.settings
  refine ⟨s.parallel && !sequential, ?_⟩
  simp only [Invocation.run, hsettings, hcommand, Command.run, hread]
  rfl

/-- The request to check records by a filter. -/
def recordsRequest (filter : String) (records : List Json) : Json :=
  .object [("mode", .string "records"), ("filter", .string filter), ("records", .array records)]

/-- An array of values that are read back from their texts is read back as well. -/
theorem reread_array (hdepth : ∀ r ∈ records, r.depth ≤ Json.maxDepth)
    (hread : ∀ r ∈ records, Json.read? r.compact = some r) :
    (Json.array records).reread = some (.array records) := by
  have hitems : Json.rereadItems records = some records := by
    induction records with
    | nil => rfl
    | cons r records ih =>
      have hr : r.reread = some r := by
        rw [← Json.read?_compact (hdepth r (by simp))]
        exact hread r (by simp)
      have hrest := ih (fun u hu => hdepth u (by simp [hu])) fun u hu => hread u (by simp [hu])
      rw [Json.rereadItems, hr, hrest]
      rfl
  rw [Json.reread, hitems]
  rfl

theorem depth_array_le {bound : Nat} (h : ∀ r ∈ records, r.depth ≤ bound) :
    (Json.array records).depth ≤ bound + 1 :=
  Nat.succ_le_succ (Json.depthItems_le h)

/-- An array of records and a request with it are read back from their texts, if the records leave
room for the two containers around them. -/
theorem read?_array_and_request (hdepth : ∀ r ∈ records, r.depth + 2 ≤ Json.maxDepth)
    (hread : ∀ r ∈ records, Json.read? r.compact = some r) (filter : String) :
    Json.read? (Json.array records).compact = some (.array records) ∧
      Json.read? (recordsRequest filter records).compact =
        some (recordsRequest filter records) := by
  have harray := reread_array (fun r hr => by have := hdepth r hr; omega) hread
  have hlevels : (Json.array records).depth + 1 ≤ Json.maxDepth :=
    Nat.succ_le_succ (depth_array_le fun r hr => Nat.le_sub_of_add_le (hdepth r hr))
  constructor
  · rw [Json.read?_compact (by omega), harray]
  · have hmode : Json.rereadField ("mode", .string "records") =
        some ("mode", .string "records") := rfl
    have hfilter : Json.rereadField ("filter", .string filter) =
        some ("filter", .string filter) := rfl
    have hrecords : Json.rereadField ("records", .array records) =
        some ("records", .array records) := by
      rw [Json.rereadField, harray]
      rfl
    rw [Json.read?_compact]
    · rw [recordsRequest, Json.reread, Json.rereadFields_eq_mapM]
      simp [hmode, hfilter, hrecords, Entries.ofList, Entries.set]
    · simp only [recordsRequest, Json.depth, Json.depthFields] at hlevels ⊢
      omega

theorem respond_recordsRequest {results : List Json}
    (hrequest : Json.read? (recordsRequest filter records).compact =
      some (recordsRequest filter records))
    (hp : Synonyms.Provides w.files synonymFile table)
    (ha : annotateAll (Filter.parse filter) table records = .ok results) :
    Debug.respond w.files synonymFile (recordsRequest filter records).compact libs.causes =
      ⟨200, .object [("results", .array results)]⟩ := by
  have hm : Debug.Given (recordsRequest filter records) "mode" (.string "records") :=
    ⟨_, rfl, by simp [Entries.get?], by simp⟩
  have hf : Debug.Given (recordsRequest filter records) "filter" (.string filter) :=
    ⟨_, rfl, by simp [Entries.get?], by simp⟩
  have hr : Debug.Given (recordsRequest filter records) "records" (.array records) :=
    ⟨_, rfl, by simp [Entries.get?], by simp⟩
  have hhandle := Debug.handle_of_provides hrequest (Debug.filterAndMode_of_given hm hf) hp
  rw [Debug.evaluate_of_records _ _ hr ha] at hhandle
  exact Debug.respond_of_ok hhandle

/-- The records in an array, on lines and in a debug request are answered alike. -/
theorem exists_results (hl : libs.CollectsInOrder) (hobjects : ∀ r ∈ records, r.IsObject)
    (hdepth : ∀ r ∈ records, r.depth + 2 ≤ Json.maxDepth)
    (hread : ∀ r ∈ records, Json.read? r.compact = some r)
    (hp : Synonyms.Provides w.files synonymFile table) (filter : String) :
    ∃ results, annotateAll (Filter.parse filter) table records = .ok results ∧
      Debug.respond w.files synonymFile (recordsRequest filter records).compact libs.causes =
        ⟨200, .object [("results", .array results)]⟩ ∧
      ∀ i text, ChecksRecords i w filter text synonymFile →
        text = (Json.array records).compact ∨ OnLines records text.toList →
        i.run w libs =
          .ok ⟨printLine (Json.object [("results", .array results)]).compact, true⟩ := by
  obtain ⟨results, hresults⟩ := exists_annotateAll (Filter.parse filter) table hobjects
  obtain ⟨harray, hrequest⟩ := read?_array_and_request hdepth hread filter
  refine ⟨results, hresults, respond_recordsRequest hrequest hp hresults, ?_⟩
  intro i text hi htext
  obtain ⟨parallel, hrun⟩ := hi.run_eq libs
  rw [hrun, hp.loadOrEmpty_eq]
  refine runRecords_of_ok hl parallel ?_ hresults
  rcases htext with rfl | hlines
  · exact recordsOfText_of_read? harray
  · exact recordsOfText_onLines hlines hobjects hread

/-- An array with an item that is no record is refused as a whole. -/
theorem run_of_not_record (hl : libs.CollectsInOrder)
    (hi : ChecksRecords i w filter text synonymFile)
    (htext : Json.read? text = some (.array items)) (hitems : ∃ v ∈ items, ¬ v.IsObject) :
    ∃ v ∈ items, ¬ v.IsObject ∧ i.run w libs = .error (.notRecord v) := by
  obtain ⟨before, v, after, rfl, hbefore, hv⟩ := exists_first_mem hitems
  have hb : ∀ u ∈ before, u.IsObject := fun u hu => not_not.mp (hbefore u hu)
  have hannotate : annotateAll (Filter.parse filter) (Synonyms.loadOrEmpty w.files synonymFile)
      (before ++ v :: after) = .error v := annotateAll_of_not_isObject _ _ hb hv
  obtain ⟨parallel, hrun⟩ := hi.run_eq libs
  rw [hrun]
  exact exists_runRecords_of_not_record hl parallel (recordsOfText_of_read? htext) hannotate

/-- Lines with one that is no JSON text are refused as a whole, by the number of the first. -/
theorem run_of_malformed_line (hi : ChecksRecords i w filter text synonymFile)
    (htext : IsLines text) (hlines : ∃ line ∈ lines [] text.toList, IsMalformedLine line) :
    ∃ before line after p, lines [] text.toList = before ++ line :: after ∧
      (∀ l ∈ before, ¬ IsMalformedLine l) ∧ IsMalformedLine line ∧ i.run w libs = .error p ∧
      p.exitCode = 1 ∧
      p.message? = some ("CLI: Invalid JSON record on line " ++ toString (before.length + 1)) := by
  obtain ⟨before, line, after, heq, hbefore, hline⟩ := exists_first_mem hlines
  have hrecords : recordsOfLines 1 (before ++ line :: after) =
      .error (.malformedLine (1 + before.length)) :=
    recordsOfLines_of_first_malformed hbefore hline 1
  refine ⟨before, line, after, .records (.malformedLine (1 + before.length)), heq, hbefore, hline,
    ?_, rfl, ?_⟩
  · obtain ⟨parallel, hrun⟩ := hi.run_eq libs
    rw [hrun]
    refine runRecords_of_error parallel ?_
    rw [recordsOfText_of_isLines htext, heq, hrecords]
  · rw [Nat.add_comm]
    rfl

/-- Records that are read back from their own texts get one answer, be they in an array, on lines or
in a debug request, whether they are checked on several threads or not: themselves, each with the
outcome of its check. The command prints just that answer. Values that are no records, and lines
that are no JSON texts, are refused with nothing printed, and the first such line is named by its
number among all lines. -/
theorem records_agree (w : Surroundings) (synonymFile : Option String) (filter : String)
    {libs : Libraries} (hl : libs.CollectsInOrder) :
    (∀ records table, Synonyms.Provides w.files synonymFile table →
      (∀ r ∈ records, r.IsObject) → (∀ r ∈ records, r.depth + 2 ≤ Json.maxDepth) →
      (∀ r ∈ records, Json.read? r.compact = some r) →
      ∃ results, annotateAll (Filter.parse filter) table records = .ok results ∧
        Debug.respond w.files synonymFile (recordsRequest filter records).compact libs.causes =
          ⟨200, .object [("results", .array results)]⟩ ∧
        ∀ i text, ChecksRecords i w filter text synonymFile →
          text = (Json.array records).compact ∨ OnLines records text.toList →
          i.run w libs =
            .ok ⟨printLine (Json.object [("results", .array results)]).compact, true⟩) ∧
    (∀ i text items, ChecksRecords i w filter text synonymFile →
      Json.read? text = some (.array items) → (∃ v ∈ items, ¬ v.IsObject) →
      ∃ p, i.run w libs = .error p ∧ p.exitCode = 1 ∧
        ∃ v ∈ items, ¬ v.IsObject ∧ p = .notRecord v) ∧
    (∀ i text, ChecksRecords i w filter text synonymFile → IsLines text →
      (∃ line ∈ lines [] text.toList, IsMalformedLine line) →
      ∃ before line after p, lines [] text.toList = before ++ line :: after ∧
        (∀ l ∈ before, ¬ IsMalformedLine l) ∧ IsMalformedLine line ∧ i.run w libs = .error p ∧
        p.exitCode = 1 ∧
        p.message? =
          some ("CLI: Invalid JSON record on line " ++ toString (before.length + 1))) := by
  refine ⟨?_, ?_, ?_⟩
  · intro records table hp hobjects hdepth hread
    exact exists_results hl hobjects hdepth hread hp filter
  · intro i text items hi htext hitems
    obtain ⟨v, hmem, hv, hrun⟩ := run_of_not_record hl hi htext hitems
    exact ⟨.notRecord v, hrun, rfl, v, hmem, hv, rfl⟩
  · intro i text hi htext hlines
    exact run_of_malformed_line hi htext hlines

/-- A record after a line of spaces gets the answer that it gets in a debug request. -/
theorem records_agree_after_blank :
    Debug.respond (Files.empty.set "r" (.ofText " \n\x7b\"a\":\"b\"\x7d\r\n")) none
        (recordsRequest "a = 'b'" [.object [("a", .string "b")]]).compact =
      ⟨200, .object [("results", .array [.object [("a", .string "b"), ("result", .bool true)]])]⟩ ∧
    Invocation.run ⟨none, none, false, .records "a = 'b'" "r" false⟩
        ⟨Files.empty.set "r" (.ofText " \n\x7b\"a\":\"b\"\x7d\r\n"), .empty, []⟩ .plain =
      .ok ⟨printLine (Json.object
        [("results", .array [.object [("a", .string "b"), ("result", .bool true)]])]).compact,
        true⟩ := by
  have hagree := records_agree
    ⟨Files.empty.set "r" (.ofText " \n\x7b\"a\":\"b\"\x7d\r\n"), .empty, []⟩ none "a = 'b'"
    Libraries.plain_collectsInOrder
  obtain ⟨results, hresults, hrespond, hrun⟩ := hagree.1 [.object [("a", .string "b")]] _ .unset
    (by simp [Json.IsObject]) (by simp [Json.depth, Json.depthFields, Json.maxDepth])
    (by simpa using by cbv)
  have hannotated : annotateAll (Filter.parse "a = 'b'") .empty [.object [("a", .string "b")]] =
      .ok [.object [("a", .string "b"), ("result", .bool true)]] := by cbv
  obtain rfl := Except.ok.inj (hannotated.symm.trans hresults)
  have hname : isStandardInput "r" = false := by cbv
  have hchecks : ChecksRecords ⟨none, none, false, .records "a = 'b'" "r" false⟩
      ⟨Files.empty.set "r" (.ofText " \n\x7b\"a\":\"b\"\x7d\r\n"), .empty, []⟩ "a = 'b'"
      " \n\x7b\"a\":\"b\"\x7d\r\n" none :=
    ⟨⟨"r", false, rfl, by simp [readSource, hname]⟩, ⟨_, rfl, rfl⟩⟩
  have hblank : IsBlankLine [' '] := ⟨isBlankText_of_isSpace (by decide), by decide⟩
  have hlines : OnLines [.object [("a", .string "b")]]
      " \n\x7b\"a\":\"b\"\x7d\r\n".toList :=
    .blank (s := [' ']) (e := ['\n']) hblank (.inl rfl)
      (.record (e := ['\r', '\n']) (.inr rfl) (.lastBlank ⟨by decide, by decide⟩))
  exact ⟨hrespond, hrun _ _ hchecks (.inr hlines)⟩

end RecordFilter.CommandLine
